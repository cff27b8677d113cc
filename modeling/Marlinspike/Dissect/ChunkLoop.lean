import Mathlib.Data.List.Infix
import Marlinspike.Chunking
import Marlinspike.Dissect.Conservation

/-!
A capture dissected in chunks that `editcap` extracts, against one pass over all of it. The
loop takes a chunk in which no packet is counted for the end of the capture, and an
exception ends a pass but not the loop (`chunked_iff_single`).
-/
namespace Marlinspike.Dissect.ChunkLoop
open Marlinspike.Struct
open Marlinspike.Chunking
open Marlinspike.Dissect.Reader
open Marlinspike.Dissect.Files
open Marlinspike.Dissect.Agreement
open Marlinspike.Dissect.Lines

/-! ### The loop -/

/-- What the passes over a capture do, and over extracts of it. -/
structure Passes (Frame State : Type) where
  frames : List Frame
  whole : State → State
  extract : List Frame → State → State
  pktCount : State → Nat
  extract_nil : ∀ s, extract [] s = s

/-- Some of the frames, by their numbers. Past the end of the capture `editcap` writes no
    file, or one without frames. -/
def editcap {Frame : Type} (emptyFile : Bool) (frames : List Frame) (startFrame endFrame : Nat) : Option (List Frame) :=
  let part := (frames.drop (startFrame - 1)).take (endFrame - (startFrame - 1))
  if part = [] ∧ !emptyFile then none else some part

section Loop
variable {Frame State : Type} (passes : Passes Frame State) (emptyFile : Bool)

theorem editcap_past {frames : List Frame} {startFrame endFrame : Nat} (past : frames.length < startFrame) :
    editcap emptyFile frames startFrame endFrame = if emptyFile then some [] else none := by
  rw [editcap, List.drop_eq_nil_of_le (by omega), List.take_nil]
  cases emptyFile <;> rfl

/-- The loop, with the number of the chunk that it ends with. -/
def chunkLoop {chunkSize : Nat} (pos : 0 < chunkSize) (chunkNum : Nat) (s : State) : State × Nat :=
  let startFrame := (chunkNum + 1 - 1) * chunkSize + 1
  let endFrame := (chunkNum + 1) * chunkSize
  match extracted : editcap emptyFile passes.frames startFrame endFrame with
  | none => (s, chunkNum + 1)
  | some chunk =>
    let after := passes.extract chunk s
    if passes.pktCount after = passes.pktCount s then (after, chunkNum + 1)
    else chunkLoop pos (chunkNum + 1) after
termination_by passes.frames.length - chunkNum * chunkSize
decreasing_by
  rename_i more
  -- past the end no packet is counted
  have inside : chunkNum * chunkSize < passes.frames.length := by
    by_contra past
    rw [editcap_past emptyFile (show _ < startFrame by simp only [startFrame, Nat.add_sub_cancel]; omega)] at extracted
    cases emptyFile with
    | false => cases extracted
    | true =>
      cases extracted
      exact more (congrArg passes.pktCount (passes.extract_nil s))
  rw [Nat.succ_mul]
  omega

/-- `dissect`, up to the aggregation, and the number of the last chunk. -/
def dissect (chunkSize : Nat) (s : State) : State × Nat :=
  if pos : 0 < chunkSize then chunkLoop passes emptyFile pos 0 s else (passes.whole s, 0)

/-- The chunks leave what the single pass leaves, and the loop gets to the last of them. -/
def SameAsSingle (chunkSize : Nat) (s : State) : Prop :=
  (dissect passes emptyFile chunkSize s).1 = (dissect passes emptyFile 0 s).1 ∧
    (0 < chunkSize → Reaches chunkSize 0 (dissect passes emptyFile chunkSize s).2 passes.frames)

/-- The passes are those of a reader of frames. -/
structure ReadBy (reader : Chunking.Reader Frame State) : Prop where
  whole : ∀ s, passes.whole s = (Chunking.pass reader s passes.frames).1
  extract : ∀ part s, passes.extract part s = (Chunking.pass reader s part).1
  pktCount : ∀ s, passes.pktCount s = reader.count s

variable {chunkSize : Nat} (pos : 0 < chunkSize)

include pos in
theorem editcap_inside {frames : List Frame} {chunkNum : Nat} (inside : chunkNum * chunkSize < frames.length) :
    editcap emptyFile frames ((chunkNum + 1 - 1) * chunkSize + 1) ((chunkNum + 1) * chunkSize) =
      some ((frames.drop (chunkNum * chunkSize)).take chunkSize) := by
  have size : (chunkNum + 1) * chunkSize - chunkNum * chunkSize = chunkSize := by
    rw [Nat.succ_mul]
    omega
  have some_ : (frames.drop (chunkNum * chunkSize)).take chunkSize ≠ [] := by
    rw [← List.length_pos_iff, List.length_take, List.length_drop]
    omega
  rw [editcap, Nat.add_sub_cancel, Nat.add_sub_cancel, size, if_neg (fun none_ => some_ none_.1)]

theorem chunkLoop_past {chunkNum : Nat} (s : State) (past : passes.frames.length ≤ chunkNum * chunkSize) :
    chunkLoop passes emptyFile pos chunkNum s = (s, chunkNum + 1) := by
  have beyond : passes.frames.length < (chunkNum + 1 - 1) * chunkSize + 1 := by
    rw [Nat.add_sub_cancel]
    omega
  have extracted : editcap emptyFile passes.frames ((chunkNum + 1 - 1) * chunkSize + 1) ((chunkNum + 1) * chunkSize) =
      if emptyFile then some [] else none := editcap_past emptyFile beyond
  rw [chunkLoop]
  split
  · rfl
  · rename_i chunk found
    rw [extracted] at found
    cases emptyFile with
    | false => cases found
    | true =>
      cases found
      simp only [passes.extract_nil, if_pos]

theorem chunkLoop_inside {chunkNum : Nat} (s : State) (inside : chunkNum * chunkSize < passes.frames.length) :
    chunkLoop passes emptyFile pos chunkNum s =
      let after := passes.extract ((passes.frames.drop (chunkNum * chunkSize)).take chunkSize) s
      if passes.pktCount after = passes.pktCount s then (after, chunkNum + 1)
      else chunkLoop passes emptyFile pos (chunkNum + 1) after := by
  have extracted := editcap_inside emptyFile pos inside
  rw [chunkLoop]
  split
  · rename_i none_
    rw [extracted] at none_
    cases none_
  · rename_i chunk found
    obtain rfl := Option.some.inj (extracted.symm.trans found)
    rfl

variable {passes} {reader : Chunking.Reader Frame State} (readBy : ReadBy passes reader)
include readBy

theorem chunkLoop_eq (chunkNum : Nat) (s : State) : chunkLoop passes emptyFile pos chunkNum s =
    loop reader pos chunkNum s (passes.frames.drop (chunkNum * chunkSize)) := by
  induction left : passes.frames.length - chunkNum * chunkSize
    using Nat.strong_induction_on generalizing chunkNum s with
  | _ left_ ih =>
    by_cases past : passes.frames.length ≤ chunkNum * chunkSize
    · rw [chunkLoop_past passes emptyFile pos s past, List.drop_eq_nil_of_le past, loop, if_pos rfl]
    · have inside := Nat.lt_of_not_le past
      have some_ : passes.frames.drop (chunkNum * chunkSize) ≠ [] := by simpa using inside
      rw [chunkLoop_inside passes emptyFile pos s inside, loop, if_neg some_]
      simp only [readBy.extract, readBy.pktCount]
      split_ifs
      · rfl
      · rw [ih _ (by rw [Nat.succ_mul]; omega) (chunkNum + 1) _ rfl, List.drop_drop, Nat.succ_mul]

theorem sameAsSingle_iff
    (uniform : (∀ frame, reader.counts frame = true) ∨ ∀ s frame, (reader.step s frame).2 = true) (chunkSize : Nat)
    (s : State) : SameAsSingle passes emptyFile chunkSize s ↔
      (0 < chunkSize → Counted reader chunkSize passes.frames ∧ Uninterrupted reader chunkSize s passes.frames) := by
  unfold SameAsSingle dissect
  by_cases pos : 0 < chunkSize
  · have chunks := chunkLoop_eq emptyFile pos readBy 0 s
    rw [Nat.zero_mul, List.drop_zero] at chunks
    rw [dif_pos pos, dif_neg (Nat.lt_irrefl 0), chunks, readBy.whole]
    simpa [pos] using chunked_iff pos uniform 0 s passes.frames
  · rw [dif_neg pos, dif_neg (Nat.lt_irrefl 0)]
    simp [pos]

end Loop

/-! ### The reader of tshark's output -/

/-- The line of a frame: with a tab between two fields, it is never empty. -/
abbrev Line := { line : String // line ≠ "" }

/-- A time in seconds, or the text of one that is not a number. -/
inductive ArpTime where
  | epoch (seconds : Rat)
  | text (time : String)

structure ArpObservation where
  timestamp : ArpTime
  srcMac : String
  srcIp : String
  dstMac : String
  dstIp : String
  opcode : Option Nat
  isGratuitous : Option Bool

def arpObsCap : Nat := 10000

structure StreamState (Details : Type) where
  lines : LineState Details
  arpObservations : List ArpObservation
  arpObservationsTruncated : Bool

/-- What a pass reads from the fields of a packet, with what is left where that raises. The
    only conversion there is of a field of the packet. -/
structure InlineParsing (Details : Type) extends Parsing Details where
  raises : Fields → String → Bool
  left : Fields → String → Details → Details
  isNone_iff : ∀ fields protocol details,
    (parseInline fields protocol details).isNone = true ↔ raises fields protocol = true

section Tshark
variable {Details : Type} (tables : LineTables) (lower : String → String) (parsing : InlineParsing Details)
  (collapseThreshold : Nat)

def StreamState.start : StreamState Details := ⟨.start, [], false⟩

def arpTime (p : LinePacket) : ArpTime :=
  let epochRaw := field p.fields "frame.time_epoch"
  if epochRaw = "" then .text (field p.fields "frame.time")
  else (tables.float epochRaw).elim (.text (field p.fields "frame.time")) .epoch

def arpObservation (p : LinePacket) : ArpObservation :=
  let srcProto := field p.fields "arp.src.proto_ipv4"
  let dstProto := field p.fields "arp.dst.proto_ipv4"
  let opcodeRaw := field p.fields "arp.opcode"
  let gratRaw := lower (field p.fields "arp.isgratuitous")
  { timestamp := arpTime tables p
    srcMac := p.srcMac
    srcIp := orElse srcProto (orElse (field p.fields "ip.src") srcProto)
    dstMac := p.dstMac
    dstIp := orElse dstProto (orElse (field p.fields "ip.dst") dstProto)
    opcode := if opcodeRaw = "" then none else tables.int opcodeRaw
    isGratuitous :=
      if gratRaw = "1" ∨ gratRaw = "true" then some true
      else if gratRaw = "0" ∨ gratRaw = "false" then some false
      else none }

def observeArp (s : StreamState Details) (p : LinePacket) : StreamState Details :=
  if "arp".toList <:+: (lower (field p.fields "frame.protocols")).toList ∧ !s.arpObservationsTruncated then
    let observations := s.arpObservations ++ [arpObservation tables lower p]
    { s with
      arpObservations := observations
      arpObservationsTruncated := decide (arpObsCap ≤ observations.length) }
  else s

/-- A packet, counted in its conversation, and whether the pass goes on; where an exception
    ends it, what was written stays. -/
def countLine (s : StreamState Details) (p : LinePacket) : StreamState Details × Bool :=
  let (noted, key) := collapse collapseThreshold s.lines p
  let key := fold noted.convMap key
  let conv := (noted.convMap.get key).getD (LineConv.start parsing.toParsing)
  let written (conv : LineConv Details) : LineState Details := { noted with convMap := noted.convMap.set key conv }
  match frameLen tables p with
  | none => ({ s with lines := written { conv with packetCount := conv.packetCount + 1 } }, false)
  | some length =>
    let s := observeArp tables lower s p
    match parsing.parseInline p.fields p.protocol conv.details with
    | none =>
      ({ s with lines := written (conv.add tables p length (parsing.left p.fields p.protocol conv.details)) }, false)
    | some details => ({ s with lines := written (conv.add tables p length details) }, true)

def streamLine (s : StreamState Details) (line : Line) : StreamState Details × Bool :=
  let counted := { s with lines := { s.lines with pktCount := s.lines.pktCount + 1 } }
  match readPacket tables line with
  | none => (counted, false)
  | some none => ({ counted with lines := { counted.lines with skipped := s.lines.skipped + 1 } }, true)
  | some (some p) => countLine tables lower parsing collapseThreshold counted p

theorem countPacket_eq (s : StreamState Details) (p : LinePacket) :
    countPacket tables parsing.toParsing collapseThreshold s.lines p =
      if (countLine tables lower parsing collapseThreshold s p).2 then
        some (countLine tables lower parsing collapseThreshold s p).1.lines
      else none := by
  unfold countPacket countLine
  simp only
  split
  · rename_i noLength
    simp [noLength]
  · rename_i length found
    split
    · rename_i fails
      simp [found, fails]
    · rename_i details parsed
      simp [found, parsed]

/-- A line does what it does to the conversations, whatever else is kept of it. -/
theorem tsharkLine_eq (s : StreamState Details) (line : Line) :
    tsharkLine tables parsing.toParsing collapseThreshold s.lines line =
      if (streamLine tables lower parsing collapseThreshold s line).2 then
        some (streamLine tables lower parsing collapseThreshold s line).1.lines
      else none := by
  unfold tsharkLine streamLine
  rw [if_neg line.2]
  cases readPacket tables line with
  | none => rfl
  | some read =>
    cases read with
    | none => rfl
    | some p =>
      let counted := { s with lines := { s.lines with pktCount := s.lines.pktCount + 1 } }
      exact countPacket_eq tables lower parsing collapseThreshold counted p

/-- A conversion raises: of the ports, of the length, or of what is parsed inline. -/
def Raises (line : Line) : Prop :=
  match readPacket tables line with
  | none => True
  | some none => False
  | some (some p) => frameLen tables p = none ∨ parsing.raises p.fields p.protocol = true

theorem countLine_ends_iff (s : StreamState Details) (p : LinePacket) :
    (countLine tables lower parsing collapseThreshold s p).2 = false ↔
      frameLen tables p = none ∨ parsing.raises p.fields p.protocol = true := by
  unfold countLine
  simp only
  split
  · rename_i noLength
    simp [noLength]
  · rename_i length found
    split
    · rename_i fails
      have raises := (parsing.isNone_iff _ _ _).mp (Option.isNone_iff_eq_none.mpr fails)
      simp [raises]
    · rename_i details parsed
      have quiet : ¬parsing.raises p.fields p.protocol = true := by
        intro raises
        cases parsed.symm.trans (Option.isNone_iff_eq_none.mp ((parsing.isNone_iff _ _ _).mpr raises))
      simp [found, quiet]

theorem streamLine_ends_iff (s : StreamState Details) (line : Line) :
    (streamLine tables lower parsing collapseThreshold s line).2 = false ↔ Raises tables parsing line := by
  unfold streamLine Raises
  split
  · simp
  · simp
  · exact countLine_ends_iff tables lower parsing collapseThreshold _ _

theorem pktCount_countLine (s : StreamState Details) (p : LinePacket) :
    (countLine tables lower parsing collapseThreshold s p).1.lines.pktCount = s.lines.pktCount := by
  obtain ⟨kept, -, -⟩ := Conservation.collapse_kept collapseThreshold s.lines p
  unfold countLine
  simp only
  split
  · exact kept
  · split
    · exact kept
    · exact kept

theorem pktCount_streamLine (s : StreamState Details) (line : Line) :
    (streamLine tables lower parsing collapseThreshold s line).1.lines.pktCount = s.lines.pktCount + 1 := by
  unfold streamLine
  split
  · rfl
  · rfl
  · rw [pktCount_countLine]

def lineReader : Chunking.Reader Line (StreamState Details) where
  step := streamLine tables lower parsing collapseThreshold
  count s := s.lines.pktCount
  counts _ := true
  count_step := pktCount_streamLine tables lower parsing collapseThreshold
  counts_of_end _ _ _ := rfl

/-- `_run_tshark_pass`. -/
def runStream (lines : List Line) (s : StreamState Details) : StreamState Details :=
  (Chunking.pass (lineReader tables lower parsing collapseThreshold) s lines).1

def linePasses (lines : List Line) : Passes Line (StreamState Details) where
  frames := lines
  whole := runStream tables lower parsing collapseThreshold lines
  extract := runStream tables lower parsing collapseThreshold
  pktCount s := s.lines.pktCount
  extract_nil _ := rfl

theorem pass_on_iff (s : StreamState Details) (lines : List Line) :
    (Chunking.pass (lineReader tables lower parsing collapseThreshold) s lines).2 = true ↔
      ∀ line ∈ lines, ¬Raises tables parsing line := by
  induction lines generalizing s with
  | nil => simp [Chunking.pass]
  | cons line rest ih =>
    have ends := streamLine_ends_iff tables lower parsing collapseThreshold s line
    rw [Chunking.pass, List.forall_mem_cons, ← ends]
    split_ifs with on
    · rw [ih]
      exact (and_iff_right (by simpa [lineReader] using on)).symm
    · have ended : (streamLine tables lower parsing collapseThreshold s line).2 = false := by
        simpa [lineReader] using on
      simp [lineReader, ended]

/-- No line of a chunk before the last raises. -/
def QuietChunks (chunkSize : Nat) (lines : List Line) : Prop :=
  ∀ k, (k + 1) * chunkSize < lines.length → ∀ line ∈ chunk chunkSize k lines, ¬Raises tables parsing line

theorem lines_iff (emptyFile : Bool) (chunkSize : Nat) (lines : List Line) (s : StreamState Details) :
    SameAsSingle (linePasses tables lower parsing collapseThreshold lines) emptyFile chunkSize s ↔
      (0 < chunkSize → QuietChunks tables parsing chunkSize lines) := by
  have readBy : ReadBy (linePasses tables lower parsing collapseThreshold lines)
      (lineReader tables lower parsing collapseThreshold) := ⟨fun _ => rfl, fun _ _ => rfl, fun _ => rfl⟩
  rw [sameAsSingle_iff emptyFile readBy (.inl fun _ => rfl)]
  refine forall_congr' fun pos => ?_
  have counted : Counted (lineReader tables lower parsing collapseThreshold) chunkSize lines := by
    intro k more
    rw [Nat.succ_mul] at more
    obtain ⟨line, member⟩ := List.exists_mem_of_length_pos (l := chunk chunkSize k lines)
      (by rw [chunk, List.length_take, List.length_drop]; omega)
    exact ⟨line, member, rfl⟩
  rw [and_iff_right (show Counted _ _ (linePasses tables lower parsing collapseThreshold lines).frames from counted),
    QuietChunks, ← forall_chunks_iff]
  simp only [Uninterrupted, pass_on_iff]
  rfl

end Tshark

/-! ### The built-in reader -/

section Builtin
variable (ports : Ports)

theorem pktCount_processPacket (s : PassState) (packet : Packet) :
    (processPacket ports s packet).pktCount = s.pktCount + 1 := pktCount_foldl ports [packet] s

/-- The reader, when it sees a packet in some of the frames. -/
def packetReader {Frame : Type} (view : Frame → Option Packet) : Chunking.Reader Frame PassState where
  step s frame := ((view frame).elim s (processPacket ports s), true)
  count := PassState.pktCount
  counts frame := (view frame).isSome
  count_step s frame := by
    cases view frame with
    | none => rfl
    | some packet => exact pktCount_processPacket ports s packet
  counts_of_end s frame ended := by cases ended

section View
variable {Frame : Type} (view : Frame → Option Packet)

theorem pass_packetReader (s : PassState) (frames : List Frame) :
    (Chunking.pass (packetReader ports view) s frames).1 = (frames.filterMap view).foldl (processPacket ports) s := by
  induction frames generalizing s with
  | nil => rfl
  | cons frame rest ih =>
    have on : ((packetReader ports view).step s frame).2 = true := rfl
    rw [Chunking.pass, if_pos on, ih, List.filterMap_cons]
    cases seen : view frame with
    | none => simp [packetReader, seen]
    | some packet => simp [packetReader, seen]

theorem builtin_iff {passes : Passes Frame PassState} (readBy : ReadBy passes (packetReader ports view))
    (emptyFile : Bool) (chunkSize : Nat) (s : PassState) : SameAsSingle passes emptyFile chunkSize s ↔
      (0 < chunkSize → Counted (packetReader ports view) chunkSize passes.frames) := by
  rw [sameAsSingle_iff emptyFile readBy (.inr fun _ _ => rfl)]
  refine forall_congr' fun _ => and_iff_left ?_
  intro k _
  exact pass_on (fun _ _ => rfl) s _

end View

/-! Classic captures: the records are the frames. -/

/-- The packet of a record; one of no bytes, or of more than 65535, is passed over. -/
def recordPacket (divisor : Nat) (r : Record) : Option Packet :=
  if r.Taken then some (r.data, r.ts divisor) else none

theorem runPurePythonPass_pcap (file : Pcap) (s : PassState) : runPurePythonPass ports file.encode s =
    (Chunking.pass (packetReader ports (recordPacket file.tsDivisor)) s file.records).1 := by
  have packets : (file.records.filter (Record.Taken ·)).map (fun r => (r.data, r.ts file.tsDivisor)) =
      file.records.filterMap (recordPacket file.tsDivisor) := by
    induction file.records with
    | nil => rfl
    | cons r rest ih =>
      by_cases taken : r.Taken
      · simp [recordPacket, taken, ih]
      · simp [recordPacket, taken, ih]
  rw [runPurePythonPass, packetsOf_pcap, recordPackets_records, packets, pass_packetReader]

def pcapPasses (file : Pcap) : Passes Record PassState where
  frames := file.records
  whole := runPurePythonPass ports file.encode
  extract part := runPurePythonPass ports ({ file with records := part } : Pcap).encode
  pktCount := PassState.pktCount
  extract_nil s := runPurePythonPass_pcap ports { file with records := [] } s

theorem pcap_readBy (file : Pcap) :
    ReadBy (pcapPasses ports file) (packetReader ports (recordPacket file.tsDivisor)) where
  whole := runPurePythonPass_pcap ports file
  extract part := runPurePythonPass_pcap ports { file with records := part }
  pktCount _ := rfl

theorem pcap_counted_iff (file : Pcap) (chunkSize : Nat) :
    Counted (packetReader ports (recordPacket file.tsDivisor)) chunkSize file.records ↔
      ∀ k, (k + 1) * chunkSize < file.records.length → ∃ r ∈ chunk chunkSize k file.records, r.Taken := by
  simp [Counted, packetReader, recordPacket]

/-! Block captures: the frames are the packet blocks, and the other blocks stay. -/

/-- A block that holds a packet: enhanced, simple, or of the obsolete kind. -/
def IsFrame (b : Block) : Prop := b.blockType.toNat = 6 ∨ b.blockType.toNat = 3 ∨ b.blockType.toNat = 2

instance (b : Block) : Decidable (IsFrame b) := inferInstanceAs (Decidable (_ ∨ _))

/-- The packet of a block; only enhanced ones are read. -/
def blockPacket (endian : Endian) (b : Block) : Option Packet := enhancedPacket endian b.blockType.toNat b.body

theorem blockPacket_eq_none {endian : Endian} {b : Block} (other : ¬IsFrame b) : blockPacket endian b = none := by
  unfold IsFrame at other
  rw [blockPacket, enhancedPacket, if_neg (by omega)]

theorem filterMap_frames (endian : Endian) (blocks : List Block) :
    (blocks.filter (IsFrame ·)).filterMap (blockPacket endian) = blocks.filterMap (blockPacket endian) := by
  induction blocks with
  | nil => rfl
  | cons b rest ih =>
    by_cases frame : IsFrame b
    · simp [frame, List.filterMap_cons, ih]
    · simp [frame, blockPacket_eq_none frame, ih]

theorem filterMap_others (endian : Endian) (blocks : List Block) :
    (blocks.filter (¬IsFrame ·)).filterMap (blockPacket endian) = [] := by
  rw [List.filterMap_eq_nil_iff]
  intro b member
  exact blockPacket_eq_none (by simpa using (List.mem_filter.mp member).2)

/-- The file of some packet blocks of a capture. -/
def framesFile (file : Pcapng) (part : List Block) : Pcapng :=
  { file with blocks := file.blocks.filter (¬IsFrame ·) ++ part }

theorem runPurePythonPass_pcapng (file : Pcapng) (aligned : lengthRead file = file.sectionLength) (s : PassState) :
    runPurePythonPass ports file.encode s =
      (file.blocks.filterMap (blockPacket file.endian)).foldl (processPacket ports) s := by
  rw [runPurePythonPass, packetsOf_pcapng, aligned, drop_section, blocksFrom_blocks, List.filterMap_map]
  rfl

theorem runPurePythonPass_frames (file : Pcapng) (aligned : lengthRead file = file.sectionLength) (part : List Block)
    (s : PassState) : runPurePythonPass ports (framesFile file part).encode s =
      (part.filterMap (blockPacket file.endian)).foldl (processPacket ports) s := by
  rw [runPurePythonPass_pcapng ports (framesFile file part) aligned, framesFile, List.filterMap_append,
    filterMap_others]
  rfl

def pcapngPasses (file : Pcapng) (aligned : lengthRead file = file.sectionLength) : Passes Block PassState where
  frames := file.blocks.filter (IsFrame ·)
  whole := runPurePythonPass ports file.encode
  extract part := runPurePythonPass ports (framesFile file part).encode
  pktCount := PassState.pktCount
  extract_nil s := runPurePythonPass_frames ports file aligned [] s

theorem pcapng_readBy (file : Pcapng) (aligned : lengthRead file = file.sectionLength) :
    ReadBy (pcapngPasses ports file aligned) (packetReader ports (blockPacket file.endian)) where
  whole s := by
    rw [pass_packetReader]
    exact (runPurePythonPass_pcapng ports file aligned s).trans (by rw [pcapngPasses, filterMap_frames])
  extract part s := (runPurePythonPass_frames ports file aligned part s).trans (pass_packetReader ..).symm
  pktCount _ := rfl

theorem pcapng_counted_iff (endian : Endian) (frames : List Block) (chunkSize : Nat) :
    Counted (packetReader ports (blockPacket endian)) chunkSize frames ↔
      ∀ k, (k + 1) * chunkSize < frames.length → ∃ b ∈ chunk chunkSize k frames, Enhanced b := by
  simp [Counted, packetReader, blockPacket, enhancedPacket, Enhanced, Header.blockEpb]

end Builtin

/-! ### Both readers -/

/-- A stream of packets: what tshark prints of it, or a capture that the built-in reader
    reads from its first record or block on. -/
inductive Stream where
  | lines (frames : List Line)
  | pcap (file : Pcap)
  | pcapng (file : Pcapng) (aligned : lengthRead file = file.sectionLength)

section Streams
variable {Details : Type} (tables : LineTables) (lower : String → String) (parsing : InlineParsing Details)
  (collapseThreshold : Nat)

def PassState.start : PassState := ⟨0, 0, PyDict.empty⟩

/-- The chunks of a stream leave what the single pass leaves, and none is left out. -/
def SameStream (emptyFile : Bool) (chunkSize : Nat) : Stream → Prop
  | .lines frames =>
    SameAsSingle (linePasses tables lower parsing collapseThreshold frames) emptyFile chunkSize .start
  | .pcap file => SameAsSingle (pcapPasses tables.ports file) emptyFile chunkSize PassState.start
  | .pcapng file aligned => SameAsSingle (pcapngPasses tables.ports file aligned) emptyFile chunkSize PassState.start

/-- Every chunk but the last is read to its end, and has a packet that is counted. -/
def Resumable (chunkSize : Nat) : Stream → Prop
  | .lines frames => QuietChunks tables parsing chunkSize frames
  | .pcap file => ∀ k, (k + 1) * chunkSize < file.records.length → ∃ r ∈ chunk chunkSize k file.records, r.Taken
  | .pcapng file _ => ∀ k, (k + 1) * chunkSize < (file.blocks.filter (IsFrame ·)).length →
      ∃ b ∈ chunk chunkSize k (file.blocks.filter (IsFrame ·)), Enhanced b

theorem chunked_iff_single (emptyFile : Bool) (chunkSize : Nat) (stream : Stream) :
    SameStream tables lower parsing collapseThreshold emptyFile chunkSize stream ↔
      (0 < chunkSize → Resumable tables parsing chunkSize stream) := by
  cases stream with
  | lines frames => exact lines_iff tables lower parsing collapseThreshold emptyFile chunkSize frames .start
  | pcap file =>
    refine (builtin_iff tables.ports _ (pcap_readBy tables.ports file) emptyFile chunkSize _).trans ?_
    exact forall_congr' fun _ => pcap_counted_iff tables.ports file chunkSize
  | pcapng file aligned =>
    refine (builtin_iff tables.ports _ (pcapng_readBy tables.ports file aligned) emptyFile chunkSize _).trans ?_
    exact forall_congr' fun _ => pcapng_counted_iff tables.ports file.endian _ chunkSize

end Streams

/-- A capture of a packet of which nothing was captured, and one of 14 bytes. -/
def emptyRecordFirst : Pcap where
  endian := .little
  nanoseconds := false
  versionMajor := 2
  versionMinor := 4
  thiszone := 0
  sigfigs := 0
  snaplen := 65535
  network := 1
  records := [⟨0, 0, 60, [], by decide⟩, ⟨1, 0, 14, List.replicate 14 0, by decide⟩]

def noPorts : Ports := ⟨fun _ => none, fun _ => none⟩

/-- Chunk 1 counts nothing, and the packet of chunk 2 is never read. -/
theorem empty_record_ends : ¬SameAsSingle (pcapPasses noPorts emptyRecordFirst) false 1 PassState.start := by
  rintro ⟨same, -⟩
  have chunked : (dissect (pcapPasses noPorts emptyRecordFirst) false 1 PassState.start).1.pktCount = 0 := by
    decide +kernel
  have single : (dissect (pcapPasses noPorts emptyRecordFirst) false 0 PassState.start).1.pktCount = 1 := by
    decide +kernel
  rw [same, single] at chunked
  cases chunked

end Marlinspike.Dissect.ChunkLoop
