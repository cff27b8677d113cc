import Mathlib.Tactic.FieldSimp
import Mathlib.Tactic.Linarith
import Mathlib.Data.Rat.Cast.Order
import Marlinspike.Dissect.Files

/-!
The packets that the two readers of captures see, and the times they give them: which files
make the same packets of them (`same_packets_iff`).
-/
namespace Marlinspike.Dissect.Agreement
open Marlinspike.Struct
open Marlinspike.Dissect.Header
open Marlinspike.Dissect.Reader
open Marlinspike.Dissect.Files

theorem foldl_packet (seen : Seen) (times : List Rat) : times.foldl Seen.packet seen =
    ⟨seen.packetCount + times.length, seen.firstTs.or times.head?, times.getLast?.or seen.lastTs⟩ := by
  induction times generalizing seen with
  | nil => simp
  | cons ts rest ih =>
    have last : (rest.getLast?).or (some ts) = ((ts :: rest).getLast?).or seen.lastTs := by
      rw [List.getLast?_cons]
      cases rest.getLast? <;> rfl
    have first : (some (seen.firstTs.getD ts)).or rest.head? = seen.firstTs.or (ts :: rest).head? := by
      cases seen.firstTs <;> rfl
    rw [List.foldl_cons, ih, List.length_cons, ← last, ← first]
    simp only [Seen.packet, Nat.add_assoc, Nat.add_comm 1]

theorem pktCount_foldl (ports : Ports) (packets : List Packet) (s : PassState) :
    (packets.foldl (processPacket ports) s).pktCount = s.pktCount + packets.length := by
  induction packets generalizing s with
  | nil => rfl
  | cons packet rest ih =>
    have one : (processPacket ports s packet).pktCount = s.pktCount + 1 := by
      unfold processPacket
      simp only
      split_ifs
      · rfl
      · split <;> rfl
    rw [List.foldl_cons, ih, one, List.length_cons]
    omega

/-- The pass counts as many packets as the summary, and gives the first and the last of them
    the summary's times. -/
def SamePackets (ports : Ports) (file : Bytes) : Prop :=
  ∃ summary, readCaptureSummary file = .ok summary ∧
    (∀ s, (runPurePythonPass ports file s).pktCount = s.pktCount + summary.packetCount) ∧
    (packetsOf file).head?.map Prod.snd = summary.startTs ∧
    (packetsOf file).getLast?.map Prod.snd = summary.endTs

/-- What the summary and the times have to do with each other. -/
def Matches (summary : CaptureSummary) (times : List Rat) : Prop :=
  times.length = summary.packetCount ∧ times.head? = summary.startTs ∧ times.getLast? = summary.endTs

theorem samePackets_iff_matches (ports : Ports) (file : Bytes) : SamePackets ports file ↔
    ∃ summary, readCaptureSummary file = .ok summary ∧ Matches summary ((packetsOf file).map Prod.snd) := by
  unfold SamePackets Matches
  simp only [runPurePythonPass, pktCount_foldl, Nat.add_left_cancel_iff, List.length_map, List.head?_map,
    List.getLast?_map]
  constructor
  · rintro ⟨summary, read, count, times⟩
    exact ⟨summary, read, count ⟨0, 0, PyDict.empty⟩, times⟩
  · rintro ⟨summary, read, count, times⟩
    exact ⟨summary, read, fun _ => count, times⟩

/-! ### Classic captures -/

section Classic
variable (file : Pcap)

theorem pcapFormat_magic :
    pcapFormat (value .little (pack file.endian 4 file.magic)) = some (file.endian, file.tsDivisor) := by
  unfold Pcap.magic Pcap.tsDivisor
  cases file.endian <;> cases file.nanoseconds <;> rfl

theorem take_magic : file.encode.take 4 = pack file.endian 4 file.magic := List.take_left' (length_pack ..)

theorem magic_ne_section : value .big (pack file.endian 4 file.magic) ≠ blockShb := by
  unfold Pcap.magic
  cases file.endian <;> cases file.nanoseconds <;> decide

theorem header_le : 24 ≤ file.encode.length := by
  simp [Pcap.encode]
  omega

theorem drop_header : file.encode.drop 24 = file.records.flatMap (Record.encode file.endian) := by
  unfold Pcap.encode
  iterate 7 rw [drop_after (by omega)]
  rfl

/-- The summary of what the header reader has seen. -/
def pcapSummary (seen : Seen) : CaptureSummary where
  packetCount := seen.packetCount
  durationSeconds := seen.duration
  startTs := seen.firstTs
  endTs := seen.lastTs
  linkType := linktypeName (uintAt file.endian (file.encode.take 24) 20 4)
  snaplen := uintAt file.endian (file.encode.take 24) 16 4
  format := .pcap

theorem readCaptureSummary_pcap : readCaptureSummary file.encode =
    match readRecords file.endian file.tsDivisor (uintAt file.endian (file.encode.take 24) 16 4)
      (file.records.flatMap (Record.encode file.endian)) .none with
    | .error error => .error error
    | .ok seen => .ok (pcapSummary file seen) := by
  have long := header_le file
  unfold readCaptureSummary readPcap
  simp only [List.take_take, take_magic, length_pack]
  rw [if_neg (by omega), if_neg (magic_ne_section file), if_neg (by rw [List.length_take]; omega),
    show min 4 24 = 4 from rfl, take_magic, pcapFormat_magic, drop_header]
  rfl

theorem packetsOf_pcap : packetsOf file.encode =
    recordPackets file.endian file.tsDivisor (file.records.flatMap (Record.encode file.endian)) := by
  have long := header_le file
  unfold packetsOf
  simp only [take_magic, length_pack, drop_header]
  rw [if_neg (by omega), if_neg (show _ ≠ 0x0A0D0D0A from magic_ne_section file), if_pos, if_pos (by rw [List.length_take]; omega)]
  · unfold Pcap.magic Pcap.tsDivisor
    cases file.endian <;> cases file.nanoseconds <;> rfl
  · unfold Pcap.magic
    cases file.endian <;> cases file.nanoseconds <;> decide

/-- Of a classic capture, the readers make the same packets if none is empty or longer than
    65535 bytes. -/
theorem pcap_iff : (∃ summary, readCaptureSummary file.encode = .ok summary ∧
    Matches summary ((packetsOf file.encode).map Prod.snd)) ↔ ∀ r ∈ file.records, r.Taken := by
  rw [readCaptureSummary_pcap, packetsOf_pcap, recordPackets_records, List.map_map]
  have walked := readRecords_records file.endian file.tsDivisor
    (uintAt file.endian (file.encode.take 24) 16 4) file.records .none
  constructor
  · rintro ⟨summary, read, count, -⟩
    rcases walked with ok | ⟨_, _, _, failed⟩
    · rw [ok] at read
      cases read
      rw [pcapSummary, foldl_packet] at count
      simp only [Seen.none, List.length_map, Nat.zero_add] at count
      simpa using List.length_filter_eq_length_iff.mp count
    · rw [failed] at read
      cases read
  · intro taken
    rcases walked with ok | ⟨r, member, absurd_, -⟩
    · rw [ok, List.filter_eq_self.mpr fun r member => decide_eq_true (taken r member), foldl_packet]
      refine ⟨_, rfl, ?_⟩
      simp [Matches, pcapSummary, Seen.none, Function.comp_def]
    · have short := (taken r member).2
      have long := absurd_.2
      omega

end Classic

/-! ### Block captures, block by block -/

section Blocks
variable (endian : Endian)

/-- An Enhanced Packet Block, the one kind of block that bears a packet and its time. -/
def Enhanced (b : Block) : Prop := b.blockType.toNat = blockEpb ∧ 20 ≤ b.body.length

/-- A Simple Packet Block, with a packet and no time. -/
def Simple (b : Block) : Prop := b.blockType.toNat = blockSpb

/-- An Interface Description Block. -/
def Interface (b : Block) : Prop := b.blockType.toNat = blockIdb ∧ 8 ≤ b.body.length

instance (b : Block) : Decidable (Enhanced b) := inferInstanceAs (Decidable (_ ∧ _))
instance (b : Block) : Decidable (Simple b) := inferInstanceAs (Decidable (_ = _))
instance (b : Block) : Decidable (Interface b) := inferInstanceAs (Decidable (_ ∧ _))

/-- What the header reader finds for the resolution of an interface: it looks at the first
    4096 bytes of the block. -/
def scanned (b : Block) : Except SummaryError Nat := scanOptions endian (b.body.take 4096) 8 1000000

/-- The header reader does not fail on the block. -/
def Readable (b : Block) : Prop := Interface b → ∃ resolution, scanned endian b = .ok resolution

def interfaceResolution (b : Block) : Option Nat := if Interface b then (scanned endian b).toOption else none

/-- The resolutions of the interfaces that the blocks describe. -/
def resolutions (blocks : List Block) : List Nat := blocks.filterMap (interfaceResolution endian)

/-- The resolution of a packet's interface, as the blocks before it describe it. -/
def resolution (described : List Nat) (b : Block) : Nat := described.getD (uintAt endian b.body 0 4) 1000000

/-- The time of a packet in units of its interface. -/
def units (b : Block) : Nat := tsRaw endian b.body 4

def stamp (described : List Nat) (b : Block) : Option Rat :=
  if Enhanced b then some ((units endian b : Rat) / resolution endian described b) else none

/-- The times of the packets, with the resolutions that are described. -/
def stamps (described : List Nat) : List Block → List Rat
  | [] => []
  | b :: rest =>
    (stamp endian described b).toList ++ stamps (described ++ (interfaceResolution endian b).toList) rest

/-- The times of the packets, all taken for microseconds. -/
def micros (blocks : List Block) : List Rat :=
  (blocks.filter (Enhanced ·)).map fun b => (units endian b : Rat) / 1000000

variable {endian}

theorem inspected_enhanced {b : Block} (enhanced : Enhanced b) (s : Section) :
    inspectBlock endian s b = .ok { s with
      seen := s.seen.packet ((units endian b : Rat) / resolution endian s.resolutions b) } := by
  obtain ⟨type, long⟩ := enhanced
  have length : readLength blockEpb b.body.length = 20 := by
    rw [readLength, if_neg (by decide), if_pos rfl, min_eq_right long]
  unfold inspectBlock
  rw [type, length, inspect, if_neg (by decide), if_pos rfl, if_pos (by rw [List.length_take]; omega)]
  simp only [tsRaw, uintAt_take (show 0 + 4 ≤ 20 by decide), uintAt_take (show 4 + 4 ≤ 20 by decide),
    uintAt_take (show 4 + 4 + 4 ≤ 20 by decide)]
  rfl

theorem inspected_interface {b : Block} (interface : Interface b) (s : Section) :
    inspectBlock endian s b = match scanned endian b with
      | .error error => .error error
      | .ok resolution => .ok
        { s with
          linktypes := s.linktypes ++ [uintAt endian b.body 0 2]
          resolutions := s.resolutions ++ [resolution]
          snaplenMax := max s.snaplenMax (uintAt endian b.body 4 4) } := by
  obtain ⟨type, long⟩ := interface
  have body : b.body.take (readLength blockIdb b.body.length) = b.body.take 4096 := by
    rw [readLength, if_pos rfl, min_comm, ← List.take_eq_take_min]
  unfold inspectBlock
  rw [type, body, inspect, if_pos rfl, inspectInterface, if_pos (by rw [List.length_take]; omega),
    uintAt_take (show 0 + 2 ≤ 4096 by decide), uintAt_take (show 4 + 4 ≤ 4096 by decide)]
  rfl

theorem inspected_other {b : Block} (plain : ¬Enhanced b) (other : ¬Interface b) (s : Section) :
    inspectBlock endian s b = .ok (if Simple b then
      { s with seen := { s.seen with packetCount := s.seen.packetCount + 1 } } else s) := by
  have whole := readLength_le b.blockType.toNat b.body.length
  unfold inspectBlock inspect
  by_cases idb : b.blockType.toNat = blockIdb
  · have short : b.body.length < 8 := not_le.mp fun long => other ⟨idb, long⟩
    rw [if_pos idb, inspectInterface, if_neg (by rw [List.length_take]; omega), if_neg (by rw [Simple, idb]; decide)]
  rw [if_neg idb]
  by_cases epb : b.blockType.toNat = blockEpb
  · have short : b.body.length < 20 := not_le.mp fun long => plain ⟨epb, long⟩
    rw [if_pos epb, if_neg (by rw [List.length_take]; omega), if_neg (by rw [Simple, epb]; decide)]
  rw [if_neg epb]
  by_cases pb : b.blockType.toNat = blockPb
  · -- no more than twelve bytes of a Packet Block are ever read
    have read : readLength b.blockType.toNat b.body.length ≤ 12 := by
      rw [pb, readLength, if_neg (by decide), if_neg (by decide), if_pos rfl]
      exact min_le_right _ _
    rw [if_pos pb, if_neg (by rw [List.length_take]; omega), if_neg (by rw [Simple, pb]; decide)]
  rw [if_neg pb]
  by_cases spb : b.blockType.toNat = blockSpb
  · rw [if_pos spb, if_pos (show Simple b from spb)]
  · rw [if_neg spb, if_neg (show ¬Simple b from spb)]

theorem readable_of_inspected {b : Block} {s t : Section} (inspected : inspectBlock endian s b = .ok t) :
    Readable endian b := by
  intro interface
  rw [inspected_interface interface] at inspected
  cases scan : scanned endian b with
  | error error =>
    rw [scan] at inspected
    cases inspected
  | ok resolution => exact ⟨resolution, rfl⟩

/-- What the header reader has after a block. -/
theorem inspected_readable {b : Block} (readable : Readable endian b) (s : Section) :
    ∃ t, inspectBlock endian s b = .ok t ∧
      t.resolutions = s.resolutions ++ (interfaceResolution endian b).toList ∧
      t.seen = ((stamp endian s.resolutions b).toList.foldl Seen.packet
        { s.seen with packetCount := s.seen.packetCount + if Simple b then 1 else 0 }) := by
  by_cases interface : Interface b
  · obtain ⟨resolution, scan⟩ := readable interface
    have plain : ¬Enhanced b := by rintro ⟨epb, -⟩; rw [interface.1] at epb; cases epb
    have complex : ¬Simple b := by intro spb; rw [Simple, interface.1] at spb; cases spb
    rw [inspected_interface interface, scan]
    refine ⟨_, rfl, ?_, ?_⟩
    · rw [interfaceResolution, if_pos interface, scan]
      rfl
    · rw [stamp, if_neg plain, if_neg complex]
      rfl
  by_cases enhanced : Enhanced b
  · have complex : ¬Simple b := by intro spb; rw [Simple, enhanced.1] at spb; cases spb
    rw [inspected_enhanced enhanced]
    refine ⟨_, rfl, ?_, ?_⟩
    · rw [interfaceResolution, if_neg interface]
      simp
    · rw [stamp, if_pos enhanced, if_neg complex]
      rfl
  · rw [inspected_other enhanced interface]
    refine ⟨_, rfl, ?_, ?_⟩
    · rw [interfaceResolution, if_neg interface]
      split_ifs <;> simp
    · rw [stamp, if_neg enhanced]
      split_ifs <;> rfl

/-- What the header reader has after all blocks. -/
theorem inspected_all {blocks : List Block} (readable : ∀ b ∈ blocks, Readable endian b) (s : Section) :
    ∃ t, blocks.foldlM (inspectBlock endian) s = .ok t ∧
      t.seen = (stamps endian s.resolutions blocks).foldl Seen.packet
        { s.seen with packetCount := s.seen.packetCount + blocks.countP (Simple ·) } := by
  induction blocks generalizing s with
  | nil => exact ⟨s, rfl, rfl⟩
  | cons b rest ih =>
    obtain ⟨next, inspected, described, seen⟩ := inspected_readable (readable b List.mem_cons_self) s
    obtain ⟨t, walked, all⟩ := ih (fun other member => readable other (List.mem_cons_of_mem _ member)) next
    refine ⟨t, ?_, ?_⟩
    · rw [List.foldlM_cons, inspected]
      exact walked
    · rw [all, seen, described, stamps]
      simp only [foldl_packet, List.length_append, List.head?_append, List.getLast?_append, List.countP_cons,
        decide_eq_true_eq, Option.or_assoc, Seen.mk.injEq, and_true]
      omega

theorem readable_of_all {blocks : List Block} {s t : Section}
    (walked : blocks.foldlM (inspectBlock endian) s = .ok t) : ∀ b ∈ blocks, Readable endian b := by
  induction blocks generalizing s with
  | nil => simp
  | cons b rest ih =>
    rw [List.foldlM_cons] at walked
    cases inspected : inspectBlock endian s b with
    | error error =>
      rw [inspected] at walked
      cases walked
    | ok next =>
      rw [inspected] at walked
      intro other member
      rcases List.mem_cons.mp member with rfl | later
      · exact readable_of_inspected inspected
      · exact ih walked other later

theorem times_blocks (blocks : List Block) : ((blocks.map fun b => (b.blockType.toNat, b.body)).filterMap
    fun block => enhancedPacket endian block.1 block.2).map Prod.snd = micros endian blocks := by
  induction blocks with
  | nil => rfl
  | cons b rest ih =>
    rw [List.map_cons, List.filterMap_cons, micros, List.filter_cons]
    by_cases enhanced : Enhanced b
    · rw [enhancedPacket, if_pos (show b.blockType.toNat = 6 ∧ 20 ≤ b.body.length from enhanced),
        if_pos (decide_eq_true enhanced), List.map_cons, List.map_cons, ih]
      rfl
    · rw [enhancedPacket, if_neg (show ¬(b.blockType.toNat = 6 ∧ 20 ≤ b.body.length) from enhanced),
        if_neg (by simpa using enhanced), ih]
      rfl

theorem length_stamps (described : List Nat) (blocks : List Block) :
    (stamps endian described blocks).length = (micros endian blocks).length := by
  induction blocks generalizing described with
  | nil => rfl
  | cons b rest ih =>
    rw [stamps, List.length_append, ih, micros, micros, List.filter_cons, stamp]
    by_cases enhanced : Enhanced b
    · simp [enhanced, Nat.add_comm]
    · simp [enhanced]

theorem stamps_append (described : List Nat) (first second : List Block) :
    stamps endian described (first ++ second) =
      stamps endian described first ++ stamps endian (described ++ resolutions endian first) second := by
  induction first generalizing described with
  | nil => simp [stamps, resolutions]
  | cons b rest ih =>
    have more : resolutions endian (b :: rest) = (interfaceResolution endian b).toList ++ resolutions endian rest := by
      rw [resolutions, List.filterMap_cons]
      cases interfaceResolution endian b <;> rfl
    rw [List.cons_append, stamps, ih, stamps, more, List.append_assoc, List.append_assoc]

theorem micros_append (first second : List Block) :
    micros endian (first ++ second) = micros endian first ++ micros endian second := by
  simp [micros]

theorem micros_eq_nil {blocks : List Block} (none_ : ∀ b ∈ blocks, ¬Enhanced b) : micros endian blocks = [] := by
  simpa [micros] using none_

theorem stamps_eq_nil {blocks : List Block} (described : List Nat) (none_ : ∀ b ∈ blocks, ¬Enhanced b) :
    stamps endian described blocks = [] := by
  rw [← List.length_eq_zero_iff, length_stamps, micros_eq_nil none_]
  rfl

section Packet
variable {before after : List Block} {b : Block} (enhanced : Enhanced b)
include enhanced

/-- The two times of a packet. -/
theorem stamps_split : stamps endian [] (before ++ b :: after) = stamps endian [] before ++
    ((units endian b : Rat) / resolution endian (resolutions endian before) b) ::
      stamps endian (resolutions endian before ++ (interfaceResolution endian b).toList) after := by
  rw [stamps_append, stamps, stamp, if_pos enhanced]
  rfl

theorem micros_split : micros endian (before ++ b :: after) =
    micros endian before ++ ((units endian b : Rat) / 1000000) :: micros endian after := by
  rw [micros_append, micros, micros, micros, List.filter_cons, if_pos (decide_eq_true enhanced), List.map_cons]

theorem heads_iff (none_ : ∀ other ∈ before, ¬Enhanced other) :
    (micros endian (before ++ b :: after)).head? = (stamps endian [] (before ++ b :: after)).head? ↔
      (units endian b : Rat) / 1000000 = (units endian b : Rat) / resolution endian (resolutions endian before) b := by
  rw [stamps_split enhanced, micros_split enhanced, micros_eq_nil none_, stamps_eq_nil _ none_]
  simp

theorem lasts_iff (none_ : ∀ other ∈ after, ¬Enhanced other) :
    (micros endian (before ++ b :: after)).getLast? = (stamps endian [] (before ++ b :: after)).getLast? ↔
      (units endian b : Rat) / 1000000 = (units endian b : Rat) / resolution endian (resolutions endian before) b := by
  rw [stamps_split enhanced, micros_split enhanced, micros_eq_nil none_, stamps_eq_nil _ none_]
  simp

end Packet

variable (endian) in
/-- The first and the last packet are stamped in microseconds, or at zero. -/
def Microseconds (blocks : List Block) : Prop :=
  ∀ before b after, blocks = before ++ b :: after → Enhanced b →
    ((∀ other ∈ before, ¬Enhanced other) ∨ ∀ other ∈ after, ¬Enhanced other) →
    units endian b = 0 ∨ resolution endian (resolutions endian before) b = 1000000

theorem div_micro_iff (units resolution : Nat) :
    (units : Rat) / 1000000 = (units : Rat) / resolution ↔ units = 0 ∨ resolution = 1000000 := by
  by_cases zero : units = 0
  · simp [zero]
  · have nonzero : (units : Rat) ≠ 0 := by exact_mod_cast zero
    rw [div_eq_mul_inv, div_eq_mul_inv, mul_right_inj' nonzero, inv_inj, or_iff_right zero]
    constructor
    · intro same
      exact_mod_cast same.symm
    · intro same
      rw [same]
      norm_num

theorem exists_first_enhanced {blocks : List Block} (some_ : ∃ b ∈ blocks, Enhanced b) :
    ∃ before b after, blocks = before ++ b :: after ∧ Enhanced b ∧ ∀ other ∈ before, ¬Enhanced other := by
  obtain ⟨b, found⟩ : ∃ b, blocks.find? (Enhanced ·) = some b := by
    rw [← Option.isSome_iff_exists, List.find?_isSome]
    simpa using some_
  obtain ⟨enhanced, before, after, split, none_⟩ := List.find?_eq_some_iff_append.mp found
  exact ⟨before, b, after, split, by simpa using enhanced, by simpa using none_⟩

theorem exists_last_enhanced {blocks : List Block} (some_ : ∃ b ∈ blocks, Enhanced b) :
    ∃ before b after, blocks = before ++ b :: after ∧ Enhanced b ∧ ∀ other ∈ after, ¬Enhanced other := by
  have reversed : ∃ b ∈ blocks.reverse, Enhanced b := by simpa using some_
  obtain ⟨after, b, before, split, enhanced, none_⟩ := exists_first_enhanced reversed
  refine ⟨before.reverse, b, after.reverse, ?_, enhanced, by simpa using none_⟩
  rw [← List.reverse_reverse blocks, split]
  simp

theorem times_iff (blocks : List Block) :
    ((micros endian blocks).head? = (stamps endian [] blocks).head? ∧
      (micros endian blocks).getLast? = (stamps endian [] blocks).getLast?) ↔ Microseconds endian blocks := by
  constructor
  · rintro ⟨first, last⟩ before b after rfl enhanced (alone | alone)
    · exact (div_micro_iff _ _).mp ((heads_iff enhanced alone).mp first)
    · exact (div_micro_iff _ _).mp ((lasts_iff enhanced alone).mp last)
  · intro microseconds
    by_cases some_ : ∃ b ∈ blocks, Enhanced b
    · constructor
      · obtain ⟨before, b, after, rfl, enhanced, alone⟩ := exists_first_enhanced some_
        exact (heads_iff enhanced alone).mpr
          ((div_micro_iff _ _).mpr (microseconds before b after rfl enhanced (.inl alone)))
      · obtain ⟨before, b, after, rfl, enhanced, alone⟩ := exists_last_enhanced some_
        exact (lasts_iff enhanced alone).mpr
          ((div_micro_iff _ _).mpr (microseconds before b after rfl enhanced (.inr alone)))
    · push Not at some_
      rw [micros_eq_nil some_, stamps_eq_nil _ some_]
      exact ⟨rfl, rfl⟩

end Blocks

/-! ### Block captures -/

section Sections
variable (file : Pcapng)

/-- The section header's length, as the packet reader reads it. -/
def lengthRead : Nat := value .little (pack file.endian 4 file.sectionLength)

theorem section_fits : file.sectionLength < 256 ^ 4 := file.fits

theorem section_length : 16 ≤ file.encode.length := by
  simp [Pcapng.encode]
  omega

theorem section_magic : file.encode.take 4 = pack file.endian 4 blockShb := List.take_left' (length_pack ..)

theorem section_fields : uintAt .little file.encode 0 4 = blockShb ∧ uintAt .little file.encode 4 4 = lengthRead file ∧
    uintAt .little file.encode 8 4 = if file.endian = .little then shbBomLe else shbBomBe := by
  unfold Pcapng.encode lengthRead
  refine ⟨?_, ?_, ?_⟩
  · rw [uintAt_front]
    cases file.endian <;> rfl
  · rw [uintAt_after (by omega), uintAt_front]
  · rw [uintAt_after (by omega), uintAt_after (by omega), uintAt_front]
    cases file.endian <;> rfl

theorem drop_section : file.encode.drop file.sectionLength = file.blocks.flatMap (Block.encode file.endian) := by
  unfold Pcapng.encode Pcapng.sectionLength
  rw [drop_after (by omega), drop_after (by omega), drop_after (by omega),
    show file.header.length + 16 - 4 - 4 - 4 = file.header.length + 4 by omega, ← List.drop_drop, List.drop_left,
    drop_after (le_refl 4)]
  rfl

theorem length_of_read : value .big (pack .little 4 (value .little (pack .big 4 file.sectionLength))) = file.sectionLength := by
  have swapped := pack_value .little (pack .big 4 file.sectionLength)
  rw [length_pack] at swapped
  rw [swapped, value_pack .big (section_fits file)]

/-- The summary of what the header reader has found in a section. -/
def sectionSummary (s : Section) : CaptureSummary where
  packetCount := s.seen.packetCount
  durationSeconds := s.seen.duration
  startTs := s.seen.firstTs
  endTs := s.seen.lastTs
  linkType := (s.linktypes.head?.map linktypeName).getD "Unknown"
  snaplen := s.snaplenMax
  format := .pcapng

theorem readCaptureSummary_pcapng : readCaptureSummary file.encode =
    match file.blocks.foldlM (inspectBlock file.endian) .empty with
    | .error error => .error error
    | .ok s => .ok (sectionSummary s) := by
  obtain ⟨type, length, bom⟩ := section_fields file
  have long := section_length file
  have isSection : value .big (pack file.endian 4 blockShb) = blockShb := by cases file.endian <;> rfl
  unfold readCaptureSummary readPcapng
  simp only [section_magic, length_pack]
  rw [if_neg (by omega), if_pos isSection, if_neg (by rw [List.length_take]; omega),
    uintAt_take (show 0 + 4 ≤ 12 by decide), uintAt_take (show 4 + 4 ≤ 12 by decide),
    uintAt_take (show 8 + 4 ≤ 12 by decide), type, length, bom, if_neg (by simp), lengthRead]
  cases order : file.endian with
  | little =>
    rw [if_pos rfl, if_pos rfl, value_pack .little (section_fits file), drop_section, order, readBlocks_blocks]
    rfl
  | big =>
    rw [if_neg (by decide), if_pos (by decide), length_of_read, drop_section, order, readBlocks_blocks]
    rfl

theorem packetsOf_pcapng : packetsOf file.encode = (blocksFrom file.endian (file.encode.drop (lengthRead file))).filterMap
    fun block => enhancedPacket file.endian block.1 block.2 := by
  obtain ⟨-, length, bom⟩ := section_fields file
  have long := section_length file
  have isSection : value .big (pack file.endian 4 blockShb) = 0x0A0D0D0A := by cases file.endian <;> rfl
  have order : (if (if file.endian = .little then shbBomLe else shbBomBe) = 0x1A2B3C4D then Endian.little else .big) =
      file.endian := by cases file.endian <;> rfl
  unfold packetsOf
  simp only [section_magic, length_pack]
  rw [if_neg (by omega), if_pos isSection, if_pos (by rw [List.length_take]; omega),
    uintAt_take (show 4 + 4 ≤ 12 by decide), uintAt_take (show 8 + 4 ≤ 12 by decide), length, bom, order]

/-- The times of the packets that stand where the packet reader starts to read. -/
def timesRead : List Rat :=
  ((blocksFrom file.endian (file.encode.drop (lengthRead file))).filterMap fun block =>
    enhancedPacket file.endian block.1 block.2).map Prod.snd

/-- The packets of the file, with a time or without. -/
def packetCount : Nat := (micros file.endian file.blocks).length + file.blocks.countP (Simple ·)

/-- The packet reader starts elsewhere, and what stands there has as many packets, and the
    first and last of them the right times. -/
def Misread : Prop :=
  (timesRead file).length = packetCount file ∧ (timesRead file).head? = (stamps file.endian [] file.blocks).head? ∧
    (timesRead file).getLast? = (stamps file.endian [] file.blocks).getLast?

def SameBlocks : Prop :=
  (∀ b ∈ file.blocks, Readable file.endian b) ∧
    if lengthRead file = file.sectionLength then
      (∀ b ∈ file.blocks, ¬Simple b) ∧ Microseconds file.endian file.blocks
    else Misread file

theorem timesRead_aligned (aligned : lengthRead file = file.sectionLength) :
    timesRead file = micros file.endian file.blocks := by
  rw [timesRead, aligned, drop_section, blocksFrom_blocks, times_blocks]

/-- Past the end of the file there is nothing to be seen. -/
theorem misread_past_end (past : file.encode.length ≤ lengthRead file) : Misread file ↔ packetCount file = 0 := by
  have nothing : timesRead file = [] := by
    rw [timesRead, List.drop_eq_nil_of_le past, blocksFrom]
    rfl
  rw [Misread, nothing]
  constructor
  · rintro ⟨count, -⟩
    exact count.symm
  · intro none_
    have empty : stamps file.endian [] file.blocks = [] := by
      rw [← List.length_eq_zero_iff, length_stamps]
      unfold packetCount at none_
      omega
    rw [empty, none_]
    exact ⟨rfl, rfl, rfl⟩

theorem misread_aligned (aligned : lengthRead file = file.sectionLength) :
    Misread file ↔ (∀ b ∈ file.blocks, ¬Simple b) ∧ Microseconds file.endian file.blocks := by
  have simple : (micros file.endian file.blocks).length = packetCount file ↔ ∀ b ∈ file.blocks, ¬Simple b := by
    unfold packetCount
    rw [Nat.left_eq_add, List.countP_eq_zero]
    simp
  rw [Misread, timesRead_aligned file aligned, simple, times_iff]

/-- Of a block capture, the readers make the same packets if the packet reader reads the
    length of its header right, no packet is simple, and the first and last of them are
    stamped in microseconds. -/
theorem pcapng_iff : (∃ summary, readCaptureSummary file.encode = .ok summary ∧
    Matches summary ((packetsOf file.encode).map Prod.snd)) ↔ SameBlocks file := by
  have cases_ : SameBlocks file ↔ (∀ b ∈ file.blocks, Readable file.endian b) ∧ Misread file := by
    unfold SameBlocks
    by_cases aligned : lengthRead file = file.sectionLength
    · rw [if_pos aligned, misread_aligned file aligned]
    · rw [if_neg aligned]
  have summarized {s : Section} (seen : s.seen = (stamps file.endian [] file.blocks).foldl Seen.packet
      { Seen.none with packetCount := 0 + file.blocks.countP (Simple ·) }) :
      Matches (sectionSummary s) (timesRead file) ↔ Misread file := by
    rw [Matches, Misread, sectionSummary, seen, foldl_packet, packetCount, length_stamps]
    simp [Seen.none, Nat.add_comm]
  rw [cases_, readCaptureSummary_pcapng, packetsOf_pcapng, ← timesRead]
  constructor
  · rintro ⟨summary, read, matched⟩
    cases walked : file.blocks.foldlM (inspectBlock file.endian) .empty with
    | error error =>
      rw [walked] at read
      cases read
    | ok s =>
      have readable := readable_of_all walked
      obtain ⟨t, walked', seen⟩ := inspected_all readable .empty
      obtain rfl : s = t := Except.ok.inj (walked.symm.trans walked')
      rw [walked] at read
      cases read
      exact ⟨readable, (summarized seen).mp matched⟩
  · rintro ⟨readable, misread⟩
    obtain ⟨t, walked, seen⟩ := inspected_all readable .empty
    rw [walked]
    exact ⟨_, rfl, (summarized seen).mpr misread⟩

end Sections

/-- A well-formed capture. -/
inductive Capture where
  | pcap (file : Pcap)
  | pcapng (file : Pcapng)

def Capture.encode : Capture → Bytes
  | .pcap file => file.encode
  | .pcapng file => file.encode

/-- What the two readers see alike. -/
def SeenAlike : Capture → Prop
  | .pcap file => ∀ r ∈ file.records, r.Taken
  | .pcapng file => SameBlocks file

/-- A big-endian capture of one packet. -/
def bigEndianCapture : Pcapng where
  endian := .big
  header := [0, 1, 0, 0, 255, 255, 255, 255, 255, 255, 255, 255]
  versioned := by decide
  aligned := by decide
  fits := by decide
  blocks :=
    [⟨1, [0, 1, 0, 0, 0, 0, 255, 255], by decide, by decide⟩,
      ⟨6, [0, 0, 0, 0, 0, 5, 175, 49, 0, 0, 0, 0, 0, 0, 0, 4, 0, 0, 0, 4, 1, 2, 3, 4], by decide, by decide⟩]

end Marlinspike.Dissect.Agreement
