import Marlinspike.Dissect.ChunkLoop
import Marlinspike.Gathering

/-!
The conversations of passes over tshark's output, read key by key: each is gathered from
the packets that were counted with its key, in their order (`get_passes`).
-/
namespace Marlinspike.Dissect.Assigned
open Marlinspike.Gathering
open Marlinspike.Dissect.Reader
open Marlinspike.Dissect.Lines
open Marlinspike.Dissect.ChunkLoop

/-- A packet, and the key that it is counted with. -/
structure Counted where
  key : ConvKey
  packet : LinePacket

/-- The packets that are counted with a key. -/
def packetsUnder (key : ConvKey) (counted : List Counted) : List LinePacket :=
  (counted.filter (·.key = key)).map Counted.packet

theorem packetsUnder_append (key : ConvKey) (first second : List Counted) :
    packetsUnder key (first ++ second) = packetsUnder key first ++ packetsUnder key second := by
  rw [packetsUnder, List.filter_append, List.map_append]
  rfl

/-- The packets whose length can be read: the others end the pass before their addresses. -/
def framed (tables : LineTables) (packets : List LinePacket) : List LinePacket :=
  packets.filter fun p => (frameLen tables p).isSome

section Passes
variable {Details : Type} (tables : LineTables) (lower : String → String) (parsing : InlineParsing Details)
  (collapseThreshold : Nat)

/-- What a packet leaves in its conversation, also where an exception ends the pass. -/
def takePacket (conv : LineConv Details) (p : LinePacket) : LineConv Details :=
  match frameLen tables p with
  | none => { conv with packetCount := conv.packetCount + 1 }
  | some length =>
    conv.add tables p length ((parsing.parseInline p.fields p.protocol conv.details).getD
      (parsing.left p.fields p.protocol conv.details))

/-- The key that a packet is counted with. -/
def keyOf (s : LineState Details) (p : LinePacket) : ConvKey :=
  fold (collapse collapseThreshold s p).1.convMap (collapse collapseThreshold s p).2

/-- The packet of a line, if it is counted. -/
def countedOf (s : StreamState Details) (line : Line) : Option Counted :=
  (readPacket tables line).join.map fun p =>
    ⟨keyOf collapseThreshold { s.lines with pktCount := s.lines.pktCount + 1 } p, p⟩

/-- The packets that a pass counts. -/
def countedIn (s : StreamState Details) : List Line → List Counted
  | [] => []
  | line :: rest =>
    let after := streamLine tables lower parsing collapseThreshold s line
    (countedOf tables collapseThreshold s line).toList ++ if after.2 then countedIn after.1 rest else []

/-- The passes over a capture: one, or one for each chunk. -/
def passes (s : StreamState Details) (streams : List (List Line)) : StreamState Details :=
  streams.foldl (fun s lines => runStream tables lower parsing collapseThreshold lines s) s

def countedBy (s : StreamState Details) : List (List Line) → List Counted
  | [] => []
  | lines :: rest =>
    countedIn tables lower parsing collapseThreshold s lines ++
      countedBy (runStream tables lower parsing collapseThreshold lines s) rest

/-- A conversation, gathered from its packets. -/
def convOf (packets : List LinePacket) : Option (LineConv Details) :=
  gather (takePacket tables parsing (LineConv.start parsing.toParsing)) (takePacket tables parsing) packets

/-- The conversations are those of the packets counted so far. -/
def GatheredFrom (counted : List Counted) (s : StreamState Details) : Prop :=
  ∀ key, s.lines.convMap.get key = convOf tables parsing (packetsUnder key counted)

variable {tables lower parsing collapseThreshold}

theorem convMap_countLine (s : StreamState Details) (p : LinePacket) :
    (countLine tables lower parsing collapseThreshold s p).1.lines.convMap =
      s.lines.convMap.set (keyOf collapseThreshold s.lines p)
        (takePacket tables parsing
          ((s.lines.convMap.get (keyOf collapseThreshold s.lines p)).getD (LineConv.start parsing.toParsing)) p) := by
  obtain ⟨-, -, convMap⟩ := Conservation.collapse_kept collapseThreshold s.lines p
  unfold countLine takePacket keyOf
  simp only [convMap]
  generalize (s.lines.convMap.get _).getD _ = conv
  cases frameLen tables p with
  | none => rfl
  | some length =>
    dsimp only
    cases parsing.parseInline p.fields p.protocol conv.details with
    | none => rfl
    | some details => rfl

theorem convMap_streamLine (s : StreamState Details) (line : Line) :
    (streamLine tables lower parsing collapseThreshold s line).1.lines.convMap =
      (countedOf tables collapseThreshold s line).elim s.lines.convMap fun counted =>
        s.lines.convMap.set counted.key (takePacket tables parsing
          ((s.lines.convMap.get counted.key).getD (LineConv.start parsing.toParsing)) counted.packet) := by
  unfold streamLine countedOf
  cases readPacket tables line with
  | none => rfl
  | some read =>
    cases read with
    | none => rfl
    | some p => exact convMap_countLine _ p

/-- Another line. -/
theorem gathered_line {counted : List Counted} {s : StreamState Details} (gathered : GatheredFrom tables parsing counted s)
    (line : Line) : GatheredFrom tables parsing (counted ++ (countedOf tables collapseThreshold s line).toList)
      (streamLine tables lower parsing collapseThreshold s line).1 := by
  intro key
  rw [convMap_streamLine, packetsUnder_append]
  cases countedOf tables collapseThreshold s line with
  | none => simpa [packetsUnder] using gathered key
  | some next =>
    rw [Option.elim_some, PyDict.get_set]
    by_cases own : next.key = key
    · have single : packetsUnder key (some next).toList = [next.packet] := by simp [packetsUnder, own]
      rw [if_pos own, single, own, convOf, gather_concat, gathered key]
      cases found : convOf tables parsing (packetsUnder key counted) with
      | none =>
        rw [convOf] at found
        rw [found]
        rfl
      | some conv =>
        rw [convOf] at found
        rw [found]
        rfl
    · have none_ : packetsUnder key (some next).toList = [] := by simp [packetsUnder, own]
      rw [if_neg own, none_, List.append_nil, gathered key]

theorem runStream_nil (s : StreamState Details) : runStream tables lower parsing collapseThreshold [] s = s := rfl

theorem runStream_cons (s : StreamState Details) (line : Line) (rest : List Line) :
    runStream tables lower parsing collapseThreshold (line :: rest) s =
      if (streamLine tables lower parsing collapseThreshold s line).2 then
        runStream tables lower parsing collapseThreshold rest (streamLine tables lower parsing collapseThreshold s line).1
      else (streamLine tables lower parsing collapseThreshold s line).1 := by
  unfold runStream
  rw [Chunking.pass]
  split_ifs with on goes goes
  · rfl
  · exact absurd on goes
  · exact absurd goes on
  · rfl

theorem gathered_stream (lines : List Line) {counted : List Counted} {s : StreamState Details}
    (gathered : GatheredFrom tables parsing counted s) :
    GatheredFrom tables parsing (counted ++ countedIn tables lower parsing collapseThreshold s lines)
      (runStream tables lower parsing collapseThreshold lines s) := by
  induction lines generalizing counted s with
  | nil => simpa [countedIn, runStream_nil] using gathered
  | cons line rest ih =>
    have next := @gathered_line _ tables lower parsing collapseThreshold _ _ gathered line
    rw [countedIn, runStream_cons]
    by_cases on : (streamLine tables lower parsing collapseThreshold s line).2 = true
    · rw [if_pos on, if_pos on, ← List.append_assoc]
      exact ih next
    · rwa [if_neg on, if_neg on, List.append_nil]

theorem gathered_passes (streams : List (List Line)) {counted : List Counted} {s : StreamState Details}
    (gathered : GatheredFrom tables parsing counted s) :
    GatheredFrom tables parsing (counted ++ countedBy tables lower parsing collapseThreshold s streams)
      (passes tables lower parsing collapseThreshold s streams) := by
  induction streams generalizing counted s with
  | nil => simpa [countedBy, passes] using gathered
  | cons lines rest ih =>
    rw [countedBy, ← List.append_assoc, passes, List.foldl_cons]
    exact ih (gathered_stream lines gathered)

theorem gathered_start : GatheredFrom tables parsing [] (StreamState.start : StreamState Details) := fun _ => rfl

/-- Each conversation of the passes is gathered from its packets. -/
theorem get_passes (streams : List (List Line)) (key : ConvKey) :
    (passes tables lower parsing collapseThreshold .start streams).lines.convMap.get key =
      convOf tables parsing (packetsUnder key (countedBy tables lower parsing collapseThreshold .start streams)) := by
  have gathered := @gathered_passes _ tables lower parsing collapseThreshold streams _ _ gathered_start
  rw [List.nil_append] at gathered
  exact gathered key

theorem convOf_induction {packets : List LinePacket} {conv : LineConv Details}
    (gathered : convOf tables parsing packets = some conv) (holds : List LinePacket → LineConv Details → Prop)
    (start : holds [] (LineConv.start parsing.toParsing))
    (next : ∀ packets conv p, holds packets conv → holds (packets ++ [p]) (takePacket tables parsing conv p)) :
    holds packets conv :=
  gather_induction gathered holds (fun p => next [] _ p start) fun packets conv p _ held => next packets conv p held

/-! ### The loop -/

theorem chunkLoop_passes (emptyFile : Bool) (lines : List Line) {chunkSize : Nat} (pos : 0 < chunkSize) (chunkNum : Nat)
    (s : StreamState Details) : ∃ streams,
      (chunkLoop (linePasses tables lower parsing collapseThreshold lines) emptyFile pos chunkNum s).1 =
        passes tables lower parsing collapseThreshold s streams := by
  induction left : lines.length - chunkNum * chunkSize using Nat.strong_induction_on generalizing chunkNum s with
  | _ left_ ih =>
    by_cases past : lines.length ≤ chunkNum * chunkSize
    · rw [chunkLoop_past (linePasses tables lower parsing collapseThreshold lines) emptyFile pos s past]
      exact ⟨[], rfl⟩
    · have inside := Nat.lt_of_not_le past
      rw [chunkLoop_inside (linePasses tables lower parsing collapseThreshold lines) emptyFile pos s inside]
      dsimp only
      split_ifs
      · exact ⟨[_], rfl⟩
      · obtain ⟨streams, same⟩ := ih _ (by rw [Nat.succ_mul]; omega) (chunkNum + 1)
          (runStream tables lower parsing collapseThreshold
            ((lines.drop (chunkNum * chunkSize)).take chunkSize) s) rfl
        exact ⟨_ :: streams, same⟩

/-- What is dissected has been read in passes, whatever the size of the chunks. -/
theorem dissect_passes (emptyFile : Bool) (lines : List Line) (chunkSize : Nat) (s : StreamState Details) : ∃ streams,
    (dissect (linePasses tables lower parsing collapseThreshold lines) emptyFile chunkSize s).1 =
      passes tables lower parsing collapseThreshold s streams := by
  unfold dissect
  split_ifs with pos
  · exact chunkLoop_passes emptyFile lines pos 0 s
  · exact ⟨[lines], rfl⟩

end Passes

end Marlinspike.Dissect.Assigned
