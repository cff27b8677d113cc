import Marlinspike.Dissect.Reproducible

/-!
What the dissector makes of a capture of ARP frames: an observation of each frame, and a
conversation of each pair of MACs with the addresses that its frames ask for (`dissected_spec`).
-/
namespace Marlinspike.Dissect.ArpStream
open Marlinspike.Dissect.Reader
open Marlinspike.Dissect.Lines
open Marlinspike.Dissect.ChunkLoop
open Marlinspike.Dissect.Assigned
open Marlinspike.Dissect.Inline
open Marlinspike.Dissect.Reproducible (collect dstIpsOf)

/-- The line of an ARP frame, which has no ports; tshark writes the length of every frame. -/
structure ArpFrame (tables : LineTables) (lower : String → String) where
  line : Line
  packet : LinePacket
  read : readPacket tables line = some (some packet)
  protocol : packet.protocol = "ARP"
  port : packet.port = 0
  stacked : "arp".toList <:+: (lower (field packet.fields "frame.protocols")).toList
  framed : (frameLen tables packet).isSome

section Frames
variable {tables : LineTables} {lower : String → String}

/-- The key of the frame's conversation. -/
def ArpFrame.key (frame : ArpFrame tables lower) : ConvKey := ⟨frame.packet.srcMac, frame.packet.dstMac, "ARP", 0⟩

def ArpFrame.observation (frame : ArpFrame tables lower) : ArpObservation := arpObservation tables lower frame.packet

def ArpFrame.counted (frame : ArpFrame tables lower) : Counted := ⟨frame.key, frame.packet⟩

/-- The packets of a conversation. -/
def packetsOf (key : ConvKey) (frames : List (ArpFrame tables lower)) : List LinePacket :=
  (frames.filter (·.key = key)).map (·.packet)

theorem packetsUnder_counted (key : ConvKey) (frames : List (ArpFrame tables lower)) :
    packetsUnder key (frames.map ArpFrame.counted) = packetsOf key frames := by
  rw [packetsUnder, List.filter_map, List.map_map]
  rfl

section Run
variable {text : TextTables} {collapseThreshold : Nat}

theorem not_raises (frame : ArpFrame tables lower) : ¬Raises tables (inlineParsing text) frame.line := by
  have quiet : within "Modbus" "ARP" = false := by decide +kernel
  rw [Raises, frame.read]
  simp [Option.isSome_iff_ne_none.mp frame.framed, inlineParsing, frame.protocol, quiet]

/-- Frames without ports are not collapsed, and there is room for their conversation. -/
theorem countedOf_frame (frame : ArpFrame tables lower) {s : StreamState Details}
    (room : s.lines.convMap.items.length < convMapCap) :
    countedOf tables collapseThreshold s frame.line = some frame.counted := by
  unfold countedOf keyOf collapse fold
  rw [frame.read]
  simp [ArpFrame.counted, ArpFrame.key, frame.port, frame.protocol, room]

theorem length_convMap_frame (frame : ArpFrame tables lower) {s : StreamState Details}
    (room : s.lines.convMap.items.length < convMapCap) :
    (streamLine tables lower (inlineParsing text) collapseThreshold s frame.line).1.lines.convMap.items.length ≤
      s.lines.convMap.items.length + 1 := by
  rw [convMap_streamLine, countedOf_frame frame room, Option.elim_some, Conservation.length_set]
  split_ifs
  · exact le_rfl
  · exact Nat.le_succ _

/-- A frame adds an observation, as long as these are fewer than the cap. -/
theorem observations_frame (frame : ArpFrame tables lower) {s : StreamState Details}
    (untruncated : s.arpObservationsTruncated = false) (few : s.arpObservations.length + 1 < arpObsCap) :
    let after := (streamLine tables lower (inlineParsing text) collapseThreshold s frame.line).1
    after.arpObservations = s.arpObservations ++ [frame.observation] ∧ after.arpObservationsTruncated = false := by
  obtain ⟨length, framed⟩ := Option.isSome_iff_exists.mp frame.framed
  have room : ¬arpObsCap ≤ s.arpObservations.length + 1 := Nat.not_le.mpr few
  dsimp only
  unfold streamLine countLine
  rw [frame.read]
  dsimp only
  simp only [framed, observeArp, frame.stacked, untruncated, Bool.not_false, and_self, if_true, List.length_append,
    List.length_singleton, room, decide_false]
  split
  · exact ⟨rfl, rfl⟩
  · exact ⟨rfl, rfl⟩

/-- The frames one after the other. -/
theorem run_frames (frames : List (ArpFrame tables lower)) {s : StreamState Details}
    (room : s.lines.convMap.items.length + frames.length ≤ convMapCap) (untruncated : s.arpObservationsTruncated = false)
    (few : s.arpObservations.length + frames.length < arpObsCap) :
    countedIn tables lower (inlineParsing text) collapseThreshold s (frames.map (·.line)) = frames.map ArpFrame.counted ∧
      (runStream tables lower (inlineParsing text) collapseThreshold (frames.map (·.line)) s).arpObservations =
        s.arpObservations ++ frames.map ArpFrame.observation := by
  induction frames generalizing s with
  | nil => exact ⟨rfl, by rw [List.map_nil, runStream_nil, List.map_nil, List.append_nil]⟩
  | cons frame rest ih =>
    rw [List.length_cons] at room few
    have room' : s.lines.convMap.items.length < convMapCap := by omega
    have on : (streamLine tables lower (inlineParsing text) collapseThreshold s frame.line).2 = true := by
      rw [← Bool.not_eq_false, streamLine_ends_iff]
      exact not_raises frame
    have grown := @length_convMap_frame tables lower text collapseThreshold frame s room'
    obtain ⟨observed, still⟩ := @observations_frame tables lower text collapseThreshold frame s untruncated (by omega)
    obtain ⟨counted, observations⟩ := ih (by omega) still (by rw [observed, List.length_append, List.length_singleton]; omega)
    constructor
    · rw [List.map_cons, countedIn, countedOf_frame frame room', if_pos on, counted]
      rfl
    · rw [List.map_cons, runStream_cons, if_pos on, observations, observed, List.append_assoc]
      rfl

end Run

variable (text : TextTables) (collapseThreshold : Nat) (emptyFile : Bool) (chunkSize : Nat)

/-- What is dissected of the frames, in chunks or not. -/
def dissected (frames : List (ArpFrame tables lower)) : StreamState Details :=
  (dissect (linePasses tables lower (inlineParsing text) collapseThreshold (frames.map (·.line))) emptyFile chunkSize
    .start).1

/-- An observation of each frame, and the conversation of each pair of MACs. -/
theorem dissected_spec {frames : List (ArpFrame tables lower)} (few : frames.length < arpObsCap) :
    let s := dissected text collapseThreshold emptyFile chunkSize frames
    s.arpObservations = frames.map ArpFrame.observation ∧
      ∀ key, s.lines.convMap.get key = convOf tables (inlineParsing text) (packetsOf key frames) := by
  have single : dissected text collapseThreshold emptyFile chunkSize frames =
      passes tables lower (inlineParsing text) collapseThreshold .start [frames.map (·.line)] := by
    refine ((lines_iff tables lower (inlineParsing text) collapseThreshold emptyFile chunkSize _ _).mpr fun _ => ?_).1
    intro k _ line member
    obtain ⟨frame, -, rfl⟩ := List.mem_map.mp (List.mem_of_mem_drop (List.mem_of_mem_take member))
    exact not_raises frame
  have small : frames.length ≤ convMapCap := few.le.trans (by decide)
  obtain ⟨counted, observed⟩ := @run_frames tables lower text collapseThreshold frames .start
    (by simpa [StreamState.start, LineState.start, PyDict.empty] using small) rfl
    (by simpa [StreamState.start] using few)
  rw [single]
  refine ⟨observed, fun key => ?_⟩
  rw [get_passes, countedBy, countedBy, List.append_nil, counted, packetsUnder_counted]

end Frames

end Marlinspike.Dissect.ArpStream
