import Mathlib.Tactic.SplitIfs
import Marlinspike.Transition
import Marlinspike.Capture.Manager

/-!
How one local capture ends: capd's supervisor and its stats stream, the hub that reads
the stream, the finished callback, and a stop request, each at its own pace.

When everything is over the row is `stopped` with the counts that capd has reported
(`ends_stopped`), as long as the stop request finds the row past `pending` and its
session still known to capd.
-/
namespace Marlinspike.Capture.Ending
open Marlinspike.Transition Marlinspike.Capture.Manager

/-- What capd reports once dumpcap has exited; the summary line may lack a number. -/
structure Counts where
  bytesTotal : Nat
  packets : Option Nat
  drops : Option Nat
deriving DecidableEq, Repr

structure Row where
  status : Status
  bytesCaptured : Nat
  packetsCaptured : Nat
  dropCount : Nat
deriving DecidableEq, Repr

def Row.record (row : Row) (counts : Counts) : Row where
  status := .stopped
  bytesCaptured := counts.bytesTotal
  packetsCaptured := counts.packets.getD row.packetsCaptured
  dropCount := counts.drops.getD row.dropCount

def Row.setStatus (row : Row) (status : Status) : Row := { row with status := status }

/-- The start request, once its row is committed. -/
inductive StartPhase where
  /-- `start` is with capd, and answered. -/
  | calling
  | answered
  /-- The row is `running`; before `register_hub`, and before `hub.start`. -/
  | committed
  | registered
  | returned
deriving DecidableEq, Repr

/-- capd's `_stream_stats`. -/
inductive Stream where
  | absent
  | connected
  | polling
  | polled (running : Bool)
  | ended
deriving DecidableEq, Repr

inductive Frame where
  | stats (running : Bool)
  /-- `unknown session`. -/
  | error
deriving DecidableEq, Repr

inductive HubPhase where
  | absent
  | running
  | ended
deriving DecidableEq, Repr

/-- The finished callback, with or without a final frame. -/
inductive FinishedPhase where
  | idle
  | reading (finalFrame : Bool)
  | writing (finalFrame : Bool)
  | returned
deriving DecidableEq, Repr

/-- The stop request. -/
inductive StopPhase where
  | idle
  | reading
  | marking
  /-- In capd: before its lookup, in `sup.stop`, and before the session is forgotten. -/
  | calling
  | interrupting
  | forgetting
  /-- Before the row is `stopped`, and before the hub's `shutdown`. -/
  | recording
  | dropping
  /-- Before the row is `failed`. -/
  | failing
  | returned
deriving DecidableEq, Repr

structure State where
  /-- The session is in capd's `_sessions`. -/
  known : Bool
  /-- dumpcap has exited. -/
  exited : Bool
  stream : Stream
  /-- Frames that capd has sent and the hub has not read. -/
  frames : List Frame
  start : StartPhase
  hub : HubPhase
  stopEvent : Bool
  finished : FinishedPhase
  stop : StopPhase
  row : Row
deriving DecidableEq, Repr

def State.init : State where
  known := false
  exited := false
  stream := .absent
  frames := []
  start := .calling
  hub := .absent
  stopEvent := false
  finished := .idle
  stop := .idle
  row := ⟨.pending, 0, 0, 0⟩

inductive Label where
  /-- The start request's next step, capd's part included. -/
  | starts
  /-- dumpcap exits on its own. -/
  | expires
  /-- The stats stream's next step in capd. -/
  | streams
  /-- The hub's loop goes round. -/
  | receives
  | finishes
  | stops
deriving DecidableEq, Repr

def starts (s : State) : Option State :=
  match s.start with
  | .calling => some { s with start := .answered, known := true }
  | .answered => some { s with start := .committed, row := s.row.setStatus .running }
  | .committed => some { s with start := .registered }
  | .registered => some { s with start := .returned, hub := .running, stream := .connected }
  | .returned => none

def expires (s : State) : Option State :=
  if s.start ≠ .calling ∧ s.exited = false then some { s with exited := true } else none

/-- `_stream_stats`. The session is forgotten before its last frame is sent. -/
def streams (s : State) : Option State :=
  match s.stream with
  | .connected =>
    if s.known then some { s with stream := .polling }
    else some { s with stream := .ended, frames := s.frames ++ [.error] }
  | .polling => some { s with stream := .polled (!s.exited) }
  | .polled running =>
    let reaped := { s with known := s.known && running }
    if s.hub = .ended then some { reaped with stream := .ended }
    else
      some { reaped with frames := s.frames ++ [.stats running], stream := if running then .polling else .ended }
  | _ => none

def State.hubEnds (s : State) (finalFrame : Bool) : State :=
  { s with hub := .ended, finished := .reading finalFrame }

/-- `StatsHub._run`: with its next frame, or with the end of the stream. -/
def receives (s : State) : Option State :=
  if s.hub = .running then
    match s.frames with
    | [] => if s.stream = .ended then some (s.hubEnds false) else none
    | frame :: rest =>
      let read := { s with frames := rest }
      if s.stopEvent then some (read.hubEnds false)
      else
        match frame with
        | .stats false => some (read.hubEnds true)
        | _ => some read
  else none

/-- `_on_finished`. -/
def finishes (counts : Counts) (s : State) : Option State :=
  match s.finished with
  | .reading finalFrame =>
    if s.row.status = .running then some { s with finished := .writing finalFrame }
    else some { s with finished := .returned }
  | .writing true => some { s with finished := .returned, row := s.row.record counts }
  | .writing false => some { s with finished := .returned, row := s.row.setStatus .failed }
  | _ => none

/-- `stop_session`, and capd's `_stop_session` in it. -/
def stops (counts : Counts) (s : State) : Option State :=
  match s.stop with
  | .idle => some { s with stop := .reading }
  | .reading =>
    if s.row.status = .running ∨ s.row.status = .pending then some { s with stop := .marking }
    else some { s with stop := .returned }
  | .marking => some { s with stop := .calling, row := s.row.setStatus .stopping }
  | .calling => if s.known then some { s with stop := .interrupting } else some { s with stop := .failing }
  | .interrupting => some { s with stop := .forgetting, exited := true }
  | .forgetting => some { s with stop := .recording, known := false }
  | .recording => some { s with stop := .dropping, row := s.row.record counts }
  -- Before the hub is registered `drop_hub` finds nothing to shut down.
  | .dropping =>
    some { s with stop := .returned, stopEvent := s.stopEvent || decide (s.start = .registered ∨ s.start = .returned) }
  | .failing => some { s with stop := .returned, row := s.row.setStatus .failed }
  | .returned => none

def step (counts : Counts) (s : State) : Label → Option State
  | .starts => starts s
  | .expires => expires s
  | .streams => streams s
  | .receives => receives s
  | .finishes => finishes counts s
  | .stops => stops counts s

/-! ### What holds at every moment -/

/-- The row has the counts that capd has reported. -/
def Row.Has (row : Row) (counts : Counts) : Prop :=
  row.bytesCaptured = counts.bytesTotal ∧ (∀ packets, counts.packets = some packets → row.packetsCaptured = packets) ∧
    ∀ drops, counts.drops = some drops → row.dropCount = drops

theorem record_has (row : Row) (counts : Counts) : (row.record counts).Has counts := by
  refine ⟨rfl, ?_, ?_⟩
  · intro packets reported
    simp [Row.record, reported]
  · intro drops reported
    simp [Row.record, reported]

/-- The row has left `pending` and `running`, to which it does not return. -/
def Row.Over (row : Row) : Prop := row.status ≠ .pending ∧ row.status ≠ .running

/-- The start request has not committed `running`. -/
def StartPhase.early : StartPhase → Bool
  | .calling | .answered => true
  | _ => false

/-- The stop request has not touched the row. -/
def StopPhase.early : StopPhase → Bool
  | .idle | .reading | .marking | .returned => true
  | _ => false

/-- The stop request has the row's last status still to write. -/
def StopPhase.settling : StopPhase → Bool
  | .calling | .interrupting | .forgetting | .recording => true
  | _ => false

structure Invariant (counts : Counts) (s : State) : Prop where
  early : s.start.early → s.row.status = .pending ∧ (s.stop = .idle ∨ s.stop = .reading)
  begun : s.start.early = false → s.row.status ≠ .pending
  unwired : s.start ≠ .returned → s.hub = .absent ∧ s.stream = .absent ∧ s.frames = []
  finished : s.finished = .idle ↔ s.hub ≠ .ended
  running : s.row.status = .running → s.stop = .idle ∨ s.stop = .reading ∨ s.stop = .marking
  stopping : s.row.status = .stopping → s.stop.settling
  stopped : s.row.status = .stopped → s.row.Has counts
  unfailed : s.row.status ≠ .failed ∧ s.stop ≠ .failing
  stopEvent : s.stopEvent → s.row.Over
  forgotten : s.known = false → s.start ≠ .calling → s.row.Over ∨ s.stream = .ended
  drained : s.stream = .ended → s.row.Over ∨ .stats false ∈ s.frames ∨ s.hub = .ended
  frameless : s.finished = .reading false → s.row.Over
  unwritten : s.finished ≠ .writing false
  returned : s.finished = .returned → s.row.Over

theorem invariant_init (counts : Counts) : Invariant counts State.init := by
  constructor <;> simp [State.init, StartPhase.early, Row.Over]

/-- A stop request finds the row past `pending`, and its session still known to capd. -/
def InTime (s : State) : Label → Prop
  | .stops => (s.stop = .reading → s.row.status ≠ .pending) ∧ (s.stop = .calling → s.known = true)
  | _ => True

instance (s : State) : ∀ label, Decidable (InTime s label)
  | .stops =>
    inferInstanceAs (Decidable ((s.stop = .reading → s.row.status ≠ .pending) ∧ (s.stop = .calling → s.known = true)))
  | .starts | .expires | .streams | .receives | .finishes => inferInstanceAs (Decidable True)

section Steps
variable {counts : Counts} {s t : State} (inv : Invariant counts s)
include inv

/-- A row that is not over has seen nothing of the stop request but its reading. -/
theorem over_of_stop (late : s.stop.early = false) : s.row.Over := by
  constructor
  · intro pending
    cases start : s.start.early with
    | true => rcases (inv.early start).2 with stop | stop <;> simp [stop, StopPhase.early] at late
    | false => exact inv.begun start pending
  · intro running
    rcases inv.running running with stop | stop | stop <;> simp [stop, StopPhase.early] at late

theorem begun_of_finished (active : s.finished ≠ .idle) : s.start = .returned := by
  by_contra unwired
  exact active (inv.finished.mpr (by simp [(inv.unwired unwired).1]))

theorem invariant_starts (stepped : starts s = some t) : Invariant counts t := by
  unfold starts at stepped
  split at stepped
  · rename_i start
    cases stepped
    exact { inv with
      early := fun _ => inv.early (by rw [start]; rfl)
      begun := nofun
      unwired := fun _ => inv.unwired (by simp [start])
      forgotten := nofun }
  · rename_i start
    obtain ⟨pending, stop⟩ := inv.early (by rw [start]; rfl)
    have unwired := inv.unwired (by simp [start])
    have notOver : ¬s.row.Over := fun settled => settled.1 pending
    have known (unknown : s.known = false) : False := by
      have before := inv.forgotten unknown (by simp [start])
      simp [notOver, unwired] at before
    have idle : s.finished = .idle := inv.finished.mpr (by simp [unwired.1])
    cases stepped
    exact { inv with
      early := nofun
      begun := nofun
      unwired := fun _ => unwired
      running := fun _ => stop.imp_right .inl
      stopping := nofun
      stopped := nofun
      unfailed := ⟨nofun, inv.unfailed.2⟩
      stopEvent := fun set => absurd (inv.stopEvent set) notOver
      forgotten := fun unknown _ => (known unknown).elim
      drained := fun ended => by simp [unwired] at ended
      frameless := fun frameless => by simp [idle] at frameless
      returned := fun returned => by simp [idle] at returned }
  · rename_i start
    cases stepped
    exact { inv with
      early := nofun
      begun := fun _ => inv.begun (by rw [start]; rfl)
      unwired := fun _ => inv.unwired (by simp [start])
      forgotten := fun unknown _ => inv.forgotten unknown (by simp [start]) }
  · rename_i start
    have unwired := inv.unwired (by simp [start])
    cases stepped
    exact { inv with
      early := nofun
      begun := fun _ => inv.begun (by rw [start]; rfl)
      unwired := fun wired => absurd rfl wired
      finished := by simp [inv.finished, unwired.1]
      forgotten := fun unknown _ => by
        have before := inv.forgotten unknown (by simp [start])
        simpa [unwired.2.1] using before
      drained := nofun }
  · cases stepped

theorem invariant_expires (stepped : expires s = some t) : Invariant counts t := by
  unfold expires at stepped
  split_ifs at stepped
  cases stepped
  exact { inv with }

theorem invariant_streams (stepped : streams s = some t) : Invariant counts t := by
  have wired (present : s.stream ≠ .absent) : s.start = .returned := by
    by_contra unwired
    exact present (inv.unwired unwired).2.1
  unfold streams at stepped
  split at stepped
  · rename_i connected
    have start := wired (by simp [connected])
    split_ifs at stepped with known
    · cases stepped
      exact { inv with
        unwired := fun unwired => absurd start unwired
        forgotten := fun unknown _ => by simp [known] at unknown
        drained := nofun }
    · have settled : s.row.Over := by
        rcases inv.forgotten (by simpa using known) (by simp [start]) with settled | ended
        · exact settled
        · simp [connected] at ended
      cases stepped
      exact { inv with
        unwired := fun unwired => absurd start unwired
        forgotten := fun _ _ => .inl settled
        drained := fun _ => .inl settled }
  · rename_i polling
    have start := wired (by simp [polling])
    cases stepped
    exact { inv with
      unwired := fun unwired => absurd start unwired
      forgotten := fun unknown early => by
        have before := inv.forgotten unknown early
        simpa [polling] using before
      drained := nofun }
  · rename_i running polled
    have start := wired (by simp [polled])
    have forgotten (unknown : (s.known && running) = false) : s.row.Over ∨ running = false := by
      cases running with
      | false => exact .inr rfl
      | true =>
        rcases inv.forgotten (by simpa using unknown) (by simp [start]) with settled | ended
        · exact .inl settled
        · simp [polled] at ended
    by_cases ended : s.hub = .ended
    · simp only [if_pos ended] at stepped
      cases stepped
      exact { inv with
        unwired := fun unwired => absurd start unwired
        forgotten := fun _ _ => .inr rfl
        drained := fun _ => .inr (.inr ended) }
    · simp only [if_neg ended] at stepped
      cases stepped
      refine { inv with unwired := fun unwired => absurd start unwired, forgotten := ?_, drained := ?_ }
      · intro unknown _
        exact (forgotten unknown).imp_right fun last => by simp [last]
      · intro last
        cases running with
        | false => exact .inr (.inl (by simp))
        | true => simp at last
  · cases stepped

theorem invariant_hubEnds {finalFrame : Bool} {frames : List Frame} (hub : s.hub = .running)
    (frameless : finalFrame = false → s.row.Over) :
    Invariant counts (State.hubEnds { s with frames := frames } finalFrame) := by
  have start : s.start = .returned := by
    by_contra unwired
    simp [(inv.unwired unwired).1] at hub
  exact { inv with
    unwired := fun unwired => absurd start unwired
    finished := by simp [State.hubEnds]
    drained := fun _ => .inr (.inr rfl)
    frameless := fun is => frameless (by simpa [State.hubEnds] using is)
    unwritten := nofun
    returned := nofun }

theorem invariant_receives (stepped : receives s = some t) : Invariant counts t := by
  unfold receives at stepped
  by_cases hub : s.hub = .running
  case neg =>
    rw [if_neg hub] at stepped
    cases stepped
  rw [if_pos hub] at stepped
  split at stepped
  · rename_i empty
    split_ifs at stepped with ended
    cases stepped
    refine invariant_hubEnds inv hub fun _ => ?_
    rcases inv.drained ended with settled | last | settled
    · exact settled
    · simp [empty] at last
    · simp [hub] at settled
  · rename_i frame rest queued
    simp only at stepped
    split_ifs at stepped with shut
    · cases stepped
      exact invariant_hubEnds inv hub fun _ => inv.stopEvent shut
    · split at stepped
      · cases stepped
        exact invariant_hubEnds inv hub nofun
      · rename_i other
        cases stepped
        exact { inv with
          unwired := fun unwired => by simp [(inv.unwired unwired).1] at hub
          drained := fun ended => by
            have before := inv.drained ended
            rw [queued] at before
            refine before.imp_right (Or.imp_left fun member => ?_)
            rcases List.mem_cons.mp member with rfl | later
            · exact absurd rfl other
            · exact later }

theorem invariant_finishes (stepped : finishes counts s = some t) : Invariant counts t := by
  unfold finishes at stepped
  split at stepped
  · rename_i finalFrame reading
    have start := begun_of_finished inv (by simp [reading])
    have ended : s.hub = .ended := by
      by_contra running
      simp [inv.finished.mpr running] at reading
    split_ifs at stepped with running
    · cases stepped
      refine { inv with finished := by simp [ended], frameless := nofun, unwritten := ?_, returned := nofun }
      rintro ⟨⟩
      exact (inv.frameless reading).2 running
    · cases stepped
      exact { inv with
        finished := by simp [ended]
        frameless := nofun
        unwritten := nofun
        returned := fun _ => ⟨inv.begun (by rw [start]; rfl), running⟩ }
  · rename_i writing
    have start := begun_of_finished inv (by simp [writing])
    have ended : s.hub = .ended := by
      by_contra running
      simp [inv.finished.mpr running] at writing
    have settled : (s.row.record counts).Over := ⟨nofun, nofun⟩
    cases stepped
    exact { inv with
      early := fun early => by simp [start, StartPhase.early] at early
      begun := fun _ => nofun
      finished := by simp [ended]
      running := nofun
      stopping := nofun
      stopped := fun _ => record_has s.row counts
      unfailed := ⟨nofun, inv.unfailed.2⟩
      stopEvent := fun _ => settled
      forgotten := fun _ _ => .inl settled
      drained := fun _ => .inl settled
      frameless := nofun
      unwritten := nofun
      returned := fun _ => settled }
  · rename_i writing
    exact absurd writing inv.unwritten
  · cases stepped

/-- The stop request goes on, and leaves the row. -/
theorem invariant_stop {stop : StopPhase} {exited known stopEvent : Bool}
    (early : s.start.early → stop = .idle ∨ stop = .reading)
    (running : s.row.status = .running → stop = .idle ∨ stop = .reading ∨ stop = .marking)
    (stopping : s.row.status = .stopping → stop.settling) (unfailed : stop ≠ .failing)
    (event : stopEvent → s.row.Over) (forgotten : known = false → s.known = false ∨ s.row.Over) :
    Invariant counts { s with stop := stop, exited := exited, known := known, stopEvent := stopEvent } :=
  { inv with
    early := fun is => ⟨(inv.early is).1, early is⟩
    running := running
    stopping := stopping
    unfailed := ⟨inv.unfailed.1, unfailed⟩
    stopEvent := event
    forgotten := fun unknown begun => (forgotten unknown).elim (fun before => inv.forgotten before begun) .inl }

/-- The stop request goes on, and writes the row. -/
theorem invariant_stop_writes {stop : StopPhase} {row : Row} (begun : s.start.early = false) (settled : row.Over)
    (stopping : row.status = .stopping → stop.settling) (stopped : row.status = .stopped → row.Has counts)
    (unfailed : row.status ≠ .failed ∧ stop ≠ .failing) : Invariant counts { s with stop := stop, row := row } :=
  { inv with
    early := fun early => absurd (begun.symm.trans early) (by decide)
    begun := fun _ => settled.1
    running := fun running => absurd running settled.2
    stopping := stopping
    stopped := stopped
    unfailed := unfailed
    stopEvent := fun _ => settled
    forgotten := fun _ _ => .inl settled
    drained := fun _ => .inl settled
    frameless := fun _ => settled
    returned := fun _ => settled }

theorem invariant_stops (inTime : InTime s .stops) (stepped : stops counts s = some t) : Invariant counts t := by
  have settled := over_of_stop inv
  have begun (settled : s.row.Over) : s.start.early = false := by
    by_contra early
    exact settled.1 (inv.early (by simpa using early)).1
  have notEarly (settled : s.row.Over) (early : s.start.early) : False :=
    absurd ((begun settled).symm.trans early) (by decide)
  unfold stops at stepped
  split at stepped
  · rename_i stop
    cases stepped
    refine invariant_stop inv (fun _ => .inr rfl) (fun _ => .inr (.inl rfl)) ?_ nofun inv.stopEvent .inl
    intro stopping
    have settling := inv.stopping stopping
    simp [stop, StopPhase.settling] at settling
  · rename_i stop
    have notStopping (stopping : s.row.status = .stopping) : False := by
      have settling := inv.stopping stopping
      simp [stop, StopPhase.settling] at settling
    have notPending := inTime.1 stop
    have notEarly (early : s.start.early) : False := notPending (inv.early early).1
    split_ifs at stepped with live
    · cases stepped
      exact invariant_stop inv (fun early => (notEarly early).elim) (fun _ => .inr (.inr rfl))
        (fun stopping => (notStopping stopping).elim) nofun inv.stopEvent .inl
    · cases stepped
      exact invariant_stop inv (fun early => (notEarly early).elim) (fun running => absurd (.inl running) live)
        (fun stopping => (notStopping stopping).elim) nofun inv.stopEvent .inl
  · rename_i stop
    cases stepped
    refine invariant_stop_writes inv ?_ ⟨nofun, nofun⟩ (fun _ => rfl) nofun ⟨nofun, nofun⟩
    by_contra early
    rcases (inv.early (by simpa using early)).2 with idle | reading
    · simp [stop] at idle
    · simp [stop] at reading
  · rename_i stop
    have settled := settled (by rw [stop]; rfl)
    rw [if_pos (inTime.2 stop)] at stepped
    cases stepped
    exact invariant_stop inv (fun early => (notEarly settled early).elim) (fun running => absurd running settled.2)
      (fun _ => rfl) nofun inv.stopEvent .inl
  · rename_i stop
    have settled := settled (by rw [stop]; rfl)
    cases stepped
    exact invariant_stop inv (fun early => (notEarly settled early).elim) (fun running => absurd running settled.2)
      (fun _ => rfl) nofun inv.stopEvent .inl
  · rename_i stop
    have settled := settled (by rw [stop]; rfl)
    cases stepped
    exact invariant_stop inv (fun early => (notEarly settled early).elim) (fun running => absurd running settled.2)
      (fun _ => rfl) nofun inv.stopEvent fun _ => .inr settled
  · rename_i stop
    have settled := settled (by rw [stop]; rfl)
    cases stepped
    exact invariant_stop_writes inv (begun settled) ⟨nofun, nofun⟩ nofun (fun _ => record_has s.row counts) ⟨nofun, nofun⟩
  · rename_i stop
    have settled := settled (by rw [stop]; rfl)
    cases stepped
    refine invariant_stop inv (fun early => (notEarly settled early).elim) (fun running => absurd running settled.2) ?_ nofun
      (fun _ => settled) .inl
    intro stopping
    have settling := inv.stopping stopping
    simp [stop, StopPhase.settling] at settling
  · rename_i stop
    exact absurd stop inv.unfailed.2
  · cases stepped

end Steps

theorem invariant_step {counts : Counts} {s t : State} {label : Label} (inv : Invariant counts s)
    (inTime : InTime s label) (stepped : step counts s label = some t) : Invariant counts t := by
  cases label with
  | starts => exact invariant_starts inv stepped
  | expires => exact invariant_expires inv stepped
  | streams => exact invariant_streams inv stepped
  | receives => exact invariant_receives inv stepped
  | finishes => exact invariant_finishes inv stepped
  | stops => exact invariant_stops inv inTime stepped

/-! ### How the capture ends -/

/-- dumpcap has exited, the hub and its callback are through, and so is the stop request,
    if there has been one. -/
def State.Ended (s : State) : Prop :=
  s.exited = true ∧ s.start = .returned ∧ s.hub = .ended ∧ s.finished = .returned ∧
    (s.stop = .idle ∨ s.stop = .returned)

/-- A capture that has ended is recorded as stopped, with capd's counts. -/
def Recorded (counts : Counts) (s : State) : Prop := s.Ended → s.row.status = .stopped ∧ s.row.Has counts

theorem recorded_of_invariant {counts : Counts} {s : State} (inv : Invariant counts s) : Recorded counts s := by
  rintro ⟨-, -, -, finished, stop⟩
  obtain ⟨notPending, notRunning⟩ := inv.returned finished
  cases status : s.row.status with
  | pending => exact absurd status notPending
  | running => exact absurd status notRunning
  | stopping =>
    have settling := inv.stopping status
    rcases stop with stop | stop <;> simp [stop, StopPhase.settling] at settling
  | stopped => exact ⟨rfl, inv.stopped status⟩
  | failed => exact absurd status inv.unfailed.1

def exampleCounts : Counts := ⟨4096, some 20, some 1⟩

/-- The capture expires, and is stopped before the stream has seen it. -/
def stoppedInTime : List Label :=
  [.starts, .starts, .starts, .starts, .streams, .expires, .stops, .stops, .stops, .stops, .streams, .streams,
    .receives, .finishes, .stops, .stops, .stops, .stops]

/-- The capture expires, the stream sees it and capd forgets it; the stop request marks the
    row before the callback reads it, and gets `unknown session`. -/
def stoppedTooLate : List Label :=
  [.starts, .starts, .starts, .starts, .streams, .expires, .streams, .streams, .stops, .stops, .stops, .stops,
    .stops, .receives, .finishes]

end Marlinspike.Capture.Ending
