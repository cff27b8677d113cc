import Mathlib.Tactic.FinCases
import Mathlib.Tactic.SplitIfs
import Marlinspike.Transition
import Marlinspike.Weights
import Marlinspike.Capture.Manager

/-!
The local capture sessions of one process: any number of start requests, stop requests
and finished callbacks, cut where they touch the database, the manager or capd, in any
order of their steps.

Lock table and rows agree whenever all of them have returned (`locks_match_rows`) as
long as no client call raises anything but a `CapdError` and no stop takes a row that is
still `pending`. The cap on concurrent captures is checked long before the hub runs, so
it holds as long as each check leaves room for the starts that are under way
(`cap_holds_with_room`).
-/
namespace Marlinspike.Capture.Lifecycle
open Marlinspike.Transition Marlinspike.Weights Marlinspike.Capture.Manager

/-- How a call of the client ends. -/
inductive Outcome where
  | ok
  | unavailable
  | error
  /-- With any other exception: a receive timeout, a reply that is no JSON. -/
  | raised
deriving DecidableEq, Repr

/-- A start request, at its next step. -/
inductive StartPhase where
  /-- Before `active_session_count` and before `acquire_interface`. -/
  | counting
  | locking
  /-- Before the row is committed, and in `client.start`. -/
  | inserting
  | calling
  /-- After a `CapdError`: before the row is `failed`, before `release_interface`. -/
  | failing
  | releasing
  /-- After its reply: before the row is `running`, `register_hub` and `hub.start`. -/
  | answered
  | registering
  | launching
  | returned
  | refused
  | raised
deriving DecidableEq, Repr

/-- A stop request, at its next step. -/
inductive StopPhase where
  /-- Before the row is read, before it is `stopping`, and in `client.stop`. -/
  | reading
  | marking
  | calling
  /-- After its reply: before the row is `stopped`, `drop_hub` and `release_interface`. -/
  | recording
  | dropping
  | releasing
  /-- After a `CapdError`: before the row is `failed`, `release_interface` and `drop_hub`. -/
  | failing
  | freeing
  | discarding
  | returned
  | raised
deriving DecidableEq, Repr

inductive HubPhase where
  | absent
  | running
  | ended
deriving DecidableEq, Repr

/-- The finished callback, at its next step. -/
inductive FinishedPhase where
  | idle
  /-- Before the row is read, and before it is written, with or without a final frame. -/
  | reading (finalFrame : Bool)
  | writing (finalFrame : Bool)
  /-- Before `release_interface` and before `drop_hub`. -/
  | releasing
  | dropping
  | returned
deriving DecidableEq, Repr

/-- A session, with the requests about it. -/
structure Session where
  interface : String
  /-- `none` before the row is committed. -/
  row : Option Status
  start : StartPhase
  stops : List StopPhase
  hub : HubPhase
  /-- The hub is in `manager._hubs`. -/
  registered : Bool
  finished : FinishedPhase
deriving DecidableEq, Repr

/-- What a step does with the session's lock. -/
inductive LockUse where
  | keeps
  | releases
deriving DecidableEq, Repr

inductive Move where
  | starts
  | startAnswered (outcome : Outcome)
  | stopRequested
  | stops (j : Nat)
  | stopAnswered (j : Nat) (outcome : Outcome)
  | hubEnds (finalFrame : Bool)
  | finishes
deriving DecidableEq, Repr

/-! ### `_start_capture_session` -/

def Session.starts (s : Session) : Option (Session × LockUse) :=
  match s.start with
  | .inserting => some ({ s with row := some .pending, start := .calling }, .keeps)
  | .failing => some ({ s with row := some .failed, start := .releasing }, .keeps)
  | .releasing => some ({ s with start := .returned }, .releases)
  | .answered => some ({ s with row := some .running, start := .registering }, .keeps)
  | .registering => some ({ s with registered := true, start := .launching }, .keeps)
  | .launching => some ({ s with hub := .running, start := .returned }, .keeps)
  | _ => none

def Session.startAnswered (s : Session) (outcome : Outcome) : Option (Session × LockUse) :=
  match s.start, outcome with
  | .calling, .ok => some ({ s with start := .answered }, .keeps)
  | .calling, .unavailable | .calling, .error => some ({ s with start := .failing }, .keeps)
  | .calling, .raised => some ({ s with start := .raised }, .keeps)
  | _, _ => none

/-! ### `stop_session` -/

def Session.setStop (s : Session) (j : Nat) (phase : StopPhase) : Session := { s with stops := s.stops.set j phase }

def Session.stopsAt (s : Session) (j : Nat) : Option (Session × LockUse) :=
  match s.stops[j]? with
  | some .reading =>
    if s.row = some .running ∨ s.row = some .pending then some (s.setStop j .marking, .keeps)
    else some (s.setStop j .returned, .keeps)
  | some .marking => some ({ s.setStop j .calling with row := some .stopping }, .keeps)
  | some .recording => some ({ s.setStop j .dropping with row := some .stopped }, .keeps)
  -- `hub.shutdown` only sets an event, which the hub's loop looks at with its next frame.
  | some .dropping => some ({ s.setStop j .releasing with registered := false }, .keeps)
  | some .releasing => some (s.setStop j .returned, .releases)
  | some .failing => some ({ s.setStop j .freeing with row := some .failed }, .keeps)
  | some .freeing => some (s.setStop j .discarding, .releases)
  | some .discarding => some ({ s.setStop j .returned with registered := false }, .keeps)
  | _ => none

def Session.stopAnswered (s : Session) (j : Nat) (outcome : Outcome) : Option (Session × LockUse) :=
  match s.stops[j]?, outcome with
  | some .calling, .ok => some (s.setStop j .recording, .keeps)
  | some .calling, .unavailable | some .calling, .error => some (s.setStop j .failing, .keeps)
  | some .calling, .raised => some (s.setStop j .raised, .keeps)
  | _, _ => none

/-! ### The hub and `_make_session_finalizer` -/

def Session.hubEnds (s : Session) (finalFrame : Bool) : Option (Session × LockUse) :=
  if s.hub = .running then some ({ s with hub := .ended, finished := .reading finalFrame }, .keeps) else none

def Session.finishes (s : Session) : Option (Session × LockUse) :=
  match s.finished with
  | .reading finalFrame =>
    if s.row = some .running then some ({ s with finished := .writing finalFrame }, .keeps)
    else some ({ s with finished := .returned }, .keeps)
  | .writing finalFrame =>
    some ({ s with row := some (if finalFrame then .stopped else .failed), finished := .releasing }, .keeps)
  | .releasing => some ({ s with finished := .dropping }, .releases)
  | .dropping => some ({ s with registered := false, finished := .returned }, .keeps)
  | _ => none

def Session.moves (s : Session) : Move → Option (Session × LockUse)
  | .starts => s.starts
  | .startAnswered outcome => s.startAnswered outcome
  | .stopRequested => some ({ s with stops := s.stops ++ [.reading] }, .keeps)
  | .stops j => s.stopsAt j
  | .stopAnswered j outcome => s.stopAnswered j outcome
  | .hubEnds finalFrame => s.hubEnds finalFrame
  | .finishes => s.finishes

/-! ### The process -/

/-- A session's uuid is its place in the list. -/
structure World where
  locks : Locks Nat
  sessions : List Session

def World.init : World := ⟨PyDict.empty, []⟩

inductive Label where
  /-- A start request that the policy has let through. -/
  | requests (interface : String)
  | counts (k : Nat)
  | acquires (k : Nat)
  | moves (k : Nat) (move : Move)
deriving DecidableEq, Repr

/-- `active_session_count`. -/
def World.activeSessionCount (w : World) : Nat := w.sessions.countP fun s => s.registered ∧ s.hub = .running

def World.setSession (w : World) (k : Nat) (s : Session) : World := { w with sessions := w.sessions.set k s }

def counts (maxConcurrent : Nat) (w : World) (k : Nat) : Option World :=
  match w.sessions[k]? with
  | some s =>
    if s.start = .counting then
      if w.activeSessionCount ≥ maxConcurrent then some (w.setSession k { s with start := .refused })
      else some (w.setSession k { s with start := .locking })
    else none
  | none => none

def acquires (w : World) (k : Nat) : Option World :=
  match w.sessions[k]? with
  | some s =>
    if s.start = .locking then
      match acquireInterface w.locks s.interface k with
      | (some _, _) => some (w.setSession k { s with start := .refused })
      | (none, locks) => some { w.setSession k { s with start := .inserting } with locks := locks }
    else none
  | none => none

def moves (w : World) (k : Nat) (move : Move) : Option World :=
  match w.sessions[k]? with
  | some s =>
    match s.moves move with
    | some (t, .keeps) => some (w.setSession k t)
    | some (t, .releases) => some { w.setSession k t with locks := releaseInterface w.locks s.interface k }
    | none => none
  | none => none

def step (maxConcurrent : Nat) (w : World) : Label → Option World
  | .requests interface =>
    some { w with sessions := w.sessions ++ [⟨interface, none, .counting, [], .absent, false, .idle⟩] }
  | .counts k => counts maxConcurrent w k
  | .acquires k => acquires w k
  | .moves k move => moves w k move

/-! ### What holds of a session at every moment -/

/-- `_start_capture_session` has committed `running`, or has given up. -/
def StartPhase.begun : StartPhase → Bool
  | .registering | .launching | .returned => true
  | _ => false

/-- The stop has not found anything to do. -/
def StopPhase.passive : StopPhase → Bool
  | .reading | .returned => true
  | _ => false

/-- The stop has not touched the row. -/
def StopPhase.early : StopPhase → Bool
  | .reading | .marking | .returned => true
  | _ => false

/-- The stop has the row's next status still to write. -/
def StopPhase.settling : StopPhase → Bool
  | .calling | .recording | .failing => true
  | _ => false

/-- The stop has the lock still to release. -/
def StopPhase.holding : StopPhase → Bool
  | .dropping | .releasing | .freeing => true
  | phase => phase.settling

def FinishedPhase.early : FinishedPhase → Bool
  | .releasing | .dropping => false
  | _ => true

/-- The row and the lock that belong to a phase of the start request. -/
def RowOf (owns : Prop) (row : Option Status) : StartPhase → Prop
  | .counting | .locking | .refused => row = none ∧ ¬owns
  | .inserting => row = none ∧ owns
  | .calling | .failing | .answered => row = some .pending ∧ owns
  | .releasing => row = some .failed ∧ owns
  | .registering | .launching | .returned => row ≠ none ∧ row ≠ some .pending
  | .raised => False

structure Sound (owns : Prop) (s : Session) : Prop where
  calm : .raised ∉ s.stops
  row : RowOf owns s.row s.start
  unbegun : s.start.begun = false → (∀ stop ∈ s.stops, stop.passive) ∧ s.finished = .idle ∧ s.hub = .absent
  running : s.row = some .running → owns ∧ (∀ stop ∈ s.stops, stop.early) ∧ s.finished.early
  stopping : s.row = some .stopping → ∃ stop ∈ s.stops, stop.settling
  owned : owns → s.start.begun → s.row = some .running ∨ (∃ stop ∈ s.stops, stop.holding) ∨ s.finished = .releasing
  hub : s.hub = .running → s.finished = .idle
  wiring : s.start = .registering ∨ s.start = .launching → s.hub = .absent ∧ s.finished = .idle

theorem early_of_passive {stop : StopPhase} (passive : stop.passive) : stop.early := by
  cases stop <;> trivial

theorem rowOf_begun {owns : Prop} {row : Option Status} {start : StartPhase} (begun : start.begun) :
    RowOf owns row start ↔ row ≠ none ∧ row ≠ some .pending := by
  cases start <;> first | rfl | simp [StartPhase.begun] at begun

/-- A row is `running` or `stopping` only behind a start request that has committed it. -/
theorem begun_of_row {owns : Prop} {row : Option Status} {start : StartPhase} (rowOf : RowOf owns row start)
    (live : row = some .running ∨ row = some .stopping) : start.begun := by
  cases start <;> simp only [RowOf, StartPhase.begun] at rowOf ⊢ <;> rcases live with rfl | rfl <;> simp at rowOf

theorem mem_set_self {stops : List StopPhase} {j : Nat} {old phase : StopPhase} (at_ : stops[j]? = some old) :
    phase ∈ stops.set j phase := by
  obtain ⟨within, -⟩ := List.getElem?_eq_some_iff.mp at_
  exact List.mem_iff_getElem?.mpr ⟨j, List.getElem?_set_self within⟩

/-- A list of stops of which one has gone on still has one of a kind. -/
theorem exists_set {stops : List StopPhase} {kind : StopPhase → Bool} {j : Nat} {old phase : StopPhase}
    (at_ : stops[j]? = some old) (some_ : ∃ stop ∈ stops, kind stop) (kept : kind old → kind phase) :
    ∃ stop ∈ stops.set j phase, kind stop := by
  obtain ⟨stop, member, holds⟩ := some_
  obtain ⟨i, found⟩ := List.mem_iff_getElem?.mp member
  by_cases same : j = i
  · subst same
    obtain rfl := Option.some.inj (at_.symm.trans found)
    exact ⟨phase, mem_set_self at_, kept holds⟩
  · exact ⟨stop, List.mem_iff_getElem?.mpr ⟨i, by rw [List.getElem?_set_ne same, found]⟩, holds⟩

/-! ### What a step of a request keeps -/

section Moves
variable {owns : Prop} {s : Session} (sound : Sound owns s)
include sound

theorem begun_of_stop {j : Nat} {old : StopPhase} (at_ : s.stops[j]? = some old) (active : old.passive = false) :
    s.start.begun := by
  by_contra unbegun
  have passive := (sound.unbegun (by simpa using unbegun)).1 old (List.mem_of_getElem? at_)
  simp [passive] at active

theorem begun_of_finished (active : s.finished ≠ .idle) : s.start.begun := by
  by_contra unbegun
  exact active (sound.unbegun (by simpa using unbegun)).2.1

/-- A stop goes on and writes the row. -/
theorem sound_written {j : Nat} {old phase : StopPhase} {status : Status} {registered : Bool}
    (at_ : s.stops[j]? = some old) (active : old.passive = false) (holding : phase.holding)
    (settled : status ≠ .pending ∧ status ≠ .running) (settling : status = .stopping → phase.settling) :
    Sound owns { s with stops := s.stops.set j phase, row := some status, registered := registered } := by
  have begun := begun_of_stop sound at_ active
  have placed : phase ∈ s.stops.set j phase := mem_set_self at_
  refine ⟨?_, ?_, ?_, ?_, ?_, ?_, sound.hub, sound.wiring⟩
  · intro member
    rcases List.mem_or_eq_of_mem_set member with before | rfl
    · exact sound.calm before
    · cases holding
  · exact (rowOf_begun begun).mpr ⟨by simp, by simpa using settled.1⟩
  · intro unbegun
    exact absurd begun (by simp [unbegun])
  · intro running
    exact absurd (Option.some.inj running) settled.2
  · intro stopping
    exact ⟨phase, placed, settling (Option.some.inj stopping)⟩
  · exact fun _ _ => .inr (.inl ⟨phase, placed, holding⟩)

/-- A stop that has marked the row goes on without writing it. -/
theorem sound_passed {owns' : Prop} {j : Nat} {old phase : StopPhase} {registered : Bool}
    (at_ : s.stops[j]? = some old) (late : old.early = false) (calm : phase ≠ .raised)
    (settling : old.settling → phase.settling) (kept : owns' → owns ∧ (old.holding → phase.holding)) :
    Sound owns' { s with stops := s.stops.set j phase, registered := registered } := by
  have active : old.passive = false := by
    cases passive : old.passive with
    | false => rfl
    | true => exact absurd (early_of_passive passive) (by simp [late])
  have begun := begun_of_stop sound at_ active
  have notRunning : s.row ≠ some .running := by
    intro running
    have early := (sound.running running).2.1 old (List.mem_of_getElem? at_)
    simp [early] at late
  refine ⟨?_, ?_, ?_, ?_, ?_, ?_, sound.hub, sound.wiring⟩
  · intro member
    rcases List.mem_or_eq_of_mem_set member with before | rfl
    · exact sound.calm before
    · exact calm rfl
  · exact (rowOf_begun begun).mpr ((rowOf_begun begun).mp sound.row)
  · intro unbegun
    exact absurd begun (by simp [unbegun])
  · exact fun running => absurd running notRunning
  · exact fun stopping => exists_set at_ (sound.stopping stopping) settling
  · intro owned _
    obtain ⟨owned, holding⟩ := kept owned
    rcases sound.owned owned begun with running | held | releasing
    · exact absurd running notRunning
    · exact .inr (.inl (exists_set at_ held holding))
    · exact .inr (.inr releasing)

/-- A stop has read the row. -/
theorem sound_read {j : Nat} {phase : StopPhase} (at_ : s.stops[j]? = some .reading) (early : phase.early)
    (passive : s.row ≠ some .running → phase.passive) : Sound owns (s.setStop j phase) := by
  have others {stop} (member : stop ∈ s.stops.set j phase) : stop ∈ s.stops ∨ stop = phase :=
    List.mem_or_eq_of_mem_set member
  refine ⟨?_, sound.row, ?_, ?_, ?_, ?_, sound.hub, sound.wiring⟩
  · intro member
    rcases others member with before | rfl
    · exact sound.calm before
    · cases early
  · intro unbegun
    obtain ⟨before, rest⟩ := sound.unbegun unbegun
    refine ⟨?_, rest⟩
    intro stop member
    rcases others member with member | rfl
    · exact before stop member
    · refine passive fun running => ?_
      have begun := begun_of_row sound.row (.inl running)
      exact absurd (begun.symm.trans unbegun) (by decide)
  · intro running
    obtain ⟨owned, before, finished⟩ := sound.running running
    refine ⟨owned, ?_, finished⟩
    intro stop member
    rcases others member with member | rfl
    · exact before stop member
    · exact early
  · exact fun stopping => exists_set at_ (sound.stopping stopping) (fun none_ => by cases none_)
  · intro owned begun
    exact (sound.owned owned begun).imp_right
      (Or.imp_left fun held => exists_set at_ held fun none_ => by cases none_)

/-- The start request goes on, and has not committed `running`. -/
theorem sound_unbegun {start : StartPhase} {row : Option Status} {owns' : Prop} (before : s.start.begun = false)
    (unbegun : start.begun = false) (rowOf : RowOf owns' row start) :
    Sound owns' { s with start := start, row := row } := by
  have notBegun (live : row = some .running ∨ row = some .stopping) : False := by
    have begun := begun_of_row rowOf live
    simp [unbegun] at begun
  refine ⟨sound.calm, rowOf, fun _ => sound.unbegun before, fun running => (notBegun (.inl running)).elim,
    fun stopping => (notBegun (.inr stopping)).elim, ?_, sound.hub, fun _ => (sound.unbegun before).2.symm⟩
  intro _ begun
  simp [unbegun] at begun

/-- The start request commits `running`, or is done with a `failed` row. -/
theorem sound_began {start : StartPhase} {row : Option Status} {owns' : Prop} (before : s.start.begun = false)
    (begun : start.begun) (ended : row = some .running ∧ owns' ∨ row = some .failed ∧ ¬owns') :
    Sound owns' { s with start := start, row := row } := by
  obtain ⟨passive, idle, absent⟩ := sound.unbegun before
  refine ⟨sound.calm, (rowOf_begun begun).mpr ?_, ?_, ?_, ?_, ?_, sound.hub, fun _ => ⟨absent, idle⟩⟩
  · rcases ended with ⟨rfl, -⟩ | ⟨rfl, -⟩ <;> simp
  · intro unbegun
    simp [begun] at unbegun
  · rintro rfl
    have owned : owns' := by simpa using ended
    exact ⟨owned, fun stop member => early_of_passive (passive stop member), by simp only [idle]; rfl⟩
  · rintro rfl
    simp at ended
  · intro owned _
    refine .inl ?_
    rcases ended with ⟨running, -⟩ | ⟨-, free⟩
    · exact running
    · exact absurd owned free

/-- The start request wires up the hub. -/
theorem sound_wired {start : StartPhase} {hub : HubPhase} {registered : Bool}
    (wiring : s.start = .registering ∨ s.start = .launching) (begun : start.begun)
    (absent : start = .registering ∨ start = .launching → hub = .absent) :
    Sound owns { s with start := start, hub := hub, registered := registered } := by
  have before : s.start.begun := by rcases wiring with phase | phase <;> rw [phase] <;> rfl
  have idle := (sound.wiring wiring).2
  refine ⟨sound.calm, (rowOf_begun begun).mpr ((rowOf_begun before).mp sound.row), ?_, sound.running, sound.stopping,
    fun owned _ => sound.owned owned before, fun _ => idle, fun is => ⟨absent is, idle⟩⟩
  intro unbegun
  simp [begun] at unbegun

/-- The callback goes on, behind a hub that has ended. -/
theorem sound_called {owns' : Prop} {finished : FinishedPhase} {row : Option Status} {hub : HubPhase}
    {registered : Bool} (begun : s.start.begun) (ended : hub ≠ .running) (wired : ¬(s.start = .registering ∨ s.start = .launching))
    (rowOf : row ≠ none ∧ row ≠ some .pending)
    (running : row = some .running → s.row = some .running ∧ owns' ∧ finished.early)
    (stopping : row = some .stopping → s.row = some .stopping)
    (owned : owns' → owns ∧ (finished = .releasing ∨ row = s.row ∧ s.finished ≠ .releasing)) :
    Sound owns' { s with finished := finished, row := row, hub := hub, registered := registered } := by
  refine ⟨sound.calm, (rowOf_begun begun).mpr rowOf, ?_, ?_, fun is => sound.stopping (stopping is), ?_,
    fun is => absurd is ended, fun is => absurd is wired⟩
  · intro unbegun
    exact absurd (begun.symm.trans unbegun) (by decide)
  · intro is
    obtain ⟨before, owned, early⟩ := running is
    exact ⟨owned, (sound.running before).2.1, early⟩
  · intro now _
    obtain ⟨before, releasing | ⟨same, notReleasing⟩⟩ := owned now
    · exact .inr (.inr releasing)
    · have held := sound.owned before begun
      simp only [same]
      exact held.imp_right (Or.imp_right fun releasing => absurd releasing notReleasing)

end Moves

/-! ### Every move -/

/-- What the client may do, and when a stop may come: no exception but a `CapdError`, and
    no stop that reads a row still `pending`. -/
def Session.Handled (s : Session) : Move → Prop
  | .startAnswered outcome | .stopAnswered _ outcome => outcome ≠ .raised
  | .stops j => s.stops[j]? = some .reading → s.row ≠ some .pending
  | _ => True

/-- Whether the session holds its lock after the move. -/
def LockUse.after (owns : Prop) : LockUse → Prop
  | .keeps => owns
  | .releases => False

section Handled
variable {owns : Prop} {s t : Session} {use : LockUse} (sound : Sound owns s)
include sound

theorem sound_starts (moved : s.starts = some (t, use)) : Sound (use.after owns) t := by
  have rowOf := sound.row
  unfold Session.starts at moved
  split at moved
  · rename_i phase
    rw [phase] at rowOf
    cases moved
    exact sound_unbegun sound (by rw [phase]; rfl) rfl ⟨rfl, rowOf.2⟩
  · rename_i phase
    rw [phase] at rowOf
    cases moved
    exact sound_unbegun sound (by rw [phase]; rfl) rfl ⟨rfl, rowOf.2⟩
  · rename_i phase
    rw [phase] at rowOf
    cases moved
    have began : Sound _ { s with start := .returned, row := s.row } :=
      sound_began sound (by rw [phase]; rfl) rfl (.inr ⟨rowOf.1, id⟩)
    exact began
  · rename_i phase
    rw [phase] at rowOf
    cases moved
    exact sound_began sound (by rw [phase]; rfl) rfl (.inl ⟨rfl, rowOf.2⟩)
  · rename_i phase
    cases moved
    exact sound_wired sound (.inl phase) rfl fun _ => (sound.wiring (.inl phase)).1
  · rename_i phase
    cases moved
    exact sound_wired sound (.inr phase) rfl nofun
  · cases moved

theorem sound_startAnswered {outcome : Outcome} (handled : outcome ≠ .raised)
    (moved : s.startAnswered outcome = some (t, use)) : Sound (use.after owns) t := by
  have rowOf := sound.row
  unfold Session.startAnswered at moved
  split at moved
  · rename_i phase
    rw [phase] at rowOf
    cases moved
    exact sound_unbegun sound (by rw [phase]; rfl) rfl rowOf
  · rename_i phase
    rw [phase] at rowOf
    cases moved
    exact sound_unbegun sound (by rw [phase]; rfl) rfl rowOf
  · rename_i phase
    rw [phase] at rowOf
    cases moved
    exact sound_unbegun sound (by rw [phase]; rfl) rfl rowOf
  · exact absurd rfl handled
  · cases moved

theorem sound_stopRequested : Sound owns { s with stops := s.stops ++ [.reading] } := by
  have others {stop} (member : stop ∈ s.stops ++ [.reading]) : stop ∈ s.stops ∨ stop = .reading := by
    simpa using member
  refine ⟨?_, sound.row, ?_, ?_, ?_, ?_, sound.hub, sound.wiring⟩
  · intro member
    rcases others member with before | impossible
    · exact sound.calm before
    · cases impossible
  · intro unbegun
    obtain ⟨before, rest⟩ := sound.unbegun unbegun
    refine ⟨?_, rest⟩
    intro stop member
    rcases others member with member | rfl
    · exact before stop member
    · rfl
  · intro running
    obtain ⟨owned, before, finished⟩ := sound.running running
    refine ⟨owned, ?_, finished⟩
    intro stop member
    rcases others member with member | rfl
    · exact before stop member
    · rfl
  · intro stopping
    obtain ⟨stop, member, settling⟩ := sound.stopping stopping
    exact ⟨stop, List.mem_append_left _ member, settling⟩
  · intro owned begun
    refine (sound.owned owned begun).imp_right (Or.imp_left ?_)
    rintro ⟨stop, member, holding⟩
    exact ⟨stop, List.mem_append_left _ member, holding⟩

theorem sound_stopsAt {j : Nat} (handled : s.stops[j]? = some .reading → s.row ≠ some .pending)
    (moved : s.stopsAt j = some (t, use)) : Sound (use.after owns) t := by
  unfold Session.stopsAt at moved
  split at moved
  · rename_i at_
    split_ifs at moved with live
    · cases moved
      have running := live.resolve_right (handled at_)
      exact sound_read sound at_ rfl fun notRunning => absurd running notRunning
    · cases moved
      exact sound_read sound at_ rfl fun _ => rfl
  · rename_i at_
    cases moved
    exact sound_written sound at_ rfl rfl (by decide) fun _ => rfl
  · rename_i at_
    cases moved
    exact sound_written sound at_ rfl rfl (by decide) nofun
  · rename_i at_
    cases moved
    exact sound_passed sound at_ rfl nofun nofun fun owned => ⟨owned, fun _ => rfl⟩
  · rename_i at_
    cases moved
    exact sound_passed sound at_ rfl nofun nofun nofun
  · rename_i at_
    cases moved
    exact sound_written sound at_ rfl rfl (by decide) nofun
  · rename_i at_
    cases moved
    exact sound_passed sound at_ rfl nofun nofun nofun
  · rename_i at_
    cases moved
    exact sound_passed sound at_ rfl nofun nofun fun owned => ⟨owned, nofun⟩
  · cases moved

theorem sound_stopAnswered {j : Nat} {outcome : Outcome} (handled : outcome ≠ .raised)
    (moved : s.stopAnswered j outcome = some (t, use)) : Sound (use.after owns) t := by
  unfold Session.stopAnswered at moved
  split at moved
  · rename_i at_
    cases moved
    exact sound_passed sound at_ rfl nofun (fun _ => rfl) fun owned => ⟨owned, fun _ => rfl⟩
  · rename_i at_
    cases moved
    exact sound_passed sound at_ rfl nofun (fun _ => rfl) fun owned => ⟨owned, fun _ => rfl⟩
  · rename_i at_
    cases moved
    exact sound_passed sound at_ rfl nofun (fun _ => rfl) fun owned => ⟨owned, fun _ => rfl⟩
  · exact absurd rfl handled
  · cases moved

theorem sound_hubEnds {finalFrame : Bool} (moved : s.hubEnds finalFrame = some (t, use)) :
    Sound (use.after owns) t := by
  unfold Session.hubEnds at moved
  split_ifs at moved with hub
  cases moved
  have idle := sound.hub hub
  have begun : s.start.begun := by
    by_contra unbegun
    simp [(sound.unbegun (by simpa using unbegun)).2.2] at hub
  have wired (wiring : s.start = .registering ∨ s.start = .launching) : False := by
    simp [(sound.wiring wiring).1] at hub
  exact sound_called sound begun nofun wired ((rowOf_begun begun).mp sound.row)
    (fun running => ⟨running, (sound.running running).1, rfl⟩) id fun owned => ⟨owned, .inr ⟨rfl, by simp [idle]⟩⟩

theorem sound_finishes (moved : s.finishes = some (t, use)) : Sound (use.after owns) t := by
  have ended (active : s.finished ≠ .idle) : s.hub ≠ .running := fun hub => active (sound.hub hub)
  have wired (active : s.finished ≠ .idle) : ¬(s.start = .registering ∨ s.start = .launching) :=
    fun wiring => active (sound.wiring wiring).2
  unfold Session.finishes at moved
  split at moved
  · rename_i phase
    have active : s.finished ≠ .idle := by simp [phase]
    have begun := begun_of_finished sound active
    have rowOf := (rowOf_begun begun).mp sound.row
    split_ifs at moved with running
    · cases moved
      exact sound_called sound begun (ended active) (wired active) rowOf
        (fun running => ⟨running, (sound.running running).1, rfl⟩) id fun owned => ⟨owned, .inr ⟨rfl, by simp [phase]⟩⟩
    · cases moved
      exact sound_called sound begun (ended active) (wired active) rowOf (fun is => absurd is running) id
        fun owned => ⟨owned, .inr ⟨rfl, by simp [phase]⟩⟩
  · rename_i finalFrame phase
    have active : s.finished ≠ .idle := by simp [phase]
    cases moved
    refine sound_called sound (begun_of_finished sound active) (ended active) (wired active) ?_ ?_ ?_
      fun owned => ⟨owned, .inl rfl⟩
    all_goals cases finalFrame <;> simp
  · rename_i phase
    have active : s.finished ≠ .idle := by simp [phase]
    have begun := begun_of_finished sound active
    cases moved
    refine sound_called sound begun (ended active) (wired active) ((rowOf_begun begun).mp sound.row) ?_ id nofun
    intro running
    have early := (sound.running running).2.2
    simp [phase, FinishedPhase.early] at early
  · rename_i phase
    have active : s.finished ≠ .idle := by simp [phase]
    have begun := begun_of_finished sound active
    cases moved
    exact sound_called sound begun (ended active) (wired active) ((rowOf_begun begun).mp sound.row)
      (fun running => ⟨running, (sound.running running).1, rfl⟩) id fun owned => ⟨owned, .inr ⟨rfl, by simp [phase]⟩⟩
  · cases moved

theorem sound_moves {move : Move} (handled : s.Handled move) (moved : s.moves move = some (t, use)) :
    Sound (use.after owns) t := by
  cases move with
  | starts => exact sound_starts sound moved
  | startAnswered outcome => exact sound_startAnswered sound handled moved
  | stopRequested =>
    cases moved
    exact sound_stopRequested sound
  | stops j => exact sound_stopsAt sound handled moved
  | stopAnswered j outcome => exact sound_stopAnswered sound handled moved
  | hubEnds finalFrame => exact sound_hubEnds sound moved
  | finishes => exact sound_finishes sound moved

end Handled

theorem interface_moves {s t : Session} {move : Move} {use : LockUse} (moved : s.moves move = some (t, use)) :
    t.interface = s.interface := by
  cases move <;>
    simp only [Session.moves, Session.starts, Session.startAnswered, Session.stopsAt, Session.stopAnswered,
      Session.hubEnds, Session.finishes] at moved
  all_goals try split at moved
  all_goals try split_ifs at moved
  all_goals cases moved
  all_goals rfl

/-! ### What holds of the process at every moment -/

def Owns (w : World) (k : Nat) (s : Session) : Prop := w.locks.get s.interface = some k

structure Invariant (w : World) : Prop where
  exclusive : Exclusive w.locks
  holders : ∀ interface k, w.locks.get interface = some k → ∃ s, w.sessions[k]? = some s ∧ s.interface = interface
  sound : ∀ k s, w.sessions[k]? = some s → Sound (Owns w k s) s

theorem invariant_init : Invariant World.init := by
  refine ⟨exclusive_empty, ?_, ?_⟩
  · intro interface k held
    cases held
  · intro k s found
    cases found

/-- One session moves, and no other session's lock. -/
theorem invariant_set {w : World} {locks : Locks Nat} {k : Nat} {s t : Session} (inv : Invariant w)
    (at_ : w.sessions[k]? = some s) (same : t.interface = s.interface) (exclusive : Exclusive locks)
    (others : ∀ interface j, j ≠ k → (locks.get interface = some j ↔ w.locks.get interface = some j))
    (own : ∀ interface, locks.get interface = some k → interface = s.interface)
    (sound : Sound (locks.get s.interface = some k) t) : Invariant ⟨locks, w.sessions.set k t⟩ := by
  obtain ⟨within, -⟩ := List.getElem?_eq_some_iff.mp at_
  refine ⟨exclusive, ?_, ?_⟩
  · intro interface j held
    by_cases moved : j = k
    · subst moved
      exact ⟨t, List.getElem?_set_self within, same.trans (own interface held).symm⟩
    · obtain ⟨u, found, at_interface⟩ := inv.holders interface j ((others interface j moved).mp held)
      exact ⟨u, by rw [List.getElem?_set_ne (Ne.symm moved), found], at_interface⟩
  · intro j u found
    by_cases moved : j = k
    · subst moved
      obtain rfl : t = u := by simpa [List.getElem?_set_self within] using found
      simpa [Owns, same] using sound
    · rw [List.getElem?_set_ne (Ne.symm moved)] at found
      have before := inv.sound j u found
      unfold Owns at before ⊢
      rwa [← others u.interface j moved] at before

theorem own_interface {w : World} {k : Nat} {s : Session} (inv : Invariant w) (at_ : w.sessions[k]? = some s)
    {interface : String} (held : w.locks.get interface = some k) : interface = s.interface := by
  obtain ⟨u, found, rfl⟩ := inv.holders interface k held
  rw [at_] at found
  rw [Option.some.inj found]

/-- What the environment does in a step is handled by the code. -/
def Handled (w : World) : Label → Prop
  | .moves k move => ∀ s, w.sessions[k]? = some s → s.Handled move
  | _ => True

theorem invariant_requests {w : World} {interface : String} (inv : Invariant w) :
    Invariant { w with sessions := w.sessions ++ [⟨interface, none, .counting, [], .absent, false, .idle⟩] } := by
  have old {k : Nat} {s : Session} (found : w.sessions[k]? = some s) :
      (w.sessions ++ [⟨interface, none, .counting, [], .absent, false, .idle⟩])[k]? = some s := by
    obtain ⟨within, -⟩ := List.getElem?_eq_some_iff.mp found
    rw [List.getElem?_append_left within, found]
  refine ⟨inv.exclusive, ?_, ?_⟩
  · intro name k held
    obtain ⟨s, found, rfl⟩ := inv.holders name k held
    exact ⟨s, old found, rfl⟩
  · intro k s found
    rw [List.getElem?_append] at found
    split_ifs at found with within
    · exact inv.sound k s found
    · obtain ⟨rfl, new⟩ : s = ⟨interface, none, .counting, [], .absent, false, .idle⟩ ∧ k = w.sessions.length := by
        have single := List.getElem?_eq_some_iff.mp found
        obtain ⟨bound, eq⟩ := single
        simp only [List.length_singleton] at bound
        refine ⟨by simpa [Nat.lt_one_iff.mp bound] using eq.symm, by omega⟩
      have free : ¬w.locks.get interface = some k := by
        intro held
        obtain ⟨u, present, -⟩ := inv.holders interface k held
        obtain ⟨bound, -⟩ := List.getElem?_eq_some_iff.mp present
        omega
      exact ⟨nofun, ⟨rfl, free⟩, fun _ => ⟨nofun, rfl, rfl⟩, nofun, nofun, nofun, nofun, nofun⟩

theorem invariant_counts {maxConcurrent : Nat} {w w' : World} {k : Nat} (inv : Invariant w)
    (stepped : counts maxConcurrent w k = some w') : Invariant w' := by
  unfold counts at stepped
  split at stepped
  · rename_i s at_
    split_ifs at stepped with counting
    all_goals
      have sound := inv.sound k s at_
      have rowOf := sound.row
      rw [counting] at rowOf
      cases stepped
      exact invariant_set inv at_ rfl inv.exclusive (fun _ _ _ => Iff.rfl) (fun _ => own_interface inv at_)
        (sound_unbegun sound (by rw [counting]; rfl) rfl rowOf)
  · cases stepped

theorem invariant_acquires {w w' : World} {k : Nat} (inv : Invariant w) (stepped : acquires w k = some w') :
    Invariant w' := by
  unfold acquires at stepped
  split at stepped
  · rename_i s at_
    split_ifs at stepped with locking
    have sound := inv.sound k s at_
    have rowOf := sound.row
    rw [locking] at rowOf
    have unbegun : s.start.begun = false := by rw [locking]; rfl
    split at stepped
    · cases stepped
      exact invariant_set inv at_ rfl inv.exclusive (fun _ _ _ => Iff.rfl) (fun _ => own_interface inv at_)
        (sound_unbegun sound unbegun rfl rowOf)
    · rename_i locks acquired
      obtain ⟨taken, free, -⟩ := acquired_spec (show (acquireInterface w.locks s.interface k).1 = none by
        rw [acquired])
      have exclusive := exclusive_acquire (show (acquireInterface w.locks s.interface k).1 = none by
        rw [acquired])
      rw [acquired] at taken exclusive
      cases stepped
      simp only at taken exclusive
      subst taken
      refine invariant_set inv at_ rfl exclusive ?_ ?_ (sound_unbegun sound unbegun rfl ⟨rowOf.1, by simp⟩)
      · intro interface j other
        rw [PyDict.get_set]
        split_ifs with same
        · subst same
          refine ⟨fun is => absurd (Option.some.inj is).symm other, fun held => absurd (free j held) other⟩
        · rfl
      · intro interface held
        rw [PyDict.get_set] at held
        split_ifs at held with same
        · exact same.symm
        · exact own_interface inv at_ held
  · cases stepped

theorem invariant_moves {w w' : World} {k : Nat} {move : Move} (inv : Invariant w)
    (handled : Handled w (.moves k move)) (stepped : moves w k move = some w') : Invariant w' := by
  unfold moves at stepped
  split at stepped
  · rename_i s at_
    split at stepped
    · rename_i t moved
      cases stepped
      exact invariant_set inv at_ (interface_moves moved) inv.exclusive (fun _ _ _ => Iff.rfl)
        (fun _ => own_interface inv at_) (sound_moves (inv.sound k s at_) (handled s at_) moved)
    · rename_i t moved
      cases stepped
      refine invariant_set inv at_ (interface_moves moved) (exclusive_release inv.exclusive) ?_ ?_ ?_
      · intro interface j other
        rw [get_release]
        split_ifs with same
        · obtain ⟨rfl, held⟩ := same
          simp [held, Ne.symm other]
        · rfl
      · intro interface held
        rw [get_release] at held
        split_ifs at held
        exact own_interface inv at_ held
      · have sound := sound_moves (inv.sound k s at_) (handled s at_) moved
        have released : ¬(releaseInterface w.locks s.interface k).get s.interface = some k := by
          rw [get_release]
          split_ifs with held
          · intro is
            cases is
          · exact fun is => held ⟨rfl, is⟩
        rw [iff_false_intro released]
        exact sound
    · cases stepped
  · cases stepped

theorem invariant_step {maxConcurrent : Nat} {w w' : World} {label : Label} (inv : Invariant w)
    (handled : Handled w label) (stepped : step maxConcurrent w label = some w') : Invariant w' := by
  cases label with
  | requests interface =>
    cases stepped
    exact invariant_requests inv
  | counts k => exact invariant_counts inv stepped
  | acquires k => exact invariant_acquires inv stepped
  | moves k move => exact invariant_moves inv handled stepped

/-! ### Lock table and rows -/

/-- Every start request, stop request and callback has returned, or been refused, or raised. -/
def Session.Returned (s : Session) : Prop :=
  (s.start = .returned ∨ s.start = .refused ∨ s.start = .raised) ∧
    (∀ stop ∈ s.stops, stop = .returned ∨ stop = .raised) ∧ (s.finished = .idle ∨ s.finished = .returned)

/-- An interface has one holder, `any` is held alone, and when nothing is under way the
    locks are the running sessions' and no row is left in between. -/
structure Consistent (w : World) : Prop where
  single : ∀ interface a b, (interface, a) ∈ w.locks.items → (interface, b) ∈ w.locks.items → a = b
  exclusive : Exclusive w.locks
  held : (∀ s ∈ w.sessions, s.Returned) → ∀ interface k, w.locks.get interface = some k ↔
    ∃ s, w.sessions[k]? = some s ∧ s.interface = interface ∧ s.row = some .running
  settled : (∀ s ∈ w.sessions, s.Returned) → ∀ s ∈ w.sessions, s.row ≠ some .pending ∧ s.row ≠ some .stopping

section Settled
variable {owns : Prop} {s : Session}

theorem not_settling_of_returned {kind : StopPhase → Bool} (sound : Sound owns s) (returned : s.Returned)
    (active : kind .returned = false) : ¬∃ stop ∈ s.stops, kind stop := by
  rintro ⟨stop, member, is⟩
  rcases returned.2.1 stop member with rfl | rfl
  · exact absurd (active.symm.trans is) (by decide)
  · exact sound.calm member

theorem row_of_returned (sound : Sound owns s) (returned : s.Returned) :
    s.row ≠ some .pending ∧ s.row ≠ some .stopping := by
  have rowOf := sound.row
  refine ⟨?_, fun stopping => not_settling_of_returned sound returned rfl (sound.stopping stopping)⟩
  rcases returned.1 with start | start | start
  · rw [start] at rowOf
    exact rowOf.2
  · rw [start] at rowOf
    simp [rowOf.1]
  · rw [start] at rowOf
    exact rowOf.elim

theorem owns_of_returned (sound : Sound owns s) (returned : s.Returned) : owns ↔ s.row = some .running := by
  refine ⟨?_, fun running => (sound.running running).1⟩
  intro owned
  have rowOf := sound.row
  rcases returned.1 with start | start | start
  · rcases sound.owned owned (by rw [start]; rfl) with running | holding | releasing
    · exact running
    · exact absurd holding (not_settling_of_returned sound returned rfl)
    · rcases returned.2.2 with finished | finished <;> simp [finished] at releasing
  · rw [start] at rowOf
    exact absurd owned rowOf.2
  · rw [start] at rowOf
    exact rowOf.elim

end Settled

theorem consistent_of_invariant {w : World} (inv : Invariant w) : Consistent w := by
  refine ⟨?_, inv.exclusive, ?_, ?_⟩
  · intro interface a b first second
    have held := PyDict.mem_items_iff.mp first
    rw [PyDict.mem_items_iff.mp second] at held
    exact (Option.some.inj held).symm
  · intro returned interface k
    constructor
    · intro held
      obtain ⟨s, found, rfl⟩ := inv.holders interface k held
      have owns := owns_of_returned (inv.sound k s found) (returned s (List.mem_of_getElem? found))
      exact ⟨s, found, rfl, owns.mp held⟩
    · rintro ⟨s, found, rfl, running⟩
      exact (owns_of_returned (inv.sound k s found) (returned s (List.mem_of_getElem? found))).mpr running
  · intro returned s member
    obtain ⟨k, found⟩ := List.mem_iff_getElem?.mp member
    exact row_of_returned (inv.sound k s found) (returned s member)

/-- However the steps of the requests and the callbacks interleave, the lock table agrees
    with the rows as long as every step is one that the code handles. -/
theorem locks_match_rows (maxConcurrent : Nat) (labels : List Label)
    (meets : Meets (step maxConcurrent) Handled World.init labels) :
    Always (step maxConcurrent) Consistent World.init labels :=
  always_of_meets Invariant (fun _ _ _ inv handled stepped => invariant_step inv handled stepped)
    (fun _ => consistent_of_invariant) invariant_init meets

/-- A capture of `eth0` is started. -/
def started : List Label :=
  [.requests "eth0", .counts 0, .acquires 0, .moves 0 .starts, .moves 0 (.startAnswered .ok), .moves 0 .starts,
    .moves 0 .starts, .moves 0 .starts]

/-- It is stopped, and its hub ends with the final frame. -/
def stopped : List Label :=
  [.moves 0 .stopRequested, .moves 0 (.stops 0), .moves 0 (.stops 0), .moves 0 (.stopAnswered 0 .ok), .moves 0 (.stops 0),
    .moves 0 (.stops 0), .moves 0 (.stops 0), .moves 0 (.hubEnds true), .moves 0 .finishes]

theorem locks_match_rows_started_and_stopped :
    ∃ w, run (step 2) World.init (started ++ stopped) = some w ∧ Consistent w ∧
      (∀ s ∈ w.sessions, s.Returned ∧ s.row = some .stopped) := by
  obtain ⟨w, ran, ended⟩ : ∃ w, run (step 2) World.init (started ++ stopped) = some w ∧
      ∀ s ∈ w.sessions, s.Returned ∧ s.row = some .stopped := by
    refine ⟨_, rfl, ?_⟩
    intro s member
    obtain rfl := List.mem_singleton.mp member
    exact ⟨⟨.inl rfl, fun stop member => .inl (List.mem_singleton.mp member), .inr rfl⟩, rfl⟩
  have meets : Meets (step 2) Handled World.init (started ++ stopped) := by
    have before : Meets (step 2) Handled World.init started := by
      refine meets_of_labels ?_ _
      intro label member w
      fin_cases member <;> simp [Handled, Session.Handled]
    refine meets_append before rfl ?_
    refine meets_cons rfl (fun s found => ?_) <| meets_cons rfl (fun s found => ?_) <|
      meets_cons rfl (fun s found => ?_) <| meets_cons rfl (fun s found => ?_) <|
      meets_cons rfl (fun s found => ?_) <| meets_cons rfl (fun s found => ?_) <|
      meets_cons rfl (fun s found => ?_) <| meets_cons rfl (fun s found => ?_) <|
      meets_cons rfl (fun s found => ?_) trivial
    all_goals cases found
    all_goals simp [Session.Handled, Session.setStop]
  exact ⟨w, ran, always_last (locks_match_rows 2 (started ++ stopped) meets) ran, ended⟩

/-- A start whose reply does not come in time leaves its row `pending` and its lock held. -/
def timedOutStart : List Label :=
  [.requests "eth0", .counts 0, .acquires 0, .moves 0 .starts, .moves 0 (.startAnswered .raised)]

/-- A stop that takes the row while `start` is with capd, which does not know the session
    yet, leaves a running row without its lock. -/
def stoppedWhilePending : List Label :=
  [.requests "eth0", .counts 0, .acquires 0, .moves 0 .starts, .moves 0 .stopRequested, .moves 0 (.stops 0),
    .moves 0 (.stops 0), .moves 0 (.stopAnswered 0 .error), .moves 0 (.stops 0), .moves 0 (.stops 0),
    .moves 0 (.stops 0), .moves 0 (.startAnswered .ok), .moves 0 .starts, .moves 0 .starts, .moves 0 .starts]

theorem locks_do_not_match_rows :
    ¬Always (step 2) Consistent World.init timedOutStart ∧
      ¬Always (step 2) Consistent World.init stoppedWhilePending := by
  constructor
  · intro always
    obtain ⟨w, ran, returned, row⟩ : ∃ w, run (step 2) World.init timedOutStart = some w ∧
        (∀ s ∈ w.sessions, s.Returned) ∧ ∃ s ∈ w.sessions, s.row = some .pending := by
      refine ⟨_, rfl, ?_, _, List.mem_singleton.mpr rfl, rfl⟩
      intro s member
      obtain rfl := List.mem_singleton.mp member
      exact ⟨.inr (.inr rfl), nofun, .inl rfl⟩
    obtain ⟨s, member, pending⟩ := row
    exact ((always_last always ran).settled returned s member).1 pending
  · intro always
    obtain ⟨w, ran, returned, free, row⟩ : ∃ w, run (step 2) World.init stoppedWhilePending = some w ∧
        (∀ s ∈ w.sessions, s.Returned) ∧ w.locks.get "eth0" = none ∧
        ∃ s, w.sessions[0]? = some s ∧ s.interface = "eth0" ∧ s.row = some .running := by
      refine ⟨_, rfl, ?_, rfl, _, rfl, rfl, rfl⟩
      intro s member
      obtain rfl := List.mem_singleton.mp member
      exact ⟨.inl rfl, fun stop member => .inl (List.mem_singleton.mp member), .inl rfl⟩
    have held := ((always_last always ran).held returned "eth0" 0).mpr row
    simp [free] at held

/-! ### The cap on concurrent captures -/

/-- The StatsHubs that are running, in the registry or not. -/
def World.runningHubs (w : World) : Nat := w.sessions.countP (·.hub = .running)

/-- The start request has passed the check of the cap, and has not started its hub yet. -/
def StartPhase.admitted : StartPhase → Bool
  | .locking | .inserting | .calling | .answered | .registering | .launching => true
  | _ => false

/-- The places that a session takes. -/
def Session.places (s : Session) : Nat := (decide (s.hub = .running)).toNat + s.start.admitted.toNat

def World.places (w : World) : Nat := (w.sessions.map Session.places).sum

/-- A request that passes the check leaves a place for every hub that is running, be it
    registered or not, and for every start request that has passed before. -/
def Roomy (maxConcurrent : Nat) (w : World) : Label → Prop
  | .counts _ => w.activeSessionCount < maxConcurrent → w.places < maxConcurrent
  | _ => True

theorem runningHubs_le_places (w : World) : w.runningHubs ≤ w.places := by
  unfold World.runningHubs World.places
  induction w.sessions with
  | nil => rfl
  | cons s rest ih =>
    rw [List.countP_cons, List.map_cons, List.sum_cons]
    have own : (if decide (s.hub = .running) = true then 1 else 0) ≤ s.places := by
      unfold Session.places
      split_ifs with running <;> simp [running]
    omega

section Places
variable {s t : Session} {use : LockUse}

theorem places_starts (moved : s.starts = some (t, use)) : t.places ≤ s.places := by
  unfold Session.starts at moved
  split at moved
  -- The hub takes the place that its start request has held.
  case h_6 phase =>
    cases moved
    simp [Session.places, phase, StartPhase.admitted]
  case h_7 => cases moved
  all_goals
    rename_i phase
    cases moved
    simp [Session.places, phase, StartPhase.admitted]

theorem places_startAnswered {outcome : Outcome} (moved : s.startAnswered outcome = some (t, use)) :
    t.places ≤ s.places := by
  unfold Session.startAnswered at moved
  split at moved
  case h_5 => cases moved
  all_goals
    rename_i phase
    cases moved
    simp [Session.places, phase, StartPhase.admitted]

theorem places_stopsAt {j : Nat} (moved : s.stopsAt j = some (t, use)) : t.places = s.places := by
  unfold Session.stopsAt at moved
  split at moved
  case h_1 =>
    split_ifs at moved
    all_goals
      cases moved
      rfl
  case h_9 => cases moved
  all_goals
    cases moved
    rfl

theorem places_stopAnswered {j : Nat} {outcome : Outcome} (moved : s.stopAnswered j outcome = some (t, use)) :
    t.places = s.places := by
  unfold Session.stopAnswered at moved
  split at moved
  case h_5 => cases moved
  all_goals
    cases moved
    rfl

theorem places_finishes (moved : s.finishes = some (t, use)) : t.places = s.places := by
  unfold Session.finishes at moved
  split at moved
  case h_1 =>
    split_ifs at moved
    all_goals
      cases moved
      rfl
  case h_5 => cases moved
  all_goals
    cases moved
    rfl

/-- No move but the check takes a place. -/
theorem places_moves {move : Move} (moved : s.moves move = some (t, use)) : t.places ≤ s.places := by
  cases move with
  | starts => exact places_starts moved
  | startAnswered outcome => exact places_startAnswered moved
  | stopRequested =>
    cases moved
    exact le_rfl
  | stops j => exact (places_stopsAt moved).le
  | stopAnswered j outcome => exact (places_stopAnswered moved).le
  | hubEnds finalFrame =>
    simp only [Session.moves, Session.hubEnds] at moved
    split_ifs at moved with hub
    cases moved
    simp [Session.places, hub]
  | finishes => exact (places_finishes moved).le

end Places

theorem places_step {maxConcurrent : Nat} {w w' : World} {label : Label} (bounded : w.places ≤ maxConcurrent)
    (roomy : Roomy maxConcurrent w label) (stepped : step maxConcurrent w label = some w') :
    w'.places ≤ maxConcurrent := by
  cases label with
  | requests interface =>
    cases stepped
    unfold World.places at bounded ⊢
    rw [List.map_append, List.sum_append]
    exact bounded
  | counts k =>
    simp only [step, counts] at stepped
    split at stepped
    · rename_i s at_
      split_ifs at stepped with counting full
      · cases stepped
        exact (sum_set_le Session.places at_ (by simp [Session.places, StartPhase.admitted])).trans bounded
      · cases stepped
        have room : w.places < maxConcurrent := roomy (not_le.mp full)
        have taken : Session.places { s with start := .locking } = s.places + 1 := by
          simp [Session.places, counting, StartPhase.admitted]
        have sum := sum_set Session.places at_ { s with start := .locking }
        unfold World.places at room ⊢
        unfold World.setSession
        simp only
        omega
    · cases stepped
  | acquires k =>
    simp only [step, acquires] at stepped
    split at stepped
    · rename_i s at_
      split_ifs at stepped with locking
      split at stepped
      all_goals
        cases stepped
        exact (sum_set_le Session.places at_ (by simp [Session.places, locking, StartPhase.admitted])).trans bounded
    · cases stepped
  | moves k move =>
    simp only [step, moves] at stepped
    split at stepped
    · rename_i s at_
      split at stepped
      · rename_i t moved
        cases stepped
        exact (sum_set_le Session.places at_ (places_moves moved)).trans bounded
      · rename_i t moved
        cases stepped
        exact (sum_set_le Session.places at_ (places_moves moved)).trans bounded
      · cases stepped
    · cases stepped

/-- The hubs that run at one time stay within the cap as long as every check that lets a
    request through leaves it a place. -/
theorem cap_holds_with_room (maxConcurrent : Nat) (labels : List Label)
    (meets : Meets (step maxConcurrent) (Roomy maxConcurrent) World.init labels) :
    Always (step maxConcurrent) (fun w => w.runningHubs ≤ maxConcurrent) World.init labels :=
  always_of_meets (fun w => w.places ≤ maxConcurrent)
    (fun _ _ _ bounded roomy stepped => places_step bounded roomy stepped)
    (fun w bounded => (runningHubs_le_places w).trans bounded) (Nat.zero_le _) meets

/-- One capture under a cap of one. -/
theorem cap_holds_with_room_for_one :
    ∃ w, run (step 1) World.init started = some w ∧ w.runningHubs = 1 ∧
      Always (step 1) (fun w => w.runningHubs ≤ 1) World.init started := by
  have meets : Meets (step 1) (Roomy 1) World.init started := by
    refine meets_cons rfl trivial (meets_cons rfl (fun _ => Nat.zero_lt_one) (meets_of_labels ?_ _))
    intro label member w
    fin_cases member <;> trivial
  exact ⟨_, rfl, rfl, cap_holds_with_room 1 started meets⟩

/-- Session `k`, which has passed the check, gets its hub. -/
def launched (k : Nat) : List Label :=
  [.acquires k, .moves k .starts, .moves k (.startAnswered .ok), .moves k .starts, .moves k .starts, .moves k .starts]

/-- Two requests both pass the check of a cap of one, before either has its hub. -/
def twoAtOnce : List Label :=
  [.requests "eth0", .requests "eth1", .counts 0, .counts 1] ++ launched 0 ++ launched 1

/-- The first capture is stopped, and the second started while the first hub still waits for
    its next frame. -/
def restartedAtOnce : List Label :=
  [.requests "eth0", .counts 0] ++ launched 0 ++ stopped.take 7 ++ [.requests "eth0", .counts 1] ++ launched 1

theorem cap_exceeded :
    ¬Always (step 1) (fun w => w.runningHubs ≤ 1) World.init twoAtOnce ∧
      ¬Always (step 1) (fun w => w.runningHubs ≤ 1) World.init restartedAtOnce := by
  constructor
  · intro always
    obtain ⟨w, ran, two⟩ : ∃ w, run (step 1) World.init twoAtOnce = some w ∧ w.runningHubs = 2 := ⟨_, rfl, rfl⟩
    have within := always_last always ran
    omega
  · intro always
    obtain ⟨w, ran, two⟩ : ∃ w, run (step 1) World.init restartedAtOnce = some w ∧ w.runningHubs = 2 := ⟨_, rfl, rfl⟩
    have within := always_last always ran
    omega

end Marlinspike.Capture.Lifecycle
