import Marlinspike.Transition
import Marlinspike.Scheduler.DueSlots

/-!
The scheduler's thread: every tick starts a capture on each online agent of each project with
a due slot, and stamps a project only after all of its agents. An exception ends the whole
tick; what it leaves behind is found due again, agents that have been started included.

`slots_start_once` is for the runs in which an exception finds no start of its project made
in the tick and no later project due (`Contained`).
-/
namespace Marlinspike.Scheduler.Ticks
open Marlinspike.Transition
open Marlinspike.Scheduler.DueSlots

/-- What `_start_capture_session` comes to: a result with its status, or any exception. -/
inductive Outcome where
  | returns (status : Nat)
  | raises
deriving DecidableEq, Repr

def Outcome.started (outcome : Outcome) : Bool := outcome = .returns 201

/-- A project with a capture schedule, as it has been accepted. -/
structure Project (library : Library) where
  id : Nat
  schedule : Schedule
  accepted : validateScheduleBody library schedule = none

/-- One call of `_run_due_schedules`, with the rows that it finds. -/
structure Call (library : Library) where
  now : Nat
  projects : List (Project library)
  distinct : (projects.map Project.id).Nodup
  /-- The online agents of a project. -/
  onlineAgents : Nat → List Nat
  apart : ∀ project, (onlineAgents project).Nodup
  outcome : Nat → Nat → Outcome

/-- A call of `_start_capture_session`, with the slots that were due then. -/
structure Attempt where
  project : Nat
  agent : Nat
  slots : List Nat
  outcome : Outcome
deriving DecidableEq, Repr

structure State where
  /-- `capture_schedule_last_triggered_at` of each project. -/
  stamps : Nat → Option Nat
  attempts : List Attempt
  /-- The projects whose agents the last tick has gone through, as far as it came. -/
  processed : List Nat

section Steps
variable {library : Library}

/-- The slots of an entry of the schedule that are due. -/
def dueSlots (library : Library) (schedule : Schedule) (now : Nat) (last : Option Nat) : List Nat :=
  ((minutes library schedule).map (onDayOf now)).filter fun slot =>
    slot ≤ now ∧ now ≤ slot + grace ∧ last.all (· < slot)

/-- The loop over the online agents, and whether it ends without an exception. -/
def startAgents (call : Call library) (project : Nat) (slots : List Nat) (s : State) : List Nat → State × Bool
  | [] => (s, true)
  | agent :: rest =>
    let s := { s with attempts := s.attempts ++ [⟨project, agent, slots, call.outcome project agent⟩] }
    match call.outcome project agent with
    | .raises => (s, false)
    | .returns _ => startAgents call project slots s rest

def stamp (s : State) (project now : Nat) : State :=
  { s with stamps := fun p => if p = project then some now else s.stamps p }

/-- The loop over the projects; an exception ends it. -/
def runProjects (call : Call library) (s : State) : List (Project library) → State
  | [] => s
  | project :: rest =>
    if truthy project.schedule "enabled" then
      match dueSlotToday library project.schedule call.now (s.stamps project.id) with
      | none => s
      | some false => runProjects call s rest
      | some true =>
        let slots := dueSlots library project.schedule call.now (s.stamps project.id)
        let entered := { s with processed := s.processed ++ [project.id] }
        match startAgents call project.id slots entered (call.onlineAgents project.id) with
        | (s, false) => s
        | (s, true) => runProjects call (stamp s project.id call.now) rest
    else runProjects call s rest

/-- A turn of `_loop`, which only logs an exception. -/
def runDueSchedules (s : State) (call : Call library) : State :=
  runProjects call { s with processed := [] } call.projects

def step (s : State) (call : Call library) : Option State := some (runDueSchedules s call)

/-! ### What is to hold -/

/-- The project is enabled and has a due slot. -/
def IsDue (s : State) (call : Call library) (project : Project library) : Prop :=
  truthy project.schedule "enabled" = true ∧
    dueSlotToday library project.schedule call.now (s.stamps project.id) = some true

/-- No start is attempted after a successful one on the same agent for one of its slots. -/
def StartsOnce (s : State) : Prop :=
  s.attempts.Pairwise fun attempt later => attempt.outcome.started = true → later.project = attempt.project →
    later.agent = attempt.agent → ∀ slot ∈ attempt.slots, slot ∉ later.slots

/-- The attempts among some on the same agent for a slot. -/
def repeats (attempt : Attempt) (slot : Nat) (later : List Attempt) : List Attempt :=
  later.filter fun other => other.project = attempt.project ∧ other.agent = attempt.agent ∧ slot ∈ other.slots

/-- The exception that ends a tick finds nothing started for its project, and no other due project after it. -/
def ContainedIn (s : State) (call : Call library) (projects : List (Project library)) : Prop :=
  ∀ before project after, projects = before ++ project :: after → IsDue s call project →
    ∀ earlier agent later, call.onlineAgents project.id = earlier ++ agent :: later →
      (∀ other ∈ earlier, call.outcome project.id other ≠ .raises) → call.outcome project.id agent = .raises →
        (∀ other ∈ earlier, (call.outcome project.id other).started = false) ∧
          ∀ other ∈ after, ¬ IsDue s call other

def Contained (s : State) (call : Call library) : Prop := ContainedIn s call call.projects

/-! ### The loop over the agents -/

/-- The agents that the loop comes to. -/
def called (call : Call library) (project : Nat) : List Nat → List Nat
  | [] => []
  | agent :: rest =>
    match call.outcome project agent with
    | .raises => [agent]
    | .returns _ => agent :: called call project rest

variable {call : Call library} {project : Nat}

theorem startAgents_eq (slots : List Nat) (s : State) (agents : List Nat) :
    startAgents call project slots s agents =
      ({ s with attempts := s.attempts ++ (called call project agents).map fun agent =>
          ⟨project, agent, slots, call.outcome project agent⟩ },
        agents.all fun agent => call.outcome project agent ≠ .raises) := by
  induction agents generalizing s with
  | nil => simp [startAgents, called]
  | cons agent rest ih =>
    unfold startAgents called
    cases outcome : call.outcome project agent with
    | raises => simp [outcome]
    | returns status =>
      simp only [ih]
      simp [outcome]

theorem called_sublist (agents : List Nat) : (called call project agents).Sublist agents := by
  induction agents with
  | nil => exact List.Sublist.slnil
  | cons agent rest ih =>
    unfold called
    cases call.outcome project agent with
    | raises => exact List.singleton_sublist.mpr List.mem_cons_self
    | returns status => exact ih.cons_cons agent

/-- Where an exception ends the loop. -/
theorem called_of_raises {agents : List Nat} (raised : ¬ ∀ agent ∈ agents, call.outcome project agent ≠ .raises) :
    ∃ earlier agent later, agents = earlier ++ agent :: later ∧ called call project agents = earlier ++ [agent] ∧
      (∀ other ∈ earlier, call.outcome project other ≠ .raises) ∧ call.outcome project agent = .raises := by
  induction agents with
  | nil => simp at raised
  | cons agent rest ih =>
    cases outcome : call.outcome project agent with
    | raises => exact ⟨[], agent, rest, rfl, by simp [called, outcome], by simp, outcome⟩
    | returns status =>
      have raised' : ¬ ∀ agent ∈ rest, call.outcome project agent ≠ .raises := by
        intro none_
        refine raised fun other member => ?_
        rcases List.mem_cons.mp member with rfl | member
        · simp [outcome]
        · exact none_ other member
      obtain ⟨earlier, last, later, split, upTo, quiet, ends⟩ := ih raised'
      refine ⟨agent :: earlier, last, later, by rw [split]; rfl, by simp [called, outcome, upTo], ?_, ends⟩
      intro other member
      rcases List.mem_cons.mp member with rfl | member
      · simp [outcome]
      · exact quiet other member

/-! ### One project -/

/-- Every successful start has been stamped since. -/
structure Settled (s : State) : Prop where
  once : StartsOnce s
  stamped : ∀ attempt ∈ s.attempts, attempt.outcome.started = true → ∀ slot ∈ attempt.slots,
    ∃ stamp ∈ s.stamps attempt.project, slot ≤ stamp

theorem mem_dueSlots {schedule : Schedule} {now slot : Nat} {last : Option Nat} :
    slot ∈ dueSlots library schedule now last ↔
      (∃ m ∈ minutes library schedule, onDayOf now m = slot) ∧ Due now last slot := by
  unfold dueSlots Due
  rw [List.mem_filter, List.mem_map]
  cases last <;> simp

theorem dueSlots_ne_nil (project : Project library) {now : Nat} {last : Option Nat}
    (due : dueSlotToday library project.schedule now last = some true) :
    ∃ slot, slot ∈ dueSlots library project.schedule now last := by
  obtain ⟨m, named, due⟩ := (dueSlotToday_iff (timely_of_accepted project.accepted) now last).mp due
  exact ⟨onDayOf now m, mem_dueSlots.mpr ⟨⟨m, named, rfl⟩, due⟩⟩

/-- The schedule of a project never raises. -/
theorem dueSlotToday_ne_none (project : Project library) (now : Nat) (last : Option Nat) :
    dueSlotToday library project.schedule now last ≠ none := by
  obtain ⟨due, found, -⟩ := dueAmong_spec (timely_of_accepted project.accepted) now last
  rw [dueSlotToday, found]
  exact Option.some_ne_none due

/-- The attempts on some agents of a project. -/
def attemptsOn (call : Call library) (project : Nat) (slots agents : List Nat) : List Attempt :=
  agents.map fun agent => ⟨project, agent, slots, call.outcome project agent⟩

theorem startsOnce_append {s : State} (settled : Settled s) {slots agents : List Nat}
    (fresh : ∀ slot ∈ slots, ∀ stamp ∈ s.stamps project, stamp < slot) (nodup : agents.Nodup) :
    (s.attempts ++ attemptsOn call project slots agents).Pairwise fun attempt later =>
      attempt.outcome.started = true → later.project = attempt.project → later.agent = attempt.agent →
        ∀ slot ∈ attempt.slots, slot ∉ later.slots := by
  refine List.pairwise_append.mpr ⟨settled.once, ?_, ?_⟩
  · apply List.pairwise_map.mpr
    refine nodup.imp fun apart _ _ same => ?_
    exact absurd same.symm apart
  · intro attempt earlier later new started sameProject _ slot member again
    obtain ⟨agent, -, rfl⟩ := List.mem_map.mp new
    simp only at sameProject again
    obtain ⟨stamp, found, late⟩ := settled.stamped attempt earlier started slot member
    rw [← sameProject] at found
    exact absurd (fresh slot again stamp found) (Nat.not_lt.mpr late)

variable {s : State} {head : Project library}

/-- After all agents of a project, its stamp is behind none of the slots. -/
theorem settled_of_completed (settled : Settled s) (due : IsDue s call head) {agents processed : List Nat}
    (nodup : agents.Nodup) :
    let slots := dueSlots library head.schedule call.now (s.stamps head.id)
    Settled (stamp ⟨s.stamps, s.attempts ++ attemptsOn call head.id slots agents, processed⟩ head.id call.now) := by
  intro slots
  have fresh (slot) (member : slot ∈ slots) : Due call.now (s.stamps head.id) slot := (mem_dueSlots.mp member).2
  refine ⟨startsOnce_append settled (fun slot member => (fresh slot member).2.2) nodup, ?_⟩
  intro attempt member started slot for_
  simp only [stamp]
  rcases List.mem_append.mp member with old | new
  · obtain ⟨stamp, found, late⟩ := settled.stamped attempt old started slot for_
    by_cases same : attempt.project = head.id
    · -- the old stamp is before the slots that are due now
      obtain ⟨next, due⟩ := dueSlots_ne_nil head due.2
      have later := (fresh next due).2.2 stamp (same ▸ found)
      rw [if_pos same]
      exact ⟨call.now, rfl, late.trans (later.le.trans (fresh next due).1)⟩
    · rw [if_neg same]
      exact ⟨stamp, found, late⟩
  · obtain ⟨agent, -, rfl⟩ := List.mem_map.mp new
    rw [if_pos rfl]
    exact ⟨call.now, rfl, (fresh slot for_).1⟩

/-- An exception before any start of the project leaves nothing unstamped. -/
theorem settled_of_raised (settled : Settled s) {agents processed : List Nat} (nodup : agents.Nodup)
    (none_ : ∀ agent ∈ agents, (call.outcome head.id agent).started = false) :
    let slots := dueSlots library head.schedule call.now (s.stamps head.id)
    Settled ⟨s.stamps, s.attempts ++ attemptsOn call head.id slots agents, processed⟩ := by
  intro slots
  have fresh (slot) (member : slot ∈ slots) : Due call.now (s.stamps head.id) slot := (mem_dueSlots.mp member).2
  refine ⟨startsOnce_append settled (fun slot member => (fresh slot member).2.2) nodup, ?_⟩
  intro attempt member started
  rcases List.mem_append.mp member with old | new
  · exact settled.stamped attempt old started
  · obtain ⟨agent, among, rfl⟩ := List.mem_map.mp new
    exact absurd started (by simp [none_ agent among])

/-! ### A tick -/

/-- What the loop over the projects does with the first of them. -/
theorem runProjects_cons (call : Call library) (s : State) (head : Project library) (rest : List (Project library)) :
    let slots := dueSlots library head.schedule call.now (s.stamps head.id)
    let agents := call.onlineAgents head.id
    ¬ IsDue s call head ∧ runProjects call s (head :: rest) = runProjects call s rest ∨
    IsDue s call head ∧ (∀ agent ∈ agents, call.outcome head.id agent ≠ .raises) ∧
      runProjects call s (head :: rest) = runProjects call (stamp ⟨s.stamps,
        s.attempts ++ attemptsOn call head.id slots (called call head.id agents), s.processed ++ [head.id]⟩
          head.id call.now) rest ∨
    IsDue s call head ∧ (¬ ∀ agent ∈ agents, call.outcome head.id agent ≠ .raises) ∧
      runProjects call s (head :: rest) = ⟨s.stamps,
        s.attempts ++ attemptsOn call head.id slots (called call head.id agents), s.processed ++ [head.id]⟩ := by
  intro slots agents
  rw [runProjects]
  by_cases enabled : truthy head.schedule "enabled" = true
  · rw [if_pos enabled]
    cases found : dueSlotToday library head.schedule call.now (s.stamps head.id) with
    | none => exact absurd found (dueSlotToday_ne_none head _ _)
    | some due =>
      cases due with
      | false =>
        refine .inl ⟨fun due => ?_, rfl⟩
        rw [IsDue, found] at due
        cases due.2
      | true =>
        have isDue : IsDue s call head := ⟨enabled, found⟩
        have ran := @startAgents_eq library call head.id slots ⟨s.stamps, s.attempts, s.processed ++ [head.id]⟩ agents
        refine .inr ?_
        by_cases all : ∀ agent ∈ agents, call.outcome head.id agent ≠ .raises
        · have quiet : (agents.all fun agent => call.outcome head.id agent ≠ .raises) = true := by simpa using all
          rw [quiet] at ran
          refine .inl ⟨isDue, all, ?_⟩
          simp only [agents, slots] at ran
          simp only [ran]
          rfl
        · have raised : (agents.all fun agent => call.outcome head.id agent ≠ .raises) = false := by simpa using all
          rw [raised] at ran
          refine .inr ⟨isDue, all, ?_⟩
          simp only [agents, slots] at ran
          simp only [ran]
          rfl
  · rw [if_neg enabled]
    exact .inl ⟨fun due => enabled due.1, rfl⟩

theorem isDue_congr {s t : State} (call : Call library) {project : Project library}
    (same : t.stamps project.id = s.stamps project.id) : IsDue t call project ↔ IsDue s call project := by
  unfold IsDue
  rw [same]

theorem containedIn_tail {s t : State} {call : Call library} {head : Project library} {rest : List (Project library)}
    (contained : ContainedIn s call (head :: rest))
    (same : ∀ project ∈ rest, t.stamps project.id = s.stamps project.id) : ContainedIn t call rest := by
  intro before project after split due earlier agent later online quiet raises
  have inside {other : Project library} (member : other ∈ project :: after) : other ∈ rest := by
    rw [split]
    exact List.mem_append_right before member
  have due' := (isDue_congr call (same project (inside List.mem_cons_self))).mp due
  obtain ⟨none_, last⟩ := contained (head :: before) project after (by rw [split]; rfl) due' earlier agent later online
    quiet raises
  refine ⟨none_, fun other member due => last other member ?_⟩
  exact (isDue_congr call (same other (inside (List.mem_cons_of_mem _ member)))).mp due

theorem processed_subset (call : Call library) (s : State) (projects : List (Project library)) :
    s.processed ⊆ (runProjects call s projects).processed := by
  induction projects generalizing s with
  | nil => exact fun _ member => member
  | cons head rest ih =>
    have entered {p : List Nat} (le : s.processed ++ [head.id] ⊆ p) : s.processed ⊆ p :=
      fun _ member => le (List.mem_append_left _ member)
    rcases runProjects_cons call s head rest with ⟨-, ran⟩ | ⟨-, -, ran⟩ | ⟨-, -, ran⟩
    · rw [ran]
      exact ih s
    · rw [ran]
      exact entered fun _ member => ih _ member
    · rw [ran]
      exact entered fun _ member => member

/-- A contained tick settles all its starts and goes through every project that is due. -/
theorem runProjects_spec {call : Call library} {s : State} {projects : List (Project library)}
    (contained : ContainedIn s call projects) (distinct : (projects.map Project.id).Nodup) (settled : Settled s) :
    Settled (runProjects call s projects) ∧
      ∀ project ∈ projects, IsDue s call project → project.id ∈ (runProjects call s projects).processed := by
  induction projects generalizing s with
  | nil => exact ⟨settled, by simp⟩
  | cons head rest ih =>
    rw [List.map_cons, List.nodup_cons] at distinct
    have apart (project) (member : project ∈ rest) : project.id ≠ head.id :=
      fun same => distinct.1 (same ▸ List.mem_map_of_mem member)
    have online := call.apart head.id
    have nodup : (called call head.id (call.onlineAgents head.id)).Nodup := online.sublist (called_sublist _)
    rcases runProjects_cons call s head rest with ⟨notDue, ran⟩ | ⟨due, -, ran⟩ | ⟨due, raised, ran⟩
    · rw [ran]
      obtain ⟨settled, processed⟩ := ih (containedIn_tail contained fun _ _ => rfl) distinct.2 settled
      refine ⟨settled, fun project member due => ?_⟩
      rcases List.mem_cons.mp member with rfl | member
      · exact absurd due notDue
      · exact processed project member due
    · rw [ran]
      have stamps (project) (member : project ∈ rest) : (stamp ⟨s.stamps, s.attempts ++ attemptsOn call head.id
          (dueSlots library head.schedule call.now (s.stamps head.id)) (called call head.id (call.onlineAgents head.id)),
          s.processed ++ [head.id]⟩ head.id call.now).stamps project.id = s.stamps project.id :=
        if_neg (apart project member)
      obtain ⟨settled, processed⟩ := ih (containedIn_tail contained stamps) distinct.2
        (settled_of_completed settled due nodup)
      refine ⟨settled, fun project member due => ?_⟩
      rcases List.mem_cons.mp member with rfl | member
      · exact processed_subset call _ rest (List.mem_append_right _ List.mem_cons_self)
      · exact processed project member ((isDue_congr call (stamps project member)).mpr due)
    · obtain ⟨earlier, agent, later, split, upTo, quiet, raises⟩ := called_of_raises raised
      obtain ⟨none_, last⟩ := contained [] head rest rfl due earlier agent later split quiet raises
      rw [ran]
      refine ⟨settled_of_raised settled nodup ?_, fun project member due => ?_⟩
      · intro other among
        rw [upTo] at among
        rcases List.mem_append.mp among with before | here
        · exact none_ other before
        · rw [List.mem_singleton.mp here, raises]
          rfl
      · rcases List.mem_cons.mp member with rfl | member
        · exact List.mem_append_right _ List.mem_cons_self
        · exact absurd due (last project member)

theorem settled_tick {s : State} {call : Call library} (settled : Settled s) (contained : Contained s call) :
    Settled (runDueSchedules s call) ∧
      ∀ project ∈ call.projects, IsDue s call project → project.id ∈ (runDueSchedules s call).processed :=
  runProjects_spec (s := { s with processed := [] }) contained call.distinct ⟨settled.once, settled.stamped⟩

/-! ### Any number of ticks -/

theorem repeats_eq_nil {s : State} (once : StartsOnce s) {before after : List Attempt} {attempt : Attempt}
    (split : s.attempts = before ++ attempt :: after) (started : attempt.outcome.started = true) {slot : Nat}
    (member : slot ∈ attempt.slots) : repeats attempt slot after = [] := by
  rw [StartsOnce, split, List.pairwise_append, List.pairwise_cons] at once
  apply List.filter_eq_nil_iff.mpr
  intro later behind again
  simp only [decide_eq_true_eq] at again
  exact once.2.1.1 later behind started again.1 again.2.1 slot member again.2.2

/-- In a run whose ticks are contained, no start is attempted on an agent after a successful one
for the slot, and every tick goes through all projects that are due. -/
theorem slots_start_once {s : State} {calls : List (Call library)} (unstarted : s.attempts = [])
    (contained : Meets step Contained s calls) :
    Always step (fun s => ∀ before attempt after, s.attempts = before ++ attempt :: after →
      attempt.outcome.started = true → ∀ slot ∈ attempt.slots, repeats attempt slot after = []) s calls ∧
      ∀ before call after t, calls = before ++ call :: after → run step s before = some t →
        ∀ project ∈ call.projects, IsDue t call project → project.id ∈ (runDueSchedules t call).processed := by
  have initial : Settled s := ⟨by simp [StartsOnce, unstarted], by simp [unstarted]⟩
  have kept (s : State) (call : Call library) (t : State) (settled : Settled s) (contained : Contained s call)
      (stepped : step s call = some t) : Settled t := by
    obtain rfl := Option.some.inj stepped
    exact (settled_tick settled contained).1
  have once (s : State) (settled : Settled s) (before : List Attempt) (attempt : Attempt) (after : List Attempt)
      (split : s.attempts = before ++ attempt :: after) (started : attempt.outcome.started = true) :
      ∀ slot ∈ attempt.slots, repeats attempt slot after = [] :=
    fun _ member => repeats_eq_nil settled.once split started member
  refine ⟨always_of_meets Settled kept once initial contained, ?_⟩
  intro before call after t split ran project member due
  subst split
  have settled : Settled t := meeting_invariant Settled kept initial (meets_of_append contained) ran
  exact (settled_tick settled (meets_at contained ran rfl)).2 project member due

end Steps

/-! ### An exception after a start -/

def morning : Schedule where
  items := [("enabled", .bool true), ("times_utc", .arr [.str "06:00"]), ("interface", .str "eth0")]
  distinct := by decide

/-- A tick at which the first agent starts, and the second one meets some outcome. -/
def tickAt (now : Nat) (second : Outcome) : Call plain where
  now := now
  projects := [⟨1, morning, by rfl⟩]
  distinct := by decide
  onlineAgents := fun _ => [1, 2]
  apart := fun _ => by decide
  outcome := fun _ agent => if agent = 1 then .returns 201 else second

def fresh : State := ⟨fun _ => none, [], []⟩

/-- The start on the second agent raises at 06:00, 06:01 and 06:02; the first one is started each time. -/
theorem started_thrice :
    ¬ ∀ (library : Library) (s : State) (calls : List (Call library)), s.attempts = [] →
      Always step (fun s => ∀ before attempt after, s.attempts = before ++ attempt :: after →
        attempt.outcome.started = true → ∀ slot ∈ attempt.slots, (repeats attempt slot after).length ≤ 1) s calls := by
  intro holds
  let ticks := [21600000000, 21660000000, 21720000000].map fun now => tickAt now .raises
  have last := always_last (holds plain fresh ticks rfl) (rfl : run step fresh ticks = some _)
  have attempts : (ticks.foldl runDueSchedules fresh).attempts =
      [⟨1, 1, [21600000000], .returns 201⟩, ⟨1, 2, [21600000000], .raises⟩, ⟨1, 1, [21600000000], .returns 201⟩,
        ⟨1, 2, [21600000000], .raises⟩, ⟨1, 1, [21600000000], .returns 201⟩, ⟨1, 2, [21600000000], .raises⟩] := by
    decide +kernel
  exact absurd (last [] _ _ attempts rfl 21600000000 List.mem_cons_self) (by decide)

/-- Without an exception, the second tick finds nothing due. -/
theorem slots_start_once_quiet :
    Always step (fun s => ∀ before attempt after, s.attempts = before ++ attempt :: after →
      attempt.outcome.started = true → ∀ slot ∈ attempt.slots, repeats attempt slot after = []) fresh
        [tickAt 21600000000 (.returns 502), tickAt 21660000000 (.returns 502)] := by
  refine (slots_start_once rfl ?_).1
  refine meets_of_labels (fun call member s => ?_) fresh
  intro _ project _ _ _ _ agent _ _ _ raises
  simp only [List.mem_cons, List.not_mem_nil, or_false] at member
  rcases member with rfl | rfl <;> simp only [tickAt] at raises <;> split_ifs at raises

end Marlinspike.Scheduler.Ticks
