import Mathlib.Data.List.Count
import Marlinspike.Transition
import Marlinspike.Engine.Launchers

/-!
The slots of scans: any number of start requests, over one process with the registry as the
run store or over several with the table. The limit holds and no slot is left behind, as
long as no exception but that of the start of the engine is raised between the reservation
and the start of the thread, and with the table as the run store no slot is reserved while
the rows still to be written use up what the others leave free (`slots_hold_iff`).
-/
namespace Marlinspike.Scans.Slots
open Marlinspike.Transition
open Marlinspike.Recovery (Status)
open Marlinspike.Engine.Launchers (finalStatus)

/-- `MARLINSPIKE_RUN_STORE`. -/
inductive RunStore where
  | memory
  | db
deriving DecidableEq, Repr

/-- The status of an entry of `_run_registry`. -/
inductive EntryStatus where
  | pending
  | running
  | ended (status : Status)
deriving DecidableEq, Repr

/-- Where a scan stands: the steps of `api_scan_start`, those of its thread, or given up. -/
inductive Phase where
  | reserved
  | spawned
  | registered
  | recorded
  | working
  | finalized
  | done
  /-- The engine did not start, and the slot was released. -/
  | released
  /-- An exception has ended the request. -/
  | abandoned
deriving DecidableEq, Repr

structure Run where
  /-- The process that serves the request. -/
  worker : Nat
  chunked : Bool
  phase : Phase
  entry : Option EntryStatus
  stopRequested : Bool
  /-- The status of its row of `scan_history`. -/
  row : Option Status
  engineRunning : Bool
deriving DecidableEq, Repr

/-- `status in ("pending", "running")`. -/
def Run.isActive (run : Run) : Bool := run.entry = some .pending || run.entry = some .running

/-- `status="running"` in the table. -/
def Run.isRecorded (run : Run) : Bool := run.row = some .running

/-- The slot is reserved or the engine runs. -/
def Run.holdsSlot (run : Run) : Bool := run.isActive || run.engineRunning

/-- The slot is reserved, and there is no row yet, or there is. -/
def Run.isHidden (run : Run) : Bool := run.isActive && run.row.isNone
def Run.isShown (run : Run) : Bool := run.isActive && run.isRecorded

/-- Someone will finalize the run: its request is still on its way, or its thread. -/
def Run.isAttended (run : Run) : Bool :=
  match run.phase with
  | .reserved | .spawned | .registered | .recorded | .working => true
  | .finalized | .done | .released | .abandoned => false

/-- One step of a scan. -/
inductive Action where
  | spawns
  | spawnFails
  | registers
  | records
  | starts
  | raises
  /-- A subprocess of a chunked scan starts; one of any scan exits. -/
  | launches
  | exits
  | stops
  /-- `_finalize_run` settles the entry, `_finalize_scan_history` the row. -/
  | finalizes (returnCode : Int)
  | writes
  /-- `_cleanup_runs`. -/
  | expires
deriving DecidableEq, Repr

/-- The entry that `_reserve_scan_slot` makes. -/
def reservedRun (worker : Nat) (chunked : Bool) : Run :=
  ⟨worker, chunked, .reserved, some .pending, false, none, false⟩

def act (run : Run) : Action → Option Run
  | .spawns =>
    if run.phase = .reserved then some { run with phase := .spawned, engineRunning := !run.chunked } else none
  | .spawnFails =>
    if run.phase = .reserved ∧ ¬run.chunked then some { run with phase := .released, entry := none } else none
  | .registers =>
    if run.phase = .spawned then
      some { run with phase := .registered, entry := some .running, stopRequested := false }
    else none
  | .records => if run.phase = .registered then some { run with phase := .recorded, row := some .running } else none
  | .starts => if run.phase = .recorded then some { run with phase := .working } else none
  | .raises =>
    match run.phase with
    | .reserved | .registered | .recorded => some { run with phase := .abandoned }
    | _ => none
  | .launches =>
    if run.phase = .working ∧ run.chunked ∧ ¬run.engineRunning then some { run with engineRunning := true } else none
  | .exits => if run.engineRunning then some { run with engineRunning := false } else none
  | .stops => if run.entry.isSome then some { run with stopRequested := true } else none
  | .finalizes returnCode =>
    if run.phase = .working ∧ ¬run.engineRunning then
      some { run with phase := .finalized, entry := some (.ended (finalStatus run.stopRequested returnCode)) }
    else none
  | .writes =>
    match run.phase, run.entry with
    | .finalized, some (.ended status) => some { run with phase := .done, row := some status }
    | _, _ => none
  | .expires =>
    match run.phase, run.entry with
    | .done, some (.ended _) => some { run with entry := none }
    | _, _ => none

inductive Label where
  /-- A request gets to `_reserve_scan_slot` in one of the processes. -/
  | requests (worker : Nat) (chunked : Bool)
  | acts (i : Nat) (action : Action)
deriving DecidableEq, Repr

section Service
variable (runStore : RunStore) (maxConcurrentScans : Nat)

/-- `len(_get_active_runs())`. -/
def activeRuns (runs : List Run) (worker : Nat) : Nat :=
  match runStore with
  | .memory => runs.countP fun run => run.worker = worker && run.isActive
  | .db => runs.countP Run.isRecorded

/-- `_reserve_scan_slot`, with the 409 where the limit is reached. There is one process
    where the registry is the run store. -/
def requests (runs : List Run) (worker : Nat) (chunked : Bool) : Option (List Run) :=
  if runStore = .memory ∧ worker ≠ 0 then none
  else if maxConcurrentScans ≤ activeRuns runStore runs worker then some runs
  else some (runs ++ [reservedRun worker chunked])

def step (runs : List Run) : Label → Option (List Run)
  | .requests worker chunked => requests runStore maxConcurrentScans runs worker chunked
  | .acts i action => (runs[i]?).bind fun run => (act run action).map (runs.set i)

/-! ### The property -/

def slots (runs : List Run) : Nat := runs.countP Run.holdsSlot

/-- The limit holds, and every entry that is pending or running will be finalized. -/
structure Holds (runs : List Run) : Prop where
  limit : slots runs ≤ maxConcurrentScans
  attended : ∀ run ∈ runs, run.isActive = true → run.isAttended = true

/-- No slot is reserved while the scans whose rows are still to be written use up what those
    with rows leave free, and nothing is raised between a reservation and the start of its
    thread. -/
def Orderly (runs : List Run) : Label → Prop
  | .requests _ _ => runStore = .db → maxConcurrentScans ≤ runs.countP Run.isRecorded ∨
      runs.countP Run.isHidden + runs.countP Run.isShown < maxConcurrentScans
  | .acts _ action => action ≠ .raises

end Service

/-! ### One scan -/

structure Run.Sound (run : Run) : Prop where
  engine : run.engineRunning = true → run.isActive = true
  row : run.isActive = true → run.row = none ∨ run.row = some .running
  phase : run.isActive = true → run.isAttended = true
  unregistered : run.phase = .reserved ∨ run.phase = .spawned → run.isActive = true
  registered : run.phase = .registered ∨ run.phase = .recorded ∨ run.phase = .working → run.entry = some .running
  unspawned : run.phase = .reserved → run.engineRunning = false

theorem isActive_of_entry {run : Run} (running : run.entry = some .running) : run.isActive = true := by
  simp [Run.isActive, running]

/-- A scan that is over. -/
theorem sound_over {run : Run} (engine : run.engineRunning = false) (inactive : run.isActive = false)
    (unattended : run.isAttended = false) : run.Sound := by
  constructor
  · intro running
    exact absurd (engine.symm.trans running) nofun
  · intro active
    exact absurd (inactive.symm.trans active) nofun
  · intro active
    exact absurd (inactive.symm.trans active) nofun
  · rintro (reserved | spawned)
    · simp [Run.isAttended, reserved] at unattended
    · simp [Run.isAttended, spawned] at unattended
  · rintro (registered | recorded | working)
    · simp [Run.isAttended, registered] at unattended
    · simp [Run.isAttended, recorded] at unattended
    · simp [Run.isAttended, working] at unattended
  · exact fun _ => engine

theorem engine_of_inactive {run : Run} (sound : run.Sound) (inactive : run.isActive = false) :
    run.engineRunning = false := by
  by_contra running
  exact absurd (inactive.symm.trans (sound.engine (by simpa using running))) nofun

/-- A step keeps what holds of a scan, and gives no one a slot. -/
theorem act_sound {run after : Run} {action : Action} (sound : run.Sound) (quiet : action ≠ .raises)
    (acted : act run action = some after) :
    after.Sound ∧ (after.isActive = true → run.isActive = true) ∧ after.worker = run.worker := by
  cases action with
  | spawns =>
    simp only [act] at acted
    split_ifs at acted with reserved
    obtain rfl := Option.some.inj acted
    have active := sound.unregistered (.inl reserved)
    exact ⟨⟨fun _ => active, sound.row, fun _ => rfl, fun _ => active, by simp, nofun⟩, id, rfl⟩
  | spawnFails =>
    simp only [act] at acted
    split_ifs at acted with guard
    obtain rfl := Option.some.inj acted
    exact ⟨sound_over (sound.unspawned guard.1) rfl rfl, nofun, rfl⟩
  | registers =>
    simp only [act] at acted
    split_ifs at acted with spawned
    obtain rfl := Option.some.inj acted
    have active := sound.unregistered (.inr spawned)
    exact ⟨⟨fun _ => rfl, fun _ => sound.row active, fun _ => rfl, fun _ => rfl, fun _ => rfl, nofun⟩, fun _ => active,
      rfl⟩
  | records =>
    simp only [act] at acted
    split_ifs at acted with registered
    obtain rfl := Option.some.inj acted
    have entry := sound.registered (.inl registered)
    exact ⟨⟨sound.engine, fun _ => .inr rfl, fun _ => rfl, by simp, fun _ => entry, nofun⟩, id, rfl⟩
  | starts =>
    simp only [act] at acted
    split_ifs at acted with recorded
    obtain rfl := Option.some.inj acted
    have entry := sound.registered (.inr (.inl recorded))
    exact ⟨⟨sound.engine, sound.row, fun _ => rfl, by simp, fun _ => entry, nofun⟩, id, rfl⟩
  | raises => exact absurd rfl quiet
  | launches =>
    simp only [act] at acted
    split_ifs at acted with guard
    obtain rfl := Option.some.inj acted
    have entry := sound.registered (.inr (.inr guard.1))
    refine ⟨⟨fun _ => isActive_of_entry entry, sound.row, sound.phase, sound.unregistered, sound.registered, ?_⟩, id, rfl⟩
    exact fun reserved => absurd (guard.1.symm.trans reserved) nofun
  | exits =>
    simp only [act] at acted
    split_ifs at acted
    obtain rfl := Option.some.inj acted
    exact ⟨⟨nofun, sound.row, sound.phase, sound.unregistered, sound.registered, fun _ => rfl⟩, id, rfl⟩
  | stops =>
    simp only [act] at acted
    split_ifs at acted
    obtain rfl := Option.some.inj acted
    exact ⟨⟨sound.engine, sound.row, sound.phase, sound.unregistered, sound.registered, sound.unspawned⟩, id, rfl⟩
  | finalizes returnCode =>
    simp only [act] at acted
    split_ifs at acted with guard
    obtain rfl := Option.some.inj acted
    exact ⟨sound_over (by simpa using guard.2) rfl rfl, nofun, rfl⟩
  | writes =>
    simp only [act] at acted
    split at acted
    · rename_i status finalized ended
      obtain rfl := Option.some.inj acted
      have inactive : run.isActive = false := by simp [Run.isActive, ended]
      have engine := engine_of_inactive sound inactive
      exact ⟨sound_over engine inactive rfl, id, rfl⟩
    · cases acted
  | expires =>
    simp only [act] at acted
    split at acted
    · rename_i status done ended
      obtain rfl := Option.some.inj acted
      have inactive : run.isActive = false := by simp [Run.isActive, ended]
      have engine := engine_of_inactive sound inactive
      refine ⟨sound_over engine rfl ?_, nofun, rfl⟩
      simp [Run.isAttended, done]
    · cases acted

/-! ### All scans -/

section Service
variable {runStore : RunStore} {maxConcurrentScans : Nat} {runs after : List Run}

structure Sound (runStore : RunStore) (maxConcurrentScans : Nat) (runs : List Run) : Prop where
  each : ∀ run ∈ runs, run.Sound
  limit : slots runs ≤ maxConcurrentScans
  oneProcess : runStore = .memory → ∀ run ∈ runs, run.worker = 0

theorem holdsSlot_iff {run : Run} (sound : run.Sound) : run.holdsSlot = true ↔ run.isActive = true := by
  simp only [Run.holdsSlot, Bool.or_eq_true, or_iff_left_iff_imp]
  exact sound.engine

/-- A slot that is held has a row, or will have one. -/
theorem slots_eq (each : ∀ run ∈ runs, run.Sound) :
    slots runs = runs.countP Run.isHidden + runs.countP Run.isShown := by
  induction runs with
  | nil => simp [slots]
  | cons run rest ih =>
    have later := ih fun other member => each other (List.mem_cons_of_mem _ member)
    have sound := each run List.mem_cons_self
    unfold slots at later ⊢
    simp only [List.countP_cons]
    by_cases active : run.isActive = true
    · have held := (holdsSlot_iff sound).mpr active
      rcases sound.row active with none_ | running
      · have hidden : run.isHidden = true := by simp [Run.isHidden, active, none_]
        have unshown : ¬run.isShown = true := by simp [Run.isShown, Run.isRecorded, none_]
        rw [if_pos held, if_pos hidden, if_neg unshown]
        omega
      · have unhidden : ¬run.isHidden = true := by simp [Run.isHidden, running]
        have shown : run.isShown = true := by simp [Run.isShown, Run.isRecorded, active, running]
        rw [if_pos held, if_neg unhidden, if_pos shown]
        omega
    · have free : ¬run.holdsSlot = true := fun held => active ((holdsSlot_iff sound).mp held)
      have unhidden : ¬run.isHidden = true := by simp [Run.isHidden, active]
      have unshown : ¬run.isShown = true := by simp [Run.isShown, active]
      rw [if_neg free, if_neg unhidden, if_neg unshown]
      omega

/-- In the one process the registry shows every slot. -/
theorem slots_eq_active (each : ∀ run ∈ runs, run.Sound) (oneProcess : ∀ run ∈ runs, run.worker = 0) :
    slots runs = activeRuns .memory runs 0 := by
  apply List.countP_congr
  intro run member
  simp [holdsSlot_iff (each run member), oneProcess run member]

theorem slots_reserve (runs : List Run) (worker : Nat) (chunked : Bool) :
    slots (runs ++ [reservedRun worker chunked]) = slots runs + 1 := by
  unfold slots
  rw [List.countP_append]
  rfl

theorem requests_sound {worker : Nat} {chunked : Bool} (sound : Sound runStore maxConcurrentScans runs)
    (orderly : Orderly runStore maxConcurrentScans runs (.requests worker chunked))
    (stepped : requests runStore maxConcurrentScans runs worker chunked = some after) :
    Sound runStore maxConcurrentScans after := by
  unfold requests at stepped
  split_ifs at stepped with foreign full
  · obtain rfl := Option.some.inj stepped
    exact sound
  · obtain rfl := Option.some.inj stepped
    have free : slots runs < maxConcurrentScans := by
      cases runStore with
      | memory =>
        obtain rfl : worker = 0 := by
          by_contra other
          exact foreign ⟨rfl, other⟩
        rw [slots_eq_active sound.each (sound.oneProcess rfl)]
        omega
      | db =>
        rcases orderly rfl with shown | left
        · exact absurd shown full
        · rw [slots_eq sound.each]
          exact left
    constructor
    · intro run member
      rcases List.mem_append.mp member with old | new
      · exact sound.each run old
      · obtain rfl := List.mem_singleton.mp new
        exact ⟨nofun, fun _ => .inl rfl, fun _ => rfl, fun _ => rfl, by simp [reservedRun], fun _ => rfl⟩
    · rw [slots_reserve]
      exact free
    · intro memory run member
      rcases List.mem_append.mp member with old | new
      · exact sound.oneProcess memory run old
      · obtain rfl := List.mem_singleton.mp new
        by_contra other
        exact foreign ⟨memory, other⟩

theorem slots_set {i : Nat} {run changed : Run} (found : runs[i]? = some run)
    (kept : changed.holdsSlot = true → run.holdsSlot = true) : slots (runs.set i changed) ≤ slots runs := by
  obtain ⟨known, rfl⟩ := List.getElem?_eq_some_iff.mp found
  unfold slots
  rw [List.countP_set known]
  by_cases held : changed.holdsSlot = true
  · have before := kept held
    have := List.countP_pos_iff.mpr ⟨runs[i], List.getElem_mem known, before⟩
    rw [if_pos held, if_pos before]
    omega
  · rw [if_neg held]
    omega

theorem acts_sound {i : Nat} {action : Action} (sound : Sound runStore maxConcurrentScans runs)
    (quiet : action ≠ .raises) (stepped : step runStore maxConcurrentScans runs (.acts i action) = some after) :
    Sound runStore maxConcurrentScans after := by
  obtain ⟨run, found, stepped⟩ := Option.bind_eq_some_iff.mp stepped
  obtain ⟨changed, acted, rfl⟩ := Option.map_eq_some_iff.mp stepped
  have member := List.mem_of_getElem? found
  obtain ⟨sound', kept, same⟩ := act_sound (sound.each run member) quiet acted
  constructor
  · intro other inside
    rcases List.mem_or_eq_of_mem_set inside with old | rfl
    · exact sound.each other old
    · exact sound'
  · refine (slots_set found fun held => ?_).trans sound.limit
    exact (holdsSlot_iff (sound.each run member)).mpr (kept ((holdsSlot_iff sound').mp held))
  · intro memory other inside
    rcases List.mem_or_eq_of_mem_set inside with old | rfl
    · exact sound.oneProcess memory other old
    · rw [same]
      exact sound.oneProcess memory run member

theorem sound_step {l : Label} (sound : Sound runStore maxConcurrentScans runs)
    (orderly : Orderly runStore maxConcurrentScans runs l)
    (stepped : step runStore maxConcurrentScans runs l = some after) : Sound runStore maxConcurrentScans after := by
  cases l with
  | requests worker chunked => exact requests_sound sound orderly stepped
  | acts i action => exact acts_sound sound orderly stepped

theorem holds_of_sound (sound : Sound runStore maxConcurrentScans runs) : Holds maxConcurrentScans runs :=
  ⟨sound.limit, fun run member => (sound.each run member).phase⟩

/-- An exception leaves the entry of its scan behind. -/
theorem raises_leaks {i : Nat} (sound : Sound runStore maxConcurrentScans runs)
    (stepped : step runStore maxConcurrentScans runs (.acts i .raises) = some after) :
    ¬Holds maxConcurrentScans after := by
  obtain ⟨run, found, stepped⟩ := Option.bind_eq_some_iff.mp stepped
  obtain ⟨changed, acted, rfl⟩ := Option.map_eq_some_iff.mp stepped
  have sound' := sound.each run (List.mem_of_getElem? found)
  have left : changed.isActive = true ∧ changed.isAttended = false := by
    simp only [act] at acted
    split at acted
    · rename_i reserved
      obtain rfl := Option.some.inj acted
      exact ⟨sound'.unregistered (.inl reserved), rfl⟩
    · rename_i registered
      obtain rfl := Option.some.inj acted
      exact ⟨isActive_of_entry (sound'.registered (.inl registered)), rfl⟩
    · rename_i recorded
      obtain rfl := Option.some.inj acted
      exact ⟨isActive_of_entry (sound'.registered (.inr (.inl recorded))), rfl⟩
    · cases acted
  intro holds
  obtain ⟨known, -⟩ := List.getElem?_eq_some_iff.mp found
  have attended := holds.attended changed (List.mem_set known changed) left.1
  exact absurd (left.2.symm.trans attended) nofun

theorem holds_iff_orderly {l : Label} (sound : Sound runStore maxConcurrentScans runs)
    (stepped : step runStore maxConcurrentScans runs l = some after) :
    Holds maxConcurrentScans after ↔ Orderly runStore maxConcurrentScans runs l := by
  refine ⟨fun holds => ?_, fun orderly => holds_of_sound (sound_step sound orderly stepped)⟩
  cases l with
  | requests worker chunked =>
    intro db
    simp only [step, requests] at stepped
    split_ifs at stepped with foreign full
    · subst db
      exact .inl full
    · obtain rfl := Option.some.inj stepped
      right
      rw [← slots_eq sound.each]
      have := holds.limit
      rw [slots_reserve] at this
      exact this
  | acts i action =>
    rintro rfl
    exact raises_leaks sound stepped holds

end Service

/-- The limit holds, and no entry is left without someone to finalize it, along exactly the
    orderly runs. -/
theorem slots_hold_iff (runStore : RunStore) (maxConcurrentScans : Nat) (labels : List Label) :
    Always (step runStore maxConcurrentScans) (Holds maxConcurrentScans) [] labels ↔
      Meets (step runStore maxConcurrentScans) (Orderly runStore maxConcurrentScans) [] labels := by
  have init : Sound runStore maxConcurrentScans [] :=
    ⟨List.forall_mem_nil _, Nat.zero_le _, fun _ => List.forall_mem_nil _⟩
  refine always_iff_meets (Sound runStore maxConcurrentScans) ?_ ?_ init (holds_of_sound init)
  · intro runs l after sound _ stepped holds
    exact sound_step sound ((holds_iff_orderly sound stepped).mp holds) stepped
  · intro runs l after sound _ stepped
    exact holds_iff_orderly sound stepped

/-- With the table as the run store a second request is let in before the row of the first
    is written; and a reports directory that cannot be made leaves the slot pending. -/
theorem slots_exceeded_and_leaked :
    ¬Always (step .db 1) (Holds 1) []
      [.requests 0 false, .requests 1 false, .acts 0 .spawns, .acts 1 .spawns, .acts 0 .registers, .acts 1 .registers] ∧
    ¬Always (step .memory 1) (Holds 1) [] [.requests 0 false, .acts 0 .raises] := by
  constructor
  · intro always
    exact absurd (always_last always rfl).limit (by decide)
  · intro always
    exact absurd ((always_last always rfl).attended _ (List.mem_singleton_self _) rfl) (by decide)

end Marlinspike.Scans.Slots
