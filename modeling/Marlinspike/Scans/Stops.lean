import Mathlib.Logic.Function.Basic
import Marlinspike.Transition
import Marlinspike.Engine.Launchers

/-!
Stopping a scan: the request that starts it, the thread that works on it, in one process or
chunk by chunk, and any number of stop requests, in any order of their steps. A stop is
lost on the placeholder that holds the slot, and it comes too late for the process that the
thread has already decided to start; otherwise it is effective (`stop_effective`). What a
subprocess prints is taken to be text.
-/
namespace Marlinspike.Scans.Stops
open Marlinspike.Transition
open Marlinspike.Recovery (Status)
open Marlinspike.Engine.Launchers (finalStatus)

/-- What a subprocess of a scan is for: the whole scan, or a part of a chunked one. -/
inductive Job where
  | whole
  /-- `editcap`, which is not the engine. -/
  | split
  | dissect
  | chain
deriving DecidableEq, Repr

def Job.isEngine (job : Job) : Bool := job ≠ .split

/-- A subprocess, with what `poll` says of it. -/
structure Child where
  job : Job
  returnCode : Option Int
deriving DecidableEq, Repr

/-- Where `api_scan_start` stands, after its slot has been reserved. -/
inductive Request where
  | reserved
  /-- The engine has been started, unless the scan is chunked. -/
  | spawned
  /-- The entry has been replaced. -/
  | registered
  | recorded
  | past
deriving DecidableEq, Repr

/-- The two dicts that the registry holds under the run, one after the other. -/
inductive Entry where
  | placeholder
  | runState
deriving DecidableEq, Repr

/-- Where the thread stands: `_reader`, or `_chunked_reader` with `_run_child`, and then
    `_finalize_run`. -/
inductive Worker where
  | unstarted
  | reading
  | preparing
  | launching (job : Job)
  /-- The subprocess is not yet known as the run's process. -/
  | attaching (job : Job)
  | waiting (job : Job)
  | returned (job : Job) (returnCode : Int)
  | listing
  | dissected
  /-- Before a look at the flag. -/
  | looking (job : Job)
  | beforeMerge
  | merging
  | finalizing
  /-- `_finalize_run` has looked at the flag. -/
  | settled (status : Status)
  | finished
deriving DecidableEq, Repr

/-- Where an `api_run_stop` stands. -/
inductive Stop where
  | idle
  | found (entry : Entry)
  | marked (entry : Entry)
  /-- With the subprocess that it has still to see the end of. -/
  | holding (entry : Entry) (process : Option Nat)
  | answered
deriving DecidableEq, Repr

def Stop.entry : Stop → Option Entry
  | .found entry | .marked entry | .holding entry _ => some entry
  | .idle | .answered => none

/-- The request has set the flag of the run. -/
def Stop.marks : Stop → Bool
  | .marked .runState | .holding .runState _ => true
  | _ => false

/-- A scan in its process. -/
structure Scan where
  chunked : Bool
  request : Request
  entry : Option Entry
  /-- `run_state["stop_requested"]`. The flag of the placeholder is read by no one. -/
  stopRequested : Bool
  /-- The subprocesses in the order of their starts. -/
  children : List Child
  /-- `run_state["process"]`. -/
  process : Option Nat
  worker : Worker
  /-- The chunks that are not dissected yet. -/
  left : Nat
  returnCode : Option Int
  status : Status
  stops : Nat → Stop

/-- A scan whose slot is reserved. -/
def start (chunked : Bool) : Scan :=
  ⟨chunked, .reserved, some .placeholder, false, [], none, .unstarted, 0, none, .running, fun _ => .idle⟩

inductive Label where
  /-- The request: the steps of `api_scan_start`, and an exception at one of them. -/
  | spawns
  | spawnFails
  | registers
  | records
  | starts
  | raises
  /-- The last subprocess exits. -/
  | exits (returnCode : Int)
  /-- The thread: its steps, and an exception at one of them. -/
  | prepares
  | launches
  | attaches
  | returns
  | looks
  | lists (total : Nat)
  | advances
  | merges
  | fails (toolMissing : Bool)
  | settles
  | finishes
  /-- The steps of a stop request. -/
  | looksUp (r : Nat)
  | marks (r : Nat)
  | takes (r : Nat)
  | waits (r : Nat)
  | kills (r : Nat)
  | answers (r : Nat)
deriving DecidableEq, Repr

/-! ### The request -/

/-- `subprocess.Popen`. -/
def Scan.popen (s : Scan) (job : Job) : Scan := { s with children := s.children ++ [⟨job, none⟩] }

def spawns (s : Scan) : Option Scan :=
  if s.request = .reserved then
    some (if s.chunked then { s with request := .spawned }
      else { s.popen .whole with request := .spawned, process := some 0 })
  else none

/-- `_release_scan_slot`. -/
def spawnFails (s : Scan) : Option Scan :=
  if s.request = .reserved ∧ ¬s.chunked then some { s with request := .past, entry := none } else none

def registers (s : Scan) : Option Scan :=
  if s.request = .spawned then some { s with request := .registered, entry := some .runState } else none

def records (s : Scan) : Option Scan := if s.request = .registered then some { s with request := .recorded } else none

def starts (s : Scan) : Option Scan :=
  if s.request = .recorded then
    some { s with request := .past, worker := if s.chunked then .preparing else .reading }
  else none

/-- Nothing but the start of the engine is guarded. -/
def raises (s : Scan) : Option Scan :=
  match s.request with
  | .reserved | .registered | .recorded => some { s with request := .past }
  | .spawned | .past => none

/-! ### The thread -/

def exits (s : Scan) (returnCode : Int) : Option Scan :=
  match s.children.getLast? with
  | some ⟨job, none⟩ => some { s with children := s.children.dropLast ++ [⟨job, some returnCode⟩] }
  | _ => none

/-- The body is left with a return code. -/
def Scan.leave (s : Scan) (returnCode : Int) : Scan := { s with returnCode := some returnCode, worker := .finalizing }

def prepares (s : Scan) : Option Scan :=
  if s.worker = .preparing then some { s with worker := .launching .split } else none

def launches (s : Scan) : Option Scan :=
  match s.worker with
  | .launching job => some { s.popen job with worker := .attaching job }
  | _ => none

def attaches (s : Scan) : Option Scan :=
  match s.worker with
  | .attaching job => some { s with process := some (s.children.length - 1), worker := .waiting job }
  | _ => none

/-- The wait for the last subprocess is over. -/
def returns (s : Scan) : Option Scan :=
  match s.children.getLast? with
  | some ⟨_, some returnCode⟩ =>
    match s.worker with
    | .reading => some (s.leave returnCode)
    | .waiting job => some { s with process := none, worker := .returned job returnCode }
    | _ => none
  | _ => none

/-- The thread looks at the flag, and then at the return code if there is one. -/
def looks (s : Scan) : Option Scan :=
  match s.worker with
  | .returned .split returnCode =>
    some (if s.stopRequested then s.leave (-15) else if returnCode ≠ 0 then s.leave returnCode
      else { s with worker := .listing })
  | .returned .dissect returnCode =>
    some (if s.stopRequested then s.leave (-15) else if returnCode ≠ 0 then s.leave returnCode
      else { s with worker := .dissected })
  -- The chain is the last process, whose return code is that of the run.
  | .returned _ returnCode => some (s.leave returnCode)
  | .looking job =>
    some (if s.stopRequested then s.leave (-15) else { s with worker := .launching job })
  | .beforeMerge => some (if s.stopRequested then s.leave (-15) else { s with worker := .merging })
  | _ => none

/-- The chunk files. -/
def lists (s : Scan) (total : Nat) : Option Scan :=
  if s.worker = .listing then
    some (if total = 0 then s.leave 1 else { s with left := total, worker := .looking .dissect })
  else none

/-- A chunk is done. -/
def advances (s : Scan) : Option Scan :=
  if s.worker = .dissected then
    some { s with left := s.left - 1, worker := if s.left - 1 = 0 then .beforeMerge else .looking .dissect }
  else none

def merges (s : Scan) : Option Scan :=
  if s.worker = .merging then some { s with worker := .looking .chain } else none

/-- A missing tool, or any other exception in the body. -/
def fails (s : Scan) (toolMissing : Bool) : Option Scan :=
  match s.worker with
  | .preparing | .launching _ | .listing | .dissected | .merging => some (s.leave (if toolMissing then 127 else 1))
  | _ => none

def settles (s : Scan) : Option Scan :=
  if s.worker = .finalizing then
    some { s with worker := .settled (finalStatus s.stopRequested (s.returnCode.getD 1)) }
  else none

def finishes (s : Scan) : Option Scan :=
  match s.worker with
  | .settled status => some { s with status, worker := .finished }
  | _ => none

/-! ### Stop requests -/

def Scan.setStop (s : Scan) (r : Nat) (stop : Stop) : Scan := { s with stops := Function.update s.stops r stop }

/-- Under the lock. A run without an entry is not found. -/
def looksUp (s : Scan) (r : Nat) : Option Scan :=
  match s.stops r, s.entry with
  | .idle, some entry => some (s.setStop r (.found entry))
  | _, _ => none

def marks (s : Scan) (r : Nat) : Option Scan :=
  match s.stops r with
  | .found .placeholder => some (s.setStop r (.marked .placeholder))
  | .found .runState => some { s.setStop r (.marked .runState) with stopRequested := true }
  | _ => none

/-- The placeholder has no process. -/
def takes (s : Scan) (r : Nat) : Option Scan :=
  match s.stops r with
  | .marked .placeholder => some (s.setStop r (.holding .placeholder none))
  | .marked .runState => some (s.setStop r (.holding .runState s.process))
  | _ => none

/-- The subprocess has exited, by itself or because it was told to. -/
def waits (s : Scan) (r : Nat) : Option Scan :=
  match s.stops r with
  | .holding entry (some i) =>
    if (s.children[i]?).any fun child => child.returnCode.isSome then some (s.setStop r (.holding entry none)) else none
  | _ => none

/-- It has not within 8 seconds, and is killed; its exit is not waited for. -/
def kills (s : Scan) (r : Nat) : Option Scan :=
  match s.stops r with
  | .holding entry (some i) =>
    if (s.children[i]?).any fun child => child.returnCode.isNone then some (s.setStop r (.holding entry none)) else none
  | _ => none

def answers (s : Scan) (r : Nat) : Option Scan :=
  match s.stops r with
  | .holding _ none => some (s.setStop r .answered)
  | _ => none

def step (s : Scan) : Label → Option Scan
  | .spawns => spawns s
  | .spawnFails => spawnFails s
  | .registers => registers s
  | .records => records s
  | .starts => starts s
  | .raises => raises s
  | .exits returnCode => exits s returnCode
  | .prepares => prepares s
  | .launches => launches s
  | .attaches => attaches s
  | .returns => returns s
  | .looks => looks s
  | .lists total => lists s total
  | .advances => advances s
  | .merges => merges s
  | .fails toolMissing => fails s toolMissing
  | .settles => settles s
  | .finishes => finishes s
  | .looksUp r => looksUp s r
  | .marks r => marks s r
  | .takes r => takes s r
  | .waits r => waits s r
  | .kills r => kills s r
  | .answers r => answers s r

/-! ### Effective stops -/

/-- How many engine subprocesses have been started. -/
def engines (s : Scan) : Nat := (s.children.filter (·.job.isEngine)).length

def EngineRunning (s : Scan) : Prop := ∃ child ∈ s.children, child.job.isEngine = true ∧ child.returnCode = none

/-- What a stop that was answered in the first state is for. -/
structure Effective (t u : Scan) : Prop where
  started : engines u = engines t
  never : u.status ≠ .completed ∧ u.status ≠ .failed
  stopped : u.worker = .finished → u.status = .stopped

/-- Every stop that is answered before the last engine subprocess has exited is effective. -/
def StopsEffective (chunked : Bool) (labels : List Label) : Prop :=
  ∀ before r after s t u, labels = before ++ .answers r :: after → run step (start chunked) before = some s →
    step s (.answers r) = some t → run step t after = some u → EngineRunning t ∨ engines t < engines u → Effective t u

/-- The thread has decided to start the engine. -/
def Worker.launchesEngine : Worker → Bool
  | .launching job => job.isEngine
  | _ => false

/-- A stop is answered that has marked the entry of the run, and not while the thread has
    decided to start the engine. -/
def Timely (s : Scan) : Label → Prop
  | .answers r => s.stops r = .holding .runState none ∧ s.worker.launchesEngine = false
  | _ => True

instance (s : Scan) : ∀ label, Decidable (Timely s label)
  | .answers _ => inferInstanceAs (Decidable (_ ∧ _))
  | .spawns | .spawnFails | .registers | .records | .starts | .raises | .exits _ | .prepares | .launches | .attaches
  | .returns | .looks | .lists _ | .advances | .merges | .fails _ | .settles | .finishes | .looksUp _ | .marks _
  | .takes _ | .waits _ | .kills _ => inferInstanceAs (Decidable True)

/-! ### What the steps do -/

section Steps
variable {s t : Scan}

/-- The thread waits for a subprocess, or has not taken it over yet. -/
def Worker.attends : Worker → Bool
  | .unstarted | .reading | .attaching _ | .waiting _ => true
  | _ => false

/-- A step of the thread that starts no subprocess. -/
structure Move (s t : Scan) : Prop where
  chunked : t.chunked = s.chunked
  request : t.request = s.request
  entry : t.entry = s.entry
  stopRequested : t.stopRequested = s.stopRequested
  children : t.children = s.children
  stops : t.stops = s.stops
  started : s.worker ≠ .unstarted ∧ s.worker ≠ .finished
  going : t.worker ≠ .unstarted
  leaves : s.worker.attends = true →
    t.worker.attends = true ∨ ∃ child, s.children.getLast? = some child ∧ child.returnCode ≠ none
  waits : t.worker.attends = true → s.worker.attends = true
  starts : s.stopRequested = true → t.worker.launchesEngine = false
  settles : s.stopRequested = true → ∀ status, t.worker = .settled status → status = .stopped
  status : t.status = s.status ∧ t.worker ≠ .finished ∨ s.worker = .settled t.status ∧ t.worker = .finished

/-- The thread goes on without a look at the flag. -/
theorem move_on {t : Scan} (chunked : t.chunked = s.chunked) (request : t.request = s.request)
    (entry : t.entry = s.entry) (stopRequested : t.stopRequested = s.stopRequested) (children : t.children = s.children)
    (stops : t.stops = s.stops) (status : t.status = s.status)
    (before : s.worker.attends = false ∧ s.worker ≠ .finished)
    (after : t.worker.attends = false ∧ t.worker ≠ .finished)
    (starts : s.stopRequested = true → t.worker.launchesEngine = false)
    (settles : ∀ status, t.worker = .settled status → s.stopRequested = true → status = .stopped) : Move s t where
  chunked := chunked
  request := request
  entry := entry
  stopRequested := stopRequested
  children := children
  stops := stops
  started := by
    refine ⟨fun unstarted => ?_, before.2⟩
    simp [unstarted, Worker.attends] at before
  going unstarted := by simp [unstarted, Worker.attends] at after
  leaves attends := by simp [before.1] at attends
  waits attends := by simp [after.1] at attends
  starts := starts
  settles stopped status reached := settles status reached stopped
  status := .inl ⟨status, after.2⟩

theorem move_leave {returnCode : Int} (before : s.worker.attends = false ∧ s.worker ≠ .finished) :
    Move s (s.leave returnCode) :=
  move_on rfl rfl rfl rfl rfl rfl rfl before ⟨rfl, nofun⟩ (fun _ => rfl) nofun

theorem prepares_move (stepped : prepares s = some t) : Move s t := by
  unfold prepares at stepped
  split_ifs at stepped with preparing
  obtain rfl := Option.some.inj stepped
  exact move_on rfl rfl rfl rfl rfl rfl rfl (by simp [preparing, Worker.attends]) ⟨rfl, nofun⟩ (fun _ => rfl) nofun

theorem attaches_move (stepped : attaches s = some t) : Move s t := by
  unfold attaches at stepped
  split at stepped
  · rename_i job attaching
    obtain rfl := Option.some.inj stepped
    constructor <;> simp [attaching, Worker.attends, Worker.launchesEngine]
  · cases stepped

theorem returns_move (stepped : returns s = some t) : Move s t := by
  unfold returns at stepped
  split at stepped
  · rename_i job returnCode exited
    have done : ∃ child, s.children.getLast? = some child ∧ child.returnCode ≠ none := ⟨_, exited, nofun⟩
    split at stepped
    · rename_i reading
      obtain rfl := Option.some.inj stepped
      constructor <;> simp [reading, Scan.leave, Worker.attends, Worker.launchesEngine, done]
    · rename_i job waiting
      obtain rfl := Option.some.inj stepped
      constructor <;> simp [waiting, Worker.attends, Worker.launchesEngine, done]
    · cases stepped
  · cases stepped

/-- A thread that finds the flag set starts nothing. -/
theorem looks_move (stepped : looks s = some t) : Move s t := by
  unfold looks at stepped
  split at stepped
  · rename_i returnCode returned
    have before : s.worker.attends = false ∧ s.worker ≠ .finished := by simp [returned, Worker.attends]
    obtain rfl := Option.some.inj stepped
    split_ifs with stopped failed
    · exact move_leave before
    · exact move_leave before
    · exact move_on rfl rfl rfl rfl rfl rfl rfl before ⟨rfl, nofun⟩ (fun _ => rfl) nofun
  · rename_i returnCode returned
    have before : s.worker.attends = false ∧ s.worker ≠ .finished := by simp [returned, Worker.attends]
    obtain rfl := Option.some.inj stepped
    split_ifs with stopped failed
    · exact move_leave before
    · exact move_leave before
    · exact move_on rfl rfl rfl rfl rfl rfl rfl before ⟨rfl, nofun⟩ (fun _ => rfl) nofun
  · rename_i job returnCode _ _ returned
    obtain rfl := Option.some.inj stepped
    exact move_leave (by simp [returned, Worker.attends])
  · rename_i job looking
    have before : s.worker.attends = false ∧ s.worker ≠ .finished := by simp [looking, Worker.attends]
    obtain rfl := Option.some.inj stepped
    split_ifs with stopped
    · exact move_leave before
    · exact move_on rfl rfl rfl rfl rfl rfl rfl before ⟨rfl, nofun⟩ (fun set => absurd set stopped) nofun
  · rename_i looking
    have before : s.worker.attends = false ∧ s.worker ≠ .finished := by simp [looking, Worker.attends]
    obtain rfl := Option.some.inj stepped
    split_ifs with stopped
    · exact move_leave before
    · exact move_on rfl rfl rfl rfl rfl rfl rfl before ⟨rfl, nofun⟩ (fun _ => rfl) nofun
  · cases stepped

theorem lists_move {total : Nat} (stepped : lists s total = some t) : Move s t := by
  unfold lists at stepped
  split_ifs at stepped with listing none_
  all_goals
    have before : s.worker.attends = false ∧ s.worker ≠ .finished := by simp [listing, Worker.attends]
    obtain rfl := Option.some.inj stepped
  · exact move_leave before
  · exact move_on rfl rfl rfl rfl rfl rfl rfl before ⟨rfl, nofun⟩ (fun _ => rfl) nofun

theorem advances_move (stepped : advances s = some t) : Move s t := by
  unfold advances at stepped
  split_ifs at stepped with dissected
  all_goals
    obtain rfl := Option.some.inj stepped
    exact move_on rfl rfl rfl rfl rfl rfl rfl (by simp [dissected, Worker.attends]) ⟨rfl, nofun⟩ (fun _ => rfl) nofun

theorem merges_move (stepped : merges s = some t) : Move s t := by
  unfold merges at stepped
  split_ifs at stepped with merging
  obtain rfl := Option.some.inj stepped
  exact move_on rfl rfl rfl rfl rfl rfl rfl (by simp [merging, Worker.attends]) ⟨rfl, nofun⟩ (fun _ => rfl) nofun

theorem fails_move {toolMissing : Bool} (stepped : fails s toolMissing = some t) : Move s t := by
  unfold fails at stepped
  split at stepped
  case h_6 => cases stepped
  all_goals
    rename_i worker
    obtain rfl := Option.some.inj stepped
    exact move_leave (by simp [worker, Worker.attends])

theorem settles_move (stepped : settles s = some t) : Move s t := by
  unfold settles at stepped
  split_ifs at stepped with finalizing
  obtain rfl := Option.some.inj stepped
  refine move_on rfl rfl rfl rfl rfl rfl rfl (by simp [finalizing, Worker.attends]) ⟨rfl, nofun⟩ (fun _ => rfl) ?_
  rintro status settled stopped
  obtain rfl := Worker.settled.inj settled
  rw [finalStatus, if_pos stopped]

theorem finishes_move (stepped : finishes s = some t) : Move s t := by
  unfold finishes at stepped
  split at stepped
  · rename_i status settled
    obtain rfl := Option.some.inj stepped
    constructor <;> simp [settled, Worker.attends, Worker.launchesEngine]
  · cases stepped

/-- A step of a stop request. -/
structure Asks (s t : Scan) : Prop where
  chunked : t.chunked = s.chunked
  request : t.request = s.request
  entry : t.entry = s.entry
  children : t.children = s.children
  worker : t.worker = s.worker
  status : t.status = s.status
  stopRequested : s.stopRequested = true → t.stopRequested = true
  finds : ∀ r, (t.stops r).entry = some .runState → (s.stops r).entry = some .runState ∨ s.entry = some .runState
  marks : ∀ r, (t.stops r).marks = true → (s.stops r).marks = true ∨ t.stopRequested = true

/-- A request moves from one place to another. -/
theorem asks_setStop {r : Nat} {stop : Stop}
    (finds : stop.entry = some .runState → (s.stops r).entry = some .runState ∨ s.entry = some .runState)
    (marks : stop.marks = true → (s.stops r).marks = true) : Asks s (s.setStop r stop) := by
  constructor <;> try rfl
  · exact id
  · intro other
    by_cases same : other = r
    · subst same
      simpa [Scan.setStop] using finds
    · simpa [Scan.setStop, Function.update_of_ne same] using fun found => Or.inl found
  · intro other
    by_cases same : other = r
    · subst same
      simpa [Scan.setStop] using fun marked => Or.inl (marks marked)
    · simpa [Scan.setStop, Function.update_of_ne same] using fun marked => Or.inl marked

theorem looksUp_asks {r : Nat} (stepped : looksUp s r = some t) : Asks s t := by
  unfold looksUp at stepped
  split at stepped
  · rename_i entry idle present
    obtain rfl := Option.some.inj stepped
    refine asks_setStop (fun found => .inr ?_) nofun
    rw [present]
    exact found
  · cases stepped

theorem marks_asks {r : Nat} (stepped : marks s r = some t) : Asks s t := by
  unfold marks at stepped
  split at stepped
  · obtain rfl := Option.some.inj stepped
    exact asks_setStop nofun nofun
  · rename_i found
    obtain rfl := Option.some.inj stepped
    have asks : Asks s (s.setStop r (.marked .placeholder)) := asks_setStop nofun nofun
    constructor <;> try rfl
    · exact fun _ => rfl
    · intro other
      by_cases same : other = r
      · subst same
        exact fun _ => .inl (by rw [found]; rfl)
      · simpa [Scan.setStop, Function.update_of_ne same] using fun found => Or.inl found
    · exact fun _ _ => .inr rfl
  · cases stepped

theorem takes_asks {r : Nat} (stepped : takes s r = some t) : Asks s t := by
  unfold takes at stepped
  split at stepped
  · obtain rfl := Option.some.inj stepped
    exact asks_setStop nofun nofun
  · rename_i marked
    obtain rfl := Option.some.inj stepped
    exact asks_setStop (fun _ => .inl (by rw [marked]; rfl)) (fun _ => by rw [marked]; rfl)
  · cases stepped

/-- The request lets go of its subprocess. -/
theorem asks_release {r i : Nat} {entry : Entry} (holding : s.stops r = .holding entry (some i)) :
    Asks s (s.setStop r (.holding entry none)) := by
  refine asks_setStop (fun found => .inl ?_) (fun marked => ?_)
  · rw [holding]
    exact found
  · rw [holding]
    cases entry with
    | placeholder => cases marked
    | runState => rfl

theorem waits_asks {r : Nat} (stepped : waits s r = some t) : Asks s t := by
  unfold waits at stepped
  split at stepped
  · rename_i holding
    split_ifs at stepped
    obtain rfl := Option.some.inj stepped
    exact asks_release holding
  · cases stepped

theorem kills_asks {r : Nat} (stepped : kills s r = some t) : Asks s t := by
  unfold kills at stepped
  split at stepped
  · rename_i holding
    split_ifs at stepped
    obtain rfl := Option.some.inj stepped
    exact asks_release holding
  · cases stepped

theorem answers_asks {r : Nat} (stepped : answers s r = some t) : Asks s t := by
  unfold answers at stepped
  split at stepped
  · obtain rfl := Option.some.inj stepped
    exact asks_setStop nofun nofun
  · cases stepped

/-- The steps by what they change: the request, the exit of the last subprocess, the start
    of one by the thread, and the rest. -/
inductive Change (s t : Scan) : Prop where
  | spawned (reserved : s.request = .reserved) (single : s.chunked = false)
      (is : t = { s.popen .whole with request := .spawned, process := some 0 })
  | requested (request : Request) (entry : Option Entry) (open_ : s.request ≠ .past) (ahead : request ≠ .reserved)
      (shown : entry = some .runState → s.request ≠ .reserved ∨ s.entry = some .runState)
      (is : t = { s with request, entry })
  | handedOver (recorded : s.request = .recorded)
      (is : t = { s with request := .past, worker := if s.chunked then .preparing else .reading })
  | exited (job : Job) (returnCode : Int) (last : s.children.getLast? = some ⟨job, none⟩)
      (is : t = { s with children := s.children.dropLast ++ [⟨job, some returnCode⟩] })
  | launched (job : Job) (launching : s.worker = .launching job)
      (is : t = { s.popen job with worker := .attaching job })
  | moved (move : Move s t)
  | asked (asks : Asks s t)

theorem step_change {l : Label} (stepped : step s l = some t) : Change s t := by
  cases l with
  | spawns =>
    simp only [step, spawns] at stepped
    split_ifs at stepped with reserved chunked
    · exact .requested .spawned s.entry (by simp [reserved]) nofun .inr (Option.some.inj stepped).symm
    · exact .spawned reserved (by simpa using chunked) (Option.some.inj stepped).symm
  | spawnFails =>
    simp only [step, spawnFails] at stepped
    split_ifs at stepped with guard
    exact .requested .past none (by simp [guard.1]) nofun nofun (Option.some.inj stepped).symm
  | registers =>
    simp only [step, registers] at stepped
    split_ifs at stepped with spawned
    exact .requested .registered (some .runState) (by simp [spawned]) nofun (fun _ => .inl (by simp [spawned]))
      (Option.some.inj stepped).symm
  | records =>
    simp only [step, records] at stepped
    split_ifs at stepped with registered
    exact .requested .recorded s.entry (by simp [registered]) nofun .inr (Option.some.inj stepped).symm
  | starts =>
    simp only [step, starts] at stepped
    by_cases recorded : s.request = .recorded
    · rw [if_pos recorded] at stepped
      exact .handedOver recorded (Option.some.inj stepped).symm
    · rw [if_neg recorded] at stepped
      cases stepped
  | raises =>
    simp only [step, raises] at stepped
    split at stepped
    case h_4 | h_5 => cases stepped
    all_goals
      rename_i request
      exact .requested .past s.entry (by simp [request]) nofun .inr (Option.some.inj stepped).symm
  | exits returnCode =>
    simp only [step, exits] at stepped
    split at stepped
    · rename_i job last
      exact .exited job returnCode last (Option.some.inj stepped).symm
    · cases stepped
  | launches =>
    simp only [step, launches] at stepped
    split at stepped
    · rename_i job launching
      exact .launched job launching (Option.some.inj stepped).symm
    · cases stepped
  | prepares => exact .moved (prepares_move stepped)
  | attaches => exact .moved (attaches_move stepped)
  | returns => exact .moved (returns_move stepped)
  | looks => exact .moved (looks_move stepped)
  | lists total => exact .moved (lists_move stepped)
  | advances => exact .moved (advances_move stepped)
  | merges => exact .moved (merges_move stepped)
  | fails toolMissing => exact .moved (fails_move stepped)
  | settles => exact .moved (settles_move stepped)
  | finishes => exact .moved (finishes_move stepped)
  | looksUp r => exact .asked (looksUp_asks stepped)
  | marks r => exact .asked (marks_asks stepped)
  | takes r => exact .asked (takes_asks stepped)
  | waits r => exact .asked (waits_asks stepped)
  | kills r => exact .asked (kills_asks stepped)
  | answers r => exact .asked (answers_asks stepped)

end Steps

/-! ### What holds in every run -/

def Idle (s : Scan) : Prop := ∀ child ∈ s.children, child.returnCode ≠ none

structure Sound (s : Scan) : Prop where
  entry : s.entry = some .runState → s.request ≠ .reserved
  found : ∀ r, (s.stops r).entry = some .runState → s.request ≠ .reserved
  marked : ∀ r, (s.stops r).marks = true → s.stopRequested = true
  unstarted : s.request ≠ .past → s.worker = .unstarted
  childless : s.request = .reserved ∨ s.chunked = true ∧ s.worker = .unstarted → s.children = []
  earlier : ∀ child ∈ s.children.dropLast, child.returnCode ≠ none
  attended : Idle s ∨ s.worker.attends = true
  running : s.worker ≠ .finished → s.status = .running

theorem sound_start (chunked : Bool) : Sound (start chunked) where
  entry := nofun
  found := nofun
  marked := nofun
  unstarted _ := rfl
  childless _ := rfl
  earlier := nofun
  attended := .inl nofun
  running _ := rfl

section Preserved
variable {s t : Scan}

theorem idle_of_last (sound : Sound s) {child : Child} (last : s.children.getLast? = some child)
    (exited : child.returnCode ≠ none) : Idle s := by
  intro other member
  have split := List.dropLast_append_getLast? child last
  rw [← split] at member
  rcases List.mem_append.mp member with earlier | is
  · exact sound.earlier other earlier
  · rw [List.mem_singleton.mp is]
    exact exited

/-- A subprocess that is started when all before it have exited. -/
theorem sound_popen (idle : Idle s) (job : Job) : ∀ child ∈ (s.popen job).children.dropLast, child.returnCode ≠ none := by
  rw [Scan.popen, List.dropLast_concat]
  exact idle

theorem sound_spawned (sound : Sound s) (reserved : s.request = .reserved) (single : s.chunked = false) :
    Sound { s.popen .whole with request := .spawned, process := some 0 } := by
  have idle : Idle s := by
    rw [Idle, sound.childless (.inl reserved)]
    nofun
  have unstarted := sound.unstarted (by simp [reserved])
  constructor
  · nofun
  · nofun
  · exact sound.marked
  · exact fun _ => unstarted
  · rintro (never | ⟨chunked, -⟩)
    · cases never
    · exact absurd (single.symm.trans chunked) (by decide)
  · exact sound_popen idle .whole
  · right
    simp [Scan.popen, unstarted, Worker.attends]
  · exact sound.running

theorem sound_requested (sound : Sound s) {request : Request} {entry : Option Entry} (open_ : s.request ≠ .past)
    (ahead : request ≠ .reserved) : Sound { s with request, entry } := by
  constructor
  · exact fun _ => ahead
  · exact fun _ _ => ahead
  · exact sound.marked
  · exact fun _ => sound.unstarted open_
  · rintro (never | chunked)
    · exact absurd never ahead
    · exact sound.childless (.inr chunked)
  · exact sound.earlier
  · exact sound.attended
  · exact sound.running

theorem sound_handedOver (sound : Sound s) (recorded : s.request = .recorded) :
    Sound { s with request := .past, worker := if s.chunked then .preparing else .reading } := by
  have unstarted := sound.unstarted (by simp [recorded])
  constructor
  · nofun
  · nofun
  · exact sound.marked
  · exact fun open_ => absurd rfl open_
  · rintro (never | ⟨chunked, waiting⟩)
    · cases never
    · simp only at chunked waiting
      rw [if_pos chunked] at waiting
      cases waiting
  · exact sound.earlier
  · cases chunked : s.chunked with
    | true =>
      left
      rw [Idle, sound.childless (.inr ⟨chunked, unstarted⟩)]
      nofun
    | false =>
      right
      rfl
  · exact fun _ => sound.running (by simp [unstarted])

theorem sound_exited (sound : Sound s) {job : Job} (returnCode : Int) (last : s.children.getLast? = some ⟨job, none⟩) :
    Sound { s with children := s.children.dropLast ++ [⟨job, some returnCode⟩] } := by
  constructor
  · exact sound.entry
  · exact sound.found
  · exact sound.marked
  · exact sound.unstarted
  · intro early
    rw [sound.childless early] at last
    cases last
  · rw [List.dropLast_concat]
    exact sound.earlier
  · left
    intro child member
    rcases List.mem_append.mp member with earlier | is
    · exact sound.earlier child earlier
    · rw [List.mem_singleton.mp is]
      nofun
  · exact sound.running

theorem sound_launched (sound : Sound s) {job : Job} (launching : s.worker = .launching job) :
    Sound { s.popen job with worker := .attaching job } := by
  have idle : Idle s := sound.attended.resolve_right (by simp [launching, Worker.attends])
  have past : s.request = .past := by
    by_contra open_
    have := sound.unstarted open_
    rw [launching] at this
    cases this
  constructor
  · exact sound.entry
  · exact sound.found
  · exact sound.marked
  · exact fun open_ => absurd past open_
  · rintro (reserved | ⟨-, waiting⟩)
    · exact absurd (past.symm.trans reserved) (by decide)
    · cases waiting
  · exact sound_popen idle job
  · exact .inr rfl
  · exact fun _ => sound.running (by simp [launching])

theorem sound_moved (sound : Sound s) (move : Move s t) : Sound t := by
  have past : s.request = .past := by
    by_contra open_
    exact move.started.1 (sound.unstarted open_)
  constructor
  · rw [move.entry, move.request]
    exact sound.entry
  · rw [move.stops, move.request]
    exact sound.found
  · rw [move.stops, move.stopRequested]
    exact sound.marked
  · intro open_
    rw [move.request] at open_
    exact absurd past open_
  · rintro (reserved | ⟨-, waiting⟩)
    · rw [move.request, past] at reserved
      cases reserved
    · exact absurd waiting move.going
  · rw [move.children]
    exact sound.earlier
  · rw [Idle, move.children]
    rcases sound.attended with idle | attends
    · exact .inl idle
    · rcases move.leaves attends with attends | ⟨child, last, exited⟩
      · exact .inr attends
      · exact .inl (idle_of_last sound last exited)
  · intro unfinished
    rcases move.status with ⟨same, -⟩ | ⟨-, finished⟩
    · rw [same]
      exact sound.running move.started.2
    · exact absurd finished unfinished

theorem sound_asked (sound : Sound s) (asks : Asks s t) : Sound t := by
  constructor
  · rw [asks.entry, asks.request]
    exact sound.entry
  · intro r found
    rw [asks.request]
    rcases asks.finds r found with found | shown
    · exact sound.found r found
    · exact sound.entry shown
  · intro r marked
    rcases asks.marks r marked with marked | set
    · exact asks.stopRequested (sound.marked r marked)
    · exact set
  · rw [asks.request, asks.worker]
    exact sound.unstarted
  · rw [asks.request, asks.chunked, asks.worker, asks.children]
    exact sound.childless
  · rw [asks.children]
    exact sound.earlier
  · rw [Idle, asks.children, asks.worker]
    exact sound.attended
  · rw [asks.worker, asks.status]
    exact sound.running

theorem sound_step {l : Label} (sound : Sound s) (stepped : step s l = some t) : Sound t := by
  cases step_change stepped with
  | spawned reserved single is => exact is ▸ sound_spawned sound reserved single
  | requested request entry open_ ahead shown is => exact is ▸ sound_requested sound open_ ahead
  | handedOver recorded is => exact is ▸ sound_handedOver sound recorded
  | exited job returnCode last is => exact is ▸ sound_exited sound returnCode last
  | launched job launching is => exact is ▸ sound_launched sound launching
  | moved move => exact sound_moved sound move
  | asked asks => exact sound_asked sound asks

/-! ### After a stop -/

/-- The flag is set, and no engine will be started again. -/
structure Barred (n : Nat) (s : Scan) : Prop where
  stopRequested : s.stopRequested = true
  spawned : s.request ≠ .reserved
  engines : engines s = n
  launching : s.worker.launchesEngine = false

/-- The flag is set, and the run will end as stopped. -/
structure Doomed (s : Scan) : Prop where
  stopRequested : s.stopRequested = true
  settled : ∀ status, s.worker = .settled status → status = .stopped
  status : s.status = .running ∧ s.worker ≠ .finished ∨ s.status = .stopped

theorem engines_exit {job : Job} {returnCode : Int} (last : s.children.getLast? = some ⟨job, none⟩) :
    engines { s with children := s.children.dropLast ++ [⟨job, some returnCode⟩] } = engines s := by
  have split := List.dropLast_append_getLast? (⟨job, none⟩ : Child) last
  have count : engines s = engines { s with children := s.children.dropLast ++ [⟨job, none⟩] } := by
    rw [split]
  rw [count]
  cases engine : job.isEngine <;> simp [engines, List.filter_append, engine]

theorem barred_step {n : Nat} {l : Label} (barred : Barred n s) (stepped : step s l = some t) : Barred n t := by
  cases step_change stepped with
  | spawned reserved single is => exact absurd reserved barred.spawned
  | requested request entry open_ ahead shown is =>
    subst is
    exact ⟨barred.stopRequested, ahead, barred.engines, barred.launching⟩
  | handedOver recorded is =>
    subst is
    refine ⟨barred.stopRequested, nofun, barred.engines, ?_⟩
    cases s.chunked <;> rfl
  | exited job returnCode last is =>
    subst is
    exact ⟨barred.stopRequested, barred.spawned, (engines_exit last).trans barred.engines, barred.launching⟩
  | launched job launching is =>
    subst is
    refine ⟨barred.stopRequested, barred.spawned, ?_, rfl⟩
    have other : job.isEngine = false := by
      have := barred.launching
      rwa [launching] at this
    rw [← barred.engines]
    simp [engines, Scan.popen, List.filter_append, other]
  | moved move =>
    constructor
    · rw [move.stopRequested]
      exact barred.stopRequested
    · rw [move.request]
      exact barred.spawned
    · rw [engines, move.children]
      exact barred.engines
    · exact move.starts barred.stopRequested
  | asked asks =>
    constructor
    · exact asks.stopRequested barred.stopRequested
    · rw [asks.request]
      exact barred.spawned
    · rw [engines, asks.children]
      exact barred.engines
    · rw [asks.worker]
      exact barred.launching

theorem doomed_step {l : Label} (doomed : Doomed s) (stepped : step s l = some t) : Doomed t := by
  cases step_change stepped with
  | spawned reserved single is =>
    subst is
    exact ⟨doomed.stopRequested, doomed.settled, doomed.status⟩
  | requested request entry open_ ahead shown is =>
    subst is
    exact ⟨doomed.stopRequested, doomed.settled, doomed.status⟩
  | handedOver recorded is =>
    subst is
    refine ⟨doomed.stopRequested, fun status settled => ?_, doomed.status.imp_left fun running => ⟨running.1, ?_⟩⟩
    · simp only at settled
      split_ifs at settled
    · simp only
      split_ifs <;> nofun
  | exited job returnCode last is =>
    subst is
    exact ⟨doomed.stopRequested, doomed.settled, doomed.status⟩
  | launched job launching is =>
    subst is
    exact ⟨doomed.stopRequested, nofun, doomed.status.imp_left fun running => ⟨running.1, nofun⟩⟩
  | moved move =>
    constructor
    · rw [move.stopRequested]
      exact doomed.stopRequested
    · exact move.settles doomed.stopRequested
    · rcases move.status with ⟨same, unfinished⟩ | ⟨settled, -⟩
      · rw [same]
        exact doomed.status.imp_left fun running => ⟨running.1, unfinished⟩
      · exact .inr (doomed.settled _ settled)
  | asked asks =>
    constructor
    · exact asks.stopRequested doomed.stopRequested
    · rw [asks.worker]
      exact doomed.settled
    · rw [asks.status, asks.worker]
      exact doomed.status

end Preserved

theorem sound_run {chunked : Bool} {labels : List Label} {s : Scan} (ran : run step (start chunked) labels = some s) :
    Sound s :=
  run_invariant Sound (fun _ _ _ sound stepped => sound_step sound stepped) (sound_start chunked) ran

/-- The state in which a timely stop is answered. -/
theorem barred_of_timely {s t : Scan} {r : Nat} (sound : Sound s) (timely : Timely s (.answers r))
    (answered : step s (.answers r) = some t) : Barred (engines t) t := by
  have asks := answers_asks answered
  obtain ⟨holding, launching⟩ := timely
  have marked : (s.stops r).marks = true := by
    rw [holding]
    rfl
  constructor
  · exact asks.stopRequested (sound.marked r marked)
  · rw [asks.request]
    refine sound.found r ?_
    rw [holding]
    rfl
  · rfl
  · rw [asks.worker]
    exact launching

/-- While an engine subprocess runs the thread has not looked at the flag for the last time. -/
theorem doomed_of_running {t : Scan} (sound : Sound t) (stopRequested : t.stopRequested = true)
    (engine : EngineRunning t) : Doomed t := by
  obtain ⟨child, member, -, alive⟩ := engine
  have attends : t.worker.attends = true := sound.attended.resolve_left fun idle => idle child member alive
  constructor
  · exact stopRequested
  · intro status settled
    rw [settled] at attends
    cases attends
  · have unfinished : t.worker ≠ .finished := by
      intro finished
      rw [finished] at attends
      cases attends
    exact .inl ⟨sound.running unfinished, unfinished⟩

/-- In every run all of whose stops are timely, every stop is effective. -/
theorem stop_effective {chunked : Bool} {labels : List Label} (timely : Meets step Timely (start chunked) labels) :
    StopsEffective chunked labels := by
  rintro before r after s t u rfl ran answered ran' early
  have sound := sound_run ran
  have sound' := sound_step sound answered
  have barred := barred_of_timely sound (meets_at timely ran answered) answered
  have last := run_invariant (Barred (engines t)) (fun _ _ _ barred stepped => barred_step barred stepped) barred ran'
  have engine : EngineRunning t := early.resolve_right (by rw [last.engines]; exact Nat.lt_irrefl _)
  have doomed := run_invariant Doomed (fun _ _ _ doomed stepped => doomed_step doomed stepped)
    (doomed_of_running sound' barred.stopRequested engine) ran'
  refine ⟨last.engines, ?_, fun finished => ?_⟩
  · rcases doomed.status with ⟨running, -⟩ | stopped
    · rw [running]
      decide
    · rw [stopped]
      decide
  · exact doomed.status.resolve_left fun running => running.2 finished

/-- A stop of a live engine, which has to be killed. -/
theorem killed_stop_effective : StopsEffective false
    [.spawns, .registers, .records, .starts, .looksUp 0, .marks 0, .takes 0, .kills 0, .answers 0, .exits (-9), .returns,
      .settles, .finishes] :=
  stop_effective (by decide)

/-- A stop that only marks the placeholder, and one between the look at the flag and the
    start of the chain: the first run is completed, the second starts the engine again. -/
theorem late_stops_ineffective :
    ¬StopsEffective false
      [.looksUp 0, .marks 0, .takes 0, .answers 0, .spawns, .registers, .records, .starts, .exits 0, .returns, .settles,
        .finishes] ∧
    ¬StopsEffective true
      [.spawns, .registers, .records, .starts, .prepares, .launches, .attaches, .exits 0, .returns, .looks, .lists 1,
        .looks, .looksUp 0, .marks 0, .takes 0, .answers 0, .launches] := by
  constructor
  · intro effective
    have := effective [.looksUp 0, .marks 0, .takes 0] 0
      [.spawns, .registers, .records, .starts, .exits 0, .returns, .settles, .finishes] _ _ _ rfl rfl rfl rfl
      (.inr (by decide))
    exact this.never.1 rfl
  · intro effective
    have := effective
      [.spawns, .registers, .records, .starts, .prepares, .launches, .attaches, .exits 0, .returns, .looks, .lists 1,
        .looks, .looksUp 0, .marks 0, .takes 0] 0 [.launches] _ _ _ rfl rfl rfl rfl (.inr (by decide))
    exact absurd this.started (by decide)

end Marlinspike.Scans.Stops
