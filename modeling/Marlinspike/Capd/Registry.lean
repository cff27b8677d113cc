import Marlinspike.Transition
import Marlinspike.PyDict

/-!
The session registry of capd's server: `_start_session`, `_stop_session`,
`_session_status` and `_stream_stats` on one event loop. A handler is cut where it
awaits its executor call, so that the requests of any number of clients interleave
there; `dumpcap` may exit between any two steps.

`_start_session` checks the registry and writes it without an await in between. The
other handlers look the supervisor up, leave it to the executor and pop the id
afterwards, whichever supervisor is stored under it by then. The registry keeps every
live capture exactly as long as each of these pops meets its own supervisor, or one
that has exited (`registry_iff_pops_own`).
-/
namespace Marlinspike.Capd.Registry
open Marlinspike.Transition

/-- A `CaptureSupervisor` as the registry sees it: two fields of its `cfg` and `is_running()`. -/
structure Supervisor where
  sessionId : String
  interface : String
  isRunning : Bool
deriving DecidableEq, Repr

/-- The requests that look a session up. -/
inductive Method where
  | stop
  | sessionStatus
  | stats
deriving DecidableEq, Repr

/-- Where a handler that has found its supervisor stands. -/
inductive Phase where
  /-- `sup.stop` or `sup.poll` is in the executor. -/
  | executor
  /-- The executor is done, with these `stats.running`; the coroutine has not resumed. -/
  | returned (running : Bool)
  /-- The stats stream sleeps for its interval. -/
  | sleeping
deriving DecidableEq, Repr

structure Request where
  method : Method
  sessionId : String
  /-- The place of `sup` among the supervisors ever started. -/
  supervisor : Nat
  phase : Phase
deriving DecidableEq, Repr

/-- The server and everything it has started. -/
structure Server where
  supervisors : List Supervisor
  sessions : PyDict String Nat
  requests : List Request

namespace Server

def init : Server := ⟨[], PyDict.empty, []⟩

def isRunning (s : Server) (i : Nat) : Bool := (s.supervisors[i]?).any (·.isRunning)

end Server

/-- A `start` request after its parameters are read, with what the host decides about it. -/
structure StartRequest where
  sessionId : String
  interface : String
  /-- `int()` accepts the ring sizes and the duration. -/
  integers : Bool
  /-- The error of `bpf.validate`, if it is not ok. -/
  bpfError : Option String
  /-- `find_interface` knows the interface. -/
  interfaceFound : Bool
  /-- `CaptureSupervisor(cfg)` and its `start()`: the text of what either raises. -/
  spawned : Except String Unit

inductive StartReply where
  | error (text : String)
  /-- The refusal that names the other session and both interfaces. -/
  | conflict (interface otherId otherInterface : String)
  | ok (sessionId : String)
deriving DecidableEq, Repr

/-- `interface == "any" or other_iface == "any" or other_iface == interface`. -/
def conflicts (interface other : String) : Bool :=
  interface == "any" || other == "any" || other == interface

/-- The first running session other than `sessionId` whose interface conflicts. -/
def conflicting (s : Server) (sessionId interface : String) : Option (String × Nat) :=
  s.sessions.items.find? fun item =>
    item.1 ≠ sessionId && (s.supervisors[item.2]?).any fun other => other.isRunning && conflicts interface other.interface

def alreadyRunning (s : Server) (sessionId : String) : Bool := (s.sessions.get sessionId).any s.isRunning

def startSession (s : Server) (q : StartRequest) : StartReply × Server :=
  if !q.integers then (.error "ring_filesize_kb, ring_files, and max_duration_s must be integers", s)
  else if q.sessionId = "" then (.error "session_id required", s)
  else if q.interface = "" then (.error "interface required", s)
  else match q.bpfError with
  | some text => (.error ("bpf invalid: " ++ text), s)
  | none =>
    if q.interface ≠ "any" && !q.interfaceFound then (.error ("interface not found: " ++ q.interface), s)
    else if alreadyRunning s q.sessionId then (.error ("session " ++ q.sessionId ++ " already running"), s)
    else match conflicting s q.sessionId q.interface with
    | some (otherId, other) =>
      (.conflict q.interface otherId (((s.supervisors[other]?).map (·.interface)).getD ""), s)
    | none =>
      match q.spawned with
      | .error text => (.error text, s)
      | .ok () =>
        (.ok q.sessionId,
          { s with
            supervisors := s.supervisors ++ [⟨q.sessionId, q.interface, true⟩]
            sessions := s.sessions.set q.sessionId s.supervisors.length })

/-- `self._sessions.get(session_id)`, up to the executor call; an unknown session is
    answered at once. -/
def lookup (s : Server) (method : Method) (sessionId : String) : Server :=
  match s.sessions.get sessionId with
  | none => s
  | some i => { s with requests := s.requests ++ [⟨method, sessionId, i, .executor⟩] }

/-- The executor call ends: `stop` returns once `dumpcap` is dead, `poll` with what
    `is_running()` says. -/
def finishes (s : Server) (k : Nat) : Option Server := do
  let request ← s.requests[k]?
  guard (request.phase = .executor)
  guard (request.method = .stop → s.isRunning request.supervisor = false)
  return { s with requests := s.requests.set k { request with phase := .returned (s.isRunning request.supervisor) } }

/-- `_stop_session` pops the id, the other two `_reap_if_finished`. -/
def popped (s : Server) (request : Request) (running : Bool) : PyDict String Nat :=
  match request.method with
  | .stop => s.sessions.pop request.sessionId
  | .sessionStatus | .stats => if running then s.sessions else s.sessions.pop request.sessionId

/-- The coroutine runs on from its executor call. -/
def resumes (s : Server) (k : Nat) : Option Server := do
  let request ← s.requests[k]?
  match request.phase with
  | .returned running =>
    return { s with
      sessions := popped s request running
      requests :=
        if request.method = .stats && running then s.requests.set k { request with phase := .sleeping }
        else s.requests.eraseIdx k }
  | _ => none

/-- What happens next, and where. -/
inductive Label where
  | start (q : StartRequest)
  | exits (i : Nat)
  | lookup (method : Method) (sessionId : String)
  | finishes (k : Nat)
  /-- The executor call of a request raises, which ends its handler. -/
  | raises (k : Nat)
  | resumes (k : Nat)
  /-- The stats stream wakes up and polls again. -/
  | polls (k : Nat)
  /-- The stats stream ends on a closed socket. -/
  | hangsUp (k : Nat)

def step (s : Server) : Label → Option Server
  | .start q => some (startSession s q).2
  | .exits i => do
    let sup ← s.supervisors[i]?
    guard sup.isRunning
    return { s with supervisors := s.supervisors.set i { sup with isRunning := false } }
  | .lookup method sessionId => some (lookup s method sessionId)
  | .finishes k => finishes s k
  | .raises k => do
    let request ← s.requests[k]?
    guard (request.phase = .executor)
    return { s with requests := s.requests.eraseIdx k }
  | .resumes k => resumes s k
  | .polls k => do
    let request ← s.requests[k]?
    guard (request.phase = .sleeping)
    return { s with requests := s.requests.set k { request with phase := .executor } }
  | .hangsUp k => do
    let request ← s.requests[k]?
    guard (request.phase = .sleeping)
    return { s with requests := s.requests.eraseIdx k }


/-! ### What has to hold of the registry -/

/-- Every supervisor whose `dumpcap` is alive is the one stored under its session id. -/
def Registered (s : Server) : Prop :=
  ∀ (i : Nat) (sup : Supervisor), s.supervisors[i]? = some sup → sup.isRunning = true →
    s.sessions.get sup.sessionId = some i

/-- No two supervisors whose `dumpcap` is alive conflict. -/
def Exclusive (s : Server) : Prop :=
  ∀ (i j : Nat) (first second : Supervisor), i ≠ j → s.supervisors[i]? = some first → s.supervisors[j]? = some second →
    first.isRunning = true → second.isRunning = true → conflicts first.interface second.interface = false

/-- A handler that resumes to pop its id pops its own supervisor, or one that has exited. -/
def PopsOwn (s : Server) : Label → Prop
  | .resumes k => ∀ request, s.requests[k]? = some request → request.phase = .returned false →
      ∀ i, s.sessions.get request.sessionId = some i → i = request.supervisor ∨ s.isRunning i = false
  | _ => True

/-- What every request in flight knows about its supervisor. -/
private structure Fits (s : Server) (request : Request) : Prop where
  known : request.supervisor < s.supervisors.length
  finished : request.phase = .returned false → s.isRunning request.supervisor = false
  stopped : request.method = .stop → request.phase ≠ .returned true

private structure Invariant (s : Server) : Prop where
  named : ∀ sessionId i, s.sessions.get sessionId = some i →
    ∃ sup, s.supervisors[i]? = some sup ∧ sup.sessionId = sessionId
  fits : ∀ request ∈ s.requests, Fits s request

/-- The server after `dumpcap` of supervisor `i` has exited. -/
private def exited (s : Server) (i : Nat) (sup : Supervisor) : Server :=
  { s with supervisors := s.supervisors.set i { sup with isRunning := false } }

/-- The server after a start that succeeds. -/
private def started (s : Server) (sessionId interface : String) : Server :=
  { s with
    supervisors := s.supervisors ++ [⟨sessionId, interface, true⟩]
    sessions := s.sessions.set sessionId s.supervisors.length }

theorem isRunning_iff (s : Server) (i : Nat) :
    s.isRunning i = true ↔ ∃ sup, s.supervisors[i]? = some sup ∧ sup.isRunning = true := by
  simp [Server.isRunning, Option.any_eq_true]

theorem conflicts_comm (interface other : String) : conflicts interface other = conflicts other interface := by
  rw [Bool.eq_iff_iff]
  simp only [conflicts, Bool.or_eq_true, beq_iff_eq]
  tauto

/-- A start changes nothing, or starts a supervisor whose id is free and whose
    interface no running session conflicts with. -/
private theorem startSession_cases (s : Server) (q : StartRequest) :
    (startSession s q).2 = s ∨
      (alreadyRunning s q.sessionId = false ∧ conflicting s q.sessionId q.interface = none ∧
        (startSession s q).2 = started s q.sessionId q.interface) := by
  unfold startSession
  -- The checks in the order of the source; each failure leaves the server alone.
  split
  · exact .inl rfl
  split
  · exact .inl rfl
  split
  · exact .inl rfl
  split
  · exact .inl rfl
  split
  · exact .inl rfl
  split
  · exact .inl rfl
  rename_i free
  split
  · exact .inl rfl
  rename_i clear
  split
  · exact .inl rfl
  · exact .inr ⟨by simpa using free, clear, rfl⟩

/-! ### Steps that leave the supervisors and the registry alone -/

private theorem invariant_requests {s : Server} (inv : Invariant s) {requests : List Request}
    (fits : ∀ request ∈ requests, Fits s request) : Invariant { s with requests := requests } :=
  ⟨inv.named, fun request member => ⟨(fits request member).known, (fits request member).finished,
    (fits request member).stopped⟩⟩

private theorem fits_set {s : Server} (inv : Invariant s) {k : Nat} {request : Request} (fits : Fits s request) :
    ∀ other ∈ s.requests.set k request, Fits s other := by
  intro other member
  rcases List.mem_or_eq_of_mem_set member with old | new
  · exact inv.fits other old
  · exact new ▸ fits

private theorem fits_eraseIdx {s : Server} (inv : Invariant s) (k : Nat) :
    ∀ other ∈ s.requests.eraseIdx k, Fits s other :=
  fun other member => inv.fits other (List.mem_of_mem_eraseIdx member)

/-! ### An exit -/

private theorem exited_supervisor {s : Server} {i j : Nat} {sup other : Supervisor}
    (present : s.supervisors[i]? = some sup) (sought : (exited s i sup).supervisors[j]? = some other) :
    ∃ before, s.supervisors[j]? = some before ∧ other.sessionId = before.sessionId ∧
      other.interface = before.interface ∧ (other.isRunning = true → before.isRunning = true ∧ other = before) := by
  simp only [exited, List.getElem?_set] at sought
  split_ifs at sought with same inside
  · subst same
    simp only [Option.some.injEq] at sought
    subst sought
    exact ⟨sup, present, rfl, rfl, by simp⟩
  · exact ⟨other, sought, rfl, rfl, fun alive => ⟨alive, rfl⟩⟩

private theorem exited_isRunning {s : Server} {i j : Nat} {sup : Supervisor}
    (present : s.supervisors[i]? = some sup) (dead : s.isRunning j = false) :
    (exited s i sup).isRunning j = false := by
  by_contra alive
  obtain ⟨other, sought, running⟩ := (isRunning_iff _ _).mp (by simpa using alive)
  obtain ⟨before, found, -, -, same⟩ := exited_supervisor present sought
  have alive := (isRunning_iff s j).mpr ⟨before, found, (same running).1⟩
  simp [dead] at alive

private theorem invariant_exited {s : Server} (inv : Invariant s) {i : Nat} {sup : Supervisor}
    (present : s.supervisors[i]? = some sup) : Invariant (exited s i sup) := by
  refine ⟨fun sessionId j stored => ?_, fun request member => ?_⟩
  · obtain ⟨before, found, named⟩ := inv.named sessionId j stored
    by_cases same : i = j
    · subst same
      obtain rfl : sup = before := by simpa [present] using found
      have inside := (List.getElem?_eq_some_iff.mp present).1
      exact ⟨{ sup with isRunning := false }, by simp [exited, inside], named⟩
    · exact ⟨before, by simp [exited, List.getElem?_set_ne same, found], named⟩
  · obtain ⟨known, finished, stopped⟩ := inv.fits request member
    exact ⟨by simpa [exited] using known, fun ended => exited_isRunning present (finished ended), stopped⟩

private theorem registered_exited {s : Server} {i : Nat} {sup : Supervisor} (present : s.supervisors[i]? = some sup)
    (registered : Registered s) : Registered (exited s i sup) := by
  intro j other sought alive
  obtain ⟨before, found, -, -, same⟩ := exited_supervisor present sought
  obtain ⟨running, rfl⟩ := same alive
  exact registered j other found running

private theorem exclusive_exited {s : Server} {i : Nat} {sup : Supervisor} (present : s.supervisors[i]? = some sup)
    (exclusive : Exclusive s) : Exclusive (exited s i sup) := by
  intro j k first second distinct soughtFirst soughtSecond aliveFirst aliveSecond
  obtain ⟨_, foundFirst, -, -, sameFirst⟩ := exited_supervisor present soughtFirst
  obtain ⟨_, foundSecond, -, -, sameSecond⟩ := exited_supervisor present soughtSecond
  obtain ⟨runningFirst, rfl⟩ := sameFirst aliveFirst
  obtain ⟨runningSecond, rfl⟩ := sameSecond aliveSecond
  exact exclusive j k first second distinct foundFirst foundSecond runningFirst runningSecond

/-! ### A start -/

private theorem started_supervisor {s : Server} {sessionId interface : String} {i : Nat} {sup : Supervisor}
    (sought : (started s sessionId interface).supervisors[i]? = some sup) :
    s.supervisors[i]? = some sup ∨ (i = s.supervisors.length ∧ sup = ⟨sessionId, interface, true⟩) := by
  simp only [started, List.getElem?_append] at sought
  split_ifs at sought with old
  · exact .inl sought
  · obtain ⟨inside, found⟩ := List.getElem?_eq_some_iff.mp sought
    simp only [List.length_singleton] at inside
    have last : i - s.supervisors.length = 0 := by omega
    simp only [last, List.getElem_cons_zero] at found
    exact .inr ⟨by omega, found.symm⟩

private theorem started_isRunning {s : Server} {sessionId interface : String} {i : Nat}
    (known : i < s.supervisors.length) : (started s sessionId interface).isRunning i = s.isRunning i := by
  simp [Server.isRunning, started, List.getElem?_append_left known]

private theorem invariant_started {s : Server} (inv : Invariant s) (sessionId interface : String) :
    Invariant (started s sessionId interface) := by
  refine ⟨fun other i stored => ?_, fun request member => ?_⟩
  · simp only [started, PyDict.get_set] at stored ⊢
    split_ifs at stored with same
    · simp only [Option.some.injEq] at stored
      subst same; subst stored
      exact ⟨⟨sessionId, interface, true⟩, by simp, rfl⟩
    · obtain ⟨sup, found, named⟩ := inv.named other i stored
      have inside := (List.getElem?_eq_some_iff.mp found).1
      exact ⟨sup, by rw [List.getElem?_append_left inside, found], named⟩
  · obtain ⟨known, finished, stopped⟩ := inv.fits request member
    refine ⟨by simp [started]; omega, fun ended => ?_, stopped⟩
    rw [started_isRunning known]
    exact finished ended

/-- Under an id that is not running nothing is lost by storing another supervisor. -/
private theorem registered_started {s : Server} {sessionId interface : String} (registered : Registered s)
    (free : alreadyRunning s sessionId = false) : Registered (started s sessionId interface) := by
  intro i sup sought alive
  simp only [started, PyDict.get_set]
  rcases started_supervisor sought with found | ⟨rfl, rfl⟩
  · have stored := registered i sup found alive
    rw [if_neg, stored]
    intro same
    have running : alreadyRunning s sessionId = true := by
      simp [alreadyRunning, same, stored, isRunning_iff, found, alive]
    simp [free] at running
  · simp

/-- The scan of the registry sees every live supervisor, since all are registered. -/
private theorem no_conflict_of_registered {s : Server} {sessionId interface : String} (registered : Registered s)
    (free : alreadyRunning s sessionId = false) (clear : conflicting s sessionId interface = none)
    {i : Nat} {sup : Supervisor} (found : s.supervisors[i]? = some sup) (alive : sup.isRunning = true) :
    conflicts interface sup.interface = false := by
  have stored := registered i sup found alive
  have other : sup.sessionId ≠ sessionId := by
    rintro rfl
    have running : alreadyRunning s sup.sessionId = true := by
      simp [alreadyRunning, stored, isRunning_iff, found, alive]
    simp [free] at running
  have unmatched := List.find?_eq_none.mp clear (sup.sessionId, i) (PyDict.mem_items_of_get stored)
  simpa [other, found, alive] using unmatched

private theorem exclusive_started {s : Server} {sessionId interface : String} (registered : Registered s)
    (exclusive : Exclusive s) (free : alreadyRunning s sessionId = false)
    (clear : conflicting s sessionId interface = none) : Exclusive (started s sessionId interface) := by
  intro i j first second distinct soughtFirst soughtSecond aliveFirst aliveSecond
  rcases started_supervisor soughtFirst with foundFirst | ⟨rfl, rfl⟩
  · rcases started_supervisor soughtSecond with foundSecond | ⟨rfl, rfl⟩
    · exact exclusive i j first second distinct foundFirst foundSecond aliveFirst aliveSecond
    · rw [conflicts_comm]
      exact no_conflict_of_registered registered free clear foundFirst aliveFirst
  · rcases started_supervisor soughtSecond with foundSecond | ⟨rfl, rfl⟩
    · exact no_conflict_of_registered registered free clear foundSecond aliveSecond
    · exact absurd rfl distinct

/-! ### A pop -/

private theorem invariant_popped {s : Server} (inv : Invariant s) (sessionId : String) :
    Invariant { s with sessions := s.sessions.pop sessionId } := by
  refine ⟨fun other i stored => ?_, fun request member => ?_⟩
  · simp only [PyDict.get_pop] at stored
    split_ifs at stored with same
    exact inv.named other i stored
  · obtain ⟨known, finished, stopped⟩ := inv.fits request member
    exact ⟨known, finished, stopped⟩

/-- A pop keeps every live capture registered if and only if what it drops has exited. -/
private theorem registered_popped {s : Server} (inv : Invariant s) (registered : Registered s) (sessionId : String) :
    Registered { s with sessions := s.sessions.pop sessionId } ↔
      ∀ i, s.sessions.get sessionId = some i → s.isRunning i = false := by
  constructor
  · intro kept i stored
    obtain ⟨sup, found, rfl⟩ := inv.named sessionId i stored
    by_contra alive
    obtain ⟨same, present, running⟩ := (isRunning_iff s i).mp (by simpa using alive)
    obtain rfl : sup = same := by simpa [found] using present
    have lost := kept i sup found running
    simp at lost
  · intro exitedAll i sup found alive
    have stored := registered i sup found alive
    simp only [PyDict.get_pop]
    rw [if_neg, stored]
    intro same
    have dead := exitedAll i (same ▸ stored)
    have running := (isRunning_iff s i).mpr ⟨sup, found, alive⟩
    simp [dead] at running

/-! ### Every step -/

private def Holds (s : Server) : Prop := Registered s ∧ Exclusive s

/-- What a step does to the registry: nothing but its requests change, a `dumpcap`
    exits, a supervisor is started, or a finished request pops its id. -/
private inductive Change (s : Server) : Label → Server → Prop where
  | requests {l : Label} (requests : List Request) (fits : ∀ request ∈ requests, Fits s request)
      (unpopped : PopsOwn s l) : Change s l { s with requests := requests }
  | exited (i : Nat) (sup : Supervisor) (present : s.supervisors[i]? = some sup) :
      Change s (.exits i) (exited s i sup)
  | started (q : StartRequest) (free : alreadyRunning s q.sessionId = false)
      (clear : conflicting s q.sessionId q.interface = none) :
      Change s (.start q) (started s q.sessionId q.interface)
  | popped (k : Nat) (request : Request) (present : s.requests[k]? = some request)
      (ended : request.phase = .returned false) :
      Change s (.resumes k)
        { s with sessions := s.sessions.pop request.sessionId, requests := s.requests.eraseIdx k }

private theorem resumes_change {s t : Server} (inv : Invariant s) {k : Nat} (stepped : resumes s k = some t) :
    Change s (.resumes k) t := by
  simp only [resumes, Option.bind_eq_bind, Option.bind_eq_some_iff] at stepped
  obtain ⟨request, present, stepped⟩ := stepped
  obtain ⟨known, finished, stopped⟩ := inv.fits request (List.mem_of_getElem? present)
  cases phase : request.phase with
  | executor => simp [phase] at stepped
  | sleeping => simp [phase] at stepped
  | returned running =>
    simp only [phase, Option.pure_def, Option.some.injEq] at stepped
    subst stepped
    cases running with
    | false =>
      have ended := Change.popped k request present phase
      cases method : request.method <;> simpa [popped, method] using ended
    | true =>
      have unpopped : PopsOwn s (.resumes k) := by
        intro other same ended
        simp [present] at same
        simp [← same, phase] at ended
      cases method : request.method with
      | stop => exact absurd phase (stopped method)
      | sessionStatus =>
        simpa [popped, method] using Change.requests _ (fits_eraseIdx inv k) unpopped
      | stats =>
        have fits : Fits s { request with phase := .sleeping } := ⟨known, by simp, by simp⟩
        simpa [popped, method] using Change.requests _ (fits_set inv fits) unpopped

private theorem step_change {s t : Server} {l : Label} (inv : Invariant s) (stepped : step s l = some t) :
    Change s l t := by
  cases l with
  | start q =>
    obtain rfl : (startSession s q).2 = t := by simpa [step] using stepped
    rcases startSession_cases s q with same | ⟨free, clear, done⟩
    · rw [same]; exact .requests s.requests inv.fits trivial
    · rw [done]; exact .started q free clear
  | exits i =>
    simp only [step, Option.bind_eq_bind, Option.bind_eq_some_iff] at stepped
    obtain ⟨sup, present, _, -, stepped⟩ := stepped
    obtain rfl := Option.some.inj stepped
    exact .exited i sup present
  | lookup method sessionId =>
    obtain rfl : lookup s method sessionId = t := by simpa [step] using stepped
    unfold lookup
    cases stored : s.sessions.get sessionId with
    | none => exact .requests s.requests inv.fits trivial
    | some i =>
      obtain ⟨sup, found, -⟩ := inv.named sessionId i stored
      refine .requests _ (fun request member => ?_) trivial
      rcases List.mem_append.mp member with old | new
      · exact inv.fits request old
      · obtain rfl := List.mem_singleton.mp new
        exact ⟨(List.getElem?_eq_some_iff.mp found).1, by simp, by simp⟩
  | finishes k =>
    simp only [step, finishes, Option.bind_eq_bind, Option.bind_eq_some_iff, Option.guard_eq_some'] at stepped
    obtain ⟨request, present, -, -, -, stops, stepped⟩ := stepped
    obtain rfl := Option.some.inj stepped
    obtain ⟨known, finished, stopped⟩ := inv.fits request (List.mem_of_getElem? present)
    refine .requests _ (fits_set inv ⟨known, by simp, fun method => ?_⟩) trivial
    simp [stops method]
  | raises k =>
    simp only [step, Option.bind_eq_bind, Option.bind_eq_some_iff] at stepped
    obtain ⟨request, -, -, -, stepped⟩ := stepped
    obtain rfl := Option.some.inj stepped
    exact .requests _ (fits_eraseIdx inv k) trivial
  | resumes k => exact resumes_change inv stepped
  | polls k =>
    simp only [step, Option.bind_eq_bind, Option.bind_eq_some_iff] at stepped
    obtain ⟨request, present, -, -, stepped⟩ := stepped
    obtain rfl := Option.some.inj stepped
    have known := (inv.fits request (List.mem_of_getElem? present)).known
    exact .requests _ (fits_set inv ⟨known, by simp, by simp⟩) trivial
  | hangsUp k =>
    simp only [step, Option.bind_eq_bind, Option.bind_eq_some_iff] at stepped
    obtain ⟨request, -, -, -, stepped⟩ := stepped
    obtain rfl := Option.some.inj stepped
    exact .requests _ (fits_eraseIdx inv k) trivial

private theorem change_invariant {s t : Server} {l : Label} (inv : Invariant s) (change : Change s l t) :
    Invariant t := by
  cases change with
  | requests requests fits unpopped => exact invariant_requests inv fits
  | exited i sup present => exact invariant_exited inv present
  | started q free clear => exact invariant_started inv q.sessionId q.interface
  | popped k request present ended =>
    exact invariant_requests (invariant_popped inv request.sessionId)
      (fits_eraseIdx (invariant_popped inv request.sessionId) k)

/-- A step keeps the registry and the interfaces right exactly if it pops its own. -/
private theorem change_holds {s t : Server} {l : Label} (inv : Invariant s) (holds : Holds s)
    (change : Change s l t) : Holds t ↔ PopsOwn s l := by
  obtain ⟨registered, exclusive⟩ := holds
  cases change with
  | requests requests fits unpopped => exact ⟨fun _ => unpopped, fun _ => ⟨registered, exclusive⟩⟩
  | exited i sup present =>
    exact ⟨fun _ => trivial, fun _ => ⟨registered_exited present registered, exclusive_exited present exclusive⟩⟩
  | started q free clear =>
    exact ⟨fun _ => trivial, fun _ => ⟨registered_started registered free,
      exclusive_started registered exclusive free clear⟩⟩
  | popped k request present ended =>
    have finished := (inv.fits request (List.mem_of_getElem? present)).finished ended
    have exact_pop := registered_popped inv registered request.sessionId
    constructor
    · rintro ⟨kept, -⟩ other same - i stored
      obtain rfl : request = other := by simpa [present] using same
      exact .inr (exact_pop.mp kept i stored)
    · intro own
      refine ⟨exact_pop.mpr fun i stored => ?_, exclusive⟩
      rcases own request present ended i stored with rfl | dead
      · exact finished
      · exact dead

private theorem invariant_init : Invariant Server.init :=
  ⟨by simp [Server.init], by simp [Server.init]⟩

private theorem holds_init : Holds Server.init :=
  ⟨by simp [Registered, Server.init], by simp [Exclusive, Server.init]⟩

/-- Along any run of any clients' requests, every live `dumpcap` stays registered
    under its session id and no two conflict, if and only if each handler that
    resumes to pop an id finds its own supervisor there, or one that has exited. -/
theorem registry_iff_pops_own (labels : List Label) :
    Always step (fun s => Registered s ∧ Exclusive s) Server.init labels ↔ Meets step PopsOwn Server.init labels :=
  always_iff_meets Invariant
    (fun _ _ _ inv _ stepped _ => change_invariant inv (step_change inv stepped))
    (fun _ _ _ inv holds stepped => change_holds inv holds (step_change inv stepped))
    invariant_init holds_init

/-- A start on `eth0` that the host lets succeed. -/
def startEth0 (sessionId : String) : StartRequest := ⟨sessionId, "eth0", true, none, true, .ok ()⟩

/-- A stop looks its supervisor up and waits for it; before it resumes, the id is
    started again. It then pops the new supervisor, and a third start finds `eth0` free. -/
def staleStop : List Label :=
  [.start (startEth0 "s1"), .lookup .stop "s1", .exits 0, .finishes 0, .start (startEth0 "s1"), .resumes 0,
    .start (startEth0 "s2")]

theorem stale_stop_unregisters_restart :
    ∃ s, run step Server.init staleStop = some s ∧ ¬ Registered s ∧ ¬ Exclusive s := by
  refine ⟨_, rfl, fun registered => ?_, fun exclusive => ?_⟩
  · have stored := registered 1 ⟨"s1", "eth0", true⟩ rfl rfl
    exact absurd stored (by decide)
  · have apart := exclusive 1 2 ⟨"s1", "eth0", true⟩ ⟨"s2", "eth0", true⟩ (by decide) rfl rfl rfl rfl
    exact absurd apart (by decide)

end Marlinspike.Capd.Registry
