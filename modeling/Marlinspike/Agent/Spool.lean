import Mathlib.Data.List.Sort
import Mathlib.Tactic.SplitIfs
import Marlinspike.Transition
import Marlinspike.PyDict
import Marlinspike.Capd.Supervisor

/-!
What the agent does with the closed rotations that its capd names to it. The agent is a
set of coroutines, cut where they are suspended; a coroutine that is cancelled is
thrown out at the place where it stands, and what it was holding there is lost unless
it spools it.

capd names each closed file once. In every run whose steps are `Secure` each file that
it has named is in the hands of a coroutine, in the spool, shipped and deleted, or
reclaimed (`never_forgets`); the steps that are not are the cancellations that throw
out a reply or a ship that has not begun, and a spool entry lost or overwritten.
-/
namespace Marlinspike.Agent.Spool
open Marlinspike.Transition
open Marlinspike.Capd.Supervisor (Path basename sorted)

/-- How a file went from the disk. -/
inductive Removal where
  /-- capd's ring reclaimed it. -/
  | ring
  /-- The agent deleted it. -/
  | agent
deriving DecidableEq, Repr

/-- capd's reply to `session_status` or `stop`. -/
structure Reply where
  filesClosed : List Path
  running : Bool
deriving DecidableEq, Repr

structure SpoolEntry where
  sessionId : String
  pcapPath : Path
deriving DecidableEq, Repr

/-- A coroutine, at the await where it is suspended. -/
inductive Task where
  /-- `_stats_reporter`: asleep, with `session_status` in the executor, with its reply
      there, and sending the stats event. -/
  | sleeping (sessionId : String)
  | polling (sessionId : String)
  | polled (sessionId : String) (reply : Reply)
  | reporting (sessionId : String) (running : Bool)
  /-- `_cmd_start`, with `start` in the executor. -/
  | starting (sessionId : String)
  /-- `_cmd_stop`: with `stop` in the executor, and with its reply there. -/
  | stopping (sessionId : String)
  | stopped (sessionId : String) (reply : Reply)
  /-- The thread of an executor call whose coroutine has been cancelled. -/
  | orphaned
  /-- `_ship_pcap`: not begun, and in `_send_pcap`'s loop. -/
  | queued (sessionId : String) (pcapPath : Path)
  | sending (sessionId : String) (pcapPath : Path) (cancelled : Bool)
  /-- `_flush_spool`: not begun, and in the `_send_pcap` of an entry before the others. -/
  | flushQueued
  | flushSending (sessionId : String) (pcapPath : Path) (cancelled : Bool) (entries : List (List Char))
  | ended
deriving DecidableEq, Repr

inductive Link where
  | down
  /-- Connected, before `auth` is answered. -/
  | opened
  | authenticated
deriving DecidableEq, Repr

structure AgentClient where
  /-- `_current_writer` is None when it is down. -/
  link : Link
  tasks : List Task
  activeSessions : PyDict String Nat
  /-- The files of the spool directory. -/
  spool : PyDict (List Char) SpoolEntry
  removed : Path → Option Removal
  /-- Every path that capd has named in a `files_closed` list. -/
  returned : List Path
  /-- The files sent up to their `pcap_complete`. -/
  handedOver : List Path

def AgentClient.init : AgentClient := ⟨.down, [], PyDict.empty, PyDict.empty, fun _ => none, [], []⟩

/-! ### Cancellation -/

/-- `task.cancel()`. A ship in its loop catches the exception; the others end. -/
def Task.cancel : Task → Task
  | .polling _ | .stopping _ | .orphaned => .orphaned
  | .sending sessionId pcapPath _ => .sending sessionId pcapPath true
  | .flushSending sessionId pcapPath _ entries => .flushSending sessionId pcapPath true entries
  | .sleeping _ | .polled .. | .reporting .. | .starting _ | .stopped .. | .queued .. | .flushQueued | .ended => .ended

/-- The tasks of `_background_tasks`: all but the reporters. -/
def Task.background : Task → Bool
  | .sleeping _ | .polling _ | .polled .. | .reporting .. => false
  | _ => true

/-- Whether the `finally` of `_run_once` cancels the task. -/
def cancels (s : AgentClient) (k : Nat) (task : Task) : Bool :=
  task.background || (s.activeSessions.items.map Prod.snd).contains k

/-- The `finally` of `_run_once`. -/
def disconnects (s : AgentClient) : AgentClient :=
  { s with
    link := .down
    tasks := s.tasks.mapIdx fun k task => if cancels s k task then task.cancel else task
    activeSessions := PyDict.empty }

/-! ### Shipping and spooling -/

def spoolName (pcapPath : Path) : List Char := basename pcapPath ++ ".spool.json".toList

def AgentClient.setTask (s : AgentClient) (k : Nat) (task : Task) : AgentClient := { s with tasks := s.tasks.set k task }

/-- `_spawn(_ship_pcap(…))` for each closed path. -/
def shipAll (s : AgentClient) (sessionId : String) (filesClosed : List Path) : AgentClient :=
  { s with tasks := s.tasks ++ filesClosed.map (.queued sessionId) }

/-- `_spool_pcap_ref`; the write may fail. -/
def spoolPcapRef (s : AgentClient) (sessionId : String) (pcapPath : Path) (written : Bool) : AgentClient :=
  if written then { s with spool := s.spool.set (spoolName pcapPath) ⟨sessionId, pcapPath⟩ } else s

/-- The end of a `_ship_pcap` that has sent its file: `os.remove`, which may fail. -/
def removeShipped (s : AgentClient) (pcapPath : Path) (deleted : Bool) : AgentClient :=
  { s with
    handedOver := s.handedOver ++ [pcapPath]
    removed := fun p =>
      if p = pcapPath ∧ deleted = true ∧ s.removed p = none then some .agent else s.removed p }

/-- The first step of a `_ship_pcap`. Without a file there is nothing left to ship. -/
def shipPcap (s : AgentClient) (k : Nat) (sessionId : String) (pcapPath : Path) (written : Bool) : AgentClient :=
  if s.link = .down then (spoolPcapRef s sessionId pcapPath written).setTask k .ended
  else if s.removed pcapPath ≠ none then s.setTask k .ended
  else s.setTask k (.sending sessionId pcapPath false)

/-- What the file system does with one entry of the spool. -/
structure EntryAccess where
  readable : Bool
  removable : Bool
  /-- `_spool_pcap_ref` can write it again. -/
  writable : Bool

/-- `os.remove(spool_path)`. -/
def removeEntry (spool : PyDict (List Char) SpoolEntry) (entry : List Char) (removable : Bool) :
    PyDict (List Char) SpoolEntry :=
  if removable then spool.pop entry else spool

/-- The loop of `_flush_spool`, up to the first ship that suspends it. -/
def flushSpool (s : AgentClient) (k : Nat) (access : List Char → EntryAccess) : List (List Char) → AgentClient
  | [] => s
  | entry :: entries =>
    match s.spool.get entry with
    | none => flushSpool s k access entries
    | some data =>
      if !(access entry).readable then flushSpool s k access entries
      else
        let taken := { s with spool := removeEntry s.spool entry (access entry).removable }
        if s.removed data.pcapPath ≠ none then flushSpool taken k access entries
        else if s.link = .down then
          flushSpool (spoolPcapRef taken data.sessionId data.pcapPath (access entry).writable) k access entries
        else taken.setTask k (.flushSending data.sessionId data.pcapPath false entries)

/-! ### Steps -/

inductive Label where
  | connects
  /-- `auth` is answered, and `_flush_spool` spawned. -/
  | authenticates
  | disconnects
  /-- A pushed command: its coroutine up to its call of capd. -/
  | cmdStart (sessionId : String)
  | cmdStop (sessionId : String)
  /-- A `start` has returned, and its coroutine creates the reporter. -/
  | starts (k : Nat)
  /-- A reporter's sleep is over. -/
  | polls (k : Nat)
  /-- capd replies, to the thread of the call. -/
  | returns (k : Nat) (reply : Reply)
  /-- The call raises `CapdError` or `CapdUnavailable`. -/
  | fails (k : Nat)
  /-- The coroutine resumes with the reply. -/
  | resumes (k : Nat)
  /-- The stats event is sent, or the link fails. -/
  | reports (k : Nat) (sent : Bool)
  /-- A ship begins, has sent its file, or is thrown out of its loop. -/
  | ships (k : Nat) (written : Bool)
  | finishes (k : Nat) (deleted : Bool)
  | spools (k : Nat) (written : Bool)
  /-- The same for the flush. -/
  | flushes (k : Nat) (access : List Char → EntryAccess)
  | flushFinishes (k : Nat) (deleted : Bool) (access : List Char → EntryAccess)
  | flushSpools (k : Nat) (written : Bool) (access : List Char → EntryAccess)
  /-- capd's ring reclaims a file. -/
  | reclaims (pcapPath : Path)

/-- `_cmd_start`, after `start` has returned. -/
def starts (s : AgentClient) (k : Nat) : Option AgentClient :=
  match s.tasks[k]? with
  | some (.starting sessionId) =>
    some
      { s with
        tasks := s.tasks.set k .ended ++ [.sleeping sessionId]
        activeSessions := s.activeSessions.set sessionId s.tasks.length }
  | _ => none

def polls (s : AgentClient) (k : Nat) : Option AgentClient :=
  match s.tasks[k]? with
  | some (.sleeping sessionId) => some (s.setTask k (.polling sessionId))
  | _ => none

def returns (s : AgentClient) (k : Nat) (reply : Reply) : Option AgentClient :=
  let named := { s with returned := s.returned ++ reply.filesClosed }
  match s.tasks[k]? with
  | some (.polling sessionId) => some (named.setTask k (.polled sessionId reply))
  | some (.stopping sessionId) => some (named.setTask k (.stopped sessionId reply))
  | some .orphaned => some (named.setTask k .ended)
  | _ => none

/-- A call of capd runs in the executor. -/
def Task.calling : Task → Bool
  | .polling _ | .stopping _ | .starting _ | .orphaned => true
  | _ => false

def fails (s : AgentClient) (k : Nat) : Option AgentClient :=
  if (s.tasks[k]?).any Task.calling then some (s.setTask k .ended) else none

/-- `self._active_sessions.pop(session_id, None)`, and the cancellation of what was there. -/
def popReporter (s : AgentClient) (sessionId : String) : AgentClient :=
  match s.activeSessions.get sessionId with
  | none => s
  | some reporter =>
    { s with activeSessions := s.activeSessions.pop sessionId, tasks := s.tasks.modify reporter Task.cancel }

def resumes (s : AgentClient) (k : Nat) : Option AgentClient :=
  match s.tasks[k]? with
  | some (.polled sessionId reply) =>
    if s.link = .down then some (s.setTask k .ended)
    else some (shipAll (s.setTask k (.reporting sessionId reply.running)) sessionId reply.filesClosed)
  | some (.stopped sessionId reply) =>
    some (shipAll ((popReporter s sessionId).setTask k .ended) sessionId reply.filesClosed)
  | _ => none

def reports (s : AgentClient) (k : Nat) (sent : Bool) : Option AgentClient :=
  match s.tasks[k]? with
  | some (.reporting sessionId running) =>
    some (s.setTask k (if sent && running then .sleeping sessionId else .ended))
  | _ => none

def finishes (s : AgentClient) (k : Nat) (deleted : Bool) : Option AgentClient :=
  match s.tasks[k]? with
  | some (.sending _ pcapPath false) => some ((removeShipped s pcapPath deleted).setTask k .ended)
  | _ => none

def flushFinishes (s : AgentClient) (k : Nat) (deleted : Bool) (access : List Char → EntryAccess) : Option AgentClient :=
  match s.tasks[k]? with
  | some (.flushSending _ pcapPath false entries) =>
    some (flushSpool ((removeShipped s pcapPath deleted).setTask k .ended) k access entries)
  | _ => none

def step (s : AgentClient) : Label → Option AgentClient
  | .connects => if s.link = .down then some { s with link := .opened, activeSessions := PyDict.empty } else none
  | .authenticates =>
    if s.link = .opened then some { s with link := .authenticated, tasks := s.tasks ++ [.flushQueued] } else none
  | .disconnects => if s.link = .down then none else some (disconnects s)
  | .cmdStart sessionId =>
    if s.link = .authenticated then some { s with tasks := s.tasks ++ [.starting sessionId] } else none
  | .cmdStop sessionId =>
    if s.link = .authenticated then some { s with tasks := s.tasks ++ [.stopping sessionId] } else none
  | .starts k => starts s k
  | .polls k => polls s k
  | .returns k reply => returns s k reply
  | .fails k => fails s k
  | .resumes k => resumes s k
  | .reports k sent => reports s k sent
  | .ships k written =>
    match s.tasks[k]? with
    | some (.queued sessionId pcapPath) => some (shipPcap s k sessionId pcapPath written)
    | _ => none
  | .finishes k deleted => finishes s k deleted
  | .spools k written =>
    match s.tasks[k]? with
    | some (.sending sessionId pcapPath _) => some ((spoolPcapRef s sessionId pcapPath written).setTask k .ended)
    | _ => none
  | .flushes k access =>
    match s.tasks[k]? with
    | some .flushQueued => some (flushSpool (s.setTask k .ended) k access (sorted (s.spool.items.map Prod.fst)))
    | _ => none
  | .flushFinishes k deleted access => flushFinishes s k deleted access
  | .flushSpools k written access =>
    match s.tasks[k]? with
    | some (.flushSending sessionId pcapPath _ entries) =>
      some (flushSpool ((spoolPcapRef s sessionId pcapPath written).setTask k .ended) k access entries)
    | _ => none
  | .reclaims pcapPath =>
    if s.removed pcapPath = none then
      some { s with removed := fun p => if p = pcapPath then some .ring else s.removed p }
    else none

/-! ### What the agent owes to a file that capd has named -/

/-- The files in the hands of a coroutine: in a reply that waits for it, or to be shipped. -/
def Task.holds : Task → List Path
  | .polled _ reply | .stopped _ reply => reply.filesClosed
  | .queued _ pcapPath | .sending _ pcapPath _ | .flushSending _ pcapPath _ _ => [pcapPath]
  | _ => []

inductive Kept (s : AgentClient) (p : Path) : Prop where
  /-- Queued or being sent. -/
  | held (task : Task) (live : task ∈ s.tasks) (holds : p ∈ task.holds)
  | spooled (name : List Char) (data : SpoolEntry) (entry : s.spool.get name = some data) (path : data.pcapPath = p)
  | shipped (sent : p ∈ s.handedOver) (deleted : s.removed p = some .agent)
  | reclaimed (ring : s.removed p = some .ring)

def NeverForgets (s : AgentClient) : Prop := ∀ p ∈ s.returned, Kept s p

/-! ### The steps that forget nothing -/

/-- The files that a cancellation throws out. -/
def Task.drops : Task → List Path
  | .polled _ reply | .stopped _ reply => reply.filesClosed
  | .queued _ pcapPath => [pcapPath]
  | _ => []

/-- None of the files is on disk any more. -/
def Gone (s : AgentClient) (files : List Path) : Prop := ∀ p ∈ files, s.removed p ≠ none

/-- The reference is written, and what it overwrites is for the same file or a file that is gone. -/
def Spoolable (s : AgentClient) (pcapPath : Path) (written : Bool) : Prop :=
  (written = true ∨ s.removed pcapPath ≠ none) ∧
    ∀ data, s.spool.get (spoolName pcapPath) = some data → data.pcapPath = pcapPath ∨ s.removed data.pcapPath ≠ none

/-- A flush without a link writes back every reference that it takes out. -/
def Rewritable (s : AgentClient) (access : List Char → EntryAccess) (entries : List (List Char)) : Prop :=
  s.link = .down → ∀ entry ∈ entries, ∀ data, s.spool.get entry = some data → (access entry).readable = true →
    (access entry).removable = true → (access entry).writable = true ∨ s.removed data.pcapPath ≠ none

def Secure (s : AgentClient) : Label → Prop
  | .disconnects => ∀ k task, s.tasks[k]? = some task → cancels s k task = true → Gone s task.drops
  | .returns k reply => s.tasks[k]? = some .orphaned → Gone s reply.filesClosed
  | .resumes k =>
    (∀ sessionId reply, s.tasks[k]? = some (.polled sessionId reply) → s.link = .down → Gone s reply.filesClosed) ∧
      ∀ sessionId reply reporter task, s.tasks[k]? = some (.stopped sessionId reply) →
        s.activeSessions.get sessionId = some reporter → s.tasks[reporter]? = some task → Gone s task.drops
  | .ships k written => ∀ sessionId pcapPath, s.tasks[k]? = some (.queued sessionId pcapPath) → s.link = .down →
      Spoolable s pcapPath written
  | .finishes k deleted => ∀ sessionId pcapPath, s.tasks[k]? = some (.sending sessionId pcapPath false) →
      deleted = true ∨ s.removed pcapPath ≠ none
  | .spools k written => ∀ sessionId pcapPath cancelled,
      s.tasks[k]? = some (.sending sessionId pcapPath cancelled) → Spoolable s pcapPath written
  | .flushes _ access => Rewritable s access (s.spool.items.map Prod.fst)
  | .flushFinishes k deleted access => ∀ sessionId pcapPath entries,
      s.tasks[k]? = some (.flushSending sessionId pcapPath false entries) →
        (deleted = true ∨ s.removed pcapPath ≠ none) ∧ Rewritable s access entries
  | .flushSpools k written access => ∀ sessionId pcapPath cancelled entries,
      s.tasks[k]? = some (.flushSending sessionId pcapPath cancelled entries) →
        Spoolable s pcapPath written ∧ Rewritable s access entries
  | _ => True

private structure Invariant (s : AgentClient) : Prop where
  named : ∀ name data, s.spool.get name = some data → name = spoolName data.pcapPath
  /-- A flush in its loop has the other entries still before it. -/
  apart : ∀ sessionId pcapPath cancelled entries, .flushSending sessionId pcapPath cancelled entries ∈ s.tasks →
    spoolName pcapPath ∉ entries ∧ entries.Nodup
  deleted : ∀ p, s.removed p = some .agent → p ∈ s.handedOver
  kept : NeverForgets s

/-! ### Keeping what was kept -/

private theorem kept_gone {s : AgentClient} (deleted : ∀ p, s.removed p = some .agent → p ∈ s.handedOver) {p : Path}
    (gone : s.removed p ≠ none) : Kept s p := by
  cases removed : s.removed p with
  | none => exact absurd removed gone
  | some how =>
    cases how with
    | ring => exact .reclaimed removed
    | agent => exact .shipped (deleted p removed) removed

private theorem kept_mono {s t : AgentClient} (deleted : ∀ p, t.removed p = some .agent → p ∈ t.handedOver)
    (removed : ∀ p, s.removed p ≠ none → t.removed p ≠ none)
    (tasks : ∀ task ∈ s.tasks, ∀ p ∈ task.holds, Kept t p)
    (spool : ∀ name data, s.spool.get name = some data → Kept t data.pcapPath) {p : Path} (kept : Kept s p) :
    Kept t p := by
  cases kept with
  | held task live holds => exact tasks task live p holds
  | spooled name data entry path => exact path ▸ spool name data entry
  | shipped sent deleted' => exact kept_gone deleted (removed p (by simp [deleted']))
  | reclaimed ring => exact kept_gone deleted (removed p (by simp [ring]))

/-- Of the coroutines only the one that has moved can have let go of something. -/
private theorem held_set {s t : AgentClient} {k : Nat} {old new : Task} (current : s.tasks[k]? = some old)
    (others : ∀ task ∈ s.tasks.set k new, task ∈ t.tasks) (released : ∀ p ∈ old.holds, Kept t p) :
    ∀ task ∈ s.tasks, ∀ p ∈ task.holds, Kept t p := by
  intro task live p holds
  obtain ⟨i, at_i⟩ := List.getElem?_of_mem live
  by_cases same : k = i
  · subst same
    obtain rfl := Option.some.inj (current.symm.trans at_i)
    exact released p holds
  · refine .held task (others task (List.mem_of_getElem? (i := i) ?_)) holds
    rw [List.getElem?_set_ne same]
    exact at_i

/-- A step that leaves the spool and the files alone. -/
private theorem invariant_moved {s t : AgentClient} (inv : Invariant s) (spool : t.spool = s.spool)
    (removed : t.removed = s.removed) (handedOver : t.handedOver = s.handedOver)
    (flushes : ∀ sessionId pcapPath cancelled entries, .flushSending sessionId pcapPath cancelled entries ∈ t.tasks →
      ∃ before, .flushSending sessionId pcapPath before entries ∈ s.tasks)
    (returned : ∀ p ∈ t.returned, p ∈ s.returned ∨ Kept t p)
    (tasks : ∀ task ∈ s.tasks, ∀ p ∈ task.holds, Kept t p) : Invariant t := by
  have deleted : ∀ p, t.removed p = some .agent → p ∈ t.handedOver := by
    rw [removed, handedOver]
    exact inv.deleted
  refine ⟨by rw [spool]; exact inv.named, fun sessionId pcapPath cancelled entries member => ?_, deleted, fun p named => ?_⟩
  · obtain ⟨before, present⟩ := flushes sessionId pcapPath cancelled entries member
    exact inv.apart sessionId pcapPath before entries present
  · rcases returned p named with old | kept
    · refine kept_mono deleted (by simp [removed]) tasks (fun name data entry => ?_) (inv.kept p old)
      exact .spooled name data (spool ▸ entry) rfl
    · exact kept

private def Task.inFlush : Task → Bool
  | .flushSending .. => true
  | _ => false

private theorem flushes_set {s : AgentClient} {k : Nat} {new : Task} {more : List Task}
    (plain : ∀ task ∈ new :: more, task.inFlush = false) :
    ∀ sessionId pcapPath cancelled entries,
      .flushSending sessionId pcapPath cancelled entries ∈ s.tasks.set k new ++ more →
        ∃ before, .flushSending sessionId pcapPath before entries ∈ s.tasks := by
  intro sessionId pcapPath cancelled entries member
  rcases List.mem_append.mp member with old | added
  · rcases List.mem_or_eq_of_mem_set old with kept | rfl
    · exact ⟨cancelled, kept⟩
    · cases plain _ List.mem_cons_self
  · cases plain _ (List.mem_cons_of_mem _ added)

/-- One coroutine moves on, and others are spawned. -/
private theorem invariant_set {s t : AgentClient} (inv : Invariant s) {k : Nat} {old new : Task} {more : List Task}
    (current : s.tasks[k]? = some old) (moved : t.tasks = s.tasks.set k new ++ more) (spool : t.spool = s.spool)
    (removed : t.removed = s.removed) (handedOver : t.handedOver = s.handedOver)
    (plain : ∀ task ∈ new :: more, task.inFlush = false)
    (returned : ∀ p ∈ t.returned, p ∈ s.returned ∨ Kept t p) (released : ∀ p ∈ old.holds, Kept t p) :
    Invariant t := by
  refine invariant_moved inv spool removed handedOver (moved ▸ flushes_set plain) returned ?_
  exact held_set current (fun task member => moved ▸ List.mem_append_left more member) released

private theorem invariant_spawned {s t : AgentClient} (inv : Invariant s) {more : List Task}
    (spawned : t.tasks = s.tasks ++ more) (spool : t.spool = s.spool) (removed : t.removed = s.removed)
    (handedOver : t.handedOver = s.handedOver)
    (plain : ∀ task ∈ more, task.inFlush = false)
    (returned : t.returned = s.returned) : Invariant t := by
  refine invariant_moved inv spool removed handedOver (fun sessionId pcapPath cancelled entries member => ?_)
    (fun p named => .inl (returned ▸ named))
    fun task live p holds => .held task (spawned ▸ List.mem_append_left more live) holds
  rw [spawned, List.mem_append] at member
  rcases member with old | added
  · exact ⟨cancelled, old⟩
  · cases plain _ added

/-- A file whose ship ends goes to the spool. -/
private theorem invariant_spooled {s : AgentClient} (inv : Invariant s) {k : Nat} {old : Task} {sessionId : String}
    {pcapPath : Path} {written : Bool} (current : s.tasks[k]? = some old) (holds : old.holds = [pcapPath])
    (safe : Spoolable s pcapPath written) :
    Invariant ((spoolPcapRef s sessionId pcapPath written).setTask k .ended) := by
  obtain ⟨stored, overwritten⟩ := safe
  cases written with
  | false =>
    refine invariant_set inv current (List.append_nil _).symm rfl rfl rfl (by simp [Task.inFlush])
      (fun p named => .inl named) fun p held => ?_
    obtain rfl := List.mem_singleton.mp (holds ▸ held)
    exact kept_gone (s := (spoolPcapRef s sessionId p false).setTask k .ended) inv.deleted (stored.resolve_left (by simp))
  | true =>
    generalize done : (spoolPcapRef s sessionId pcapPath true).setTask k .ended = t
    have tasks : t.tasks = s.tasks.set k .ended := by rw [← done]; rfl
    have removed : t.removed = s.removed := by rw [← done]; rfl
    have spool (name) : t.spool.get name = if spoolName pcapPath = name then some ⟨sessionId, pcapPath⟩ else s.spool.get name := by
      rw [← done]
      exact PyDict.get_set ..
    have deleted : ∀ p, t.removed p = some .agent → p ∈ t.handedOver := by rw [← done]; exact inv.deleted
    have there : Kept t pcapPath := .spooled (spoolName pcapPath) ⟨sessionId, pcapPath⟩ (by rw [spool, if_pos rfl]) rfl
    refine ⟨fun name data entry => ?_, fun other path cancelled entries member => ?_, deleted, fun p named => ?_⟩
    · rw [spool] at entry
      split_ifs at entry with same
      · obtain rfl := Option.some.inj entry
        exact same.symm
      · exact inv.named name data entry
    · rw [tasks] at member
      exact inv.apart other path cancelled entries ((List.mem_or_eq_of_mem_set member).resolve_right (by simp))
    · have before : p ∈ s.returned := by rw [← done] at named; exact named
      refine kept_mono deleted (by simp [removed]) ?_ (fun name data entry => ?_) (inv.kept p before)
      · refine held_set current (fun task member => tasks ▸ member) fun p held => ?_
        obtain rfl := List.mem_singleton.mp (holds ▸ held)
        exact there
      · by_cases same : spoolName pcapPath = name
        · subst same
          rcases overwritten data entry with own | gone
          · exact own ▸ there
          · exact kept_gone deleted (removed ▸ gone)
        · exact .spooled name data (by rw [spool, if_neg same]; exact entry) rfl

private theorem removed_removeShipped {s : AgentClient} {pcapPath : Path} {deleted : Bool} {p : Path}
    (gone : s.removed p ≠ none) : (removeShipped s pcapPath deleted).removed p ≠ none := by
  simp only [removeShipped]
  split_ifs
  · simp
  · exact gone

/-- A file that has been sent is deleted. -/
private theorem invariant_shipped {s : AgentClient} (inv : Invariant s) {k : Nat} {old : Task} {pcapPath : Path}
    {deleted : Bool} (current : s.tasks[k]? = some old) (holds : old.holds = [pcapPath])
    (safe : deleted = true ∨ s.removed pcapPath ≠ none) :
    Invariant ((removeShipped s pcapPath deleted).setTask k .ended) := by
  have gone : (removeShipped s pcapPath deleted).removed pcapPath ≠ none := by
    by_cases there : s.removed pcapPath = none
    · simp [removeShipped, there, safe.resolve_right (not_not_intro there)]
    · exact removed_removeShipped there
  have shipped : ∀ p, (removeShipped s pcapPath deleted).removed p = some .agent → p ∈ s.handedOver ++ [pcapPath] := by
    intro p removed
    simp only [removeShipped] at removed
    split_ifs at removed with now
    · exact List.mem_append_right _ (List.mem_singleton.mpr now.1)
    · exact List.mem_append_left _ (inv.deleted p removed)
  have stays (p) : s.removed p ≠ none → (removeShipped s pcapPath deleted).removed p ≠ none := removed_removeShipped
  generalize done : (removeShipped s pcapPath deleted).setTask k .ended = t
  have removed : t.removed = (removeShipped s pcapPath deleted).removed := by rw [← done]; rfl
  have tasks : t.tasks = s.tasks.set k .ended := by rw [← done]; rfl
  have now : ∀ p, t.removed p = some .agent → p ∈ t.handedOver := by rw [← done]; exact shipped
  refine ⟨by rw [← done]; exact inv.named, fun other path cancelled entries member => ?_, now, fun p named => ?_⟩
  · rw [tasks] at member
    exact inv.apart other path cancelled entries ((List.mem_or_eq_of_mem_set member).resolve_right (by simp))
  · have before : p ∈ s.returned := by rw [← done] at named; exact named
    refine kept_mono now (by rw [removed]; exact stays) ?_ (fun name data entry => ?_) (inv.kept p before)
    · refine held_set current (fun task member => tasks ▸ member) fun p held => kept_gone now ?_
      obtain rfl := List.mem_singleton.mp (holds ▸ held)
      exact removed ▸ gone
    · exact .spooled name data (by rw [← done]; exact entry) rfl

/-! ### The loop of the flush -/

/-- One entry is taken out of the spool, left there, or written again for the same file. -/
private theorem invariant_entry {s t : AgentClient} (inv : Invariant s) {entry : List Char} {data : SpoolEntry}
    (found : s.spool.get entry = some data) (removed : t.removed = s.removed) (handedOver : t.handedOver = s.handedOver)
    (returned : t.returned = s.returned)
    (apart : ∀ sessionId pcapPath cancelled entries, .flushSending sessionId pcapPath cancelled entries ∈ t.tasks →
      spoolName pcapPath ∉ entries ∧ entries.Nodup)
    (held : ∀ task ∈ s.tasks, ∀ p ∈ task.holds, Kept t p)
    (others : ∀ name, entry ≠ name → t.spool.get name = s.spool.get name)
    (own : ∀ now, t.spool.get entry = some now → now.pcapPath = data.pcapPath)
    (safe : s.removed data.pcapPath ≠ none ∨ (t.spool.get entry).isSome = true ∨
      ∃ task ∈ t.tasks, data.pcapPath ∈ task.holds) : Invariant t := by
  have deleted : ∀ p, t.removed p = some .agent → p ∈ t.handedOver := by
    rw [removed, handedOver]
    exact inv.deleted
  have kept : Kept t data.pcapPath := by
    rcases safe with gone | present | ⟨task, live, holds⟩
    · exact kept_gone deleted (removed ▸ gone)
    · obtain ⟨now, present⟩ := Option.isSome_iff_exists.mp present
      exact .spooled entry now present (own now present)
    · exact .held task live holds
  refine ⟨fun name now present => ?_, apart, deleted, fun p named => ?_⟩
  · by_cases same : entry = name
    · subst same
      rw [own now present]
      exact inv.named entry data found
    · exact inv.named name now (others name same ▸ present)
  · refine kept_mono deleted (by simp [removed]) held (fun name before present => ?_) (inv.kept p (returned ▸ named))
    by_cases same : entry = name
    · subst same
      obtain rfl := Option.some.inj (found.symm.trans present)
      exact kept
    · exact .spooled name before (others name same ▸ present) rfl

private theorem get_removeEntry (spool : PyDict (List Char) SpoolEntry) (entry : List Char) (removable : Bool)
    (name : List Char) : (removeEntry spool entry removable).get name =
      if entry = name ∧ removable = true then none else spool.get name := by
  cases removable with
  | false => simp [removeEntry]
  | true => simp [removeEntry, PyDict.get_pop]

private theorem invariant_flush {k : Nat} {access : List Char → EntryAccess} {entries : List (List Char)}
    {s : AgentClient} (inv : Invariant s) (distinct : entries.Nodup) (safe : Rewritable s access entries)
    (current : s.tasks[k]? = some .ended) : Invariant (flushSpool s k access entries) := by
  induction entries generalizing s with
  | nil => exact inv
  | cons entry entries ih =>
    obtain ⟨fresh, distinct⟩ := List.nodup_cons.mp distinct
    have tail : Rewritable s access entries := fun down other member =>
      safe down other (List.mem_cons_of_mem entry member)
    rw [flushSpool]
    cases found : s.spool.get entry with
    | none => exact ih inv distinct tail current
    | some data =>
      have stays {t : AgentClient} (link : t.link = s.link) (removed : t.removed = s.removed)
          (others : ∀ name, entry ≠ name → t.spool.get name = s.spool.get name) : Rewritable t access entries := by
        intro down other member before present
        rw [others other (fun same => fresh (same ▸ member))] at present
        rw [removed]
        exact tail (link ▸ down) other member before present
      have named := inv.named entry data found
      have others : ∀ name, entry ≠ name →
          (removeEntry s.spool entry (access entry).removable).get name = s.spool.get name := by
        intro name other
        rw [get_removeEntry, if_neg fun same => other same.1]
      have own : ∀ now, (removeEntry s.spool entry (access entry).removable).get entry = some now →
          now.pcapPath = data.pcapPath := by
        intro now present
        rw [get_removeEntry] at present
        split_ifs at present
        exact congrArg _ (Option.some.inj (present.symm.trans found))
      simp only
      split_ifs with unreadable gone down
      · exact ih inv distinct tail current
      · exact ih (invariant_entry inv found rfl rfl rfl inv.apart (fun task live p holds => .held task live holds)
          others own (.inl gone)) distinct (stays rfl rfl others) current
      · -- Without a link the reference is written back under the name that it had.
        cases writable : (access entry).writable with
        | false =>
          cases removable : (access entry).removable with
          | false =>
            simp only [removeEntry, spoolPcapRef, Bool.false_eq_true, if_false]
            exact ih inv distinct tail current
          | true =>
            have rewritten := safe down entry List.mem_cons_self data found (by simpa using unreadable) removable
            exact absurd (rewritten.resolve_left (by simp [writable])) gone
        | true =>
          have rewritten (name) : ((removeEntry s.spool entry (access entry).removable).set (spoolName data.pcapPath)
              ⟨data.sessionId, data.pcapPath⟩).get name =
                if entry = name then some ⟨data.sessionId, data.pcapPath⟩ else s.spool.get name := by
            rw [PyDict.get_set, ← named]
            split_ifs with same
            · rfl
            · exact others name same
          refine ih (invariant_entry inv found rfl rfl rfl inv.apart (fun task live p holds => .held task live holds)
            (fun name other => ?_) (fun now present => ?_) (.inr (.inl ?_))) distinct
            (stays rfl rfl fun name other => ?_) current
          · exact (rewritten name).trans (if_neg other)
          · obtain rfl := Option.some.inj (present.symm.trans ((rewritten entry).trans (if_pos rfl)))
            rfl
          · exact Option.isSome_iff_exists.mpr ⟨_, (rewritten entry).trans (if_pos rfl)⟩
          · exact (rewritten name).trans (if_neg other)
      · obtain ⟨bound, -⟩ := List.getElem?_eq_some_iff.mp current
        refine invariant_entry inv found rfl rfl rfl (fun sessionId pcapPath cancelled others member => ?_)
          (held_set current (fun _ member => member) (by simp [Task.holds])) others own
          (.inr (.inr ⟨_, List.mem_set bound _, List.mem_singleton.mpr rfl⟩))
        rcases List.mem_or_eq_of_mem_set member with old | new
        · exact inv.apart sessionId pcapPath cancelled others old
        · obtain ⟨rfl, rfl, rfl, rfl⟩ := Task.flushSending.inj new
          exact ⟨named ▸ fresh, distinct⟩

/-! ### Every step -/

private theorem holds_cancel {task : Task} {p : Path} (holds : p ∈ task.holds) :
    p ∈ task.drops ∨ p ∈ task.cancel.holds := by
  cases task <;> simp_all [Task.holds, Task.drops, Task.cancel]

private theorem flushSending_cancel {task : Task} {sessionId : String} {pcapPath : Path} {cancelled : Bool}
    {entries : List (List Char)} (after : task.cancel = .flushSending sessionId pcapPath cancelled entries) :
    ∃ before, task = .flushSending sessionId pcapPath before entries := by
  cases task <;> simp_all [Task.cancel]

private theorem invariant_disconnects {s : AgentClient} (inv : Invariant s) (secure : Secure s .disconnects) :
    Invariant (disconnects s) := by
  refine invariant_moved inv rfl rfl rfl (fun sessionId pcapPath cancelled entries member => ?_) (fun p named => .inl named)
    fun task live p holds => ?_
  · obtain ⟨k, bound, same⟩ := List.mem_mapIdx.mp member
    split_ifs at same with thrown
    · obtain ⟨before, was⟩ := flushSending_cancel same
      exact ⟨before, was ▸ List.getElem_mem bound⟩
    · exact ⟨cancelled, same ▸ List.getElem_mem bound⟩
  · obtain ⟨k, at_k⟩ := List.getElem?_of_mem live
    obtain ⟨bound, same⟩ := List.getElem?_eq_some_iff.mp at_k
    by_cases thrown : cancels s k task = true
    · rcases holds_cancel holds with dropped | still
      · exact kept_gone (s := disconnects s) inv.deleted (secure k task at_k thrown p dropped)
      · refine .held task.cancel (List.mem_mapIdx.mpr ⟨k, bound, ?_⟩) still
        rw [same, if_pos thrown]
    · refine .held task (List.mem_mapIdx.mpr ⟨k, bound, ?_⟩) holds
      rw [same, if_neg thrown]

private theorem invariant_returns {s t : AgentClient} (inv : Invariant s) {k : Nat} {reply : Reply}
    (secure : Secure s (.returns k reply)) (stepped : returns s k reply = some t) : Invariant t := by
  unfold returns at stepped
  split at stepped
  · next sessionId current =>
    obtain rfl := Option.some.inj stepped
    obtain ⟨bound, -⟩ := List.getElem?_eq_some_iff.mp current
    refine invariant_set inv current (List.append_nil _).symm rfl rfl rfl (by simp [Task.inFlush])
      (fun p named => ?_) (by simp [Task.holds])
    exact (List.mem_append.mp named).imp_right fun new => .held (.polled sessionId reply) (List.mem_set bound _) new
  · next sessionId current =>
    obtain rfl := Option.some.inj stepped
    obtain ⟨bound, -⟩ := List.getElem?_eq_some_iff.mp current
    refine invariant_set inv current (List.append_nil _).symm rfl rfl rfl (by simp [Task.inFlush])
      (fun p named => ?_) (by simp [Task.holds])
    exact (List.mem_append.mp named).imp_right fun new => .held (.stopped sessionId reply) (List.mem_set bound _) new
  · next current =>
    obtain rfl := Option.some.inj stepped
    refine invariant_set inv current (List.append_nil _).symm rfl rfl rfl (by simp [Task.inFlush])
      (fun p named => ?_) (by simp [Task.holds])
    refine (List.mem_append.mp named).imp_right fun new => ?_
    exact kept_gone (s := { s with returned := s.returned ++ reply.filesClosed }.setTask k .ended) inv.deleted
      (secure current p new)
  · cases stepped

private theorem inFlush_queued {sessionId : String} {filesClosed : List Path} :
    ∀ task ∈ filesClosed.map (Task.queued sessionId), task.inFlush = false := by
  simp [Task.inFlush]

/-- The stop command throws the reporter of its session out. -/
private theorem invariant_stopped {s : AgentClient} (inv : Invariant s) {k : Nat} {sessionId : String} {reply : Reply}
    (current : s.tasks[k]? = some (.stopped sessionId reply))
    (secure : ∀ reporter task, s.activeSessions.get sessionId = some reporter → s.tasks[reporter]? = some task →
      Gone s task.drops) :
    Invariant (shipAll ((popReporter s sessionId).setTask k .ended) sessionId reply.filesClosed) := by
  have queued {files : List Path} {tasks : List Task} (p) (member : p ∈ files) :
      .queued sessionId p ∈ tasks ++ files.map (Task.queued sessionId) :=
    List.mem_append_right _ (List.mem_map_of_mem member)
  unfold popReporter
  cases popped : s.activeSessions.get sessionId with
  | none =>
    exact invariant_set inv current rfl rfl rfl rfl (by simp [Task.inFlush]) (fun p named => .inl named)
      fun p holds => .held (.queued sessionId p) (queued p holds) (List.mem_singleton.mpr rfl)
  | some reporter =>
    simp only
    generalize done : shipAll (AgentClient.setTask _ k .ended) sessionId reply.filesClosed = t
    have tasks : t.tasks = (s.tasks.modify reporter Task.cancel).set k .ended ++
        reply.filesClosed.map (.queued sessionId) := by rw [← done]; rfl
    have deleted : ∀ p, t.removed p = some .agent → p ∈ t.handedOver := by rw [← done]; exact inv.deleted
    have removed : t.removed = s.removed := by rw [← done]; rfl
    refine invariant_moved inv (by rw [← done]; rfl) removed (by rw [← done]; rfl)
      (fun other pcapPath cancelled entries member => ?_) (fun p named => .inl (by rw [← done] at named; exact named))
      fun task live p holds => ?_
    · rw [tasks, List.mem_append] at member
      rcases member with old | new
      · obtain ⟨i, at_i⟩ := List.getElem?_of_mem ((List.mem_or_eq_of_mem_set old).resolve_right (by simp))
        rw [List.getElem?_modify] at at_i
        obtain ⟨before, was, same⟩ := Option.map_eq_some_iff.mp at_i
        split_ifs at same with thrown
        · obtain ⟨flag, rfl⟩ := flushSending_cancel same
          exact ⟨flag, List.mem_of_getElem? was⟩
        · exact ⟨cancelled, List.mem_of_getElem? (same ▸ was)⟩
      · cases inFlush_queued _ new
    · obtain ⟨i, at_i⟩ := List.getElem?_of_mem live
      by_cases own : k = i
      · subst own
        obtain rfl := Option.some.inj (current.symm.trans at_i)
        exact .held (.queued sessionId p) (tasks ▸ queued p holds) (List.mem_singleton.mpr rfl)
      · have there : (if reporter = i then task.cancel else task) ∈ t.tasks := by
          refine tasks ▸ List.mem_append_left _ (List.mem_of_getElem? (i := i) ?_)
          rw [List.getElem?_set_ne own, List.getElem?_modify, at_i]
          rfl
        split_ifs at there with thrown
        · subst thrown
          rcases holds_cancel holds with dropped | still
          · exact kept_gone deleted (removed ▸ secure reporter task popped at_i p dropped)
          · exact .held task.cancel there still
        · exact .held task there holds

private theorem invariant_resumes {s t : AgentClient} (inv : Invariant s) {k : Nat}
    (secure : Secure s (.resumes k)) (stepped : resumes s k = some t) : Invariant t := by
  unfold resumes at stepped
  split at stepped
  · next sessionId reply current =>
    split_ifs at stepped with down
    · obtain rfl := Option.some.inj stepped
      refine invariant_set inv current (List.append_nil _).symm rfl rfl rfl (by simp [Task.inFlush])
        (fun p named => .inl named) fun p holds => ?_
      exact kept_gone (s := s.setTask k .ended) inv.deleted (secure.1 sessionId reply current down p holds)
    · obtain rfl := Option.some.inj stepped
      refine invariant_set inv current rfl rfl rfl rfl (by simp [Task.inFlush]) (fun p named => .inl named)
        fun p holds => ?_
      exact .held (.queued sessionId p) (List.mem_append_right _ (List.mem_map_of_mem holds)) (List.mem_singleton.mpr rfl)
  · next sessionId reply current =>
    obtain rfl := Option.some.inj stepped
    exact invariant_stopped inv current fun reporter task => secure.2 sessionId reply reporter task current
  · cases stepped

private theorem nodup_sorted (spool : PyDict (List Char) SpoolEntry) :
    (sorted (spool.items.map Prod.fst)).Nodup :=
  (List.perm_insertionSort _ _).nodup_iff.mpr spool.distinct

private theorem invariant_queued {s : AgentClient} (inv : Invariant s) {k : Nat} {sessionId : String} {pcapPath : Path}
    {written : Bool} (current : s.tasks[k]? = some (.queued sessionId pcapPath))
    (spoolable : s.link = .down → Spoolable s pcapPath written) :
    Invariant (shipPcap s k sessionId pcapPath written) := by
  unfold shipPcap
  split_ifs with down gone
  · exact invariant_spooled inv current rfl (spoolable down)
  · refine invariant_set inv current (List.append_nil _).symm rfl rfl rfl (by simp [Task.inFlush])
      (fun p named => .inl named) fun p held => ?_
    obtain rfl := List.mem_singleton.mp held
    exact kept_gone (s := s.setTask k .ended) inv.deleted gone
  · obtain ⟨bound, -⟩ := List.getElem?_eq_some_iff.mp current
    exact invariant_set inv current (List.append_nil _).symm rfl rfl rfl (by simp [Task.inFlush])
      (fun p named => .inl named) fun p held => .held _ (List.mem_set bound _) held

private theorem invariant_flushFinishes {s t : AgentClient} (inv : Invariant s) {k : Nat} {deleted : Bool}
    {access : List Char → EntryAccess} (secure : Secure s (.flushFinishes k deleted access))
    (stepped : flushFinishes s k deleted access = some t) : Invariant t := by
  unfold flushFinishes at stepped
  split at stepped
  · next sessionId pcapPath entries current =>
    obtain rfl := Option.some.inj stepped
    obtain ⟨bound, -⟩ := List.getElem?_eq_some_iff.mp current
    obtain ⟨safe, rewritable⟩ := secure sessionId pcapPath entries current
    have apart := inv.apart sessionId pcapPath false entries (List.mem_of_getElem? current)
    refine invariant_flush (invariant_shipped inv current rfl safe) apart.2
      (fun down entry member data present readable removable => ?_) (List.getElem?_set_self bound)
    exact (rewritable down entry member data present readable removable).imp_right removed_removeShipped
  · cases stepped

/-- A flush goes on after it has put an entry back. -/
private theorem invariant_flushSpools {s : AgentClient} (inv : Invariant s) {k : Nat} {sessionId : String}
    {pcapPath : Path} {cancelled written : Bool} {entries : List (List Char)} {access : List Char → EntryAccess}
    (current : s.tasks[k]? = some (.flushSending sessionId pcapPath cancelled entries))
    (spoolable : Spoolable s pcapPath written) (rewritable : Rewritable s access entries) :
    Invariant (flushSpool ((spoolPcapRef s sessionId pcapPath written).setTask k .ended) k access entries) := by
  obtain ⟨bound, -⟩ := List.getElem?_eq_some_iff.mp current
  have apart := inv.apart sessionId pcapPath cancelled entries (List.mem_of_getElem? current)
  refine invariant_flush (invariant_spooled inv current rfl spoolable) apart.2 ?_ ?_
  · cases written with
    | false => exact rewritable
    | true =>
      intro down entry member data present
      simp only [AgentClient.setTask, spoolPcapRef, if_true] at present
      rw [PyDict.get_set, if_neg fun same : spoolName pcapPath = entry => apart.1 (same ▸ member)] at present
      exact rewritable down entry member data present
  · cases written <;> exact List.getElem?_set_self bound

private theorem invariant_reclaimed {s : AgentClient} (inv : Invariant s) {pcapPath : Path}
    (there : s.removed pcapPath = none) :
    Invariant { s with removed := fun p => if p = pcapPath then some .ring else s.removed p } := by
  have deleted : ∀ p, (if p = pcapPath then some Removal.ring else s.removed p) = some .agent → p ∈ s.handedOver := by
    intro p gone
    split_ifs at gone
    · cases gone
    · exact inv.deleted p gone
  refine ⟨inv.named, inv.apart, deleted, fun p named => ?_⟩
  cases inv.kept p named with
  | held task live holds => exact .held task live holds
  | spooled name data entry path => exact .spooled name data entry path
  | shipped sent gone =>
    refine .shipped sent ((if_neg fun same => ?_).trans gone)
    exact absurd (there.symm.trans (same ▸ gone)) (by simp)
  | reclaimed ring =>
    refine .reclaimed ((if_neg fun same => ?_).trans ring)
    exact absurd (there.symm.trans (same ▸ ring)) (by simp)

private theorem invariant_step {s t : AgentClient} {l : Label} (inv : Invariant s) (secure : Secure s l)
    (stepped : step s l = some t) : Invariant t := by
  cases l with
  | connects =>
    simp only [step] at stepped
    split_ifs at stepped
    obtain rfl := Option.some.inj stepped
    exact invariant_spawned inv (List.append_nil _).symm rfl rfl rfl (by simp) rfl
  | authenticates =>
    simp only [step] at stepped
    split_ifs at stepped
    obtain rfl := Option.some.inj stepped
    exact invariant_spawned inv rfl rfl rfl rfl (by simp [Task.inFlush]) rfl
  | disconnects =>
    simp only [step] at stepped
    split_ifs at stepped
    obtain rfl := Option.some.inj stepped
    exact invariant_disconnects inv secure
  | cmdStart sessionId =>
    simp only [step] at stepped
    split_ifs at stepped
    obtain rfl := Option.some.inj stepped
    exact invariant_spawned inv rfl rfl rfl rfl (by simp [Task.inFlush]) rfl
  | cmdStop sessionId =>
    simp only [step] at stepped
    split_ifs at stepped
    obtain rfl := Option.some.inj stepped
    exact invariant_spawned inv rfl rfl rfl rfl (by simp [Task.inFlush]) rfl
  | starts k =>
    simp only [step, starts] at stepped
    split at stepped
    · next sessionId current =>
      obtain rfl := Option.some.inj stepped
      exact invariant_set inv current rfl rfl rfl rfl (by simp [Task.inFlush]) (fun p named => .inl named)
        (by simp [Task.holds])
    · cases stepped
  | polls k =>
    simp only [step, polls] at stepped
    split at stepped
    · next sessionId current =>
      obtain rfl := Option.some.inj stepped
      exact invariant_set inv current (List.append_nil _).symm rfl rfl rfl (by simp [Task.inFlush])
        (fun p named => .inl named) (by simp [Task.holds])
    · cases stepped
  | returns k reply => exact invariant_returns inv secure stepped
  | fails k =>
    simp only [step, fails] at stepped
    split_ifs at stepped with called
    obtain rfl := Option.some.inj stepped
    obtain ⟨task, current, calling⟩ := (Option.any_eq_true _ _).mp called
    refine invariant_set inv current (List.append_nil _).symm rfl rfl rfl (by simp [Task.inFlush])
      (fun p named => .inl named) fun p holds => ?_
    cases task <;> simp_all [Task.calling, Task.holds]
  | resumes k => exact invariant_resumes inv secure stepped
  | reports k sent =>
    simp only [step, reports] at stepped
    split at stepped
    · next sessionId running current =>
      obtain rfl := Option.some.inj stepped
      refine invariant_set inv current (List.append_nil _).symm rfl rfl rfl ?_
        (fun p named => .inl named) (by simp [Task.holds])
      intro task moved
      obtain rfl := List.mem_singleton.mp moved
      split_ifs <;> rfl
    · cases stepped
  | ships k written =>
    simp only [step] at stepped
    split at stepped
    · next sessionId pcapPath current =>
      obtain rfl := Option.some.inj stepped
      exact invariant_queued inv current (secure sessionId pcapPath current)
    · cases stepped
  | finishes k deleted =>
    simp only [step, finishes] at stepped
    split at stepped
    · next sessionId pcapPath current =>
      obtain rfl := Option.some.inj stepped
      exact invariant_shipped inv current rfl (secure sessionId pcapPath current)
    · cases stepped
  | spools k written =>
    simp only [step] at stepped
    split at stepped
    · next sessionId pcapPath cancelled current =>
      obtain rfl := Option.some.inj stepped
      exact invariant_spooled inv current rfl (secure sessionId pcapPath cancelled current)
    · cases stepped
  | flushes k access =>
    simp only [step] at stepped
    split at stepped
    · next current =>
      obtain rfl := Option.some.inj stepped
      obtain ⟨bound, -⟩ := List.getElem?_eq_some_iff.mp current
      refine invariant_flush ?_ (nodup_sorted s.spool) (fun down entry member => ?_) (List.getElem?_set_self bound)
      · exact invariant_set inv current (List.append_nil _).symm rfl rfl rfl (by simp [Task.inFlush])
          (fun p named => .inl named) (by simp [Task.holds])
      · exact secure down entry ((List.perm_insertionSort _ _).mem_iff.mp member)
    · cases stepped
  | flushFinishes k deleted access => exact invariant_flushFinishes inv secure stepped
  | flushSpools k written access =>
    simp only [step] at stepped
    split at stepped
    · next sessionId pcapPath cancelled entries current =>
      obtain rfl := Option.some.inj stepped
      obtain ⟨safe, rewritable⟩ := secure sessionId pcapPath cancelled entries current
      exact invariant_flushSpools inv current safe rewritable
    · cases stepped
  | reclaims pcapPath =>
    simp only [step] at stepped
    split_ifs at stepped with there
    obtain rfl := Option.some.inj stepped
    exact invariant_reclaimed inv there

end Marlinspike.Agent.Spool
