import Mathlib.Data.List.Nodup
import Mathlib.Tactic.SplitIfs
import Marlinspike.Transition
import Marlinspike.Numbered
import Marlinspike.PyDict
import Marlinspike.Json

/-!
Commands that the web app pushes to an agent through the gateway. `push_command` takes the
agent's connection out of the registry, leaves a future under a new id in the connection's
`pending`, writes its request and waits; the connection's read loop resolves the future with
the `res` frame that has the id. A new connection replaces the registered one of its agent
and closes it; a handler that ends takes out of the registry only its own entry, and cancels
what is pending on its connection. The agent makes a task of every request, which calls capd
and sends the answer back.

Everything is cut where a coroutine may be suspended. An agent may send any frame at any
time (`accounted`); one that runs the agent's code sends a `res` frame only from such a task
(`faithful`).
-/
namespace Marlinspike.Gateway.Pushes
open Marlinspike.Transition

/-! ### Frames -/

/-- A `res` frame; a key that is absent reads as `None`. -/
structure Reply where
  id : Json
  ok : Json
  result : Json
  error : Json

/-- A frame from an agent: a reply, or anything else, which resolves no future. -/
inductive Frame where
  | res (reply : Reply)
  | other

/-- A `req` frame to an agent. -/
structure Request where
  id : Nat
  method : String
  params : Json

/-- The key of `pending` that a value is equal to: `2.0 == 2` and `True == 1`. -/
def key : Json → Option Nat
  | .bool b => some (if b then 1 else 0)
  | .int i => if 0 ≤ i then some i.toNat else none
  | .float r => if r.den = 1 ∧ 0 ≤ r.num then some r.num.toNat else none
  | _ => none

/-- `hash(v)` raises a `TypeError`. -/
def unhashable : Json → Bool
  | .arr _ | .obj _ => true
  | _ => false

/-- What `push_command` makes of a reply: it returns the result or raises the error. -/
def commandResult (method : String) (reply : Reply) : Except Json Json :=
  if reply.ok.truthy then .ok (if reply.result.truthy then reply.result else .obj [])
  else .error (if reply.error.truthy then reply.error else .str (method ++ " failed"))

/-! ### The agent's answers -/

/-- How a command ends that the agent passes to its capd. -/
inductive CapdAnswer where
  | result (value : Json)
  /-- A `CapdError` or `CapdUnavailable`. -/
  | error (text : String)
  /-- Any other exception. -/
  | crash

/-- The methods that `_handle_command` knows. -/
def commands : List String := ["list_interfaces", "start", "stop"]

def commandReply (request : Request) : CapdAnswer → Reply
  | .result value => ⟨.int request.id, .bool true, value, .null⟩
  | .error text => ⟨.int request.id, .bool false, .null, .str text⟩
  | .crash => ⟨.int request.id, .bool false, .null, .str "internal agent error"⟩

def unknownMethod (request : Request) : Reply :=
  ⟨.int request.id, .bool false, .null, .str ("unknown method: " ++ request.method)⟩

/-- A task of `_handle_command`. -/
structure Task where
  request : Request
  capd : Option CapdAnswer
  replied : Bool

/-- The frame that the task sends, once it is known. -/
def Task.reply (task : Task) : Option Reply :=
  if task.request.method ∈ commands then task.capd.map (commandReply task.request)
  else some (unknownMethod task.request)

/-! ### The state -/

inductive Future where
  | pending
  /-- The reply is the frame of this number that the connection's loop has handled. -/
  | result (n : Nat) (reply : Reply)
  | cancelled

/-- How `push_command` ends: with a reply, or with the exception of the step it fails in. -/
inductive Outcome where
  | returned (reply : Reply)
  | tooLarge
  | unsent
  | timeout
  | disconnected

inductive Phase where
  /-- For the connection's `write_lock`. -/
  | waiting
  /-- The frame has been handed to the transport. -/
  | draining
  /-- In `wait_for`. -/
  | awaiting
  | done (outcome : Outcome)

/-- One call of `push_command` that has found a connection. -/
structure Push where
  agentUuid : String
  method : String
  params : Json
  conn : Nat
  id : Nat
  /-- How many frames the loop had handled when the call began. -/
  since : Nat
  future : Future
  /-- The timer of `wait_for` has gone off. -/
  timedOut : Bool
  phase : Phase

/-- `_AgentConnection`, its two directions and the agent's tasks on it. -/
structure Conn where
  agentUuid : String
  /-- The link is lost, or one end has closed it. -/
  closed : Bool
  /-- The `finally` of `_handle_connection` has run. -/
  cleaned : Bool
  nextId : Nat
  pending : PyDict Nat Nat
  toAgent : List Request
  toGateway : List Frame
  /-- What the loop has received and not handled. -/
  hand : Option Frame
  handled : List Frame
  tasks : List Task
  /-- Everything that was written to `toAgent`. -/
  sent : List Request

/-- A command that an agent has passed to its capd. -/
structure Execution where
  conn : Nat
  request : Request
  capd : CapdAnswer

structure State where
  conns : List Conn
  /-- `_connections`. -/
  connections : PyDict String Nat
  pushes : List Push
  executions : List Execution

def State.init : State := ⟨[], PyDict.empty, [], []⟩

def Conn.init (agentUuid : String) : Conn :=
  ⟨agentUuid, false, false, 1, PyDict.empty, [], [], none, [], [], []⟩

/-! ### What the calls do -/

def Push.request (push : Push) : Request := ⟨push.id, push.method, push.params⟩

def Push.finished (push : Push) : Bool := match push.phase with
  | .done _ => true
  | _ => false

def Push.waits (push : Push) : Bool := match push.phase with
  | .waiting => true
  | _ => false

def Push.draining (push : Push) : Bool := match push.phase with
  | .draining => true
  | _ => false

/-- `fut.set_result(msg)`, unless it is done. -/
def Push.resolve (n : Nat) (reply : Reply) (push : Push) : Push := match push.future with
  | .pending => { push with future := .result n reply }
  | _ => push

/-- `fut.cancel()`, unless it is done. -/
def Push.cancel (push : Push) : Push := match push.future with
  | .pending => { push with future := .cancelled }
  | _ => push

/-- `writer.close()`. -/
def Conn.close (conn : Conn) : Conn := { conn with closed := true }

/-- `writer.write`; a transport that is closed drops the frame. -/
def Conn.write (request : Request) (conn : Conn) : Conn :=
  if conn.closed then conn
  else { conn with toAgent := conn.toAgent ++ [request], sent := conn.sent ++ [request] }

def Conn.popPending (id : Nat) (conn : Conn) : Conn := { conn with pending := conn.pending.pop id }

/-- A frame of the agent, on a link that may be gone. -/
def Conn.arrive (frame : Frame) (conn : Conn) : Conn :=
  if conn.closed then conn else { conn with toGateway := conn.toGateway ++ [frame] }

/-- The connections, with the registered one of the agent closed. -/
def closing (s : State) (agentUuid : String) : List Conn := match s.connections.get agentUuid with
  | some old => s.conns.modify old Conn.close
  | none => s.conns

/-- A new connection is registered, and the one it replaces is closed. -/
def authenticates (s : State) (agentUuid : String) : State :=
  { s with
    conns := closing s agentUuid ++ [Conn.init agentUuid]
    connections := s.connections.set agentUuid s.conns.length }

/-- `push_command`, up to the lock. -/
def pushCommand (s : State) (agentUuid method : String) (params : Json) : Option State := do
  let c ← s.connections.get agentUuid
  let conn ← s.conns[c]?
  let reqId := conn.nextId + 1
  return { s with
    conns := s.conns.set c { conn with nextId := reqId, pending := conn.pending.set reqId s.pushes.length }
    pushes := s.pushes ++ [⟨agentUuid, method, params, c, reqId, conn.handled.length, .pending, false, .waiting⟩] }

/-- `push_command` returns or raises, through its `finally`. -/
def finish (s : State) (p : Nat) (push : Push) (outcome : Outcome) : State :=
  { s with
    conns := s.conns.modify push.conn (Conn.popPending push.id)
    pushes := s.pushes.set p { push with phase := .done outcome } }

/-- Some call holds the `write_lock` of the connection. -/
def locked (s : State) (c : Nat) : Bool := s.pushes.any fun push => push.conn == c && push.draining

/-- `_send_frame`, up to its `drain`; `fits` looks at the length of the JSON text. -/
def writes (fits : Request → Bool) (s : State) (p : Nat) : Option State := do
  let push ← s.pushes[p]?
  guard (push.waits && !locked s push.conn)
  if fits push.request then
    return { s with
      conns := s.conns.modify push.conn (Conn.write push.request)
      pushes := s.pushes.set p { push with phase := .draining } }
  else return finish s p push .tooLarge

def drains (s : State) (p : Nat) (written : Bool) : Option State := do
  let push ← s.pushes[p]?
  guard push.draining
  if written then return { s with pushes := s.pushes.set p { push with phase := .awaiting } }
  else return finish s p push .unsent

/-- `wait_for` cancels the future, if it is not done. -/
def expires (s : State) (p : Nat) : Option State := do
  let push ← s.pushes[p]?
  match push.phase with
  | .awaiting => return { s with pushes := s.pushes.set p { push.cancel with timedOut := true } }
  | _ => none

/-- `wait_for` is done. -/
def resumes (s : State) (p : Nat) : Option State := do
  let push ← s.pushes[p]?
  match push.phase, push.future with
  | .awaiting, .result _ reply =>
    return finish s p push (if push.timedOut then .timeout else .returned reply)
  | .awaiting, .cancelled => return finish s p push (if push.timedOut then .timeout else .disconnected)
  | _, _ => none

/-- The `finally` of `_handle_connection`. -/
def cleanup (s : State) (c : Nat) (conn : Conn) : State :=
  { s with
    conns := s.conns.set c { conn with closed := true, cleaned := true, hand := none }
    connections :=
      if s.connections.get conn.agentUuid = some c then s.connections.pop conn.agentUuid else s.connections
    pushes := s.pushes.mapIdx fun p push =>
      if p ∈ conn.pending.items.map Prod.snd then push.cancel else push }

/-- The loop ends: the link is lost, the agent is silent or revoked, or a frame was refused. -/
def ends (s : State) (c : Nat) : Option State := do
  let conn ← s.conns[c]?
  guard !conn.cleaned
  return cleanup s c conn

def receives (s : State) (c : Nat) : Option State := do
  let conn ← s.conns[c]?
  guard (!conn.cleaned && conn.hand.isNone)
  match conn.toGateway with
  | [] => none
  | frame :: rest => return { s with conns := s.conns.set c { conn with toGateway := rest, hand := some frame } }

/-- The call whose future is `conn.pending.get(msg.get("id"))`. -/
def target (conn : Conn) : Frame → Option Nat
  | .res reply => (key reply.id).bind conn.pending.get
  | .other => none

/-- The future that the frame is for takes it. -/
def resolved (s : State) (conn : Conn) (frame : Frame) : List Push :=
  match frame, target conn frame with
  | .res reply, some p => s.pushes.modify p (Push.resolve conn.handled.length reply)
  | _, _ => s.pushes

/-- Looking up an id that has no hash ends the handler. -/
def Frame.refused : Frame → Bool
  | .res reply => unhashable reply.id
  | .other => false

/-- The rest of an iteration of the loop, after the check for a revocation. -/
def handles (s : State) (c : Nat) : Option State := do
  let conn ← s.conns[c]?
  guard !conn.cleaned
  let frame ← conn.hand
  if frame.refused then return cleanup s c conn
  else return { s with
    conns := s.conns.set c { conn with hand := none, handled := conn.handled ++ [frame] }
    pushes := resolved s conn frame }

/-- `disconnect_agent`. -/
def disconnectAgent (s : State) (agentUuid : String) : Option State := do
  let c ← s.connections.get agentUuid
  return { s with conns := s.conns.modify c Conn.close }

/-- `_reader_loop` of the agent makes a task. -/
def agentReads (s : State) (c : Nat) : Option State := do
  let conn ← s.conns[c]?
  match conn.toAgent with
  | [] => none
  | request :: rest => return { s with
      conns := s.conns.set c { conn with toAgent := rest, tasks := conn.tasks ++ [⟨request, none, false⟩] } }

def calls (s : State) (c t : Nat) (capd : CapdAnswer) : Option State := do
  let conn ← s.conns[c]?
  let task ← conn.tasks[t]?
  guard (task.capd.isNone && task.request.method ∈ commands)
  return { s with
    conns := s.conns.set c { conn with tasks := conn.tasks.set t { task with capd := some capd } }
    executions := s.executions ++ [⟨c, task.request, capd⟩] }

def replies (s : State) (c t : Nat) : Option State := do
  let conn ← s.conns[c]?
  let task ← conn.tasks[t]?
  guard !task.replied
  let reply ← task.reply
  return { s with
    conns := s.conns.set c
      (({ conn with tasks := conn.tasks.set t { task with replied := true } }).arrive (.res reply)) }

inductive Label where
  | authenticates (agentUuid : String)
  | pushes (agentUuid method : String) (params : Json)
  | writes (p : Nat)
  | drains (p : Nat) (written : Bool)
  | expires (p : Nat)
  | resumes (p : Nat)
  | receives (c : Nat)
  | handles (c : Nat)
  | ends (c : Nat)
  | disconnects (agentUuid : String)
  | drops (c : Nat)
  | agentReads (c : Nat)
  | calls (c t : Nat) (capd : CapdAnswer)
  | replies (c t : Nat)
  /-- Anything else that comes from the agent. -/
  | sends (c : Nat) (frame : Frame)

def step (fits : Request → Bool) (s : State) : Label → Option State
  | .authenticates agentUuid => some (authenticates s agentUuid)
  | .pushes agentUuid method params => pushCommand s agentUuid method params
  | .writes p => writes fits s p
  | .drains p written => drains s p written
  | .expires p => expires s p
  | .resumes p => resumes s p
  | .receives c => receives s c
  | .handles c => handles s c
  | .ends c => ends s c
  | .disconnects agentUuid => disconnectAgent s agentUuid
  | .drops c => some { s with conns := s.conns.modify c Conn.close }
  | .agentReads c => agentReads s c
  | .calls c t capd => calls s c t capd
  | .replies c t => replies s c t
  | .sends c frame => some { s with conns := s.conns.modify c (Conn.arrive frame) }

/-! ### What holds in every run -/

/-- A call against its connection. -/
structure Serves (p : Nat) (push : Push) (conn : Conn) : Prop where
  agent : conn.agentUuid = push.agentUuid
  numbered : push.id ≤ conn.nextId
  since : push.since ≤ conn.handled.length
  registered : push.finished = false → conn.pending.get push.id = some p
  served : push.finished = false → (∃ n reply, push.future = .result n reply) ∨ push.future = .cancelled ∨
    conn.cleaned = false
  answered : ∀ n reply, push.future = .result n reply →
    push.since ≤ n ∧ conn.handled[n]? = some (.res reply) ∧ key reply.id = some push.id
  returned : ∀ reply, push.phase = .done (.returned reply) → ∃ n, push.future = .result n reply

/-- The registry against the connections. -/
structure Registry (s : State) : Prop where
  registered : ∀ a c, s.connections.get a = some c →
    ∃ conn, s.conns[c]? = some conn ∧ conn.agentUuid = a ∧ conn.cleaned = false
  current : ∀ (c : Nat) conn, s.conns[c]? = some conn → conn.closed = false →
    s.connections.get conn.agentUuid = some c
  shut : ∀ (c : Nat) conn, s.conns[c]? = some conn → conn.cleaned = true → conn.closed = true

structure Invariant (s : State) : Prop where
  registry : Registry s
  served : ∀ (p : Nat) push, s.pushes[p]? = some push → ∃ conn, s.conns[push.conn]? = some conn ∧ Serves p push conn
  entries : ∀ (c : Nat) conn id p, s.conns[c]? = some conn → conn.pending.get id = some p →
    ∃ push, s.pushes[p]? = some push ∧ push.conn = c ∧ push.id = id ∧ push.finished = false
  distinct : ∀ (p q : Nat) push other, s.pushes[p]? = some push → s.pushes[q]? = some other →
    push.conn = other.conn → push.id = other.id → p = q

theorem invariant_init : Invariant State.init where
  registry := by constructor <;> simp [State.init]
  served := by simp [State.init]
  entries := by simp [State.init]
  distinct := by simp [State.init]

/-! ### Steps that change connections and calls in place -/

variable {s t : State}

/-- A connection that changes in what is on the wire only, or is closed. -/
structure Conn.Alike (conn conn' : Conn) : Prop where
  agentUuid : conn'.agentUuid = conn.agentUuid
  cleaned : conn'.cleaned = conn.cleaned
  nextId : conn'.nextId = conn.nextId
  pending : conn'.pending = conn.pending
  handled : conn'.handled = conn.handled
  closed : conn'.closed = false → conn.closed = false

theorem Conn.Alike.refl (conn : Conn) : Conn.Alike conn conn := ⟨rfl, rfl, rfl, rfl, rfl, id⟩

theorem alike_close (conn : Conn) : Conn.Alike conn conn.close := ⟨rfl, rfl, rfl, rfl, rfl, fun open_ => by cases open_⟩

theorem alike_write (request : Request) (conn : Conn) : Conn.Alike conn (conn.write request) := by
  unfold Conn.write
  split
  · exact .refl conn
  · exact ⟨rfl, rfl, rfl, rfl, rfl, id⟩

theorem alike_arrive (frame : Frame) (conn : Conn) : Conn.Alike conn (conn.arrive frame) := by
  unfold Conn.arrive
  split
  · exact .refl conn
  · exact ⟨rfl, rfl, rfl, rfl, rfl, id⟩

theorem Registry.mapped (reg : Registry s) {f : Nat → Conn → Conn}
    (conns : ∀ c : Nat, t.conns[c]? = (s.conns[c]?).map (f c)) (connections : t.connections = s.connections)
    (kept : ∀ c conn, s.conns[c]? = some conn → (f c conn).agentUuid = conn.agentUuid ∧
      (f c conn).cleaned = conn.cleaned ∧ ((f c conn).closed = false → conn.closed = false)) : Registry t where
  registered a c found := by
    obtain ⟨conn, at_, same, live⟩ := reg.registered a c (connections ▸ found)
    obtain ⟨agentUuid, cleaned, -⟩ := kept c conn at_
    exact ⟨f c conn, by rw [conns, at_]; rfl, agentUuid.trans same, cleaned.trans live⟩
  current c conn' found open_ := by
    rw [conns] at found
    obtain ⟨conn, at_, rfl⟩ := Option.map_eq_some_iff.mp found
    obtain ⟨agentUuid, -, closed⟩ := kept c conn at_
    rw [connections, agentUuid]
    exact reg.current c conn at_ (closed open_)
  shut c conn' found gone := by
    rw [conns] at found
    obtain ⟨conn, at_, rfl⟩ := Option.map_eq_some_iff.mp found
    obtain ⟨-, cleaned, closed⟩ := kept c conn at_
    by_contra open_
    have shut := reg.shut c conn at_ (cleaned.symm.trans gone)
    rw [closed (Bool.eq_false_iff.mpr open_)] at shut
    cases shut

/-- The calls and the connections change by one function each. -/
theorem Invariant.mapped (inv : Invariant s) {f : Nat → Conn → Conn} {g : Nat → Push → Push} (registry : Registry t)
    (conns : ∀ c : Nat, t.conns[c]? = (s.conns[c]?).map (f c))
    (pushes : ∀ p : Nat, t.pushes[p]? = (s.pushes[p]?).map (g p))
    (same : ∀ p push, s.pushes[p]? = some push → (g p push).conn = push.conn ∧ (g p push).id = push.id)
    (serves : ∀ p push conn, s.pushes[p]? = some push → s.conns[push.conn]? = some conn → Serves p push conn →
      Serves p (g p push) (f push.conn conn))
    (fewer : ∀ c conn id p, s.conns[c]? = some conn → (f c conn).pending.get id = some p →
      conn.pending.get id = some p)
    (unfinished : ∀ p push conn, s.pushes[p]? = some push → s.conns[push.conn]? = some conn →
      (f push.conn conn).pending.get push.id = some p → push.finished = false → (g p push).finished = false) :
    Invariant t where
  registry := registry
  served p push' found := by
    rw [pushes] at found
    obtain ⟨push, at_, rfl⟩ := Option.map_eq_some_iff.mp found
    obtain ⟨conn, there, good⟩ := inv.served p push at_
    exact ⟨f push.conn conn, by rw [(same p push at_).1, conns, there]; rfl, serves p push conn at_ there good⟩
  entries c conn' id p found waits := by
    rw [conns] at found
    obtain ⟨conn, at_, rfl⟩ := Option.map_eq_some_iff.mp found
    obtain ⟨push, called, rfl, rfl, going⟩ := inv.entries c conn id p at_ (fewer c conn id p at_ waits)
    obtain ⟨conn₁, id₁⟩ := same p push called
    exact ⟨g p push, by rw [pushes, called]; rfl, conn₁, id₁, unfinished p push conn called at_ waits going⟩
  distinct p q push' other' found also conn id := by
    rw [pushes] at found also
    obtain ⟨push, at_, rfl⟩ := Option.map_eq_some_iff.mp found
    obtain ⟨other, there, rfl⟩ := Option.map_eq_some_iff.mp also
    obtain ⟨conn₁, id₁⟩ := same p push at_
    obtain ⟨conn₂, id₂⟩ := same q other there
    exact inv.distinct p q push other at_ there (conn₁.symm.trans (conn.trans conn₂)) (id₁.symm.trans (id.trans id₂))

/-- A frame of a task; the task changes as well. -/
theorem alike_reply (frame : Frame) (conn : Conn) (tasks : List Task) :
    Conn.Alike conn (({ conn with tasks := tasks }).arrive frame) := by
  unfold Conn.arrive
  split <;> exact ⟨rfl, rfl, rfl, rfl, rfl, id⟩

theorem Serves.alike {p : Nat} {push : Push} {conn conn' : Conn} (good : Serves p push conn)
    (alike : Conn.Alike conn conn') : Serves p push conn' where
  agent := alike.agentUuid.trans good.agent
  numbered := alike.nextId ▸ good.numbered
  since := alike.handled ▸ good.since
  registered going := alike.pending ▸ good.registered going
  served going := alike.cleaned ▸ good.served going
  answered n reply future := alike.handled ▸ good.answered n reply future
  returned := good.returned

/-- A step of a call that does not end it, and resolves nothing. -/
structure Push.Advances (push push' : Push) : Prop where
  agentUuid : push'.agentUuid = push.agentUuid
  conn : push'.conn = push.conn
  id : push'.id = push.id
  since : push'.since = push.since
  future : push'.future = push.future ∨ push'.future = .cancelled
  going : push.finished = false
  goes : push'.finished = false
  request : push'.request = push.request
  wrote : push'.waits = false

theorem Push.Advances.serves {p : Nat} {push push' : Push} {conn : Conn} (advances : Push.Advances push push')
    (good : Serves p push conn) : Serves p push' conn where
  agent := good.agent.trans advances.agentUuid.symm
  numbered := advances.id ▸ good.numbered
  since := advances.since ▸ good.since
  registered _ := advances.id ▸ good.registered advances.going
  served _ := by
    rcases advances.future with same | cancelled
    · rw [same]
      exact good.served advances.going
    · exact .inr (.inl cancelled)
  answered n reply future := by
    rcases advances.future with same | cancelled
    · rw [advances.since, advances.id]
      exact good.answered n reply (same ▸ future)
    · rw [cancelled] at future
      cases future
  returned reply done := by
    have goes := advances.goes
    rw [Push.finished, done] at goes
    cases goes

/-- A step that moves frames or closes connections, and advances one call at most. -/
theorem Invariant.alike (inv : Invariant s) {f : Nat → Conn → Conn} {g : Nat → Push → Push}
    (conns : ∀ c : Nat, t.conns[c]? = (s.conns[c]?).map (f c)) (connections : t.connections = s.connections)
    (pushes : ∀ p : Nat, t.pushes[p]? = (s.pushes[p]?).map (g p))
    (alike : ∀ c conn, s.conns[c]? = some conn → Conn.Alike conn (f c conn))
    (advances : ∀ p push, s.pushes[p]? = some push → g p push = push ∨ Push.Advances push (g p push)) :
    Invariant t := by
  have registry : Registry t := inv.registry.mapped conns connections fun c conn at_ =>
    ⟨(alike c conn at_).agentUuid, (alike c conn at_).cleaned, (alike c conn at_).closed⟩
  refine inv.mapped registry conns pushes ?_ ?_ ?_ ?_
  · intro p push at_
    rcases advances p push at_ with same | moved
    · rw [same]
      exact ⟨rfl, rfl⟩
    · exact ⟨moved.conn, moved.id⟩
  · intro p push conn at_ there good
    have good := good.alike (alike push.conn conn there)
    rcases advances p push at_ with same | moved
    · rwa [same]
    · exact moved.serves good
  · intro c conn id p at_ waits
    rwa [(alike c conn at_).pending] at waits
  · intro p push conn at_ _ _ going
    rcases advances p push at_ with same | moved
    · rwa [same]
    · exact moved.goes

/-- The same, of one connection and no call. -/
theorem Invariant.moves (inv : Invariant s) {c : Nat} {f : Conn → Conn} (alike : ∀ conn, Conn.Alike conn (f conn)) :
    Invariant { s with conns := s.conns.modify c f } := by
  refine inv.alike (g := fun _ push => push) (Numbered.getElem?_modify s.conns c f) rfl
    (Numbered.getElem?_same s.pushes) ?_ fun _ _ _ => .inl rfl
  intro i conn _
  split
  · exact alike conn
  · exact .refl conn

theorem Invariant.puts (inv : Invariant s) {c : Nat} {conn conn' : Conn} (found : s.conns[c]? = some conn)
    (alike : Conn.Alike conn conn') (executions : List Execution) :
    Invariant { s with conns := s.conns.set c conn', executions := executions } := by
  refine inv.alike (g := fun _ push => push) (Numbered.getElem?_set found) rfl (Numbered.getElem?_same s.pushes) ?_
    fun _ _ _ => .inl rfl
  intro i other at_
  split
  · next here =>
    subst here
    cases found.symm.trans at_
    exact alike
  · exact .refl other

theorem Invariant.advances (inv : Invariant s) {f : Nat → Conn → Conn} {p : Nat} {push push' : Push}
    (conns : ∀ c : Nat, t.conns[c]? = (s.conns[c]?).map (f c)) (connections : t.connections = s.connections)
    (found : s.pushes[p]? = some push) (pushes : t.pushes = s.pushes.set p push')
    (alike : ∀ c conn, Conn.Alike conn (f c conn)) (moved : Push.Advances push push') : Invariant t := by
  have pushes' : ∀ i : Nat, t.pushes[i]? = (s.pushes[i]?).map fun other => if p = i then push' else other := fun i => by
    rw [pushes, Numbered.getElem?_set found]
  refine inv.alike conns connections pushes' (fun c conn _ => alike c conn) fun i other at_ => ?_
  split
  · next here =>
    subst here
    cases found.symm.trans at_
    exact .inr moved
  · exact .inl rfl

/-! ### The end of a call -/

theorem Serves.finish {p : Nat} {push : Push} {conn : Conn} {outcome : Outcome} (good : Serves p push conn)
    (answered : ∀ reply, outcome = .returned reply → ∃ n, push.future = .result n reply) :
    Serves p { push with phase := .done outcome } (conn.popPending push.id) where
  agent := good.agent
  numbered := good.numbered
  since := good.since
  registered going := by cases going
  served going := by cases going
  answered := good.answered
  returned reply done := answered reply (Phase.done.inj done)

/-- What other calls have on the connection stays. -/
theorem Serves.popPending {p id : Nat} {push : Push} {conn : Conn} (good : Serves p push conn) (other : id ≠ push.id) :
    Serves p push (conn.popPending id) where
  agent := good.agent
  numbered := good.numbered
  since := good.since
  registered going := by
    rw [Conn.popPending, PyDict.get_pop, if_neg other]
    exact good.registered going
  served := good.served
  answered := good.answered
  returned := good.returned

theorem invariant_finish (inv : Invariant s) {p : Nat} {push : Push} {outcome : Outcome}
    (found : s.pushes[p]? = some push)
    (answered : ∀ reply, outcome = .returned reply → ∃ n, push.future = .result n reply) :
    Invariant (finish s p push outcome) := by
  have conns := Numbered.getElem?_modify s.conns push.conn (Conn.popPending push.id)
  refine inv.mapped ?_ conns (Numbered.getElem?_set found) ?_ ?_ ?_ ?_
  · refine inv.registry.mapped conns rfl fun c conn _ => ?_
    split
    · exact ⟨rfl, rfl, id⟩
    · exact ⟨rfl, rfl, id⟩
  · intro i other at_
    split
    · next here =>
      subst here
      cases found.symm.trans at_
      exact ⟨rfl, rfl⟩
    · exact ⟨rfl, rfl⟩
  · intro i other conn at_ there good
    by_cases here : p = i
    · subst here
      cases found.symm.trans at_
      rw [if_pos rfl, if_pos rfl]
      exact good.finish answered
    · rw [if_neg here]
      split
      · next same => exact good.popPending fun id => here (inv.distinct p i push other found at_ same id)
      · exact good
  · intro c conn id i _ waits
    split at waits
    · rw [Conn.popPending, PyDict.get_pop] at waits
      split at waits
      · cases waits
      · exact waits
    · exact waits
  · intro i other conn at_ _ waits going
    by_cases here : p = i
    · subst here
      cases found.symm.trans at_
      rw [if_pos rfl, Conn.popPending, PyDict.get_pop_self] at waits
      cases waits
    · rwa [if_neg here]

/-! ### A frame is handled -/

theorem Serves.handle {p : Nat} {push : Push} {conn : Conn} (good : Serves p push conn) (frame : Frame) :
    Serves p push { conn with hand := none, handled := conn.handled ++ [frame] } where
  agent := good.agent
  numbered := good.numbered
  since := by
    have := good.since
    simp only [List.length_append, List.length_singleton]
    omega
  registered := good.registered
  served := good.served
  answered n reply future := by
    obtain ⟨after, frame, same⟩ := good.answered n reply future
    exact ⟨after, Numbered.getElem?_concat_of frame, same⟩
  returned := good.returned

/-- The future takes the frame that is handled. -/
theorem Serves.resolve {p : Nat} {push : Push} {conn : Conn} {reply : Reply} (good : Serves p push conn)
    (same : key reply.id = some push.id) :
    Serves p (push.resolve conn.handled.length reply)
      { conn with hand := none, handled := conn.handled ++ [.res reply] } := by
  have handled := good.handle (.res reply)
  unfold Push.resolve
  split
  · exact
      { agent := handled.agent
        numbered := handled.numbered
        since := handled.since
        registered := handled.registered
        served := fun _ => .inl ⟨_, _, rfl⟩
        answered := fun n other future => by
          cases future
          exact ⟨good.since, Numbered.getElem?_concat_last, same⟩
        returned := fun other done => by
          obtain ⟨n, future⟩ := good.returned other done
          simp_all }
  · exact handled

theorem resolve_fields (n : Nat) (reply : Reply) (push : Push) :
    (push.resolve n reply).conn = push.conn ∧ (push.resolve n reply).id = push.id ∧
      (push.resolve n reply).finished = push.finished := by
  unfold Push.resolve
  split <;> exact ⟨rfl, rfl, rfl⟩

/-- What handling a frame makes of a call. -/
def Push.took (conn : Conn) (frame : Frame) (p : Nat) (push : Push) : Push :=
  match frame with
  | .res reply => if target conn frame = some p then push.resolve conn.handled.length reply else push
  | .other => push

theorem getElem?_resolved (s : State) (conn : Conn) (frame : Frame) (p : Nat) :
    (resolved s conn frame)[p]? = (s.pushes[p]?).map (Push.took conn frame p) := by
  cases frame with
  | other => exact Numbered.getElem?_same s.pushes p
  | res reply =>
    have took : Push.took conn (.res reply) p = fun push =>
      if target conn (.res reply) = some p then push.resolve conn.handled.length reply else push := rfl
    unfold resolved
    rw [took]
    cases target conn (.res reply) with
    | none => exact Numbered.getElem?_same s.pushes p
    | some q => simp only [Numbered.getElem?_modify, Option.some.injEq]

theorem took_fields (conn : Conn) (frame : Frame) (p : Nat) (push : Push) :
    (push.took conn frame p).conn = push.conn ∧ (push.took conn frame p).id = push.id ∧
      (push.took conn frame p).finished = push.finished := by
  cases frame with
  | other => exact ⟨rfl, rfl, rfl⟩
  | res reply =>
    simp only [Push.took]
    split
    · exact resolve_fields _ _ _
    · exact ⟨rfl, rfl, rfl⟩

/-- The frame is for a call of this connection that has its id. -/
theorem named_of_target (inv : Invariant s) {c p : Nat} {conn : Conn} {reply : Reply} {push : Push}
    (found : s.conns[c]? = some conn) (called : s.pushes[p]? = some push) (hit : target conn (.res reply) = some p) :
    push.conn = c ∧ key reply.id = some push.id := by
  obtain ⟨id, named, waits⟩ := Option.bind_eq_some_iff.mp hit
  obtain ⟨push', at_, same, rfl, -⟩ := inv.entries c conn id p found waits
  cases called.symm.trans at_
  exact ⟨same, named⟩

theorem Serves.took (inv : Invariant s) {p : Nat} {conn : Conn} {push : Push} (found : s.conns[push.conn]? = some conn)
    (called : s.pushes[p]? = some push) (good : Serves p push conn) (frame : Frame) :
    Serves p (push.took conn frame p) { conn with hand := none, handled := conn.handled ++ [frame] } := by
  cases frame with
  | other => exact good.handle .other
  | res reply =>
    simp only [Push.took]
    split
    · next hit => exact good.resolve (named_of_target inv found called hit).2
    · exact good.handle (.res reply)

/-- No future of another connection is in `pending` of this one. -/
theorem took_elsewhere (inv : Invariant s) {c p : Nat} {conn : Conn} {push : Push} (found : s.conns[c]? = some conn)
    (called : s.pushes[p]? = some push) (elsewhere : c ≠ push.conn) (frame : Frame) :
    push.took conn frame p = push := by
  cases frame with
  | other => rfl
  | res reply =>
    simp only [Push.took]
    split
    · next hit => exact absurd (named_of_target inv found called hit).1.symm elsewhere
    · rfl

theorem invariant_handle (inv : Invariant s) {c : Nat} {conn : Conn} (found : s.conns[c]? = some conn) (frame : Frame) :
    Invariant { s with
      conns := s.conns.set c { conn with hand := none, handled := conn.handled ++ [frame] }
      pushes := resolved s conn frame } := by
  have conns (i : Nat) : (s.conns.set c { conn with hand := none, handled := conn.handled ++ [frame] })[i]? = _ :=
    Numbered.getElem?_set found i
  refine inv.mapped ?_ conns (getElem?_resolved s conn frame) ?_ ?_ ?_ ?_
  · refine inv.registry.mapped conns rfl fun i other at_ => ?_
    split
    · next here =>
      subst here
      cases found.symm.trans at_
      exact ⟨rfl, rfl, id⟩
    · exact ⟨rfl, rfl, id⟩
  · exact fun p push _ => ⟨(took_fields conn frame p push).1, (took_fields conn frame p push).2.1⟩
  · intro p push other at_ there good
    by_cases here : c = push.conn
    · subst here
      cases found.symm.trans there
      rw [if_pos rfl]
      exact Serves.took inv found at_ good frame
    · rwa [if_neg here, took_elsewhere inv found at_ here frame]
  · intro i other id p at_ waits
    split at waits
    · next here =>
      subst here
      cases found.symm.trans at_
      exact waits
    · exact waits
  · exact fun p push other _ _ _ going => (took_fields conn frame p push).2.2.trans going

/-! ### A handler ends -/

theorem cancel_fields (push : Push) :
    push.cancel.agentUuid = push.agentUuid ∧ push.cancel.conn = push.conn ∧ push.cancel.id = push.id ∧
      push.cancel.since = push.since ∧ push.cancel.phase = push.phase := by
  unfold Push.cancel
  split <;> exact ⟨rfl, rfl, rfl, rfl, rfl⟩

theorem cancel_request (push : Push) : push.cancel.request = push.request := by
  unfold Push.cancel
  split <;> rfl

theorem future_cancel (push : Push) :
    (∃ n reply, push.future = .result n reply ∧ push.cancel.future = .result n reply) ∨
      push.cancel.future = .cancelled := by
  unfold Push.cancel
  cases future : push.future with
  | pending => exact .inr rfl
  | result n reply => exact .inl ⟨n, reply, rfl, future⟩
  | cancelled => exact .inr future

theorem Serves.cancel {p : Nat} {push : Push} {conn : Conn} (good : Serves p push conn) (conn' : Conn)
    (agentUuid : conn'.agentUuid = conn.agentUuid) (nextId : conn'.nextId = conn.nextId)
    (pending : conn'.pending = conn.pending) (handled : conn'.handled = conn.handled) :
    Serves p push.cancel conn' := by
  obtain ⟨agent, -, id, since, phase⟩ := cancel_fields push
  have finished : push.cancel.finished = push.finished := by rw [Push.finished, Push.finished, phase]
  exact
    { agent := by rw [agentUuid, agent, good.agent]
      numbered := by rw [nextId, id]; exact good.numbered
      since := by rw [handled, since]; exact good.since
      registered := fun going => by rw [pending, id]; exact good.registered (finished ▸ going)
      served := fun _ => by
        rcases future_cancel push with ⟨n, reply, -, same⟩ | cancelled
        · exact .inl ⟨n, reply, same⟩
        · exact .inr (.inl cancelled)
      answered := fun n reply future => by
        rcases future_cancel push with ⟨n', reply', was, same⟩ | cancelled
        · cases same.symm.trans future
          rw [since, handled, id]
          exact good.answered n reply was
        · rw [cancelled] at future
          cases future
      returned := fun reply done => by
        obtain ⟨n, was⟩ := good.returned reply (phase ▸ done)
        rcases future_cancel push with ⟨n', reply', was', same⟩ | cancelled
        · cases was.symm.trans was'
          exact ⟨_, same⟩
        · rw [Push.cancel, was] at cancelled
          cases was.symm.trans cancelled }

theorem registry_cleanup (reg : Registry s) {c : Nat} {conn : Conn} (found : s.conns[c]? = some conn) :
    Registry (cleanup s c conn) := by
  have conns (i : Nat) : (s.conns.set c { conn with closed := true, cleaned := true, hand := none })[i]? = _ :=
    Numbered.getElem?_set found i
  have kept : ∀ a i, (cleanup s c conn).connections.get a = some i → s.connections.get a = some i ∧ i ≠ c := by
    intro a i registered
    simp only [cleanup] at registered
    split at registered
    · next mine =>
      rw [PyDict.get_pop] at registered
      split at registered
      · cases registered
      · next other =>
        refine ⟨registered, fun same => other ?_⟩
        obtain ⟨conn', at_, agentUuid, -⟩ := reg.registered a i registered
        cases found.symm.trans (same ▸ at_)
        exact agentUuid
    · next other =>
      refine ⟨registered, fun same => other ?_⟩
      obtain ⟨conn', at_, agentUuid, -⟩ := reg.registered a i registered
      cases found.symm.trans (same ▸ at_)
      rw [agentUuid, ← same]
      exact registered
  refine ⟨fun a i registered => ?_, fun i other at_ open_ => ?_, fun i other at_ gone => ?_⟩
  · obtain ⟨registered, elsewhere⟩ := kept a i registered
    obtain ⟨other, at_, agentUuid, live⟩ := reg.registered a i registered
    refine ⟨other, ?_, agentUuid, live⟩
    rw [cleanup, conns, at_, Option.map_some, if_neg (Ne.symm elsewhere)]
  · rw [cleanup, conns] at at_
    obtain ⟨old, there, same⟩ := Option.map_eq_some_iff.mp at_
    split at same
    · cases same
      cases open_
    · next elsewhere =>
      cases same
      have registered := reg.current i _ there open_
      simp only [cleanup]
      split
      · next mine =>
        rw [PyDict.get_pop, if_neg]
        · exact registered
        · intro same
          rw [same, registered] at mine
          exact elsewhere (Option.some.inj mine).symm
      · exact registered
  · rw [cleanup, conns] at at_
    obtain ⟨old, there, same⟩ := Option.map_eq_some_iff.mp at_
    split at same
    · cases same
      rfl
    · cases same
      exact reg.shut i _ there gone

theorem invariant_cleanup (inv : Invariant s) {c : Nat} {conn : Conn} (found : s.conns[c]? = some conn) :
    Invariant (cleanup s c conn) := by
  have conns (i : Nat) : (s.conns.set c { conn with closed := true, cleaned := true, hand := none })[i]? = _ :=
    Numbered.getElem?_set found i
  refine inv.mapped (registry_cleanup inv.registry found) conns (fun p => List.getElem?_mapIdx) ?_ ?_ ?_ ?_
  · intro p push _
    split
    · exact ⟨(cancel_fields push).2.1, (cancel_fields push).2.2.1⟩
    · exact ⟨rfl, rfl⟩
  · intro p push other at_ there good
    by_cases here : c = push.conn
    · subst here
      cases found.symm.trans there
      rw [if_pos rfl]
      split
      · exact good.cancel _ rfl rfl rfl rfl
      · next absent =>
        refine ⟨good.agent, good.numbered, good.since, good.registered, fun going => ?_, good.answered, good.returned⟩
        exact absurd (List.mem_map_of_mem (PyDict.mem_items_of_get (good.registered going))) absent
    · rw [if_neg here]
      split
      · exact good.cancel other rfl rfl rfl rfl
      · exact good
  · intro i other id p at_ waits
    split at waits
    · next here =>
      subst here
      cases found.symm.trans at_
      exact waits
    · exact waits
  · intro p push other _ _ _ going
    split
    · rw [Push.finished, (cancel_fields push).2.2.2.2]
      exact going
    · exact going

/-! ### Calls and connections that begin -/

theorem invariant_push (inv : Invariant s) {agentUuid method : String} {params : Json} {t : State}
    (pushed : pushCommand s agentUuid method params = some t) : Invariant t := by
  obtain ⟨c, registered, rest⟩ := Option.bind_eq_some_iff.mp pushed
  obtain ⟨conn, found, is⟩ := Option.bind_eq_some_iff.mp rest
  cases is
  have conns (conn' : Conn) (i : Nat) : (s.conns.set c conn')[i]? = _ := Numbered.getElem?_set found i
  obtain ⟨agent, live⟩ : conn.agentUuid = agentUuid ∧ conn.cleaned = false := by
    obtain ⟨conn', there, both⟩ := inv.registry.registered agentUuid c registered
    cases found.symm.trans there
    exact both
  -- the ids in use on the connection are not above its counter
  have fresh : ∀ (p : Nat) push, s.pushes[p]? = some push → push.conn = c → push.id ≤ conn.nextId := by
    intro p push at_ same
    obtain ⟨other, there, good⟩ := inv.served p push at_
    cases found.symm.trans (same ▸ there)
    exact good.numbered
  refine ⟨?_, ?_, ?_, ?_⟩
  · refine inv.registry.mapped (conns _) rfl fun i other at_ => ?_
    split
    · next here =>
      subst here
      cases found.symm.trans at_
      exact ⟨rfl, rfl, id⟩
    · exact ⟨rfl, rfl, id⟩
  · intro p push at_
    rcases Numbered.getElem?_concat.mp at_ with old | ⟨rfl, rfl⟩
    · obtain ⟨other, there, good⟩ := inv.served p push old
      by_cases here : c = push.conn
      · subst here
        cases found.symm.trans there
        have numbered := good.numbered
        refine ⟨_, by rw [conns, there, Option.map_some, if_pos rfl], ?_⟩
        refine ⟨good.agent, Nat.le_succ_of_le numbered, good.since, fun going => ?_, good.served, good.answered,
          good.returned⟩
        rw [PyDict.get_set, if_neg (by omega)]
        exact good.registered going
      · exact ⟨other, by rw [conns, there, Option.map_some, if_neg here], good⟩
    · refine ⟨_, by rw [conns, found, Option.map_some, if_pos rfl], ?_⟩
      refine ⟨agent, Nat.le_refl _, Nat.le_refl _, fun _ => PyDict.get_set_self _ _ _, fun _ => .inr (.inr live), ?_,
        ?_⟩
      · intro _ _ future
        cases future
      · intro _ done
        cases done
  · intro i other id p at_ waits
    rw [conns] at at_
    obtain ⟨old, there, same⟩ := Option.map_eq_some_iff.mp at_
    split at same
    · next here =>
      subst here
      cases found.symm.trans there
      cases same
      rw [PyDict.get_set] at waits
      split at waits
      · next last =>
        cases waits
        exact ⟨_, Numbered.getElem?_concat_last, rfl, last, rfl⟩
      · obtain ⟨push, called, rest⟩ := inv.entries c conn id p found waits
        exact ⟨push, Numbered.getElem?_concat_of called, rest⟩
    · cases same
      obtain ⟨push, called, rest⟩ := inv.entries i _ id p there waits
      exact ⟨push, Numbered.getElem?_concat_of called, rest⟩
  · intro p q push other at_ also conn_ id_
    rcases Numbered.getElem?_concat.mp at_ with old | ⟨rfl, rfl⟩
    · rcases Numbered.getElem?_concat.mp also with old' | ⟨rfl, rfl⟩
      · exact inv.distinct p q push other old old' conn_ id_
      · have := fresh p push old conn_
        simp only at id_
        omega
    · rcases Numbered.getElem?_concat.mp also with old' | ⟨rfl, -⟩
      · have := fresh q other old' conn_.symm
        simp only at id_
        omega
      · rfl

theorem getElem?_closing (s : State) (agentUuid : String) (c : Nat) : (closing s agentUuid)[c]? = (s.conns[c]?).map
    fun conn => if s.connections.get agentUuid = some c then conn.close else conn := by
  unfold closing
  cases s.connections.get agentUuid with
  | none => exact Numbered.getElem?_same s.conns c
  | some old => simp only [Numbered.getElem?_modify, Option.some.injEq]

theorem length_closing (s : State) (agentUuid : String) : (closing s agentUuid).length = s.conns.length := by
  unfold closing
  split
  · exact List.length_modify _ _ _
  · rfl

theorem invariant_accept (inv : Invariant s) (agentUuid : String) : Invariant (authenticates s agentUuid) := by
  have conns := getElem?_closing s agentUuid
  have alike : ∀ (c : Nat) conn, s.conns[c]? = some conn →
      Conn.Alike conn (if s.connections.get agentUuid = some c then conn.close else conn) := by
    intro c conn _
    split
    · exact alike_close conn
    · exact .refl conn
  have closed : Invariant { s with conns := closing s agentUuid } :=
    inv.alike (g := fun _ push => push) conns rfl (Numbered.getElem?_same s.pushes) alike fun _ _ _ => .inl rfl
  have conns' : (authenticates s agentUuid).conns = closing s agentUuid ++ [Conn.init agentUuid] := rfl
  have connections' : (authenticates s agentUuid).connections = s.connections.set agentUuid s.conns.length := rfl
  refine ⟨⟨fun a c registered => ?_, fun c conn at_ open_ => ?_, fun c conn at_ gone => ?_⟩, fun p push called => ?_,
    fun c conn id p at_ waits => ?_, closed.distinct⟩
  · rw [connections', PyDict.get_set] at registered
    split at registered
    · next same =>
      cases registered
      rw [conns', ← length_closing s agentUuid]
      exact ⟨_, Numbered.getElem?_concat_last, same, rfl⟩
    · obtain ⟨conn, at_, rest⟩ := closed.registry.registered a c registered
      exact ⟨conn, Numbered.getElem?_concat_of at_, rest⟩
  · rw [connections', PyDict.get_set]
    rcases Numbered.getElem?_concat.mp at_ with old | ⟨rfl, rfl⟩
    · have registered := closed.registry.current c conn old open_
      split
      · next same =>
        -- the open connections of this agent have just been closed
        rw [conns] at old
        obtain ⟨before, there, is⟩ := Option.map_eq_some_iff.mp old
        rw [← same] at registered
        rw [if_pos registered] at is
        cases is
        cases open_
      · exact registered
    · rw [length_closing]
      exact if_pos rfl
  · rcases Numbered.getElem?_concat.mp at_ with old | ⟨-, rfl⟩
    · exact closed.registry.shut c conn old gone
    · cases gone
  · obtain ⟨conn, at_, good⟩ := closed.served p push called
    exact ⟨conn, Numbered.getElem?_concat_of at_, good⟩
  · rcases Numbered.getElem?_concat.mp at_ with old | ⟨-, rfl⟩
    · exact closed.entries c conn id p old waits
    · cases waits

/-! ### Every step -/

/-- What a step does, and what it has found. -/
inductive Changes (l : Label) (s : State) : State → Prop where
  | accepted (agentUuid : String) : Changes l s (authenticates s agentUuid)
  | pushed {agentUuid method : String} {params : Json} {t : State}
      (pushed : pushCommand s agentUuid method params = some t) : Changes l s t
  | wrote {p : Nat} {push : Push} (called : s.pushes[p]? = some push) (waits : push.waits = true) :
      Changes l s { s with
        conns := s.conns.modify push.conn (Conn.write push.request)
        pushes := s.pushes.set p { push with phase := .draining } }
  | advanced {p : Nat} {push push' : Push} (called : s.pushes[p]? = some push) (moved : Push.Advances push push') :
      Changes l s { s with pushes := s.pushes.set p push' }
  | finished {p : Nat} {push : Push} {outcome : Outcome} (called : s.pushes[p]? = some push)
      (answered : ∀ reply, outcome = .returned reply → ∃ n, push.future = .result n reply) :
      Changes l s (finish s p push outcome)
  | received {c : Nat} {conn : Conn} {frame : Frame} {rest : List Frame} (found : s.conns[c]? = some conn)
      (empty : conn.hand = none) (arrived : conn.toGateway = frame :: rest) :
      Changes l s { s with conns := s.conns.set c { conn with toGateway := rest, hand := some frame } }
  | handled {c : Nat} {conn : Conn} {frame : Frame} (found : s.conns[c]? = some conn) (held : conn.hand = some frame) :
      Changes l s { s with
        conns := s.conns.set c { conn with hand := none, handled := conn.handled ++ [frame] }
        pushes := resolved s conn frame }
  | cleaned {c : Nat} {conn : Conn} (found : s.conns[c]? = some conn) : Changes l s (cleanup s c conn)
  | closed (c : Nat) : Changes l s { s with conns := s.conns.modify c Conn.close }
  | took {c : Nat} {conn : Conn} {request : Request} {rest : List Request} (found : s.conns[c]? = some conn)
      (written : conn.toAgent = request :: rest) :
      Changes l s { s with
        conns := s.conns.set c { conn with toAgent := rest, tasks := conn.tasks ++ [⟨request, none, false⟩] } }
  | ran {c t : Nat} {conn : Conn} {task : Task} (capd : CapdAnswer) (found : s.conns[c]? = some conn)
      (tasked : conn.tasks[t]? = some task) (fresh : task.capd = none) (known : task.request.method ∈ commands) :
      Changes l s { s with
        conns := s.conns.set c { conn with tasks := conn.tasks.set t { task with capd := some capd } }
        executions := s.executions ++ [⟨c, task.request, capd⟩] }
  | replied {c t : Nat} {conn : Conn} {task : Task} {reply : Reply} (found : s.conns[c]? = some conn)
      (tasked : conn.tasks[t]? = some task) (answer : task.reply = some reply) :
      Changes l s { s with
        conns := s.conns.set c
          (({ conn with tasks := conn.tasks.set t { task with replied := true } }).arrive (.res reply)) }
  | sent (c : Nat) (frame : Frame) (label : l = .sends c frame) :
      Changes l s { s with conns := s.conns.modify c (Conn.arrive frame) }

variable {fits : Request → Bool} {l : Label}

theorem phase_of_draining {push : Push} (draining : push.draining = true) : push.phase = .draining := by
  unfold Push.draining at draining
  split at draining
  · assumption
  · cases draining

theorem changes_writes {p : Nat} (stepped : writes fits s p = some t) : Changes l s t := by
  simp only [writes, Option.bind_eq_bind, Option.bind_eq_some_iff, Option.pure_def, Option.guard_eq_some',
    Bool.and_eq_true] at stepped
  obtain ⟨push, called, -, ⟨waits, -⟩, rest⟩ := stepped
  split_ifs at rest
  · cases rest
    exact .wrote called waits
  · cases rest
    exact .finished called fun _ is => by cases is

theorem changes_drains {p : Nat} {written : Bool} (stepped : drains s p written = some t) : Changes l s t := by
  simp only [drains, Option.bind_eq_bind, Option.bind_eq_some_iff, Option.pure_def, Option.guard_eq_some'] at stepped
  obtain ⟨push, called, -, draining, rest⟩ := stepped
  have phase := phase_of_draining draining
  split_ifs at rest
  · cases rest
    refine .advanced called ⟨rfl, rfl, rfl, rfl, .inl rfl, ?_, rfl, rfl, rfl⟩
    rw [Push.finished, phase]
  · cases rest
    exact .finished called fun _ is => by cases is

theorem changes_expires {p : Nat} (stepped : expires s p = some t) : Changes l s t := by
  simp only [expires, Option.bind_eq_bind, Option.bind_eq_some_iff] at stepped
  obtain ⟨push, called, rest⟩ := stepped
  split at rest
  · next phase =>
    cases rest
    obtain ⟨agentUuid, conn, id, since, same⟩ := cancel_fields push
    refine .advanced called ⟨agentUuid, conn, id, since, ?_, ?_, ?_, cancel_request push, ?_⟩
    · rcases future_cancel push with ⟨n, reply, was, is⟩ | cancelled
      · exact .inl (is.trans was.symm)
      · exact .inr cancelled
    · rw [Push.finished, phase]
    · simp only [Push.finished, same, phase]
    · simp only [Push.waits, same, phase]
  · cases rest

theorem changes_resumes {p : Nat} (stepped : resumes s p = some t) : Changes l s t := by
  simp only [resumes, Option.bind_eq_bind, Option.bind_eq_some_iff] at stepped
  obtain ⟨push, called, rest⟩ := stepped
  split at rest
  · next future =>
    cases rest
    refine .finished called fun reply is => ?_
    split at is
    · cases is
    · cases is
      exact ⟨_, future⟩
  · cases rest
    refine .finished called fun reply is => ?_
    split at is <;> cases is
  · cases rest

theorem changes_receives {c : Nat} (stepped : receives s c = some t) : Changes l s t := by
  simp only [receives, Option.bind_eq_bind, Option.bind_eq_some_iff, Option.guard_eq_some', Bool.and_eq_true,
    Option.isNone_iff_eq_none] at stepped
  obtain ⟨conn, found, -, ⟨-, empty⟩, rest⟩ := stepped
  split at rest
  · cases rest
  · next arrived =>
    cases rest
    exact .received found empty arrived

theorem changes_handles {c : Nat} (stepped : handles s c = some t) : Changes l s t := by
  simp only [handles, Option.bind_eq_bind, Option.bind_eq_some_iff, Option.pure_def] at stepped
  obtain ⟨conn, found, -, -, frame, held, rest⟩ := stepped
  split_ifs at rest
  · cases rest
    exact .cleaned found
  · cases rest
    exact .handled found held

theorem changes_agentReads {c : Nat} (stepped : agentReads s c = some t) : Changes l s t := by
  simp only [agentReads, Option.bind_eq_bind, Option.bind_eq_some_iff] at stepped
  obtain ⟨conn, found, rest⟩ := stepped
  split at rest
  · cases rest
  · next written =>
    cases rest
    exact .took found written

theorem changes_calls {c i : Nat} {capd : CapdAnswer} (stepped : calls s c i capd = some t) : Changes l s t := by
  simp only [calls, Option.bind_eq_bind, Option.bind_eq_some_iff, Option.pure_def, Option.guard_eq_some',
    Bool.and_eq_true, Option.isNone_iff_eq_none, decide_eq_true_eq, Option.some.injEq] at stepped
  obtain ⟨conn, found, task, tasked, -, ⟨fresh, known⟩, rfl⟩ := stepped
  exact .ran capd found tasked fresh known

theorem changes_replies {c i : Nat} (stepped : replies s c i = some t) : Changes l s t := by
  simp only [replies, Option.bind_eq_bind, Option.bind_eq_some_iff, Option.pure_def, Option.some.injEq] at stepped
  obtain ⟨conn, found, task, tasked, -, -, reply, answer, rfl⟩ := stepped
  exact .replied found tasked answer

theorem changes_of_step (stepped : step fits s l = some t) : Changes l s t := by
  cases l with
  | authenticates agentUuid =>
    cases stepped
    exact .accepted agentUuid
  | pushes agentUuid method params => exact .pushed stepped
  | writes p => exact changes_writes stepped
  | drains p written => exact changes_drains stepped
  | expires p => exact changes_expires stepped
  | resumes p => exact changes_resumes stepped
  | receives c => exact changes_receives stepped
  | handles c => exact changes_handles stepped
  | ends c =>
    obtain ⟨conn, found, rest⟩ := Option.bind_eq_some_iff.mp stepped
    obtain ⟨-, -, is⟩ := Option.bind_eq_some_iff.mp rest
    cases is
    exact .cleaned found
  | disconnects agentUuid =>
    obtain ⟨c, -, is⟩ := Option.bind_eq_some_iff.mp stepped
    cases is
    exact .closed c
  | drops c =>
    cases stepped
    exact .closed c
  | agentReads c => exact changes_agentReads stepped
  | calls c i capd => exact changes_calls stepped
  | replies c i => exact changes_replies stepped
  | sends c frame =>
    cases stepped
    exact .sent c frame rfl

theorem going_of_waits {push : Push} (waits : push.waits = true) : push.finished = false := by
  unfold Push.waits at waits
  unfold Push.finished
  split at waits
  · next phase => rw [phase]
  · cases waits

theorem invariant_step (inv : Invariant s) (stepped : step fits s l = some t) : Invariant t := by
  cases changes_of_step stepped with
  | accepted agentUuid => exact invariant_accept inv agentUuid
  | pushed pushed => exact invariant_push inv pushed
  | wrote called waits =>
    refine inv.advances (Numbered.getElem?_modify s.conns _ _) rfl called rfl (fun c conn => ?_)
      ⟨rfl, rfl, rfl, rfl, .inl rfl, going_of_waits waits, rfl, rfl, rfl⟩
    split
    · exact alike_write _ conn
    · exact .refl conn
  | advanced called moved =>
    exact inv.advances (f := fun _ conn => conn) (Numbered.getElem?_same s.conns) rfl called rfl (fun _ => .refl) moved
  | finished called answered => exact invariant_finish inv called answered
  | received found _ _ =>
    refine inv.puts found ?_ s.executions
    exact ⟨rfl, rfl, rfl, rfl, rfl, id⟩
  | handled found _ => exact invariant_handle inv found _
  | cleaned found => exact invariant_cleanup inv found
  | closed c => exact inv.moves alike_close
  | took found _ =>
    refine inv.puts found ?_ s.executions
    exact ⟨rfl, rfl, rfl, rfl, rfl, id⟩
  | ran capd found _ _ _ =>
    refine inv.puts found ?_ _
    exact ⟨rfl, rfl, rfl, rfl, rfl, id⟩
  | replied found _ _ =>
    refine inv.puts found ?_ s.executions
    exact alike_reply _ _ _
  | sent c frame _ => exact inv.moves (alike_arrive frame)

/-! ### Against any agent -/

/-- What a gateway owes to its operators. -/
structure Accounted (s : State) : Prop where
  /-- A call returns what the connection of its agent has brought under its id since it began. -/
  answered : ∀ (p : Nat) push reply, s.pushes[p]? = some push → push.phase = .done (.returned reply) →
    ∃ conn n, s.conns[push.conn]? = some conn ∧ conn.agentUuid = push.agentUuid ∧
      push.since ≤ n ∧ conn.handled[n]? = some (.res reply) ∧ key reply.id = some push.id
  /-- No frame answers two calls. -/
  once : ∀ (p q : Nat) push other n reply reply', s.pushes[p]? = some push → s.pushes[q]? = some other →
    push.future = .result n reply → other.future = .result n reply' → push.conn = other.conn → p = q
  /-- No call waits on a connection that nobody serves. -/
  served : ∀ (p : Nat) push, s.pushes[p]? = some push → push.finished = false → push.future = .pending →
    ∃ conn, s.conns[push.conn]? = some conn ∧ conn.cleaned = false
  /-- A connection that is open is the one that its agent's commands go to. -/
  current : ∀ (c : Nat) conn, s.conns[c]? = some conn → conn.closed = false →
    s.connections.get conn.agentUuid = some c
  /-- A connection that is registered is served, and is the agent's own. -/
  registered : ∀ a c, s.connections.get a = some c →
    ∃ conn, s.conns[c]? = some conn ∧ conn.agentUuid = a ∧ conn.cleaned = false

theorem accounted_of_invariant (inv : Invariant s) : Accounted s where
  answered p push reply at_ done := by
    obtain ⟨conn, found, good⟩ := inv.served p push at_
    obtain ⟨n, future⟩ := good.returned reply done
    exact ⟨conn, n, found, good.agent, good.answered n reply future⟩
  once p q push other n reply reply' at_ also future future' same := by
    obtain ⟨conn, found, good⟩ := inv.served p push at_
    obtain ⟨conn', found', good'⟩ := inv.served q other also
    cases found.symm.trans (same ▸ found')
    obtain ⟨-, frame, named⟩ := good.answered n reply future
    obtain ⟨-, frame', named'⟩ := good'.answered n reply' future'
    cases frame.symm.trans frame'
    exact inv.distinct p q push other at_ also same (Option.some.inj (named.symm.trans named'))
  served p push at_ going waits := by
    obtain ⟨conn, found, good⟩ := inv.served p push at_
    refine ⟨conn, found, ?_⟩
    rcases good.served going with ⟨n, reply, future⟩ | cancelled | live
    · cases waits.symm.trans future
    · cases waits.symm.trans cancelled
    · exact live
  current := inv.registry.current
  registered := inv.registry.registered

/-- Whatever agents send, and in whatever order calls, frames, timers and handlers come. -/
theorem accounted (fits : Request → Bool) (labels : List Label) : Always (step fits) Accounted State.init labels :=
  have met : Meets (step fits) (fun _ _ => True) State.init labels := meets_of_labels (fun _ _ _ => trivial) State.init
  always_of_meets Invariant (fun _ _ _ inv _ stepped => invariant_step inv stepped)
    (fun _ => accounted_of_invariant) invariant_init met

end Marlinspike.Gateway.Pushes
