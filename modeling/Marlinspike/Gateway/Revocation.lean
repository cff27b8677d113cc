import Mathlib.Logic.Function.Basic
import Mathlib.Tactic.SplitIfs
import Marlinspike.Transition

/-!
The agent rows of the fleet database under concurrent transactions: what the gateway
does when an agent authenticates, sends a heartbeat, drops off or enrolls, and what the
web app does when an operator rotates, revokes or deletes an agent.

Each of these functions reads its rows first and writes the columns it changed at
commit; other transactions commit in between. Only `enroll_agent` locks a row, its
token's. A revocation therefore lasts exactly as long as every later commit on the
agent leaves its status column alone (`revocation_iff_keeps_status`), and a rotation
token that is redeemed after it never does.
-/
namespace Marlinspike.Gateway.Revocation
open Marlinspike.Transition

/-- The values of `agents.status`. -/
inductive Status where
  | pending
  | enrolled
  | online
  | offline
  | revoked
deriving DecidableEq, Repr

/-- A row of `agents`. `agent_uuid` is unique and never changes; the id names the row. -/
structure Agent where
  projectId : Nat
  name : String
  status : Status
  agentVersion : Option String
  osInfo : Option String
  lastSeenAt : Option Nat
  revokedAt : Option Nat
deriving DecidableEq, Repr

/-- A row of `agent_enrollment_tokens`, under its `token_hash`. -/
structure Token where
  projectId : Nat
  agentId : Option Nat
  expiresAt : Option Nat
  usedAt : Option Nat
  isStanding : Bool
  revokedAt : Option Nat
deriving DecidableEq, Repr

/-- A row of `agent_credentials`, under its `key_hash`. -/
structure Credential where
  agentId : Nat
  revokedAt : Option Nat
  certFingerprint : Option String
deriving DecidableEq, Repr

/-- One call, with the random values that it draws. -/
inductive Call where
  | authenticateAgent (agentId : Nat) (keyHash : String) (peerCertFingerprint : Option String)
  | recordHeartbeat (agentId : Nat)
  | markOffline (agentId : Nat)
  /-- `keyHash` and `agentName` are drawn for the new credential and a nameless agent;
      the fingerprint is the one of the certificate that was signed, if any. -/
  | enrollAgent (tokenHash : String) (name agentVersion osInfo : Option String) (keyHash agentName : String)
      (certFingerprint : Option String)
  | rotateAgentCredential (agentId : Nat) (tokenHash : String)
  | revokeAgent (agentId : Nat)
  | deleteAgent (agentId : Nat)
deriving DecidableEq, Repr

/-- A call between its reads and its commit. -/
structure Transaction where
  call : Call
  /-- The row the call is about; none if the call enrolls a new agent. -/
  agentId : Option Nat
  /-- `now`, as the call took it. -/
  now : Nat
  /-- The agent as read. -/
  read : Agent
  /-- The agent with the attributes that the call assigned. -/
  changed : Agent
  /-- The credentials as read, of which an `UPDATE` picks its rows. -/
  credentials : String → Option Credential

/-- A call that returned success for an existing agent, and whether the agent was
    already revoked when the call began. -/
structure Grant where
  agentId : Nat
  keyHash : String
  afterRevocation : Bool
deriving DecidableEq, Repr

structure Database where
  agents : Nat → Option Agent
  tokens : String → Option Token
  credentials : String → Option Credential
  transactions : List Transaction
  grants : List Grant
  nextId : Nat
  now : Nat

def Database.init : Database := ⟨fun _ => none, fun _ => none, fun _ => none, [], [], 0, 0⟩

/-! ### The reads -/

/-- `ENROLLMENT_TOKEN_TTL_MINUTES`, in the seconds of the clock. -/
def tokenTtl : Nat := 60 * 60

def Call.locks : Call → Option String
  | .enrollAgent tokenHash .. => some tokenHash
  | _ => none

/-- `with_for_update()`: the token row is held by an enrollment that has not committed. -/
def locked (s : Database) (tokenHash : String) : Bool :=
  s.transactions.any fun other => other.call.locks == some tokenHash

/-- Some token row of this kind is held. -/
def lockedToken (s : Database) (kind : Token → Bool) : Bool :=
  s.transactions.any fun other => other.call.locks.any fun tokenHash => (s.tokens tokenHash).any kind

/-- The texts of `GatewayAuthError` that redeeming a token can raise. -/
def redeemable (now : Nat) (token : Token) : Except String Unit :=
  if token.isStanding then
    if token.revokedAt.isSome then .error "enrollment token revoked" else .ok ()
  else if token.usedAt.isSome then .error "enrollment token already used"
  else if token.expiresAt.any fun expiry => expiry < now then .error "enrollment token expired"
  else .ok ()

/-- The agent that a token without `agent_id` enrolls. -/
def newAgent (now projectId : Nat) (name agentVersion osInfo : Option String) (agentName : String) : Agent :=
  { projectId
    name := String.ofList (((name.filter fun text => text ≠ "").getD agentName).toList.take 200)
    status := .enrolled
    agentVersion, osInfo
    lastSeenAt := some now
    revokedAt := none }

/-- The agent of a rotation token, as redeeming it leaves the object. -/
def reenrolled (now : Nat) (agent : Agent) (name agentVersion osInfo : Option String) : Agent :=
  { agent with
    name := ((name.filter fun text => text ≠ "").map fun text => String.ofList (text.toList.take 200)).getD agent.name
    agentVersion, osInfo
    lastSeenAt := some now
    status := if agent.status = .revoked then .enrolled else agent.status }

/-- Everything up to the commit: an error text (or a silent return), or the open transaction. -/
def reads (s : Database) (call : Call) : Except String Transaction :=
  match call with
  | .authenticateAgent agentId keyHash peerCertFingerprint =>
    match s.agents agentId, s.credentials keyHash with
    | some agent, some cred =>
      if agent.status = .revoked then .error "unauthorized"
      else if cred.agentId ≠ agentId || cred.revokedAt.isSome then .error "unauthorized"
      else if cred.certFingerprint.any fun issued => issued ≠ "" && some issued ≠ peerCertFingerprint then
        .error "unauthorized"
      else .ok ⟨call, some agentId, s.now, agent, { agent with status := .online, lastSeenAt := some s.now },
        s.credentials⟩
    | _, _ => .error "unauthorized"
  | .recordHeartbeat agentId =>
    match s.agents agentId with
    | some agent =>
      if agent.status = .revoked then .error ""
      else .ok ⟨call, some agentId, s.now, agent, { agent with status := .online, lastSeenAt := some s.now },
        s.credentials⟩
    | none => .error ""
  | .markOffline agentId =>
    match s.agents agentId with
    | some agent =>
      if agent.status = .revoked then .error ""
      else .ok ⟨call, some agentId, s.now, agent, { agent with status := .offline }, s.credentials⟩
    | none => .error ""
  | .enrollAgent tokenHash name agentVersion osInfo _ agentName _ =>
    match s.tokens tokenHash with
    | none => .error "invalid enrollment token"
    | some token => do
      redeemable s.now token
      match token.agentId with
      | none =>
        let agent := newAgent s.now token.projectId name agentVersion osInfo agentName
        .ok ⟨call, none, s.now, agent, agent, s.credentials⟩
      | some agentId =>
        match s.agents agentId with
        | none => .error "agent no longer exists"
        | some agent =>
          .ok ⟨call, some agentId, s.now, agent, reenrolled s.now agent name agentVersion osInfo, s.credentials⟩
  | .rotateAgentCredential agentId _ =>
    match s.agents agentId with
    | none => .error "Agent not found"
    | some agent =>
      if agent.status = .revoked then .error "Agent is revoked — cannot rotate its credential"
      else .ok ⟨call, some agentId, s.now, agent, agent, s.credentials⟩
  | .revokeAgent agentId =>
    match s.agents agentId with
    | none => .error "Agent not found"
    | some agent =>
      .ok ⟨call, some agentId, s.now, agent, { agent with status := .revoked, revokedAt := some s.now }, s.credentials⟩
  | .deleteAgent agentId =>
    match s.agents agentId with
    | none => .error "Agent not found"
    | some agent =>
      if agent.status ≠ .revoked then .error "Only a revoked agent can be deleted — revoke it first"
      else .ok ⟨call, some agentId, s.now, agent, agent, s.credentials⟩

/-! ### The writes -/

/-- An attribute assigned its old value is no change, and its column is not written. -/
def column {α : Type} [DecidableEq α] (read changed current : α) : α := if changed = read then current else changed

/-- The `UPDATE` of an agent's changed columns. -/
def Transaction.update (txn : Transaction) (current : Agent) : Agent :=
  { projectId := current.projectId
    name := column txn.read.name txn.changed.name current.name
    status := column txn.read.status txn.changed.status current.status
    agentVersion := column txn.read.agentVersion txn.changed.agentVersion current.agentVersion
    osInfo := column txn.read.osInfo txn.changed.osInfo current.osInfo
    lastSeenAt := column txn.read.lastSeenAt txn.changed.lastSeenAt current.lastSeenAt
    revokedAt := column txn.read.revokedAt txn.changed.revokedAt current.revokedAt }

def Transaction.updateAgent (txn : Transaction) (agents : Nat → Option Agent) (agentId : Nat) : Nat → Option Agent :=
  Function.update agents agentId ((agents agentId).map txn.update)

/-- `AgentCredential.query.filter_by(agent_id=agent.id, revoked_at=None).update(…)`. -/
def Transaction.revokeCredentials (txn : Transaction) (agentId : Nat) (current : String → Option Credential) :
    String → Option Credential := fun keyHash =>
  if (txn.credentials keyHash).any fun cred => cred.agentId = agentId && cred.revokedAt.isNone then
    (current keyHash).map fun cred => { cred with revokedAt := some txn.now }
  else current keyHash

/-- `used_at` is set on a one-time token only. -/
def useToken (now : Nat) (token : Token) : Token := if token.isStanding then token else { token with usedAt := some now }

/-- The commit of a transaction on the row `agentId`, while that row exists. -/
def writes (s : Database) (txn : Transaction) (agentId : Nat) : Database :=
  match txn.call with
  | .authenticateAgent _ keyHash _ =>
    { s with
      agents := txn.updateAgent s.agents agentId
      grants := s.grants ++ [⟨agentId, keyHash, txn.read.revokedAt.isSome⟩] }
  | .recordHeartbeat _ | .markOffline _ => { s with agents := txn.updateAgent s.agents agentId }
  | .enrollAgent tokenHash _ _ _ keyHash _ certFingerprint =>
    { s with
      agents := txn.updateAgent s.agents agentId
      tokens := Function.update s.tokens tokenHash ((s.tokens tokenHash).map (useToken txn.now))
      credentials := Function.update s.credentials keyHash (some ⟨agentId, none, certFingerprint⟩)
      grants := s.grants ++ [⟨agentId, keyHash, txn.read.revokedAt.isSome⟩] }
  | .rotateAgentCredential _ tokenHash =>
    { s with
      tokens := Function.update s.tokens tokenHash
        (some ⟨txn.read.projectId, some agentId, some (txn.now + tokenTtl), none, false, none⟩)
      credentials := txn.revokeCredentials agentId s.credentials }
  | .revokeAgent _ =>
    { s with
      agents := txn.updateAgent s.agents agentId
      credentials := txn.revokeCredentials agentId s.credentials }
  | .deleteAgent _ =>
    { s with
      agents := Function.update s.agents agentId none
      tokens := fun tokenHash => (s.tokens tokenHash).filter fun token => token.agentId ≠ some agentId
      credentials := fun keyHash => (s.credentials keyHash).filter fun cred => cred.agentId ≠ agentId }

/-- The commit of an enrollment that adds its agent. -/
def inserts (s : Database) (txn : Transaction) : Database :=
  match txn.call with
  | .enrollAgent tokenHash _ _ _ keyHash _ certFingerprint =>
    { s with
      agents := Function.update s.agents s.nextId (some txn.changed)
      tokens := Function.update s.tokens tokenHash ((s.tokens tokenHash).map (useToken txn.now))
      credentials := Function.update s.credentials keyHash (some ⟨s.nextId, none, certFingerprint⟩)
      nextId := s.nextId + 1 }
  | _ => s

/-- A transaction whose agent is gone writes nothing: its `UPDATE` meets no row, its
    `INSERT` no parent. -/
def commits (s : Database) (txn : Transaction) : Database :=
  match txn.agentId with
  | none => inserts s txn
  | some agentId => if (s.agents agentId).isSome then writes s txn agentId else s

/-! ### Steps -/

inductive Label where
  | begin (call : Call)
  | commit (k : Nat)
  /-- A rollback, for whatever reason. -/
  | abort (k : Nat)
  /-- `_mint_standing_token`. -/
  | mintStandingToken (projectId : Nat) (tokenHash : String)
  | tick
deriving DecidableEq, Repr

/-- The random values of a call are new, and the token row it locks is free. -/
def startable (s : Database) : Call → Bool
  | .enrollAgent tokenHash _ _ _ keyHash _ _ => (s.credentials keyHash).isNone && !locked s tokenHash
  | .rotateAgentCredential _ tokenHash => (s.tokens tokenHash).isNone
  | _ => true

/-- A deletion waits for the token rows that it takes with the agent. -/
def committable (s : Database) : Call → Bool
  | .deleteAgent agentId => !lockedToken s fun token => token.agentId = some agentId
  | _ => true

/-- The standing tokens of a project that are live. -/
def liveStanding (projectId : Nat) (token : Token) : Bool :=
  token.projectId = projectId && token.isStanding && token.revokedAt.isNone

def step (s : Database) : Label → Option Database
  | .begin call => do
    guard (startable s call)
    match reads s call with
    | .error _ => return s
    | .ok txn => return { s with transactions := s.transactions ++ [txn] }
  | .commit k => do
    let txn ← s.transactions[k]?
    guard (committable s txn.call)
    return { commits s txn with transactions := s.transactions.eraseIdx k }
  | .abort k => do
    guard (k < s.transactions.length)
    return { s with transactions := s.transactions.eraseIdx k }
  | .mintStandingToken projectId tokenHash => do
    guard (s.tokens tokenHash = none && !lockedToken s (liveStanding projectId))
    return { s with
      tokens := Function.update
        (fun other => (s.tokens other).map fun token =>
          if liveStanding projectId token then { token with revokedAt := some s.now } else token)
        tokenHash (some ⟨projectId, none, none, none, true, none⟩) }
  | .tick => some { s with now := s.now + 1 }

/-! ### What has to hold of a revocation -/

/-- An agent whose revocation has committed has the status `revoked`, and no call that
    began after it has let the agent in or given it a credential. -/
def RevocationStands (s : Database) : Prop :=
  (∀ agentId agent, s.agents agentId = some agent → agent.revokedAt.isSome = true → agent.status = .revoked) ∧
    ∀ grant ∈ s.grants, grant.afterRevocation = false

/-- The call assigns the status that it read, or assigns none. -/
def KeepsReadStatus (txn : Transaction) : Prop :=
  match txn.call with
  | .authenticateAgent .. | .recordHeartbeat _ => txn.read.status = .online
  | .markOffline _ => txn.read.status = .offline
  | .enrollAgent .. => txn.read.status ≠ .revoked
  | .rotateAgentCredential .. | .revokeAgent _ | .deleteAgent _ => True

/-- What commits on an agent whose revocation has committed keeps the status it read. -/
def KeepsStatus (s : Database) : Label → Prop
  | .commit k => ∀ txn, s.transactions[k]? = some txn → ∀ agentId agent, txn.agentId = some agentId →
      s.agents agentId = some agent → agent.revokedAt.isSome = true → KeepsReadStatus txn
  | _ => True

/-! ### What a call reads and assigns -/

/-- The status that a call leaves on the row object it has read. -/
private def assigned : Call → Status → Status
  | .authenticateAgent .., _ | .recordHeartbeat _, _ => .online
  | .markOffline _, _ => .offline
  | .enrollAgent .., status => if status = .revoked then .enrolled else status
  | .revokeAgent _, _ => .revoked
  | .rotateAgentCredential .., status | .deleteAgent _, status => status

private def revokes : Call → Bool
  | .revokeAgent _ => true
  | _ => false

/-- The calls that give up on a revoked agent. -/
private def needsAlive : Call → Bool
  | .authenticateAgent .. | .recordHeartbeat _ | .markOffline _ => true
  | _ => false

private structure Assigns (txn : Transaction) : Prop where
  status : txn.changed.status = assigned txn.call txn.read.status
  revokedAt : txn.changed.revokedAt = if revokes txn.call then some txn.now else txn.read.revokedAt
  alive : needsAlive txn.call = true → txn.read.status ≠ .revoked

/-- A call that is not refused has read its agent's row, or makes a new one. -/
private theorem reads_ok {s : Database} {call : Call} {txn : Transaction} (opened : reads s call = .ok txn) :
    (∃ agentId agent, txn.agentId = some agentId ∧ s.agents agentId = some agent ∧ txn.read = agent ∧ Assigns txn) ∨
      (txn.agentId = none ∧ txn.changed.status = .enrolled ∧ txn.changed.revokedAt = none) := by
  cases call with
  | authenticateAgent agentId keyHash peerCertFingerprint =>
    simp only [reads] at opened
    split at opened
    · split_ifs at opened with dead other mismatch
      obtain rfl := Except.ok.inj opened
      exact .inl ⟨agentId, _, rfl, ‹_›, rfl, rfl, rfl, fun _ => dead⟩
    · cases opened
  | recordHeartbeat agentId =>
    simp only [reads] at opened
    split at opened
    · split_ifs at opened with dead
      obtain rfl := Except.ok.inj opened
      exact .inl ⟨agentId, _, rfl, ‹_›, rfl, rfl, rfl, fun _ => dead⟩
    · cases opened
  | markOffline agentId =>
    simp only [reads] at opened
    split at opened
    · split_ifs at opened with dead
      obtain rfl := Except.ok.inj opened
      exact .inl ⟨agentId, _, rfl, ‹_›, rfl, rfl, rfl, fun _ => dead⟩
    · cases opened
  | enrollAgent tokenHash name agentVersion osInfo keyHash agentName certFingerprint =>
    simp only [reads] at opened
    split at opened
    · cases opened
    · rename_i token present
      cases redeemed : redeemable s.now token with
      | error text => simp [redeemed, bind, Except.bind] at opened
      | ok =>
        simp only [redeemed, bind, Except.bind] at opened
        split at opened
        · obtain rfl := Except.ok.inj opened
          exact .inr ⟨rfl, rfl, rfl⟩
        · split at opened
          · cases opened
          · obtain rfl := Except.ok.inj opened
            exact .inl ⟨_, _, rfl, ‹_›, rfl, rfl, rfl, by simp [needsAlive]⟩
  | rotateAgentCredential agentId tokenHash =>
    simp only [reads] at opened
    split at opened
    · cases opened
    · split_ifs at opened with dead
      obtain rfl := Except.ok.inj opened
      exact .inl ⟨agentId, _, rfl, ‹_›, rfl, rfl, rfl, by simp [needsAlive]⟩
  | revokeAgent agentId =>
    simp only [reads] at opened
    split at opened
    · cases opened
    · obtain rfl := Except.ok.inj opened
      exact .inl ⟨agentId, _, rfl, ‹_›, rfl, rfl, rfl, by simp [needsAlive]⟩
  | deleteAgent agentId =>
    simp only [reads] at opened
    split at opened
    · cases opened
    · split_ifs at opened with live
      obtain rfl := Except.ok.inj opened
      exact .inl ⟨agentId, _, rfl, ‹_›, rfl, rfl, rfl, by simp [needsAlive]⟩

/-- The status column is written exactly by a call that does not keep what it read,
    a revocation apart. -/
private theorem keepsReadStatus_iff {txn : Transaction} (assigns : Assigns txn) :
    KeepsReadStatus txn ↔ txn.changed.status = txn.read.status ∨ txn.changed.status = .revoked := by
  obtain ⟨status, -, alive⟩ := assigns
  rw [status]
  unfold KeepsReadStatus
  cases call : txn.call <;> simp only [call, needsAlive, assigned] at * <;> grind

/-! ### The invariant -/

/-- What holds of a row, and of a row as a transaction read it: the status is
    `revoked` exactly if a revocation has been committed on it. -/
private def Marked (agent : Agent) : Prop := agent.revokedAt.isSome = true ↔ agent.status = .revoked

private structure Pending (s : Database) (txn : Transaction) (agentId : Nat) : Prop where
  known : agentId < s.nextId
  assigns : Assigns txn
  marked : Marked txn.read
  lasting : txn.read.revokedAt.isSome = true → ∀ agent, s.agents agentId = some agent → agent.revokedAt.isSome = true

private structure Invariant (s : Database) : Prop where
  known : ∀ agentId agent, s.agents agentId = some agent → agentId < s.nextId
  revoked : ∀ agentId agent, s.agents agentId = some agent → agent.status = .revoked → agent.revokedAt.isSome = true
  pending : ∀ txn ∈ s.transactions, ∀ agentId, txn.agentId = some agentId → Pending s txn agentId
  fresh : ∀ txn ∈ s.transactions, txn.agentId = none → txn.changed.status = .enrolled ∧ txn.changed.revokedAt = none

private theorem assigned_of_revokes {call : Call} (final : revokes call = true) (status : Status) :
    assigned call status = .revoked := by
  cases call with
  | revokeAgent agentId => rfl
  | _ => cases final

/-- Only a revocation changes a status to `revoked`. -/
private theorem assigned_eq_revoked {call : Call} {status : Status} (other : revokes call = false)
    (final : assigned call status = .revoked) : assigned call status = status := by
  cases call with
  | enrollAgent =>
    simp only [assigned] at final ⊢
    split_ifs at final ⊢
    rfl
  | _ => simp_all [assigned, revokes]

private theorem column_isSome {α : Type} [DecidableEq α] {read changed current : Option α}
    (present : current.isSome = true) (assigned : changed.isSome = true ∨ changed = read) :
    (column read changed current).isSome = true := by
  unfold column
  split_ifs with same
  · exact present
  · exact assigned.resolve_right same

/-- No commit takes a revocation's mark away. -/
private theorem update_lasting {txn : Transaction} (assigns : Assigns txn) {agent : Agent}
    (present : agent.revokedAt.isSome = true) : (txn.update agent).revokedAt.isSome = true := by
  refine column_isSome present ?_
  rw [assigns.revokedAt]
  cases revokes txn.call <;> simp

private theorem update_revokedAt {txn : Transaction} (assigns : Assigns txn) (other : revokes txn.call = false)
    (agent : Agent) : (txn.update agent).revokedAt = agent.revokedAt := by
  simp [Transaction.update, column, assigns.revokedAt, other]

/-- A row that a commit leaves `revoked` is marked. -/
private theorem update_revoked {s : Database} {txn : Transaction} {agentId : Nat} {agent : Agent}
    (inv : Invariant s) (pending : Pending s txn agentId) (found : s.agents agentId = some agent)
    (final : (txn.update agent).status = .revoked) : (txn.update agent).revokedAt.isSome = true := by
  obtain ⟨-, assigns, marked, lasting⟩ := pending
  cases call : revokes txn.call with
  | true =>
    -- Where the column stays as it is, the transaction has read a mark, which is there still.
    simp only [Transaction.update, column, assigns.revokedAt, call, if_true]
    split_ifs with same
    · exact lasting (by simp [← same]) agent found
    · rfl
  | false =>
    rw [update_revokedAt assigns call]
    simp only [Transaction.update, column] at final
    split_ifs at final with same
    · exact inv.revoked agentId agent found final
    · exact absurd (assigns.status.trans (assigned_eq_revoked call (assigns.status ▸ final))) same

/-- A marked row stays `revoked` exactly if the commit keeps the status it read. -/
private theorem update_stands {s : Database} {txn : Transaction} {agentId : Nat} {agent : Agent}
    (stands : RevocationStands s) (pending : Pending s txn agentId) (found : s.agents agentId = some agent) :
    ((txn.update agent).revokedAt.isSome = true → (txn.update agent).status = .revoked) ↔
      (agent.revokedAt.isSome = true → KeepsReadStatus txn) := by
  obtain ⟨-, assigns, marked, lasting⟩ := pending
  rw [keepsReadStatus_iff assigns]
  constructor
  · intro kept final
    have status := kept (update_lasting assigns final)
    simp only [Transaction.update, column] at status
    split_ifs at status with same
    · exact .inl same
    · exact .inr status
  · intro keeps final
    simp only [Transaction.update, column]
    split_ifs with same
    · cases call : revokes txn.call with
      | true =>
        -- A revocation that assigns what it read has read the mark of an earlier one.
        have status := assigns.status.trans (assigned_of_revokes call txn.read.status)
        exact stands.1 agentId agent found (lasting (marked.mpr (same ▸ status)) agent found)
      | false =>
        rw [update_revokedAt assigns call] at final
        exact stands.1 agentId agent found final
    · cases call : revokes txn.call with
      | true => exact assigns.status.trans (assigned_of_revokes call txn.read.status)
      | false =>
        rw [update_revokedAt assigns call] at final
        exact (keeps final).resolve_left same

/-! ### A commit -/

/-- A commit on a row leaves its status alone, or is the `UPDATE` of the row. It reports
    success only where it read a live agent or overwrites the status. -/
private theorem writes_cases (s : Database) (txn : Transaction) {agentId : Nat} {agent : Agent}
    (found : s.agents agentId = some agent) :
    (KeepsReadStatus txn ∧ (writes s txn agentId).grants = s.grants ∧
        ((writes s txn agentId).agents = s.agents ∨
          (writes s txn agentId).agents = Function.update s.agents agentId none)) ∨
      ((writes s txn agentId).agents = Function.update s.agents agentId (some (txn.update agent)) ∧
        ((writes s txn agentId).grants = s.grants ∨
          (txn.read.status = .revoked → ¬ KeepsReadStatus txn) ∧
            ∃ keyHash, (writes s txn agentId).grants =
              s.grants ++ [⟨agentId, keyHash, txn.read.revokedAt.isSome⟩])) := by
  have updated : txn.updateAgent s.agents agentId = Function.update s.agents agentId (some (txn.update agent)) := by
    simp [Transaction.updateAgent, found]
  unfold writes KeepsReadStatus
  cases txn.call with
  | authenticateAgent agentId keyHash peerCertFingerprint =>
    exact .inr ⟨updated, .inr ⟨fun dead => by simp [dead], keyHash, rfl⟩⟩
  | recordHeartbeat agentId => exact .inr ⟨updated, .inl rfl⟩
  | markOffline agentId => exact .inr ⟨updated, .inl rfl⟩
  | enrollAgent tokenHash name agentVersion osInfo keyHash agentName certFingerprint =>
    exact .inr ⟨updated, .inr ⟨fun dead => by simp [dead], keyHash, rfl⟩⟩
  | rotateAgentCredential agentId tokenHash => exact .inl ⟨trivial, rfl, .inl rfl⟩
  | revokeAgent agentId => exact .inr ⟨updated, .inl rfl⟩
  | deleteAgent agentId => exact .inl ⟨trivial, rfl, .inr rfl⟩

private theorem writes_frame (s : Database) (txn : Transaction) (agentId : Nat) :
    (writes s txn agentId).nextId = s.nextId ∧ (writes s txn agentId).transactions = s.transactions := by
  unfold writes
  cases txn.call <;> exact ⟨rfl, rfl⟩

/-- A change of the rows that keeps marks, and marks every row it leaves `revoked`. -/
private theorem invariant_of_rows {s t : Database} (inv : Invariant s) (ids : t.nextId = s.nextId)
    (rows : ∀ agentId agent, t.agents agentId = some agent → ∃ before, s.agents agentId = some before ∧
      (before.revokedAt.isSome = true → agent.revokedAt.isSome = true) ∧
      (agent.status = .revoked → agent.revokedAt.isSome = true))
    (fewer : ∀ txn ∈ t.transactions, txn ∈ s.transactions) : Invariant t := by
  refine ⟨fun agentId agent found => ?_, fun agentId agent found => ?_, fun txn member agentId about => ?_,
    fun txn member about => inv.fresh txn (fewer txn member) about⟩
  · obtain ⟨before, present, -, -⟩ := rows agentId agent found
    exact ids ▸ inv.known agentId before present
  · obtain ⟨before, -, -, marks⟩ := rows agentId agent found
    exact marks
  · obtain ⟨known, assigns, marked, lasting⟩ := inv.pending txn (fewer txn member) agentId about
    refine ⟨ids ▸ known, assigns, marked, fun final agent found => ?_⟩
    obtain ⟨before, present, keeps, -⟩ := rows agentId agent found
    exact keeps (lasting final before present)

private theorem invariant_writes {s : Database} {txn : Transaction} {agentId : Nat} {agent : Agent}
    (inv : Invariant s) (pending : Pending s txn agentId) (found : s.agents agentId = some agent)
    (left : List Transaction) (fewer : ∀ other ∈ left, other ∈ s.transactions) :
    Invariant { writes s txn agentId with transactions := left } := by
  refine invariant_of_rows inv (writes_frame s txn agentId).1 (fun otherId other present => ?_) fewer
  have unchanged (before : s.agents otherId = some other) : ∃ before, s.agents otherId = some before ∧
      (before.revokedAt.isSome = true → other.revokedAt.isSome = true) ∧
      (other.status = .revoked → other.revokedAt.isSome = true) :=
    ⟨other, before, id, inv.revoked otherId other before⟩
  rcases writes_cases s txn found with ⟨-, -, same | removed⟩ | ⟨updated, -⟩
  · exact unchanged (same ▸ present)
  · simp only [removed, Function.update_apply] at present
    split_ifs at present
    exact unchanged present
  · simp only [updated, Function.update_apply] at present
    split_ifs at present with here
    · subst here
      obtain rfl := Option.some.inj present
      exact ⟨agent, found, update_lasting pending.assigns, update_revoked inv pending found⟩
    · exact unchanged present

private theorem stands_writes {s : Database} {txn : Transaction} {agentId : Nat} {agent : Agent}
    (stands : RevocationStands s) (pending : Pending s txn agentId) (found : s.agents agentId = some agent)
    (left : List Transaction) :
    RevocationStands { writes s txn agentId with transactions := left } ↔
      (agent.revokedAt.isSome = true → KeepsReadStatus txn) := by
  rcases writes_cases s txn found with ⟨keeps, grants, same⟩ | ⟨updated, grants⟩
  · refine ⟨fun _ _ => keeps, fun _ => ⟨fun otherId other present => ?_, by simpa [grants] using stands.2⟩⟩
    rcases same with same | removed
    · exact stands.1 otherId other (same ▸ present)
    · simp only [removed, Function.update_apply] at present
      split_ifs at present
      exact stands.1 otherId other present
  · rw [← update_stands stands pending found]
    constructor
    · exact fun kept => kept.1 agentId _ (by simp [updated])
    · intro kept
      refine ⟨fun otherId other present => ?_, ?_⟩
      · simp only [updated, Function.update_apply] at present
        split_ifs at present with here
        · obtain rfl := Option.some.inj present
          exact kept
        · exact stands.1 otherId other present
      · rcases grants with same | ⟨reopens, keyHash, granted⟩
        · simpa [same] using stands.2
        · simp only [granted, List.mem_append, List.mem_singleton]
          rintro grant (old | rfl)
          · exact stands.2 grant old
          · by_contra after
            have seen : txn.read.revokedAt.isSome = true := Option.isSome_iff_ne_none.mpr (by simpa using after)
            have marked := pending.lasting seen agent found
            exact reopens (pending.marked.mp seen) ((update_stands stands pending found).mp kept marked)

private theorem invariant_inserts {s : Database} {txn : Transaction} (inv : Invariant s)
    (fresh : txn.changed.status = .enrolled ∧ txn.changed.revokedAt = none)
    (left : List Transaction) (fewer : ∀ other ∈ left, other ∈ s.transactions) :
    Invariant { inserts s txn with transactions := left } := by
  have unchanged : Invariant { s with transactions := left } :=
    invariant_of_rows inv rfl (fun agentId agent found => ⟨agent, found, id, inv.revoked agentId agent found⟩) fewer
  unfold inserts
  cases txn.call with
  | enrollAgent =>
    refine ⟨fun agentId agent found => ?_, fun agentId agent found dead => ?_, fun other member agentId about => ?_,
      fun other member about => inv.fresh other (fewer other member) about⟩
    · simp only [Function.update_apply] at found
      split_ifs at found with here
      · exact Nat.lt_succ_of_le (Nat.le_of_eq here)
      · exact Nat.lt_succ_of_lt (inv.known agentId agent found)
    · simp only [Function.update_apply] at found
      split_ifs at found with here
      · obtain rfl := Option.some.inj found
        simp [fresh.1] at dead
      · exact inv.revoked agentId agent found dead
    · obtain ⟨known, assigns, marked, lasting⟩ := inv.pending other (fewer other member) agentId about
      refine ⟨Nat.lt_succ_of_lt known, assigns, marked, fun final agent found => ?_⟩
      simp only [Function.update_apply, if_neg (Nat.ne_of_lt known)] at found
      exact lasting final agent found
  | _ => exact unchanged

private theorem stands_inserts {s : Database} {txn : Transaction} (stands : RevocationStands s)
    (fresh : txn.changed.status = .enrolled ∧ txn.changed.revokedAt = none) (left : List Transaction) :
    RevocationStands { inserts s txn with transactions := left } := by
  unfold inserts
  cases txn.call with
  | enrollAgent =>
    refine ⟨fun agentId agent found final => ?_, stands.2⟩
    simp only [Function.update_apply] at found
    split_ifs at found
    · obtain rfl := Option.some.inj found
      simp [fresh.2] at final
    · exact stands.1 agentId agent found final
  | _ => exact stands

/-! ### Every step -/

private theorem invariant_keep {s : Database} (inv : Invariant s) {transactions : List Transaction}
    (fewer : ∀ txn ∈ transactions, txn ∈ s.transactions) : Invariant { s with transactions := transactions } :=
  invariant_of_rows inv rfl (fun agentId agent found => ⟨agent, found, id, inv.revoked agentId agent found⟩) fewer

private theorem invariant_open {s : Database} (inv : Invariant s) (stands : RevocationStands s) {call : Call}
    {txn : Transaction} (opened : reads s call = .ok txn) :
    Invariant { s with transactions := s.transactions ++ [txn] } := by
  refine ⟨inv.known, inv.revoked, fun other member agentId about => ?_, fun other member about => ?_⟩
  · rcases List.mem_append.mp member with old | new
    · obtain ⟨known, assigns, marked, lasting⟩ := inv.pending other old agentId about
      exact ⟨known, assigns, marked, lasting⟩
    · obtain rfl := List.mem_singleton.mp new
      rcases reads_ok opened with ⟨own, agent, same, found, seen, assigns⟩ | ⟨without, -⟩
      · obtain rfl : own = agentId := by simpa [same] using about
        refine ⟨inv.known own agent found, assigns, ?_, fun final current present => ?_⟩
        · rw [seen]
          exact ⟨stands.1 own agent found, inv.revoked own agent found⟩
        · obtain rfl : agent = current := by simpa [found] using present
          exact seen ▸ final
      · simp [without] at about
  · rcases List.mem_append.mp member with old | new
    · exact inv.fresh other old about
    · obtain rfl := List.mem_singleton.mp new
      rcases reads_ok opened with ⟨own, agent, same, -⟩ | ⟨-, fresh⟩
      · simp [same] at about
      · exact fresh

/-- What one step does to the invariant and to the revocations. -/
private theorem step_stands {s t : Database} {l : Label} (inv : Invariant s) (stands : RevocationStands s)
    (stepped : step s l = some t) : Invariant t ∧ (RevocationStands t ↔ KeepsStatus s l) := by
  cases l with
  | begin call =>
    simp only [step, Option.bind_eq_bind, Option.bind_eq_some_iff] at stepped
    obtain ⟨_, -, stepped⟩ := stepped
    cases opened : reads s call with
    | error text =>
      simp only [opened, Option.pure_def, Option.some.injEq] at stepped
      subst stepped
      exact ⟨inv, fun _ => trivial, fun _ => stands⟩
    | ok txn =>
      simp only [opened, Option.pure_def, Option.some.injEq] at stepped
      subst stepped
      exact ⟨invariant_open inv stands opened, fun _ => trivial, fun _ => stands⟩
  | commit k =>
    simp only [step, Option.bind_eq_bind, Option.bind_eq_some_iff] at stepped
    obtain ⟨txn, present, _, -, stepped⟩ := stepped
    obtain rfl := Option.some.inj stepped
    have member := List.mem_of_getElem? present
    have fewer : ∀ other ∈ s.transactions.eraseIdx k, other ∈ s.transactions :=
      fun other inside => List.mem_of_mem_eraseIdx inside
    have here : KeepsStatus s (.commit k) ↔ ∀ agentId agent, txn.agentId = some agentId →
        s.agents agentId = some agent → agent.revokedAt.isSome = true → KeepsReadStatus txn := by
      simp [KeepsStatus, present]
    rw [here]
    unfold commits
    cases about : txn.agentId with
    | none =>
      have fresh := inv.fresh txn member about
      exact ⟨invariant_inserts inv fresh _ fewer, by simp, fun _ => stands_inserts stands fresh _⟩
    | some agentId =>
      have pending := inv.pending txn member agentId about
      cases found : s.agents agentId with
      | none =>
        simp only [found, Option.isSome_none]
        refine ⟨invariant_keep inv fewer, fun _ other agent same present => ?_, fun _ => stands⟩
        obtain rfl := Option.some.inj same
        simp [found] at present
      | some agent =>
        simp only [found, Option.isSome_some, if_true]
        refine ⟨invariant_writes inv pending found _ fewer, ?_⟩
        rw [stands_writes stands pending found]
        constructor
        · intro keeps other current same present
          obtain rfl := Option.some.inj same
          obtain rfl := Option.some.inj (found.symm.trans present)
          exact keeps
        · exact fun keeps => keeps agentId agent rfl found
  | abort k =>
    simp only [step, Option.bind_eq_bind, Option.bind_eq_some_iff] at stepped
    obtain ⟨_, -, stepped⟩ := stepped
    obtain rfl := Option.some.inj stepped
    exact ⟨invariant_keep inv fun txn inside => List.mem_of_mem_eraseIdx inside, fun _ => trivial, fun _ => stands⟩
  | mintStandingToken projectId tokenHash =>
    simp only [step, Option.bind_eq_bind, Option.bind_eq_some_iff] at stepped
    obtain ⟨_, -, stepped⟩ := stepped
    obtain rfl := Option.some.inj stepped
    exact ⟨⟨inv.known, inv.revoked, fun txn member agentId about =>
      let ⟨known, assigns, marked, lasting⟩ := inv.pending txn member agentId about
      ⟨known, assigns, marked, lasting⟩, inv.fresh⟩, fun _ => trivial, fun _ => stands⟩
  | tick =>
    obtain rfl := Option.some.inj stepped
    exact ⟨⟨inv.known, inv.revoked, fun txn member agentId about =>
      let ⟨known, assigns, marked, lasting⟩ := inv.pending txn member agentId about
      ⟨known, assigns, marked, lasting⟩, inv.fresh⟩, fun _ => trivial, fun _ => stands⟩

private theorem invariant_init : Invariant Database.init :=
  ⟨by simp [Database.init], by simp [Database.init], by simp [Database.init], by simp [Database.init]⟩

/-- Along any interleaving of the calls, an agent that has been revoked stays `revoked`
    until it is deleted, and no call that began after the revocation succeeds for it, if
    and only if every commit on a revoked agent keeps the status its call had read:
    `online` for an authentication or a heartbeat, `offline` for a disconnect, and
    anything but `revoked` for a redeemed token. -/
theorem revocation_iff_keeps_status (labels : List Label) :
    Always step RevocationStands Database.init labels ↔ Meets step KeepsStatus Database.init labels :=
  always_iff_meets Invariant
    (fun _ _ _ inv stands stepped _ => (step_stands inv stands stepped).1)
    (fun _ _ _ inv stands stepped => (step_stands inv stands stepped).2)
    invariant_init (by simp [RevocationStands, Database.init])

/-- An agent enrolls, its credential is rotated, it is revoked, and the rotation token is
    redeemed within the hour. -/
def lateRedemption : List Label :=
  [.mintStandingToken 7 "standing", .begin (.enrollAgent "standing" (some "edge") none none "first" "agent-0" none),
    .commit 0, .begin (.rotateAgentCredential 0 "rotation"), .commit 0, .begin (.revokeAgent 0), .commit 0,
    .begin (.enrollAgent "rotation" none none none "second" "agent-1" none), .commit 0,
    .begin (.authenticateAgent 0 "second" none), .commit 0]

/-- A heartbeat that read the agent before the revocation commits after it. -/
def lostRevocation : List Label :=
  [.mintStandingToken 7 "standing", .begin (.enrollAgent "standing" (some "edge") none none "first" "agent-0" none),
    .commit 0, .begin (.recordHeartbeat 0), .begin (.revokeAgent 0), .commit 1, .commit 0]

theorem revocation_undone :
    (∃ s, run step Database.init lateRedemption = some s ∧ ¬ RevocationStands s) ∧
      ∃ s, run step Database.init lostRevocation = some s ∧ ¬ RevocationStands s := by
  refine ⟨⟨_, rfl, fun stands => ?_⟩, ⟨_, rfl, fun stands => ?_⟩⟩
  · have letIn := stands.2 ⟨0, "second", true⟩ (by decide)
    exact absurd letIn (by decide)
  · have dead := stands.1 0 _ rfl rfl
    exact absurd dead (by decide)

end Marlinspike.Gateway.Revocation
