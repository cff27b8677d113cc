import Mathlib.Logic.Basic

/-!
The durable part of a scan: the rows of `scan_history` and the functions of the run
store that write them. A row is named by its place in the table.
-/
namespace Marlinspike.Recovery

inductive Status where
  | running
  | completed
  | failed
  | stopped
deriving DecidableEq, Repr

/-- The values of `recovery_state` beside NULL. -/
inductive RecoveryState where
  | claimed
  | finalizing
  | reattached
  | reapedCompleted
  | reapedCompletedDegraded
  | reapedFailed
  | reapedAbandoned
deriving DecidableEq, Repr

/-- The columns of `scan_history` that recovery reads or writes. -/
structure ScanHistory where
  status : Status
  command : String
  recoveryState : Option RecoveryState
  enginePid : Option Nat
  /-- `json.loads` of the saved argv; none if it is NULL or does not parse. -/
  engineArgv : Option (List String)
  timeoutAt : Option Nat
  reportPath : Option String
  agentId : Option Nat
  completedAt : Option Nat
  errorTail : Option String
  nodeCount : Option Nat
  edgeCount : Option Nat
deriving DecidableEq, Repr

namespace RunStore

/-- `record_start`: a new row. -/
def recordStart (now timeoutS : Nat) (command reportPath : String) (enginePid : Option Nat)
    (engineArgv : Option (List String)) (agentId : Option Nat) : ScanHistory :=
  { status := .running
    command
    recoveryState := none
    enginePid, engineArgv
    timeoutAt := if timeoutS > 0 then some (now + timeoutS) else none
    reportPath := some reportPath
    agentId
    completedAt := none, errorTail := none, nodeCount := none, edgeCount := none }

/-- `update_pid`. -/
def updatePid (enginePid : Option Nat) (engineArgv : Option (List String)) (rec : ScanHistory) : ScanHistory :=
  { rec with enginePid, engineArgv }

/-- What a caller passes to `record_finish`; an argument left out keeps its column. -/
structure Finish where
  status : Status
  errorTail : Option String
  nodeCount : Option Nat
  edgeCount : Option Nat
  recoveryState : Option RecoveryState
deriving DecidableEq, Repr

/-- `record_finish`. -/
def recordFinish (now : Nat) (finish : Finish) (rec : ScanHistory) : ScanHistory :=
  { rec with
    status := finish.status
    completedAt := some now
    errorTail := finish.errorTail.or rec.errorTail
    nodeCount := finish.nodeCount.or rec.nodeCount
    edgeCount := finish.edgeCount.or rec.edgeCount
    recoveryState := finish.recoveryState.or rec.recoveryState
    enginePid := none }

/-- A conditional `UPDATE` of one running row: whether it matched, and the row. -/
def conditionally (rec : ScanHistory) (from_ to_ : Option RecoveryState) : Bool × ScanHistory :=
  if rec.status = .running ∧ rec.recoveryState = from_ then (true, { rec with recoveryState := to_ }) else (false, rec)

/-- `claim_for_recovery`. -/
def claimForRecovery (rec : ScanHistory) : Bool × ScanHistory := conditionally rec none (some .claimed)

/-- `reclaim_finalizing`. -/
def reclaimFinalizing (rec : ScanHistory) : Bool × ScanHistory := conditionally rec (some .finalizing) (some .claimed)

/-- `mark_finalizing`. -/
def markFinalizing (rec : ScanHistory) : ScanHistory :=
  if rec.status = .running then { rec with recoveryState := some .finalizing } else rec

/-- `get_active_for_recovery`: the web app's scans. -/
def getActiveForRecovery (agentId : Option Nat) : Bool := agentId.isNone

/-- `get_active_agent_scans_for_recovery`: the gateway's scans. -/
def getActiveAgentScansForRecovery (agentId : Option Nat) : Bool := agentId.isSome

theorem conditionally_status (rec : ScanHistory) (from_ to_ : Option RecoveryState) :
    (conditionally rec from_ to_).2.status = rec.status := by
  unfold conditionally
  split <;> rfl

theorem conditionally_matched (rec : ScanHistory) (from_ to_ : Option RecoveryState) :
    (conditionally rec from_ to_).1 = true ↔ rec.status = .running ∧ rec.recoveryState = from_ := by
  unfold conditionally
  split <;> simp_all

/-- An `UPDATE` that does not match leaves the row alone. -/
theorem conditionally_missed {rec : ScanHistory} {from_ to_ : Option RecoveryState}
    (missed : (conditionally rec from_ to_).1 = false) : (conditionally rec from_ to_).2 = rec := by
  unfold conditionally at missed ⊢
  split <;> simp_all

theorem markFinalizing_status (rec : ScanHistory) : (markFinalizing rec).status = rec.status := by
  unfold markFinalizing
  split <;> rfl

end RunStore

end Marlinspike.Recovery
