import Mathlib.Logic.Function.Basic
import Marlinspike.Engine.Launchers
import Marlinspike.Recovery.Reaper

/-!
The finalizers of one row: the worker that owns the scan, and any number of others that
boot while it runs and reconcile what they take for an orphan. Every database statement and
every look at a process is one step, and no worker dies. A claim takes any running row that
is not marked, also that of a live owner, and then the row is finalized twice: at most once
if no claim matches, and in a run that is over only then (`finalized_once`).
-/
namespace Marlinspike.Recovery.Finalizers
open Marlinspike.Transition
open Marlinspike.Recovery.RunStore
open Marlinspike.Recovery.Reaper (Host Report pidAlive engineAlive reportOf ingestCompletedReport reapFailed
  watchFailed pastDeadline finalizeScanHistory)
open Marlinspike.Engine.Launchers (finalStatus)

/-- What a scan is started with. -/
structure Scan where
  command : String
  reportPath : String
  argv : List String
  timeoutS : Nat
  chunked : Bool

/-- Where the owner stands: the request, the reading thread, and `_finalize_run`. -/
inductive Owner where
  | starting
  /-- The one engine of a scan that is not chunked has been started. -/
  | started (pid : Nat)
  | reading (pid : Nat)
  /-- Between two subprocesses of a chunked scan. -/
  | supervising
  | updating (pid : Nat) (argv : List String)
  | waiting (pid : Nat)
  | marking
  | enriching
  | settled (status : Status)
  | delivering
  | finished
deriving DecidableEq, Repr

/-- The subprocess that the owner has not reaped. -/
def Owner.child : Owner → Option Nat
  | .started pid | .reading pid | .updating pid _ | .waiting pid => some pid
  | _ => none

/-- Where another worker stands with the row: in `reap_orphan_runs`, or its `_watch_loop`. -/
inductive Worker where
  | down
  /-- The row is among the active ones; `now` is that of the pass. -/
  | fetched (now : Nat)
  | reclaiming (now : Nat)
  | claimed (now : Nat) (reclaimedFinalizing : Bool)
  /-- The row has been read again. -/
  | checking (now : Nat) (reclaimedFinalizing : Bool) (rec : ScanHistory)
  | dead (now : Nat) (reclaimedFinalizing : Bool) (rec : ScanHistory)
  | watching (enginePid : Nat) (reportPath : Option String)
  | finishing (finish : Finish)
  | delivering
  | past
deriving DecidableEq, Repr

structure Site where
  scan : Scan
  row : Option ScanHistory
  /-- The argv of each live pid. -/
  processes : Nat → Option (List String)
  reports : String → Report
  now : Nat
  owner : Owner
  workers : Nat → Worker
  /-- How often a final status has been written, and the webhook called. -/
  writes : Nat
  deliveries : Nat

def start (scan : Scan) : Site :=
  ⟨scan, none, fun _ => none, fun _ => .missing, 0, .starting, fun _ => .down, 0, 0⟩

def Site.host (s : Site) : Host := ⟨s.row.toList, s.processes, s.reports, s.now, none⟩

inductive Label where
  /-- The owner: the engine, `record_start`, the subprocesses with `update_pid`, the end of
      the last one, `mark_finalizing`, enrichment, the final status, the webhook. -/
  | spawns (pid : Nat)
  | records
  | spawnsChild (pid : Nat) (argv : List String)
  | updates
  | returns
  | finalizes (stopRequested : Bool) (returnCode : Int)
  | marks
  | enriches
  | writes (errorTail : Option String) (nodeCount edgeCount : Option Nat)
  | delivers
  /-- Another worker. -/
  | boots (w : Nat)
  | claims (w : Nat)
  | reclaims (w : Nat)
  | reads (w : Nat)
  | checks (w : Nat)
  | judges (w : Nat) (degraded : Option String)
  | watches (w : Nat) (degraded : Option String)
  | finishes (w : Nat)
  | notifies (w : Nat)
  /-- The host. -/
  | starts (pid : Nat) (argv : List String)
  | exits (pid : Nat)
  | saves (path : String) (report : Report)
  | tick
deriving DecidableEq, Repr

/-! ### The owner -/

def Site.setProcess (s : Site) (pid : Nat) (argv : Option (List String)) : Site :=
  { s with processes := Function.update s.processes pid argv }

def spawns (s : Site) (pid : Nat) : Option Site :=
  if s.owner = .starting ∧ ¬s.scan.chunked ∧ s.processes pid = none then
    some { s.setProcess pid (some s.scan.argv) with owner := .started pid }
  else none

/-- `record_start`. -/
def records (s : Site) : Option Site :=
  let row pid := recordStart s.now s.scan.timeoutS s.scan.command s.scan.reportPath pid (some s.scan.argv) none
  match s.owner with
  | .starting => if s.scan.chunked then some { s with row := some (row none), owner := .supervising } else none
  | .started pid => some { s with row := some (row (some pid)), owner := .reading pid }
  | _ => none

def spawnsChild (s : Site) (pid : Nat) (argv : List String) : Option Site :=
  if s.owner = .supervising ∧ s.processes pid = none then
    some { s.setProcess pid (some argv) with owner := .updating pid argv }
  else none

def updates (s : Site) : Option Site :=
  match s.owner with
  | .updating pid argv => some { s with row := s.row.map (updatePid (some pid) (some argv)), owner := .waiting pid }
  | _ => none

def returns (s : Site) : Option Site :=
  match s.owner with
  | .waiting pid => if s.processes pid = none then some { s with owner := .supervising } else none
  | _ => none

/-- `_finalize_run` settles on a status. -/
def finalizes (s : Site) (stopRequested : Bool) (returnCode : Int) : Option Site :=
  let status := finalStatus stopRequested returnCode
  let next := if status = .completed then .marking else .settled status
  match s.owner with
  | .reading pid => if s.processes pid = none then some { s with owner := next } else none
  | .supervising => some { s with owner := next }
  | _ => none

def marks (s : Site) : Option Site :=
  if s.owner = .marking then some { s with row := s.row.map markFinalizing, owner := .enriching } else none

def enriches (s : Site) : Option Site :=
  if s.owner = .enriching then some { s with owner := .settled .completed } else none

/-- `_finalize_scan_history`. -/
def writes (s : Site) (errorTail : Option String) (nodeCount edgeCount : Option Nat) : Option Site :=
  match s.owner with
  | .settled status =>
    some
      { s with
        row := s.row.map (finalizeScanHistory s.now status errorTail nodeCount edgeCount)
        owner := if status = .completed then .delivering else .finished
        writes := s.writes + 1 }
  | _ => none

def delivers (s : Site) : Option Site :=
  if s.owner = .delivering then some { s with owner := .finished, deliveries := s.deliveries + 1 } else none

/-! ### The other workers -/

def Site.setWorker (s : Site) (w : Nat) (worker : Worker) : Site :=
  { s with workers := Function.update s.workers w worker }

/-- `get_active_for_recovery`. -/
def boots (s : Site) (w : Nat) : Option Site :=
  if s.workers w = .down then
    some (s.setWorker w (if s.row.any fun rec => rec.status = .running && getActiveForRecovery rec.agentId
      then .fetched s.now else .past))
  else none

def claims (s : Site) (w : Nat) : Option Site :=
  match s.workers w, s.row with
  | .fetched now, some rec =>
    if (claimForRecovery rec).1 then
      some { s.setWorker w (.claimed now false) with row := some (claimForRecovery rec).2 }
    else some (s.setWorker w (if pastDeadline now rec then .reclaiming now else .past))
  | _, _ => none

def reclaims (s : Site) (w : Nat) : Option Site :=
  match s.workers w, s.row with
  | .reclaiming now, some rec =>
    if (reclaimFinalizing rec).1 then
      some { s.setWorker w (.claimed now true) with row := some (reclaimFinalizing rec).2 }
    else some (s.setWorker w .past)
  | _, _ => none

def reads (s : Site) (w : Nat) : Option Site :=
  match s.workers w, s.row with
  | .claimed now reclaimedFinalizing, some rec => some (s.setWorker w (.checking now reclaimedFinalizing rec))
  | _, _ => none

def checks (s : Site) (w : Nat) : Option Site :=
  match s.workers w with
  | .checking now reclaimedFinalizing rec =>
    some (s.setWorker w
      (if !reclaimedFinalizing && engineAlive s.host rec then .watching (rec.enginePid.getD 0) rec.reportPath
      else .dead now reclaimedFinalizing rec))
  | _ => none

def judges (s : Site) (w : Nat) (degraded : Option String) : Option Site :=
  match s.workers w with
  | .dead now reclaimedFinalizing rec =>
    some (s.setWorker w (.finishing (match reportOf s.host rec.reportPath with
      | .complete nodeCount edgeCount => ingestCompletedReport rec nodeCount edgeCount degraded
      | .missing | .partial_ => reapFailed now rec reclaimedFinalizing)))
  | _ => none

/-- A round of the watcher. -/
def watches (s : Site) (w : Nat) (degraded : Option String) : Option Site :=
  match s.workers w, s.row with
  | .watching enginePid reportPath, some rec =>
    if pidAlive s.host enginePid then some s
    else
      some (s.setWorker w (.finishing (match reportOf s.host reportPath with
        | .complete nodeCount edgeCount => ingestCompletedReport rec nodeCount edgeCount degraded
        | .missing | .partial_ => watchFailed)))
  | _, _ => none

/-- `record_finish`. -/
def finishes (s : Site) (w : Nat) : Option Site :=
  match s.workers w with
  | .finishing finish =>
    some
      { s.setWorker w (if finish.status = .completed then .delivering else .past) with
        row := s.row.map (recordFinish s.now finish)
        writes := s.writes + 1 }
  | _ => none

def notifies (s : Site) (w : Nat) : Option Site :=
  if s.workers w = .delivering then some { s.setWorker w .past with deliveries := s.deliveries + 1 } else none

/-! ### The system -/

def step (s : Site) : Label → Option Site
  | .spawns pid => spawns s pid
  | .records => records s
  | .spawnsChild pid argv => spawnsChild s pid argv
  | .updates => updates s
  | .returns => returns s
  | .finalizes stopRequested returnCode => finalizes s stopRequested returnCode
  | .marks => marks s
  | .enriches => enriches s
  | .writes errorTail nodeCount edgeCount => writes s errorTail nodeCount edgeCount
  | .delivers => delivers s
  | .boots w => boots s w
  | .claims w => claims s w
  | .reclaims w => reclaims s w
  | .reads w => reads s w
  | .checks w => checks s w
  | .judges w degraded => judges s w degraded
  | .watches w degraded => watches s w degraded
  | .finishes w => finishes s w
  | .notifies w => notifies s w
  | .starts pid argv =>
    if s.processes pid = none ∧ s.owner.child ≠ some pid then some (s.setProcess pid (some argv)) else none
  | .exits pid => some (s.setProcess pid none)
  | .saves path report => some { s with reports := Function.update s.reports path report }
  | .tick => some { s with now := s.now + 1 }

/-- A final status is written at most once, and the webhook is called at most once. -/
structure AtMostOnce (s : Site) : Prop where
  writes : s.writes ≤ 1
  deliveries : s.deliveries ≤ 1

/-- No claim matches the row: it is not running, or it is marked; and it is not taken back
    from the owner that finalizes it. -/
def Deferring (s : Site) : Label → Prop
  | .claims _ => s.row.any (fun rec => (claimForRecovery rec).1) = false
  | .reclaims _ => s.row.any (fun rec => (reclaimFinalizing rec).1) = false
  | _ => True

/-- The worker has claimed the row and has still to write its verdict. -/
def Worker.owes : Worker → Bool
  | .claimed _ _ | .checking _ _ _ | .dead _ _ _ | .watching _ _ | .finishing _ => true
  | _ => false

/-- All that was begun has come to its end. -/
def Over (s : Site) : Prop := s.owner = .finished ∧ ∀ w, (s.workers w).owes = false

/-! ### What the steps do -/

/-- How often the owner has written a final status, and called the webhook at most. -/
def Owner.written : Owner → Nat
  | .delivering | .finished => 1
  | _ => 0

def Owner.delivered : Owner → Nat
  | .finished => 1
  | _ => 0

/-- The worker has claimed the row. -/
def Worker.hasClaimed (worker : Worker) : Bool := worker.owes || worker = .delivering

/-- The steps by what they do to the counts. -/
inductive Change (s t : Site) (l : Label) : Prop where
  | quiet (owner : t.owner.written = s.owner.written) (delivered : s.owner.delivered ≤ t.owner.delivered)
      (workers : t.workers = s.workers) (writes : t.writes = s.writes) (deliveries : t.deliveries = s.deliveries)
      (deferring : Deferring s l)
  | ownerWrites (before : s.owner.written = 0) (after : t.owner.written = 1) (workers : t.workers = s.workers)
      (writes : t.writes = s.writes + 1) (deliveries : t.deliveries = s.deliveries) (deferring : Deferring s l)
  | ownerDelivers (before : s.owner = .delivering) (after : t.owner = .finished) (workers : t.workers = s.workers)
      (writes : t.writes = s.writes) (deliveries : t.deliveries = s.deliveries + 1) (deferring : Deferring s l)
  /-- A worker claims the row. -/
  | claims (w : Nat) (worker : Worker) (owner : t.owner = s.owner) (workers : t.workers = Function.update s.workers w worker)
      (writes : t.writes = s.writes) (owes : worker.owes = true) (broken : ¬Deferring s l)
  /-- A worker goes on, with its claim or without one. -/
  | goesOn (w : Nat) (worker : Worker) (owner : t.owner = s.owner)
      (workers : t.workers = Function.update s.workers w worker) (writes : t.writes = s.writes)
      (deliveries : t.deliveries = s.deliveries) (owes : worker.owes = (s.workers w).owes)
      (claimed : worker.hasClaimed = (s.workers w).hasClaimed) (deferring : Deferring s l)
  | workerWrites (w : Nat) (worker : Worker) (owner : t.owner = s.owner)
      (workers : t.workers = Function.update s.workers w worker) (writes : t.writes = s.writes + 1)
      (owed : (s.workers w).hasClaimed = true) (deferring : Deferring s l)
  | workerDelivers (w : Nat) (worker : Worker) (owner : t.owner = s.owner)
      (workers : t.workers = Function.update s.workers w worker) (writes : t.writes = s.writes)
      (delivering : s.workers w = .delivering) (deferring : Deferring s l)

section Steps
variable {s t : Site}

/-- The owner goes on before it has delivered, and nobody else does. -/
theorem owner_moves {l : Label} {owner : Owner} (was : s.owner = owner) (undelivered : owner.delivered = 0)
    (written : t.owner.written = owner.written) (workers : t.workers = s.workers) (writes : t.writes = s.writes)
    (deliveries : t.deliveries = s.deliveries) (deferring : Deferring s l) : Change s t l := by
  refine .quiet ?_ ?_ workers writes deliveries deferring
  · rw [was, written]
  · rw [was, undelivered]
    exact Nat.zero_le _

/-- A worker goes on, and its claim with it. -/
theorem worker_moves {l : Label} {w : Nat} {before after : Worker} (was : s.workers w = before)
    (owes : after.owes = before.owes) (claimed : after.hasClaimed = before.hasClaimed)
    (deferring : Deferring s l) : Change s (s.setWorker w after) l := by
  refine .goesOn w after rfl rfl rfl rfl ?_ ?_ deferring
  · rw [was, owes]
  · rw [was, claimed]

theorem records_change (stepped : records s = some t) : Change s t .records := by
  unfold records at stepped
  split at stepped
  · rename_i starting
    split_ifs at stepped
    obtain rfl := Option.some.inj stepped
    exact owner_moves starting rfl rfl rfl rfl rfl trivial
  · rename_i pid started
    obtain rfl := Option.some.inj stepped
    exact owner_moves started rfl rfl rfl rfl rfl trivial
  · cases stepped

theorem finalizes_change {stopRequested : Bool} {returnCode : Int}
    (stepped : finalizes s stopRequested returnCode = some t) :
    Change s t (.finalizes stopRequested returnCode) := by
  unfold finalizes at stepped
  have next : (if finalStatus stopRequested returnCode = .completed then Owner.marking
      else .settled (finalStatus stopRequested returnCode)).written = 0 := by
    split_ifs <;> rfl
  split at stepped
  · rename_i pid reading
    simp only [Option.ite_none_right_eq_some] at stepped
    obtain ⟨-, stepped⟩ := stepped
    obtain rfl := Option.some.inj stepped
    exact owner_moves reading rfl next rfl rfl rfl trivial
  · rename_i supervising
    obtain rfl := Option.some.inj stepped
    exact owner_moves supervising rfl next rfl rfl rfl trivial
  · cases stepped

theorem writes_change {errorTail : Option String} {nodeCount edgeCount : Option Nat}
    (stepped : writes s errorTail nodeCount edgeCount = some t) :
    Change s t (.writes errorTail nodeCount edgeCount) := by
  unfold writes at stepped
  split at stepped
  · rename_i status settled
    obtain rfl := Option.some.inj stepped
    refine .ownerWrites (by rw [settled]; rfl) ?_ rfl rfl rfl trivial
    simp only
    split_ifs <;> rfl
  · cases stepped

theorem claims_change {w : Nat} (stepped : claims s w = some t) : Change s t (.claims w) := by
  unfold claims at stepped
  split at stepped
  · rename_i now rec fetched present
    split_ifs at stepped with matched late
    · obtain rfl := Option.some.inj stepped
      exact .claims w _ rfl rfl rfl rfl (by simp [Deferring, present, matched])
    all_goals
      obtain rfl := Option.some.inj stepped
      exact worker_moves fetched rfl rfl (by simp [Deferring, present, matched])
  · cases stepped

theorem reclaims_change {w : Nat} (stepped : reclaims s w = some t) : Change s t (.reclaims w) := by
  unfold reclaims at stepped
  split at stepped
  · rename_i now rec reclaiming present
    split_ifs at stepped with matched
    · obtain rfl := Option.some.inj stepped
      exact .claims w _ rfl rfl rfl rfl (by simp [Deferring, present, matched])
    · obtain rfl := Option.some.inj stepped
      exact worker_moves reclaiming rfl rfl (by simp [Deferring, present, matched])
  · cases stepped

theorem watches_change {w : Nat} {degraded : Option String} (stepped : watches s w degraded = some t) :
    Change s t (.watches w degraded) := by
  unfold watches at stepped
  split at stepped
  · rename_i enginePid reportPath rec watching present
    split_ifs at stepped with alive
    · obtain rfl := Option.some.inj stepped
      exact .quiet rfl (Nat.le_refl _) rfl rfl rfl trivial
    · obtain rfl := Option.some.inj stepped
      exact worker_moves watching rfl rfl trivial
  · cases stepped

theorem step_change {l : Label} (stepped : step s l = some t) : Change s t l := by
  cases l with
  | spawns pid =>
    simp only [step, spawns] at stepped
    split_ifs at stepped with guard
    obtain rfl := Option.some.inj stepped
    exact owner_moves guard.1 rfl rfl rfl rfl rfl trivial
  | records => exact records_change stepped
  | spawnsChild pid argv =>
    simp only [step, spawnsChild] at stepped
    split_ifs at stepped with guard
    obtain rfl := Option.some.inj stepped
    exact owner_moves guard.1 rfl rfl rfl rfl rfl trivial
  | updates =>
    simp only [step, updates] at stepped
    split at stepped
    · rename_i pid argv updating
      obtain rfl := Option.some.inj stepped
      exact owner_moves updating rfl rfl rfl rfl rfl trivial
    · cases stepped
  | returns =>
    simp only [step, returns] at stepped
    split at stepped
    · rename_i pid waiting
      split_ifs at stepped
      obtain rfl := Option.some.inj stepped
      exact owner_moves waiting rfl rfl rfl rfl rfl trivial
    · cases stepped
  | finalizes stopRequested returnCode => exact finalizes_change stepped
  | marks =>
    simp only [step, marks] at stepped
    split_ifs at stepped with marking
    obtain rfl := Option.some.inj stepped
    exact owner_moves marking rfl rfl rfl rfl rfl trivial
  | enriches =>
    simp only [step, enriches] at stepped
    split_ifs at stepped with enriching
    obtain rfl := Option.some.inj stepped
    exact owner_moves enriching rfl rfl rfl rfl rfl trivial
  | writes errorTail nodeCount edgeCount => exact writes_change stepped
  | delivers =>
    simp only [step, delivers] at stepped
    split_ifs at stepped with delivering
    obtain rfl := Option.some.inj stepped
    exact .ownerDelivers delivering rfl rfl rfl rfl trivial
  | boots w =>
    simp only [step, boots] at stepped
    split_ifs at stepped with down active
    all_goals
      obtain rfl := Option.some.inj stepped
      exact worker_moves down rfl rfl trivial
  | claims w => exact claims_change stepped
  | reclaims w => exact reclaims_change stepped
  | reads w =>
    simp only [step, reads] at stepped
    split at stepped
    · rename_i now reclaimedFinalizing rec claimed present
      obtain rfl := Option.some.inj stepped
      exact worker_moves claimed rfl rfl trivial
    · cases stepped
  | checks w =>
    simp only [step, checks] at stepped
    split at stepped
    · rename_i now reclaimedFinalizing rec checking
      split_ifs at stepped
      all_goals
        obtain rfl := Option.some.inj stepped
        exact worker_moves checking rfl rfl trivial
    · cases stepped
  | judges w degraded =>
    simp only [step, judges] at stepped
    split at stepped
    · rename_i now reclaimedFinalizing rec dead
      obtain rfl := Option.some.inj stepped
      exact worker_moves dead rfl rfl trivial
    · cases stepped
  | watches w degraded => exact watches_change stepped
  | finishes w =>
    simp only [step, finishes] at stepped
    split at stepped
    · rename_i finish finishing
      obtain rfl := Option.some.inj stepped
      exact .workerWrites w _ rfl rfl rfl (by rw [finishing]; rfl) trivial
    · cases stepped
  | notifies w =>
    simp only [step, notifies] at stepped
    split_ifs at stepped with delivering
    obtain rfl := Option.some.inj stepped
    exact .workerDelivers w _ rfl rfl rfl delivering trivial
  | starts pid argv =>
    simp only [step] at stepped
    split_ifs at stepped
    obtain rfl := Option.some.inj stepped
    exact .quiet rfl (Nat.le_refl _) rfl rfl rfl trivial
  | exits pid =>
    obtain rfl := Option.some.inj stepped
    exact .quiet rfl (Nat.le_refl _) rfl rfl rfl trivial
  | saves path report =>
    obtain rfl := Option.some.inj stepped
    exact .quiet rfl (Nat.le_refl _) rfl rfl rfl trivial
  | tick =>
    obtain rfl := Option.some.inj stepped
    exact .quiet rfl (Nat.le_refl _) rfl rfl rfl trivial

/-! ### Runs in which no claim matches -/

structure Deferred (s : Site) : Prop where
  claimed : ∀ w, (s.workers w).hasClaimed = false
  writes : s.writes = s.owner.written
  deliveries : s.deliveries ≤ s.owner.delivered

theorem written_le (owner : Owner) : owner.written ≤ 1 := by cases owner <;> simp [Owner.written]

theorem delivered_le (owner : Owner) : owner.delivered ≤ owner.written := by
  cases owner <;> simp [Owner.delivered, Owner.written]

theorem atMostOnce_of_deferred (deferred : Deferred s) : AtMostOnce s := by
  have written := written_le s.owner
  have delivered := delivered_le s.owner
  constructor
  · rw [deferred.writes]
    exact written
  · exact deferred.deliveries.trans (delivered.trans written)

theorem deferred_step {l : Label} (deferred : Deferred s) (deferring : Deferring s l) (stepped : step s l = some t) :
    Deferred t := by
  obtain ⟨claimed, writes, deliveries⟩ := deferred
  cases step_change stepped with
  | quiet owner delivered workers writes' deliveries' =>
    refine ⟨?_, ?_, ?_⟩
    · rw [workers]
      exact claimed
    · rw [writes', owner, writes]
    · rw [deliveries']
      exact deliveries.trans delivered
  | ownerWrites before after workers writes' deliveries' =>
    refine ⟨?_, ?_, ?_⟩
    · rw [workers]
      exact claimed
    · rw [writes', writes, before, after]
    · have := delivered_le s.owner
      omega
  | ownerDelivers before after workers writes' deliveries' =>
    rw [before] at writes deliveries
    refine ⟨?_, ?_, ?_⟩
    · rw [workers]
      exact claimed
    · rw [writes', writes, after]
      rfl
    · simp only [Owner.delivered] at deliveries
      rw [deliveries', after]
      simp only [Owner.delivered]
      omega
  | claims w worker owner workers writes' owes broken => exact absurd deferring broken
  | goesOn w worker owner workers writes' deliveries' owes kept =>
    refine ⟨fun other => ?_, ?_, ?_⟩
    · rw [workers]
      by_cases same : other = w
      · subst same
        rw [Function.update_self, kept]
        exact claimed other
      · rw [Function.update_of_ne same]
        exact claimed other
    · rw [writes', owner, writes]
    · rw [deliveries', owner]
      exact deliveries
  | workerWrites w worker owner workers writes' owed => exact absurd ((claimed w).symm.trans owed) nofun
  | workerDelivers w worker owner workers writes' delivering =>
    have := claimed w
    rw [delivering] at this
    cases this

/-! ### After a claim has matched -/

/-- A worker owes the row a verdict, or more than the owner has written to it. -/
def Contested (s : Site) : Prop := (∃ w, (s.workers w).owes = true) ∨ s.owner.written < s.writes

theorem counted_step {l : Label} (counted : s.owner.written ≤ s.writes) (stepped : step s l = some t) :
    t.owner.written ≤ t.writes := by
  cases step_change stepped with
  | quiet owner delivered workers writes' => rw [owner, writes']; exact counted
  | ownerWrites before after workers writes' => omega
  | ownerDelivers before after workers writes' =>
    rw [before] at counted
    rw [after, writes']
    exact counted
  | claims w worker owner workers writes' => rw [owner, writes']; exact counted
  | goesOn w worker owner workers writes' => rw [owner, writes']; exact counted
  | workerWrites w worker owner workers writes' => rw [owner, writes']; exact Nat.le_succ_of_le counted
  | workerDelivers w worker owner workers writes' => rw [owner, writes']; exact counted

theorem contested_of_claim {l : Label} (stepped : step s l = some t) (broken : ¬Deferring s l) : Contested t := by
  cases step_change stepped with
  | claims w worker owner workers writes' owes =>
    refine .inl ⟨w, ?_⟩
    rw [workers, Function.update_self]
    exact owes
  | quiet _ _ _ _ _ deferring => exact absurd deferring broken
  | ownerWrites _ _ _ _ _ deferring => exact absurd deferring broken
  | ownerDelivers _ _ _ _ _ deferring => exact absurd deferring broken
  | goesOn _ _ _ _ _ _ _ _ deferring => exact absurd deferring broken
  | workerWrites _ _ _ _ _ _ deferring => exact absurd deferring broken
  | workerDelivers _ _ _ _ _ _ deferring => exact absurd deferring broken

theorem owes_update {w other : Nat} {worker : Worker} (owes : (s.workers other).owes = true)
    (kept : (s.workers w).owes = true → worker.owes = true) :
    (Function.update s.workers w worker other).owes = true := by
  by_cases same : other = w
  · subst same
    rw [Function.update_self]
    exact kept owes
  · rw [Function.update_of_ne same]
    exact owes

theorem contested_step {l : Label} (counted : s.owner.written ≤ s.writes) (contested : Contested s)
    (stepped : step s l = some t) : Contested t := by
  unfold Contested at contested ⊢
  cases step_change stepped with
  | quiet owner delivered workers writes' =>
    rw [owner, workers, writes']
    exact contested
  | ownerWrites before after workers writes' =>
    rw [workers]
    exact contested.imp_right fun more => by omega
  | ownerDelivers before after workers writes' =>
    rw [before] at contested
    rw [after, workers, writes']
    exact contested
  | claims w worker owner workers writes' owes =>
    refine .inl ⟨w, ?_⟩
    rw [workers, Function.update_self]
    exact owes
  | goesOn w worker owner workers writes' deliveries' kept =>
    rw [owner, workers, writes']
    exact contested.imp_left fun ⟨other, owes⟩ => ⟨other, owes_update owes fun before => kept.trans before⟩
  | workerWrites w worker owner workers writes' =>
    right
    rw [owner, writes']
    omega
  | workerDelivers w worker owner workers writes' delivering =>
    rw [owner, workers, writes']
    refine contested.imp_left fun ⟨other, owes⟩ => ⟨other, owes_update owes fun before => ?_⟩
    rw [delivering] at before
    cases before

end Steps

/-- A run in which no claim matches finalizes the row at most once; and a run that is over
    has finalized it at most once only if no claim has matched. -/
theorem finalized_once (scan : Scan) (labels : List Label) :
    (Meets step Deferring (start scan) labels → Always step AtMostOnce (start scan) labels) ∧
    ∀ s, run step (start scan) labels = some s → Over s → Always step AtMostOnce (start scan) labels →
      Meets step Deferring (start scan) labels := by
  constructor
  · exact always_of_meets Deferred (fun _ _ _ deferred deferring stepped => deferred_step deferred deferring stepped)
      (fun _ => atMostOnce_of_deferred) ⟨fun _ => rfl, rfl, Nat.le_refl _⟩
  · rintro s ran ⟨finished, settled⟩ always
    refine meets_of_unmarked (fun s => s.owner.written ≤ s.writes) (fun _ _ _ counted stepped => counted_step counted stepped)
      (fun _ _ _ _ stepped broken => contested_of_claim stepped broken)
      (fun _ _ _ counted contested stepped => contested_step counted contested stepped) (Nat.le_refl 0) ran ?_
    rintro (⟨w, owes⟩ | more)
    · exact absurd ((settled w).symm.trans owes) nofun
    · have once := (always_last always ran).writes
      rw [finished] at more
      exact absurd more (Nat.not_lt.mpr once)

/-- A worker boots while the engine runs, and watches it: both write the row and call the
    webhook. -/
theorem watched_run_finalized_twice : ¬Always step AtMostOnce
    (start ⟨"chain", "/data/report.json", ["marlinspike", "--pcap", "/data/plant.pcap"], 3600, false⟩)
    [.spawns 7, .records, .boots 0, .claims 0, .reads 0, .checks 0, .saves "/data/report.json" (.complete 2 1), .exits 7,
      .watches 0 none, .finishes 0, .notifies 0, .finalizes false 0, .marks, .enriches, .writes none (some 2) (some 1),
      .delivers] := by
  intro always
  exact absurd (always_last always rfl).deliveries (by decide)

end Marlinspike.Recovery.Finalizers
