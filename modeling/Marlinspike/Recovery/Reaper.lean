import Mathlib.Data.List.Range
import Mathlib.Data.Option.Basic
import Mathlib.Tactic.SplitIfs
import Marlinspike.Transition
import Marlinspike.Recovery.RunStore

/-!
Boot-time recovery of scans, over any number of crashes and restarts of the one process
that runs it. `reap_orphan_runs` is cut between its database statements, its liveness
check and its report check; the process may die in between, and engines may exit and
pids be reused at any time.

A pass settles every row that it can claim. It leaves behind, unwatched and `running`,
exactly the rows that it cannot (`reaped_iff_claimable`): the claim is written to the
row and outlives the process that wrote it, so that a row claimed by a process that
has died is never taken up again (`claimed_stays_stranded`).
-/
namespace Marlinspike.Recovery.Reaper
open Marlinspike.Transition Marlinspike.Recovery Marlinspike.Recovery.RunStore

/-- A report file: absent, cut off or unreadable, or with its last stage recorded. -/
inductive Report where
  | missing
  | partial_
  | complete (nodeCount edgeCount : Nat)
deriving DecidableEq, Repr

/-- A thread of `_watch_loop`. -/
structure Watcher where
  run : Nat
  enginePid : Nat
  reportPath : Option String
deriving DecidableEq, Repr

/-- Where the loop over the fetched rows stands with the row at its head. -/
inductive Stage where
  | next
  /-- The row is claimed; `reclaimed_finalizing` says how. -/
  | claimed (reclaimedFinalizing : Bool)
  /-- Its engine has been found dead. -/
  | dead (reclaimedFinalizing : Bool)
deriving DecidableEq, Repr

/-- The process, from its boot on. -/
structure Process where
  /-- `now`, as the pass took it. -/
  now : Nat
  /-- The rows that the pass fetched, and those it has still to settle. -/
  active : List Nat
  queue : List Nat
  stage : Stage
  watchers : List Watcher
  /-- `_run_registry`: the scans that this process has launched itself. -/
  registry : List Nat
deriving DecidableEq, Repr

structure Host where
  rows : List ScanHistory
  /-- The argv of each live pid. -/
  processes : Nat → Option (List String)
  reports : String → Report
  now : Nat
  process : Option Process

def Host.init : Host := ⟨[], fun _ => none, fun _ => .missing, 0, none⟩

/-! ### Liveness and reports -/

/-- `pid_alive`. -/
def pidAlive (s : Host) (pid : Nat) : Bool := 0 < pid && (s.processes pid).isSome

def isFlag (token : String) : Bool := token.toList.head? == some '-'

def isPath (token : String) : Bool := token.toList.contains '/'

/-- `_live_argv_matches`. -/
def liveArgvMatches (actual expected : List String) : Bool :=
  if actual = [] ∨ expected = [] then false
  else
    let tokens := (expected.drop 1).filter fun token => token ≠ "" && !isFlag token
    let pathTokens := tokens.filter isPath
    if pathTokens ≠ [] then pathTokens.any actual.contains else tokens.any actual.contains

/-- `pid_argv_matches`: without a saved argv there is nothing to compare. -/
def pidArgvMatches (s : Host) (pid : Nat) (expected : Option (List String)) : Bool :=
  match expected with
  | none | some [] => true
  | some expected => (s.processes pid).any fun actual => liveArgvMatches (actual.filter (· ≠ "")) expected

def reportOf (s : Host) (reportPath : Option String) : Report :=
  ((reportPath.filter (· ≠ "")).map s.reports).getD .missing

/-- `rec.engine_pid is not None and pid_alive(…) and pid_argv_matches(…)`. -/
def engineAlive (s : Host) (rec : ScanHistory) : Bool :=
  rec.enginePid.any fun pid => pidAlive s pid && pidArgvMatches s pid rec.engineArgv

/-- `_ingest_completed_report`: its arguments to `record_finish`. -/
def ingestCompletedReport (rec : ScanHistory) (nodeCount edgeCount : Nat) (degraded : Option String) : Finish :=
  let reason := if rec.command = "chain" then degraded else none
  { status := .completed
    errorTail := reason.map ("enrichment incomplete during recovery: " ++ ·)
    nodeCount := some nodeCount
    edgeCount := some edgeCount
    recoveryState := some (if reason.isSome then .reapedCompletedDegraded else .reapedCompleted) }

def pastDeadline (now : Nat) (rec : ScanHistory) : Bool := rec.timeoutAt.any fun deadline => now > deadline

/-- `MARLINSPIKE_SCAN_TIMEOUT_S`, as it is by default. -/
def scanTimeoutS : Nat := 3600

/-- The verdict on a run whose engine is dead without a complete report. -/
def reapFailed (now : Nat) (rec : ScanHistory) (reclaimedFinalizing : Bool) : Finish :=
  if pastDeadline now rec && !reclaimedFinalizing then
    { status := .failed
      errorTail := some ("abandoned — scan exceeded " ++ toString scanTimeoutS ++
        "s deadline before Flask restart could observe completion")
      nodeCount := none, edgeCount := none
      recoveryState := some .reapedAbandoned }
  else
    { status := .failed
      errorTail := some ("engine crashed mid-scan (Flask was unable to observe completion). " ++
        "PCAP is preserved; retry from the report viewer or upload page.")
      nodeCount := none, edgeCount := none
      recoveryState := some .reapedFailed }

/-- The verdict of a watcher on such a run. -/
def watchFailed : Finish :=
  { status := .failed
    errorTail := some "re-attached engine exited without writing a complete report"
    nodeCount := none, edgeCount := none
    recoveryState := some .reattached }

/-! ### Steps -/

inductive Label where
  /-- The process starts, and its pass fetches the running rows of its scope. -/
  | boot
  | crash
  /-- `claim_for_recovery`, then `reclaim_finalizing`, on the next row. -/
  | claims
  /-- The liveness check on the claimed row. -/
  | checksEngine
  /-- The report check and the verdict; enrichment may be degraded. -/
  | checksReport (degraded : Option String)
  /-- A watcher polls. -/
  | watches (k : Nat) (degraded : Option String)
  /-- The process launches a scan of its own. -/
  | launches (timeoutS : Nat) (command reportPath : String) (pid : Nat) (argv : List String) (agentId : Option Nat)
  | updatesPid (run pid : Nat) (argv : List String)
  /-- `_finalize_run` of a launched scan: the mark, and the final status. -/
  | marksFinalizing (run : Nat)
  | finalizes (run : Nat) (status : Status) (errorTail : Option String) (nodeCount edgeCount : Option Nat)
  /-- Any process of the host starts or exits, any report file changes, time passes. -/
  | starts (pid : Nat) (argv : List String)
  | exits (pid : Nat)
  | writes (path : String) (report : Report)
  | tick

section
variable (getActive : Option Nat → Bool)

def isActive (rec : ScanHistory) : Bool := rec.status = .running && getActive rec.agentId

/-- The places of the rows that the pass fetches. -/
def active (rows : List ScanHistory) : List Nat :=
  (List.range rows.length).filter fun run => (rows[run]?).any (isActive getActive)

def boot (s : Host) : Option Host :=
  match s.process with
  | some _ => none
  | none =>
    let rows := active getActive s.rows
    some { s with process := some ⟨s.now, rows, rows, .next, [], []⟩ }

/-- The claim on the row at the head of the queue. A row that is not claimed is skipped. -/
def claims (s : Host) : Option Host :=
  match s.process with
  | none => none
  | some p =>
    match p.stage, p.queue with
    | .next, run :: rest =>
      match s.rows[run]? with
      | none => none
      | some rec =>
        if (claimForRecovery rec).1 then
          some
            { s with
              rows := s.rows.modify run fun rec => (claimForRecovery rec).2
              process := some { p with stage := .claimed false } }
        else if pastDeadline p.now rec && (reclaimFinalizing rec).1 then
          some
            { s with
              rows := s.rows.modify run fun rec => (reclaimFinalizing rec).2
              process := some { p with stage := .claimed true } }
        else some { s with process := some { p with queue := rest } }
    | _, _ => none

/-- A live engine gets a watcher. -/
def checksEngine (s : Host) : Option Host :=
  match s.process with
  | none => none
  | some p =>
    match p.stage, p.queue with
    | .claimed reclaimedFinalizing, run :: rest =>
      match s.rows[run]? with
      | none => none
      | some rec =>
        if !reclaimedFinalizing && engineAlive s rec then
          some
            { s with
              process := some
                { p with
                  queue := rest
                  stage := .next
                  watchers := p.watchers ++ [⟨run, rec.enginePid.getD 0, rec.reportPath⟩] } }
        else some { s with process := some { p with stage := .dead reclaimedFinalizing } }
    | _, _ => none

/-- A dead engine's run is ingested if its report is complete, else failed. -/
def checksReport (s : Host) (degraded : Option String) : Option Host :=
  match s.process with
  | none => none
  | some p =>
    match p.stage, p.queue with
    | .dead reclaimedFinalizing, run :: rest =>
      match s.rows[run]? with
      | none => none
      | some rec =>
        let finish := match reportOf s rec.reportPath with
          | .complete nodeCount edgeCount => ingestCompletedReport rec nodeCount edgeCount degraded
          | .missing | .partial_ => reapFailed p.now rec reclaimedFinalizing
        some
          { s with
            rows := s.rows.modify run (recordFinish s.now finish)
            process := some { p with queue := rest, stage := .next } }
    | _, _ => none

/-- One round of `_watch_loop`: it ends by finishing its row once the pid is gone. -/
def watches (s : Host) (k : Nat) (degraded : Option String) : Option Host :=
  match s.process with
  | none => none
  | some p =>
    match p.watchers[k]? with
    | none => none
    | some watcher =>
      if pidAlive s watcher.enginePid then some s
      else
        let finish (rec : ScanHistory) := match reportOf s watcher.reportPath with
          | .complete nodeCount edgeCount => ingestCompletedReport rec nodeCount edgeCount degraded
          | .missing | .partial_ => watchFailed
        some
          { s with
            rows := s.rows.modify watcher.run fun rec => recordFinish s.now (finish rec) rec
            process := some { p with watchers := p.watchers.eraseIdx k } }

/-- The boot is over: every fetched row has been dealt with. -/
def Process.booted (p : Process) : Bool := p.stage = .next && p.queue.isEmpty

/-- A scan of the process's own, once it has booted. -/
def launches (s : Host) (timeoutS : Nat) (command reportPath : String) (pid : Nat) (argv : List String)
    (agentId : Option Nat) : Option Host :=
  match s.process with
  | none => none
  | some p =>
    if p.booted then
      some
        { s with
          rows := s.rows ++ [recordStart s.now timeoutS command reportPath (some pid) (some argv) agentId]
          processes := fun other => if other = pid then some argv else s.processes other
          process := some { p with registry := p.registry ++ [s.rows.length] } }
    else none

/-- A write to the row of a scan that the process has launched itself. -/
def own (s : Host) (run : Nat) (write : ScanHistory → ScanHistory) : Option Host :=
  match s.process with
  | none => none
  | some p => if run ∈ p.registry then some { s with rows := s.rows.modify run write } else none

/-- `_finalize_scan_history`, after which the scan is no longer in progress. -/
def finalizeScanHistory (now : Nat) (status : Status) (errorTail : Option String) (nodeCount edgeCount : Option Nat)
    (rec : ScanHistory) : ScanHistory :=
  { rec with
    status
    completedAt := some now
    errorTail := errorTail.or rec.errorTail
    recoveryState := if rec.recoveryState = some .finalizing then none else rec.recoveryState
    enginePid := none
    nodeCount := nodeCount.or rec.nodeCount
    edgeCount := edgeCount.or rec.edgeCount }

def step (s : Host) : Label → Option Host
  | .boot => boot getActive s
  | .crash => s.process.map fun _ => { s with process := none }
  | .claims => claims s
  | .checksEngine => checksEngine s
  | .checksReport degraded => checksReport s degraded
  | .watches k degraded => watches s k degraded
  | .launches timeoutS command reportPath pid argv agentId => launches s timeoutS command reportPath pid argv agentId
  | .updatesPid run pid argv => own s run (updatePid (some pid) (some argv))
  | .marksFinalizing run => own s run markFinalizing
  | .finalizes run status errorTail nodeCount edgeCount =>
    if status = .running then none
    else own s run (finalizeScanHistory s.now status errorTail nodeCount edgeCount)
  | .starts pid argv => some { s with processes := fun other => if other = pid then some argv else s.processes other }
  | .exits pid => some { s with processes := fun other => if other = pid then none else s.processes other }
  | .writes path report => some { s with reports := fun other => if other = path then report else s.reports other }
  | .tick => some { s with now := s.now + 1 }

/-! ### What has to hold after a pass -/

def Terminal (s : Host) (run : Nat) : Prop := ∀ rec, s.rows[run]? = some rec → rec.status ≠ .running

/-- Every row that the pass has fetched and is done with is terminal, or watched by a
    thread of this process. When the queue is empty these are all that were running. -/
def Reconciled (s : Host) : Prop :=
  ∀ p, s.process = some p → ∀ run ∈ p.active, run ∉ p.queue → Terminal s run ∨ ∃ w ∈ p.watchers, w.run = run

/-- The row whose turn it is can be claimed: its recovery state is NULL, or it is
    `finalizing` and past its deadline. -/
def Claimable (s : Host) : Label → Prop
  | .claims => ∀ p run rest rec, s.process = some p → p.queue = run :: rest → s.rows[run]? = some rec →
      rec.status = .running →
      rec.recoveryState = none ∨ (rec.recoveryState = some .finalizing ∧ pastDeadline p.now rec = true)
  | _ => True

variable {getActive}

private structure Sound (s : Host) (p : Process) : Prop where
  distinct : p.active.Nodup
  queued : ∃ done, p.active = done ++ p.queue
  known : ∀ run ∈ p.active, run < s.rows.length
  unwatched : ∀ w ∈ p.watchers, w.run ∉ p.queue

private def Invariant (s : Host) : Prop := ∀ p, s.process = some p → Sound s p

/-! ### Rows -/

private theorem terminal_modify {s : Host} {run other : Nat} {f : ScanHistory → ScanHistory}
    (stays : ∀ rec, rec.status ≠ .running → (f rec).status ≠ .running) (terminal : Terminal s run)
    (process : Option Process) : Terminal { s with rows := s.rows.modify other f, process := process } run := by
  intro rec found
  simp only [List.getElem?_modify] at found
  obtain ⟨before, present, rfl⟩ := Option.map_eq_some_iff.mp found
  split_ifs
  · exact stays before (terminal before present)
  · exact terminal before present

private theorem terminal_finished {s : Host} {run : Nat} {f : ScanHistory → ScanHistory}
    (finishes : ∀ rec, (f rec).status ≠ .running) (process : Option Process) :
    Terminal { s with rows := s.rows.modify run f, process := process } run := by
  intro rec found
  simp only [List.getElem?_modify_eq] at found
  obtain ⟨before, -, rfl⟩ := Option.map_eq_some_iff.mp found
  exact finishes before

private theorem ingest_status (rec : ScanHistory) (nodeCount edgeCount : Nat) (degraded : Option String) :
    (ingestCompletedReport rec nodeCount edgeCount degraded).status ≠ .running := by
  simp [ingestCompletedReport]

private theorem reapFailed_status (now : Nat) (rec : ScanHistory) (reclaimedFinalizing : Bool) :
    (reapFailed now rec reclaimedFinalizing).status ≠ .running := by
  unfold reapFailed
  split_ifs <;> simp

/-! ### The pass -/

/-- What the steps of one process have in common: its pass stays the same or settles
    the row at the head of the queue, and the other rows stay terminal or watched. -/
private structure Later (s : Host) (p : Process) (t : Host) (q : Process) : Prop where
  active : q.active = p.active
  rows : s.rows.length ≤ t.rows.length
  queue : q.queue = p.queue ∨ ∃ run, p.queue = run :: q.queue
  watchers : ∀ w ∈ q.watchers, w.run ∉ q.queue
  settled : ∀ run, (Terminal s run ∨ ∃ w ∈ p.watchers, w.run = run) → run ∈ p.active →
    Terminal t run ∨ ∃ w ∈ q.watchers, w.run = run

private theorem sound_later {s t : Host} {p q : Process} (sound : Sound s p) (later : Later s p t q) : Sound t q := by
  obtain ⟨done, split⟩ := sound.queued
  refine ⟨later.active ▸ sound.distinct, ?_, fun run member => ?_, later.watchers⟩
  · rcases later.queue with same | ⟨run, popped⟩
    · exact ⟨done, by rw [later.active, same, split]⟩
    · exact ⟨done ++ [run], by rw [later.active, split, popped]; simp⟩
  · exact Nat.lt_of_lt_of_le (sound.known run (later.active ▸ member)) later.rows

private theorem watchers_later {s : Host} {p : Process} (sound : Sound s p) {run : Nat} {rest : List Nat}
    (head : p.queue = run :: rest) : ∀ w ∈ p.watchers, w.run ∉ rest := fun w member queued =>
  sound.unwatched w member (head ▸ List.mem_cons_of_mem run queued)

private theorem head_not_mem {s : Host} {p : Process} (sound : Sound s p) {run : Nat} {rest : List Nat}
    (head : p.queue = run :: rest) : run ∈ p.active ∧ run ∉ rest := by
  obtain ⟨done, split⟩ := sound.queued
  have distinct := sound.distinct
  rw [split, head] at distinct
  refine ⟨by rw [split, head]; exact List.mem_append_right _ List.mem_cons_self, ?_⟩
  exact (List.nodup_cons.mp (List.nodup_append.mp distinct).2.1).1

/-- A step that pops nothing keeps the property. -/
private theorem reconciled_kept {s t : Host} {p q : Process} (before : s.process = some p) (after : t.process = some q)
    (later : Later s p t q) (same : q.queue = p.queue) (reconciled : Reconciled s) : Reconciled t := by
  intro other current run member settled
  obtain rfl : q = other := by simpa [after] using current
  rw [later.active] at member
  exact later.settled run (reconciled p before run member (same ▸ settled)) member

/-- A step that pops a row keeps the property exactly if it has settled that row. -/
private theorem reconciled_popped {s t : Host} {p q : Process} (sound : Sound s p) (before : s.process = some p)
    (after : t.process = some q) (later : Later s p t q) {run : Nat} (head : p.queue = run :: q.queue)
    (reconciled : Reconciled s) : Reconciled t ↔ Terminal t run ∨ ∃ w ∈ q.watchers, w.run = run := by
  obtain ⟨inside, popped⟩ := head_not_mem sound head
  constructor
  · exact fun kept => kept q after run (later.active ▸ inside) popped
  · intro done other current each member settled
    obtain rfl : q = other := by simpa [after] using current
    by_cases same : each = run
    · exact same ▸ done
    · rw [later.active] at member
      refine later.settled each (reconciled p before each member ?_) member
      rw [head]
      exact List.not_mem_cons_of_ne_of_not_mem same settled

private theorem conditionally_stays (from_ to_ : Option RecoveryState) (rec : ScanHistory)
    (terminal : rec.status ≠ .running) : (conditionally rec from_ to_).2.status ≠ .running := by
  rw [conditionally_status]
  exact terminal

/-- A write that makes no terminal row run again, under an unchanged pass. -/
private theorem later_modify {s : Host} {p q : Process} (sound : Sound s p) (run : Nat) {f : ScanHistory → ScanHistory}
    (stays : ∀ rec, rec.status ≠ .running → (f rec).status ≠ .running) (active : q.active = p.active)
    (queue : q.queue = p.queue) (watchers : q.watchers = p.watchers) :
    Later s p { s with rows := s.rows.modify run f, process := some q } q := by
  refine ⟨active, by simp, .inl queue, by rw [watchers, queue]; exact sound.unwatched, fun other settled _ => ?_⟩
  rw [watchers]
  exact settled.imp_left fun terminal => terminal_modify stays terminal _

/-- A change of the host that leaves the rows and the process as they are. -/
private theorem later_host {s t : Host} {p : Process} (sound : Sound s p) (rows : t.rows = s.rows) : Later s p t p := by
  refine ⟨rfl, by rw [rows], .inl rfl, sound.unwatched, fun run settled _ => settled.imp_left fun terminal => ?_⟩
  intro rec found
  exact terminal rec (rows ▸ found)

/-! ### Every step -/

private def Outcome (s : Host) (l : Label) (t : Host) : Prop := Invariant t ∧ (Reconciled t ↔ Claimable s l)

private theorem invariant_later {s t : Host} {p q : Process} (sound : Sound s p) (after : t.process = some q)
    (later : Later s p t q) : Invariant t := by
  intro other current
  obtain rfl : q = other := by simpa [after] using current
  exact sound_later sound later

private theorem outcome_kept {s t : Host} {l : Label} {p q : Process} (sound : Sound s p)
    (reconciled : Reconciled s) (before : s.process = some p) (after : t.process = some q) (later : Later s p t q)
    (same : q.queue = p.queue) (met : Claimable s l) : Outcome s l t :=
  ⟨invariant_later sound after later, fun _ => met, fun _ => reconciled_kept before after later same reconciled⟩

private theorem outcome_popped {s t : Host} {l : Label} {p q : Process} (sound : Sound s p)
    (reconciled : Reconciled s) (before : s.process = some p) (after : t.process = some q) (later : Later s p t q)
    {run : Nat} (head : p.queue = run :: q.queue)
    (met : Claimable s l ↔ Terminal t run ∨ ∃ w ∈ q.watchers, w.run = run) : Outcome s l t :=
  ⟨invariant_later sound after later, by rw [met]; exact reconciled_popped sound before after later head reconciled⟩

/-- Without a process nothing is promised. -/
private theorem outcome_down {s t : Host} {l : Label} (down : t.process = none) (met : Claimable s l) :
    Outcome s l t :=
  ⟨fun p current => by simp [down] at current, fun _ => met, fun _ p current => by simp [down] at current⟩

private theorem claims_outcome {s t : Host} (inv : Invariant s) (reconciled : Reconciled s)
    (stepped : claims s = some t) : Outcome s .claims t := by
  unfold claims at stepped
  cases before : s.process with
  | none => simp [before] at stepped
  | some p =>
    have sound := inv p before
    obtain ⟨now, active, queue, stage, watchers, registry⟩ := p
    simp only [before] at stepped
    cases stage with
    | claimed _ => cases stepped
    | dead _ => cases stepped
    | next =>
      cases queue with
      | nil => cases stepped
      | cons run rest =>
        simp only at stepped
        cases found : s.rows[run]? with
        | none => simp [found] at stepped
        | some rec =>
          simp only [found] at stepped
          have here : Claimable s .claims ↔ (rec.status = .running → rec.recoveryState = none ∨
              (rec.recoveryState = some .finalizing ∧ pastDeadline now rec = true)) := by
            constructor
            · exact fun claimable => claimable _ run rest rec before rfl found
            · rintro claimable q other rest' rec' current head present
              obtain rfl := Option.some.inj (before.symm.trans current)
              obtain ⟨rfl, rfl⟩ := List.cons.inj head
              obtain rfl := Option.some.inj (found.symm.trans present)
              exact claimable
          split_ifs at stepped with claimed reclaimed
          · obtain rfl := Option.some.inj stepped
            refine outcome_kept sound reconciled before rfl
              (later_modify sound run (conditionally_stays _ _) rfl rfl rfl) rfl (here.mpr fun _ => .inl ?_)
            exact ((conditionally_matched _ _ _).mp claimed).2
          · obtain rfl := Option.some.inj stepped
            rw [Bool.and_eq_true] at reclaimed
            refine outcome_kept sound reconciled before rfl
              (later_modify sound run (conditionally_stays _ _) rfl rfl rfl) rfl (here.mpr fun _ => .inr ?_)
            exact ⟨((conditionally_matched _ _ _).mp reclaimed.2).2, reclaimed.1⟩
          · -- The row is skipped: it is settled only if it is terminal already.
            obtain rfl := Option.some.inj stepped
            refine outcome_popped sound reconciled before rfl
              ⟨rfl, Nat.le_refl _, .inr ⟨run, rfl⟩, watchers_later sound rfl, fun _ settled _ => settled⟩ rfl ?_
            rw [here]
            constructor
            · intro claimable
              refine .inl fun same present running => ?_
              obtain rfl := Option.some.inj (found.symm.trans present)
              rcases claimable running with null | ⟨finalizing, past⟩
              · exact claimed ((conditionally_matched _ _ _).mpr ⟨running, null⟩)
              · refine reclaimed ?_
                rw [Bool.and_eq_true]
                exact ⟨past, (conditionally_matched _ _ _).mpr ⟨running, finalizing⟩⟩
            · rintro (terminal | ⟨w, member, same⟩) running
              · exact absurd running (terminal rec found)
              · exact absurd (same ▸ List.mem_cons_self) (sound.unwatched w member)

private theorem checksEngine_outcome {s t : Host} (inv : Invariant s) (reconciled : Reconciled s)
    (stepped : checksEngine s = some t) : Outcome s .checksEngine t := by
  unfold checksEngine at stepped
  cases before : s.process with
  | none => simp [before] at stepped
  | some p =>
    have sound := inv p before
    obtain ⟨now, active, queue, stage, watchers, registry⟩ := p
    simp only [before] at stepped
    cases stage with
    | next => cases stepped
    | dead _ => cases stepped
    | claimed reclaimedFinalizing =>
      cases queue with
      | nil => cases stepped
      | cons run rest =>
        simp only at stepped
        cases found : s.rows[run]? with
        | none => simp [found] at stepped
        | some rec =>
          simp only [found] at stepped
          split_ifs at stepped with alive
          · obtain rfl := Option.some.inj stepped
            have watched : ∃ w ∈ watchers ++ [(⟨run, rec.enginePid.getD 0, rec.reportPath⟩ : Watcher)], w.run = run :=
              ⟨_, List.mem_append_right _ List.mem_cons_self, rfl⟩
            refine outcome_popped sound reconciled before rfl ⟨rfl, Nat.le_refl _, .inr ⟨run, rfl⟩, ?_, ?_⟩ rfl
              ⟨fun _ => .inr watched, fun _ => trivial⟩
            · intro w member
              rcases List.mem_append.mp member with old | new
              · exact watchers_later sound rfl w old
              · obtain rfl := List.mem_singleton.mp new
                exact (head_not_mem sound rfl).2
            · exact fun _ settled _ =>
                settled.imp_right fun ⟨w, member, same⟩ => ⟨w, List.mem_append_left _ member, same⟩
          · obtain rfl := Option.some.inj stepped
            exact outcome_kept sound reconciled before rfl
              ⟨rfl, Nat.le_refl _, .inl rfl, sound.unwatched, fun _ settled _ => settled⟩ rfl trivial

private theorem checksReport_outcome {s t : Host} (inv : Invariant s) (reconciled : Reconciled s)
    {degraded : Option String} (stepped : checksReport s degraded = some t) : Outcome s (.checksReport degraded) t := by
  unfold checksReport at stepped
  cases before : s.process with
  | none => simp [before] at stepped
  | some p =>
    have sound := inv p before
    obtain ⟨now, active, queue, stage, watchers, registry⟩ := p
    simp only [before] at stepped
    cases stage with
    | next => cases stepped
    | claimed _ => cases stepped
    | dead reclaimedFinalizing =>
      cases queue with
      | nil => cases stepped
      | cons run rest =>
        simp only at stepped
        cases found : s.rows[run]? with
        | none => simp [found] at stepped
        | some rec =>
          simp only [found, Option.some.injEq] at stepped
          subst stepped
          have finished : ∀ other : ScanHistory, (recordFinish s.now (match reportOf s rec.reportPath with
              | .complete nodeCount edgeCount => ingestCompletedReport rec nodeCount edgeCount degraded
              | .missing | .partial_ => reapFailed now rec reclaimedFinalizing) other).status ≠ .running := by
            intro other
            simp only [recordFinish]
            split
            · exact ingest_status _ _ _ _
            · exact reapFailed_status _ _ _
            · exact reapFailed_status _ _ _
          refine outcome_popped sound reconciled before rfl ⟨rfl, by simp, .inr ⟨run, rfl⟩,
            watchers_later sound rfl, fun other settled _ => ?_⟩ rfl
            ⟨fun _ => .inl (terminal_finished finished _), fun _ => trivial⟩
          exact settled.imp_left fun terminal => terminal_modify (fun other _ => finished other) terminal _

private theorem watches_outcome {s t : Host} (inv : Invariant s) (reconciled : Reconciled s) {k : Nat}
    {degraded : Option String} (stepped : watches s k degraded = some t) : Outcome s (.watches k degraded) t := by
  unfold watches at stepped
  cases before : s.process with
  | none => simp [before] at stepped
  | some p =>
    have sound := inv p before
    simp only [before] at stepped
    cases present : p.watchers[k]? with
    | none => simp [present] at stepped
    | some watcher =>
      simp only [present] at stepped
      split_ifs at stepped with alive
      · obtain rfl := Option.some.inj stepped
        exact outcome_kept sound reconciled before before (later_host sound rfl) rfl trivial
      · obtain rfl := Option.some.inj stepped
        have finished : ∀ other : ScanHistory, (recordFinish s.now (match reportOf s watcher.reportPath with
            | .complete nodeCount edgeCount => ingestCompletedReport other nodeCount edgeCount degraded
            | .missing | .partial_ => watchFailed) other).status ≠ .running := by
          intro other
          simp only [recordFinish]
          split
          · exact ingest_status _ _ _ _
          · simp [watchFailed]
          · simp [watchFailed]
        refine outcome_kept sound reconciled before rfl ⟨rfl, by simp, .inl rfl, ?_, fun run settled _ => ?_⟩ rfl trivial
        · exact fun w member => sound.unwatched w (List.mem_of_mem_eraseIdx member)
        · rcases settled with terminal | ⟨w, member, rfl⟩
          · exact .inl (terminal_modify (fun other _ => finished other) terminal _)
          · -- The thread that ends has finished the row it watched.
            by_cases same : w.run = watcher.run
            · rw [same]
              exact .inl (terminal_finished finished _)
            · obtain ⟨i, at_i⟩ := List.getElem?_of_mem member
              refine .inr ⟨w, List.mem_eraseIdx_iff_getElem?.mpr ⟨i, fun here => same ?_, at_i⟩, rfl⟩
              rw [here, present, Option.some.injEq] at at_i
              rw [at_i]

private theorem own_outcome {s t : Host} {l : Label} (inv : Invariant s) (reconciled : Reconciled s) {run : Nat}
    {f : ScanHistory → ScanHistory} (stays : ∀ rec, rec.status ≠ .running → (f rec).status ≠ .running)
    (met : Claimable s l) (stepped : own s run f = some t) : Outcome s l t := by
  unfold own at stepped
  cases before : s.process with
  | none => simp [before] at stepped
  | some p =>
    simp only [before] at stepped
    split_ifs at stepped
    obtain rfl := Option.some.inj stepped
    have later := later_modify (inv p before) run stays (p := p) rfl rfl rfl
    exact outcome_kept (inv p before) reconciled before rfl later rfl met

private theorem boot_outcome {s t : Host} (stepped : boot getActive s = some t) : Outcome s .boot t := by
  unfold boot at stepped
  cases before : s.process with
  | some p => simp [before] at stepped
  | none =>
    simp only [before, Option.some.injEq] at stepped
    subst stepped
    refine ⟨fun p current => ?_, fun _ => trivial, fun _ p current run member popped => ?_⟩
    · obtain rfl := Option.some.inj current
      refine ⟨(List.nodup_range).filter _, ⟨[], rfl⟩, fun run member => ?_, by simp⟩
      exact List.mem_range.mp (List.mem_filter.mp member).1
    · obtain rfl := Option.some.inj current
      exact absurd member popped

private theorem launches_outcome {s t : Host} {l : Label} (inv : Invariant s) (reconciled : Reconciled s)
    {timeoutS pid : Nat} {command reportPath : String} {argv : List String} {agentId : Option Nat}
    (stepped : launches s timeoutS command reportPath pid argv agentId = some t) (met : Claimable s l) :
    Outcome s l t := by
  unfold launches at stepped
  cases before : s.process with
  | none => simp [before] at stepped
  | some p =>
    simp only [before] at stepped
    split_ifs at stepped
    obtain rfl := Option.some.inj stepped
    refine outcome_kept (inv p before) reconciled before rfl ⟨rfl, by simp, .inl rfl, (inv p before).unwatched,
      fun run settled member => settled.imp_left fun terminal rec found => ?_⟩ rfl met
    simp only [List.getElem?_append_left ((inv p before).known run member)] at found
    exact terminal rec found

/-- A change of the host alone. -/
private theorem host_outcome {s t : Host} {l : Label} (inv : Invariant s) (reconciled : Reconciled s)
    (process : t.process = s.process) (rows : t.rows = s.rows) (met : Claimable s l) : Outcome s l t := by
  cases before : s.process with
  | none => exact outcome_down (process.trans before) met
  | some p =>
    exact outcome_kept (inv p before) reconciled before (process.trans before) (later_host (inv p before) rows) rfl met

private theorem step_outcome {s t : Host} {l : Label} (inv : Invariant s) (reconciled : Reconciled s)
    (stepped : step getActive s l = some t) : Outcome s l t := by
  cases l with
  | boot => exact boot_outcome stepped
  | crash =>
    obtain ⟨p, -, rfl⟩ := Option.map_eq_some_iff.mp stepped
    exact outcome_down rfl trivial
  | claims => exact claims_outcome inv reconciled stepped
  | checksEngine => exact checksEngine_outcome inv reconciled stepped
  | checksReport degraded => exact checksReport_outcome inv reconciled stepped
  | watches k degraded => exact watches_outcome inv reconciled stepped
  | launches => exact launches_outcome inv reconciled stepped trivial
  | updatesPid run pid argv =>
    exact own_outcome (f := updatePid (some pid) (some argv)) inv reconciled (fun _ => id) trivial stepped
  | marksFinalizing run =>
    refine own_outcome inv reconciled (fun rec terminal => ?_) trivial stepped
    rw [markFinalizing_status]
    exact terminal
  | finalizes run status errorTail nodeCount edgeCount =>
    simp only [step] at stepped
    split_ifs at stepped with running
    exact own_outcome inv reconciled (fun _ _ => running) trivial stepped
  | starts pid argv =>
    obtain rfl := Option.some.inj stepped
    exact host_outcome inv reconciled rfl rfl trivial
  | exits pid =>
    obtain rfl := Option.some.inj stepped
    exact host_outcome inv reconciled rfl rfl trivial
  | writes path report =>
    obtain rfl := Option.some.inj stepped
    exact host_outcome inv reconciled rfl rfl trivial
  | tick =>
    obtain rfl := Option.some.inj stepped
    exact host_outcome inv reconciled rfl rfl trivial

/-- Over all crashes and restarts, every row that a pass has fetched and dealt with is
    terminal or watched by the process that runs, if and only if each row still running
    when its turn comes can be claimed. -/
theorem reaped_iff_claimable (getActive : Option Nat → Bool) (labels : List Label) :
    Always (step getActive) Reconciled Host.init labels ↔ Meets (step getActive) Claimable Host.init labels :=
  always_iff_meets Invariant (fun _ _ _ inv reconciled stepped _ => (step_outcome inv reconciled stepped).1)
    (fun _ _ _ inv reconciled stepped => (step_outcome inv reconciled stepped).2)
    (by simp [Invariant, Host.init]) (by simp [Reconciled, Host.init])

/-! ### A claim that has lost its process -/

private structure Stranded (run : Nat) (rec : ScanHistory) (s : Host) : Prop where
  row : s.rows[run]? = some rec
  unowned : ∀ p, s.process = some p → run ∉ p.registry
  unwatched : ∀ p, s.process = some p → ∀ w ∈ p.watchers, w.run ≠ run
  unclaimed : ∀ p, s.process = some p → p.stage ≠ .next → p.queue.head? ≠ some run

section
variable {run : Nat} {rec : ScanHistory}

private theorem stranded_with {t : Host} {q : Process} (after : t.process = some q) (row : t.rows[run]? = some rec)
    (unowned : run ∉ q.registry) (unwatched : ∀ w ∈ q.watchers, w.run ≠ run)
    (unclaimed : q.stage ≠ .next → q.queue.head? ≠ some run) : Stranded run rec t := by
  refine ⟨row, ?_, ?_, ?_⟩ <;> rintro p current <;> obtain rfl := Option.some.inj (after.symm.trans current)
  · exact unowned
  · exact unwatched
  · exact unclaimed

private theorem stranded_down {t : Host} (down : t.process = none) (row : t.rows[run]? = some rec) :
    Stranded run rec t := by
  refine ⟨row, ?_, ?_, ?_⟩ <;> simp [down]

private theorem elsewhere {s : Host} (row : s.rows[run]? = some rec) {other : Nat} {f : ScanHistory → ScanHistory}
    (apart : other ≠ run) : (s.rows.modify other f)[run]? = some rec := by
  rw [List.getElem?_modify_ne _ _ apart]
  exact row

/-- Whichever `UPDATE` of the pass matches a row, it does not match a claimed one. -/
private theorem claims_stranded {s t : Host} (claimed : rec.recoveryState = some .claimed)
    (stranded : Stranded run rec s) (stepped : claims s = some t) : Stranded run rec t := by
  unfold claims at stepped
  cases before : s.process with
  | none => simp [before] at stepped
  | some p =>
    have unowned := stranded.unowned p before
    have unwatched := stranded.unwatched p before
    obtain ⟨now, active, queue, stage, watchers, registry⟩ := p
    simp only [before] at stepped
    cases stage with
    | claimed _ => cases stepped
    | dead _ => cases stepped
    | next =>
      cases queue with
      | nil => cases stepped
      | cons head rest =>
        simp only at stepped
        cases found : s.rows[head]? with
        | none => simp [found] at stepped
        | some other =>
          simp only [found] at stepped
          have apart {from_ : Option RecoveryState} (different : from_ ≠ some .claimed)
              (matched : (conditionally other from_ (some .claimed)).1 = true) : head ≠ run := by
            rintro rfl
            obtain rfl := Option.some.inj (stranded.row.symm.trans found)
            exact different (((conditionally_matched _ _ _).mp matched).2.symm.trans claimed)
          split_ifs at stepped with first second
          · obtain rfl := Option.some.inj stepped
            have differs := apart (by simp) first
            exact stranded_with rfl (elsewhere stranded.row differs) unowned unwatched
              fun _ same => differs (Option.some.inj same)
          · obtain rfl := Option.some.inj stepped
            have differs := apart (by simp) (Bool.and_eq_true_iff.mp second).2
            exact stranded_with rfl (elsewhere stranded.row differs) unowned unwatched
              fun _ same => differs (Option.some.inj same)
          · obtain rfl := Option.some.inj stepped
            exact stranded_with rfl stranded.row unowned unwatched fun busy => absurd rfl busy

private theorem checksEngine_stranded {s t : Host} (stranded : Stranded run rec s)
    (stepped : checksEngine s = some t) : Stranded run rec t := by
  unfold checksEngine at stepped
  cases before : s.process with
  | none => simp [before] at stepped
  | some p =>
    have unowned := stranded.unowned p before
    have unwatched := stranded.unwatched p before
    have unclaimed := stranded.unclaimed p before
    obtain ⟨now, active, queue, stage, watchers, registry⟩ := p
    simp only [before] at stepped
    cases stage with
    | next => cases stepped
    | dead _ => cases stepped
    | claimed reclaimedFinalizing =>
      cases queue with
      | nil => cases stepped
      | cons head rest =>
        have differs : head ≠ run := fun same => unclaimed (by simp) (congrArg some same)
        simp only at stepped
        cases found : s.rows[head]? with
        | none => simp [found] at stepped
        | some other =>
          simp only [found] at stepped
          split_ifs at stepped with alive
          · obtain rfl := Option.some.inj stepped
            refine stranded_with rfl stranded.row unowned (fun w member => ?_) fun busy => absurd rfl busy
            rcases List.mem_append.mp member with old | new
            · exact unwatched w old
            · obtain rfl := List.mem_singleton.mp new
              exact differs
          · obtain rfl := Option.some.inj stepped
            exact stranded_with rfl stranded.row unowned unwatched fun _ same => differs (Option.some.inj same)

private theorem checksReport_stranded {s t : Host} (stranded : Stranded run rec s) {degraded : Option String}
    (stepped : checksReport s degraded = some t) : Stranded run rec t := by
  unfold checksReport at stepped
  cases before : s.process with
  | none => simp [before] at stepped
  | some p =>
    have unowned := stranded.unowned p before
    have unwatched := stranded.unwatched p before
    have unclaimed := stranded.unclaimed p before
    obtain ⟨now, active, queue, stage, watchers, registry⟩ := p
    simp only [before] at stepped
    cases stage with
    | next => cases stepped
    | claimed _ => cases stepped
    | dead reclaimedFinalizing =>
      cases queue with
      | nil => cases stepped
      | cons head rest =>
        have differs : head ≠ run := fun same => unclaimed (by simp) (congrArg some same)
        simp only at stepped
        cases found : s.rows[head]? with
        | none => simp [found] at stepped
        | some other =>
          simp only [found, Option.some.injEq] at stepped
          subst stepped
          exact stranded_with rfl (elsewhere stranded.row differs) unowned unwatched fun busy => absurd rfl busy

private theorem watches_stranded {s t : Host} (stranded : Stranded run rec s) {k : Nat} {degraded : Option String}
    (stepped : watches s k degraded = some t) : Stranded run rec t := by
  unfold watches at stepped
  cases before : s.process with
  | none => simp [before] at stepped
  | some p =>
    have unwatched := stranded.unwatched p before
    simp only [before] at stepped
    cases present : p.watchers[k]? with
    | none => simp [present] at stepped
    | some watcher =>
      simp only [present] at stepped
      split_ifs at stepped with alive
      · obtain rfl := Option.some.inj stepped
        exact stranded
      · obtain rfl := Option.some.inj stepped
        exact stranded_with rfl (elsewhere stranded.row (unwatched watcher (List.mem_of_getElem? present)))
          (stranded.unowned p before) (fun w member => unwatched w (List.mem_of_mem_eraseIdx member))
          (stranded.unclaimed p before)

private theorem launches_stranded {s t : Host} (stranded : Stranded run rec s) {timeoutS pid : Nat}
    {command reportPath : String} {argv : List String} {agentId : Option Nat}
    (stepped : launches s timeoutS command reportPath pid argv agentId = some t) : Stranded run rec t := by
  unfold launches at stepped
  cases before : s.process with
  | none => simp [before] at stepped
  | some p =>
    simp only [before] at stepped
    split_ifs at stepped
    obtain rfl := Option.some.inj stepped
    obtain ⟨known, -⟩ := List.getElem?_eq_some_iff.mp stranded.row
    refine stranded_with rfl ?_ (fun member => ?_) (stranded.unwatched p before) (stranded.unclaimed p before)
    · rw [List.getElem?_append_left known]
      exact stranded.row
    · rcases List.mem_append.mp member with old | new
      · exact stranded.unowned p before old
      · exact absurd (List.mem_singleton.mp new) (Nat.ne_of_lt known)

private theorem own_stranded {s t : Host} (stranded : Stranded run rec s) {other : Nat}
    {f : ScanHistory → ScanHistory} (stepped : own s other f = some t) : Stranded run rec t := by
  unfold own at stepped
  cases before : s.process with
  | none => simp [before] at stepped
  | some p =>
    simp only [before] at stepped
    split_ifs at stepped with launched
    obtain rfl := Option.some.inj stepped
    have differs : other ≠ run := fun same => stranded.unowned p before (same ▸ launched)
    exact stranded_with rfl (elsewhere stranded.row differs) (stranded.unowned p before)
      (stranded.unwatched p before) (stranded.unclaimed p before)

private theorem stranded_step {s t : Host} {l : Label} (claimed : rec.recoveryState = some .claimed)
    (stranded : Stranded run rec s) (stepped : step getActive s l = some t) : Stranded run rec t := by
  cases l with
  | boot =>
    simp only [step, boot] at stepped
    cases before : s.process with
    | some p => simp [before] at stepped
    | none =>
      simp only [before, Option.some.injEq] at stepped
      subst stepped
      exact stranded_with rfl stranded.row (by simp) (by simp) fun busy => absurd rfl busy
  | crash =>
    obtain ⟨p, -, rfl⟩ := Option.map_eq_some_iff.mp stepped
    exact stranded_down rfl stranded.row
  | claims => exact claims_stranded claimed stranded stepped
  | checksEngine => exact checksEngine_stranded stranded stepped
  | checksReport degraded => exact checksReport_stranded stranded stepped
  | watches k degraded => exact watches_stranded stranded stepped
  | launches => exact launches_stranded stranded stepped
  | updatesPid other pid argv => exact own_stranded stranded (f := updatePid (some pid) (some argv)) stepped
  | marksFinalizing other => exact own_stranded stranded stepped
  | finalizes other status errorTail nodeCount edgeCount =>
    simp only [step] at stepped
    split_ifs at stepped
    exact own_stranded stranded stepped
  | starts pid argv =>
    obtain rfl := Option.some.inj stepped
    exact ⟨stranded.row, stranded.unowned, stranded.unwatched, stranded.unclaimed⟩
  | exits pid =>
    obtain rfl := Option.some.inj stepped
    exact ⟨stranded.row, stranded.unowned, stranded.unwatched, stranded.unclaimed⟩
  | writes path report =>
    obtain rfl := Option.some.inj stepped
    exact ⟨stranded.row, stranded.unowned, stranded.unwatched, stranded.unclaimed⟩
  | tick =>
    obtain rfl := Option.some.inj stepped
    exact ⟨stranded.row, stranded.unowned, stranded.unwatched, stranded.unclaimed⟩

/-- A claimed row whose process has died keeps its status and its claim, and gets no
    watcher, over all later boots, whatever becomes of its engine and its report. -/
theorem claimed_stays_stranded {s t : Host} {labels : List Label} (down : s.process = none)
    (row : s.rows[run]? = some rec) (claimed : rec.recoveryState = some .claimed)
    (ran : Transition.run (step getActive) s labels = some t) :
    t.rows[run]? = some rec ∧ ∀ p, t.process = some p → ∀ w ∈ p.watchers, w.run ≠ run := by
  have stranded := run_invariant (Stranded run rec) (fun _ _ _ kept stepped => stranded_step claimed kept stepped)
    (stranded_down down row) ran
  exact ⟨stranded.row, stranded.unwatched⟩

end

/-- Two restarts: the first claims the row and watches its live engine, the engine ends
    with a complete report while the process is down, and the second passes the row over. -/
theorem claim_outlives_process : ∃ labels t, Transition.run (step getActiveForRecovery) Host.init labels = some t ∧
    ¬ Reconciled t ∧ (∀ p, t.process = some p → p.booted = true) ∧
    t.rows.map (fun rec => (rec.status, rec.recoveryState)) = [(.running, some .claimed)] ∧
    (∀ pid, pidAlive t pid = false) ∧ t.reports "report.json" = .complete 2 1 := by
  let argv := ["marlinspike", "capture.pcap"]
  refine ⟨[.boot, .launches 3600 "chain" "report.json" 7 argv none, .crash, .boot, .claims, .checksEngine, .crash,
    .writes "report.json" (.complete 2 1), .exits 7, .boot, .claims], _, rfl, fun reconciled => ?_, ?_, rfl, ?_, rfl⟩
  · rcases reconciled _ rfl 0 (by decide) (by decide) with terminal | ⟨w, member, -⟩
    · exact terminal _ rfl rfl
    · simp at member
  · rintro p current
    obtain rfl := Option.some.inj current
    rfl
  · intro pid
    by_cases same : pid = 7 <;> simp [pidAlive, same, Host.init]

/-- A restart that claims a row, and another crash. -/
def claimedOnce : List Label :=
  [.boot, .launches 3600 "chain" "report.json" 7 ["marlinspike", "capture.pcap"] none, .crash, .boot, .claims,
    .checksEngine, .crash]

/-- The next restart passes the row over. -/
theorem claimed_stays_stranded_once : ∃ s t rec,
    Transition.run (step getActiveForRecovery) Host.init claimedOnce = some s ∧ rec.recoveryState = some .claimed ∧
    Transition.run (step getActiveForRecovery) s [.exits 7, .boot, .claims] = some t ∧ t.rows[0]? = some rec := by
  let s := (Transition.run (step getActiveForRecovery) Host.init claimedOnce).getD Host.init
  let t := (Transition.run (step getActiveForRecovery) s [.exits 7, .boot, .claims]).getD s
  have ran : Transition.run (step getActiveForRecovery) s [.exits 7, .boot, .claims] = some t := rfl
  have down : s.process = none := rfl
  let fresh := recordStart 0 3600 "chain" "report.json" (some 7) (some ["marlinspike", "capture.pcap"]) none
  have row : s.rows[0]? = some (claimForRecovery fresh).2 := rfl
  exact ⟨s, t, _, rfl, rfl, ran, (claimed_stays_stranded down row rfl ran).1⟩

end

end Marlinspike.Recovery.Reaper
