import Marlinspike.Engine.Launchers
import Marlinspike.Recovery.Reaper

/-!
The status of a scan whose engine has exited with 0, as the web worker records it and as
recovery does. The worker goes by the exit, recovery by the last stage of the chain in the
report: they agree exactly on the runs of the chain that have not been stopped early
(`recovered_completed_iff`).
-/
namespace Marlinspike.Recovery.Verdicts
open Marlinspike.Transition
open Marlinspike.Recovery Marlinspike.Recovery.RunStore
open Marlinspike.Recovery.Reaper
open Marlinspike.Engine
open Marlinspike.Engine.Commands (Command Output)
open Marlinspike.Engine.Shutdown
open Marlinspike.Engine.Launchers (reportComplete finalStatus)

/-! ### Watchers watch the report of their row -/

/-- A row's report path, as long as the row is there. -/
def pathOf (rows : List ScanHistory) (run : Nat) : Option (Option String) := rows[run]?.map ScanHistory.reportPath

def WatchersMatch (s : Host) : Prop :=
  ∀ p ∈ s.process, ∀ w ∈ p.watchers, pathOf s.rows w.run = some w.reportPath

theorem pathOf_modify {rows : List ScanHistory} {f : ScanHistory → ScanHistory}
    (keeps : ∀ rec, (f rec).reportPath = rec.reportPath) (other run : Nat) :
    pathOf (rows.modify other f) run = pathOf rows run := by
  unfold pathOf
  rw [List.getElem?_modify]
  cases rows[run]? with
  | none => rfl
  | some rec =>
    by_cases same : other = run
    · simp [same, keeps]
    · simp [same]

theorem conditionally_path (rec : ScanHistory) (from_ to_ : Option RecoveryState) :
    (conditionally rec from_ to_).2.reportPath = rec.reportPath := by
  unfold conditionally
  split_ifs <;> rfl

theorem markFinalizing_path (rec : ScanHistory) : (markFinalizing rec).reportPath = rec.reportPath := by
  unfold markFinalizing
  split_ifs <;> rfl

/-- Watchers that were there before, over rows whose paths are kept. -/
theorem watchersMatch_kept {s t : Host} {p q : Process} (matched : WatchersMatch s) (before : s.process = some p)
    (after : t.process = some q) (watchers : q.watchers ⊆ p.watchers)
    (paths : ∀ run path, pathOf s.rows run = some path → pathOf t.rows run = some path) : WatchersMatch t := by
  intro r current w member
  obtain rfl : q = r := by simpa [after] using current
  exact paths _ _ (matched p before w (watchers member))

theorem watchersMatch_modify {s t : Host} {p q : Process} (matched : WatchersMatch s) (before : s.process = some p)
    (after : t.process = some q) (watchers : q.watchers ⊆ p.watchers) {run : Nat} {f : ScanHistory → ScanHistory}
    (rows : t.rows = s.rows.modify run f) (keeps : ∀ rec, (f rec).reportPath = rec.reportPath) : WatchersMatch t :=
  watchersMatch_kept matched before after watchers fun other path found => by rwa [rows, pathOf_modify keeps]

theorem watchersMatch_down {t : Host} (down : t.process = none) : WatchersMatch t := by
  intro p current
  simp [down] at current

theorem watchersMatch_claims {s t : Host} (matched : WatchersMatch s) (steps : claims s = some t) :
    WatchersMatch t := by
  unfold claims at steps
  split at steps
  · cases steps
  rename_i p before
  split at steps
  · split at steps
    · cases steps
    split_ifs at steps
    · cases steps
      exact watchersMatch_modify matched before rfl (List.Subset.refl _) rfl fun rec => conditionally_path rec _ _
    · cases steps
      exact watchersMatch_modify matched before rfl (List.Subset.refl _) rfl fun rec => conditionally_path rec _ _
    · cases steps
      exact watchersMatch_kept matched before rfl (List.Subset.refl _) fun _ _ found => found
  · cases steps

theorem watchersMatch_checksEngine {s t : Host} (matched : WatchersMatch s) (steps : checksEngine s = some t) :
    WatchersMatch t := by
  unfold checksEngine at steps
  split at steps
  · cases steps
  rename_i p before
  split at steps
  · rename_i run rest stage queue
    split at steps
    · cases steps
    rename_i rec row
    split_ifs at steps
    · cases steps
      rintro _ ⟨⟩ w member
      rcases List.mem_append.mp member with old | new
      · exact matched p before w old
      · obtain rfl := List.mem_singleton.mp new
        simp [pathOf, row]
    · cases steps
      exact watchersMatch_kept matched before rfl (List.Subset.refl _) fun _ _ found => found
  · cases steps

theorem watchersMatch_checksReport {s t : Host} (matched : WatchersMatch s) {degraded : Option String}
    (steps : checksReport s degraded = some t) : WatchersMatch t := by
  unfold checksReport at steps
  split at steps
  · cases steps
  rename_i p before
  split at steps
  · split at steps
    · cases steps
    cases steps
    exact watchersMatch_modify matched before rfl (List.Subset.refl _) rfl fun _ => rfl
  · cases steps

theorem watchersMatch_watches {s t : Host} (matched : WatchersMatch s) {k : Nat} {degraded : Option String}
    (steps : watches s k degraded = some t) : WatchersMatch t := by
  unfold watches at steps
  split at steps
  · cases steps
  rename_i p before
  split at steps
  · cases steps
  split_ifs at steps
  · cases steps
    exact matched
  · cases steps
    exact watchersMatch_modify matched before rfl (List.eraseIdx_subset ..) rfl fun _ => rfl

theorem watchersMatch_own {s t : Host} (matched : WatchersMatch s) {run : Nat} {write : ScanHistory → ScanHistory}
    (steps : own s run write = some t) (keeps : ∀ rec, (write rec).reportPath = rec.reportPath) :
    WatchersMatch t := by
  unfold own at steps
  split at steps
  · cases steps
  rename_i p before
  split_ifs at steps
  cases steps
  exact watchersMatch_modify matched before before (List.Subset.refl _) rfl keeps

theorem watchersMatch_launches {s t : Host} (matched : WatchersMatch s) {timeoutS pid : Nat}
    {command reportPath : String} {argv : List String} {agentId : Option Nat}
    (steps : launches s timeoutS command reportPath pid argv agentId = some t) : WatchersMatch t := by
  unfold launches at steps
  split at steps
  · cases steps
  rename_i p before
  split_ifs at steps
  cases steps
  refine watchersMatch_kept matched before rfl (List.Subset.refl _) fun run path found => ?_
  obtain ⟨rec, row, same⟩ := Option.map_eq_some_iff.mp found
  have present := (List.getElem?_eq_some_iff.mp row).1
  unfold pathOf
  rw [List.getElem?_append_left present]
  exact found

variable {getActive : Option Nat → Bool}

theorem watchersMatch_step {s t : Host} {label : Label} (matched : WatchersMatch s)
    (steps : step getActive s label = some t) : WatchersMatch t := by
  cases label with
  | boot =>
    change boot getActive s = some t at steps
    unfold boot at steps
    split at steps
    · cases steps
    · cases steps
      rintro _ ⟨⟩ w ⟨⟩
  | crash =>
    obtain ⟨p, -, rfl⟩ := Option.map_eq_some_iff.mp steps
    exact watchersMatch_down rfl
  | claims => exact watchersMatch_claims matched steps
  | checksEngine => exact watchersMatch_checksEngine matched steps
  | checksReport degraded => exact watchersMatch_checksReport matched steps
  | watches k degraded => exact watchersMatch_watches matched steps
  | launches timeoutS command reportPath pid argv agentId => exact watchersMatch_launches matched steps
  | updatesPid run pid argv => exact watchersMatch_own matched steps fun _ => rfl
  | marksFinalizing run => exact watchersMatch_own matched steps markFinalizing_path
  | finalizes run status errorTail nodeCount edgeCount =>
    change (if status = .running then none else _) = some t at steps
    split_ifs at steps
    exact watchersMatch_own matched steps fun _ => rfl
  | starts pid argv =>
    cases steps
    exact matched
  | exits pid =>
    cases steps
    exact matched
  | writes path report =>
    cases steps
    exact matched
  | tick =>
    cases steps
    exact matched

/-! ### The verdict -/

/-- Recovery settles a row, by the pass or by a watcher. -/
structure Settles (getActive : Option Nat → Bool) (s : Host) (label : Label) (t : Host) (run : Nat)
    (rec settled : ScanHistory) : Prop where
  steps : step getActive s label = some t
  recovers : (∃ degraded, label = .checksReport degraded) ∨ ∃ k degraded, label = .watches k degraded
  row : s.rows[run]? = some rec
  running : rec.status = .running
  after : t.rows[run]? = some settled
  terminal : settled.status ≠ .running

theorem settled_row {rows : List ScanHistory} {other run now : Nat} {finish : ScanHistory → Finish}
    {rec settled : ScanHistory} (row : rows[run]? = some rec) (running : rec.status = .running)
    (after : (rows.modify other fun rec => recordFinish now (finish rec) rec)[run]? = some settled)
    (terminal : settled.status ≠ .running) : other = run ∧ settled.status = (finish rec).status := by
  rw [List.getElem?_modify, row, Option.map_eq_map, Option.map_some] at after
  by_cases same : other = run
  · rw [if_pos same] at after
    cases after
    exact ⟨same, rfl⟩
  · rw [if_neg same] at after
    cases after
    exact absurd running terminal

/-- A row is settled as completed exactly if its report is complete. -/
theorem settled_completed_iff {s t : Host} {label : Label} {run : Nat} {rec settled : ScanHistory}
    (matched : WatchersMatch s) (settles : Settles getActive s label t run rec settled) :
    settled.status = .completed ↔ ∃ nodeCount edgeCount, reportOf s rec.reportPath = .complete nodeCount edgeCount := by
  obtain ⟨steps, recovers, row, running, after, terminal⟩ := settles
  rcases recovers with ⟨degraded, rfl⟩ | ⟨k, degraded, rfl⟩
  · change checksReport s degraded = some t at steps
    unfold checksReport at steps
    split at steps
    · cases steps
    rename_i p before
    split at steps
    · rename_i reclaimed head rest stage queue
      split at steps
      · cases steps
      rename_i found claimed
      cases steps
      obtain ⟨rfl, status⟩ := settled_row row running after terminal
      obtain rfl : rec = found := Option.some.inj (row.symm.trans claimed)
      rw [status]
      cases reportOf s rec.reportPath with
      | complete nodeCount edgeCount => simp [ingestCompletedReport]
      | missing =>
        unfold reapFailed
        split_ifs <;> simp
      | partial_ =>
        unfold reapFailed
        split_ifs <;> simp
    · cases steps
  · change watches s k degraded = some t at steps
    unfold watches at steps
    split at steps
    · cases steps
    rename_i p before
    split at steps
    · cases steps
    rename_i w watching
    split_ifs at steps
    · cases steps
      obtain rfl : rec = settled := Option.some.inj (row.symm.trans after)
      exact absurd running terminal
    · cases steps
      obtain ⟨rfl, status⟩ := settled_row row running after terminal
      have path := matched p before w (List.mem_of_getElem? watching)
      rw [pathOf, row] at path
      rw [status, Option.some.inj path]
      cases reportOf s w.reportPath with
      | complete nodeCount edgeCount => simp [ingestCompletedReport]
      | missing => simp [watchFailed]
      | partial_ => simp [watchFailed]

/-! ### The report of an engine that has exited with 0 -/

/-- What recovery finds in the engine's output. -/
def reportFile (output : Output) (nodeCount edgeCount : Nat) : Report :=
  match output with
  | .missing => .missing
  | .cut => .partial_
  | .saved completedStages =>
    if reportComplete (.saved completedStages) then .complete nodeCount edgeCount else .partial_

theorem reportFile_complete_iff (output : Output) (nodeCount edgeCount : Nat) :
    (∃ n e, reportFile output nodeCount edgeCount = .complete n e) ↔ reportComplete output = true := by
  unfold reportFile
  cases output with
  | missing => simp [reportComplete]
  | cut => simp [reportComplete]
  | saved completedStages =>
    dsimp only
    split_ifs with complete <;> simp [complete]

/-- The commands that run the chain to its end, in one piece or after the chunks. -/
def Command.ChainsToRisk (command : Command) : Prop := command = .chain ∨ command = .chainFromConversations

instance (command : Command) : Decidable (Command.ChainsToRisk command) := inferInstanceAs (Decidable (_ ∨ _))

theorem riskReport_iff (command : Command) :
    "Risk Surface Report" ∈ completions command.program ↔ Command.ChainsToRisk command := by
  cases command <;> decide

theorem riskReport_ahead (command : Command) {rest : List Commands.Instruction} (suffix : rest <:+ command.program)
    (check : CheckAhead rest) : "Risk Surface Report" ∈ completions rest := by
  have all : ∀ tail ∈ command.program.tails, CheckAhead tail → "Risk Surface Report" ∈ completions tail := by
    cases command <;> decide
  exact all rest ((List.mem_tails rest _).mpr suffix) check

theorem complete_iff {command : Command} {before : Output} {p : Commands.Process} (sound : Sound command before p)
    (exited : p.returnCode = some 0) {completedStages : List String} (saved : p.output = .saved completedStages)
    (fresh : reportComplete before = false) :
    reportComplete p.output = true ↔ Command.ChainsToRisk command ∧ p.rest = [] := by
  have distinct : (p.completedStages ++ completions p.rest).Nodup := by
    rw [sound.completedStages]
    cases command <;> decide
  constructor
  · intro complete
    have recorded : "Risk Surface Report" ∈ p.completedStages := by
      rcases sound.saves completedStages saved with subset | stale
      · rw [saved] at complete
        exact subset (List.contains_iff_mem.mp complete)
      · rw [stale, ← saved, complete] at fresh
        cases fresh
    constructor
    · rw [← riskReport_iff, ← sound.completedStages]
      exact List.mem_append_left _ recorded
    · refine (sound.exits exited).resolve_right fun stopping => ?_
      have ahead := riskReport_ahead command sound.suffix stopping.2
      exact (List.nodup_append.mp distinct).2.2 _ recorded _ ahead rfl
  · rintro ⟨chains, done⟩
    have all := sound.completedStages
    rw [done] at all
    change p.completedStages ++ [] = _ at all
    rw [List.append_nil] at all
    have whole : p.output = .cut ∨ p.output = .saved p.completedStages := by
      refine sound.whole ?_
      rw [done]
      exact List.not_mem_nil
    rcases whole with cut | whole
    · cases saved.symm.trans cut
    · rw [whole, all]
      exact List.contains_iff_mem.mpr ((riskReport_iff command).mpr chains)

/-- A scan is launched, its engine writes a report and exits, the worker dies, and another
    takes the row up. -/
def takenUp (command : String) (report : Report) : List Label :=
  [.boot, .launches 3600 command "report.json" 7 ["marlinspike", "capture.pcap"] none, .writes "report.json" report,
    .exits 7, .crash, .boot, .claims, .checksEngine]

def host (command : String) (report : Report) : Host :=
  (run (step getActiveForRecovery) Host.init (takenUp command report)).getD Host.init

/-- The host after the verdict on the row. -/
def reconciled (command : String) (report : Report) : Host :=
  (checksReport (host command report) none).getD Host.init

def rowOf (s : Host) : ScanHistory := (s.rows[0]?).getD (recordStart 0 0 "" "" none none none)

def ingested : List Commands.Label :=
  .replicate 5 .advances ++ .writes .written :: .replicate 3 .advances

end Marlinspike.Recovery.Verdicts
