import Marlinspike.Engine.Shutdown
import Marlinspike.Recovery.RunStore

/-!
The three launchers of the engine and what they make of its exit. The web worker and the
consumer of live captures go by the return code, which is 0 also when the engine has
stopped early; the gateway goes by the report (`presented_executed_iff`).
-/
namespace Marlinspike.Engine.Launchers
open Marlinspike.Transition
open Marlinspike.Engine.Commands
open Marlinspike.Engine.Shutdown
open Marlinspike.Recovery

inductive Launcher where
  | webWorker
  /-- `launch_scan`, for the capture of an agent. -/
  | gateway
  /-- `enqueue_scan`, with or without an app to deliver webhooks in. -/
  | liveCapture (app : Bool)
deriving DecidableEq, Repr

/-- The status that is recorded of a scan, if any, and whether its webhook is delivered. -/
structure Verdict where
  recorded : Option Status
  webhook : Bool
deriving DecidableEq, Repr

/-- The status that `_finalize_run` settles on. -/
def finalStatus (stopRequested : Bool) (returnCode : Int) : Status :=
  if stopRequested then .stopped else if returnCode = 0 then .completed else .failed

/-- `_finalize_run`, down to `_finalize_scan_history`. -/
def finalizeRun (stopRequested : Bool) (returnCode : Int) : Verdict :=
  let status := finalStatus stopRequested returnCode
  ⟨some status, status = .completed⟩

/-- `report_complete`. -/
def reportComplete : Output → Bool
  | .missing | .cut => false
  | .saved completedStages => completedStages.contains "Risk Surface Report"

/-- `_launch_scan_locked`, after the engine has exited. -/
def launchScan (output : Output) : Verdict :=
  ⟨some (if reportComplete output then .completed else .failed), false⟩

/-- `enqueue_scan._run`, after the engine has exited. -/
def enqueueScan (app : Bool) (returnCode : Int) : Verdict := ⟨none, returnCode = 0 && app⟩

def Launcher.verdict (launcher : Launcher) (returnCode : Int) (output : Output) : Verdict :=
  match launcher with
  | .webWorker => finalizeRun false returnCode
  | .gateway => launchScan output
  | .liveCapture app => enqueueScan app returnCode

/-- The scan is recorded as completed, or its webhook is delivered. -/
def Presents (launcher : Launcher) (p : Process) : Prop :=
  ∃ returnCode ∈ p.returnCode, (launcher.verdict returnCode p.output).recorded = some .completed ∨
    (launcher.verdict returnCode p.output).webhook = true

def Executed (p : Process) : Prop := p.executed = [.ingest, .dissect, .topology, .risk]

/-- The last of the stages is recorded after it has been executed. -/
theorem stages_ahead {rest : List Instruction} (suffix : rest <:+ runChain) (left : stages rest ≠ []) :
    "Risk Surface Report" ∈ completions rest := by
  have all : ∀ tail ∈ runChain.tails, stages tail ≠ [] → "Risk Surface Report" ∈ completions tail := by decide
  exact all rest ((List.mem_tails rest _).mpr suffix) left

/-- A stage follows each look at the flag. -/
theorem check_ahead {rest : List Instruction} (suffix : rest <:+ runChain) (check : CheckAhead rest) :
    stages rest ≠ [] := by
  have all : ∀ tail ∈ runChain.tails, CheckAhead tail → stages tail ≠ [] := by decide
  exact all rest ((List.mem_tails rest _).mpr suffix) check

variable {before : Output} {p : Process}

theorem executed_iff (sound : Sound .chain before p) : Executed p ↔ stages p.rest = [] := by
  have whole : p.executed ++ stages p.rest = [.ingest, .dissect, .topology, .risk] := sound.executed
  unfold Executed
  constructor
  · intro executed
    rw [executed] at whole
    exact List.append_cancel_left (whole.trans (List.append_nil _).symm)
  · intro none_
    rwa [none_, List.append_nil] at whole

theorem executed_of_complete (sound : Sound .chain before p) (fresh : reportComplete before = false)
    (complete : reportComplete p.output = true) : Executed p := by
  rw [executed_iff sound]
  by_contra left
  have distinct : (p.completedStages ++ completions p.rest).Nodup := by
    rw [sound.completedStages]
    decide
  cases output : p.output with
  | missing =>
    rw [output] at complete
    cases complete
  | cut =>
    rw [output] at complete
    cases complete
  | saved saved =>
    rcases sound.saves saved output with subset | stale
    · rw [output] at complete
      have recorded := subset (List.contains_iff_mem.mp complete)
      exact (List.nodup_append.mp distinct).2.2 _ recorded _ (stages_ahead sound.suffix left) rfl
    · rw [stale, ← output, complete] at fresh
      cases fresh

/-- A scan that is presented as finished has executed all stages, always if the gateway has
    launched it, else exactly if no signal has reached the handler before the last look at
    the flag. -/
theorem presented_executed_iff (launcher : Launcher) {before : Output} {labels : List Label} {p : Process}
    (ran : run step (start .chain before) labels = some p) (presented : Presents launcher p)
    (fresh : launcher = .gateway → reportComplete before = false) :
    Executed p ↔ launcher = .gateway ∨ Meets step Unnoticed (start .chain before) labels := by
  have sound := sound_run ran
  obtain ⟨returnCode, exited, shown⟩ := presented
  by_cases gateway : launcher = .gateway
  · subst gateway
    simp only [true_or, iff_true]
    apply executed_of_complete sound (fresh rfl)
    simpa [Launcher.verdict, launchScan] using shown
  · have zero : returnCode = 0 := by
      cases launcher with
      | webWorker =>
        by_contra failed
        simp [Launcher.verdict, finalizeRun, finalStatus, failed] at shown
      | gateway => exact absurd rfl gateway
      | liveCapture app =>
        by_contra failed
        simp [Launcher.verdict, enqueueScan, failed] at shown
    subst zero
    rw [or_iff_right gateway, ← finishes_iff ran exited, executed_iff sound]
    constructor
    · intro none_
      refine (sound.exits exited).resolve_right fun stopping => ?_
      exact check_ahead sound.suffix stopping.2 none_
    · intro done
      rw [done]
      rfl

/-- A run that nothing goes wrong in. -/
def undisturbed : List Label :=
  .replicate 6 .advances ++ .writes .written :: .replicate 3 .advances ++ .writes .written :: .replicate 3 .advances ++
    .writes .written :: .replicate 3 .advances ++ .writes .written :: .writes .written :: .replicate 3 .advances

def finished : Process where
  rest := []
  handled := true
  active := false
  shutdownRequested := false
  executed := [.ingest, .dissect, .topology, .risk]
  completedStages :=
    ["Capture Ingestion", "Protocol Dissection", "Topology Construction", "Risk Surface Report"]
  output := .saved ["Capture Ingestion", "Protocol Dissection", "Topology Construction", "Risk Surface Report"]
  returnCode := some 0

theorem finished_executed : Executed finished ↔
    Launcher.webWorker = .gateway ∨ Meets step Unnoticed (start .chain .missing) undisturbed :=
  presented_executed_iff .webWorker (by decide) ⟨0, rfl, .inl rfl⟩ nofun

/-- A signal while the capture is ingested. -/
def interrupted : List Label :=
  .replicate 4 .advances ++ .signals .sigterm .written :: .replicate 2 .advances ++ [.writes .written, .advances]

theorem interrupted_presented : ∃ p, run step (start .chain .missing) interrupted = some p ∧
    Presents .webWorker p ∧ Presents (.liveCapture true) p ∧ p.executed = [.ingest] := by
  refine ⟨(run step (start .chain .missing) interrupted).getD finished, by decide, ?_, ?_, by decide⟩
  · exact ⟨0, by decide, .inl (by decide)⟩
  · exact ⟨0, by decide, .inr (by decide)⟩

end Marlinspike.Engine.Launchers
