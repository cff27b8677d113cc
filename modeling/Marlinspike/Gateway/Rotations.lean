import Mathlib.Tactic.SplitIfs
import Marlinspike.Transition
import Marlinspike.Base64
import Marlinspike.Capd.Supervisor
import Marlinspike.Engine.Launchers

/-!
The scans of one capture session on the gateway. Every published rotation is scanned by a
`launch_scan` of its own; they share the session's `ScanHistory` row, and the session's
lock lets one of them at a time spawn its engine, record the start, wait and record the end.

`record_finish` leaves an `error_tail` alone that it is given no other for, and the verdict
goes by the report that is at the path, whoever has written it. When the row describes the
rotation that was launched last is `row_describes_last_iff`.
-/
namespace Marlinspike.Gateway.Rotations
open Marlinspike.Transition
open Marlinspike.Base64 (Bytes)
open Marlinspike.Capd.Supervisor (Path basename)
open Marlinspike.Engine.Commands (Output)
open Marlinspike.Engine.Launchers (reportComplete)
open Marlinspike.Recovery (ScanHistory Status)
open Marlinspike.Recovery.RunStore (Finish)

/-! ### Files -/

/-- A published rotation, as `launch_scan` is called with it. -/
structure Rotation where
  pcapPath : Path
  userId : Nat
  projectId : Nat
  agentId : Option Nat
  /-- What its publication has put at the path. -/
  content : Bytes
deriving DecidableEq, Repr

/-- The file at a report path, with the lengths of its node and edge lists, 0 where it has none. -/
structure ReportFile where
  output : Output
  nodeCount : Nat
  edgeCount : Nat
deriving DecidableEq, Repr

/-- What the gateway process is configured with, and the session. -/
structure Site where
  reportsDir : String
  engineCmd : List String
  scanTimeoutS : Nat
  sha256 : Bytes → String
  sessionUuid : String

/-- `os.path.splitext(name)[0]`: the dots that a name begins with start no extension. -/
def stem (name : List Char) : List Char :=
  let rest := name.dropWhile (· = '.')
  if rest.contains '.' then name.takeWhile (· = '.') ++ (rest.reverse.dropWhile (· ≠ '.')).tail.reverse else name

def sanitised (text : List Char) : List Char :=
  text.map fun c => if c.isAlphanum || c = '.' || c = '_' || c = '-' then c else '_'

/-- `_report_path_for`. -/
def reportPathFor (g : Site) (pcapPath : Path) (userId projectId : Nat) (runId : String) : String :=
  let pcapStem := (sanitised (stem (basename pcapPath))).take 60
  let filename := (if pcapStem ≠ [] then pcapStem ++ ['-'] else []) ++ "marlinspike-".toList ++ runId.toList.take 8 ++ ".json".toList
  g.reportsDir ++ "/" ++ toString userId ++ "/" ++ toString projectId ++ "/" ++ String.ofList filename

def Rotation.reportPath (g : Site) (rotation : Rotation) : String :=
  reportPathFor g rotation.pcapPath rotation.userId rotation.projectId g.sessionUuid

/-- `_pcap_hash`. -/
def pcapHash (g : Site) (file : Option Bytes) : Option String := file.map g.sha256

/-! ### The row -/

/-- The session's row of `scan_history`. -/
structure Row extends ScanHistory where
  userId : Nat
  projectId : Option Nat
  scanProfile : String
  pcapSource : Option String
  pcapHash : Option String
  pcapPath : Option String
deriving DecidableEq, Repr

/-- `ScanHistory(run_id=…, user_id=…)`, with the defaults of the columns. -/
def newRow (userId : Nat) : Row :=
  { status := .running, command := "", recoveryState := none, enginePid := none, engineArgv := none, timeoutAt := none
    reportPath := none, agentId := none, completedAt := none, errorTail := none, nodeCount := some 0, edgeCount := some 0
    userId, projectId := none, scanProfile := "full", pcapSource := none, pcapHash := none, pcapPath := none }

/-- The engine's command line. -/
def engineArgv (g : Site) (rotation : Rotation) : List String :=
  g.engineCmd ++ ["--pcap", String.ofList rotation.pcapPath, "--fast", "--collapse-threshold", "50", "--no-grassmarlin",
    "-o", rotation.reportPath g, "chain"]

/-- `_record_start`: the row is made or updated. `hashed` is the file at the rotation's path. -/
def recordStart (g : Site) (now enginePid : Nat) (rotation : Rotation) (hashed : Option Bytes) (rec : Option Row) : Row :=
  { rec.getD (newRow rotation.userId) with
    userId := rotation.userId
    projectId := some rotation.projectId
    command := "chain"
    scanProfile := "fast"
    pcapSource := some (String.ofList (basename rotation.pcapPath))
    pcapHash := pcapHash g hashed
    status := .running
    reportPath := some (rotation.reportPath g)
    pcapPath := some (String.ofList rotation.pcapPath)
    enginePid := some enginePid
    engineArgv := some (engineArgv g rotation)
    timeoutAt := if g.scanTimeoutS > 0 then some (now + g.scanTimeoutS) else none
    recoveryState := none
    agentId := rotation.agentId }

/-- `_record_finish`. -/
def recordFinish (now : Nat) (finish : Finish) (rec : Row) : Row :=
  { rec with toScanHistory := Recovery.RunStore.recordFinish now finish rec.toScanHistory }

/-! ### The end of an engine -/

/-- How an engine has ended and the lines that it has printed, up to one that the stream
    reader has no room for, if there is one: `readline` raises then. -/
structure Exit where
  returnCode : Int
  lines : List String
  overlong : Bool
deriving DecidableEq, Repr

/-- `tail_lines`. -/
def tailLines (exit : Exit) : List String := exit.lines.drop (exit.lines.length - 200)

def errorTail (exit : Exit) : String :=
  let tail := tailLines exit
  if tail ≠ [] then "\n".intercalate (tail.drop (tail.length - 10))
  else "engine exited rc=" ++ toString exit.returnCode ++ " with no complete report"

/-- The arguments of `_record_finish`, from the file at the report path. -/
def verdict (file : ReportFile) (exit : Exit) : Finish :=
  if reportComplete file.output then ⟨.completed, none, some file.nodeCount, some file.edgeCount, none⟩
  else ⟨.failed, some (errorTail exit), some 0, some 0, none⟩

/-! ### The steps of the calls -/

inductive Phase where
  | locked
  /-- The engine runs; its start is not recorded yet. -/
  | spawned (enginePid : Nat)
  | recorded
  /-- The report has been looked at. -/
  | judged (finish : Finish)
deriving DecidableEq, Repr

/-- The call that has the lock, and its engine. -/
structure Holder where
  rotation : Rotation
  phase : Phase
  /-- The file at the pcap path, when it was hashed. -/
  hashed : Option Bytes
  /-- What the engine itself has saved last. -/
  saved : Option ReportFile
  exit : Option Exit
deriving DecidableEq, Repr

/-- A rotation whose scan is over. -/
structure Ended where
  rotation : Rotation
  saved : Option ReportFile
  exit : Exit
deriving DecidableEq, Repr

structure State where
  pcaps : Path → Option Bytes
  reports : String → ReportFile
  row : Option Row
  /-- Published, `launch_scan` still to be called. -/
  published : List Rotation
  /-- The calls that wait for the lock, in the order in which it is given to them. -/
  waiting : List Rotation
  holder : Option Holder
  /-- The rotation that was launched last, once its scan is over. -/
  last : Option Ended

def start (pcaps : Path → Option Bytes) (reports : String → ReportFile) : State :=
  ⟨pcaps, reports, none, [], [], none, none⟩

inductive Label where
  | publishes (rotation : Rotation)
  | calls (k : Nat)
  /-- A publication without a call: its rows are gone, or it is another session's. -/
  | forgoes (k : Nat)
  | acquires
  /-- No pid: the engine could not be started. -/
  | spawns (enginePid : Option Nat)
  | records (now : Nat)
  | saves (file : ReportFile)
  | exits (exit : Exit)
  | judges
  | finishes (now : Nat)
deriving DecidableEq, Repr

def publishes (s : State) (rotation : Rotation) : State :=
  { s with
    pcaps := fun path => if path = rotation.pcapPath then some rotation.content else s.pcaps path
    published := s.published ++ [rotation] }

def calls (s : State) (k : Nat) : Option State := do
  let rotation ← s.published[k]?
  return { s with published := s.published.eraseIdx k, waiting := s.waiting ++ [rotation] }

def forgoes (s : State) (k : Nat) : Option State := do
  let _ ← s.published[k]?
  return { s with published := s.published.eraseIdx k }

def acquires (s : State) : Option State :=
  match s.holder, s.waiting with
  | none, rotation :: rest => some { s with waiting := rest, holder := some ⟨rotation, .locked, none, none, none⟩ }
  | _, _ => none

def spawns (s : State) (enginePid : Option Nat) : Option State := do
  let h ← s.holder
  guard (h.phase = .locked)
  return { s with holder := enginePid.map fun pid => { h with phase := .spawned pid } }

def records (g : Site) (s : State) (now : Nat) : Option State := do
  let h ← s.holder
  match h.phase with
  | .spawned enginePid =>
    let hashed := s.pcaps h.rotation.pcapPath
    some { s with
      row := some (recordStart g now enginePid h.rotation hashed s.row)
      holder := some { h with phase := .recorded, hashed } }
  | _ => none

/-- The engine is there and has not ended. -/
def Holder.running (h : Holder) : Bool :=
  match h.phase with
  | .spawned _ | .recorded => h.exit.isNone
  | _ => false

def saves (g : Site) (s : State) (file : ReportFile) : Option State := do
  let h ← s.holder
  guard (h.running ∧ file.output ≠ .missing)
  return { s with
    reports := fun path => if path = h.rotation.reportPath g then file else s.reports path
    holder := some { h with saved := some file } }

def exits (s : State) (exit : Exit) : Option State := do
  let h ← s.holder
  guard h.running
  return { s with holder := some { h with exit := some exit } }

/-- The engine has ended. If a line was too long, the call raises here, without an end recorded. -/
def judges (g : Site) (s : State) : Option State := do
  let h ← s.holder
  let exit ← h.exit
  guard (h.phase = .recorded)
  if exit.overlong then return { s with holder := none, last := some ⟨h.rotation, h.saved, exit⟩ }
  else return { s with holder := some { h with phase := .judged (verdict (s.reports (h.rotation.reportPath g)) exit) } }

def finishes (s : State) (now : Nat) : Option State := do
  let h ← s.holder
  let exit ← h.exit
  match h.phase with
  | .judged finish =>
    some { s with row := s.row.map (recordFinish now finish), holder := none, last := some ⟨h.rotation, h.saved, exit⟩ }
  | _ => none

def step (g : Site) (s : State) : Label → Option State
  | .publishes rotation => some (publishes s rotation)
  | .calls k => calls s k
  | .forgoes k => forgoes s k
  | .acquires => acquires s
  | .spawns enginePid => spawns s enginePid
  | .records now => records g s now
  | .saves file => saves g s file
  | .exits exit => exits s exit
  | .judges => judges g s
  | .finishes now => finishes s now

/-! ### What the row tells -/

/-- The columns of the row that tell of a rotation and its scan. -/
structure Account where
  status : Status
  reportPath : Option String
  pcapPath : Option String
  pcapHash : Option String
  nodeCount : Option Nat
  edgeCount : Option Nat
  errorTail : Option String
deriving DecidableEq, Repr

def Row.account (row : Row) : Account :=
  ⟨row.status, row.reportPath, row.pcapPath, row.pcapHash, row.nodeCount, row.edgeCount, row.errorTail⟩

/-- The engine has itself saved a complete report. -/
def completed (saved : Option ReportFile) : Bool := saved.any fun file => reportComplete file.output

/-- What is to be told of a rotation, from its own file and its own engine. -/
def Ended.account (g : Site) (ended : Ended) : Account :=
  { status := if completed ended.saved then .completed else .failed
    reportPath := some (ended.rotation.reportPath g)
    pcapPath := some (String.ofList ended.rotation.pcapPath)
    pcapHash := some (g.sha256 ended.rotation.content)
    nodeCount := if completed ended.saved then ended.saved.map (·.nodeCount) else some 0
    edgeCount := if completed ended.saved then ended.saved.map (·.edgeCount) else some 0
    errorTail := if completed ended.saved then none else some (errorTail ended.exit) }

/-- Whenever no call has the lock, the row tells of the rotation that was launched last. -/
def DescribesLast (g : Site) (s : State) : Prop :=
  s.holder = none → s.row.map Row.account = s.last.map (Ended.account g)

instance (g : Site) (s : State) : Decidable (DescribesLast g s) := inferInstanceAs (Decidable (_ → _))

/-- What the end of a scan must find: its own pcap has been hashed; if the engine has not saved
    a report, there is no complete one at its path from before; and if it has saved a
    complete one, no failure of an earlier rotation is left in the row. -/
structure Unmixed (g : Site) (s : State) (h : Holder) : Prop where
  ownPcap : pcapHash g h.hashed = some (g.sha256 h.rotation.content)
  ownReport : h.saved = none → reportComplete (s.reports (h.rotation.reportPath g)).output = false
  ownFailure : completed h.saved = true → ∀ row, s.row = some row → row.errorTail = none

/-- The scans that end leave nothing mixed, and no line of their engines is too long. -/
def Separate (g : Site) (s : State) : Label → Prop
  | .judges => ∀ h exit, s.holder = some h → h.exit = some exit → exit.overlong = false
  | .finishes _ => ∀ h, s.holder = some h → Unmixed g s h
  | _ => True

section Invariant
variable {g : Site}

/-- The row is that of the running scan. -/
private structure Recorded (g : Site) (row : Row) (h : Holder) : Prop where
  status : row.status = .running
  reportPath : row.reportPath = some (h.rotation.reportPath g)
  pcapPath : row.pcapPath = some (String.ofList h.rotation.pcapPath)
  pcapHash : row.pcapHash = pcapHash g h.hashed

private structure Holds (g : Site) (s : State) (h : Holder) : Prop where
  saved : ∀ file, h.saved = some file → s.reports (h.rotation.reportPath g) = file
  before : h.phase = .locked ∨ (∃ pid, h.phase = .spawned pid) → s.row.map Row.account = s.last.map (Ended.account g)
  recorded : h.phase = .recorded ∨ (∃ finish, h.phase = .judged finish) → ∃ row, s.row = some row ∧ Recorded g row h
  judged : ∀ finish, h.phase = .judged finish →
    ∃ exit, h.exit = some exit ∧ finish = verdict (s.reports (h.rotation.reportPath g)) exit

private def Invariant (g : Site) (s : State) : Prop := ∀ h, s.holder = some h → Holds g s h

private theorem Recorded.of_same {row : Row} {h k : Holder} (recorded : Recorded g row h)
    (rotation : k.rotation = h.rotation) (hashed : k.hashed = h.hashed) : Recorded g row k :=
  ⟨recorded.status, by rw [rotation, recorded.reportPath], by rw [rotation, recorded.pcapPath],
    by rw [hashed, recorded.pcapHash]⟩

/-- A step after which the lock is held is exact if it has no condition. -/
private theorem held {s t : State} {h : Holder} {l : Label} (holder : t.holder = some h) (holds : Holds g t h)
    (free : Separate g s l) : Invariant g t ∧ (DescribesLast g t ↔ Separate g s l) := by
  refine ⟨?_, ?_⟩
  · intro other is
    rw [holder] at is
    cases is
    exact holds
  · refine iff_of_true ?_ free
    intro none_
    rw [holder] at none_
    cases none_

/-- A step that leaves the lock, the row, the last rotation and the reports alone. -/
private theorem untouched {s t : State} {l : Label} (inv : Invariant g s) (settled : DescribesLast g s)
    (free : Separate g s l) (holder : t.holder = s.holder) (row : t.row = s.row) (last : t.last = s.last)
    (reports : t.reports = s.reports) : Invariant g t ∧ (DescribesLast g t ↔ Separate g s l) := by
  refine ⟨?_, iff_of_true ?_ free⟩
  · intro h is
    rw [holder] at is
    obtain ⟨saved, before, recorded, judged⟩ := inv h is
    exact ⟨by rwa [reports], by rwa [row, last], by rwa [row], by rwa [reports]⟩
  · unfold DescribesLast
    rw [holder, row, last]
    exact settled

private theorem acquires_kept {s t : State} (settled : DescribesLast g s) (stepped : acquires s = some t) :
    Invariant g t ∧ (DescribesLast g t ↔ Separate g s .acquires) := by
  unfold acquires at stepped
  split at stepped
  case h_1 rotation rest free next =>
    cases stepped
    refine held rfl ⟨?_, fun _ => settled free, ?_, ?_⟩ trivial
    · intro file saved
      cases saved
    · rintro (phase | ⟨finish, phase⟩) <;> cases phase
    · intro finish phase
      cases phase
  case h_2 => cases stepped

private theorem spawns_kept {s t : State} {enginePid : Option Nat} (inv : Invariant g s)
    (stepped : spawns s enginePid = some t) : Invariant g t ∧ (DescribesLast g t ↔ Separate g s (.spawns enginePid)) := by
  simp only [spawns, Option.bind_eq_bind, Option.bind_eq_some_iff, Option.guard_eq_some', Option.pure_def,
    Option.some.injEq, exists_and_left, exists_const] at stepped
  obtain ⟨h, holder, locked, rfl⟩ := stepped
  have holds := inv h holder
  have same := holds.before (.inl locked)
  cases enginePid with
  | none =>
    refine ⟨?_, iff_of_true (fun _ => same) trivial⟩
    intro other is
    cases is
  | some pid =>
    refine held rfl ⟨holds.saved, fun _ => same, ?_, ?_⟩ trivial
    · rintro (phase | ⟨finish, phase⟩) <;> cases phase
    · intro finish phase
      cases phase

private theorem records_kept {s t : State} {now : Nat} (inv : Invariant g s) (stepped : records g s now = some t) :
    Invariant g t ∧ (DescribesLast g t ↔ Separate g s (.records now)) := by
  simp only [records, Option.bind_eq_bind, Option.bind_eq_some_iff] at stepped
  obtain ⟨h, holder, stepped⟩ := stepped
  split at stepped
  case h_1 pid phase =>
    cases stepped
    refine held rfl ⟨(inv h holder).saved, ?_, fun _ => ⟨_, rfl, rfl, rfl, rfl, rfl⟩, ?_⟩ trivial
    · rintro (phase | ⟨pid, phase⟩) <;> cases phase
    · intro finish phase
      cases phase
  case h_2 => cases stepped

private theorem not_judged {h : Holder} (running : h.running = true) {finish : Finish} : h.phase ≠ .judged finish := by
  intro phase
  rw [Holder.running, phase] at running
  cases running

private theorem saves_kept {s t : State} {file : ReportFile} (inv : Invariant g s) (stepped : saves g s file = some t) :
    Invariant g t ∧ (DescribesLast g t ↔ Separate g s (.saves file)) := by
  simp only [saves, Option.bind_eq_bind, Option.bind_eq_some_iff, Option.guard_eq_some', Option.pure_def,
    Option.some.injEq, exists_and_left, exists_const] at stepped
  obtain ⟨h, holder, ⟨running, -⟩, rfl⟩ := stepped
  have holds := inv h holder
  refine held rfl ⟨?_, holds.before, fun phase => ?_, ?_⟩ trivial
  · intro own saved
    cases saved
    exact if_pos rfl
  · obtain ⟨row, present, recorded⟩ := holds.recorded phase
    exact ⟨row, present, recorded.of_same rfl rfl⟩
  · intro finish phase
    exact absurd phase (not_judged running)

private theorem exits_kept {s t : State} {exit : Exit} (inv : Invariant g s) (stepped : exits s exit = some t) :
    Invariant g t ∧ (DescribesLast g t ↔ Separate g s (.exits exit)) := by
  simp only [exits, Option.bind_eq_bind, Option.bind_eq_some_iff, Option.guard_eq_some', Option.pure_def,
    Option.some.injEq, exists_and_left, exists_const] at stepped
  obtain ⟨h, holder, running, rfl⟩ := stepped
  have holds := inv h holder
  refine held rfl ⟨holds.saved, holds.before, fun phase => ?_, ?_⟩ trivial
  · obtain ⟨row, present, recorded⟩ := holds.recorded phase
    exact ⟨row, present, recorded.of_same rfl rfl⟩
  · intro finish phase
    exact absurd phase (not_judged running)

/-- A call that raises leaves the row as `record_start` has made it. -/
private theorem running_undescribed {row : Row} {h : Holder} (recorded : Recorded g row h) (ended : Ended) :
    row.account ≠ ended.account g := by
  intro same
  have status := congrArg Account.status same
  change row.status = (if completed ended.saved then .completed else .failed) at status
  rw [recorded.status] at status
  split_ifs at status

private theorem judges_kept {s t : State} (inv : Invariant g s) (stepped : judges g s = some t) :
    Invariant g t ∧ (DescribesLast g t ↔ Separate g s .judges) := by
  simp only [judges, Option.bind_eq_bind, Option.bind_eq_some_iff, Option.guard_eq_some', Option.pure_def,
    exists_and_left, exists_const] at stepped
  obtain ⟨h, holder, exit, exited, phase, stepped⟩ := stepped
  have holds := inv h holder
  obtain ⟨row, present, recorded⟩ := holds.recorded (.inl phase)
  split_ifs at stepped with overlong
  · cases stepped
    refine ⟨?_, iff_of_false ?_ ?_⟩
    · intro other is
      cases is
    · intro described
      have same := described rfl
      dsimp only at same
      rw [present] at same
      exact running_undescribed recorded _ (Option.some.inj same)
    · intro separate
      rw [separate h exit holder exited] at overlong
      cases overlong
  · cases stepped
    refine held rfl ⟨holds.saved, ?_, fun _ => ⟨row, present, recorded.of_same rfl rfl⟩, ?_⟩ ?_
    · rintro (phase | ⟨pid, phase⟩) <;> cases phase
    · intro finish judged
      cases judged
      exact ⟨exit, exited, rfl⟩
    · intro other exit' is exited'
      rw [holder] at is
      cases is
      rw [exited] at exited'
      cases exited'
      exact Bool.eq_false_of_not_eq_true overlong

/-- The end that is recorded tells of the rotation if and only if nothing is mixed. -/
private theorem finished_iff {s : State} {h : Holder} {row : Row} {exit : Exit} {now : Nat} (holds : Holds g s h)
    (present : s.row = some row) (recorded : Recorded g row h) :
    (recordFinish now (verdict (s.reports (h.rotation.reportPath g)) exit) row).account =
      Ended.account g ⟨h.rotation, h.saved, exit⟩ ↔ Unmixed g s h := by
  have told : ∀ finish : Finish, (recordFinish now finish row).account =
      ⟨finish.status, some (h.rotation.reportPath g), some (String.ofList h.rotation.pcapPath), pcapHash g h.hashed,
        finish.nodeCount.or row.nodeCount, finish.edgeCount.or row.edgeCount, finish.errorTail.or row.errorTail⟩ := by
    intro finish
    rw [← recorded.reportPath, ← recorded.pcapPath, ← recorded.pcapHash]
    rfl
  rw [told]
  cases saved : h.saved with
  | none =>
    by_cases stale : reportComplete (s.reports (h.rotation.reportPath g)).output = true
    · refine iff_of_false ?_ ?_
      · intro same
        have status := congrArg Account.status same
        simp [verdict, stale, Ended.account, completed] at status
      · intro unmixed
        have fresh := unmixed.ownReport saved
        rw [stale] at fresh
        cases fresh
    · have fresh := Bool.eq_false_of_not_eq_true stale
      constructor
      · intro same
        refine ⟨congrArg Account.pcapHash same, fun _ => fresh, ?_⟩
        intro complete
        rw [saved] at complete
        cases complete
      · intro unmixed
        simp [verdict, fresh, Ended.account, completed, unmixed.ownPcap]
  | some file =>
    rw [holds.saved file saved]
    by_cases complete : reportComplete file.output = true
    · constructor
      · intro same
        refine ⟨congrArg Account.pcapHash same, ?_, ?_⟩
        · intro none_
          rw [saved] at none_
          cases none_
        · intro _ other is
          rw [present] at is
          cases is
          have failure := congrArg Account.errorTail same
          simpa [verdict, complete, Ended.account, completed] using failure
      · intro unmixed
        have failure : row.errorTail = none := unmixed.ownFailure (by simpa [completed, saved] using complete) row present
        simp [verdict, complete, Ended.account, completed, unmixed.ownPcap, failure]
    · have partial_ := Bool.eq_false_of_not_eq_true complete
      constructor
      · intro same
        refine ⟨congrArg Account.pcapHash same, ?_, ?_⟩
        · intro none_
          rw [saved] at none_
          cases none_
        · intro own
          simp [completed, saved, partial_] at own
      · intro unmixed
        simp [verdict, partial_, Ended.account, completed, unmixed.ownPcap]

private theorem finishes_kept {s t : State} {now : Nat} (inv : Invariant g s) (stepped : finishes s now = some t) :
    Invariant g t ∧ (DescribesLast g t ↔ Separate g s (.finishes now)) := by
  simp only [finishes, Option.bind_eq_bind, Option.bind_eq_some_iff] at stepped
  obtain ⟨h, holder, exit, exited, stepped⟩ := stepped
  have holds := inv h holder
  split at stepped
  case h_1 finish phase =>
    cases stepped
    obtain ⟨row, present, recorded⟩ := holds.recorded (.inr ⟨finish, phase⟩)
    obtain ⟨exit', exited', rfl⟩ := holds.judged finish phase
    rw [exited] at exited'
    cases exited'
    have exact_ : (recordFinish now (verdict (s.reports (h.rotation.reportPath g)) exit) row).account =
        Ended.account g ⟨h.rotation, h.saved, exit⟩ ↔ Unmixed g s h := finished_iff holds present recorded
    refine ⟨?_, ?_⟩
    · intro other is
      cases is
    · constructor
      · intro described other is
        rw [holder] at is
        cases is
        have same := described rfl
        dsimp only at same
        rw [present] at same
        exact exact_.mp (Option.some.inj same)
      · intro separate _
        dsimp only
        rw [present]
        exact congrArg some (exact_.mpr (separate h holder))
  case h_2 => cases stepped

/-- A step from a state in which the row is right: it is still right if and only if the
    step meets its condition. -/
private theorem step_kept {s t : State} {l : Label} (inv : Invariant g s) (settled : DescribesLast g s)
    (stepped : step g s l = some t) : Invariant g t ∧ (DescribesLast g t ↔ Separate g s l) := by
  cases l with
  | publishes rotation =>
    cases stepped
    exact untouched inv settled trivial rfl rfl rfl rfl
  | calls k =>
    obtain ⟨rotation, -, made⟩ := Option.bind_eq_some_iff.mp stepped
    cases made
    exact untouched inv settled trivial rfl rfl rfl rfl
  | forgoes k =>
    obtain ⟨rotation, -, made⟩ := Option.bind_eq_some_iff.mp stepped
    cases made
    exact untouched inv settled trivial rfl rfl rfl rfl
  | acquires => exact acquires_kept settled stepped
  | spawns enginePid => exact spawns_kept inv stepped
  | records now => exact records_kept inv stepped
  | saves file => exact saves_kept inv stepped
  | exits exit => exact exits_kept inv stepped
  | judges => exact judges_kept inv stepped
  | finishes now => exact finishes_kept inv stepped

/-- In every run the row tells of the rotation that was launched last, whenever no call has
    the lock, if and only if the run's scans end with nothing mixed: each has hashed its own
    pcap, none that has saved no report finds a complete one, none completes after one has
    failed, and no engine prints a line that is too long. -/
theorem row_describes_last_iff (pcaps : Path → Option Bytes) (reports : String → ReportFile) (labels : List Label) :
    Always (step g) (DescribesLast g) (start pcaps reports) labels ↔
      Meets (step g) (Separate g) (start pcaps reports) labels := by
  refine always_iff_meets (Invariant g) ?_ ?_ ?_ ?_
  · intro s l t inv settled stepped _
    exact (step_kept inv settled stepped).1
  · intro s l t inv settled stepped
    exact (step_kept inv settled stepped).2
  · intro h is
    cases is
  · intro _
    rfl

end Invariant

/-! ### Rotations that are mixed -/

/-- The scan of the rotation that waits first, down to the engine's exit. -/
def scanned (files : List ReportFile) (exit : Exit) : List Label :=
  [.acquires, .spawns (some 9), .records 0] ++ files.map .saves ++ [.exits exit, .judges]

def finished (files : List ReportFile) (exit : Exit) : List Label := scanned files exit ++ [.finishes 1]

def site : Site := ⟨"/reports", ["python", "-u", "-m", "marlinspike"], 3600, fun content => toString content, "4f1c22d09ab3"⟩

def rotation (pcapPath : String) : Rotation := ⟨pcapPath.toList, 1, 2, some 3, [1, 2, 3]⟩

def wholeReport : ReportFile := ⟨.saved ["Risk Surface Report"], 4, 5⟩

/-- The first engine fails without a report, the second one completes. -/
def afterFailure : List Label :=
  [.publishes (rotation "/up/1/2/cap_00001.pcapng"), .calls 0] ++ finished [] ⟨1, ["no tshark"], false⟩ ++
    [.publishes (rotation "/up/1/2/cap_00002.pcapng"), .calls 0] ++ finished [wholeReport] ⟨0, [], false⟩

/-- The first engine completes, the second fails; their names differ in the extension only. -/
def onOldReport : List Label :=
  [.publishes (rotation "/up/1/2/cap.pcap"), .calls 0] ++ finished [wholeReport] ⟨0, [], false⟩ ++
    [.publishes (rotation "/up/1/2/cap.pcapng"), .calls 0] ++ finished [] ⟨1, ["no tshark"], false⟩

/-- An engine that completes after a line of more than 64 KiB. -/
def longLine : List Label :=
  [.publishes (rotation "/up/1/2/cap_00001.pcapng"), .calls 0] ++ scanned [wholeReport] ⟨0, [], true⟩

/-- A file of the same name is published while the first one's scan waits. -/
def replaced : List Label :=
  [.publishes (rotation "/up/1/2/cap_00001.pcapng"), .calls 0,
    .publishes { rotation "/up/1/2/cap_00001.pcapng" with content := [4] }, .calls 0] ++
    finished [wholeReport] ⟨0, [], false⟩

def EndsMixed (labels : List Label) : Prop :=
  ∃ s, run (step site) (start (fun _ => none) fun _ => ⟨.missing, 0, 0⟩) labels = some s ∧ ¬DescribesLast site s

theorem endsMixed_of_run {labels : List Label}
    (mixed : (run (step site) (start (fun _ => none) fun _ => ⟨.missing, 0, 0⟩) labels).map
      (fun s => decide (DescribesLast site s)) = some false) : EndsMixed labels := by
  obtain ⟨s, ran, undescribed⟩ := Option.map_eq_some_iff.mp mixed
  exact ⟨s, ran, of_decide_eq_false undescribed⟩

theorem rotations_mixed :
    EndsMixed afterFailure ∧ EndsMixed onOldReport ∧ EndsMixed longLine ∧ EndsMixed replaced :=
  ⟨endsMixed_of_run (by decide +kernel), endsMixed_of_run (by decide +kernel), endsMixed_of_run (by decide +kernel),
    endsMixed_of_run (by decide +kernel)⟩

end Marlinspike.Gateway.Rotations
