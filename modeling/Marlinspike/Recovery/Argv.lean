import Marlinspike.Gateway.Rotations
import Marlinspike.Recovery.Reaper

/-!
The command lines that scans are launched with, and what `_live_argv_matches` makes of two
of them. A command line always matches itself. It takes another one for its own exactly if
the two have a path-shaped word in common, and not only the report is such a word: the
capture file, a capture filter and the configured DPI binary are as well (`separates_iff`).
-/
namespace Marlinspike.Recovery.Argv
open Marlinspike.Capd.Supervisor (Path basename)
open Marlinspike.Gateway.Rotations (Rotation Site sanitised stem)
open Marlinspike.Recovery.Reaper

structure Config where
  pythonExe : String
  dpiEngine : String
  dpiBin : String
  reportsDir : String
  pcapProcessSize : Nat
deriving DecidableEq, Repr

inductive ScanCommand where
  | chain
  | ingest
  | dissect
  | topology
  | risk
deriving DecidableEq, Repr

def ScanCommand.text : ScanCommand → String
  | .chain => "chain"
  | .ingest => "ingest"
  | .dissect => "dissect"
  | .topology => "topology"
  | .risk => "risk"

/-- A request to `api_scan_start`, with its file and its project resolved. -/
structure Request where
  pcapPath : Path
  pcapSize : Nat
  ownerUid : Nat
  projectId : Nat
  command : ScanCommand
  skipEphemeral : Bool
  captureFilter : String
  fast : Bool
  /-- What `int` makes of the two numbers, if it does not raise. -/
  chunkSize : Option Int
  collapseThreshold : Option Int
deriving DecidableEq, Repr

/-- The arguments of `enqueue_scan`. -/
structure LiveCapture where
  pcapPath : Path
  userId : Nat
  projectId : Option Nat
  fast : Bool
deriving DecidableEq, Repr

/-- A scan run, by what has started it. -/
inductive Run where
  | apiScanStart (runId : String) (request : Request)
  | enqueueScan (runId : String) (capture : LiveCapture)
  | launchScan (sessionUuid : String) (rotation : Rotation)
deriving DecidableEq, Repr

def Run.runId : Run → String
  | .apiScanStart runId _ | .enqueueScan runId _ => runId
  | .launchScan sessionUuid _ => sessionUuid

def Run.pcapPath : Run → Path
  | .apiScanStart _ request => request.pcapPath
  | .enqueueScan _ capture => capture.pcapPath
  | .launchScan _ rotation => rotation.pcapPath

def Run.captureFilter : Run → String
  | .apiScanStart _ request => request.captureFilter
  | .enqueueScan _ _ | .launchScan _ _ => ""

/-- The gateway leaves the DPI options to the engine. -/
def Run.passesDpi : Run → Bool
  | .apiScanStart _ _ | .enqueueScan _ _ => true
  | .launchScan _ _ => false

/-! ### The command lines -/

/-- `_safe_stem`. -/
def safeStem (pcapPath : Path) : List Char := (sanitised (stem (basename pcapPath))).take 60

def dashed (text : List Char) : List Char := if text ≠ [] then text ++ ['-'] else []

/-- A report in the directory of a user and a project. -/
def reportIn (config : Config) (user project : String) (head : List Char) (runId : String) : String :=
  config.reportsDir ++ "/" ++ user ++ "/" ++ project ++ "/" ++
    String.ofList (head ++ "marlinspike-".toList ++ runId.toList.take 8 ++ ".json".toList)

def Run.reportPath (config : Config) : Run → String
  | .apiScanStart runId request =>
    reportIn config (toString request.ownerUid) (toString request.projectId) (dashed (safeStem request.pcapPath)) runId
  | .enqueueScan runId capture =>
    let head := if safeStem capture.pcapPath ≠ [] then safeStem capture.pcapPath else "live".toList
    reportIn config (toString capture.userId) ((capture.projectId.map toString).getD "unassigned") (head ++ ['-']) runId
  | .launchScan sessionUuid rotation =>
    reportIn config (toString rotation.userId) (toString rotation.projectId) (dashed (safeStem rotation.pcapPath))
      sessionUuid

/-- An option with its value, unless the value is empty. -/
def option (name value : String) : List String := if value ≠ "" then [name, value] else []

def flag (name : String) (given : Bool) : List String := if given then [name] else []

/-- `MARLINSPIKE_ENGINE_CMD`, without the interpreter. -/
def engineWords : List String := ["-u", "-m", "marlinspike"]

/-- The words after the interpreter. -/
def Run.words (config : Config) (run : Run) : List String :=
  match run with
  | .apiScanStart _ request =>
    let chunkVal := max 0 (request.chunkSize.getD 0)
    let collapseVal := request.collapseThreshold.getD 50
    let useChunkedChain := request.command = .chain ∧ 0 < chunkVal ∧ config.pcapProcessSize < request.pcapSize
    engineWords ++ ["--pcap", String.ofList request.pcapPath] ++
    option "--dpi-engine" config.dpiEngine ++ option "--dpi-binary" config.dpiBin ++
    flag "--skip-ephemeral" request.skipEphemeral ++ option "--capture-filter" request.captureFilter ++
    flag "--fast" request.fast ++
    (if 0 < chunkVal ∧ ¬ useChunkedChain then ["--chunk-size", toString chunkVal.toNat] else []) ++
    ["--collapse-threshold", if 0 < collapseVal then toString collapseVal.toNat else "0"] ++
    ["--no-grassmarlin", "-o", run.reportPath config, request.command.text]
  | .enqueueScan _ capture =>
    engineWords ++ ["--pcap", String.ofList capture.pcapPath] ++
    option "--dpi-engine" config.dpiEngine ++ option "--dpi-binary" config.dpiBin ++ flag "--fast" capture.fast ++
    ["--collapse-threshold", "50", "--no-grassmarlin", "-o", run.reportPath config, "chain"]
  | .launchScan _ rotation =>
    engineWords ++ ["--pcap", String.ofList rotation.pcapPath, "--fast", "--collapse-threshold", "50",
      "--no-grassmarlin", "-o", run.reportPath config, "chain"]

def Run.argv (config : Config) (run : Run) : List String := config.pythonExe :: run.words config

/-- The gateway's command line is that of its rotations. -/
theorem argv_launchScan (config : Config) (scanTimeoutS : Nat) (sha256 : Base64.Bytes → String) (sessionUuid : String)
    (rotation : Rotation) :
    (Run.launchScan sessionUuid rotation).argv config =
      Gateway.Rotations.engineArgv
        ⟨config.reportsDir, config.pythonExe :: engineWords, scanTimeoutS, sha256, sessionUuid⟩ rotation := rfl

/-! ### Path-shaped words -/

def PathShaped (token : String) : Prop := token ≠ "" ∧ isFlag token = false ∧ isPath token = true

instance : DecidablePred PathShaped := fun _ => inferInstanceAs (Decidable (_ ∧ _ ∧ _))

/-- What of a run's command line can be path-shaped. -/
inductive Slot where
  | interpreter
  | capture
  | dpiEngine
  | dpiBinary
  | captureFilter
  | report
deriving DecidableEq, Repr

def Run.value (config : Config) (run : Run) : Slot → Option String
  | .interpreter => some config.pythonExe
  | .capture => some (String.ofList run.pcapPath)
  | .dpiEngine => if run.passesDpi then some config.dpiEngine else none
  | .dpiBinary => if run.passesDpi then some config.dpiBin else none
  | .captureFilter => some run.captureFilter
  | .report => some (run.reportPath config)

/-- The inputs of two runs keep their command lines apart. -/
structure Apart (config : Config) (a b : Run) : Prop where
  /-- The first one has a path among its words at all. -/
  shaped : ∃ slot ≠ .interpreter, ∃ value, a.value config slot = some value ∧ PathShaped value
  capture : PathShaped (String.ofList a.pcapPath) → a.pcapPath ≠ b.pcapPath
  report : PathShaped (a.reportPath config) → a.reportPath config ≠ b.reportPath config
  captureFilter : PathShaped a.captureFilter → a.captureFilter ≠ b.captureFilter
  /-- No path is configured for the DPI options, or one of the builders does not pass them. -/
  dpi : a.passesDpi → b.passesDpi → ¬ PathShaped config.dpiEngine ∧ ¬ PathShaped config.dpiBin
  /-- No value of one kind is also one of another kind. -/
  crossed : ∀ one other, one ≠ .interpreter → one ≠ other →
    ∀ value, a.value config one = some value → PathShaped value → b.value config other ≠ some value

theorem PathShaped.ne {token other : String} (shaped : PathShaped token) (plain : ¬ PathShaped other) : token ≠ other :=
  fun same => plain (same ▸ shaped)

theorem not_pathShaped_toString (n : Nat) : ¬ PathShaped (toString n) := by
  rintro ⟨-, -, path⟩
  have member : '/' ∈ Nat.toDigits 10 n := by
    simpa [isPath, Nat.toString_eq_repr, Nat.toList_repr] using path
  have digit := Nat.isDigit_of_mem_toDigits (by decide) (by decide) member
  exact absurd digit (by decide)

theorem not_pathShaped_text (command : ScanCommand) : ¬ PathShaped command.text := by
  cases command <;> decide

/-- The words that every command line is made of. -/
def fixed : List String :=
  ["-u", "-m", "marlinspike", "--pcap", "--dpi-engine", "--dpi-binary", "--skip-ephemeral", "--capture-filter", "--fast",
    "--chunk-size", "--collapse-threshold", "--no-grassmarlin", "-o", "chain", "50", "0"]

theorem not_pathShaped_fixed : ∀ word ∈ fixed, ¬ PathShaped word := by decide

section Words
variable {config : Config} {token : String}

theorem mem_option {name value : String} (named : token ≠ name) (some_ : token ≠ "") :
    token ∈ option name value ↔ value = token := by
  unfold option
  split_ifs with given
  · simp [named, eq_comm]
  · have apart : value ≠ token := by
      rintro rfl
      exact given some_
    simp [apart]

theorem not_mem_flag {name : String} (named : token ≠ name) (given : Bool) : token ∉ flag name given := by
  cases given <;> simp [flag, named]

/-- The path-shaped words of a command line are values of the run. -/
theorem mem_words_iff (run : Run) (shaped : PathShaped token) :
    token ∈ run.words config ↔ ∃ slot ≠ .interpreter, run.value config slot = some token := by
  have plain : ∀ word ∈ fixed, token ≠ word := fun word member => shaped.ne (not_pathShaped_fixed word member)
  have options (name value : String) (member : name ∈ fixed) : token ∈ option name value ↔ value = token :=
    mem_option (plain name member) shaped.1
  have flags (name : String) (given : Bool) (member : name ∈ fixed) : token ∉ flag name given :=
    not_mem_flag (plain name member) given
  have dpiEngine := options "--dpi-engine" config.dpiEngine (by decide)
  have dpiBinary := options "--dpi-binary" config.dpiBin (by decide)
  have fast (given : Bool) := flags "--fast" given (by decide)
  have number (n : Nat) : token ≠ n.repr := shaped.ne (not_pathShaped_toString n)
  have values : (∃ slot ≠ .interpreter, run.value config slot = some token) ↔
      String.ofList run.pcapPath = token ∨ (run.passesDpi ∧ (config.dpiEngine = token ∨ config.dpiBin = token)) ∨
        run.captureFilter = token ∨ run.reportPath config = token := by
    constructor
    · rintro ⟨slot, notInterpreter, found⟩
      cases slot <;> simp [Run.value] at found notInterpreter <;> simp [found]
    · rintro (same | ⟨passes, same | same⟩ | same | same)
      · exact ⟨.capture, by decide, by simp [Run.value, same]⟩
      · exact ⟨.dpiEngine, by decide, by simp [Run.value, passes, same]⟩
      · exact ⟨.dpiBinary, by decide, by simp [Run.value, passes, same]⟩
      · exact ⟨.captureFilter, by decide, by simp [Run.value, same]⟩
      · exact ⟨.report, by decide, by simp [Run.value, same]⟩
  rw [values]
  cases run with
  | apiScanStart runId request =>
    have filter := options "--capture-filter" request.captureFilter (by decide)
    have skip := flags "--skip-ephemeral" request.skipEphemeral (by decide)
    have text : token ≠ request.command.text := shaped.ne (not_pathShaped_text request.command)
    simp only [fixed, List.forall_mem_cons] at plain
    simp only [Run.words, engineWords, Run.pcapPath, Run.passesDpi, Run.captureFilter, List.mem_append, dpiEngine,
      dpiBinary, filter, skip, fast]
    split_ifs <;> simp [plain, number, text, eq_comm, or_assoc]
  | enqueueScan runId capture =>
    simp only [fixed, List.forall_mem_cons] at plain
    simp [Run.words, engineWords, Run.pcapPath, Run.passesDpi, Run.captureFilter, dpiEngine, dpiBinary, fast, plain,
      shaped.1.symm, or_assoc, eq_comm]
  | launchScan sessionUuid rotation =>
    simp only [fixed, List.forall_mem_cons] at plain
    simp [Run.words, engineWords, Run.pcapPath, Run.passesDpi, Run.captureFilter, plain, shaped.1.symm, eq_comm]

theorem mem_argv_iff (run : Run) (shaped : PathShaped token) :
    token ∈ run.argv config ↔ ∃ slot, run.value config slot = some token := by
  rw [Run.argv, List.mem_cons, mem_words_iff run shaped]
  constructor
  · rintro (rfl | ⟨slot, -, found⟩)
    · exact ⟨.interpreter, rfl⟩
    · exact ⟨slot, found⟩
  · rintro ⟨slot, found⟩
    by_cases interpreter : slot = .interpreter
    · subst interpreter
      exact .inl (Option.some.inj found).symm
    · exact .inr ⟨slot, interpreter, found⟩

theorem marlinspike_mem_words (run : Run) : "marlinspike" ∈ run.words config := by
  cases run <;> simp [Run.words, engineWords]

end Words

/-! ### The check -/

/-- Without a path among its words, a command line is taken for any other one. -/
theorem liveArgvMatches_eq_false_iff (config : Config) (a b : Run) :
    liveArgvMatches (b.argv config) (a.argv config) = false ↔
      (∃ token ∈ a.words config, PathShaped token) ∧
        ∀ token ∈ a.words config, PathShaped token → token ∉ b.argv config := by
  have pathTokens (token : String) : token ∈ ((a.words config).filter fun token => token ≠ "" && !isFlag token).filter isPath ↔
      token ∈ a.words config ∧ PathShaped token := by
    simp only [List.mem_filter, decide_not, Bool.and_eq_true, Bool.not_eq_true', decide_eq_false_iff_not, PathShaped]
    tauto
  unfold liveArgvMatches
  rw [if_neg (by simp [Run.argv])]
  simp only [Run.argv, List.drop_succ_cons, List.drop_zero]
  rw [← Run.argv]
  split_ifs with some_
  · obtain ⟨token, member⟩ := List.exists_mem_of_ne_nil _ some_
    rw [List.any_eq_false]
    constructor
    · intro apart
      refine ⟨⟨token, (pathTokens token).mp member⟩, fun other found shaped inside => ?_⟩
      exact apart other ((pathTokens other).mpr ⟨found, shaped⟩) (List.contains_iff_mem.mpr inside)
    · rintro ⟨-, apart⟩ other found inside
      obtain ⟨found, shaped⟩ := (pathTokens other).mp found
      exact apart other found shaped (List.contains_iff_mem.mp inside)
  · rw [not_not] at some_
    have shared : (((a.words config).filter fun token => token ≠ "" && !isFlag token).any (b.argv config).contains) = true := by
      rw [List.any_eq_true]
      refine ⟨"marlinspike", List.mem_filter.mpr ⟨marlinspike_mem_words a, by decide⟩, ?_⟩
      exact List.contains_iff_mem.mpr (List.mem_cons_of_mem _ (marlinspike_mem_words b))
    rw [shared]
    simp only [Bool.true_eq_false, false_iff, not_and]
    rintro ⟨token, found⟩ -
    have none_ := (pathTokens token).mpr found
    rw [some_] at none_
    cases none_

theorem liveArgvMatches_self (config : Config) (run : Run) :
    liveArgvMatches (run.argv config) (run.argv config) = true := by
  rw [← Bool.not_eq_false, liveArgvMatches_eq_false_iff]
  rintro ⟨⟨token, found, shaped⟩, apart⟩
  exact apart token found shaped (List.mem_cons_of_mem _ found)

theorem apart_iff (config : Config) (a b : Run) :
    Apart config a b ↔ (∃ token ∈ a.words config, PathShaped token) ∧
      ∀ token ∈ a.words config, PathShaped token → token ∉ b.argv config := by
  constructor
  · rintro apart
    constructor
    · obtain ⟨slot, notInterpreter, value, found, shaped⟩ := apart.shaped
      exact ⟨value, (mem_words_iff a shaped).mpr ⟨slot, notInterpreter, found⟩, shaped⟩
    · intro token member shaped inside
      obtain ⟨one, notInterpreter, found⟩ := (mem_words_iff a shaped).mp member
      obtain ⟨other, found'⟩ := (mem_argv_iff b shaped).mp inside
      by_cases same : one = other
      · subst same
        cases one with
        | interpreter => exact notInterpreter rfl
        | capture =>
          obtain rfl := Option.some.inj found
          exact apart.capture shaped (String.ofList_injective (Option.some.inj found').symm)
        | dpiEngine =>
          simp only [Run.value, Option.ite_none_right_eq_some, Option.some.injEq] at found found'
          exact (apart.dpi found.1 found'.1).1 (found.2 ▸ shaped)
        | dpiBinary =>
          simp only [Run.value, Option.ite_none_right_eq_some, Option.some.injEq] at found found'
          exact (apart.dpi found.1 found'.1).2 (found.2 ▸ shaped)
        | captureFilter =>
          obtain rfl := Option.some.inj found
          exact apart.captureFilter shaped (Option.some.inj found').symm
        | report =>
          obtain rfl := Option.some.inj found
          exact apart.report shaped (Option.some.inj found').symm
      · exact apart.crossed one other notInterpreter same token found shaped found'
  · rintro ⟨⟨token, member, shaped⟩, apart⟩
    have clash (one other : Slot) (notInterpreter : one ≠ .interpreter) {value : String}
        (found : a.value config one = some value) (shaped : PathShaped value)
        (found' : b.value config other = some value) : False :=
      apart value ((mem_words_iff a shaped).mpr ⟨one, notInterpreter, found⟩) shaped
        ((mem_argv_iff b shaped).mpr ⟨other, found'⟩)
    constructor
    case shaped =>
      obtain ⟨slot, notInterpreter, found⟩ := (mem_words_iff a shaped).mp member
      exact ⟨slot, notInterpreter, token, found, shaped⟩
    case capture =>
      intro shaped same
      exact clash .capture .capture (by decide) rfl shaped (by simp [Run.value, same])
    case report =>
      intro shaped same
      exact clash .report .report (by decide) rfl shaped (by simp [Run.value, same])
    case captureFilter =>
      intro shaped same
      exact clash .captureFilter .captureFilter (by decide) rfl shaped (by simp [Run.value, same])
    case dpi =>
      intro first second
      refine ⟨fun shaped => ?_, fun shaped => ?_⟩
      · exact clash .dpiEngine .dpiEngine (by decide) (if_pos first) shaped (if_pos second)
      · exact clash .dpiBinary .dpiBinary (by decide) (if_pos first) shaped (if_pos second)
    case crossed =>
      intro one other notInterpreter _ value found shaped found'
      exact clash one other notInterpreter found shaped found'

/-- The check separates two runs exactly if their inputs keep their command lines apart. -/
theorem separates_iff (config : Config) (a b : Run) :
    (liveArgvMatches (b.argv config) (a.argv config) = false ∧
      liveArgvMatches (a.argv config) (a.argv config) = true) ↔ Apart config a b := by
  rw [and_iff_left (liveArgvMatches_self config a), liveArgvMatches_eq_false_iff, apart_iff]

/-! ### Two scans of one capture file -/

/-- A default configuration. -/
def plain : Config := ⟨"/usr/bin/python3", "auto", "", "/data/reports", 5 * 1024 ^ 3⟩

def upload : Request where
  pcapPath := "/data/uploads/1/1/a.pcap".toList
  pcapSize := 24
  ownerUid := 1
  projectId := 1
  command := .chain
  skipEphemeral := false
  captureFilter := ""
  fast := false
  chunkSize := none
  collapseThreshold := none

/-- The user starts a scan of a file twice; each of the two is taken for the other. -/
theorem shared_capture_not_separated :
    ¬ ∀ (config : Config) (a b : Run), a.runId ≠ b.runId →
      liveArgvMatches (b.argv config) (a.argv config) = false ∧
        liveArgvMatches (a.argv config) (a.argv config) = true := by
  intro separates
  have apart := (separates plain (.apiScanStart "0b7f6a34-5c1e-4d0a-9b1f-2f6f6c3a7d10" upload)
    (.apiScanStart "c2d91e58-7a42-4f6d-8e03-91b5d0a4c6ef" upload) (by decide)).1
  rw [liveArgvMatches_eq_false_iff] at apart
  have shaped : PathShaped (String.ofList upload.pcapPath) := by decide
  refine apart.2 (String.ofList upload.pcapPath) ?_ shaped ?_
  · exact (mem_words_iff _ shaped).mpr ⟨.capture, by decide, rfl⟩
  · exact (mem_argv_iff _ shaped).mpr ⟨.capture, rfl⟩

end Marlinspike.Recovery.Argv
