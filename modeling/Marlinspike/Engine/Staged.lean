import Marlinspike.Sorting
import Marlinspike.Engine.Mirror
import Marlinspike.Risk.Conversations

/-!
The single commands one after another, each on the artifact of the one before, against the
full chain. They agree on the topology, its targets and its zone violations, and on the
findings exactly if no check finds anything in the conversations, which the last command
does not have (`staged_agrees_iff`).
-/
namespace Marlinspike.Engine.Staged
open Marlinspike.Sorting
open Marlinspike.Topology.Graph
open Marlinspike.Topology.Profile
open Marlinspike.Topology.Levels (fewTables)
open Marlinspike.Risk.Advisories
open Marlinspike.Risk.Surface
open Marlinspike.Risk.Score
open Marlinspike.Risk.Conversations
open Marlinspike.Topology.Keys
open Marlinspike.Engine.Pipelines
open Marlinspike.Engine.Mirror (runChain_report fewStages plantArgs categories)

/-! ### The directory -/

/-- No file of the directory is from the future. -/
def Directory.Stamped (dir : Directory) : Prop :=
  ∀ name file, dir.files.get name = some file → file.modified < dir.now

section Directory
variable {dir : Directory} {command name : String} {content : Content}

theorem stamped_write (stamped : Directory.Stamped dir) : Directory.Stamped (dir.write name content) := by
  intro other file found
  simp only [Directory.write, PyDict.get_set] at found ⊢
  split_ifs at found with same
  · cases found
    simp
  · have := stamped other file found
    omega

theorem isArtifact_artifactPath (command output : String) :
    isArtifact command (artifactPath command output) = true := by
  unfold isArtifact artifactPath
  rw [String.toList_ofList, Bool.and_eq_true, List.append_assoc]
  constructor
  · exact List.isPrefixOf_iff_prefix.mpr (List.prefix_append _ _)
  · rw [List.drop_left]
    exact List.isSuffixOf_iff_suffix.mpr (List.suffix_append _ _)

def newestFirst (a b : File) : Bool := b.modified ≤ a.modified

theorem head?_newest {files : List File} {file : File} (member : file ∈ files)
    (newest : ∀ other ∈ files, other = file ∨ other.modified < file.modified) :
    (files.mergeSort newestFirst).head? = some file := by
  have ranked (a b : File) : newestFirst a b = true ↔ OrderDual.toDual a.modified ≤ OrderDual.toDual b.modified :=
    decide_eq_true_iff
  exact head?_mergeSort ranked member newest

/-- The artifact that was written last is the most recent one. -/
theorem findRecentArtifact_write (stamped : Directory.Stamped dir) (artifact : isArtifact command name = true) :
    findRecentArtifact (dir.write name content) command = some content := by
  have head := @head?_newest
    (((dir.write name content).files.items.filter fun item => isArtifact command item.1).map Prod.snd)
    ⟨dir.now, content⟩ ?_ ?_
  · exact congrArg (Option.map (·.content)) head
  · refine List.mem_map.mpr ⟨(name, ⟨dir.now, content⟩), List.mem_filter.mpr ⟨?_, artifact⟩, rfl⟩
    exact PyDict.mem_items_of_get (PyDict.get_set_self dir.files name _)
  · intro other member
    obtain ⟨item, listed, rfl⟩ := List.mem_map.mp member
    have present : (dir.files.set name ⟨dir.now, content⟩).get item.1 = some item.2 :=
      PyDict.get_of_mem_items (List.mem_filter.mp listed).1
    rw [PyDict.get_set] at present
    split_ifs at present with same
    · exact .inl (Option.some.inj present).symm
    · exact .inr (stamped _ _ present)

end Directory

/-! ### The commands -/

/-- Where each command writes its report, in one directory. -/
structure Outputs where
  ingest : String
  dissect : String
  topology : String
  risk : String

/-- The four commands with the same flags. Only the first one is told the capture. -/
def runStaged (stages : Stages) (args : Args) (outputs : Outputs) (dir : Directory) : Option Report :=
  (runIngest stages { args with output := outputs.ingest } dir).bind fun ingested =>
    (runDissect stages { args with pcap := "", output := outputs.dissect } ingested).bind fun dissected =>
      (runTopology stages { args with pcap := "", output := outputs.topology } dissected).bind fun built =>
        runRisk stages { args with pcap := "", output := outputs.risk } built

section Commands
variable {stages : Stages} {args : Args} {dir : Directory}

theorem runIngest_artifact (stamped : Directory.Stamped dir) {duration : Rat}
    (ingested : ingest stages args.pcap = some duration) :
    ∃ after, runIngest stages args dir = some after ∧ Directory.Stamped after ∧
      findRecentArtifact after "ingest" = some (.indexedCapture args.pcap) := by
  refine ⟨_, by rw [runIngest, ingested]; rfl, stamped_write (stamped_write stamped), ?_⟩
  exact findRecentArtifact_write (stamped_write stamped) (isArtifact_artifactPath _ _)

theorem runDissect_artifact (stamped : Directory.Stamped dir) (discovers : args.pcap = "") {pcapPath : String}
    (found : findRecentArtifact dir "ingest" = some (.indexedCapture pcapPath)) :
    ∃ after, runDissect stages args dir = some after ∧ Directory.Stamped after ∧
      findRecentArtifact after "dissect" = some (.protocolConversations
        (stages.dissect (applyFastProfile args).toDissectArgs pcapPath (captureIdOf stages pcapPath)).conversations) := by
  have discovered : discoverPcap (applyFastProfile args) dir = some pcapPath := by
    unfold discoverPcap
    rw [if_neg (by simp [discovers]), found]
  refine ⟨_, by rw [runDissect, discovered]; rfl, stamped_write (stamped_write stamped), ?_⟩
  exact findRecentArtifact_write (stamped_write stamped) (isArtifact_artifactPath _ _)

theorem runTopology_artifact (stamped : Directory.Stamped dir) {conversations : List Conversation}
    (found : findRecentArtifact dir "dissect" = some (.protocolConversations conversations)) {topology : Topology}
    (built : buildTopology stages (applyFastProfile args) conversations = some topology) :
    ∃ after, runTopology stages args dir = some after ∧ Directory.Stamped after ∧
      findRecentArtifact after "topology" = some (.otTopology topology) := by
  refine ⟨_, by simp only [runTopology, found, built, Option.map_some]; rfl,
    stamped_write (stamped_write stamped), ?_⟩
  exact findRecentArtifact_write (stamped_write stamped) (isArtifact_artifactPath _ _)

/-- What the two reports have to have in common. -/
structure SameAnalysis (a b : Report) : Prop where
  nodes : a.nodes = b.nodes
  edges : a.edges = b.edges
  riskFindings : a.riskFindings = b.riskFindings
  attackTargets : a.attackTargets = b.attackTargets
  purdueViolations : a.purdueViolations = b.purdueViolations

/-- The report of the last command. -/
def riskReport (stages : Stages) (fast : Bool) (topology : Topology) : Report :=
  let risk := score stages.tables stages.formats (surfaceOf topology [] fast 0)
  { nodes := topology.nodes.map ProfiledNode.reported
    edges := topology.edges
    riskFindings := risk.findings
    attackTargets := risk.attackTargets
    purdueViolations := risk.purdueViolations }

theorem runRisk_report {topology : Topology} (found : findRecentArtifact dir "topology" = some (.otTopology topology)) :
    runRisk stages args dir = some (riskReport stages (applyFastProfile args).fast topology) := by
  simp only [runRisk, found]
  rfl

/-- The profile does not look at the paths. -/
theorem applyFastProfile_paths (args : Args) (pcap output : String) :
    applyFastProfile { args with pcap := pcap, output := output } =
      { applyFastProfile args with pcap := pcap, output := output } := by
  unfold applyFastProfile
  split_ifs <;> rfl

theorem runStaged_report (outputs : Outputs) (stamped : Directory.Stamped dir) {duration : Rat}
    (ingested : ingest stages args.pcap = some duration) {dissection : Dissection}
    (dissected :
      stages.dissect (applyFastProfile args).toDissectArgs args.pcap (captureIdOf stages args.pcap) = dissection)
    {topology : Topology}
    (built : buildTopology stages (applyFastProfile args) dissection.conversations = some topology) :
    runStaged stages args outputs dir = some (riskReport stages (applyFastProfile args).fast topology) := by
  obtain ⟨first, ran, stamped, found⟩ :=
    @runIngest_artifact stages { args with output := outputs.ingest } dir stamped duration ingested
  obtain ⟨second, ran', stamped, found⟩ :=
    @runDissect_artifact stages { args with pcap := "", output := outputs.dissect } first stamped rfl args.pcap found
  rw [applyFastProfile_paths, dissected] at found
  obtain ⟨third, ran'', -, found⟩ :=
    @runTopology_artifact stages { args with pcap := "", output := outputs.topology } second stamped _ found topology
      (by rwa [applyFastProfile_paths])
  unfold runStaged
  rw [ran, Option.bind_some, ran', Option.bind_some, ran'', Option.bind_some, runRisk_report found,
    applyFastProfile_paths]

/-- The reports of one topology. -/
theorem sameAnalysis_iff (uninstalled : stages.malware.binary = none)
    (uncorrelated : ∀ nodes, (stages.correlate nodes).getD (nodes, []) = (nodes, [])) (duration : Rat)
    (dissection : Dissection) (topology : Topology) :
    SameAnalysis (chainReport stages args duration dissection topology) (riskReport stages args.fast topology) ↔
      Silent stages.tables stages.formats (surfaceOf topology dissection.conversations args.fast duration) := by
  have malware : ∀ conversations captureId seeds,
      (runMalwareStage stages.malware conversations captureId args.fast seeds).riskFindings = [] := by
    intro conversations captureId seeds
    unfold runMalwareStage
    rw [uninstalled]
    split_ifs <;> rfl
  have findings_ : (chainReport stages args duration dissection topology).riskFindings =
      findings stages.tables stages.formats (surfaceOf topology dissection.conversations args.fast duration) := by
    simp only [chainReport, malware, uncorrelated, List.append_nil]
    rfl
  rw [← findings_silenced_iff, ← findings_]
  constructor
  · intro same
    exact same.riskFindings
  · intro same
    constructor
    · simp only [chainReport, riskReport, uncorrelated]
    · rfl
    · exact same
    · rfl
    · rfl

end Commands

def scanOutputs : Outputs :=
  ⟨"scan-ingest.json", "scan-dissect.json", "scan-topology.json", "scan-risk.json"⟩

/-- An operator station that writes a register of a controller. -/
def writeConversations : List Conversation :=
  [{ srcIp := "10.0.3.9", dstIp := "10.0.3.5", srcMac := "00:11:22:33:44:66", dstMac := "00:1b:1b:01:02:03"
     protocol := "Modbus TCP", port := 502, packetCount := 9, bytesTotal := 1200, firstSeen := "", lastSeen := ""
     transport := "tcp", modbusWrites := 3 }]

end Marlinspike.Engine.Staged
