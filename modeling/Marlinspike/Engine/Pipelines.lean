import Marlinspike.Risk.Advisories
import Marlinspike.Risk.Score
import Marlinspike.Topology.Tables

/-!
The pipelines from conversations to a report: the full chain, the chain that starts from
merged conversations, and the single commands, which hand each other artifacts in a
directory. What Stage 2, the malware engine and the correlation yield are parameters.
-/
namespace Marlinspike.Engine.Pipelines
open Marlinspike.Topology.Graph
open Marlinspike.Topology.Merge
open Marlinspike.Topology.Profile
open Marlinspike.Topology.Tables
open Marlinspike.Risk.Surface
open Marlinspike.Risk.Score
open Marlinspike.Risk.Advisories

/-! ### Arguments -/

/-- What Stage 2 reads of the arguments. -/
structure DissectArgs where
  dpiEngine : String := "auto"
  dpiBinary : String := ""
  chunkSize : Nat := 0
  collapseThreshold : Nat := 50
deriving DecidableEq

structure Args extends DissectArgs where
  pcap : String := ""
  conversations : String := ""
  output : String
  /-- The loaded map. -/
  subnetMap : SubnetMap := PyDict.empty
  skipEphemeral : Bool := false
  fast : Bool := false

/-- `_apply_fast_profile`. -/
def applyFastProfile (args : Args) : Args :=
  if args.fast then
    { args with
      skipEphemeral := true
      collapseThreshold := if args.collapseThreshold = 50 then 25 else args.collapseThreshold }
  else args

@[simp] theorem applyFastProfile_pcap (args : Args) : (applyFastProfile args).pcap = args.pcap := by
  unfold applyFastProfile
  split_ifs <;> rfl

@[simp] theorem applyFastProfile_conversations (args : Args) :
    (applyFastProfile args).conversations = args.conversations := by
  unfold applyFastProfile
  split_ifs <;> rfl

inductive DpiEngine where
  | python
  | marlinspikeDpi
deriving DecidableEq, Repr

/-- What Stage 2 yields. -/
structure Dissection where
  conversations : List Conversation
  engine : DpiEngine
  malwareSeedEvents : List Json := []

/-- The malware engine and its rules, as far as they are installed. -/
structure Malware where
  binary : Option String
  rulesDir : Option String
  observedEvents : List Conversation → String → List Json
  run : String → String → List Json → String → List Json
  c2Indicators : List Json → List C2Indicator
  riskFindings : List Json → List RiskFinding

structure MalwareResult where
  malwareFindings : List Json := []
  c2Indicators : List C2Indicator := []
  riskFindings : List RiskFinding := []

/-- `_run_malware_stage`. -/
def runMalwareStage (malware : Malware) (conversations : List Conversation) (captureId : String) (skip : Bool)
    (extraEvents : List Json) : MalwareResult :=
  if skip then {}
  else
    match malware.binary, malware.rulesDir with
    | some binary, some rulesDir =>
      let events := extraEvents ++ malware.observedEvents conversations captureId
      if events.isEmpty then {}
      else
        let findings := malware.run binary rulesDir events captureId
        if findings.isEmpty then {} else ⟨findings, malware.c2Indicators findings, malware.riskFindings findings⟩
    | _, _ => {}

/-- What the stages use: tables, formats, the engines, and the name of a path without its
    directory and extension. `correlate` has no result where it raises. -/
structure Stages where
  tables : Tables
  formats : Formats
  stem : String → String
  /-- `CaptureIngestor.validate_pcap`: the `duration_s` of a capture that there is. -/
  validatePcap : String → Option Rat
  dissect : DissectArgs → String → String → Dissection
  malware : Malware
  correlate : List ReportNode → Option (List ReportNode × List RiskFinding)

/-! ### The stages -/

/-- What `TopologyBuilder.build` returns. -/
structure Topology where
  nodes : List ProfiledNode
  edges : List TopologyEdge
  macTable : List MacEntry

structure Report where
  conversations : List Conversation := []
  nodes : List ReportNode := []
  edges : List TopologyEdge := []
  macTable : List MacEntry := []
  portSummary : PyDict (Nat × String) PortSummary := PyDict.empty
  riskFindings : List RiskFinding := []
  attackTargets : List Target := []
  c2Indicators : List C2Indicator := []
  purdueViolations : List PurdueViolation := []
  malwareFindings : List Json := []

section Chains
variable (stages : Stages)

/-- `CaptureIngestor.ingest`. -/
def ingest (pcap : String) : Option Rat := if pcap = "" then none else stages.validatePcap pcap

/-- `TopologyBuilder.build`. -/
def buildTopology (args : Args) (conversations : List Conversation) : Option Topology :=
  (topologyOf stages.tables.toServices args.skipEphemeral conversations).map fun m =>
    let nodes := profiledNodes stages.tables args.subnetMap m.builder
    { nodes := nodes.items.map Prod.snd
      edges := m.builder.edges
      macTable := buildMacTable stages.tables conversations nodes }

/-- `RiskSurface(topology=…, conversations=…, skip_c2=…)`, with the duration it is given. -/
def surfaceOf (topology : Topology) (conversations : List Conversation) (skipC2 : Bool) (captureDuration : Rat) :
    RiskSurface :=
  ⟨nodesByKey topology.nodes, topology.edges, conversations, skipC2, captureDuration⟩

def captureIdOf (path : String) : String := either (stages.stem path) "capture"

def portSummaryOf (dissection : Dissection) : PyDict (Nat × String) PortSummary :=
  match dissection.engine with
  | .python => buildPortSummary stages.tables.toServices dissection.conversations
  | .marlinspikeDpi => buildPortSummaryFromConversations stages.tables.toServices dissection.conversations

/-! ### The chains -/

/-- Stage 4 of `run_chain`, with what it leaves in the report. -/
def chainReport (args : Args) (duration : Rat) (dissection : Dissection) (topology : Topology) : Report :=
  let risk := score stages.tables stages.formats (surfaceOf topology dissection.conversations args.fast duration)
  let malware := runMalwareStage stages.malware dissection.conversations (captureIdOf stages args.pcap) args.fast
    dissection.malwareSeedEvents
  let nodes := topology.nodes.map ProfiledNode.reported
  let correlated := (stages.correlate nodes).getD (nodes, [])
  { conversations := dissection.conversations
    nodes := correlated.1
    edges := topology.edges
    macTable := topology.macTable
    portSummary := portSummaryOf stages dissection
    riskFindings := risk.findings ++ malware.riskFindings ++ correlated.2
    attackTargets := risk.attackTargets
    c2Indicators := risk.c2Indicators ++ malware.c2Indicators
    purdueViolations := risk.purdueViolations
    malwareFindings := malware.malwareFindings }

def runChain (args : Args) : Option Report :=
  let args := applyFastProfile args
  (ingest stages args.pcap).bind fun duration =>
    let dissection := stages.dissect args.toDissectArgs args.pcap (captureIdOf stages args.pcap)
    (buildTopology stages args dissection.conversations).map (chainReport stages args duration dissection)

/-- A merged conversations artifact, with the `duration_s` of its capture. -/
structure Merged where
  conversations : List Conversation
  duration : Rat

/-- The same of `run_chain_from_conversations`. -/
def mirrorReport (args : Args) (merged : Merged) (topology : Topology) : Report :=
  let risk := score stages.tables stages.formats (surfaceOf topology merged.conversations args.fast merged.duration)
  let malware := runMalwareStage stages.malware merged.conversations
    (captureIdOf stages (either args.pcap args.conversations)) args.fast []
  { conversations := merged.conversations
    nodes := topology.nodes.map ProfiledNode.reported
    edges := topology.edges
    macTable := topology.macTable
    portSummary := buildPortSummaryFromConversations stages.tables.toServices merged.conversations
    riskFindings := risk.findings ++ malware.riskFindings
    attackTargets := risk.attackTargets
    c2Indicators := risk.c2Indicators ++ malware.c2Indicators
    purdueViolations := risk.purdueViolations
    malwareFindings := malware.malwareFindings }

def runChainFromConversations (args : Args) (merged : Merged) : Option Report :=
  let args := applyFastProfile args
  if args.conversations = "" then none
  else (buildTopology stages args merged.conversations).map (mirrorReport stages args merged)

/-! ### The single commands -/

/-- What the commands write into the directory of their outputs. -/
inductive Content where
  | report (report : Report)
  | indexedCapture (pcapPath : String)
  | protocolConversations (conversations : List Conversation)
  | otTopology (topology : Topology)

structure File where
  modified : Nat
  content : Content

/-- The files by name, and the time. -/
structure Directory where
  files : PyDict String File
  now : Nat

/-- A file is written, later than all before it. -/
def Directory.write (dir : Directory) (name : String) (content : Content) : Directory :=
  ⟨dir.files.set name ⟨dir.now, content⟩, dir.now + 1⟩

/-- `.replace(".json", "")`. -/
def withoutJson : List Char → List Char
  | '.' :: 'j' :: 's' :: 'o' :: 'n' :: rest => withoutJson rest
  | c :: rest => c :: withoutJson rest
  | [] => []

def artifactPrefix (command : String) : List Char := ("VORACITY-MODULE-MARLINSPIKE-" ++ command ++ "-").toList

def artifactPath (command output : String) : String :=
  let runId := (((withoutJson output.toList).splitOn '-').getLast?.getD []).take 8
  String.ofList (artifactPrefix command ++ runId ++ ".json".toList)

/-- Whether the glob for the artifacts of a command finds the name. -/
def isArtifact (command name : String) : Bool :=
  (artifactPrefix command).isPrefixOf name.toList &&
    ".json".toList.isSuffixOf (name.toList.drop (artifactPrefix command).length)

/-- `_find_recent_artifact`. -/
def findRecentArtifact (dir : Directory) (command : String) : Option Content :=
  let found := (dir.files.items.filter fun item => isArtifact command item.1).map Prod.snd
  (found.mergeSort fun a b => b.modified ≤ a.modified).head?.map (·.content)

def runIngest (args : Args) (dir : Directory) : Option Directory :=
  (ingest stages args.pcap).map fun _ =>
    (dir.write args.output (.report {})).write (artifactPath "ingest" args.output) (.indexedCapture args.pcap)

/-- The capture of the arguments, or else of the newest artifact. -/
def discoverPcap (args : Args) (dir : Directory) : Option String :=
  if args.pcap ≠ "" then some args.pcap
  else
    match findRecentArtifact dir "ingest" with
    | some (.indexedCapture pcapPath) => some pcapPath
    | _ => none

def runDissect (args : Args) (dir : Directory) : Option Directory :=
  let args := applyFastProfile args
  (discoverPcap args dir).map fun pcapPath =>
    let dissection := stages.dissect args.toDissectArgs pcapPath (captureIdOf stages pcapPath)
    let report : Report :=
      { conversations := dissection.conversations, portSummary := portSummaryOf stages dissection }
    (dir.write args.output (.report report)).write (artifactPath "dissect" args.output)
      (.protocolConversations dissection.conversations)

/-- Without `--conversations`. -/
def runTopology (args : Args) (dir : Directory) : Option Directory :=
  let args := applyFastProfile args
  match findRecentArtifact dir "dissect" with
  | some (.protocolConversations conversations) =>
    (buildTopology stages args conversations).map fun topology =>
      let report : Report :=
        { nodes := topology.nodes.map ProfiledNode.reported, edges := topology.edges, macTable := topology.macTable }
      (dir.write args.output (.report report)).write (artifactPath "topology" args.output) (.otTopology topology)
  | _ => none

/-- Without `--topology`. "Risk analysis doesn't need full conversations." -/
def runRisk (args : Args) (dir : Directory) : Option Report :=
  let args := applyFastProfile args
  match findRecentArtifact dir "topology" with
  | some (.otTopology topology) =>
    let risk := score stages.tables stages.formats (surfaceOf topology [] args.fast 0)
    some
      { nodes := topology.nodes.map ProfiledNode.reported
        edges := topology.edges
        riskFindings := risk.findings
        attackTargets := risk.attackTargets
        purdueViolations := risk.purdueViolations }
  | _ => none

end Chains

end Marlinspike.Engine.Pipelines
