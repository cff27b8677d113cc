import Marlinspike.Engine.Pipelines
import Marlinspike.Topology.Keys
import Marlinspike.Topology.Levels

/-!
The chain from merged conversations against the full chain on the same conversations. It
leaves the correlation with advisories out, which gives every node its vulnerabilities, and
it counts fewer peers of a port than the built-in dissector (`chains_agree_iff`).
-/
namespace Marlinspike.Engine.Mirror
open Marlinspike.Topology.Graph
open Marlinspike.Topology.Merge
open Marlinspike.Topology.Profile
open Marlinspike.Topology.Tables
open Marlinspike.Topology.Keys
open Marlinspike.Topology.Levels (fewTables)
open Marlinspike.Risk.Surface
open Marlinspike.Risk.Advisories
open Marlinspike.Engine.Pipelines

/-- What the two reports have to have in common. -/
structure SameReport (a b : Report) : Prop where
  nodes : a.nodes = b.nodes
  edges : a.edges = b.edges
  macTable : a.macTable = b.macTable
  portSummary : ∀ key, a.portSummary.get key = b.portSummary.get key
  riskFindings : a.riskFindings = b.riskFindings
  attackTargets : a.attackTargets = b.attackTargets
  c2Indicators : a.c2Indicators = b.c2Indicators
  purdueViolations : a.purdueViolations = b.purdueViolations

/-- The stages, with the correlation as it is, over a catalog. -/
def Stages.correlating (stages : Stages) (catalog : List Advisory) : Stages :=
  { stages with correlate := fun nodes => some (correlateIcsVulnerabilities stages.tables catalog nodes) }

/-- The addresses that send on a port are among those that receive there. -/
def Answered (conversations : List Conversation) : Prop :=
  ∀ conv ∈ conversations, conv.port ≠ 0 → conv.srcIp ≠ "" →
    ∃ other ∈ conversations, other.port = conv.port ∧ other.transport = conv.transport ∧ other.dstIp = conv.srcIp

theorem correlated_same_iff (tables : Tables) (catalog : List Advisory) (nodes : List ProfiledNode) :
    (correlateIcsVulnerabilities tables catalog (nodes.map ProfiledNode.reported)).1 =
      nodes.map ProfiledNode.reported ↔ nodes = [] := by
  constructor
  · intro same
    have given := (correlated_nodes tables catalog (nodes.map ProfiledNode.reported) ([], ⟨[], []⟩)).2 nofun
    change ∀ node ∈ (correlateIcsVulnerabilities tables catalog (nodes.map ProfiledNode.reported)).1, _ at given
    rw [same] at given
    cases nodes with
    | nil => rfl
    | cons node rest => exact absurd rfl (given (ProfiledNode.reported node) List.mem_cons_self)
  · rintro rfl
    rfl

theorem length_profiledNodes (tables : Tables) (subnetMap : SubnetMap) (b : TopologyBuilder) :
    (profiledNodes tables subnetMap b).items.length = b.nodes.items.length := by
  simp [profiledNodes, fingerprinted, inferPurdueLevels, PyDict.mapItems]

theorem runChain_report {stages : Stages} {args : Args} {duration : Rat}
    (ingested : ingest stages args.pcap = some duration) {dissection : Dissection}
    (dissected : stages.dissect (applyFastProfile args).toDissectArgs args.pcap (captureIdOf stages args.pcap) = dissection)
    {topology : Topology} (built : buildTopology stages (applyFastProfile args) dissection.conversations = some topology) :
    runChain stages args = some (chainReport stages (applyFastProfile args) duration dissection topology) := by
  unfold runChain
  simp only [applyFastProfile_pcap]
  rw [ingested, dissected, Option.bind_some, built, Option.map_some]

theorem runChainFromConversations_report {stages : Stages} {args : Args} (given : args.conversations ≠ "")
    {merged : Merged} {topology : Topology}
    (built : buildTopology stages (applyFastProfile args) merged.conversations = some topology) :
    runChainFromConversations stages args merged = some (mirrorReport stages (applyFastProfile args) merged topology) := by
  unfold runChainFromConversations
  simp only [applyFastProfile_conversations]
  rw [if_neg given, built, Option.map_some]

/-- The reports of one topology. -/
theorem sameReport_iff (stages : Stages) (catalog : List Advisory) {args : Args} (pcap : args.pcap ≠ "")
    (duration : Rat) {dissection : Dissection} (seedless : dissection.malwareSeedEvents = []) (topology : Topology) :
    SameReport (chainReport (Stages.correlating stages catalog) args duration dissection topology)
        (mirrorReport (Stages.correlating stages catalog) args ⟨dissection.conversations, duration⟩ topology) ↔
      topology.nodes = [] ∧ (dissection.engine = .marlinspikeDpi ∨ Answered dissection.conversations) := by
  have ports : (∀ key, (portSummaryOf (Stages.correlating stages catalog) dissection).get key =
      (buildPortSummaryFromConversations stages.tables.toServices dissection.conversations).get key) ↔
      dissection.engine = .marlinspikeDpi ∨ Answered dissection.conversations := by
    unfold portSummaryOf
    cases engine : dissection.engine with
    | python =>
      simp only [reduceCtorEq, false_or]
      exact summaries_agree_iff stages.tables.toServices dissection.conversations
    | marlinspikeDpi => exact ⟨fun _ => .inl rfl, fun _ _ => rfl⟩
  constructor
  · intro same
    exact ⟨(correlated_same_iff stages.tables catalog topology.nodes).mp same.nodes, ports.mp same.portSummary⟩
  · rintro ⟨none_, answered⟩
    have correlated : correlateIcsVulnerabilities stages.tables catalog (topology.nodes.map ProfiledNode.reported) =
        ([], []) := by
      rw [none_]
      rfl
    constructor
    · exact (correlated_same_iff stages.tables catalog topology.nodes).mpr none_
    · rfl
    · rfl
    · exact ports.mpr answered
    · simp [chainReport, mirrorReport, seedless, Stages.correlating, correlated, either, pcap]
    · rfl
    · simp [chainReport, mirrorReport, seedless, either, pcap]
    · rfl

/-- Stages that read one capture, of some conversations, without a malware engine. -/
def fewStages (tables : Tables) (conversations : List Conversation) : Stages where
  tables := tables
  formats := ⟨fun _ r => r, fun _ r => toString r, toString⟩
  stem path := path
  validatePcap path := if path = "plant.pcap" then some 60 else none
  dissect _ _ _ := ⟨conversations, .python, []⟩
  malware := ⟨none, none, fun _ _ => [], fun _ _ _ _ => [], fun _ => [], fun _ => []⟩
  correlate _ := none

def plantArgs : Args := { pcap := "plant.pcap", conversations := "merged.json", output := "report.json" }

/-- Tables that know an OUI of Siemens. -/
def siemensTables : Tables :=
  { fewTables with ouiDb := fun oui => if oui = "00:1b:1b" then some ("Siemens", []) else none }

/-- An operator station that talks to a controller by S7comm. -/
def siemensConversations : List Conversation :=
  [{ srcIp := "10.0.3.9", dstIp := "10.0.3.5", srcMac := "00:11:22:33:44:66", dstMac := "00:1b:1b:01:02:03"
     protocol := "S7comm", port := 102, packetCount := 9, bytesTotal := 1200, firstSeen := "", lastSeen := ""
     transport := "tcp" }]

def siemensAdvisory : Advisory where
  id := "ICSA-22-258-05"
  cve := "CVE-2022-38465"
  vendor := "Siemens"
  productKeywords := ["s7-1500", "s7 1500", "simatic s7-1500", "6es7 5"]
  title := "Siemens S7-1500 Global Hardcoded Private Key Extraction"
  cvss := 93 / 10
  severity := "CRITICAL"
  cisaKev := true
  description := ""
  remediation := ""

def siemensStages : Stages := Stages.correlating (fewStages siemensTables siemensConversations) [siemensAdvisory]

def categories (report : Report) : List String := report.riskFindings.map (·.category)

end Marlinspike.Engine.Mirror
