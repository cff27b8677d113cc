import Marlinspike.Findings.Identity
import Marlinspike.Joining
import Marlinspike.Reports.Diff
import Marlinspike.Risk.Surface
import Marlinspike.Topology.Addresses

/-!
The map of relationships in YAML: the nodes by Purdue level, each with the edges that start and
end at its IP. The graph has its edges between keys, and the key of a node without an IP is its
MAC; so the map has all edges exactly where the nodes at their ends have an IP (`conserves_topology_iff`).
-/
namespace Marlinspike.Emit.RelationshipMap
open Marlinspike.Joining
open Marlinspike.Findings.Identity (sorted)
open Marlinspike.Risk.Surface (RiskFinding Target)
open Marlinspike.Topology.Graph
open Marlinspike.Topology.Merge
open Marlinspike.Topology.Profile
open Marlinspike.Topology.Addresses

/-! ### The map -/

/-- What `save_yaml_map` reads of a report. -/
structure MarlinSpikeReport where
  timestampStart : String
  timestampEnd : String
  /-- `capture_info.get('pcap_path', 'unknown')`, of capture information that there is. -/
  pcapPath : Option String
  tsharkVersion : String
  /-- The keys of `protocol_summary`. -/
  protocols : List String
  nodes : List ProfiledNode
  edges : List TopologyEdge
  riskFindings : List RiskFinding
  attackTargets : List Target

def purdueName (level : Int) : String :=
  if level = 0 then "Field I/O" else if level = 1 then "Field Control" else if level = 2 then "Supervisory"
  else if level = 3 then "Operations" else if level = 4 then "Enterprise" else if level = 5 then "DMZ" else "Unknown"

/-- A node in the map, with the edges that are listed under it. -/
structure Entry where
  node : ProfiledNode
  outgoing : List TopologyEdge
  incoming : List TopologyEdge

section Map
variable (report : MarlinSpikeReport)

def levels : List Int := ((report.nodes.map (·.purdueLevel)).dedup).mergeSort fun a b => a ≤ b

def levelNodes (level : Int) : List ProfiledNode :=
  (report.nodes.filter fun node => node.purdueLevel = level).mergeSort fun a b => a.ip ≤ b.ip

def entryOf (node : ProfiledNode) : Entry where
  node := node
  outgoing := report.edges.filter fun e => e.src = node.ip
  incoming := report.edges.filter fun e => e.dst = node.ip

/-- The entries of all levels, in order. -/
def entries : List Entry := (levels report).flatMap fun level => (levelNodes report level).map (entryOf report)

def bracketed (names : List String) : String := "[" ++ ", ".intercalate names ++ "]"

def outgoingLines (e : TopologyEdge) : List String :=
  ["      - dst: " ++ e.dst, "        protocol: " ++ e.protocol, "        bytes: " ++ toString e.bytesTotal] ++
    (if e.includesWrites then ["        writes: true"] else []) ++
    (if e.includesProgramAccess then ["        program_access: true"] else [])

def incomingLines (e : TopologyEdge) : List String :=
  ["      - src: " ++ e.src, "        protocol: " ++ e.protocol, "        bytes: " ++ toString e.bytesTotal,
    "        direction: inbound"]

def entryLines (entry : Entry) : List String :=
  ["  - ip: " ++ entry.node.ip, "    role: " ++ entry.node.role, "    vendor: " ++ entry.node.vendor,
    "    protocols: " ++ bracketed entry.node.protocols] ++
  (if entry.outgoing = [] ∧ entry.incoming = [] then []
    else "    connections:" :: entry.outgoing.flatMap outgoingLines ++ entry.incoming.flatMap incomingLines) ++ [""]

def headerLines : List String :=
  ["# MarlinSpike — Passive OT Topology Map", "# Generated: " ++ either report.timestampEnd report.timestampStart,
    "# Source: " ++ report.pcapPath.getD "unknown", "# tshark: " ++ report.tsharkVersion, "", "topology:",
    "  nodes: " ++ toString report.nodes.length, "  edges: " ++ toString report.edges.length,
    "  protocols: " ++ bracketed (sorted report.protocols), ""]

def levelLines (level : Int) : List String :=
  ["# ── Purdue Level " ++ toString level ++ " — " ++ purdueName level ++ " ──", "level_" ++ toString level ++ ":"] ++
    ((levelNodes report level).map (entryOf report)).flatMap entryLines

def findingLines (finding : RiskFinding) : List String :=
  ["  - severity: " ++ finding.severity, "    category: " ++ finding.category,
    "    description: \"" ++ finding.description ++ "\"",
    "    affected: " ++ toString finding.affectedNodes.length ++ " nodes"] ++
  (if finding.remediation ≠ "" then ["    remediation: \"" ++ finding.remediation ++ "\""] else []) ++ [""]

def targetLines (target : Target) : List String :=
  ["  - ip: " ++ target.ip, "    role: " ++ target.role, "    priority: " ++ toString target.priority] ++
  (if target.recommendedModules ≠ [] then ["    modules: " ++ bracketed target.recommendedModules] else []) ++ [""]

/-- `save_yaml_map`: the text that is written. -/
def saveYamlMap : String :=
  let lines := headerLines report ++ (levels report).flatMap (levelLines report) ++
    (if report.riskFindings = [] then [] else "# ── Risk Findings ──" :: "risk:" :: report.riskFindings.flatMap findingLines) ++
    (if report.attackTargets = [] then []
      else "# ── Priority Targets ──" :: "targets:" :: report.attackTargets.flatMap targetLines)
  "\n".intercalate lines ++ "\n"

/-! ### What is listed -/

/-- The listings of edges under nodes, by an end of theirs, are the edges, each under the node whose key is at that end. -/
def ListedOnce (listing : List (ProfiledNode × TopologyEdge)) (endOf : TopologyEdge → String) : Prop :=
  ∃ home : TopologyEdge → ProfiledNode,
    (∀ e ∈ report.edges, home e ∈ report.nodes ∧ ProfiledNode.key (home e) = endOf e) ∧
      listing.Perm (report.edges.map fun e => (home e, e))

structure Conserves : Prop where
  nodes : ((entries report).map (·.node)).Perm report.nodes
  outgoing : ListedOnce report ((entries report).flatMap fun entry => entry.outgoing.map fun e => (entry.node, e)) (·.src)
  incoming : ListedOnce report ((entries report).flatMap fun entry => entry.incoming.map fun e => (entry.node, e)) (·.dst)

/-- The node of the key has an IP; or neither IP nor MAC, and it is the only node without an IP. -/
def Addressed (key : String) : Prop :=
  ∃ node ∈ report.nodes, ProfiledNode.key node = key ∧
    (node.ip ≠ "" ∨ key = "" ∧ ∀ other ∈ report.nodes, other.ip = "" → other = node)

end Map

/-! ### When the map conserves the edges -/

section Conserving
variable {report : MarlinSpikeReport}

/-- The nodes in the order of the map. -/
def ordered (report : MarlinSpikeReport) : List ProfiledNode := (levels report).flatMap (levelNodes report)

theorem entries_eq : entries report = (ordered report).map (entryOf report) := by
  rw [entries, ordered, List.map_flatMap]

theorem ordered_perm : (ordered report).Perm report.nodes := by
  have distinct : (levels report).Nodup := (List.mergeSort_perm _ _).nodup_iff.mpr (List.nodup_dedup _)
  have all : ∀ node ∈ report.nodes, node.purdueLevel ∈ levels report := fun node member =>
    List.mem_mergeSort.mpr (List.mem_dedup.mpr (List.mem_map_of_mem member))
  refine List.Perm.trans ?_ (groups_perm (·.purdueLevel) distinct all)
  exact List.Perm.flatMap_left _ fun level _ => List.mergeSort_perm _ _

theorem nodes_entries : ((entries report).map (·.node)).Perm report.nodes := by
  rw [entries_eq, List.map_map]
  exact (List.Perm.of_eq (List.map_id _)).trans ordered_perm

/-- The edges with the IP of a node at an end. -/
def atIp (endOf : TopologyEdge → String) (node : ProfiledNode) (e : TopologyEdge) : Bool := endOf e = node.ip

theorem outgoing_entries : ((entries report).flatMap fun entry => entry.outgoing.map fun e => (entry.node, e)) =
    join (atIp (·.src)) (ordered report) report.edges := by
  rw [entries_eq, List.flatMap_map]
  rfl

theorem incoming_entries : ((entries report).flatMap fun entry => entry.incoming.map fun e => (entry.node, e)) =
    join (atIp (·.dst)) (ordered report) report.edges := by
  rw [entries_eq, List.flatMap_map]
  rfl

theorem key_of_ip {node : ProfiledNode} (some_ : node.ip ≠ "") : ProfiledNode.key node = node.ip := if_pos some_

theorem ip_of_key {node : ProfiledNode} (blank : ProfiledNode.key node = "") : node.ip = "" := by
  by_contra some_
  exact some_ ((key_of_ip some_).symm.trans blank)

variable {endOf : TopologyEdge → String}

theorem addressed_of_listed (listed : ListedOnce report (join (atIp endOf) (ordered report) report.edges) endOf) :
    ∀ e ∈ report.edges, Addressed report (endOf e) := by
  obtain ⟨home, homes, perm⟩ := listed
  intro e member
  obtain ⟨own, only⟩ := only_home_of_join perm member
  obtain ⟨inside, key⟩ := homes e member
  have same : endOf e = (home e).ip := of_decide_eq_true own
  refine ⟨home e, inside, key, ?_⟩
  by_cases blank : (home e).ip = ""
  · refine .inr ⟨same.trans blank, fun other present none_ => ?_⟩
    exact only other (ordered_perm.mem_iff.mpr present) (decide_eq_true (same.trans (blank.trans none_.symm)))
  · exact .inl blank

theorem listed_of_addressed (distinct : (report.nodes.map ProfiledNode.key).Nodup)
    (addressed : ∀ e ∈ report.edges, Addressed report (endOf e)) :
    ListedOnce report (join (atIp endOf) (ordered report) report.edges) endOf := by
  have exists_home : ∀ e, ∃ node, e ∈ report.edges → node ∈ report.nodes ∧ ProfiledNode.key node = endOf e ∧
      (node.ip ≠ "" ∨ endOf e = "" ∧ ∀ other ∈ report.nodes, other.ip = "" → other = node) := by
    intro e
    by_cases member : e ∈ report.edges
    · obtain ⟨node, inside, key, has⟩ := addressed e member
      exact ⟨node, fun _ => ⟨inside, key, has⟩⟩
    · exact ⟨TopologyNode.profiled (.new "" ""), fun present => absurd present member⟩
  choose home homes using exists_home
  refine ⟨home, fun e member => ⟨(homes e member).1, (homes e member).2.1⟩, ?_⟩
  have nodup : (ordered report).Nodup := ordered_perm.nodup_iff.mpr (List.Nodup.of_map _ distinct)
  refine join_perm nodup (fun e member => ordered_perm.mem_iff.mpr (homes e member).1) ?_
  intro e member node present
  obtain ⟨inside, key, has⟩ := homes e member
  rw [atIp, decide_eq_true_iff]
  constructor
  · intro same
    obtain some_ | ⟨blank, only⟩ := has
    · have own : endOf e = (home e).ip := key.symm.trans (key_of_ip some_)
      have keys : ProfiledNode.key node = ProfiledNode.key (home e) := by
        rw [key_of_ip some_, ← own, same]
        exact key_of_ip (same ▸ own ▸ some_)
      exact List.inj_on_of_nodup_map distinct (ordered_perm.mem_iff.mp present) inside keys
    · exact only node (ordered_perm.mem_iff.mp present) (same.symm.trans blank)
  · rintro rfl
    obtain some_ | ⟨blank, -⟩ := has
    · exact key.symm.trans (key_of_ip some_)
    · exact blank.trans (ip_of_key (key.trans blank)).symm

theorem conserves_iff (distinct : (report.nodes.map ProfiledNode.key).Nodup) :
    Conserves report ↔ ∀ e ∈ report.edges, Addressed report e.src ∧ Addressed report e.dst := by
  constructor
  · rintro ⟨-, outgoing, incoming⟩ e member
    rw [outgoing_entries] at outgoing
    rw [incoming_entries] at incoming
    exact ⟨addressed_of_listed outgoing e member, addressed_of_listed incoming e member⟩
  · intro addressed
    refine ⟨nodes_entries, ?_, ?_⟩
    · rw [outgoing_entries]
      exact listed_of_addressed distinct fun e member => (addressed e member).1
    · rw [incoming_entries]
      exact listed_of_addressed distinct fun e member => (addressed e member).2

end Conserving

/-- The report is of the topology of the conversations. -/
structure Describes (tables : Tables) (subnetMap : SubnetMap) (skipEphemeral : Bool) (conversations : List Conversation)
    (report : MarlinSpikeReport) : Prop where
  built : ∃ m, topologyOf tables.toServices skipEphemeral conversations = some m ∧
    report.nodes = (profiledNodes tables subnetMap m.builder).items.map Prod.snd ∧ report.edges = m.builder.edges

/-- The map of a topology conserves the edges exactly if the nodes at their ends have an IP. -/
theorem conserves_topology_iff {tables : Tables} {subnetMap : SubnetMap} {skipEphemeral : Bool}
    {conversations : List Conversation} {report : MarlinSpikeReport}
    (describes : Describes tables subnetMap skipEphemeral conversations report) :
    Conserves report ↔ ∀ e ∈ report.edges, Addressed report e.src ∧ Addressed report e.dst := by
  obtain ⟨m, built, nodes, -⟩ := describes.built
  refine conserves_iff ?_
  rw [nodes]
  exact nodup_keys tables subnetMap skipEphemeral conversations built

/-! ### A switch without an IP -/

open Reports.Diff (nodesOf edgesOf)
open Topology.Edges (announcement)
open Topology.Levels (fewTables)

def mapOf (conversations : List Conversation) : MarlinSpikeReport :=
  ⟨"", "2026-07-27T12:00:00+00:00", some "plant.pcap", "TShark 4.2.2", [], nodesOf conversations, edgesOf conversations, [], []⟩

theorem describes_mapOf (conversations : List Conversation) :
    Describes fewTables PyDict.empty false conversations (mapOf conversations) := by
  obtain ⟨-, m, built, -⟩ := Topology.Keys.topologyOf_tracked fewTables.toServices false conversations
  refine ⟨m, built, ?_, ?_⟩
  · simp only [mapOf, nodesOf, built, Option.map_some, Option.getD_some]
  · simp only [mapOf, edgesOf, built, Option.map_some, Option.getD_some]

def plant : List Conversation := [announcement "00:11:22:33:44:01"]

theorem conserves_plant : Conserves (mapOf plant) ↔
    ∀ e ∈ (mapOf plant).edges, Addressed (mapOf plant) e.src ∧ Addressed (mapOf plant) e.dst :=
  conserves_topology_iff (describes_mapOf plant)

/-- The announcements of the switch are an edge that stands under no node. -/
theorem announcement_lost : ¬∀ (tables : Tables) (subnetMap : SubnetMap) (skipEphemeral : Bool)
    (conversations : List Conversation) (report : MarlinSpikeReport),
    Describes tables subnetMap skipEphemeral conversations report → Conserves report := by
  intro all
  have conserves := all fewTables PyDict.empty false plant (mapOf plant) (describes_mapOf plant)
  have edges : ∃ e ∈ (mapOf plant).edges, e.src = "00:11:22:33:44:01" := by decide +kernel
  obtain ⟨e, member, src⟩ := edges
  have outgoing := conserves.outgoing
  rw [outgoing_entries] at outgoing
  have addressed := addressed_of_listed outgoing e member
  rw [src] at addressed
  have nameless : ∀ node ∈ (mapOf plant).nodes, node.ip = "" := by decide +kernel
  obtain ⟨node, inside, -, some_ | ⟨blank, -⟩⟩ := addressed
  · exact some_ (nameless node inside)
  · exact absurd blank (by decide)

end Marlinspike.Emit.RelationshipMap
