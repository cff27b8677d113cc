import Marlinspike.Plugins.Enrich
import Marlinspike.Risk.Advisories

/-!
Report files as the engine writes them, field by field, and as the plugins enrich them after
that: only the risk findings and the extensions change (`written_fields`).
-/
namespace Marlinspike.Emit.ReportFiles
open Marlinspike.Topology.Graph
open Marlinspike.Topology.Profile
open Marlinspike.Risk.Surface
open Marlinspike.Risk.Advisories
open Marlinspike.Plugins.Enrich

/-! ### `asdict` -/

def PortEntry.toJson (entry : PortEntry) : Json := .obj [("id", .str entry.id), ("desc", .str entry.desc)]

def ServicePort.toJson (service : ServicePort) : Json :=
  .obj [("port", .int service.port), ("transport", .str service.transport), ("protocol", .str service.protocol),
    ("category", .str service.category), ("connections", .int service.connections),
    ("peers", Json.ofTexts service.peers)]

def Vulnerability.toJson (v : Vulnerability) : Json :=
  .obj [("id", .str v.id), ("cve", .str v.cve), ("title", .str v.title), ("cvss", .float v.cvss),
    ("severity", .str v.severity), ("cisa_kev", .bool v.cisaKev)]

def nodeFields (node : ReportNode) : List (String × Json) :=
  [("ip", .str node.ip), ("mac", .str node.mac), ("vendor", .str node.vendor), ("product_line", .str node.productLine),
    ("device_type", .str node.deviceType), ("purdue_level", .int node.purdueLevel),
    ("protocols", Json.ofTexts node.protocols), ("role", .str node.role), ("asset_type", .str node.assetType),
    ("auth_observed", .bool node.authObserved), ("initiates", .bool node.initiates), ("responds", .bool node.responds),
    ("attack_priority", .int node.attackPriority), ("recommended_modules", Json.ofTexts node.recommendedModules),
    ("system_name", .str node.systemName), ("system_desc", .str node.systemDesc), ("mgmt_ip", .str node.mgmtIp),
    ("capabilities", Json.ofTexts node.capabilities), ("ports", .arr (node.ports.map PortEntry.toJson)),
    ("vlans", Json.ofTexts node.vlans), ("service_ports", .arr (node.servicePorts.map ServicePort.toJson))]

/-- A node; the vulnerabilities are there if they have been correlated. -/
def ReportNode.toJson (node : ReportNode) : Json :=
  .obj (nodeFields node ++
    (node.cveVulnerabilities.map fun cves => ("cve_vulnerabilities", .arr (cves.map Vulnerability.toJson))).toList)

def RiskFinding.toJson (f : RiskFinding) : Json :=
  .obj [("severity", .str f.severity), ("category", .str f.category), ("description", .str f.description),
    ("affected_nodes", Json.ofTexts f.affectedNodes), ("affected_edges", Json.ofTexts f.affectedEdges),
    ("cvss_impact", .float f.cvssImpact), ("remediation", .str f.remediation)]

def PurdueViolation.toJson (v : PurdueViolation) : Json :=
  .obj [("src", .str v.src), ("dst", .str v.dst), ("src_level", .int v.srcLevel), ("dst_level", .int v.dstLevel),
    ("protocol", .str v.protocol), ("bytes_total", .int v.bytesTotal), ("description", .str v.description)]

/-- `MarlinSpikeReport`; what is not looked into here is any value. -/
structure MarlinSpikeReport where
  moduleMeta : Json := .obj []
  timestampStart : String := ""
  timestampEnd : String := ""
  captureInfo : Json := .null
  conversations : Json := .arr []
  protocolSummary : Json := .obj []
  topology : Json := .obj []
  nodes : List ReportNode := []
  edges : Json := .arr []
  purdueViolations : List PurdueViolation := []
  riskFindings : List RiskFinding := []
  attackTargets : Json := .arr []
  portSummary : Json := .obj []
  c2Indicators : List Json := []
  malwareFindings : List Json := []
  macTable : Json := .arr []
  arpObservations : Json := .arr []
  arpObservationsTruncated : Bool := false
  l2Anomalies : Json := .arr []
  grassmarlinUsed : Bool := false
  dpiEngine : String := "python"
  dpiEngineVersion : String := ""
  dpiSchemaVersion : String := ""
  tsharkVersion : String := ""
  interrupted : Bool := false
  completedStages : List String := []

def reportKeys : List String :=
  ["module", "timestamp_start", "timestamp_end", "capture_info", "conversations", "protocol_summary", "topology", "nodes",
    "edges", "purdue_violations", "risk_findings", "attack_targets", "port_summary", "c2_indicators", "malware_findings",
    "mac_table", "arp_observations", "arp_observations_truncated", "l2_anomalies", "grassmarlin_used", "dpi_engine",
    "dpi_engine_version", "dpi_schema_version", "tshark_version", "interrupted", "completed_stages"]

theorem reportKeys_nodup : reportKeys.Nodup := by decide

def MarlinSpikeReport.values (r : MarlinSpikeReport) : List Json :=
  [r.moduleMeta, .str r.timestampStart, .str r.timestampEnd, r.captureInfo, r.conversations, r.protocolSummary, r.topology,
    .arr (r.nodes.map ReportNode.toJson), r.edges, .arr (r.purdueViolations.map PurdueViolation.toJson),
    .arr (r.riskFindings.map RiskFinding.toJson), r.attackTargets, r.portSummary, .arr r.c2Indicators,
    .arr r.malwareFindings, r.macTable, r.arpObservations, .bool r.arpObservationsTruncated, r.l2Anomalies,
    .bool r.grassmarlinUsed, .str r.dpiEngine, .str r.dpiEngineVersion, .str r.dpiSchemaVersion, .str r.tsharkVersion,
    .bool r.interrupted, Json.ofTexts r.completedStages]

/-- `to_dict`. -/
def MarlinSpikeReport.toDict (r : MarlinSpikeReport) : Plugins.Report :=
  ⟨reportKeys.zip r.values, reportKeys_nodup⟩

section Fields
variable (r : MarlinSpikeReport)

theorem toDict_of_not_mem {key : String} (unknown : key ∉ reportKeys) : r.toDict.get key = none := by
  by_contra found
  exact unknown (PyDict.mem_keys_iff.mpr found)

theorem toDict_nodes : r.toDict.get "nodes" = some (.arr (r.nodes.map ReportNode.toJson)) := rfl

theorem toDict_purdueViolations :
    r.toDict.get "purdue_violations" = some (.arr (r.purdueViolations.map PurdueViolation.toJson)) := rfl

end Fields

/-! ### Files -/

/-- A report file that the engine has saved, and that has been enriched any number of times. -/
inductive Written (setup : Setup) : File → Prop where
  | saved (r : MarlinSpikeReport) : Written setup ⟨r.toDict, PyDict.empty⟩
  | enriched {file : File} (sidecars : Plugin → Option Artifact) (before : Written setup file) :
    Written setup (writeEnriched setup ⟨file, sidecars⟩).file

/-- The report files of a setup. -/
abbrev ReportFile (setup : Setup) := { file : File // Written setup file }

section Files
variable {setup : Setup}

/-- Apart from the risk findings, a file has what its report had. -/
theorem written_fields {file : File} (written : Written setup file) : ∃ r : MarlinSpikeReport,
    (∀ key, key ≠ "risk_findings" → file.fields.get key = r.toDict.get key) ∧
      ∃ findings, file.fields.get "risk_findings" = some (.arr findings) := by
  induction written with
  | saved r => exact ⟨r, fun _ _ => rfl, _, rfl⟩
  | @enriched file sidecars before ih =>
    obtain ⟨r, same, findings, listed⟩ := ih
    unfold writeEnriched
    cases mergeInput setup ⟨file, sidecars⟩ with
    | none => exact ⟨r, same, findings, listed⟩
    | some merged =>
      refine ⟨r, fun key other => (merged_get other).trans (same key other),
        mergedFindings setup merged (mergedExtensions file (runAll setup ⟨file, sidecars⟩)), ?_⟩
      exact PyDict.get_set_self ..

end Files

/-! ### How the exports read them -/

/-- What a loop over a value takes up and `len` counts, if there is anything. -/
def elements : Json → Option (List Json)
  | .arr items => some items
  | .obj items => some (items.map fun item => .str item.1)
  | .str s => some (s.toList.map fun c => .str (String.ofList [c]))
  | _ => none

theorem elements_nil : elements (.arr []) = some [] := rfl

/-- `data.get(key, [])`. -/
def listAt (data : Plugins.Report) (key : String) : Json := (data.get key).getD (.arr [])

/-- A value as the key of a dictionary; numbers are the same if they are equal. -/
def hashed : Json → Option (String ⊕ Rat)
  | .str s => some (.inl s)
  | .bool b => some (.inr (if b then 1 else 0))
  | .int i => some (.inr i)
  | .float r => some (.inr r)
  | _ => none

def riskFindingsOf (data : Plugins.Report) : List Json := (elements (listAt data "risk_findings")).getD []
def nodesOf (data : Plugins.Report) : List Json := (elements (listAt data "nodes")).getD []
def purdueViolationsOf (data : Plugins.Report) : List Json := (elements (listAt data "purdue_violations")).getD []

section Reading
variable {setup : Setup}

/-- There is no such field. -/
theorem listAt_findings (file : ReportFile setup) : listAt file.1.fields "findings" = .arr [] := by
  obtain ⟨r, same, -⟩ := written_fields file.2
  have absent : file.1.fields.get "findings" = none :=
    (same "findings" (by decide)).trans (toDict_of_not_mem r (by decide))
  rw [listAt, absent]
  rfl

theorem listAt_nodes (file : ReportFile setup) : ∃ nodes : List ReportNode,
    listAt file.1.fields "nodes" = .arr (nodes.map ReportNode.toJson) := by
  obtain ⟨r, same, -⟩ := written_fields file.2
  exact ⟨r.nodes, by rw [listAt, same "nodes" (by decide), toDict_nodes]; rfl⟩

theorem listAt_purdueViolations (file : ReportFile setup) : ∃ violations : List PurdueViolation,
    listAt file.1.fields "purdue_violations" = .arr (violations.map PurdueViolation.toJson) := by
  obtain ⟨r, same, -⟩ := written_fields file.2
  exact ⟨r.purdueViolations, by rw [listAt, same "purdue_violations" (by decide), toDict_purdueViolations]; rfl⟩

end Reading

end Marlinspike.Emit.ReportFiles
