import Marlinspike.Risk.Surface

/-!
The correlation of the nodes with a catalog of advisories: the vulnerabilities that each
node is given, and the findings.
-/
namespace Marlinspike.Risk.Advisories
open Marlinspike.Topology.Graph
open Marlinspike.Topology.Profile
open Marlinspike.Risk.Surface

/-- An entry of `CISA_ICS_CATALOG`. -/
structure Advisory where
  id : String
  cve : String
  vendor : String
  productKeywords : List String
  title : String
  cvss : Rat
  severity : String
  cisaKev : Bool
  description : String
  remediation : String

structure Vulnerability where
  id : String
  cve : String
  title : String
  cvss : Rat
  severity : String
  cisaKev : Bool
deriving DecidableEq

/-- A node of a report; `cve_vulnerabilities` is there once the correlation has run. -/
structure ReportNode extends ProfiledNode where
  cveVulnerabilities : Option (List Vulnerability) := none

def ProfiledNode.reported (node : ProfiledNode) : ReportNode := { node with }

def Advisory.vulnerability (advisory : Advisory) : Vulnerability :=
  ⟨advisory.id, advisory.cve, advisory.title, advisory.cvss, advisory.severity, advisory.cisaKev⟩

section Correlation
variable (tables : Tables) (catalog : List Advisory)

/-- The text that vendors and keywords are looked for in; nodes have no hardware model. -/
def combinedText (node : ReportNode) : String :=
  tables.lower (tables.strip node.vendor ++ " " ++ tables.strip node.productLine ++ "  " ++
    tables.strip node.systemName ++ " " ++ tables.strip node.systemDesc ++ " " ++
    " ".intercalate (node.protocols.map tables.lower))

/-- The families of protocols that stand for a product of their vendor. -/
def speaksFamily (vendor : String) (node : ReportNode) : Bool :=
  let protocols := node.protocols.map tables.lower
  if vendor = "siemens" then ["s7comm", "s7comm-plus", "profinet"].any (protocols.contains ·)
  else if vendor = "rockwell automation" then ["cip", "enip", "ethernet/ip"].any (protocols.contains ·)
  else if vendor = "schneider electric" then
    protocols.contains "modbus" && within "plc" (tables.lower node.deviceType)
  else false

def affects (advisory : Advisory) (node : ReportNode) : Bool :=
  let vendor := tables.lower advisory.vendor
  let text := combinedText tables node
  (within vendor (tables.lower (tables.strip node.vendor)) || within vendor text) &&
    (advisory.productKeywords.any (within · text) || speaksFamily tables vendor node)

def advisoryFinding (advisory : Advisory) (node : ReportNode) : RiskFinding where
  severity := advisory.severity
  category := "CISA_ICS_ADVISORY"
  description := s!"CISA Advisory [{advisory.id} / {advisory.cve}]: {advisory.title} affects asset {node.ip} " ++
    s!"({tables.strip node.vendor} {tables.strip node.productLine}). {advisory.description}"
  affectedNodes := [node.ip]
  cvssImpact := advisory.cvss
  remediation := advisory.remediation

/-- `seen_vuln_keys` and `cisa_findings`. -/
structure Correlated where
  seen : List String
  findings : List RiskFinding

def vulnKey (advisory : Advisory) (node : ReportNode) : String := advisory.cve ++ "|" ++ node.ip

/-- One advisory, against the vulnerabilities of the node so far. -/
def correlateAdvisory (node : ReportNode) (s : List Vulnerability × Correlated) (advisory : Advisory) :
    List Vulnerability × Correlated :=
  if affects tables advisory node then
    (addNew s.1 advisory.vulnerability,
      if s.2.seen.contains (vulnKey advisory node) then s.2
      else ⟨s.2.seen ++ [vulnKey advisory node], s.2.findings ++ [advisoryFinding tables advisory node]⟩)
  else s

def correlateNode (s : List ReportNode × Correlated) (node : ReportNode) : List ReportNode × Correlated :=
  let correlated := catalog.foldl (correlateAdvisory tables node) (node.cveVulnerabilities.getD [], s.2)
  (s.1 ++ [{ node with cveVulnerabilities := some correlated.1 }], correlated.2)

/-- `correlate_ics_vulnerabilities`: the nodes anew, and the findings. -/
def correlateIcsVulnerabilities (nodes : List ReportNode) : List ReportNode × List RiskFinding :=
  let correlated := nodes.foldl (correlateNode tables catalog) ([], ⟨[], []⟩)
  (correlated.1, correlated.2.findings)

/-- Every node has its vulnerabilities, even where there are none. -/
theorem correlated_nodes (nodes : List ReportNode) (s : List ReportNode × Correlated) :
    (nodes.foldl (correlateNode tables catalog) s).1.map (·.toProfiledNode) =
        s.1.map (·.toProfiledNode) ++ nodes.map (·.toProfiledNode) ∧
      ((∀ node ∈ s.1, node.cveVulnerabilities ≠ none) →
        ∀ node ∈ (nodes.foldl (correlateNode tables catalog) s).1, node.cveVulnerabilities ≠ none) := by
  induction nodes generalizing s with
  | nil => simp
  | cons node rest ih =>
    obtain ⟨same, given⟩ := ih (correlateNode tables catalog s node)
    rw [List.foldl_cons]
    constructor
    · rw [same]
      simp [correlateNode]
    · intro before
      refine given fun other member => ?_
      rcases List.mem_append.mp member with old | new
      · exact before other old
      · rw [List.mem_singleton.mp new]
        exact Option.some_ne_none _

end Correlation

end Marlinspike.Risk.Advisories
