import Marlinspike.Engine.Mirror
import Marlinspike.Firsts
import Marlinspike.Risk.Categories
import Marlinspike.Topology.Addresses
import Marlinspike.Topology.Edges

/-!
The findings of the catalog of advisories, beside the vulnerabilities of the nodes. A finding is
filed under the IP of its node, and so a node that has none only has its vulnerabilities
(`findings_covered_iff`).
-/
namespace Marlinspike.Engine.Vulnerabilities
open Marlinspike.Firsts
open Marlinspike.Topology.Graph
open Marlinspike.Topology.Addresses
open Marlinspike.Topology.Profile
open Marlinspike.Risk.Surface
open Marlinspike.Risk.Advisories
open Marlinspike.Engine.Pipelines
open Marlinspike.Engine.Mirror (Stages.correlating)

/-- `CISA_ICS_CATALOG`. -/
def cisaIcsCatalog : List Advisory :=
  [{ id := "ICSA-22-258-05"
     cve := "CVE-2022-38465"
     vendor := "Siemens"
     productKeywords := ["s7-1500", "s7 1500", "simatic s7-1500", "6es7 5"]
     title := "Siemens S7-1500 Global Hardcoded Private Key Extraction"
     cvss := 93 / 10
     severity := "CRITICAL"
     cisaKev := true
     description := "Siemens SIMATIC S7-1500 CPU families use a hardcoded global private key for leg-1 " ++
       "s7comm-plus authentication. An unauthenticated remote attacker can extract the key and " ++
       "forge cryptographic authentication tokens to gain full control over the PLC."
     remediation := "Upgrade S7-1500 CPU firmware to v3.0.0 or higher. Enable TLS-encrypted PG/HMI communication " ++
       "and implement strict L2/L3 firewall segmentation." },
   { id := "ICSA-20-343-04"
     cve := "CVE-2020-15782"
     vendor := "Siemens"
     productKeywords := ["s7-1200", "s7-1500", "s7 1200", "s7 1500", "6es7 2", "6es7 5"]
     title := "Siemens S7-1200/1500 Arbitrary Memory Write and Code Execution"
     cvss := 81 / 10
     severity := "HIGH"
     cisaKev := true
     description := "A memory protection bypass flaw in Siemens S7-1200 and S7-1500 CPUs allows an attacker with " ++
       "network access to write arbitrary memory regions and execute unauthorized code on the PLC " ++
       "controller."
     remediation := "Apply Siemens security patches (S7-1200 v4.5.0+, S7-1500 v2.9.2+). Restrict engineering " ++
       "access to authorized station IP addresses." },
   { id := "ICSA-21-252-02"
     cve := "CVE-2021-37185"
     vendor := "Siemens"
     productKeywords := ["scalance", "xc200", "xp200", "xr300"]
     title := "Siemens SCALANCE Industrial Switches Unauthenticated Admin Access"
     cvss := 49 / 5
     severity := "CRITICAL"
     cisaKev := false
     description := "Siemens SCALANCE industrial Ethernet switches contain an unauthenticated remote access flaw " ++
       "in the web management interface, allowing full admin takeover."
     remediation := "Update SCALANCE switch firmware to v4.2 or later. Disable web management on untrusted VLANs." },
   { id := "ICSA-21-056-03"
     cve := "CVE-2021-22681"
     vendor := "Rockwell Automation"
     productKeywords := ["controllogix", "compactlogix", "1756", "5370", "5380"]
     title := "Rockwell Allen-Bradley ControlLogix Unauthenticated CIP Code Execution"
     cvss := 10
     severity := "CRITICAL"
     cisaKev := true
     description := "Rockwell Logix5000 controllers accept unauthenticated CIP engineering commands over port " ++
       "44818/tcp that allow remote attackers to modify controller logic, change operating modes, " ++
       "or upload malicious tasks."
     remediation := "Enable FactoryTalk Policy Manager, restrict CIP messaging over TCP 44818, and switch PLC " ++
       "keyswitch mode to RUN position." },
   { id := "ICSA-23-192-01"
     cve := "CVE-2023-3595"
     vendor := "Rockwell Automation"
     productKeywords := ["1756-en2t", "1756-en3t", "1756-en4tr"]
     title := "Rockwell ControlLogix EtherNet/IP Communication Module Remote Code Execution"
     cvss := 49 / 5
     severity := "CRITICAL"
     cisaKev := true
     description := "Out-of-bounds write vulnerability in Rockwell 1756-EN2T and 1756-EN3T EtherNet/IP " ++
       "communication modules allows unauthenticated remote code execution and Denial of Service."
     remediation := "Update 1756-EN2T/EN3T firmware to latest revision. Enforce strict CIP filtering." },
   { id := "ICSA-23-017-01"
     cve := "CVE-2022-45788"
     vendor := "Schneider Electric"
     productKeywords := ["modicon", "m580", "m340", "bmenoc"]
     title := "Schneider Electric Modicon M580 Unauthenticated Remote Code Execution"
     cvss := 15 / 2
     severity := "HIGH"
     cisaKev := false
     description := "Schneider Electric Modicon M580 PACs accept unauthenticated Modbus/UMAS engineering " ++
       "commands allowing memory corruption, unauthorized code execution, or denial of service."
     remediation := "Apply Schneider Electric firmware updates. Enable Application Change Protection and " ++
       "restrict IP access lists on BMENOC Ethernet modules." },
   { id := "ICSA-18-107-02"
     cve := "CVE-2018-7522"
     vendor := "Moxa"
     productKeywords := ["edr-810", "edr", "nport", "iologik"]
     title := "Moxa Industrial Security Router Command Injection & Hardcoded Credentials"
     cvss := 49 / 5
     severity := "CRITICAL"
     cisaKev := true
     description := "Moxa EDR-810 industrial routers contain hardcoded credentials and OS command injection " ++
       "flaws in the web management portal."
     remediation := "Upgrade Moxa EDR router firmware to v5.1 or later. Restrict management access to a " ++
       "dedicated administrative VLAN." },
   { id := "ICSA-21-259-01"
     cve := "CVE-2021-34583"
     vendor := "Phoenix Contact"
     productKeywords := ["inline", "ilc", "axc", "mguard"]
     title := "Phoenix Contact Inline Controllers Unauthenticated Remote Code Execution"
     cvss := 49 / 5
     severity := "CRITICAL"
     cisaKev := false
     description := "Phoenix Contact ILC and AXC series PLCs process unauthenticated proConOS management packets " ++
       "allowing remote attackers to overwrite controller memory."
     remediation := "Apply Phoenix Contact firmware update and restrict access to port 1962/tcp." },
   { id := "ICSA-21-035-01"
     cve := "CVE-2020-28039"
     vendor := "Hirschmann"
     productKeywords := ["hios", "rs20", "rs30", "msp", "eagle"]
     title := "Hirschmann Industrial Switch Authentication Bypass"
     cvss := 49 / 5
     severity := "CRITICAL"
     cisaKev := false
     description := "Hirschmann HiOS and Classic Switch OS contain an authentication bypass vulnerability in the " ++
       "management stack allowing full configuration overwrite."
     remediation := "Upgrade Hirschmann switch firmware to HiOS v08.3.00 or higher." }]

/-! ### What is reported -/

/-- What stands between the brackets that the description of the finding begins with. -/
def identifiers (finding : RiskFinding) : List Char :=
  (finding.description.toList.drop "CISA Advisory [".toList.length).takeWhile (· ≠ ']')

def names (cve : String) (finding : RiskFinding) : Bool := (" / " ++ cve).toList.isSuffixOf (identifiers finding)

def ReportNode.key (node : ReportNode) : String := ProfiledNode.key node.toProfiledNode

def ReportNode.carried (node : ReportNode) : List Vulnerability := node.cveVulnerabilities.getD []

/-- The findings and the vulnerabilities of a report agree, and no more of either is to be found. -/
structure Covered (tables : Tables) (report : Report) : Prop where
  covers : ∀ node ∈ report.nodes, ∀ vulnerability ∈ ReportNode.carried node,
    report.riskFindings.countP (fun finding => finding.category = "CISA_ICS_ADVISORY" &&
      names vulnerability.cve finding && finding.affectedNodes.contains (ReportNode.key node)) = 1
  known : ∀ finding ∈ report.riskFindings, finding.category = "CISA_ICS_ADVISORY" →
    ∀ affected ∈ finding.affectedNodes, ∃ node ∈ report.nodes, ReportNode.key node = affected ∧
      ∃ vulnerability ∈ ReportNode.carried node, names vulnerability.cve finding = true
  settled : (correlateIcsVulnerabilities tables cisaIcsCatalog report.nodes).1 = report.nodes

/-! ### The correlation -/

section Correlation
variable (tables : Tables) (catalog : List Advisory)

def affecting (node : ReportNode) : List Advisory := catalog.filter (affects tables · node)

/-- The advisories and the nodes that they affect, in the order of the correlation. -/
def affections (nodes : List ReportNode) : List (Advisory × ReportNode) :=
  nodes.flatMap fun node => (affecting tables catalog node).map (·, node)

theorem affections_cons (node : ReportNode) (rest : List ReportNode) : affections tables catalog (node :: rest) =
    (affecting tables catalog node).map (·, node) ++ affections tables catalog rest := List.flatMap_cons

def correlatedNode (node : ReportNode) : ReportNode :=
  { node with
    cveVulnerabilities :=
      some ((affecting tables catalog node).foldl (fun given advisory => addNew given advisory.vulnerability)
        (ReportNode.carried node)) }

def filed (affection : Advisory × ReportNode) : String := vulnKey affection.1 affection.2

def findingOf (affection : Advisory × ReportNode) : RiskFinding := advisoryFinding tables affection.1 affection.2

def view (kept : Kept (Advisory × ReportNode) String) : Correlated := ⟨kept.seen, kept.items.map (findingOf tables)⟩

theorem view_add (kept : Kept (Advisory × ReportNode) String) (advisory : Advisory) (node : ReportNode) :
    view tables (add filed kept (advisory, node)) =
      if (view tables kept).seen.contains (vulnKey advisory node) then view tables kept
      else ⟨(view tables kept).seen ++ [vulnKey advisory node],
        (view tables kept).findings ++ [advisoryFinding tables advisory node]⟩ := by
  unfold add
  by_cases seen : filed (advisory, node) ∈ kept.seen
  · rw [if_pos seen]
    exact (if_pos (List.contains_iff_mem.mpr seen)).symm
  · rw [if_neg seen]
    refine Eq.trans ?_ (if_neg (mt List.contains_iff_mem.mp seen)).symm
    simp [view, findingOf, filed]

theorem foldl_correlateAdvisory (node : ReportNode) (given : List Vulnerability) (kept : Kept (Advisory × ReportNode) String) :
    catalog.foldl (correlateAdvisory tables node) (given, view tables kept) =
      ((affecting tables catalog node).foldl (fun given advisory => addNew given advisory.vulnerability) given,
        view tables (((affecting tables catalog node).map (·, node)).foldl (add filed) kept)) := by
  induction catalog generalizing given kept with
  | nil => rfl
  | cons advisory rest ih =>
    rw [List.foldl_cons, correlateAdvisory, affecting, List.filter_cons]
    by_cases affected : affects tables advisory node = true
    · rw [if_pos affected, if_pos affected, List.foldl_cons, List.map_cons, List.foldl_cons, ← affecting, ← ih]
      rw [view_add]
    · rw [if_neg affected, if_neg affected]
      exact ih given kept

theorem foldl_correlateNode (nodes done : List ReportNode) (kept : Kept (Advisory × ReportNode) String) :
    nodes.foldl (correlateNode tables catalog) (done, view tables kept) =
      (done ++ nodes.map (correlatedNode tables catalog),
        view tables ((affections tables catalog nodes).foldl (add filed) kept)) := by
  induction nodes generalizing done kept with
  | nil => simp [affections]
  | cons node rest ih =>
    have one := foldl_correlateAdvisory tables catalog node (ReportNode.carried node) kept
    rw [ReportNode.carried] at one
    rw [List.foldl_cons, correlateNode, one, ih, affections_cons, List.foldl_append]
    simp [correlatedNode, ReportNode.carried]

/-- The nodes with their vulnerabilities, and the first finding under each key. -/
theorem correlateIcsVulnerabilities_eq (nodes : List ReportNode) : correlateIcsVulnerabilities tables catalog nodes =
    (nodes.map (correlatedNode tables catalog),
      (firsts filed (affections tables catalog nodes)).map (findingOf tables)) := by
  have folded := foldl_correlateNode tables catalog nodes [] {}
  unfold correlateIcsVulnerabilities
  change nodes.foldl (correlateNode tables catalog) ([], ⟨[], []⟩) = _ at folded
  rw [folded]
  rfl

variable {tables catalog}

theorem mem_affecting {advisory : Advisory} {node : ReportNode} : advisory ∈ affecting tables catalog node ↔
    advisory ∈ catalog ∧ affects tables advisory node = true := List.mem_filter

theorem mem_affections {nodes : List ReportNode} {advisory : Advisory} {node : ReportNode} :
    (advisory, node) ∈ affections tables catalog nodes ↔ node ∈ nodes ∧ advisory ∈ affecting tables catalog node := by
  unfold affections
  simp only [List.mem_flatMap, List.mem_map, Prod.mk.injEq]
  constructor
  · rintro ⟨other, member, advisory', affected, rfl, rfl⟩
    exact ⟨member, affected⟩
  · rintro ⟨member, affected⟩
    exact ⟨node, member, advisory, affected, rfl, rfl⟩

theorem mem_foldl_vulnerabilities {vulnerability : Vulnerability} (advisories : List Advisory) (given : List Vulnerability) :
    vulnerability ∈ advisories.foldl (fun given advisory => addNew given advisory.vulnerability) given ↔
      vulnerability ∈ given ∨ ∃ advisory ∈ advisories, vulnerability = advisory.vulnerability := by
  induction advisories generalizing given with
  | nil => simp
  | cons advisory rest ih =>
    rw [List.foldl_cons, ih, mem_addNew]
    simp only [List.mem_cons, exists_eq_or_imp, or_assoc]

/-- The vulnerabilities of a node are those of the advisories that affect it. -/
theorem mem_carried_correlatedNode {node : ProfiledNode} {vulnerability : Vulnerability} :
    vulnerability ∈ ReportNode.carried (correlatedNode tables catalog (ProfiledNode.reported node)) ↔
      ∃ advisory ∈ affecting tables catalog (ProfiledNode.reported node), vulnerability = advisory.vulnerability := by
  refine (mem_foldl_vulnerabilities _ _).trans ?_
  simp [ReportNode.carried, ProfiledNode.reported]

/-! ### Correlated again -/

theorem foldl_vulnerabilities_of_mem {advisories : List Advisory} {given : List Vulnerability}
    (all : ∀ advisory ∈ advisories, advisory.vulnerability ∈ given) :
    advisories.foldl (fun given advisory => addNew given advisory.vulnerability) given = given := by
  induction advisories with
  | nil => rfl
  | cons advisory rest ih =>
    rw [List.foldl_cons, addNew, if_pos (all advisory List.mem_cons_self)]
    exact ih fun other member => all other (List.mem_cons_of_mem _ member)

/-- What affects a node does not depend on its vulnerabilities. -/
theorem affecting_correlatedNode (node : ReportNode) :
    affecting tables catalog (correlatedNode tables catalog node) = affecting tables catalog node := rfl

theorem correlatedNode_idem (node : ReportNode) :
    correlatedNode tables catalog (correlatedNode tables catalog node) = correlatedNode tables catalog node := by
  have again : (affecting tables catalog node).foldl (fun given advisory => addNew given advisory.vulnerability)
      (ReportNode.carried (correlatedNode tables catalog node)) = ReportNode.carried (correlatedNode tables catalog node) :=
    foldl_vulnerabilities_of_mem fun advisory member => (mem_foldl_vulnerabilities _ _).mpr (.inr ⟨advisory, member, rfl⟩)
  rw [correlatedNode, affecting_correlatedNode, again]
  rfl

theorem correlated_again (nodes : List ReportNode) :
    (correlateIcsVulnerabilities tables catalog (correlateIcsVulnerabilities tables catalog nodes).1).1 =
      (correlateIcsVulnerabilities tables catalog nodes).1 := by
  simp only [correlateIcsVulnerabilities_eq, List.map_map]
  exact List.map_congr_left fun node _ => correlatedNode_idem node

end Correlation

/-! ### The texts of the catalog -/

theorem takeWhile_upTo {c : Char} {word : List Char} (plain : c ∉ word) (rest : List Char) :
    (word ++ c :: rest).takeWhile (· ≠ c) = word := by
  rw [List.takeWhile_append_of_pos]
  · simp
  · intro d member
    simpa using fun same : d = c => plain (same ▸ member)

/-- The identifiers of a catalog can be told apart where they are written. -/
structure Legible (catalog : List Advisory) : Prop where
  cve : ∀ advisory ∈ catalog, '|' ∉ advisory.cve.toList
  brackets : ∀ advisory ∈ catalog, ']' ∉ (advisory.id ++ " / " ++ advisory.cve).toList
  apart : ∀ advisory ∈ catalog, ∀ other ∈ catalog,
    (" / " ++ advisory.cve).toList <:+ (other.id ++ " / " ++ other.cve).toList → advisory.cve = other.cve

theorem cisaIcsCatalog_legible : Legible cisaIcsCatalog where
  cve := by
    have all : cisaIcsCatalog.all (fun advisory => !advisory.cve.toList.contains '|') = true := by decide +kernel
    simpa using all
  brackets := by
    have all : cisaIcsCatalog.all
        (fun advisory => !(advisory.id ++ " / " ++ advisory.cve).toList.contains ']') = true := by decide +kernel
    simpa using all
  apart := by
    have all : cisaIcsCatalog.all (fun advisory => cisaIcsCatalog.all fun other =>
        !(" / " ++ advisory.cve).toList.isSuffixOf (other.id ++ " / " ++ other.cve).toList ||
          decide (advisory.cve = other.cve)) = true := by decide +kernel
    intro advisory member other member' suffix
    have pair := List.all_eq_true.mp (List.all_eq_true.mp all advisory member) other member'
    rw [List.isSuffixOf_iff_suffix.mpr suffix] at pair
    simpa using pair

theorem identifiers_advisoryFinding (tables : Tables) {catalog : List Advisory} (legible : Legible catalog)
    {advisory : Advisory} (member : advisory ∈ catalog) (node : ReportNode) :
    identifiers (advisoryFinding tables advisory node) = (advisory.id ++ " / " ++ advisory.cve).toList := by
  have begins : ∃ rest : String, (advisoryFinding tables advisory node).description =
      "CISA Advisory [" ++ (advisory.id ++ " / " ++ advisory.cve) ++ ("]" ++ rest) := by
    refine ⟨": " ++ advisory.title ++ " affects asset " ++ node.ip ++ " (" ++ tables.strip node.vendor ++ " " ++
      tables.strip node.productLine ++ "). " ++ advisory.description, ?_⟩
    apply String.toList_injective
    simp only [advisoryFinding, String.toList_append, List.append_assoc]
    rfl
  obtain ⟨rest, begins⟩ := begins
  rw [identifiers, begins, String.toList_append, String.toList_append, List.append_assoc, List.drop_left]
  have closed : ("]" ++ rest).toList = ']' :: rest.toList := String.toList_append
  rw [closed]
  exact takeWhile_upTo (legible.brackets advisory member) rest.toList

theorem names_iff (tables : Tables) {catalog : List Advisory} (legible : Legible catalog) {advisory other : Advisory}
    (member : advisory ∈ catalog) (member' : other ∈ catalog) (node : ReportNode) :
    names advisory.cve (advisoryFinding tables other node) = true ↔ advisory.cve = other.cve := by
  rw [names, identifiers_advisoryFinding tables legible member', List.isSuffixOf_iff_suffix]
  refine ⟨legible.apart advisory member other member', fun same => ?_⟩
  rw [same, String.append_assoc]
  exact ⟨other.id.toList, String.toList_append.symm⟩

/-- A finding is filed under its CVE and the IP. -/
theorem filed_eq_iff {catalog : List Advisory} (legible : Legible catalog) {advisory other : Advisory}
    (member : advisory ∈ catalog) (member' : other ∈ catalog) (node node' : ReportNode) :
    filed (advisory, node) = filed (other, node') ↔ advisory.cve = other.cve ∧ node.ip = node'.ip := by
  constructor
  · intro same
    have texts := congrArg String.toList same
    simp only [filed, vulnKey, String.toList_append, List.append_assoc] at texts
    change advisory.cve.toList ++ '|' :: node.ip.toList = other.cve.toList ++ '|' :: node'.ip.toList at texts
    have cves := congrArg (List.takeWhile (· ≠ '|')) texts
    rw [takeWhile_upTo (legible.cve advisory member), takeWhile_upTo (legible.cve other member')] at cves
    rw [cves, List.append_cancel_left_eq, List.cons.injEq] at texts
    exact ⟨String.toList_injective cves, String.toList_injective texts.2⟩
  · rintro ⟨cves, ips⟩
    simp only [filed, vulnKey, cves, ips]

/-! ### The report -/

section Report
variable {stages : Stages} {args : Args} {duration : Rat} {dissection : Dissection} {topology : Topology}

/-- The malware stage has a category of its own. -/
def Categorized (stages : Stages) : Prop :=
  ∀ found, ∀ finding ∈ stages.malware.riskFindings found, finding.category = "MALWARE_IOC_MATCH"

/-- Every node that is affected has an IP, or has no address at all. -/
def Addressed (tables : Tables) (topology : Topology) : Prop :=
  ∀ node ∈ topology.nodes, (∃ advisory ∈ cisaIcsCatalog, affects tables advisory (ProfiledNode.reported node) = true) →
    ProfiledNode.key node = node.ip

theorem category_runMalwareStage (categorized : Categorized stages) {conversations : List Conversation} {captureId : String}
    {skip : Bool} {extraEvents : List Json} {finding : RiskFinding}
    (member : finding ∈ (runMalwareStage stages.malware conversations captureId skip extraEvents).riskFindings) :
    finding.category = "MALWARE_IOC_MATCH" := by
  unfold runMalwareStage at member
  split_ifs at member
  · cases member
  · split at member
    · dsimp only at member
      split_ifs at member
      · cases member
      · cases member
      · exact categorized _ finding member
    · cases member

theorem nodes_chainReport : (chainReport (Stages.correlating stages cisaIcsCatalog) args duration dissection topology).nodes =
    topology.nodes.map fun node => correlatedNode stages.tables cisaIcsCatalog (ProfiledNode.reported node) := by
  simp only [chainReport, Stages.correlating, Option.getD_some, correlateIcsVulnerabilities_eq, List.map_map]
  rfl

/-- No finding before the correlation is of its category. -/
theorem riskFindings_chainReport (categorized : Categorized stages) (args : Args) (duration : Rat) (dissection : Dissection)
    (topology : Topology) : ∃ earlier : List RiskFinding,
    (∀ finding ∈ earlier, finding.category ≠ "CISA_ICS_ADVISORY") ∧
    (chainReport (Stages.correlating stages cisaIcsCatalog) args duration dissection topology).riskFindings =
      earlier ++ (firsts filed (affections stages.tables cisaIcsCatalog (topology.nodes.map ProfiledNode.reported))).map
        (findingOf stages.tables) := by
  let risk := Risk.Score.score stages.tables stages.formats (surfaceOf topology dissection.conversations args.fast duration)
  let malware := runMalwareStage stages.malware dissection.conversations (captureIdOf stages args.pcap) args.fast
    dissection.malwareSeedEvents
  refine ⟨risk.findings ++ malware.riskFindings, fun finding member => ?_, ?_⟩
  · obtain scored | matched := List.mem_append.mp member
    · have known := Risk.Categories.category_findings _ _ _ finding scored
      rintro same
      rw [same] at known
      exact absurd known (by decide)
    · rw [category_runMalwareStage categorized matched]
      decide
  · simp only [chainReport, Stages.correlating, Option.getD_some, correlateIcsVulnerabilities_eq]
    rfl

theorem nodup_topology {conversations : List Conversation} (built : buildTopology stages args conversations = some topology) :
    (topology.nodes.map ProfiledNode.key).Nodup := by
  obtain ⟨m, merged, rfl⟩ := Option.map_eq_some_iff.mp built
  exact nodup_keys stages.tables args.subnetMap args.skipEphemeral conversations merged

/-- The findings of the report, by what is counted of them. -/
theorem countP_riskFindings {earlier : List RiskFinding} (others : ∀ finding ∈ earlier, finding.category ≠ "CISA_ICS_ADVISORY")
    (kept : List (Advisory × ReportNode)) (tables : Tables) (counted : RiskFinding → Bool) :
    (earlier ++ kept.map (findingOf tables)).countP
        (fun finding => finding.category = "CISA_ICS_ADVISORY" && counted finding) =
      kept.countP fun affection => counted (findingOf tables affection) := by
  have none_ : earlier.countP (fun finding => finding.category = "CISA_ICS_ADVISORY" && counted finding) = 0 := by
    rw [List.countP_eq_zero]
    intro finding member
    simp [others finding member]
  rw [List.countP_append, none_, Nat.zero_add, List.countP_map]
  rfl

/-- A node that an advisory affects is known by its IP, if it is known at all. -/
theorem key_of_counted (distinct : (topology.nodes.map ProfiledNode.key).Nodup) {node other : ProfiledNode}
    (member : node ∈ topology.nodes) (member' : other ∈ topology.nodes) (same : ProfiledNode.key node = other.ip) :
    ProfiledNode.key node = node.ip := by
  by_cases blank : other.ip = ""
  · rw [same, blank]
    by_contra some_
    rw [ProfiledNode.key, either, if_pos (Ne.symm some_), blank] at same
    exact some_ same.symm
  · have key : ProfiledNode.key other = other.ip := by rw [ProfiledNode.key, either, if_pos blank]
    have equal := List.inj_on_of_nodup_map distinct member member' (same.trans key.symm)
    rw [same, equal]

/-- The findings of an affected node with an IP: the first one that is filed there. -/
theorem countP_firsts_affections (tables : Tables) {nodes : List ReportNode} {advisory : Advisory} {node : ReportNode}
    (member : (advisory, node) ∈ affections tables cisaIcsCatalog nodes) :
    (firsts filed (affections tables cisaIcsCatalog nodes)).countP (fun affection =>
      names advisory.cve (findingOf tables affection) && (findingOf tables affection).affectedNodes.contains node.ip) = 1 := by
  have one : (firsts filed (affections tables cisaIcsCatalog nodes)).countP
      (fun affection => filed affection = filed (advisory, node)) = 1 := countP_firsts member
  rw [← one]
  refine List.countP_congr fun affection kept => ?_
  obtain ⟨other, node'⟩ := affection
  have affected := (mem_affecting.mp (mem_affections.mp member).2).1
  have affected' := (mem_affecting.mp (mem_affections.mp (mem_of_mem_firsts kept)).2).1
  rw [Bool.and_eq_true, findingOf, names_iff tables cisaIcsCatalog_legible affected affected', decide_eq_true_iff,
    filed_eq_iff cisaIcsCatalog_legible affected' affected]
  have ips : (advisoryFinding tables other node').affectedNodes.contains node.ip = true ↔ node'.ip = node.ip := by
    simp [advisoryFinding, eq_comm]
  rw [ips, eq_comm (a := advisory.cve)]

theorem addressed_of_covered (categorized : Categorized stages) {conversations : List Conversation}
    (built : buildTopology stages args conversations = some topology)
    (covered : Covered stages.tables
      (chainReport (Stages.correlating stages cisaIcsCatalog) args duration dissection topology)) :
    Addressed stages.tables topology := by
  rintro node member ⟨advisory, listed, affected⟩
  obtain ⟨earlier, others, findings⟩ := riskFindings_chainReport categorized args duration dissection topology
  have carried := mem_carried_correlatedNode.mpr ⟨advisory, mem_affecting.mpr ⟨listed, affected⟩, rfl⟩
  have inside : correlatedNode stages.tables cisaIcsCatalog (ProfiledNode.reported node) ∈
      (chainReport (Stages.correlating stages cisaIcsCatalog) args duration dissection topology).nodes := by
    rw [nodes_chainReport]
    exact List.mem_map_of_mem member
  have one := covered.covers _ inside _ carried
  simp only [Bool.and_assoc] at one
  rw [findings, countP_riskFindings others] at one
  obtain ⟨⟨other, node'⟩, kept, counted⟩ := List.countP_pos_iff.mp (one ▸ Nat.one_pos)
  obtain ⟨member', -⟩ := mem_affections.mp (mem_of_mem_firsts kept)
  obtain ⟨profiled, there, rfl⟩ := List.mem_map.mp member'
  refine key_of_counted (nodup_topology built) member there ?_
  rw [Bool.and_eq_true, findingOf, advisoryFinding, List.contains_iff_mem, List.mem_singleton] at counted
  exact counted.2

theorem covers_of_addressed (categorized : Categorized stages) (addressed : Addressed stages.tables topology)
    {node : ProfiledNode} (member : node ∈ topology.nodes) {advisory : Advisory}
    (affected : advisory ∈ affecting stages.tables cisaIcsCatalog (ProfiledNode.reported node)) :
    (chainReport (Stages.correlating stages cisaIcsCatalog) args duration dissection topology).riskFindings.countP
      (fun finding => finding.category = "CISA_ICS_ADVISORY" && names advisory.cve finding &&
        finding.affectedNodes.contains (ProfiledNode.key node)) = 1 := by
  obtain ⟨earlier, others, findings⟩ := riskFindings_chainReport categorized args duration dissection topology
  obtain ⟨listed, affects_⟩ := mem_affecting.mp affected
  simp only [Bool.and_assoc]
  rw [findings, countP_riskFindings others, addressed node member ⟨advisory, listed, affects_⟩]
  exact countP_firsts_affections stages.tables (mem_affections.mpr ⟨List.mem_map_of_mem member, affected⟩)

theorem known_of_addressed (categorized : Categorized stages) (addressed : Addressed stages.tables topology)
    {finding : RiskFinding} (category : finding.category = "CISA_ICS_ADVISORY")
    (member : finding ∈ (chainReport (Stages.correlating stages cisaIcsCatalog) args duration dissection topology).riskFindings)
    {affected : String} (inside : affected ∈ finding.affectedNodes) :
    ∃ node ∈ topology.nodes, ProfiledNode.key node = affected ∧
      ∃ advisory ∈ affecting stages.tables cisaIcsCatalog (ProfiledNode.reported node), names advisory.cve finding = true := by
  obtain ⟨earlier, others, findings⟩ := riskFindings_chainReport categorized args duration dissection topology
  rw [findings] at member
  obtain earlier_ | made := List.mem_append.mp member
  · exact (others finding earlier_ category).elim
  obtain ⟨⟨advisory, reported⟩, kept, rfl⟩ := List.mem_map.mp made
  obtain ⟨reported_, affecting_⟩ := mem_affections.mp (mem_of_mem_firsts kept)
  obtain ⟨node, there, rfl⟩ := List.mem_map.mp reported_
  obtain ⟨listed, affects_⟩ := mem_affecting.mp affecting_
  rw [findingOf, advisoryFinding, List.mem_singleton] at inside
  refine ⟨node, there, ?_, advisory, affecting_, (names_iff stages.tables cisaIcsCatalog_legible listed listed _).mpr rfl⟩
  rw [inside]
  exact addressed node there ⟨advisory, listed, affects_⟩

theorem covered_of_addressed (categorized : Categorized stages) (addressed : Addressed stages.tables topology) :
    Covered stages.tables
      (chainReport (Stages.correlating stages cisaIcsCatalog) args duration dissection topology) := by
  refine ⟨?_, ?_, ?_⟩
  · intro node member vulnerability carried
    rw [nodes_chainReport] at member
    obtain ⟨profiled, there, rfl⟩ := List.mem_map.mp member
    obtain ⟨advisory, affected, rfl⟩ := mem_carried_correlatedNode.mp carried
    exact covers_of_addressed categorized addressed there affected
  · intro finding member category key inside
    obtain ⟨node, there, same, advisory, affected, named⟩ := known_of_addressed categorized addressed category member inside
    refine ⟨correlatedNode stages.tables cisaIcsCatalog (ProfiledNode.reported node), ?_, same, advisory.vulnerability,
      mem_carried_correlatedNode.mpr ⟨advisory, affected, rfl⟩, named⟩
    rw [nodes_chainReport]
    exact List.mem_map_of_mem there
  · have nodes : (chainReport (Stages.correlating stages cisaIcsCatalog) args duration dissection topology).nodes =
        (correlateIcsVulnerabilities stages.tables cisaIcsCatalog (topology.nodes.map ProfiledNode.reported)).1 := rfl
    rw [nodes, correlated_again]

/-- The findings cover the vulnerabilities exactly if every node that is affected has an IP. -/
theorem findings_covered_iff (categorized : Categorized stages) {conversations : List Conversation}
    (built : buildTopology stages args conversations = some topology) :
    Covered stages.tables (chainReport (Stages.correlating stages cisaIcsCatalog) args duration dissection topology) ↔
      Addressed stages.tables topology :=
  ⟨addressed_of_covered categorized built, covered_of_addressed categorized⟩

end Report

/-! ### A controller without an IP -/

open Marlinspike.Topology.Levels (fewTables)
open Marlinspike.Topology.Edges (announcement)
open Marlinspike.Engine.Mirror (fewStages plantArgs)

/-- Tables with the OUI of a controller. -/
def controllerTables : Tables :=
  { fewTables with
    ouiDb := fun oui => if oui = "00:1b:1b" then some ("Siemens AG", ["SIMATIC", "S7-1200", "S7-1500"]) else none }

/-- A controller that announces itself by LLDP, and has no address yet. -/
def announced : List Conversation :=
  [{ announcement "00:1b:1b:01:02:03" with
     l2Discovery := some ⟨some "lldp", "plc-1", "", "", [], [], [], "", none, none⟩ }]

theorem categorized_fewStages (tables : Tables) (conversations : List Conversation) :
    Categorized (fewStages tables conversations) := fun _ _ member => nomatch member

theorem buildTopology_announced : ∃ topology,
    buildTopology (fewStages controllerTables announced) plantArgs announced = some topology := by
  obtain ⟨-, m, built, -⟩ := Topology.Keys.topologyOf_tracked controllerTables.toServices plantArgs.skipEphemeral announced
  exact ⟨_, congrArg (Option.map _) built⟩

theorem covered_announced : ∃ topology,
    buildTopology (fewStages controllerTables announced) plantArgs announced = some topology ∧
    (Covered controllerTables (chainReport (Stages.correlating (fewStages controllerTables announced) cisaIcsCatalog)
      plantArgs 60 ⟨announced, .python, []⟩ topology) ↔ Addressed controllerTables topology) := by
  obtain ⟨topology, built⟩ := buildTopology_announced
  exact ⟨topology, built, findings_covered_iff (categorized_fewStages _ _) built⟩

/-- The controller has its vulnerabilities, and no finding is filed under its MAC. -/
theorem controller_without_finding : ¬∀ (stages : Stages) (args : Args) (duration : Rat) (dissection : Dissection)
    (topology : Topology), Categorized stages → buildTopology stages args dissection.conversations = some topology →
      Covered stages.tables
        (chainReport (Stages.correlating stages cisaIcsCatalog) args duration dissection topology) := by
  intro all
  obtain ⟨topology, built⟩ := buildTopology_announced
  have categorized := categorized_fewStages controllerTables announced
  have covered := all _ plantArgs 60 ⟨announced, .python, []⟩ topology categorized built
  have addressed := addressed_of_covered categorized built covered
  have affected : (buildTopology (fewStages controllerTables announced) plantArgs announced).map
      (fun t => t.nodes.any fun node =>
      decide (ProfiledNode.key node ≠ node.ip) &&
        cisaIcsCatalog.any (affects controllerTables · (ProfiledNode.reported node))) = some true := by decide +kernel
  rw [built, Option.map_some, Option.some.injEq] at affected
  obtain ⟨node, member, found⟩ := List.any_eq_true.mp affected
  obtain ⟨away, found⟩ := Bool.and_eq_true .. ▸ found
  obtain ⟨advisory, listed, affects_⟩ := List.any_eq_true.mp found
  exact of_decide_eq_true away (addressed node member ⟨advisory, listed, affects_⟩)

end Marlinspike.Engine.Vulnerabilities
