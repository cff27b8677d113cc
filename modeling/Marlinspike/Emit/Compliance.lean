import Marlinspike.Emit.ReportFiles

/-!
The compliance evaluation: every control against the findings of its trigger categories. It
counts the findings that it is given exactly (`findingsCount_eq`). But the two endpoints look
for them, and the project's one for the nodes, under keys that report files do not have
(`compliance_iff`).
-/
namespace Marlinspike.Emit.Compliance
open Marlinspike.Plugins (Numbers)
open Marlinspike.Plugins.RulePacks (plainLibrary)
open Marlinspike.Plugins.Enrich (Setup File either plainSetup plainNumbers)
open Marlinspike.Reports (Library)
open Marlinspike.Emit.ReportFiles
open Marlinspike.Risk.Surface
open Marlinspike.Risk.Advisories

/-! ### Controls -/

structure Control where
  id : String
  standard : String
  sectionName : String
  title : String
  domain : String
  weight : Nat
  triggerCategories : List String
  targetSl : String := "SL-2"
  description : Option String := none
  hardeningRecommendation : String

def complianceControls : List Control :=
  [ { id := "IEC-62443-SR-1.1"
      standard := "IEC 62443"
      sectionName := "SR 1.1"
      title := "Human User Identification & Authentication"
      domain := "Access Control & Authentication"
      weight := 15
      triggerCategories := ["CLEARTEXT_REMOTE_ACCESS", "NO_AUTH_OBSERVED"]
      targetSl := "SL-2"
      description := some
        ("Requires all human users attempting access to control systems to be uniquely identified and " ++
          "authenticated using secure channels.")
      hardeningRecommendation :=
        "Enforce SSH/TLS 1.3 for remote access, disable unencrypted Telnet/HTTP, and mandate multi-factor " ++
        "authentication (MFA) for Level 3 Engineering Workstations." },
    { id := "IEC-62443-SR-3.1"
      standard := "IEC 62443"
      sectionName := "SR 3.1"
      title := "Communication Integrity & Industrial Command Abuse"
      domain := "System Integrity & Industrial Control"
      weight := 20
      triggerCategories := ["MODBUS_WRITE_ANON", "S7_PROGRAM_ACCESS", "MALWARE_IOC_MATCH"]
      targetSl := "SL-3"
      description := some
        ("Requires protection against unauthorized modification, program downloads, or command injection " ++
          "over industrial protocol channels.")
      hardeningRecommendation :=
        "Set PLC physical keyswitches to 'RUN' mode (blocking remote program downloads), implement CIP " ++
        "Security / S7comm-plus cryptographic authentication, and deploy DPI firewall inspection on Modbus/S7 " ++
        "write function codes." },
    { id := "IEC-62443-SR-5.1"
      standard := "IEC 62443"
      sectionName := "SR 5.1"
      title := "Network Segmentation & Purdue Zone Isolation"
      domain := "Boundary Protection & Zoning"
      weight := 25
      triggerCategories := ["CROSS_PURDUE", "ICS_EXTERNAL_COMMS", "EXTERNAL_IPS_OBSERVED"]
      targetSl := "SL-2"
      description := some
        ("Mandates logical and physical separation between IT (Levels 4-5) and OT (Levels 0-3) networks " ++
          "using conduits and firewalls.")
      hardeningRecommendation :=
        "Implement strict Purdue Model micro-segmentation firewalls between Level 3 and Level 2, restrict " ++
        "direct internet egress from PLCs/HMIs, and block raw cross-zone IP routing." },
    { id := "IEC-62443-SR-7.6"
      standard := "IEC 62443"
      sectionName := "SR 7.6"
      title := "Boundary Protection & Unnecessary Service Restriction"
      domain := "Asset Hardening & Attack Surface"
      weight := 15
      triggerCategories := ["OPC_NO_SECURITY", "IT_SERVICE_ON_OT_DEVICE", "PORT_SCAN_TARGET", "UNKNOWN_SERVICE_PORT"]
      targetSl := "SL-2"
      description := some
        ("Requires restricting active network services, protocols, and ports on industrial assets strictly " ++
          "to those necessary for process operation.")
      hardeningRecommendation :=
        "Enable OPC UA Security Policy (Basic256Sha256 with Sign & Encrypt), disable unneeded IT services " ++
        "(FTP, SMB v1, SNMP v1/v2) on PLCs/HMIs, and close unused open ports." },
    { id := "CISA-CPG-1.1"
      standard := "CISA CPG"
      sectionName := "CPG 1.1"
      title := "Account & Credential Security"
      domain := "Access Control & Authentication"
      weight := 10
      triggerCategories := ["CLEARTEXT_REMOTE_ACCESS", "NO_AUTH_OBSERVED"]
      hardeningRecommendation :=
        "Replace default factory credentials on PLCs and relays, prohibit cleartext administrative sessions, " ++
        "and enforce centralized RADIUS/TACACS+ authentication." },
    { id := "CISA-CPG-2.1"
      standard := "CISA CPG"
      sectionName := "CPG 2.1"
      title := "Separation of IT and OT Networks"
      domain := "Boundary Protection & Zoning"
      weight := 20
      triggerCategories := ["CROSS_PURDUE", "ICS_EXTERNAL_COMMS", "EXTERNAL_IPS_OBSERVED"]
      hardeningRecommendation :=
        "Establish an explicit Demilitarized Zone (DMZ Level 3.5) between corporate IT and plant OT, ensuring " ++
        "no dual-homed dual-subnet connections bypass the firewall." },
    { id := "CISA-CPG-2.8"
      standard := "CISA CPG"
      sectionName := "CPG 2.8"
      title := "OT Protocol Security & Encryption"
      domain := "System Integrity & Industrial Control"
      weight := 15
      triggerCategories := ["OPC_NO_SECURITY", "CLEARTEXT_ENG", "MODBUS_WRITE_ANON"]
      hardeningRecommendation :=
        "Transition to secure OT protocol variants (Modbus TCP Security over TLS, Secure DNP3 SA v5, " ++
        "EtherNet/IP CIP Security) and enforce cryptographic node identity verification." },
    { id := "CISA-CPG-3.1"
      standard := "CISA CPG"
      sectionName := "CPG 3.1"
      title := "Incident Containment & C2 Defense"
      domain := "C2 & Threat Defense"
      weight := 15
      triggerCategories :=
        ["C2_BEACONING", "C2_SUSPECT_CHANNEL", "C2_DATA_EXFIL", "C2_DNS_EXFIL", "C2_DNS_TUNNEL_SUSPECT",
          "C2_DNS_HIGH_ENTROPY"]
      hardeningRecommendation :=
        "Deploy egress DNS filtering, block high-entropy DNS query anomalies, and isolate compromised " ++
        "endpoints using network access control (802.1X) or Ansible IR playbooks." },
    { id := "NIST-800-82-AC-17"
      standard := "NIST 800-82"
      sectionName := "AC-17"
      title := "Remote Access Protection"
      domain := "Access Control & Authentication"
      weight := 10
      triggerCategories := ["CLEARTEXT_REMOTE_ACCESS", "NO_AUTH_OBSERVED"]
      hardeningRecommendation :=
        "Terminate all external vendor remote access connections at an authenticated jump host inside the OT " ++
        "DMZ with session logging." },
    { id := "NIST-800-82-SC-7"
      standard := "NIST 800-82"
      sectionName := "SC-7"
      title := "Boundary Protection & Conduit Filtering"
      domain := "Boundary Protection & Zoning"
      weight := 15
      triggerCategories := ["CROSS_PURDUE", "ICS_EXTERNAL_COMMS", "C2_DNS_EXFIL"]
      hardeningRecommendation :=
        "Configure stateful inspection firewalls to deny all cross-boundary traffic by default, explicitly " ++
        "permitting only documented OT protocols." },
    { id := "NIST-800-82-SI-4"
      standard := "NIST 800-82"
      sectionName := "SI-4"
      title := "Information System Monitoring & Anomaly Detection"
      domain := "C2 & Threat Defense"
      weight := 10
      triggerCategories := ["MALWARE_IOC_MATCH", "PORT_SCAN_TARGET", "HIGH_PORT_SERVICE"]
      hardeningRecommendation :=
        "Integrate continuous passive PCAP monitoring with SIEM/SOAR platforms via STIX 2.1 or OCSF v1.4.0 " ++
        "telemetry streams." } ]

theorem triggerCategories_nodup : ∀ control ∈ complianceControls, control.triggerCategories.Nodup := by decide

inductive Status where
  | pass
  | warning
  | gap
deriving DecidableEq, Repr

/-! ### `evaluate_compliance` -/

/-- A control with what was found. -/
structure ControlEval where
  control : Control
  status : Status
  /-- Before and after rounding. -/
  earned : Rat
  earnedWeight : Rat
  findingsCount : Nat
  matchedCategories : List String

structure StandardScore where
  score : Rat
  earned : Rat
  total : Rat
  grade : String

inductive Priority where
  | high
  | medium
deriving DecidableEq, Repr

structure RoadmapEntry where
  priority : Priority
  control : Control
  findingsCount : Nat

/-- What is answered. -/
structure Evaluation where
  overallScore : Rat
  securityLevelGrade : String
  pass : Nat
  warning : Nat
  gap : Nat
  totalControls : Nat
  breakdownByStandard : List (String × StandardScore)
  evaluatedControls : List ControlEval
  hardeningRoadmap : List RoadmapEntry
  totalFindingsEvaluated : Nat
  totalAssetsEvaluated : Nat

def standards : List String := ["IEC 62443", "CISA CPG", "NIST 800-82"]

section Evaluate
variable (library : Library) (numbers : Numbers)

/-- A finding's category, in capitals. -/
def categoryOf (finding : Json) : String :=
  library.upper ((either (finding.get "category") (finding.get "type")).text library)

def countCategory (categoryCounts : PyDict String Nat) (finding : Json) : PyDict String Nat :=
  let cat := categoryOf library finding
  if cat = "" then categoryCounts else categoryCounts.set cat ((categoryCounts.get cat).getD 0 + 1)

def categoryCounts (findings : List Json) : PyDict String Nat := findings.foldl (countCategory library) PyDict.empty

def evaluateControl (categoryCounts : PyDict String Nat) (control : Control) : ControlEval :=
  let triggerCount := (control.triggerCategories.map fun trig => (categoryCounts.get trig).getD 0).sum
  let status := if triggerCount = 0 then Status.pass else if triggerCount ≤ 2 then .warning else .gap
  let earned : Rat := match status with
    | .pass => control.weight
    | .warning => control.weight * (2 / 5)
    | .gap => 0
  { control := control
    status := status
    earned := earned
    earnedWeight := numbers.round 1 earned
    findingsCount := triggerCount
    matchedCategories := control.triggerCategories.filter fun trig => (categoryCounts.get trig).isSome }

/-- What is earned of some weight, in percent. -/
def percent (earned total : Rat) : Rat := if 0 < total then numbers.round 1 (earned / total * 100) else 100

def gradeOf (score : Rat) : String :=
  if 95 ≤ score then "SL-4 (Nation-State Grade Resilience)"
  else if 80 ≤ score then "SL-3 (Sophisticated Protection)"
  else if 65 ≤ score then "SL-2 (Moderate Adversary Protection)"
  else if 45 ≤ score then "SL-1 (Basic Perimeter Defense)"
  else "SL-0 (Unprotected / High Vulnerability Risk)"

def earnedOf (evals : List ControlEval) : Rat := (evals.map (·.earned)).sum
def totalOf (evals : List ControlEval) : Rat := (evals.map fun eval => (eval.control.weight : Rat)).sum

def standardScore (evals : List ControlEval) (standard : String) : StandardScore :=
  let own := evals.filter (·.control.standard = standard)
  let pct := percent numbers (earnedOf own) (totalOf own)
  { score := pct
    earned := numbers.round 1 (earnedOf own)
    total := numbers.round 1 (totalOf own)
    grade := if 80 ≤ pct then "COMPLIANT" else if 60 ≤ pct then "PARTIAL" else "NON-COMPLIANT" }

def roadmapEntry (eval : ControlEval) : Option RoadmapEntry :=
  match eval.status with
  | .pass => none
  | .warning => some ⟨.medium, eval.control, eval.findingsCount⟩
  | .gap => some ⟨.high, eval.control, eval.findingsCount⟩

/-- The gaps first, then the higher counts. -/
def roadmapLe (a b : RoadmapEntry) : Bool :=
  match a.priority, b.priority with
  | .high, .medium => true
  | .medium, .high => false
  | _, _ => b.findingsCount ≤ a.findingsCount

/-- There is no result for a finding that is not an object. -/
def evaluateCompliance (findings : List Json) (assetCount : Nat) : Option Evaluation :=
  if findings.all Json.isObj then
    let evals := complianceControls.map (evaluateControl numbers (categoryCounts library findings))
    let overall := percent numbers (earnedOf evals) (totalOf evals)
    some
      { overallScore := overall
        securityLevelGrade := gradeOf overall
        pass := evals.countP (·.status = .pass)
        warning := evals.countP (·.status = .warning)
        gap := evals.countP (·.status = .gap)
        totalControls := complianceControls.length
        breakdownByStandard := standards.map fun standard => (standard, standardScore numbers evals standard)
        evaluatedControls := evals
        hardeningRoadmap := (evals.filterMap roadmapEntry).mergeSort roadmapLe
        totalFindingsEvaluated := findings.length
        totalAssetsEvaluated := assetCount }
  else none

end Evaluate

/-! ### The endpoints -/

abbrev NodeIndex := PyDict (String ⊕ Rat) Json

/-- The nodes that have an id; one that is no key ends the loop. -/
def collectNodes : NodeIndex → List Json → NodeIndex
  | allNodes, [] => allNodes
  | allNodes, n :: rest =>
    if n.isObj && (n.get "id").truthy then
      match hashed (n.get "id") with
      | some key => collectNodes (allNodes.set key n) rest
      | none => allNodes
    else collectNodes allNodes rest

structure Collected where
  allFindings : List Json
  allNodes : NodeIndex

/-- What is taken of a report, up to the first exception. -/
def collect (c : Collected) (data : Plugins.Report) : Collected :=
  match elements (listAt data "findings") with
  | none => c
  | some findings =>
    match elements (listAt data "nodes") with
    | none => ⟨c.allFindings ++ findings, c.allNodes⟩
    | some nodes => ⟨c.allFindings ++ findings, collectNodes c.allNodes nodes⟩

section Endpoints
variable (library : Library) (numbers : Numbers)

/-- `get_report_compliance`, if it does not fail. -/
def getReportCompliance (data : Plugins.Report) : Option Evaluation := do
  let findings ← elements (listAt data "findings")
  let nodes ← elements (listAt data "nodes")
  evaluateCompliance library numbers findings nodes.length

/-- `get_project_compliance`. -/
def getProjectCompliance (reports : List Plugins.Report) : Option Evaluation :=
  let c := reports.foldl collect ⟨[], PyDict.empty⟩
  evaluateCompliance library numbers c.allFindings c.allNodes.items.length

end Endpoints

/-! ### What the answers should say -/

/-- The address of a node, or else its MAC. -/
def nodeKey (node : Json) : String := (either (node.get "ip") (node.get "mac")).asStr.getD ""

/-- A finding of one of the categories that a control is triggered by. -/
def triggers (control : Control) (finding : Json) : Bool :=
  match finding.get "category" with
  | .str category => control.triggerCategories.contains category
  | _ => false

/-- A control's evaluation on some findings: passed only without any that trigger it, and counted. -/
def Evaluated (findings : List Json) (eval : ControlEval) : Prop :=
  (eval.status = .pass → ∀ f ∈ findings, triggers eval.control f = false) ∧
    eval.findingsCount = findings.countP (triggers eval.control)

def distinctNodes (reports : List Plugins.Report) : Nat := ((reports.flatMap nodesOf).map nodeKey).dedup.length

/-- All controls are evaluated on the risk findings of the reports, for their distinct nodes. -/
structure SeesAll (reports : List Plugins.Report) (eval : Evaluation) : Prop where
  controls : eval.evaluatedControls.map (·.control) = complianceControls
  evaluated : ∀ control ∈ eval.evaluatedControls, Evaluated (reports.flatMap riskFindingsOf) control
  assets : eval.totalAssetsEvaluated = distinctNodes reports

def Answers (reports : List Plugins.Report) (answer : Option Evaluation) : Prop :=
  ∃ eval, answer = some eval ∧ SeesAll reports eval

/-- No control is triggered by a risk finding of the report. -/
def Untriggered (report : Plugins.Report) : Prop :=
  ∀ f ∈ riskFindingsOf report, ∀ control ∈ complianceControls, triggers control f = false

/-! ### The counts -/

section Counts
variable (library : Library) (numbers : Numbers)

theorem get_countCategory (counts : PyDict String Nat) (finding : Json) {cat : String} (named : cat ≠ "") :
    ((countCategory library counts finding).get cat).getD 0 =
      (counts.get cat).getD 0 + if categoryOf library finding = cat then 1 else 0 := by
  unfold countCategory
  by_cases blank : categoryOf library finding = ""
  · have other : categoryOf library finding ≠ cat := by rw [blank]; exact named.symm
    simp [blank, named.symm]
  · simp only [blank, if_false, PyDict.get_set]
    by_cases same : categoryOf library finding = cat
    · simp [same]
    · simp [same]

theorem get_categoryCounts (findings : List Json) {cat : String} (named : cat ≠ "") :
    ((categoryCounts library findings).get cat).getD 0 = findings.countP (categoryOf library · = cat) := by
  have gathered : ∀ counts : PyDict String Nat, ((findings.foldl (countCategory library) counts).get cat).getD 0 =
      (counts.get cat).getD 0 + findings.countP (categoryOf library · = cat) := by
    induction findings with
    | nil => simp
    | cons finding rest ih =>
      intro counts
      rw [List.foldl_cons, ih, get_countCategory library counts finding named, List.countP_cons]
      simp only [decide_eq_true_eq]
      omega
  exact (gathered PyDict.empty).trans (by simp)

theorem countP_cons_contains (findings : List Json) {cat : String} {cats : List String} (fresh : cat ∉ cats) :
    findings.countP (fun f => (cat :: cats).contains (categoryOf library f)) =
      findings.countP (categoryOf library · = cat) + findings.countP (fun f => cats.contains (categoryOf library f)) := by
  induction findings with
  | nil => rfl
  | cons finding rest ih =>
    simp only [List.countP_cons, ih]
    by_cases same : categoryOf library finding = cat
    · have apart : categoryOf library finding ∉ cats := by rw [same]; exact fresh
      simp [same, fresh]
      omega
    · simp [same]
      omega

/-- The categories that a control is triggered by are counted one after the other. -/
theorem sum_countP (findings : List Json) (cats : List String) (distinct : cats.Nodup) :
    (cats.map fun cat => findings.countP (categoryOf library · = cat)).sum =
      findings.countP fun f => cats.contains (categoryOf library f) := by
  induction cats with
  | nil => simp
  | cons cat rest ih =>
    obtain ⟨fresh, distinct⟩ := List.nodup_cons.mp distinct
    rw [List.map_cons, List.sum_cons, ih distinct, countP_cons_contains library findings fresh]

theorem triggerCategories_named : ∀ control ∈ complianceControls, "" ∉ control.triggerCategories := by decide

/-- The count of a control is that of the findings of its trigger categories, case aside. -/
theorem findingsCount_eq (findings : List Json) {control : Control} (known : control ∈ complianceControls) :
    (evaluateControl numbers (categoryCounts library findings) control).findingsCount =
      findings.countP fun f => control.triggerCategories.contains (categoryOf library f) := by
  have named := triggerCategories_named control known
  rw [← sum_countP library findings control.triggerCategories (triggerCategories_nodup control known)]
  refine congrArg List.sum (List.map_congr_left fun trig member => ?_)
  exact get_categoryCounts library findings (fun blank => named (blank ▸ member))

theorem status_pass_iff (counts : PyDict String Nat) (control : Control) :
    (evaluateControl numbers counts control).status = .pass ↔
      (evaluateControl numbers counts control).findingsCount = 0 := by
  simp only [evaluateControl]
  grind

end Counts

/-! ### The report files -/

section Files
variable (library : Library) (numbers : Numbers) {setup : Setup}

theorem elements_nodes (file : ReportFile setup) : ∃ nodes : List ReportNode,
    elements (listAt file.1.fields "nodes") = some (nodes.map ReportNode.toJson) ∧
      nodesOf file.1.fields = nodes.map ReportNode.toJson := by
  obtain ⟨nodes, listed⟩ := listAt_nodes file
  refine ⟨nodes, ?_, ?_⟩
  · rw [listed]
    rfl
  · rw [nodesOf, listed]
    rfl

theorem no_id (node : ReportNode) : (ReportNode.toJson node).get "id" = .null := by
  unfold ReportNode.toJson
  cases node.cveVulnerabilities with
  | none => rfl
  | some cves => rfl

theorem collectNodes_toJson (allNodes : NodeIndex) (nodes : List ReportNode) :
    collectNodes allNodes (nodes.map ReportNode.toJson) = allNodes := by
  induction nodes with
  | nil => rfl
  | cons node rest ih => simp [collectNodes, no_id, Json.truthy, ih]

theorem collect_file (c : Collected) (file : ReportFile setup) : collect c file.1.fields = c := by
  obtain ⟨nodes, found, -⟩ := elements_nodes file
  simp [collect, listAt_findings file, found, elements_nil, collectNodes_toJson]

theorem foldl_collect (c : Collected) (files : List (ReportFile setup)) :
    (files.map fun file => file.1.fields).foldl collect c = c := by
  induction files with
  | nil => rfl
  | cons file rest ih => rw [List.map_cons, List.foldl_cons, collect_file, ih]

/-- Without findings, every control has passed. -/
theorem evaluateCompliance_nil (assetCount : Nat) : ∃ eval, evaluateCompliance library numbers [] assetCount = some eval ∧
    eval.evaluatedControls = complianceControls.map (evaluateControl numbers (categoryCounts library [])) ∧
    eval.totalAssetsEvaluated = assetCount := ⟨_, rfl, rfl, rfl⟩

theorem evaluateControl_nil {control : Control} (known : control ∈ complianceControls) :
    (evaluateControl numbers (categoryCounts library []) control).findingsCount = 0 ∧
      (evaluateControl numbers (categoryCounts library []) control).status = .pass := by
  have none := findingsCount_eq library numbers [] known
  exact ⟨none, (status_pass_iff numbers _ control).mpr none⟩

/-- An answer without findings is right if there are none that matter, and the assets are counted. -/
theorem answers_iff (reports : List Plugins.Report) (assetCount : Nat) :
    Answers reports (evaluateCompliance library numbers [] assetCount) ↔
      (∀ report ∈ reports, Untriggered report) ∧ assetCount = distinctNodes reports := by
  obtain ⟨eval, answered, controls, assets⟩ := evaluateCompliance_nil library numbers assetCount
  constructor
  · rintro ⟨seen, same, sees⟩
    obtain rfl : eval = seen := Option.some.inj (answered.symm.trans same)
    refine ⟨fun report member f found control known => ?_, assets ▸ sees.assets⟩
    have passed := (evaluateControl_nil library numbers known).2
    have right := sees.evaluated (evaluateControl numbers (categoryCounts library []) control)
      (controls ▸ List.mem_map_of_mem known)
    exact right.1 passed f (List.mem_flatMap.mpr ⟨report, member, found⟩)
  · rintro ⟨untriggered, counted⟩
    refine ⟨eval, answered, ?_, ?_, assets.trans counted⟩
    · rw [controls, List.map_map]
      exact List.map_id _
    · intro own member
      obtain ⟨control, known, rfl⟩ := List.mem_map.mp (controls ▸ member)
      have quiet : ∀ f ∈ reports.flatMap riskFindingsOf, triggers control f = false := by
        intro f found
        obtain ⟨report, member, found⟩ := List.mem_flatMap.mp found
        exact untriggered report member f found control known
      refine ⟨fun _ => quiet, ?_⟩
      rw [(evaluateControl_nil library numbers known).1]
      exact (List.countP_eq_zero.mpr fun f found => Bool.eq_false_iff.mp (quiet f found)).symm

theorem distinctNodes_single (report : Plugins.Report) :
    (nodesOf report).length = distinctNodes [report] ↔ ((nodesOf report).map nodeKey).Nodup := by
  have single : distinctNodes [report] = ((nodesOf report).map nodeKey).dedup.length := by simp [distinctNodes]
  rw [single]
  constructor
  · intro same
    have kept := (List.dedup_sublist ((nodesOf report).map nodeKey)).eq_of_length (by simpa using same.symm)
    exact kept ▸ List.nodup_dedup _
  · intro distinct
    rw [distinct.dedup, List.length_map]

theorem distinctNodes_zero (reports : List Plugins.Report) :
    0 = distinctNodes reports ↔ ∀ report ∈ reports, nodesOf report = [] := by
  rw [distinctNodes, eq_comm, List.length_eq_zero_iff]
  constructor
  · intro none report member
    have all : (reports.flatMap nodesOf).map nodeKey = [] := by
      by_contra some
      obtain ⟨key, inside⟩ := List.exists_mem_of_ne_nil _ some
      exact absurd (List.mem_dedup.mpr inside) (by simp [none])
    exact List.flatMap_eq_nil_iff.mp (List.map_eq_nil_iff.mp all) report member
  · intro empty
    rw [List.flatMap_eq_nil_iff.mpr empty]
    rfl

theorem report_answers_iff (file : ReportFile setup) :
    Answers [file.1.fields] (getReportCompliance library numbers file.1.fields) ↔
      Untriggered file.1.fields ∧ ((nodesOf file.1.fields).map nodeKey).Nodup := by
  obtain ⟨nodes, found, own⟩ := elements_nodes file
  have answered : getReportCompliance library numbers file.1.fields =
      evaluateCompliance library numbers [] (nodesOf file.1.fields).length := by
    simp [getReportCompliance, listAt_findings file, found, own, elements_nil]
  rw [answered, answers_iff, distinctNodes_single]
  simp

theorem project_answers_iff (files : List (ReportFile setup)) :
    Answers (files.map fun file => file.1.fields)
        (getProjectCompliance library numbers (files.map fun file => file.1.fields)) ↔
      ∀ file ∈ files, Untriggered file.1.fields ∧ nodesOf file.1.fields = [] := by
  have answered : getProjectCompliance library numbers (files.map fun file => file.1.fields) =
      evaluateCompliance library numbers [] 0 := by
    rw [getProjectCompliance, foldl_collect]
    rfl
  rw [answered, answers_iff, distinctNodes_zero]
  constructor
  · rintro ⟨untriggered, empty⟩ file member
    have inside : file.1.fields ∈ files.map fun file => file.1.fields := List.mem_map_of_mem member
    exact ⟨untriggered _ inside, empty _ inside⟩
  · intro each
    constructor <;> intro report member
    all_goals obtain ⟨file, inside, rfl⟩ := List.mem_map.mp member
    · exact (each file inside).1
    · exact (each file inside).2

/-- A report's answer is right if no control is triggered and no node is there twice; a project's
if no control is triggered and there are no nodes. -/
theorem compliance_iff :
    (∀ file : ReportFile setup,
      Answers [file.1.fields] (getReportCompliance library numbers file.1.fields) ↔
        Untriggered file.1.fields ∧ ((nodesOf file.1.fields).map nodeKey).Nodup) ∧
    ∀ files : List (ReportFile setup),
      Answers (files.map fun file => file.1.fields)
          (getProjectCompliance library numbers (files.map fun file => file.1.fields)) ↔
        ∀ file ∈ files, Untriggered file.1.fields ∧ nodesOf file.1.fields = [] :=
  ⟨report_answers_iff library numbers, project_answers_iff library numbers⟩

end Files

/-! ### A crossing -/

def crossing : RiskFinding where
  severity := "HIGH"
  category := "CROSS_PURDUE"
  description := "Detected 1 cross-Purdue-level communications bypassing supervisory layer"
  affectedNodes := ["10.0.4.9", "10.0.1.2"]
  affectedEdges := ["10.0.4.9 → 10.0.1.2"]
  remediation := "Implement zone segmentation with firewall rules enforcing Purdue model boundaries"

/-- A report of a crossing between levels, as saved. -/
def crossingFile : ReportFile (plainSetup fun _ => false) :=
  ⟨_, .saved { riskFindings := [crossing] }⟩

theorem crossing_triggers : ¬ Untriggered crossingFile.1.fields := by
  intro untriggered
  have found : RiskFinding.toJson crossing ∈ riskFindingsOf crossingFile.1.fields := by
    rw [show riskFindingsOf crossingFile.1.fields = [RiskFinding.toJson crossing] from rfl]
    exact List.mem_singleton_self _
  have sensitive : ∃ control ∈ complianceControls, control.triggerCategories.contains "CROSS_PURDUE" = true := by decide
  obtain ⟨control, known, triggered⟩ := sensitive
  exact Bool.eq_false_iff.mp (untriggered _ found control known) triggered

/-- The crossing is in the report, and in neither answer. -/
theorem crossing_unseen :
    ¬ Answers [crossingFile.1.fields] (getReportCompliance plainLibrary plainNumbers crossingFile.1.fields) ∧
      ¬ Answers [crossingFile.1.fields] (getProjectCompliance plainLibrary plainNumbers [crossingFile.1.fields]) := by
  constructor
  · rw [report_answers_iff]
    exact fun right => crossing_triggers right.1
  · intro seen
    have right := (project_answers_iff plainLibrary plainNumbers [crossingFile]).mp seen
    exact crossing_triggers (right crossingFile (List.mem_singleton_self _)).1

end Marlinspike.Emit.Compliance
