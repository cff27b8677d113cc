import Marlinspike.Emit.ReportFiles

/-!
The containment playbook. It looks for sources under keys that the entries of a report do not have,
and blocks an address of its own when it finds none (`evidence_iff`).
-/
namespace Marlinspike.Emit.Ansible
open Marlinspike.Plugins (Numbers)
open Marlinspike.Plugins.RulePacks (plainLibrary)
open Marlinspike.Plugins.Enrich (Setup File either plainSetup)
open Marlinspike.Reports (Library)
open Marlinspike.Findings.Identity (sorted)
open Marlinspike.Emit.ReportFiles
open Marlinspike.Risk.Surface

/-! ### `export_ansible_playbook` -/

/-- What the playbook is about; the addresses stand in the list and in the access list alike. -/
structure Playbook where
  captureId : String
  quarantineIps : List String
  denied : List String

/-- A set of the values that were added, under what they are the same by. -/
abbrev Isolated := PyDict (String ⊕ Rat) Json

/-- `set.add`, if the value has a hash. -/
def add (isolatedIps : Isolated) (src : Json) : Option Isolated :=
  (hashed src).map fun key => if (isolatedIps.get key).isSome then isolatedIps else isolatedIps.set key src

section Export
variable (library : Library)

/-- What an entry says about its source. -/
def sourceOf (entry : Json) : Json := either (entry.get "src_ip") (entry.get "source_ip")

def severe (f : Json) : Bool :=
  let sev := library.upper ((f.get "severity").text library)
  sev = "CRITICAL" || sev = "HIGH"

def addFinding (isolatedIps : Isolated) (f : Json) : Option Isolated :=
  if f.isObj then
    if (sourceOf f).truthy && severe library f then add isolatedIps (sourceOf f) else some isolatedIps
  else none

def addViolation (isolatedIps : Isolated) (v : Json) : Option Isolated :=
  if v.isObj then if (sourceOf v).truthy then add isolatedIps (sourceOf v) else some isolatedIps
  else none

def textOf : (String ⊕ Rat) × Json → Option String
  | (.inl s, _) => some s
  | _ => none

def numberOf : (String ⊕ Rat) × Json → Option (Rat × Json)
  | (.inr r, value) => some (r, value)
  | _ => none

/-- `sorted`: texts and numbers do not compare. -/
def sortedIps (isolatedIps : Isolated) : Option (List String) :=
  let texts := isolatedIps.items.filterMap textOf
  let numbers := isolatedIps.items.filterMap numberOf
  if numbers = [] then some (sorted texts)
  else if texts = [] then
    some ((numbers.mergeSort fun a b => decide (a.1 ≤ b.1)).map fun number => number.2.toText library)
  else none

/-- What is blocked if nothing is. -/
def placeholder : String := "192.168.1.100"

/-- `export_ansible_playbook`, if it does not raise. -/
def exportAnsiblePlaybook (captureId : String) (findings purdueViolations : Json) : Option Playbook := do
  let findingsList ← findings.iterate
  let violationsList ← purdueViolations.iterate
  let isolatedIps ← findingsList.foldlM (addFinding library) PyDict.empty
  let isolatedIps ← violationsList.foldlM addViolation isolatedIps
  let found ← sortedIps library isolatedIps
  let ipList := if found = [] then [placeholder] else found
  some ⟨captureId, ipList, ipList⟩

end Export

/-! ### Its text -/

def headLines (captureId : String) : List String :=
  [ "# ==============================================================================",
    "# MarlinSpike Automated OT Incident Containment Playbook",
    s!"# Generated For Capture: {captureId}",
    "# Target: Emergency Network Micro-Segmentation & Threat Isolation",
    "# Standards: IEC 62443-3-3 / CISA OT Incident Response Guidelines",
    "# ==============================================================================",
    "",
    "- name: MarlinSpike Emergency OT Isolation Playbook",
    "  hosts: ot_firewalls, ot_switches",
    "  gather_facts: no",
    "  vars:",
    s!"    capture_id: \"{captureId}\"",
    "    quarantine_ips:" ]

def taskLines : List String :=
  [ "",
    "  tasks:",
    "    - name: Display Incident Response Banner",
    "      ansible.builtin.debug:",
    "        msg: \"Executing emergency containment for \x7b\x7b quarantine_ips | length \x7d\x7d threat sources " ++
      "identified by MarlinSpike.\"",
    "",
    "    # --------------------------------------------------------------------------",
    "    # Task 1: Palo Alto Networks Firewall Rule Insertion",
    "    # --------------------------------------------------------------------------",
    "    - name: Quarantine Threat Source IPs on Palo Alto Firewall",
    "      paloaltonetworks.panos.panos_address_object:",
    "        provider: \"\x7b\x7b panos_provider \x7d\x7d\"",
    "        name: \"MS_QUARANTINE_\x7b\x7b item | replace('.', '_') \x7d\x7d\"",
    "        value: \"\x7b\x7b item \x7d\x7d\"",
    "        address_type: \"ip-netmask\"",
    "        description: \"Auto-isolated by MarlinSpike OT Security Engine\"",
    "      loop: \"\x7b\x7b quarantine_ips \x7d\x7d\"",
    "      when: \"'paloalto' in group_names\"",
    "      ignore_errors: yes",
    "",
    "    - name: Block Purdue Conduit Violation Group on Palo Alto",
    "      paloaltonetworks.panos.panos_security_rule:",
    "        provider: \"\x7b\x7b panos_provider \x7d\x7d\"",
    "        rule_name: \"MS_EMERGENCY_DENY_OT_THREATS\"",
    "        source_ip: \"\x7b\x7b quarantine_ips \x7d\x7d\"",
    "        destination_ip: [\"any\"]",
    "        action: \"deny\"",
    "        log_end: yes",
    "      when: \"'paloalto' in group_names\"",
    "      ignore_errors: yes",
    "",
    "    # --------------------------------------------------------------------------",
    "    # Task 2: Cisco IOS Switch Port Micro-Segmentation & ACL Block",
    "    # --------------------------------------------------------------------------",
    "    - name: Apply Emergency Isolation ACL on Cisco Switches",
    "      cisco.ios.ios_config:",
    "        lines:" ]

def closingLines : List String :=
  [ "          - access-list 150 permit ip any any",
    "          - interface GigabitEthernet1/0/1",
    "          - ip access-group 150 in",
    "      when: \"'cisco_switches' in group_names\"",
    "      ignore_errors: yes",
    "",
    "    # --------------------------------------------------------------------------",
    "    # Task 3: Linux Gateway iptables / nftables Immediate Drop",
    "    # --------------------------------------------------------------------------",
    "    - name: Apply Immediate Drop Rules on Linux Gateway Router",
    "      ansible.builtin.iptables:",
    "        chain: FORWARD",
    "        source: \"\x7b\x7b item \x7d\x7d\"",
    "        jump: DROP",
    "        comment: \"MarlinSpike OT Threat Containment\"",
    "      loop: \"\x7b\x7b quarantine_ips \x7d\x7d\"",
    "      when: \"'linux_gateways' in group_names\"",
    "      ignore_errors: yes",
    "",
    "    # --------------------------------------------------------------------------",
    "    # Task 4: Log Remediation Event to SIEM",
    "    # --------------------------------------------------------------------------",
    "    - name: Notify Enterprise SIEM of Containment Execution",
    "      ansible.builtin.syslog:",
    "        msg: \"MarlinSpike Incident Response Playbook executed successfully. Isolated IPs: " ++
      "\x7b\x7b quarantine_ips | join(', ') \x7d\x7d\"",
    "        facility: local0",
    "        priority: alert" ]

def Playbook.text (playbook : Playbook) : String :=
  String.join <| (headLines playbook.captureId ++ playbook.quarantineIps.map (s!"      - {·}") ++
    taskLines ++ playbook.denied.map (s!"          - access-list 150 deny ip host {·} any") ++
    closingLines).map (· ++ "\n")

/-! ### The endpoints -/

structure Collected where
  allFindings : List Json
  allViolations : List Json

/-- What is taken of a report, up to the first exception. -/
def collect (c : Collected) (data : Plugins.Report) : Collected :=
  match elements (listAt data "findings") with
  | none => c
  | some findings =>
    match elements (listAt data "purdue_violations") with
    | none => ⟨c.allFindings ++ findings, c.allViolations⟩
    | some violations => ⟨c.allFindings ++ findings, c.allViolations ++ violations⟩

section Endpoints
variable (library : Library)

/-- `download_project_ansible`. -/
def downloadProjectAnsible (pid : Nat) (reports : List Plugins.Report) : Option Playbook :=
  let c := reports.foldl collect ⟨[], []⟩
  exportAnsiblePlaybook library s!"project-{pid}" (.arr c.allFindings) (.arr c.allViolations)

/-- `api_report_ansible`, of a file under its base name. -/
def apiReportAnsible (safeName : String) (report : Plugins.Report) : Option Playbook :=
  exportAnsiblePlaybook library (safeName.replace ".json" "") (listAt report "findings")
    (listAt report "purdue_violations")

end Endpoints

/-! ### Evidence -/

section Evidence
variable (reports : List Plugins.Report)

/-- The source of an entry of the Purdue violations. -/
def Source (ip : String) : Prop :=
  ∃ report ∈ reports, ∃ v ∈ purdueViolationsOf report, v.get "src" = .str ip

/-- An affected node of a high or critical risk finding. -/
def Affected (ip : String) : Prop :=
  ∃ report ∈ reports, ∃ f ∈ riskFindingsOf report,
    (f.get "severity" = .str "HIGH" ∨ f.get "severity" = .str "CRITICAL") ∧ .str ip ∈ (f.get "affected_nodes").listify

/-- Addresses that are blocked for what the reports say, and for nothing else. -/
structure OnEvidence (blocked : List String) : Prop where
  complete : ∀ ip, Source reports ip → ip ∈ blocked
  sound : ∀ ip ∈ blocked, Source reports ip ∨ Affected reports ip
  idle : (∀ ip, ¬ Source reports ip ∧ ¬ Affected reports ip) → blocked = []

def Contains (answer : Option Playbook) : Prop :=
  ∃ playbook, answer = some playbook ∧ OnEvidence reports playbook.quarantineIps ∧ OnEvidence reports playbook.denied

/-- There is evidence against the placeholder, and no violation of any other source. -/
def AgainstPlaceholder : Prop :=
  (∀ ip, Source reports ip → ip = placeholder) ∧ (Source reports placeholder ∨ Affected reports placeholder)

theorem onEvidence_placeholder : OnEvidence reports [placeholder] ↔ AgainstPlaceholder reports := by
  constructor
  · intro only
    refine ⟨fun ip source => ?_, only.sound placeholder (List.mem_singleton_self _)⟩
    exact List.mem_singleton.mp (only.complete ip source)
  · rintro ⟨single, grounds⟩
    refine ⟨fun ip source => List.mem_singleton.mpr (single ip source), ?_, ?_⟩
    · intro ip blocked
      obtain rfl := List.mem_singleton.mp blocked
      exact grounds
    · intro none
      obtain ⟨unsourced, unaffected⟩ := none placeholder
      exact absurd grounds (not_or.mpr ⟨unsourced, unaffected⟩)

end Evidence

section Files
variable (library : Library) {setup : Setup}

/-- An entry says nothing under the keys that are looked for. -/
theorem sourceOf_toJson (v : PurdueViolation) : sourceOf (PurdueViolation.toJson v) = .null := rfl

theorem foldlM_addViolation (isolatedIps : Isolated) (violations : List PurdueViolation) :
    (violations.map PurdueViolation.toJson).foldlM addViolation isolatedIps = some isolatedIps := by
  induction violations with
  | nil => rfl
  | cons v rest ih =>
    have unchanged : addViolation isolatedIps (PurdueViolation.toJson v) = some isolatedIps := by
      simp [addViolation, sourceOf_toJson, Json.truthy]
      rfl
    rw [List.map_cons, List.foldlM_cons, unchanged]
    exact ih

theorem exportAnsiblePlaybook_written (captureId : String) (violations : List PurdueViolation) :
    exportAnsiblePlaybook library captureId (.arr []) (.arr (violations.map PurdueViolation.toJson)) =
      some ⟨captureId, [placeholder], [placeholder]⟩ := by
  have none : sortedIps library PyDict.empty = some [] := by simp [sortedIps, PyDict.empty, sorted]
  simp [exportAnsiblePlaybook, Json.iterate, foldlM_addViolation, none]

theorem contains_written (reports : List Plugins.Report) (captureId : String) (violations : List PurdueViolation) :
    Contains reports (exportAnsiblePlaybook library captureId (.arr []) (.arr (violations.map PurdueViolation.toJson))) ↔
      AgainstPlaceholder reports := by
  have exported := exportAnsiblePlaybook_written library captureId violations
  rw [← onEvidence_placeholder]
  constructor
  · rintro ⟨playbook, same, only, -⟩
    obtain rfl := Option.some.inj (exported.symm.trans same)
    exact only
  · exact fun only => ⟨_, exported, only, only⟩

theorem collect_file (c : Collected) (file : ReportFile setup) : ∃ violations : List PurdueViolation,
    collect c file.1.fields = ⟨c.allFindings, c.allViolations ++ violations.map PurdueViolation.toJson⟩ := by
  obtain ⟨violations, listed⟩ := listAt_purdueViolations file
  refine ⟨violations, ?_⟩
  rw [collect, listAt_findings file, listed]
  simp [elements]

theorem foldl_collect (c : Collected) (files : List (ReportFile setup)) : ∃ violations : List PurdueViolation,
    (files.map fun file => file.1.fields).foldl collect c =
      ⟨c.allFindings, c.allViolations ++ violations.map PurdueViolation.toJson⟩ := by
  induction files generalizing c with
  | nil => exact ⟨[], by simp⟩
  | cons file rest ih =>
    obtain ⟨own, taken⟩ := collect_file c file
    obtain ⟨others, gathered⟩ := ih (collect c file.1.fields)
    refine ⟨own ++ others, ?_⟩
    rw [List.map_cons, List.foldl_cons, gathered, taken]
    simp

theorem report_evidence_iff (safeName : String) (file : ReportFile setup) :
    Contains [file.1.fields] (apiReportAnsible library safeName file.1.fields) ↔
      AgainstPlaceholder [file.1.fields] := by
  obtain ⟨violations, listed⟩ := listAt_purdueViolations file
  rw [apiReportAnsible, listAt_findings file, listed]
  exact contains_written ..

theorem project_evidence_iff (pid : Nat) (files : List (ReportFile setup)) :
    Contains (files.map fun file => file.1.fields)
        (downloadProjectAnsible library pid (files.map fun file => file.1.fields)) ↔
      AgainstPlaceholder (files.map fun file => file.1.fields) := by
  obtain ⟨violations, gathered⟩ := foldl_collect ⟨[], []⟩ files
  rw [downloadProjectAnsible, gathered]
  exact contains_written ..

/-- A playbook acts on evidence if what there is speaks against the placeholder. -/
theorem evidence_iff :
    (∀ (safeName : String) (file : ReportFile setup),
      Contains [file.1.fields] (apiReportAnsible library safeName file.1.fields) ↔
        AgainstPlaceholder [file.1.fields]) ∧
    ∀ (pid : Nat) (files : List (ReportFile setup)),
      Contains (files.map fun file => file.1.fields)
          (downloadProjectAnsible library pid (files.map fun file => file.1.fields)) ↔
        AgainstPlaceholder (files.map fun file => file.1.fields) :=
  ⟨report_evidence_iff library, project_evidence_iff library⟩

end Files

/-! ### A crossing -/

def bypass : PurdueViolation where
  src := "10.0.4.9"
  dst := "10.0.1.2"
  srcLevel := 4
  dstLevel := 1
  protocol := "Modbus"
  bytesTotal := 1200
  description := "Purdue Level 4 direct communication to Level 1 (zone bypass)"

/-- A report of a connection from level 4 to level 1. -/
def bypassFile : ReportFile (plainSetup fun _ => false) := ⟨_, .saved { purdueViolations := [bypass] }⟩

theorem bypass_source : Source [bypassFile.1.fields] "10.0.4.9" :=
  ⟨bypassFile.1.fields, List.mem_singleton_self _, PurdueViolation.toJson bypass, List.mem_singleton_self _, rfl⟩

/-- Its source is not blocked, and another address is. -/
theorem bypass_not_contained :
    ¬ Contains [bypassFile.1.fields] (apiReportAnsible plainLibrary "site.json" bypassFile.1.fields) ∧
      ¬ Contains [bypassFile.1.fields] (downloadProjectAnsible plainLibrary 1 [bypassFile.1.fields]) := by
  have other : "10.0.4.9" ≠ placeholder := by decide
  constructor
  · rw [report_evidence_iff]
    exact fun against => other (against.1 _ bypass_source)
  · intro contains
    have against := (project_evidence_iff plainLibrary 1 [bypassFile]).mp contains
    exact other (against.1 _ bypass_source)

end Marlinspike.Emit.Ansible
