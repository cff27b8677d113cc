import Marlinspike.AccessLists
import Marlinspike.Reports.Library

/-!
The switch configuration that is made of a report. What a Cisco switch lets pass with it is said by
the list that can be read from the text: nothing between two hosts that the report has a violation
of, and of the rest the four industrial services (`acl_decides`), whatever the assets' names are.
-/
namespace Marlinspike.Emit.SwitchAcl
open Marlinspike.AccessLists
open Marlinspike.Reports (Library)

abbrev Object := PyDict String Json

structure ReportData where
  nodes : List Object
  purdueViolations : List Object

section
variable (library : Library)

/-- `f"{v}"`. -/
def shown : Json → Text
  | .str s => s.toList
  | v => (library.str v).toList

/-- `obj.get(field) or default`. -/
def orElse (object : Object) (field default : String) : Text :=
  match object.get field with
  | some v => if v.truthy then shown library v else default.toList
  | none => default.toList

/-- `obj.get(field, default)`. -/
def getOr (object : Object) (field : String) (default : Json) : Json := (object.get field).getD default

/-- `level <= bound`; what is no number cannot be compared. -/
def atMost (bound : Int) : Json → Option Bool
  | .bool b => some (decide ((if b then 1 else 0) ≤ bound))
  | .int i => some (decide (i ≤ bound))
  | .float r => some (decide (r ≤ bound))
  | _ => none

def isTwo : Json → Bool
  | .int i => i = 2
  | .float r => r = 2
  | _ => false

def number (n : Nat) : Text := (toString n).toList

/-! ### The configurations -/

def scalanceNode (node : Object) (idx : Nat) : Option (List Text) := do
  let ip := orElse library node "ip" "N/A"
  let mac := orElse library node "mac" ""
  let level := getOr node "purdue_level" (.int 1)
  let low ← atMost 1 level
  let vlan := if low then "10" else if isTwo level then "20" else "30"
  if mac = [] then return []
  return [
    "mac-address-table static ".toList ++ mac ++ " vlan ".toList ++ vlan.toList ++ " interface FastEthernet0/".toList ++
      number (idx + 1),
    "interface FastEthernet0/".toList ++ number (idx + 1),
    "  port-security max-mac-count 1".toList,
    "  description 'MarlinSpike L".toList ++ shown library level ++ " Asset ".toList ++ ip ++ "'".toList,
    "!".toList]

def scalance (report : ReportData) : Option (List Text) := do
  let nodes ← (report.nodes.zipIdx).mapM fun node => scalanceNode library node.1 node.2
  return [
    "! ==========================================================".toList,
    "! Siemens SCALANCE X-300 / X-400 Hardening Script".toList,
    "! Passively Generated by MarlinSpike OT Security Engine".toList,
    "! ==========================================================".toList,
    "vlan 10 name 'Control_Zone_L1'".toList,
    "vlan 20 name 'HMI_Zone_L2'".toList,
    "vlan 30 name 'Enterprise_Zone_L4'".toList,
    "!".toList] ++ nodes.flatten

def hiosNode (node : Object) (idx : Nat) : List Text :=
  let mac := orElse library node "mac" ""
  let ip := orElse library node "ip" ""
  if mac = [] then []
  else [
    "port security 1/".toList ++ number (idx + 1) ++ " enable".toList,
    "port security 1/".toList ++ number (idx + 1) ++ " static-mac ".toList ++ mac,
    "port comment 1/".toList ++ number (idx + 1) ++ " \"MarlinSpike Asset ".toList ++ ip ++ "\"".toList]

def hios (report : ReportData) : List Text := [
    "# ==========================================================".toList,
    "# Hirschmann HiOS Industrial Switch Security Configuration".toList,
    "# Passively Generated by MarlinSpike OT Security Engine".toList,
    "# ==========================================================".toList,
    "vlan create 10 name Control_Zone_L1".toList,
    "vlan create 20 name HMI_Zone_L2".toList,
    "vlan create 30 name Enterprise_Zone_L4".toList,
    []] ++ (report.nodes.zipIdx).flatMap fun node => hiosNode library node.1 node.2

def ciscoBanner : List Text := [
  "! ==========================================================".toList,
  "! Cisco Industrial Ethernet (IE 4000/5000) Micro-Segmentation ACL".toList,
  "! Passively Generated by MarlinSpike OT Security Engine".toList,
  "! ==========================================================".toList,
  "vlan 10".toList,
  " name Control_Zone_Level1".toList,
  "vlan 20".toList,
  " name Operations_Zone_Level2".toList,
  "!".toList]

def aclHeader : Text := "ip access-list extended OT_ZERO_TRUST_ACL".toList

def denyLine (viol : Object) : Text :=
  " deny ip host ".toList ++ shown library (getOr viol "src" (.str "any")) ++ " host ".toList ++
    shown library (getOr viol "dst" (.str "any"))

def permitLines : List Text := [
  " permit tcp any any eq 502".toList,
  " permit tcp any any eq 44818".toList,
  " permit tcp any any eq 102".toList,
  " permit udp any any eq 20004".toList]

def ciscoNode (node : Object) (idx : Nat) : Option (List Text) := do
  let mac := orElse library node "mac" ""
  let ip := orElse library node "ip" ""
  let level := getOr node "purdue_level" (.int 1)
  let low ← atMost 1 level
  return [
    "interface GigabitEthernet1/0/".toList ++ number (idx + 1),
    " description MarlinSpike L".toList ++ shown library level ++ " ".toList ++ ip,
    " switchport mode access".toList,
    " switchport access vlan ".toList ++ (if low then "10" else "20").toList,
    " switchport port-security".toList,
    " switchport port-security maximum 1".toList] ++
    (if mac = [] then [] else [" switchport port-security mac-address ".toList ++ mac]) ++
    [" ip access-group OT_ZERO_TRUST_ACL in".toList, "!".toList]

def cisco (report : ReportData) : Option (List Text) := do
  let nodes ← (report.nodes.zipIdx).mapM fun node => ciscoNode library node.1 node.2
  return ciscoBanner ++ [aclHeader, " remark Block unauthorized cross-Purdue traffic".toList] ++
    report.purdueViolations.map (denyLine library) ++ permitLines ++ [" deny ip any any log".toList, "!".toList] ++
    nodes.flatten

/-- `generate_switch_acl`; a level that cannot be compared raises. -/
def generateSwitchAcl (report : ReportData) (vendor : String) : Option Text :=
  let vendor := library.lower (if vendor = "" then "cisco_ie" else vendor)
  let lines :=
    if vendor = "siemens_scalance" then scalance library report
    else if vendor = "hirschmann_hios" then some (hios library report)
    else cisco library report
  lines.map fun lines => ['\n'].intercalate lines ++ ['\n']

end

/-! ### What the list says -/

/-- The two hosts of a violation, as they are written. -/
def endpoints (library : Library) (viol : Object) : Text × Text :=
  (shown library (getOr viol "src" (.str "any")), shown library (getOr viol "dst" (.str "any")))

/-- The services that are let through. -/
def services : List (Text × Nat) :=
  [("tcp".toList, 502), ("tcp".toList, 44818), ("tcp".toList, 102), ("udp".toList, 20004)]

/-- What can stand for a host. -/
def isApart (c : Char) : Bool := isBlank c || isBreak c

section
variable {library : Library} {report : ReportData} {vendor : String} {text : Text} {viol : Object}

def denyEntry (library : Library) (viol : Object) : Entry :=
  ⟨false, "ip".toList, .host (endpoints library viol).1, .host (endpoints library viol).2, none⟩

def permitEntry (service : Text × Nat) : Entry := ⟨true, service.1, .any, .any, some service.2⟩

theorem denyLine_eq (viol : Object) : denyLine library viol = " deny ip host ".toList ++ (endpoints library viol).1 ++
    " host ".toList ++ (endpoints library viol).2 := rfl

theorem blank_word {word : Text} (apart : Words.Word isApart word) : Words.Word isBlank word :=
  ⟨apart.some_, fun c inside => (Bool.or_eq_false_iff.mp (apart.plain c inside)).1⟩

theorem words_denyLine (source : Words.Word isApart (endpoints library viol).1)
    (destination : Words.Word isApart (endpoints library viol).2) :
    Words.words isBlank (denyLine library viol) =
      ["deny".toList, "ip".toList, "host".toList, (endpoints library viol).1, "host".toList,
        (endpoints library viol).2] := by
  have first : " deny ip host ".toList = " deny ip host".toList ++ [' '] := by decide
  have second : " host ".toList = ' ' :: ("host".toList ++ [' ']) := by decide
  have line : denyLine library viol = " deny ip host".toList ++ ' ' :: ((endpoints library viol).1 ++
      ' ' :: ("host".toList ++ ' ' :: (endpoints library viol).2)) := by
    rw [denyLine_eq, first, second]
    simp only [List.append_assoc, List.cons_append, List.nil_append]
  have before : Words.words isBlank " deny ip host".toList = ["deny".toList, "ip".toList, "host".toList] := by decide
  have between : Words.words isBlank "host".toList = ["host".toList] := by decide
  rw [line, Words.words_append (by decide), Words.words_append (by decide), Words.words_append (by decide), before,
    between, Words.words_word (blank_word source), Words.words_word (blank_word destination)]
  rfl

theorem readEntry_denyLine (source : Words.Word isApart (endpoints library viol).1)
    (destination : Words.Word isApart (endpoints library viol).2) :
    readEntry (denyLine library viol) = some (denyEntry library viol) := by
  have any_ : "host".toList ≠ "any".toList := by decide
  have permit : "deny".toList ≠ "permit".toList := by decide
  rw [readEntry, words_denyLine source destination]
  simp only [readEndpoint, readPort, if_neg any_, if_neg permit, if_true, bind, Option.bind, denyEntry]

theorem readEntry_permits : permitLines.filterMap readEntry = services.map permitEntry := by
  decide +kernel

theorem intercalate_break {lines : List Text} (some_ : lines ≠ []) :
    ['\n'].intercalate lines ++ ['\n'] = lines.flatMap fun line => line ++ ['\n'] := by
  induction lines with
  | nil => exact absurd rfl some_
  | cons line rest ih =>
    by_cases last : rest = []
    · rw [last, List.intercalate_singleton, List.flatMap_cons, List.flatMap_nil, List.append_nil]
    · rw [List.intercalate_cons_of_ne_nil last, List.append_assoc, ih last, List.flatMap_cons, List.append_assoc]

/-- The lines up to the entry that denies everything. -/
def aclLines (library : Library) (report : ReportData) : List Text :=
  [" remark Block unauthorized cross-Purdue traffic".toList] ++ report.purdueViolations.map (denyLine library) ++
    permitLines ++ [" deny ip any any log".toList]

def denyAll : Entry := ⟨false, "ip".toList, .any, .any, none⟩

/-- A report whose violations are between hosts that can be written in an entry. -/
def Addressed (library : Library) (report : ReportData) : Prop :=
  ∀ viol ∈ report.purdueViolations, Words.Word isApart (endpoints library viol).1 ∧
    Words.Word isApart (endpoints library viol).2

theorem filterMap_denyLines (addressed : Addressed library report) :
    (report.purdueViolations.map (denyLine library)).filterMap readEntry =
      report.purdueViolations.map (denyEntry library) := by
  rw [List.filterMap_map]
  refine (List.filterMap_congr fun viol member => ?_).trans (congrFun List.filterMap_eq_map _)
  obtain ⟨source, destination⟩ := addressed viol member
  exact readEntry_denyLine source destination

theorem filterMap_aclLines (addressed : Addressed library report) :
    (aclLines library report).filterMap readEntry =
      report.purdueViolations.map (denyEntry library) ++ services.map permitEntry ++ [denyAll] := by
  have remark : [" remark Block unauthorized cross-Purdue traffic".toList].filterMap readEntry = [] := by decide
  have last : [" deny ip any any log".toList].filterMap readEntry = [denyAll] := by decide
  rw [aclLines, List.filterMap_append, List.filterMap_append, List.filterMap_append, remark, last,
    filterMap_denyLines addressed, readEntry_permits, List.nil_append]

theorem denyLine_plain (source : Words.Word isApart (endpoints library viol).1)
    (destination : Words.Word isApart (endpoints library viol).2) : ∀ c ∈ denyLine library viol, isBreak c = false := by
  have fixed {text : Text} (plain : (text.all fun c => !isBreak c) = true) : ∀ c ∈ text, isBreak c = false :=
    fun c inside => by simpa using List.all_eq_true.mp plain c inside
  have host {word : Text} (apart : Words.Word isApart word) : ∀ c ∈ word, isBreak c = false :=
    fun c inside => (Bool.or_eq_false_iff.mp (apart.plain c inside)).2
  rw [denyLine_eq]
  refine List.forall_mem_append.mpr ⟨List.forall_mem_append.mpr ⟨List.forall_mem_append.mpr ⟨?_, ?_⟩, ?_⟩, ?_⟩
  · exact fixed (by decide)
  · exact host source
  · exact fixed (by decide)
  · exact host destination

theorem plain_of_all {lines : List Text} (plain : (lines.all fun line => line.all fun c => !isBreak c) = true) :
    ∀ line ∈ lines, ∀ c ∈ line, isBreak c = false := by
  intro line member c inside
  simpa using List.all_eq_true.mp (List.all_eq_true.mp plain line member) c inside

theorem aclLines_plain (addressed : Addressed library report) :
    ∀ line ∈ aclLines library report, ∀ c ∈ line, isBreak c = false := by
  have denials : ∀ line ∈ report.purdueViolations.map (denyLine library), ∀ c ∈ line, isBreak c = false := by
    intro line member
    obtain ⟨viol, listed, rfl⟩ := List.mem_map.mp member
    obtain ⟨source, destination⟩ := addressed viol listed
    exact denyLine_plain source destination
  rw [aclLines]
  refine List.forall_mem_append.mpr ⟨List.forall_mem_append.mpr ⟨List.forall_mem_append.mpr ⟨?_, denials⟩, ?_⟩, ?_⟩
  · exact plain_of_all (by decide)
  · exact plain_of_all (by decide)
  · exact plain_of_all (by decide)

theorem aclLines_indented : ∀ line ∈ aclLines library report, line.head? = some ' ' := by
  intro line member
  simp only [aclLines, List.mem_append, List.mem_map, List.mem_singleton] at member
  rcases member with ((rfl | ⟨viol, -, rfl⟩) | member) | rfl
  · rfl
  · rfl
  · have all : (permitLines.all fun line => line.head? = some ' ') = true := by decide +kernel
    exact of_decide_eq_true (List.all_eq_true.mp all line member)
  · rfl

/-- The list of a configuration begins with the entries of the report, and with one that denies
    everything behind them. -/
theorem readList_cisco (addressed : Addressed library report) {lines : List Text}
    (made : cisco library report = some lines) :
    ∃ behind, readList aclHeader (['\n'].intercalate lines ++ ['\n']) =
      report.purdueViolations.map (denyEntry library) ++ services.map permitEntry ++ denyAll :: behind := by
  obtain ⟨nodes, -, same⟩ := Option.bind_eq_some_iff.mp made
  obtain rfl := Option.some.inj same
  let behind : Text := ("!".toList :: nodes.flatten).flatMap fun line => line ++ ['\n']
  have whole : ciscoBanner ++ [aclHeader, " remark Block unauthorized cross-Purdue traffic".toList] ++
      report.purdueViolations.map (denyLine library) ++ permitLines ++ [" deny ip any any log".toList, "!".toList] ++
      nodes.flatten = (ciscoBanner ++ aclHeader :: aclLines library report) ++ "!".toList :: nodes.flatten := by
    simp only [aclLines, List.append_assoc, List.cons_append, List.nil_append]
  have header : ∀ line ∈ [aclHeader], ∀ c ∈ line, isBreak c = false := plain_of_all (by decide)
  have plain : ∀ line ∈ ciscoBanner ++ aclHeader :: aclLines library report, ∀ c ∈ line, isBreak c = false :=
    List.forall_mem_append.mpr ⟨plain_of_all (by decide +kernel),
      List.forall_mem_cons.mpr ⟨header aclHeader List.mem_cons_self, aclLines_plain addressed⟩⟩
  have banner : ∀ line ∈ ciscoBanner, line ≠ aclHeader := by decide +kernel
  refine ⟨readLines aclHeader true (behind.splitOnP isBreak), ?_⟩
  rw [whole, intercalate_break (by simp), List.flatMap_append, readList, splitOnP_lines plain, List.append_assoc,
    List.cons_append, readLines_before banner, readLines_header, readLines_under aclLines_indented (by decide),
    filterMap_aclLines addressed]
  simp only [behind, List.append_assoc, List.cons_append, List.nil_append]

/-- Between the hosts of a packet the report has a violation. -/
def Violates (library : Library) (report : ReportData) (packet : Packet) : Prop :=
  ∃ viol ∈ report.purdueViolations, endpoints library viol = (packet.source, packet.destination)

theorem takes_denyEntry (packet : Packet) : (denyEntry library viol).takes packet = true ↔
    endpoints library viol = (packet.source, packet.destination) := by
  simp [denyEntry, Entry.takes, Endpoint.takes, Prod.ext_iff]

theorem takes_permitEntry {service : Text × Nat} (listed : service ∈ services) (packet : Packet) :
    (permitEntry service).takes packet = true ↔ service = (packet.protocol, packet.port) := by
  have other : service.1 ≠ "ip".toList := by
    have all : (services.all fun service => service.1 ≠ "ip".toList) = true := by decide
    exact of_decide_eq_true (List.all_eq_true.mp all service listed)
  rw [Entry.takes, permitEntry, decide_eq_false other]
  simp [Endpoint.takes, Prod.ext_iff]

theorem passes_denyAll (behind : List Entry) (packet : Packet) : passes (denyAll :: behind) packet = false :=
  passes_all rfl behind

/-- What a Cisco switch with the configuration lets pass. -/
theorem acl_decides (scalance_ : library.lower (if vendor = "" then "cisco_ie" else vendor) ≠ "siemens_scalance")
    (hios_ : library.lower (if vendor = "" then "cisco_ie" else vendor) ≠ "hirschmann_hios")
    (addressed : Addressed library report) (generated : generateSwitchAcl library report vendor = some text)
    (packet : Packet) : passes (readList aclHeader text) packet = true ↔
      ¬ Violates library report packet ∧ (packet.protocol, packet.port) ∈ services := by
  unfold generateSwitchAcl at generated
  dsimp only at generated
  rw [if_neg scalance_, if_neg hios_, Option.map_eq_some_iff] at generated
  obtain ⟨lines, made, rfl⟩ := generated
  obtain ⟨behind, read⟩ := readList_cisco addressed made
  have denies : ∀ entry ∈ report.purdueViolations.map (denyEntry library), entry.permits = false := by
    intro entry member
    obtain ⟨viol, -, rfl⟩ := List.mem_map.mp member
    rfl
  have permits : ∀ entry ∈ services.map permitEntry, entry.permits = true := by
    intro entry member
    obtain ⟨service, -, rfl⟩ := List.mem_map.mp member
    rfl
  rw [read, List.append_assoc, passes_denies denies, passes_permits permits, passes_denyAll]
  refine and_congr ?_ ?_
  · rw [List.forall_mem_map, Violates, not_exists]
    refine forall_congr' fun viol => ?_
    rw [not_and, Bool.eq_false_iff, ne_eq, takes_denyEntry]
  · constructor
    · rintro (⟨entry, member, taken⟩ | never)
      · obtain ⟨service, listed, rfl⟩ := List.mem_map.mp member
        exact (takes_permitEntry listed packet).mp taken ▸ listed
      · cases never
    · intro listed
      exact Or.inl ⟨_, List.mem_map_of_mem listed, (takes_permitEntry listed packet).mpr rfl⟩

/-- One asset, and a violation on its way to another. -/
def plant : ReportData :=
  ⟨[(PyDict.empty.set "ip" (.str "10.0.0.5")).set "purdue_level" (.int 1)],
    [(PyDict.empty.set "src" (.str "10.0.0.9")).set "dst" (.str "10.0.0.5")]⟩

theorem acl_decides_plant : ∃ text, generateSwitchAcl ⟨id, id, id, some, fun _ => "1"⟩ plant "" = some text ∧
    passes (readList aclHeader text) ⟨"tcp".toList, "10.0.0.9".toList, "10.0.0.5".toList, 502⟩ = false ∧
    passes (readList aclHeader text) ⟨"tcp".toList, "10.0.0.8".toList, "10.0.0.5".toList, 502⟩ = true := by
  let library : Library := ⟨id, id, id, some, fun _ => "1"⟩
  have word {text : Text} (some_ : text ≠ []) (apart : (text.all fun c => !isApart c) = true) :
      Words.Word isApart text :=
    ⟨some_, fun c inside => by simpa using List.all_eq_true.mp apart c inside⟩
  have addressed : Addressed library plant := by
    intro viol listed
    rw [plant, List.mem_singleton] at listed
    rw [listed]
    exact ⟨word (by decide) (by decide), word (by decide) (by decide)⟩
  have scalance_ : library.lower (if "" = "" then "cisco_ie" else "") ≠ "siemens_scalance" := by decide
  have hios_ : library.lower (if "" = "" then "cisco_ie" else "") ≠ "hirschmann_hios" := by decide
  obtain ⟨text, generated⟩ : ∃ text, generateSwitchAcl library plant "" = some text := ⟨_, rfl⟩
  refine ⟨text, generated, ?_, ?_⟩
  · refine Bool.eq_false_iff.mpr fun passed => ?_
    have apart := ((acl_decides scalance_ hios_ addressed generated _).mp passed).1
    exact apart ⟨_, List.mem_singleton.mpr rfl, rfl⟩
  · refine (acl_decides scalance_ hios_ addressed generated _).mpr ⟨?_, by decide⟩
    rintro ⟨viol, listed, same⟩
    rw [plant, List.mem_singleton] at listed
    rw [listed] at same
    exact absurd same (by decide)

end
end Marlinspike.Emit.SwitchAcl
