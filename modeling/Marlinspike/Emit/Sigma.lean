import Marlinspike.Emit.Stix
import Marlinspike.Selecting

/-!
Sigma rules of a report: a rule for each risk finding of a category that shows in single log
events, and for each C2 indicator and malware finding, unless there is one of that id.
-/
namespace Marlinspike.Emit.Sigma
open Marlinspike.Reports (Library)
open Marlinspike.Plugins (Report)
open Marlinspike.Plugins.Enrich (either)
open Marlinspike.Findings.Identity (sorted)
open Marlinspike.Emit.Navigator (fieldItems itemsOf)
open Marlinspike.Selecting

/-- `_EMITTABLE`, and the keys of `_BUILDERS`. -/
def emittable : List String :=
  ["CROSS_PURDUE", "ICS_EXTERNAL_COMMS", "CLEARTEXT_REMOTE_ACCESS", "CLEARTEXT_ENG", "MODBUS_WRITE_ANON",
    "C2_BEACONING", "MALWARE_IOC_MATCH"]

structure Services where
  library : Library
  /-- `hashlib.sha1` of a text, in hexadecimal digits. -/
  sha1 : String → String
  /-- `_now_iso_date`. -/
  nowIsoDate : String
  /-- `str.upper` leaves what is in upper case as it is. -/
  upper_emittable : ∀ category ∈ emittable, library.upper category = category

def severityToSigma : List (String × String) :=
  [("INFO", "informational"), ("LOW", "low"), ("MEDIUM", "medium"), ("HIGH", "high"), ("CRITICAL", "critical"),
    ("FATAL", "critical")]

def cleartextRemotePorts : List Nat := [21, 23, 514, 5900]

def cleartextIcsProtocols : List String := ["modbus", "s7comm", "dnp3", "iec104", "bacnet", "profinet"]

def privatePrefixes : List String :=
  ["10.", "192.168.", "172.16.", "172.17.", "172.18.", "172.19.", "172.20.", "172.21.", "172.22.", "172.23.", "172.24.",
    "172.25.", "172.26.", "172.27.", "172.28.", "172.29.", "172.30.", "172.31.", "127.", "169.254."]

/-- What `_base_rule` makes. -/
structure BaseRule where
  title : String
  id : String
  status : String
  description : String
  author : String
  date : String
  references : List String
  tags : List String
  level : String
deriving DecidableEq

/-- A rule on the logs of Zeek; the list of fields is left out where it is empty. -/
structure Rule extends BaseRule where
  service : String
  detection : Detection
  fields : List String := []
  falsepositives : List String
deriving DecidableEq

section Rules
variable (services : Services)

/-- Some of the digits of a hash. -/
def digits (hash : List Char) (start stop : Nat) : String := String.ofList ((hash.take stop).drop start)

def stableUuid (category key : String) : String :=
  let h := (services.sha1 ("marlinspike|" ++ category ++ "|" ++ key)).toList
  "-".intercalate [digits h 0 8, digits h 8 12, digits h 12 16, digits h 16 20, digits h 20 32]

/-! ### `_base_rule` -/

/-- `_severity_for`. -/
def severityFor (finding : Json) : String :=
  let severity := services.library.upper ((either (finding.get "severity") (.str "MEDIUM")).text services.library)
  (severityToSigma.lookup severity).getD "medium"

/-- `_attack_tags`. -/
def attackTags (finding : Json) : List String :=
  (itemsOf (either (finding.get "attack_ids") (finding.get "attack_techniques"))).map fun tid =>
    "attack." ++ services.library.lower (tid.toText services.library)

def categoryOf (finding : Json) : String := (either (finding.get "category") (.str "UNKNOWN")).text services.library

def nodesKey (finding : Json) : String :=
  ",".intercalate (sorted ((itemsOf (finding.get "affected_nodes")).map (Json.toText services.library)))

def baseRule (finding : Json) (captureId : String) : BaseRule where
  title := "MarlinSpike — " ++ categoryOf services finding
  id :=
    let key := nodesKey services finding
    stableUuid services (categoryOf services finding) (if key = "" then captureId else key)
  status := "experimental"
  description :=
    let description := (finding.get "description").stripped services.library
    if description = "" then
      "Translation of MarlinSpike " ++ categoryOf services finding ++ " finding to a Zeek log-event detection."
    else description
  author := "MarlinSpike (ERISFORGE Ltd.)"
  date := services.nowIsoDate
  references := ["https://github.com/eris-ot/marlinspike"]
  tags := attackTags services finding ++ ["marlinspike." ++ services.library.lower (categoryOf services finding)]
  level := severityFor services finding

/-! ### `_BUILDERS` -/

/-- The affected nodes that are not empty. -/
def nodesOf (finding : Json) : List String :=
  ((itemsOf (finding.get "affected_nodes")).filter Json.truthy).map (Json.toText services.library)

/-- There is no rule without nodes. -/
def ruleCrossPurdue (finding : Json) (captureId : String) : Option Rule :=
  let nodes := nodesOf services finding
  if nodes = [] then none
  else some {
    toBaseRule := baseRule services finding captureId
    service := "conn"
    detection := ⟨[⟨"selection", [.oneOf "id.orig_h" nodes, .oneOf "id.resp_h" nodes]⟩], .search "selection", []⟩
    falsepositives := ["legitimate cross-zone supervisory polling"] }

def ruleIcsExternalComms (finding : Json) (captureId : String) : Rule where
  toBaseRule := baseRule services finding captureId
  service := "conn"
  detection :=
    ⟨[⟨"selection_ot", [.oneOf "id.orig_h" (nodesOf services finding)]⟩,
      ⟨"filter_private", [.startsWith "id.resp_h" privatePrefixes]⟩], .butNot "selection_ot" "filter_private", []⟩
  falsepositives := ["vendor call-home over the public internet (NTP, telemetry — verify and tag)"]

def ruleCleartextRemote (finding : Json) (captureId : String) : Rule where
  toBaseRule := baseRule services finding captureId
  service := "conn"
  detection :=
    ⟨[⟨"selection", [.oneOfPorts "id.resp_p" cleartextRemotePorts, .is "proto" "tcp",
      .isAny "service" ["telnet", "ftp", "vnc", "rsh"]]⟩], .search "selection", []⟩
  falsepositives := ["legitimate use on isolated maintenance VLANs"]

def ruleCleartextEng (finding : Json) (captureId : String) : Rule where
  toBaseRule := baseRule services finding captureId
  service := "conn"
  detection := ⟨[⟨"selection", [.oneOf "service" cleartextIcsProtocols]⟩], .search "selection", []⟩
  falsepositives :=
    ["expected ICS polling traffic — Sigma cannot distinguish authorised from anomalous " ++
      "without site-specific tagging (asset criticality, allowlisted poller IPs)"]

/-- The filter is there if there are nodes. -/
def ruleModbusWriteAnon (finding : Json) (captureId : String) : Rule where
  toBaseRule := baseRule services finding captureId
  service := "modbus"
  detection :=
    let nodes := nodesOf services finding
    let selection : Search := ⟨"selection", [.contains "func" ["WRITE", "FORCE"]]⟩
    if nodes = [] then ⟨[selection], .search "selection", []⟩
    else ⟨[selection], .butNot "selection" "filter_known", [⟨"filter_known", [.oneOf "id.orig_h" nodes]⟩]⟩
  falsepositives := ["operator HMI traffic from an allowlisted poller"]

/-- The nodes, or any. -/
def hostTest (field : String) (nodes : List String) : Test := if nodes = [] then .present field else .oneOf field nodes

def ruleC2Beaconing (finding : Json) (captureId : String) : Rule where
  toBaseRule := baseRule services finding captureId
  service := "conn"
  detection := ⟨[⟨"selection", [hostTest "id.resp_h" (nodesOf services finding)]⟩], .search "selection", []⟩
  fields := ["ts", "id.orig_h", "id.resp_h", "duration", "orig_bytes", "resp_bytes"]
  falsepositives :=
    ["periodic legitimate polling that resembles beaconing — verify against site's " ++ "expected polling cadence"]

def ruleMalwareIocMatch (finding : Json) (captureId : String) : Rule where
  toBaseRule := baseRule services finding captureId
  service := "conn"
  detection :=
    ⟨[⟨"selection_dst", [hostTest "id.resp_h" (nodesOf services finding)]⟩,
      ⟨"selection_src", [hostTest "id.orig_h" (nodesOf services finding)]⟩], .either "selection_dst" "selection_src", []⟩
  falsepositives := ["IOC overlap with legitimate traffic — verify against feed quality"]

/-- The builder of a category. -/
def build (category : String) (finding : Json) (captureId : String) : Option Rule :=
  match category with
  | "CROSS_PURDUE" => ruleCrossPurdue services finding captureId
  | "ICS_EXTERNAL_COMMS" => some (ruleIcsExternalComms services finding captureId)
  | "CLEARTEXT_REMOTE_ACCESS" => some (ruleCleartextRemote services finding captureId)
  | "CLEARTEXT_ENG" => some (ruleCleartextEng services finding captureId)
  | "MODBUS_WRITE_ANON" => some (ruleModbusWriteAnon services finding captureId)
  | "C2_BEACONING" => some (ruleC2Beaconing services finding captureId)
  | "MALWARE_IOC_MATCH" => some (ruleMalwareIocMatch services finding captureId)
  | _ => none

/-! ### `render_rules` -/

/-- The rule of a risk finding, if it has one. -/
def ruleOf (captureId : String) (finding : Json) : Option (String × Rule) :=
  let category := services.library.upper ((finding.get "category").text services.library)
  (build services category finding captureId).map fun rule =>
    (String.ofList ((services.library.lower category).toList.map fun c => if c = '_' then '-' else c), rule)

/-- The rule of a C2 indicator, as of a finding. -/
def ruleOfC2 (captureId : String) (indicator : Json) : String × Rule :=
  ("c2-beaconing", ruleC2Beaconing services
    (.obj [("category", .str "C2_BEACONING"), ("severity", either (indicator.get "severity") (.str "MEDIUM")),
      ("description", either (indicator.get "description") (.str "")),
      ("affected_nodes", .arr [either (indicator.get "dst") (indicator.get "dst_ip"),
        either (indicator.get "src") (indicator.get "src_ip")]),
      ("attack_ids", Json.ofTexts ["T1071"])]) captureId)

/-- The rule of a malware finding, as of a risk finding. -/
def ruleOfMalware (captureId : String) (finding : Json) : String × Rule :=
  ("malware-ioc-match", ruleMalwareIocMatch services
    (.obj [("category", .str "MALWARE_IOC_MATCH"),
      ("severity", .str (services.library.upper ((either (finding.get "severity") (.str "medium")).text services.library))),
      ("description", either (finding.get "summary") (.str "")),
      ("affected_nodes", .arr [finding.get "src_ip", finding.get "dst_ip"]), ("attack_ids", .arr [])]) captureId)

/-- A rule under its file name, unless there is one of the same id. -/
def addRule (rules : List (String × Rule)) (made : String × Rule) : List (String × Rule) :=
  if made.2.id ∈ rules.map (·.2.id) then rules
  else rules ++ [(made.1 ++ "-" ++ digits made.2.id.toList 0 8 ++ ".yml", made.2)]

/-- The rules that are made of a report, of findings whose fields have their types. -/
def madeRules (captureId : String) (report : Report) : List (String × Rule) :=
  (fieldItems report "risk_findings").filterMap (ruleOf services captureId) ++
    (fieldItems report "c2_indicators").map (ruleOfC2 services captureId) ++
    (fieldItems report "malware_findings").map (ruleOfMalware services captureId)

def renderRules (report : Report) (captureId : Option String) : List (String × Rule) :=
  (madeRules services (captureId.getD (Navigator.captureId services.library report)) report).foldl addRule []

end Rules

/-! ### Emitted rules -/

def ids (rules : List (String × Rule)) : List String := rules.map (·.2.id)

theorem mem_foldl_addRule {made rules : List (String × Rule)} {emitted : String × Rule}
    (member : emitted ∈ made.foldl addRule rules) : emitted.2 ∈ rules.map Prod.snd ∨ emitted.2 ∈ made.map Prod.snd := by
  induction made generalizing rules with
  | nil => exact .inl (List.mem_map_of_mem member)
  | cons first rest ih =>
    rcases ih member with before | later
    · unfold addRule at before
      split_ifs at before
      · exact .inl before
      · rw [List.map_append, List.mem_append, List.map_singleton, List.mem_singleton] at before
        rcases before with before | own
        · exact .inl before
        · exact .inr (own ▸ List.mem_cons_self)
    · exact .inr (List.mem_cons_of_mem _ later)

theorem ids_addRule (rules : List (String × Rule)) (made : String × Rule) :
    ids (addRule rules made) = if made.2.id ∈ ids rules then ids rules else ids rules ++ [made.2.id] := by
  unfold addRule ids
  split_ifs
  · rfl
  · rw [List.map_append, List.map_singleton]

/-- Of every id that is made a rule is emitted. -/
theorem mem_ids_foldl_addRule (made rules : List (String × Rule)) (id : String) :
    id ∈ ids (made.foldl addRule rules) ↔ id ∈ ids rules ∨ id ∈ ids made := by
  induction made generalizing rules with
  | nil => simp [ids]
  | cons first rest ih =>
    have head : ids (first :: rest) = first.2.id :: ids rest := rfl
    rw [List.foldl_cons, ih, ids_addRule, head, List.mem_cons]
    split_ifs with known
    · constructor
      · exact Or.imp_right .inr
      · rintro (before | rfl | later)
        · exact .inl before
        · exact .inl known
        · exact .inr later
    · rw [List.mem_append, List.mem_singleton, or_assoc]

theorem nodup_ids_foldl_addRule {made rules : List (String × Rule)} (nodup : (ids rules).Nodup) :
    (ids (made.foldl addRule rules)).Nodup := by
  induction made generalizing rules with
  | nil => exact nodup
  | cons first rest ih =>
    refine ih ?_
    rw [ids_addRule]
    split_ifs with known
    · exact nodup
    · refine List.nodup_append.mpr ⟨nodup, List.nodup_singleton _, ?_⟩
      rintro id before _ own rfl
      exact known (List.mem_singleton.mp own ▸ before)

section Emitted
variable {services : Services} {report : Report} {captureId : Option String}

/-- The rules that are emitted are among those that are made, each id once and every id. -/
theorem renderRules_spec :
    let made := madeRules services (captureId.getD (Navigator.captureId services.library report)) report
    (∀ emitted ∈ renderRules services report captureId, emitted.2 ∈ made.map Prod.snd) ∧
      (∀ id, id ∈ ids (renderRules services report captureId) ↔ id ∈ ids made) ∧
      (ids (renderRules services report captureId)).Nodup := by
  refine ⟨fun emitted member => ?_, fun id => ?_, nodup_ids_foldl_addRule List.nodup_nil⟩
  · exact (mem_foldl_addRule member).resolve_left List.not_mem_nil
  · refine (mem_ids_foldl_addRule _ _ id).trans ?_
    exact or_iff_right List.not_mem_nil

end Emitted

end Marlinspike.Emit.Sigma
