import Marlinspike.Emit.Navigator

/-!
STIX bundles of a report: an indicator for each risk finding, C2 indicator and malware
finding, an attack pattern and a sighting for each classification of the ATT&CK plugin. The
ids are made of what an object is about, so that the same finding has the same id in
every bundle (`ids_renderBundle`).
-/
namespace Marlinspike.Emit.Stix
open Marlinspike.Reports (Library)
open Marlinspike.Plugins (Report Numbers)
open Marlinspike.Plugins.Enrich (either)
open Marlinspike.Findings.Identity (sorted)
open Marlinspike.Emit.Navigator (fieldItems itemsOf captureReadable captureId percent)

structure Services where
  library : Library
  numbers : Numbers
  /-- `uuid.uuid5` of the namespace. -/
  uuid5 : String → String
  now : String
  /-- `datetime.fromisoformat`, written in UTC. -/
  fromIsoFormat : String → Option String
  /-- The version of an IP address. -/
  ipVersion : String → Option Nat
  isMac : String → Bool
  repr : String → String
  version : String

def severityToConfidence : List (String × Int) :=
  [("INFO", 20), ("LOW", 40), ("MEDIUM", 60), ("HIGH", 80), ("CRITICAL", 95), ("FATAL", 100)]

def categoryToLabels : List (String × List String) :=
  [("C2_BEACONING", ["malicious-activity", "anomalous-activity"]), ("MALWARE_IOC_MATCH", ["malicious-activity"]),
    ("EXTERNAL_IPS_OBSERVED", ["benign", "anomalous-activity"]),
    ("ICS_EXTERNAL_COMMS", ["malicious-activity", "anomalous-activity"]), ("CROSS_PURDUE", ["anomalous-activity"]),
    ("CLEARTEXT_ENG", ["anomalous-activity"]), ("MODBUS_WRITE_ANON", ["anomalous-activity"]),
    ("S7_PROGRAM_ACCESS", ["malicious-activity"]), ("CLEARTEXT_REMOTE_ACCESS", ["anomalous-activity"]),
    ("PORT_SCAN_TARGET", ["anomalous-activity"]), ("OPC_NO_SECURITY", ["anomalous-activity"]),
    ("NO_AUTH_OBSERVED", ["anomalous-activity"])]

section Objects
variable (services : Services)

/-- `str(v or "")`. -/
def textAt (v : Json) (key : String) : String := (v.get key).text services.library

/-- The first of two fields that is not empty. -/
def textOf (v : Json) (key other : String) : String :=
  (either (v.get key) (either (v.get other) (.str ""))).text services.library

/-- `iso.rstrip("Z")`. -/
def withoutZ (iso : String) : String := String.ofList (iso.toList.reverse.dropWhile (· = 'Z')).reverse

def normaliseIso (iso : String) : String :=
  if iso = "" then services.now
  else
    let bare := withoutZ iso
    let normalised := if bare ≠ iso then bare ++ "+00:00" else bare
    (services.fromIsoFormat normalised).getD services.now

def stableId (stixType key : String) : String := stixType ++ "--" ++ services.uuid5 (stixType ++ "|" ++ key)

def identityId : String := stableId services "identity" "marlinspike"

def identity : Json :=
  .obj [("type", .str "identity"), ("spec_version", .str "2.1"), ("id", .str (identityId services)),
    ("created", .str services.now), ("modified", .str services.now), ("name", .str "MarlinSpike"),
    ("identity_class", .str "system"), ("sectors", Json.ofTexts ["technology"]),
    ("description", .str ("MarlinSpike v" ++ services.version ++
      " — passive OT/ICS network analysis platform. Produced by ERISFORGE Ltd."))]

/-! ### Patterns -/

def nodePattern (node : String) : String :=
  match services.ipVersion node with
  | some version => (if version = 6 then "ipv6-addr" else "ipv4-addr") ++ ":value = '" ++ node ++ "'"
  | none => (if services.isMac node then "mac-addr" else "ipv4-addr") ++ ":value = '" ++ node ++ "'"

/-- `_indicator_pattern_for_finding`. -/
def indicatorPatternForFinding (finding : Json) : String :=
  let nodes := ((itemsOf (finding.get "affected_nodes")).filter Json.truthy).map fun n =>
    services.library.strip (n.toText services.library)
  if nodes = [] then
    let category := either (finding.get "category") (.str "UNKNOWN")
    "[artifact:hashes.'SHA-256' = '" ++ services.library.lower (category.text services.library) ++ "']"
  else "[" ++ " OR ".intercalate ((nodes.take 32).map (nodePattern services)) ++ "]"

def indicatorPatternForC2 (indicator : Json) : String :=
  let src := textOf services indicator "src" "src_ip"
  let dst := textOf services indicator "dst" "dst_ip"
  let port := textAt services indicator "port"
  let parts := (if src = "" then [] else ["network-traffic:src_ref.value = '" ++ src ++ "'"]) ++
    (if dst = "" then [] else ["network-traffic:dst_ref.value = '" ++ dst ++ "'"]) ++
    if port = "" then [] else ["network-traffic:dst_port = " ++ port]
  if parts = [] then "[network-traffic:protocols[*] = 'tcp']" else "[" ++ " AND ".intercalate parts ++ "]"

def indicatorPatternForMalware (finding : Json) : String :=
  let field := services.library.lower (textAt services finding "observable_field")
  let value := textAt services finding "observable_value"
  if value = "" then
    let findingId := either (finding.get "finding_id") (.str "unknown")
    "[artifact:hashes.'SHA-256' = '" ++ findingId.text services.library ++ "']"
  else
    let object :=
      if field ∈ ["src_ip", "dst_ip", "ip"] then "ipv4-addr:value"
      else if field = "domain" then "domain-name:value"
      else if field ∈ ["src_mac", "dst_mac", "mac"] then "mac-addr:value"
      else if field = "sha256" then "file:hashes.'SHA-256'"
      else if field = "md5" then "file:hashes.MD5"
      else "artifact:payload_bin"
    "[" ++ object ++ " = '" ++ value ++ "']"

/-- `_confidence_for`. -/
def confidenceFor (finding : Json) : Int :=
  match severityToConfidence.lookup (services.library.upper (textAt services finding "severity")) with
  | some confidence => confidence
  | none => ((finding.get "confidence").toRat services.numbers).elim 50 fun confidence =>
      max 0 (min 100 (percent services.numbers confidence))

/-! ### Builders -/

/-- The fields that all objects begin with. -/
def header (stixType id created : String) : List (String × Json) :=
  [("type", .str stixType), ("spec_version", .str "2.1"), ("id", .str id),
    ("created_by_ref", .str (identityId services)), ("created", .str created), ("modified", .str created)]

def categoryOf (finding : Json) : String := (either (finding.get "category") (.str "UNKNOWN")).text services.library

def riskKey (finding : Json) : String :=
  "risk:" ++ categoryOf services finding ++ ":" ++
    ",".intercalate (sorted ((itemsOf (finding.get "affected_nodes")).map (Json.toText services.library)))

def techniqueUrl (tid : String) : String :=
  "https://attack.mitre.org/techniques/" ++ String.ofList (tid.toList.map fun c => if c = '.' then '/' else c)

def mitreReference (tid url : String) : Json :=
  .obj [("source_name", .str "mitre-attack"), ("external_id", .str tid), ("url", .str url)]

/-- `_risk_finding_indicator`. -/
def riskFindingIndicator (validFrom : String) (finding : Json) : Json :=
  let category := categoryOf services finding
  let attackIds := (itemsOf (finding.get "attack_ids")).map (Json.text services.library)
  .obj (header services "indicator" (stableId services "indicator" (riskKey services finding)) validFrom ++
    [("name", .str category), ("description", .str (textAt services finding "description")),
      ("indicator_types", Json.ofTexts ((categoryToLabels.lookup category).getD ["anomalous-activity"])),
      ("pattern", .str (indicatorPatternForFinding services finding)), ("pattern_type", .str "stix"),
      ("valid_from", .str validFrom), ("confidence", .int (confidenceFor services finding)),
      ("labels", Json.ofTexts [services.library.lower category]),
      ("external_references", .arr (attackIds.map fun tid => mitreReference tid (techniqueUrl tid)))])

def c2Key (indicator : Json) : String :=
  "c2:" ++ (either (indicator.get "type") (.str "C2_INDICATOR")).text services.library ++ ":" ++
    textOf services indicator "src" "src_ip" ++ ":" ++ textOf services indicator "dst" "dst_ip" ++ ":" ++
    textAt services indicator "port"

/-- `_c2_indicator_object`. -/
def c2IndicatorObject (validFrom : String) (indicator : Json) : Json :=
  let indicatorType := (either (indicator.get "type") (.str "C2_INDICATOR")).text services.library
  .obj (header services "indicator" (stableId services "indicator" (c2Key services indicator)) validFrom ++
    [("name", .str indicatorType), ("description", .str (textAt services indicator "description")),
      ("indicator_types", Json.ofTexts ["malicious-activity", "anomalous-activity"]),
      ("pattern", .str (indicatorPatternForC2 services indicator)), ("pattern_type", .str "stix"),
      ("valid_from", .str validFrom), ("confidence", .int (confidenceFor services indicator)),
      ("labels", Json.ofTexts [services.library.lower indicatorType, "c2"])])

def malwareKey (finding : Json) : String :=
  "malware:" ++ (either (finding.get "finding_id") (.str "unknown")).text services.library

/-- `_malware_finding_indicator`; a time is never empty, so `valid_from` is not taken. -/
def malwareFindingIndicator (finding : Json) : Json :=
  let seen := normaliseIso services (textAt services finding "timestamp")
  let name := either (finding.get "rule_name") (either (finding.get "rule_id") (.str "Malware Finding"))
  let family := either (finding.get "family") (.str "malware")
  .obj (header services "indicator" (stableId services "indicator" (malwareKey services finding)) seen ++
    [("name", .str (name.text services.library)), ("description", .str (textAt services finding "summary")),
      ("indicator_types", Json.ofTexts ["malicious-activity"]),
      ("pattern", .str (indicatorPatternForMalware services finding)), ("pattern_type", .str "stix"),
      ("valid_from", .str seen), ("confidence", .int (confidenceFor services finding)),
      ("labels", Json.ofTexts [services.library.lower (family.text services.library), "malware-finding"]),
      ("external_references", .arr ((itemsOf (finding.get "references")).map fun ref =>
        .obj [("source_name", .str "url"), ("url", ref)]))])

def attackPatternId (classification : Json) : String :=
  stableId services "attack-pattern" ("mitre:" ++ textAt services classification "technique_id")

/-- `_attack_pattern_object`. -/
def attackPatternObject (validFrom : String) (classification : Json) : Json :=
  let techniqueId := textAt services classification "technique_id"
  let url := either (classification.get "technique_url") (.str (techniqueUrl techniqueId))
  let domain := either (classification.get "domain") (.str "enterprise-attack")
  .obj (header services "attack-pattern" (attackPatternId services classification) validFrom ++
    [("name", either (classification.get "attack_name") (.str techniqueId)),
      ("description", .str (textOf services classification "description" "rationale")),
      ("external_references", .arr [mitreReference techniqueId (url.text services.library)]),
      ("kill_chain_phases", .arr ((itemsOf (classification.get "tactics")).map fun t =>
        .obj [("kill_chain_name", domain),
          ("phase_name", .str (services.library.lower (textOf services t "shortname" "name")))]))])

def sightingId (captureId : String) (classification : Json) : String :=
  stableId services "sighting" ("sighting:" ++ textAt services classification "technique_id" ++ ":" ++ captureId)

/-- `_sighting_object`. -/
def sightingObject (captureId validFrom : String) (classification : Json) : Json :=
  let affected := itemsOf (classification.get "affected_nodes")
  let basis := match classification.get "basis" with
    | .null => "inferred"
    | basis => basis.toText services.library
  let confidence := ((classification.get "confidence").toRat services.numbers).getD 0
  .obj (header services "sighting" (sightingId services captureId classification) validFrom ++
    [("first_seen", .str validFrom), ("last_seen", .str validFrom), ("count", .int (max 1 affected.length)),
      ("sighting_of_ref", .str (attackPatternId services classification)),
      ("where_sighted_refs", Json.ofTexts [identityId services]),
      ("description", .str ("Technique sighted in capture " ++ services.repr captureId ++ "; basis=" ++ basis ++
        "; confidence=" ++ services.numbers.fixed 2 confidence ++ "; " ++ toString affected.length ++
        " affected asset(s)."))])

end Objects

/-! ### Pruning -/

/-- A value that is left out of an object. -/
def vacant : Json → Bool
  | .null | .arr [] | .obj [] => true
  | _ => false

mutual
/-- `_prune_object`. -/
def pruneObject : Json → Json
  | .obj items => .obj (pruneFields items)
  | .arr items => .arr (pruneItems items)
  | other => other

def pruneFields : List (String × Json) → List (String × Json)
  | [] => []
  | (key, v) :: rest =>
    let pruned := pruneObject v
    if vacant pruned then pruneFields rest else (key, pruned) :: pruneFields rest

def pruneItems : List Json → List Json
  | [] => []
  | v :: rest =>
    match v with
    | .null => pruneItems rest
    | v => pruneObject v :: pruneItems rest
end

/-! ### Bundles -/

structure Bundle where
  id : String
  objects : List Json

/-- A text, or what stands for none; the methods of a text raise on anything else. -/
def isText : Json → Bool
  | .str _ => true
  | v => !v.truthy

/-- Whether an entry's fields can be read. -/
def riskReadable (finding : Json) : Bool :=
  finding.isObj && isText (finding.get "category") && isText (finding.get "severity") &&
    (finding.get "affected_nodes").iterate.isSome && (finding.get "attack_ids").iterate.any (·.all isText)

def c2Readable (indicator : Json) : Bool :=
  indicator.isObj && isText (indicator.get "type") && isText (indicator.get "severity")

def malwareReadable (finding : Json) : Bool :=
  finding.isObj && isText (finding.get "observable_field") && isText (finding.get "timestamp") &&
    isText (finding.get "severity") && isText (finding.get "family") && (finding.get "references").iterate.isSome

def field (report : Report) (key : String) : Json := (report.get key).getD .null

def timestamp (report : Report) : Json := either (field report "timestamp_end") (field report "timestamp_start")

/-- Whether rendering does not raise, of a report whose classifications are the plugin's. -/
def readable (report : Report) : Bool :=
  captureReadable report && isText (timestamp report) &&
    (field report "risk_findings").iterate.any (·.all riskReadable) &&
    (field report "c2_indicators").iterate.any (·.all c2Readable) &&
    (field report "malware_findings").iterate.any (·.all malwareReadable)

section Bundles
variable (services : Services)

def validFrom (report : Report) : String := normaliseIso services ((timestamp report).text services.library)

/-- `render_bundle`. -/
def renderBundle (report : Report) : Bundle :=
  let captureId := captureId services.library report
  let validFrom := validFrom services report
  let objects := [identity services] ++
    (fieldItems report "risk_findings").map (riskFindingIndicator services validFrom) ++
    (fieldItems report "c2_indicators").map (c2IndicatorObject services validFrom) ++
    (fieldItems report "malware_findings").map (malwareFindingIndicator services) ++
    (fieldItems report "mitre_classifications").flatMap fun classification =>
      [attackPatternObject services validFrom classification,
        sightingObject services captureId validFrom classification]
  ⟨stableId services "bundle" (captureId ++ ":" ++ validFrom), objects.map pruneObject⟩

/-! ### Ids -/

/-- `obj.get("id")`, if it is a text. -/
def idOf (object : Json) : Option String :=
  match object.get "id" with
  | .str id => some id
  | _ => none

def Bundle.ids (bundle : Bundle) : List String := bundle.objects.filterMap idOf

theorem lookup_pruneFields {items : List (String × Json)} {key : String} {v : Json} (present : items.lookup key = some v)
    (kept : vacant (pruneObject v) = false) : (pruneFields items).lookup key = some (pruneObject v) := by
  induction items with
  | nil => cases present
  | cons item rest ih =>
    obtain ⟨other, w⟩ := item
    rw [List.lookup_cons] at present
    rw [pruneFields]
    by_cases own : key = other
    · rw [show (key == other) = true by simpa using own] at present
      obtain rfl := Option.some.inj present
      simp [kept, own]
    · have apart : (key == other) = false := by simpa using own
      rw [apart] at present
      split_ifs
      · exact ih present
      · rw [List.lookup_cons, apart]
        exact ih present

theorem lookup_pruneFields_none {items : List (String × Json)} {key : String} (absent : items.lookup key = none) :
    (pruneFields items).lookup key = none := by
  induction items with
  | nil => rfl
  | cons item rest ih =>
    obtain ⟨other, w⟩ := item
    rw [List.lookup_cons] at absent
    rw [pruneFields]
    by_cases own : key = other
    · rw [show (key == other) = true by simpa using own] at absent
      cases absent
    · have apart : (key == other) = false := by simpa using own
      rw [apart] at absent
      split_ifs
      · exact ih absent
      · rw [List.lookup_cons, apart]
        exact ih absent

theorem get_pruneObject {items : List (String × Json)} {key : String} {v : Json} (present : items.lookup key = some v)
    (kept : vacant (pruneObject v) = false) : (pruneObject (.obj items)).get key = pruneObject v := by
  simp [pruneObject, Json.get, lookup_pruneFields present kept]

theorem get_pruneObject_none {items : List (String × Json)} {key : String} (absent : items.lookup key = none) :
    (pruneObject (.obj items)).get key = .null := by
  simp [pruneObject, Json.get, lookup_pruneFields_none absent]

/-- Pruning leaves an object its id. -/
theorem idOf_pruneObject {items : List (String × Json)} {id : String} (present : items.lookup "id" = some (.str id)) :
    idOf (pruneObject (.obj items)) = some id := by
  rw [idOf, get_pruneObject present rfl]
  rfl

/-- The ids of what a report has found itself. -/
def findingIds (report : Report) : List String :=
  (fieldItems report "risk_findings").map (fun finding => stableId services "indicator" (riskKey services finding)) ++
    (fieldItems report "c2_indicators").map (fun indicator =>
      stableId services "indicator" (c2Key services indicator)) ++
    (fieldItems report "malware_findings").map fun finding =>
      stableId services "indicator" (malwareKey services finding)

/-- The ids of what the ATT&CK plugin has classified. -/
def classificationIds (report : Report) : List String :=
  (fieldItems report "mitre_classifications").flatMap fun classification =>
    [attackPatternId services classification, sightingId services (captureId services.library report) classification]

theorem idOf_header (stixType id created : String) (more : List (String × Json)) :
    idOf (pruneObject (.obj (header services stixType id created ++ more))) = some id := idOf_pruneObject rfl

theorem ids_map {build : Json → Json} {idOf' : Json → String}
    (built : ∀ v, idOf (pruneObject (build v)) = some (idOf' v)) (items : List Json) :
    ((items.map build).map pruneObject).filterMap idOf = items.map idOf' := by
  rw [List.map_map, List.filterMap_map, ← List.filterMap_eq_map]
  exact List.filterMap_congr fun v _ => built v

theorem ids_classified (captureId validFrom : String) (classifications : List Json) :
    ((classifications.flatMap fun classification => [attackPatternObject services validFrom classification,
      sightingObject services captureId validFrom classification]).map pruneObject).filterMap idOf =
        classifications.flatMap fun classification =>
          [attackPatternId services classification, sightingId services captureId classification] := by
  induction classifications with
  | nil => rfl
  | cons classification rest ih =>
    rw [List.flatMap_cons, List.map_append, List.filterMap_append, ih, List.flatMap_cons]
    simp [attackPatternObject, sightingObject, idOf_header]

theorem ids_renderBundle (report : Report) :
    (renderBundle services report).ids = identityId services :: findingIds services report ++
      classificationIds services report := by
  have identity_ : idOf (pruneObject (identity services)) = some (identityId services) := idOf_pruneObject rfl
  have risk (v : Json) : idOf (pruneObject (riskFindingIndicator services (validFrom services report) v)) =
      some (stableId services "indicator" (riskKey services v)) := idOf_header services ..
  have c2 (v : Json) : idOf (pruneObject (c2IndicatorObject services (validFrom services report) v)) =
      some (stableId services "indicator" (c2Key services v)) := idOf_header services ..
  have malware (v : Json) : idOf (pruneObject (malwareFindingIndicator services v)) =
      some (stableId services "indicator" (malwareKey services v)) := idOf_header services ..
  unfold renderBundle Bundle.ids
  simp only [List.map_append, List.filterMap_append, ids_classified, ids_map risk, ids_map c2, ids_map malware]
  simp [identity_, findingIds, classificationIds]

/-! ### Kinds of objects -/

theorem head_stableId {stixType : String} {c : Char} {rest : List Char} (first : stixType.toList = c :: rest)
    (key : String) : (stableId services stixType key).toList.head? = some c := by
  rw [stableId, String.toList_append, String.toList_append, first]
  rfl

/-- An attack pattern is no identity and no indicator. -/
theorem attackPatternId_not_mem (report : Report) (classification : Json) :
    attackPatternId services classification ∉ identityId services :: findingIds services report := by
  have ownHead (key : String) : (stableId services "attack-pattern" key).toList.head? = some 'a' :=
    head_stableId services rfl key
  have identityHead (key : String) : (stableId services "identity" key).toList.head? = some 'i' :=
    head_stableId services rfl key
  have indicatorHead (key : String) : (stableId services "indicator" key).toList.head? = some 'i' :=
    head_stableId services rfl key
  intro member
  have head : (attackPatternId services classification).toList.head? = some 'i' := by
    simp only [findingIds, List.mem_cons, List.mem_append, List.mem_map] at member
    rcases member with same | (⟨finding, -, same⟩ | ⟨indicator, -, same⟩) | ⟨finding, -, same⟩
    · rw [same]
      exact identityHead _
    · rw [← same]
      exact indicatorHead _
    · rw [← same]
      exact indicatorHead _
    · rw [← same]
      exact indicatorHead _
  rw [attackPatternId, ownHead] at head
  cases head

end Bundles

end Marlinspike.Emit.Stix
