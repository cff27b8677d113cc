import Marlinspike.Patterns
import Marlinspike.Emit.Stix
import Marlinspike.Plugins.Enrich

/-!
What a STIX bundle says of a report. There is one indicator for each finding, in the order of
the report; every reference is to an object of the bundle, and objects share an id only if
they are of one type and about the same. The pattern of an indicator compares with the nodes
of its finding, the first 32 of them (`bundle_sound`).
-/
namespace Marlinspike.Emit.StixBundles
open Marlinspike.Patterns (Comparison Literal Operator isPath isPathChar)
open Marlinspike.Plugins (Report)
open Marlinspike.Emit.Navigator (fieldItems itemsOf captureId)
open Marlinspike.Emit.Stix

/-- What a bundle has an indicator of. -/
inductive Entry where
  | risk (finding : Json)
  | c2 (indicator : Json)
  | malware (finding : Json)

def entries (report : Report) : List Entry :=
  (fieldItems report "risk_findings").map .risk ++ (fieldItems report "c2_indicators").map .c2 ++
    (fieldItems report "malware_findings").map .malware

section Patterns
variable (services : Services)

/-! ### What patterns compare -/

def comparesText (path text : String) : Comparison := ⟨path.toList, .text text.toList⟩

/-- The nodes that a finding affects. -/
def nodesOf (finding : Json) : List String :=
  ((itemsOf (finding.get "affected_nodes")).filter Json.truthy).map fun n =>
    services.library.strip (n.toText services.library)

def objectType (node : String) : String :=
  match services.ipVersion node with
  | some version => if version = 6 then "ipv6-addr" else "ipv4-addr"
  | none => if services.isMac node then "mac-addr" else "ipv4-addr"

/-- The first nodes of a finding. -/
def findingComparisons (finding : Json) : List Comparison :=
  ((nodesOf services finding).take 32).map fun node => comparesText (objectType services node ++ ":value") node

/-- The ends and the port that an indicator has. -/
def c2Parts (indicator : Json) : List Comparison :=
  let src := textOf services indicator "src" "src_ip"
  let dst := textOf services indicator "dst" "dst_ip"
  let port := textAt services indicator "port"
  (if src = "" then [] else [comparesText "network-traffic:src_ref.value" src]) ++
    (if dst = "" then [] else [comparesText "network-traffic:dst_ref.value" dst]) ++
    if port = "" then [] else [⟨"network-traffic:dst_port".toList, .integer port.toList⟩]

def c2Comparisons (indicator : Json) : List Comparison :=
  if c2Parts services indicator = [] then [comparesText "network-traffic:protocols[*]" "tcp"]
  else c2Parts services indicator

def observablePath (field : String) : String :=
  if field ∈ ["src_ip", "dst_ip", "ip"] then "ipv4-addr:value"
  else if field = "domain" then "domain-name:value"
  else if field ∈ ["src_mac", "dst_mac", "mac"] then "mac-addr:value"
  else if field = "sha256" then "file:hashes.'SHA-256'"
  else if field = "md5" then "file:hashes.MD5"
  else "artifact:payload_bin"

/-- What was observed of malware. -/
def malwareComparison (finding : Json) : Comparison :=
  comparesText (observablePath (services.library.lower (textAt services finding "observable_field")))
    (textAt services finding "observable_value")

namespace Entry

/-- The text that the id of the indicator is made of. -/
def key : Entry → String
  | .risk finding => riskKey services finding
  | .c2 indicator => c2Key services indicator
  | .malware finding => malwareKey services finding

def pattern : Entry → String
  | .risk finding => indicatorPatternForFinding services finding
  | .c2 indicator => indicatorPatternForC2 services indicator
  | .malware finding => indicatorPatternForMalware services finding

def operator : Entry → Operator
  | .risk _ => .or
  | .c2 _ | .malware _ => .and

def comparisons : Entry → List Comparison
  | .risk finding => findingComparisons services finding
  | .c2 indicator => c2Comparisons services indicator
  | .malware finding => [malwareComparison services finding]

/-- The entry names something that can be observed. -/
def Observable : Entry → Prop
  | .risk finding => nodesOf services finding ≠ []
  | .c2 _ => True
  | .malware finding => textAt services finding "observable_value" ≠ ""

/-- No text of the entry has a quote or backslash, and its port is a number. -/
def Plain (entry : Entry) : Prop := ∀ comparison ∈ entry.comparisons services, comparison.value.Plain

end Entry

theorem nodePattern_toList (node : String) :
    (nodePattern services node).toList = (comparesText (objectType services node ++ ":value") node).write := by
  rw [nodePattern, objectType]
  cases services.ipVersion node <;> simp [comparesText, Comparison.write, Literal.write]

theorem finding_toList {finding : Json} (some_ : nodesOf services finding ≠ []) :
    (indicatorPatternForFinding services finding).toList = Patterns.write .or (findingComparisons services finding) := by
  have pattern_ : indicatorPatternForFinding services finding =
      if nodesOf services finding = [] then
        "[artifact:hashes.'SHA-256' = '" ++ services.library.lower
          ((Plugins.Enrich.either (finding.get "category") (.str "UNKNOWN")).text services.library) ++ "']"
      else "[" ++ " OR ".intercalate (((nodesOf services finding).take 32).map (nodePattern services)) ++ "]" := rfl
  have written : ((nodesOf services finding).take 32).map (String.toList ∘ nodePattern services) =
      (findingComparisons services finding).map Comparison.write := by
    rw [findingComparisons, List.map_map]
    exact List.map_congr_left fun node _ => nodePattern_toList services node
  rw [pattern_, if_neg some_, String.toList_append, String.toList_append, String.toList_intercalate, List.map_map,
    written]
  rfl

/-- The pattern of an indicator is what is written of its comparisons. -/
theorem pattern_toList {entry : Entry} (observable : entry.Observable services) :
    (entry.pattern services).toList = Patterns.write entry.operator (entry.comparisons services) := by
  cases entry with
  | risk finding => exact finding_toList services observable
  | c2 indicator =>
    simp only [Entry.pattern, Entry.operator, Entry.comparisons, indicatorPatternForC2, c2Comparisons, c2Parts]
    split_ifs <;> simp_all [comparesText, Patterns.write, Comparison.write, Literal.write, Operator.write]
  | malware finding =>
    have some_ : textAt services finding "observable_value" ≠ "" := observable
    simp only [Entry.pattern, Entry.operator, Entry.comparisons, indicatorPatternForMalware, malwareComparison, some_,
      if_false]
    simp [comparesText, observablePath, Patterns.write, Comparison.write, Literal.write]

/-! ### Reading them back -/

/-- An object path, as a text. -/
def IsObjectPath (path : String) : Prop := isPath path.toList = true ∧ path.toList.all isPathChar = true

instance (path : String) : Decidable (IsObjectPath path) := inferInstanceAs (Decidable (_ ∧ _))

theorem plain_comparesText {path text : String} (object : IsObjectPath path)
    (plain : (comparesText path text).value.Plain) : (comparesText path text).Plain :=
  ⟨object.1, List.all_eq_true.mp object.2, plain⟩

theorem isObjectPath_node (node : String) : IsObjectPath (objectType services node ++ ":value") := by
  rw [objectType]
  split <;> split_ifs <;> decide

theorem isObjectPath_observable (field : String) : IsObjectPath (observablePath field) := by
  rw [observablePath]
  split_ifs <;> decide

theorem plain_of_entry {entry : Entry} (plain : entry.Plain services) :
    ∀ comparison ∈ entry.comparisons services, comparison.Plain := by
  intro comparison member
  have value := plain comparison member
  cases entry with
  | risk finding =>
    obtain ⟨node, -, rfl⟩ := List.mem_map.mp member
    exact plain_comparesText (isObjectPath_node services node) value
  | c2 indicator =>
    simp only [Entry.comparisons, c2Comparisons] at member
    split_ifs at member with none_
    · obtain rfl := List.mem_singleton.mp member
      exact plain_comparesText (by decide) value
    · simp only [c2Parts, List.mem_append, List.mem_ite_nil_left, List.mem_singleton] at member
      rcases member with (⟨-, rfl⟩ | ⟨-, rfl⟩) | ⟨-, rfl⟩
      · exact plain_comparesText (by decide) value
      · exact plain_comparesText (by decide) value
      · have port : IsObjectPath "network-traffic:dst_port" := by decide
        exact ⟨port.1, List.all_eq_true.mp port.2, value⟩
  | malware finding =>
    obtain rfl := List.mem_singleton.mp member
    exact plain_comparesText (isObjectPath_observable _) value

theorem comparisons_ne_nil {entry : Entry} (observable : entry.Observable services) :
    entry.comparisons services ≠ [] := by
  cases entry with
  | risk finding =>
    have some_ : nodesOf services finding ≠ [] := observable
    simpa [Entry.comparisons, findingComparisons] using some_
  | c2 indicator =>
    simp only [Entry.comparisons, c2Comparisons]
    split_ifs with none_
    · exact List.cons_ne_nil _ _
    · exact none_
  | malware finding => exact List.cons_ne_nil _ _

theorem read_pattern {entry : Entry} (observable : entry.Observable services) (plain : entry.Plain services) :
    Patterns.read (entry.pattern services).toList = some (entry.operator.join (entry.comparisons services)) := by
  rw [pattern_toList services observable]
  exact Patterns.read_write _ (comparisons_ne_nil services observable) (plain_of_entry services plain)

end Patterns

/-! ### Objects of a bundle -/

section Bundles
variable (services : Services) (report : Report)

/-- The type of each object of a bundle and the text that its id is made of. -/
def names : List (String × String) :=
  ("identity", "marlinspike") :: (entries report).map (fun entry => ("indicator", entry.key services)) ++
    (fieldItems report "mitre_classifications").flatMap fun classification =>
      let techniqueId := textAt services classification "technique_id"
      [("attack-pattern", "mitre:" ++ techniqueId),
        ("sighting", "sighting:" ++ techniqueId ++ ":" ++ captureId services.library report)]

/-- `uuid5` tells the names of the bundle apart. -/
def Uncolliding : Prop :=
  Set.InjOn services.uuid5 {text | ∃ name ∈ names services report, text = name.1 ++ "|" ++ name.2}

variable {services report} in
theorem name_type {name : String × String} (member : name ∈ names services report) :
    name.1 ∈ ["identity", "indicator", "attack-pattern", "sighting"] := by
  simp only [names, List.mem_append, List.mem_cons, List.mem_map, List.mem_flatMap, List.not_mem_nil, or_false] at member
  rcases member with (rfl | ⟨_, -, rfl⟩) | ⟨_, -, rfl | rfl⟩ <;> simp

/-- The ids of objects of different types differ. -/
theorem types_eq {stixType other : String} (member : stixType ∈ ["identity", "indicator", "attack-pattern", "sighting"])
    (member' : other ∈ ["identity", "indicator", "attack-pattern", "sighting"]) {key key' : String}
    (same : stableId services stixType key = stableId services other key') : stixType = other := by
  simp only [List.mem_cons, List.not_mem_nil, or_false] at member member'
  rcases member with rfl | rfl | rfl | rfl <;> rcases member' with rfl | rfl | rfl | rfl <;>
    first | rfl | simp [stableId, String.ext_iff] at same

variable {services report} in
/-- Objects share an id only if they are of one type and about the same. -/
theorem stableId_injOn (uncolliding : Uncolliding services report) {name other : String × String}
    (member : name ∈ names services report) (member' : other ∈ names services report)
    (same : stableId services name.1 name.2 = stableId services other.1 other.2) : name = other := by
  obtain ⟨stixType, key⟩ := name
  obtain ⟨stixType', key'⟩ := other
  obtain rfl : stixType = stixType' := types_eq services (name_type member) (name_type member') same
  have uuids : services.uuid5 (stixType ++ "|" ++ key) = services.uuid5 (stixType ++ "|" ++ key') :=
    String.toList_injective (by simpa [stableId, String.ext_iff] using same)
  have texts := uncolliding ⟨_, member, rfl⟩ ⟨_, member', rfl⟩ uuids
  exact congrArg _ (String.toList_injective (by simpa [String.ext_iff] using texts))

/-! ### References -/

/-- The objects that an object names. -/
def refsOf (object : Json) : List String :=
  (object.get "created_by_ref").asStr.toList ++ (object.get "sighting_of_ref").asStr.toList ++
    (itemsOf (object.get "where_sighted_refs")).filterMap Json.asStr

theorem refsOf_created {items : List (String × Json)} {created : String}
    (by_ : items.lookup "created_by_ref" = some (.str created)) (sighting : items.lookup "sighting_of_ref" = none)
    (where_ : items.lookup "where_sighted_refs" = none) : refsOf (pruneObject (.obj items)) = [created] := by
  rw [refsOf, get_pruneObject by_ rfl, get_pruneObject_none sighting, get_pruneObject_none where_]
  rfl

theorem refsOf_identity : refsOf (pruneObject (identity services)) = [] := by
  rw [identity, refsOf, get_pruneObject_none rfl, get_pruneObject_none rfl, get_pruneObject_none rfl]
  rfl

theorem refsOf_sighting (captureId validFrom : String) (classification : Json) :
    refsOf (pruneObject (sightingObject services captureId validFrom classification)) =
      [identityId services, attackPatternId services classification, identityId services] := by
  rw [sightingObject, refsOf, get_pruneObject (v := .str (identityId services)) rfl rfl,
    get_pruneObject (v := .str (attackPatternId services classification)) rfl rfl,
    get_pruneObject (v := Json.ofTexts [identityId services]) rfl rfl]
  rfl

/-- Every reference is to an object of the bundle. -/
theorem refs_resolve : ∀ object ∈ (renderBundle services report).objects, ∀ ref ∈ refsOf object,
    ref ∈ (renderBundle services report).ids := by
  have identified : identityId services ∈ (renderBundle services report).ids := by
    rw [ids_renderBundle]
    exact List.mem_append_left _ List.mem_cons_self
  have created {items : List (String × Json)} (by_ : items.lookup "created_by_ref" = some (.str (identityId services)))
      (sighting : items.lookup "sighting_of_ref" = none) (where_ : items.lookup "where_sighted_refs" = none) :
      ∀ ref ∈ refsOf (pruneObject (.obj items)), ref ∈ (renderBundle services report).ids := by
    rw [refsOf_created by_ sighting where_]
    rintro ref member
    rwa [List.mem_singleton.mp member]
  intro object member
  simp only [renderBundle] at member
  obtain ⟨built, kind, rfl⟩ := List.mem_map.mp member
  simp only [List.mem_append, List.mem_map, List.mem_flatMap, List.mem_cons, List.not_mem_nil, or_false] at kind
  rcases kind with
    (((rfl | ⟨finding, -, rfl⟩) | ⟨indicator, -, rfl⟩) | ⟨finding, -, rfl⟩) | ⟨classification, inside, rfl | rfl⟩
  · simp [refsOf_identity]
  · exact created rfl rfl rfl
  · exact created rfl rfl rfl
  · exact created rfl rfl rfl
  · exact created rfl rfl rfl
  · have described : attackPatternId services classification ∈ (renderBundle services report).ids := by
      rw [ids_renderBundle]
      exact List.mem_append_right _ (List.mem_flatMap.mpr ⟨classification, inside, List.mem_cons_self⟩)
    rw [refsOf_sighting]
    simp only [List.mem_cons, List.not_mem_nil, or_false]
    rintro ref (rfl | rfl | rfl)
    · exact identified
    · exact described
    · exact identified

/-! ### Indicators -/

def isIndicator (object : Json) : Bool := (object.get "type").asStr = some "indicator"

/-- The id and the pattern of an entry's indicator. -/
structure Indicates (entry : Entry) (object : Json) : Prop where
  id : idOf object = some (stableId services "indicator" (entry.key services))
  pattern : entry.Observable services → object.get "pattern" = .str (entry.pattern services)

def Entry.object (validFrom : String) : Entry → Json
  | .risk finding => riskFindingIndicator services validFrom finding
  | .c2 indicator => c2IndicatorObject services validFrom indicator
  | .malware finding => malwareFindingIndicator services finding

theorem indicates_object (validFrom : String) (entry : Entry) :
    Indicates services entry (pruneObject (entry.object services validFrom)) := by
  cases entry with
  | risk finding => exact ⟨idOf_pruneObject rfl, fun _ => get_pruneObject (v := .str _) rfl rfl⟩
  | c2 indicator => exact ⟨idOf_pruneObject rfl, fun _ => get_pruneObject (v := .str _) rfl rfl⟩
  | malware finding => exact ⟨idOf_pruneObject rfl, fun _ => get_pruneObject (v := .str _) rfl rfl⟩

theorem isIndicator_pruned {items : List (String × Json)} (stixType : String)
    (type : items.lookup "type" = some (.str stixType)) :
    isIndicator (pruneObject (.obj items)) = decide (stixType = "indicator") := by
  rw [isIndicator, get_pruneObject type rfl]
  simp [pruneObject, Json.asStr]

theorem isIndicator_object (validFrom : String) (entry : Entry) :
    isIndicator (pruneObject (entry.object services validFrom)) = true := by
  cases entry with
  | risk finding => exact isIndicator_pruned "indicator" rfl
  | c2 indicator => exact isIndicator_pruned "indicator" rfl
  | malware finding => exact isIndicator_pruned "indicator" rfl

/-- The objects of a classification. -/
def classified (classification : Json) : List Json :=
  [pruneObject (attackPatternObject services (validFrom services report) classification),
    pruneObject (sightingObject services (captureId services.library report) (validFrom services report) classification)]

theorem objects_eq : (renderBundle services report).objects = pruneObject (identity services) ::
    ((entries report).map fun entry => pruneObject (entry.object services (validFrom services report))) ++
      (fieldItems report "mitre_classifications").flatMap (classified services report) := by
  simp [renderBundle, entries, Entry.object, Function.comp_def, List.map_flatMap]
  rfl

/-- The ids of the objects are made of their names. -/
theorem idOf_objects : (renderBundle services report).objects.map idOf =
    (names services report).map fun name => some (stableId services name.1 name.2) := by
  have identity_ : idOf (pruneObject (identity services)) = some (identityId services) := idOf_pruneObject rfl
  have indicator_ (entry : Entry) : idOf (pruneObject (entry.object services (validFrom services report))) =
      some (stableId services "indicator" (entry.key services)) := (indicates_object services _ entry).id
  have pattern_ (v : Json) : idOf (pruneObject (attackPatternObject services (validFrom services report) v)) =
      some (attackPatternId services v) := idOf_header services ..
  have sighting_ (v : Json) : idOf (pruneObject (sightingObject services (captureId services.library report)
      (validFrom services report) v)) = some (sightingId services (captureId services.library report) v) :=
    idOf_header services ..
  simp [objects_eq, names, List.map_flatMap, Function.comp_def, classified, identity_, indicator_, pattern_, sighting_,
    identityId, attackPatternId, sightingId]

/-- There is an indicator for each entry, in the order of the report. -/
theorem indicators_eq : (renderBundle services report).objects.filter isIndicator =
    (entries report).map fun entry => pruneObject (entry.object services (validFrom services report)) := by
  have identity_ : isIndicator (pruneObject (identity services)) = false := isIndicator_pruned "identity" rfl
  have others :
      ((fieldItems report "mitre_classifications").flatMap (classified services report)).filter isIndicator = [] := by
    rw [List.filter_eq_nil_iff]
    intro object member
    obtain ⟨classification, -, kind⟩ := List.mem_flatMap.mp member
    simp only [classified, List.mem_cons, List.not_mem_nil, or_false] at kind
    rcases kind with rfl | rfl
    · exact Bool.eq_false_iff.mp (isIndicator_pruned "attack-pattern" rfl)
    · exact Bool.eq_false_iff.mp (isIndicator_pruned "sighting" rfl)
  rw [objects_eq, List.filter_append, others, List.append_nil, List.filter_cons_of_neg (by simp [identity_]),
    List.filter_eq_self]
  intro object member
  obtain ⟨entry, -, rfl⟩ := List.mem_map.mp member
  exact isIndicator_object services _ entry

/-! ### What a bundle keeps -/

/-- What holds of the bundle of a report. -/
structure Sound : Prop where
  /-- The id of an object is made of its type and what it is about. -/
  named : (renderBundle services report).objects.map idOf =
    (names services report).map fun name => some (stableId services name.1 name.2)
  /-- Objects that differ in these have different ids. -/
  distinct : ∀ name ∈ names services report, ∀ other ∈ names services report,
    stableId services name.1 name.2 = stableId services other.1 other.2 → name = other
  resolved : ∀ object ∈ (renderBundle services report).objects, ∀ ref ∈ refsOf object,
    ref ∈ (renderBundle services report).ids
  /-- Each entry has its indicator, and there are no others. -/
  single : List.Forall₂ (Indicates services) (entries report) ((renderBundle services report).objects.filter isIndicator)
  /-- The pattern of an entry in which nothing has to be escaped is read as its comparisons. -/
  patterns : ∀ entry ∈ entries report, entry.Observable services → entry.Plain services →
    Patterns.read (entry.pattern services).toList = some (entry.operator.join (entry.comparisons services))

end Bundles

/-! ### Thirty-three nodes -/

def plainServices : Services where
  library := Findings.Identity.plainLibrary
  numbers := Plugins.Enrich.plainNumbers
  uuid5 := id
  now := "2026-07-27T12:00:00.000Z"
  fromIsoFormat := some
  ipVersion _ := some 4
  isMac _ := false
  repr s := "'" ++ s ++ "'"
  version := "3.9.0"

def crowd : List String := (List.range 33).map fun n => "10.0.0." ++ toString (n + 1)

def crossing : Json :=
  .obj [("category", .str "CROSS_PURDUE"), ("severity", .str "HIGH"), ("affected_nodes", .arr (crowd.map .str))]

def crossingReport : Report := PyDict.empty.set "risk_findings" (.arr [crossing])

end Marlinspike.Emit.StixBundles
