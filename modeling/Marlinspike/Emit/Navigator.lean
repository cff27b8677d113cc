import Marlinspike.Plugins.Enrich

/-!
ATT&CK Navigator layers. A layer has an entry for each technique that the ATT&CK plugin has
mapped in its domain: of the platform coverage, and in its place of the classifications.
-/
namespace Marlinspike.Emit.Navigator
open Marlinspike.Reports (Library)
open Marlinspike.Plugins (Report Numbers commaList)
open Marlinspike.Plugins.Enrich (either)

inductive AttackDomain where
  | ics
  | enterprise
deriving DecidableEq

def AttackDomain.id : AttackDomain → String
  | .ics => "ics-attack"
  | .enterprise => "enterprise-attack"

def AttackDomain.label : AttackDomain → String
  | .ics => "ICS"
  | .enterprise => "Enterprise"

def defaultAttackVersion : String := "16.1"

def gradientLow : String := "#3b82f6"
def gradientMid : String := "#f97316"
def gradientHigh : String := "#ef4444"

def basisScore : List (String × Int) := [("observed", 90), ("inferred", 60), ("platform", 25)]

/-- An entry of a layer; the comment is empty where there is none. -/
structure Technique where
  techniqueId : String
  score : Int
  color : String
  comment : String
  metadata : List (String × String)

/-- A layer without what is the same in all of them. -/
structure Layer where
  name : String
  attackVersion : String
  domain : String
  description : String
  techniques : List Technique
  metadata : List (String × String)

/-! ### Entries -/

section Entries
variable (library : Library) (numbers : Numbers)

/-- `int(round(confidence * 100))`. -/
def percent (confidence : Rat) : Int := (numbers.round 0 (confidence * 100)).floor

/-- `_confidence_to_score`. -/
def confidenceToScore (confidence basis : Json) : Int :=
  match confidence with
  | .null => (basisScore.lookup (library.lower (basis.text library))).getD 50
  | _ => max 0 (min 100 (percent numbers ((confidence.toRat numbers).getD 0)))

/-- `_color_for_score`. -/
def colorForScore (score : Int) : String :=
  if 80 ≤ score then gradientHigh else if 50 ≤ score then gradientMid else gradientLow

/-- The items of a field, or none. -/
def itemsOf (v : Json) : List Json := (v.iterate).getD []

/-- `_technique_block`, of an entry as the plugin writes it. -/
def techniqueBlock (classification : Json) : Technique :=
  let techniqueId := (classification.get "technique_id").text library
  let confidence := classification.get "confidence"
  let basis := classification.get "basis"
  let score := confidenceToScore library numbers confidence basis
  let affected := (itemsOf (classification.get "affected_nodes")).map (Json.toText library)
  let name := (either (classification.get "attack_name") (either (classification.get "title")
    (.str techniqueId))).text library
  let mappedFrom := (itemsOf (classification.get "mapped_from")).map (Json.toText library)
  let family := (classification.get "family").text library
  let rationale := (classification.get "rationale").text library
  let parts := (if name ≠ "" ∧ name ≠ techniqueId then [name] else []) ++
    if rationale ≠ "" then [String.ofList (rationale.toList.take 280)] else []
  { techniqueId
    score
    color := colorForScore score
    comment := library.strip ("\n\n".intercalate parts)
    metadata :=
      (if basis.truthy then [("basis", basis.toText library)] else []) ++
      (match confidence with
        | .null => []
        | _ => [("confidence", toString (percent numbers ((confidence.toRat numbers).getD 0)) ++ "%")]) ++
      (if affected = [] then []
        else [("affected_assets", commaList (affected.take 8) ++ if 8 < affected.length then " …" else "")]) ++
      (if mappedFrom = [] then [] else [("mapped_from", commaList mappedFrom)]) ++
      if family = "" then [] else [("family", family)] }

/-- The entry is of the domain, whatever the case. -/
def inDomain (domain : AttackDomain) (entry : Json) : Bool :=
  library.lower ((entry.get "domain").text library) = domain.id

/-- An entry without a technique is passed over. -/
def addEntry (byId : PyDict String Technique) (entry : Json) : PyDict String Technique :=
  let tid := (entry.get "technique_id").text library
  if tid = "" then byId else byId.set tid (techniqueBlock library numbers entry)

/-- `by_id`: classifications come in the place of coverage. -/
def entriesById (domain : AttackDomain) (classifications coverage : List Json) : PyDict String Technique :=
  (classifications.filter (inDomain library domain)).foldl (addEntry library numbers)
    ((coverage.filter (inDomain library domain)).foldl (addEntry library numbers) PyDict.empty)

/-! ### Layers -/

/-- `sorted`, the highest score first. -/
def byScore (techniques : List Technique) : List Technique := techniques.mergeSort fun a b => b.score ≤ a.score

/-- `_build_layer`; there is no layer without techniques unless it is asked for. -/
def buildLayer (domain : AttackDomain) (classifications coverage : List Json) (captureId attackVersion : String)
    (allowEmpty : Bool) : Option Layer :=
  let byId := entriesById library numbers domain classifications coverage
  if byId.items = [] ∧ !allowEmpty then none
  else some {
    name := "MarlinSpike — " ++ captureId ++ " — " ++ domain.label
    attackVersion
    domain := domain.id
    description := "ATT&CK technique coverage for capture '" ++ captureId ++
      "', derived from MarlinSpike risk findings + the marlinspike-mitre plugin. " ++
      "Score reflects detection confidence (0-100); colour follows the low/medium/high gradient. " ++
      "Click any cell for finding-level metadata."
    techniques := byScore (byId.items.map Prod.snd)
    metadata := [("capture_id", captureId), ("produced_by", "MarlinSpike")] }

/-- `report.get(key) or []`. -/
def fieldItems (report : Report) (key : String) : List Json := itemsOf ((report.get key).getD .null)

def captureSource (report : Report) : Json := ((report.get "capture_info").getD .null).get "capture_source"

/-- Whether the capture's source can be looked up; if not, rendering raises. -/
def captureReadable (report : Report) : Bool :=
  let captureInfo := (report.get "capture_info").getD .null
  captureInfo.isObj || !captureInfo.truthy

def captureId (report : Report) : String := (either (captureSource report) (.str "capture")).text library

/-- `attack_version` of the first classification, or of the first coverage. -/
def attackVersionOf (classifications coverage : List Json) : String :=
  let first (entries : List Json) := ((entries.head?).getD .null).get "attack_version"
  (either (first classifications) (either (first coverage) (.str defaultAttackVersion))).text library

/-- `render_layers`: the layer of each domain that has techniques. -/
def renderLayers (report : Report) (domain : AttackDomain) : Option Layer :=
  let classifications := fieldItems report "mitre_classifications"
  let coverage := fieldItems report "mitre_platform_coverage"
  if classifications.isEmpty && coverage.isEmpty then none
  else buildLayer library numbers domain classifications coverage (captureId library report)
    (attackVersionOf library classifications coverage) false

/-- `render_empty_layer`. -/
def renderEmptyLayer (domain : AttackDomain) (captureId : String) : Option Layer :=
  buildLayer library numbers domain [] [] (if captureId = "" then "capture" else captureId) defaultAttackVersion true

end Entries

/-! ### Which techniques a layer has -/

section Techniques
variable {library : Library} {numbers : Numbers}

def Layer.ids (layer : Layer) : List String := layer.techniques.map (·.techniqueId)

/-- Every entry is under its technique. -/
def Indexed (byId : PyDict String Technique) : Prop := ∀ tid t, byId.get tid = some t → t.techniqueId = tid

theorem indexed_foldl (entries : List Json) {byId : PyDict String Technique} (indexed : Indexed byId) :
    Indexed (entries.foldl (addEntry library numbers) byId) := by
  induction entries generalizing byId with
  | nil => exact indexed
  | cons entry rest ih =>
    refine ih fun tid t found => ?_
    unfold addEntry at found
    dsimp only at found
    split_ifs at found with blank
    · exact indexed tid t found
    · rw [PyDict.get_set] at found
      split_ifs at found with own
      · obtain rfl := Option.some.inj found
        exact own
      · exact indexed tid t found

/-- The techniques that the entries name, and those before. -/
theorem get_foldl_ne_none_iff (entries : List Json) (byId : PyDict String Technique) (tid : String) :
    (entries.foldl (addEntry library numbers) byId).get tid ≠ none ↔
      byId.get tid ≠ none ∨ ∃ entry ∈ entries, (entry.get "technique_id").text library = tid ∧ tid ≠ "" := by
  induction entries generalizing byId with
  | nil => simp
  | cons entry rest ih =>
    have one : (addEntry library numbers byId entry).get tid ≠ none ↔
        byId.get tid ≠ none ∨ ((entry.get "technique_id").text library = tid ∧ tid ≠ "") := by
      unfold addEntry
      dsimp only
      split_ifs with blank
      · constructor
        · exact .inl
        · rintro (before | ⟨rfl, some_⟩)
          · exact before
          · exact absurd blank some_
      · rw [PyDict.get_set]
        split_ifs with own
        · simp only [ne_eq, reduceCtorEq, not_false_eq_true, true_iff]
          exact .inr ⟨own, own ▸ blank⟩
        · simp [own]
    rw [List.foldl_cons, ih, one, or_assoc]
    simp

/-- The entries of a report that its layer of a domain is built from. -/
def domainEntries (library : Library) (report : Report) (domain : AttackDomain) : List Json :=
  (fieldItems report "mitre_classifications" ++ fieldItems report "mitre_platform_coverage").filter
    (inDomain library domain)

theorem mem_byScore {t : Technique} {techniques : List Technique} : t ∈ byScore techniques ↔ t ∈ techniques :=
  List.mem_mergeSort

theorem mem_ids_buildLayer {domain : AttackDomain} {classifications coverage : List Json} {captureId version : String}
    {allowEmpty : Bool} (tid : String) :
    (∃ layer ∈ buildLayer library numbers domain classifications coverage captureId version allowEmpty,
      tid ∈ layer.ids) ↔ (entriesById library numbers domain classifications coverage).get tid ≠ none := by
  have indexed : Indexed (entriesById library numbers domain classifications coverage) :=
    indexed_foldl _ (indexed_foldl _ fun _ _ found => by cases found)
  unfold buildLayer
  dsimp only
  split_ifs with none_
  · simp [PyDict.get, none_.1, PyDict.find]
  · simp only [Option.mem_def, Option.some.injEq, exists_eq_left', Layer.ids, List.mem_map, mem_byScore]
    rw [Option.ne_none_iff_exists']
    constructor
    · rintro ⟨t, ⟨⟨key, t'⟩, member, rfl⟩, rfl⟩
      have found := PyDict.mem_items_iff.mp member
      exact ⟨t', by rw [indexed key t' found]; exact found⟩
    · rintro ⟨t, found⟩
      exact ⟨t, ⟨(tid, t), PyDict.mem_items_iff.mpr found, rfl⟩, indexed tid t found⟩

/-- The techniques of a layer are those that the report's entries of the domain name. -/
theorem mem_ids_iff (report : Report) (domain : AttackDomain) (tid : String) :
    (∃ layer ∈ renderLayers library numbers report domain, tid ∈ layer.ids) ↔
      ∃ entry ∈ domainEntries library report domain, (entry.get "technique_id").text library = tid ∧ tid ≠ "" := by
  unfold renderLayers domainEntries
  dsimp only
  split_ifs with nothing
  · obtain ⟨none_, uncovered⟩ := Bool.and_eq_true_iff.mp nothing
    rw [List.isEmpty_iff.mp none_, List.isEmpty_iff.mp uncovered]
    simp
  · rw [mem_ids_buildLayer, entriesById, get_foldl_ne_none_iff, get_foldl_ne_none_iff, List.filter_append]
    simp only [PyDict.get_empty, ne_eq, not_true_eq_false, false_or, List.mem_append, or_and_right, exists_or]
    exact or_comm

theorem ids_renderEmptyLayer (domain : AttackDomain) (captureId : String) (tid : String) :
    ¬∃ layer ∈ renderEmptyLayer library numbers domain captureId, tid ∈ layer.ids := by
  rw [renderEmptyLayer, mem_ids_buildLayer]
  simp [entriesById]

end Techniques

end Marlinspike.Emit.Navigator
