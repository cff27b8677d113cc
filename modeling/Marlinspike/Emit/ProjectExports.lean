import Marlinspike.Emit.Exports
import Marlinspike.Emit.ReportFiles

/-!
The exports of a project against those of its reports. The files of a project have no fields
of the ATT&CK plugin, so that its exports lack what the plugin has mapped: they agree with
the exports of the reports exactly if it has mapped nothing (`project_exports_agree_iff`).
-/
namespace Marlinspike.Emit.ProjectExports
open Marlinspike.Plugins.Enrich
open Marlinspike.Emit.ReportFiles
open Marlinspike.Emit.Navigator
open Marlinspike.Emit.Stix
open Marlinspike.Emit.Exports

/-! ### Enriched reports -/

/-- A report after an enrichment in which its extensions were merged, the ATT&CK plugin's
    among them. -/
structure EnrichedReport (setup : Setup) where
  name : String
  before : Disk
  written : Written setup before.file
  findings : List Json
  merges : mergeInput setup before = some findings
  result : Plugins.Mitre.Result
  mapped : runAll setup before .mitre = some (.mitre result)

section Enriched
variable {setup : Setup} (r : EnrichedReport setup)

def EnrichedReport.disk : Disk := writeEnriched setup r.before

def EnrichedReport.listed : Listed := ⟨r.name, r.disk⟩

/-- The extensions that were merged. -/
def EnrichedReport.extensions : PyDict String Artifact := mergedExtensions r.before.file (runAll setup r.before)

theorem disk_eq : r.disk = ⟨mergedFile setup r.before.file (runAll setup r.before) r.findings, runAll setup r.before⟩ :=
  writeEnriched_of_some r.merges

/-- The file has no fields of the ATT&CK plugin. -/
theorem fields_mitre {key : String} (unknown : key ∉ reportKeys) : r.disk.file.fields.get key = none := by
  obtain ⟨report, same, -⟩ := written_fields (.enriched r.before.sidecars r.written)
  have other : key ≠ "risk_findings" := by
    rintro rfl
    exact unknown (by decide)
  exact (same key other).trans (toDict_of_not_mem report unknown)

theorem ensureMitre_disk : ensureMitre setup r.disk = runAll setup r.before := by
  funext p
  rw [disk_eq]
  unfold ensureMitre
  rw [if_neg]
  rintro ⟨-, -, missing⟩
  cases r.mapped.symm.trans missing

/-- The file as it is loaded again. -/
def EnrichedReport.reloaded : File :=
  mergedFile setup r.disk.file (runAll setup r.before) (mergedFindings setup r.findings r.extensions)

theorem extensions_again : mergedExtensions r.disk.file (runAll setup r.before) = r.extensions := by
  rw [disk_eq]
  exact mergedExtensions_again _ rfl

theorem findings_disk :
    (riskFindings r.disk.file.fields).iterate = some (mergedFindings setup r.findings r.extensions) := by
  rw [disk_eq]
  exact merged_findings

theorem load_disk : loadReportWithExtensions setup r.disk = some r.reloaded := by
  obtain ⟨-, ok⟩ := Option.filter_eq_some_iff.mp r.merges
  obtain ⟨hashables, collects_⟩ := Bool.and_eq_true_iff.mp ok
  have again : mergeable setup (mergedFindings setup r.findings r.extensions) r.extensions = true := by
    rw [mergeable, mergedFindings_hashable hashables]
    exact collects_
  unfold loadReportWithExtensions
  dsimp only
  rw [ensureMitre_disk, findings_disk, extensions_again, Option.filter_some, if_pos again]
  rfl

theorem reloaded_extension : r.reloaded.extensions.get Plugin.mitre.id = some (.mitre r.result) := by
  change (mergedExtensions r.disk.file (runAll setup r.before)).get Plugin.mitre.id = _
  exact mergedExtensions_own r.mapped rfl

/-- The report that the exports of a single report are rendered from. -/
def EnrichedReport.attached : Plugins.Report := attachMitreFields r.reloaded

theorem attached_classifications :
    fieldItems r.attached "mitre_classifications" = r.result.classifications.map Item.toJson := by
  unfold EnrichedReport.attached attachMitreFields
  dsimp only
  rw [reloaded_extension, fieldItems, PyDict.get_set, if_neg (by decide), PyDict.get_set_self]
  rfl

theorem attached_coverage :
    fieldItems r.attached "mitre_platform_coverage" = r.result.platformCoverage.map Item.toJson := by
  unfold EnrichedReport.attached attachMitreFields
  dsimp only
  rw [reloaded_extension, fieldItems, PyDict.get_set_self]
  rfl

theorem attached_get {key : String} (own : key ≠ "mitre_classifications") (own' : key ≠ "mitre_platform_coverage")
    (other : key ≠ "risk_findings") : r.attached.get key = r.disk.file.fields.get key := by
  unfold EnrichedReport.attached attachMitreFields
  dsimp only
  rw [PyDict.get_set, if_neg (Ne.symm own'), PyDict.get_set, if_neg (Ne.symm own)]
  exact merged_get other

theorem attached_findings : (field r.attached "risk_findings").iterate =
    some (mergedFindings setup (mergedFindings setup r.findings r.extensions) r.extensions) := by
  have listed : r.attached.get "risk_findings" = r.reloaded.fields.get "risk_findings" := by
    unfold EnrichedReport.attached attachMitreFields
    dsimp only
    rw [PyDict.get_set, if_neg (by decide), PyDict.get_set, if_neg (by decide)]
  have merged : (riskFindings r.reloaded.fields).iterate =
      some (mergedFindings setup (mergedFindings setup r.findings r.extensions)
        (mergedExtensions r.disk.file (runAll setup r.before))) := merged_findings
  rw [extensions_again] at merged
  rw [field, listed]
  exact merged

/-- Loading the report again only repeats findings of extensions that are no plugin's. -/
theorem mem_findings_again (f : Json) :
    f ∈ mergedFindings setup (mergedFindings setup r.findings r.extensions) r.extensions ↔
      f ∈ mergedFindings setup r.findings r.extensions := by
  rw [mergedFindings_again]
  simp only [mergedFindings, foreignFindings, List.mem_append, List.mem_filter]
  tauto

theorem field_attached {key : String} (own : key ≠ "mitre_classifications") (own' : key ≠ "mitre_platform_coverage")
    (other : key ≠ "risk_findings") : field r.attached key = field r.disk.file.fields key := by
  rw [field, field, attached_get r own own' other]

theorem captureReadable_attached : captureReadable r.attached = captureReadable r.disk.file.fields := by
  rw [captureReadable, captureReadable, attached_get r (by decide) (by decide) (by decide)]

theorem readable_attached : readable r.attached = readable r.disk.file.fields := by
  have risk : (field r.attached "risk_findings").iterate.any (·.all riskReadable) =
      (field r.disk.file.fields "risk_findings").iterate.any (·.all riskReadable) := by
    have plain : (field r.disk.file.fields "risk_findings").iterate = _ := findings_disk r
    rw [attached_findings, plain, Option.any_some, Option.any_some, Bool.eq_iff_iff, List.all_eq_true, List.all_eq_true]
    exact forall_congr' fun f => imp_congr_left (mem_findings_again r f)
  have time : timestamp r.attached = timestamp r.disk.file.fields := by
    rw [timestamp, timestamp, field_attached r (by decide) (by decide) (by decide),
      field_attached r (by decide) (by decide) (by decide)]
  rw [readable, readable, captureReadable_attached, time, risk, field_attached r (by decide) (by decide) (by decide),
    field_attached r (by decide) (by decide) (by decide)]

/-- The two bundles have the same findings. -/
theorem mem_findingIds_attached (services : Services) (id : String) :
    id ∈ findingIds services r.attached ↔ id ∈ findingIds services r.disk.file.fields := by
  have risk : ∀ f, f ∈ fieldItems r.attached "risk_findings" ↔ f ∈ fieldItems r.disk.file.fields "risk_findings" := by
    intro f
    have attached : fieldItems r.attached "risk_findings" = _ := congrArg (Option.getD · []) (attached_findings r)
    have plain : fieldItems r.disk.file.fields "risk_findings" = _ := congrArg (Option.getD · []) (findings_disk r)
    rw [attached, plain]
    exact mem_findings_again r f
  have same {key : String} (own : key ≠ "mitre_classifications") (own' : key ≠ "mitre_platform_coverage")
      (other : key ≠ "risk_findings") : fieldItems r.attached key = fieldItems r.disk.file.fields key := by
    rw [fieldItems, fieldItems, attached_get r own own' other]
  have c2 : fieldItems r.attached "c2_indicators" = _ := same (by decide) (by decide) (by decide)
  have malware : fieldItems r.attached "malware_findings" = _ := same (by decide) (by decide) (by decide)
  unfold findingIds
  rw [c2, malware]
  simp only [List.mem_append, List.mem_map, risk]

end Enriched

/-! ### Agreement -/

section Agreement
variable {setup : Setup} (services : Services) (projectName : String) (pid : Nat) (domain : AttackDomain)
  (reports : List (EnrichedReport setup))

/-- A line of the comment names a file. -/
def NamesFile (comment name : String) : Prop := ("seen in: " ++ name).toList ∈ comment.toList.splitOn '\n'

/-- The layer that is rendered of a report has the technique, with the score. -/
def Scores (r : EnrichedReport setup) (tid : String) (score : Int) : Prop :=
  ∃ layer, apiReportNavigator setup services r.disk domain = .ok layer ∧
    ∃ t ∈ layer.techniques, t.techniqueId = tid ∧ t.score = score

/-- A project's layer, against the layers of its reports. -/
structure LayerAgrees (layer : Layer) : Prop where
  techniques : ∀ tid, tid ∈ layer.ids ↔ ∃ r ∈ reports, ∃ score, Scores services domain r tid score
  highest : ∀ t ∈ layer.techniques,
    IsGreatest {score | ∃ r ∈ reports, Scores services domain r t.techniqueId score} t.score
  named : ∀ t ∈ layer.techniques, ∀ name, NamesFile t.comment name ↔
    ∃ r ∈ reports, r.name = name ∧ ∃ score, Scores services domain r t.techniqueId score

/-- There is no layer only if no report has a technique. -/
def NavigatorAgrees : Prop :=
  match apiProjectNavigator services projectName domain (reports.map EnrichedReport.listed) with
  | .ok layer => LayerAgrees services domain reports layer
  | .notFound => ∀ r ∈ reports, ∀ tid score, ¬Scores services domain r tid score
  | .failed => False

def HasObject (r : EnrichedReport setup) (id : String) : Prop :=
  ∃ bundle, apiReportStix setup services r.disk = .ok bundle ∧ id ∈ bundle.ids

/-- There is no bundle only if no report has an object. -/
def StixAgrees : Prop :=
  match apiProjectStix services pid projectName (reports.map EnrichedReport.listed) with
  | .ok bundle => ∀ id, id ∈ bundle.ids ↔ ∃ r ∈ reports, HasObject services r id
  | .notFound => ∀ r ∈ reports, ∀ id, ¬HasObject services r id
  | .failed => False

/-! Navigator layers: the project's export has none to merge. -/

theorem renderLayers_disk (r : EnrichedReport setup) :
    renderLayers services.library services.numbers r.disk.file.fields domain = none := by
  have none_ {key : String} (unknown : key ∉ reportKeys) : fieldItems r.disk.file.fields key = [] := by
    rw [fieldItems, fields_mitre r unknown]
    rfl
  unfold renderLayers
  rw [none_ (by decide), none_ (by decide)]
  rfl

theorem foldlM_mergeLayer (merge : LayerMerge) :
    (reports.map EnrichedReport.listed).foldlM (mergeLayer services domain) merge =
      if ∀ r ∈ reports, captureReadable r.disk.file.fields = true then some merge else none := by
  induction reports with
  | nil => rfl
  | cons r rest ih =>
    have one : mergeLayer services domain merge r.listed =
        if captureReadable r.disk.file.fields = true then some merge else none := by
      unfold mergeLayer EnrichedReport.listed
      dsimp only
      rw [renderLayers_disk]
      cases captureReadable r.disk.file.fields <;> rfl
    rw [List.map_cons, List.foldlM_cons, one]
    by_cases read : captureReadable r.disk.file.fields = true
    · rw [if_pos read]
      simpa [read] using ih
    · simp [read]

theorem apiProjectNavigator_eq :
    apiProjectNavigator services projectName domain (reports.map EnrichedReport.listed) =
      if ∀ r ∈ reports, captureReadable r.disk.file.fields = true then .notFound else .failed := by
  unfold apiProjectNavigator
  rw [foldlM_mergeLayer]
  by_cases none_ : reports = []
  · subst none_
    simp
  · rw [if_neg (by simpa using none_)]
    split_ifs
    · rfl
    · rfl

/-- The layer of a report that is rendered has the techniques of its entries, or none. -/
theorem ids_apiReportNavigator (r : EnrichedReport setup) (tid : String) :
    (∃ layer, apiReportNavigator setup services r.disk domain = .ok layer ∧ tid ∈ layer.ids) ↔
      captureReadable r.disk.file.fields = true ∧
        ∃ layer ∈ renderLayers services.library services.numbers r.attached domain, tid ∈ layer.ids := by
  have attached : (loadReportWithExtensions setup r.disk).map attachMitreFields = some r.attached := by
    rw [load_disk]
    rfl
  unfold apiReportNavigator
  rw [attached]
  dsimp only
  rw [captureReadable_attached]
  by_cases read : captureReadable r.disk.file.fields = true
  · rw [if_neg (by simp [read])]
    cases renderLayers services.library services.numbers r.attached domain with
    | some layer => simp [read]
    | none =>
      have empty : ¬∃ layer ∈ renderEmptyLayer services.library services.numbers domain
          ((captureSource r.attached).text services.library), tid ∈ layer.ids := ids_renderEmptyLayer domain _ tid
      dsimp only
      cases rendered : renderEmptyLayer services.library services.numbers domain
        ((captureSource r.attached).text services.library) with
      | none => simp
      | some layer =>
        rw [rendered] at empty
        simpa using empty
  · simp [read]

theorem scores_iff (r : EnrichedReport setup) (tid : String) :
    (∃ score, Scores services domain r tid score) ↔ captureReadable r.disk.file.fields = true ∧
      ∃ entry ∈ domainEntries services.library r.attached domain,
        (entry.get "technique_id").text services.library = tid ∧ tid ≠ "" := by
  have inLayer : (∃ layer ∈ renderLayers services.library services.numbers r.attached domain, tid ∈ layer.ids) ↔ _ :=
    mem_ids_iff r.attached domain tid
  rw [← inLayer, ← ids_apiReportNavigator]
  unfold Scores
  rw [exists_comm]
  refine exists_congr fun layer => ?_
  simp [Layer.ids]

/-- The plugin has mapped nothing to a technique of the domain. -/
def Unmapped (r : EnrichedReport setup) : Prop :=
  ∀ item ∈ r.result.classifications ++ r.result.platformCoverage,
    services.library.lower item.domain = domain.id → item.techniqueId = ""

theorem unmapped_iff (r : EnrichedReport setup) : Unmapped services domain r ↔
    ¬∃ tid, ∃ entry ∈ domainEntries services.library r.attached domain,
      (entry.get "technique_id").text services.library = tid ∧ tid ≠ "" := by
  have domainOf (item : Plugins.Mitre.Item) :
      ((Item.toJson item).get "domain").text services.library = item.domain := Json.text_str services.library item.domain
  have idOf_ (item : Plugins.Mitre.Item) :
      ((Item.toJson item).get "technique_id").text services.library = item.techniqueId :=
    Json.text_str services.library item.techniqueId
  unfold domainEntries Unmapped
  rw [attached_classifications, attached_coverage, ← List.map_append]
  simp only [List.mem_filter, List.mem_map, inDomain]
  constructor
  · rintro unmapped ⟨tid, entry, ⟨⟨item, listed, rfl⟩, own⟩, same, some_⟩
    rw [domainOf] at own
    rw [idOf_] at same
    exact some_ (same.symm.trans (unmapped item listed (by simpa using own)))
  · intro none_ item listed own
    by_contra some_
    exact none_ ⟨_, _, ⟨⟨item, listed, rfl⟩, by rw [domainOf]; simpa using own⟩, idOf_ item, some_⟩

theorem navigatorAgrees_iff : NavigatorAgrees services projectName domain reports ↔
    ∀ r ∈ reports, captureReadable r.disk.file.fields = true ∧ Unmapped services domain r := by
  unfold NavigatorAgrees
  rw [apiProjectNavigator_eq]
  by_cases read : ∀ r ∈ reports, captureReadable r.disk.file.fields = true
  · rw [if_pos read]
    refine forall₂_congr fun r listed => ?_
    rw [and_iff_right (read r listed), unmapped_iff, not_exists]
    refine forall_congr' fun tid => ?_
    rw [← not_exists, scores_iff, and_iff_right (read r listed)]
  · rw [if_neg read]
    exact ⟨False.elim, fun all => read fun r listed => (all r listed).1⟩

/-! STIX bundles: the project's has the findings of the reports, and no classification. -/

/-- Every object is under its id. -/
def Filed (allObjects : PyDict String Json) : Prop :=
  ∀ oid object, allObjects.get oid = some object → idOf object = some oid

theorem filed_foldl (objects : List Json) {allObjects : PyDict String Json} (filed : Filed allObjects) :
    Filed (objects.foldl collectObject allObjects) := by
  induction objects generalizing allObjects with
  | nil => exact filed
  | cons object rest ih =>
    refine ih fun oid held found => ?_
    unfold collectObject at found
    split at found
    · exact filed oid held found
    · rename_i own named
      split_ifs at found with fresh
      · rw [PyDict.get_set] at found
        split_ifs at found with same
        · obtain rfl := Option.some.inj found
          rw [named, same]
        · exact filed oid held found
      · exact filed oid held found

theorem get_foldl_collectObject (objects : List Json) (allObjects : PyDict String Json) (id : String) :
    (objects.foldl collectObject allObjects).get id ≠ none ↔
      allObjects.get id ≠ none ∨ id ≠ "" ∧ id ∈ objects.filterMap idOf := by
  induction objects generalizing allObjects with
  | nil => simp
  | cons object rest ih =>
    have one : (collectObject allObjects object).get id ≠ none ↔
        allObjects.get id ≠ none ∨ id ≠ "" ∧ idOf object = some id := by
      unfold collectObject
      split
      · rename_i unnamed
        simp [unnamed]
      · rename_i oid named
        split_ifs with fresh
        · rw [PyDict.get_set]
          split_ifs with same
          · subst same
            simp [named, fresh.1]
          · simp [named, same]
        · rw [named]
          constructor
          · exact .inl
          · rintro (held | ⟨some_, same⟩)
            · exact held
            · obtain rfl := Option.some.inj same
              simpa [some_] using fresh
    rw [List.foldl_cons, ih, one, or_assoc, ← and_or_left, List.filterMap_cons]
    cases idOf object with
    | none => simp
    | some oid => simp [eq_comm]

theorem foldlM_collectBundle (allObjects : PyDict String Json) :
    (reports.map EnrichedReport.listed).foldlM (collectBundle services) allObjects =
      if ∀ r ∈ reports, readable r.disk.file.fields = true then
        some ((reports.flatMap fun r => (renderBundle services r.disk.file.fields).objects).foldl collectObject
          allObjects)
      else none := by
  induction reports generalizing allObjects with
  | nil => rfl
  | cons r rest ih =>
    have one : collectBundle services allObjects r.listed =
        if readable r.disk.file.fields then
          some ((renderBundle services r.disk.file.fields).objects.foldl collectObject allObjects)
        else none := rfl
    rw [List.map_cons, List.foldlM_cons, one]
    by_cases read : readable r.disk.file.fields = true
    · rw [if_pos read, List.flatMap_cons, List.foldl_append]
      simpa [read] using ih _
    · simp [read]

theorem stableId_ne_empty (stixType key : String) : stableId services stixType key ≠ "" := by
  intro empty
  have chars := congrArg String.toList empty
  simp [stableId] at chars

theorem ne_empty_of_mem_ids {report : Plugins.Report} {id : String} (member : id ∈ (renderBundle services report).ids) :
    id ≠ "" := by
  rw [ids_renderBundle] at member
  simp only [findingIds, classificationIds, List.mem_append, List.mem_cons, List.mem_map, List.mem_flatMap,
    List.not_mem_nil, or_false] at member
  obtain (rfl | (⟨_, -, rfl⟩ | ⟨_, -, rfl⟩) | ⟨_, -, rfl⟩) | ⟨_, -, rfl | rfl⟩ := member
  all_goals exact stableId_ne_empty services _ _

/-- The project's bundle has the ids of what the files have. -/
theorem apiProjectStix_ok (some_ : reports ≠ []) (read : ∀ r ∈ reports, readable r.disk.file.fields = true) :
    ∃ bundle, apiProjectStix services pid projectName (reports.map EnrichedReport.listed) = .ok bundle ∧
      ∀ id, id ∈ bundle.ids ↔ ∃ r ∈ reports, id ∈ (renderBundle services r.disk.file.fields).ids := by
  let objects := reports.flatMap fun r => (renderBundle services r.disk.file.fields).objects
  have filed : Filed (objects.foldl collectObject PyDict.empty) := filed_foldl objects fun _ _ found => by cases found
  have found_iff (id : String) : (objects.foldl collectObject PyDict.empty).get id ≠ none ↔
      ∃ r ∈ reports, id ∈ (renderBundle services r.disk.file.fields).ids := by
    rw [get_foldl_collectObject]
    simp only [PyDict.get_empty, ne_eq, not_true_eq_false, false_or, objects, List.filterMap_flatMap, List.mem_flatMap]
    constructor
    · exact fun found => found.2
    · rintro ⟨r, listed, member⟩
      exact ⟨ne_empty_of_mem_ids services member, r, listed, member⟩
  obtain ⟨r, listed⟩ := List.exists_mem_of_ne_nil reports some_
  have nonempty : (objects.foldl collectObject PyDict.empty).items ≠ [] := by
    intro none_
    have held := (found_iff (identityId services)).mpr ⟨r, listed, by rw [ids_renderBundle]; simp⟩
    simp [PyDict.get, none_, PyDict.find] at held
  refine ⟨⟨stableId services "bundle" ("project:" ++ toString pid ++ ":" ++ projectName),
    (objects.foldl collectObject PyDict.empty).items.map Prod.snd⟩, ?_, fun id => ?_⟩
  · unfold apiProjectStix
    rw [if_neg (by simpa using some_), foldlM_collectBundle, if_pos read]
    dsimp only
    rw [if_neg nonempty]
  · rw [← found_iff, Bundle.ids, List.mem_filterMap, Option.ne_none_iff_exists']
    constructor
    · rintro ⟨object, member, named⟩
      obtain ⟨⟨oid, object⟩, item, rfl⟩ := List.mem_map.mp member
      have held := PyDict.mem_items_iff.mp item
      obtain rfl := Option.some.inj ((filed oid object held).symm.trans named)
      exact ⟨object, held⟩
    · rintro ⟨object, held⟩
      exact ⟨object, List.mem_map.mpr ⟨(id, object), PyDict.mem_items_iff.mpr held, rfl⟩, filed id object held⟩

theorem hasObject_iff (r : EnrichedReport setup) (id : String) : HasObject services r id ↔
    readable r.disk.file.fields = true ∧ id ∈ (renderBundle services r.attached).ids := by
  have attached : (loadReportWithExtensions setup r.disk).map attachMitreFields = some r.attached := by
    rw [load_disk]
    rfl
  unfold HasObject apiReportStix
  rw [attached]
  dsimp only
  rw [readable_attached]
  by_cases read : readable r.disk.file.fields = true
  · simp [read]
  · simp [read]

theorem classificationIds_disk (r : EnrichedReport setup) : classificationIds services r.disk.file.fields = [] := by
  rw [classificationIds, fieldItems, fields_mitre r (by decide)]
  rfl

/-- What the report's own bundle has beside what the project takes from the file. -/
theorem mem_ids_attached (r : EnrichedReport setup) (id : String) : id ∈ (renderBundle services r.attached).ids ↔
    id ∈ (renderBundle services r.disk.file.fields).ids ∨ id ∈ classificationIds services r.attached := by
  rw [ids_renderBundle, ids_renderBundle, classificationIds_disk, List.append_nil, List.mem_append, List.mem_cons,
    List.mem_cons, mem_findingIds_attached]

/-- No file has an attack pattern. -/
theorem attackPatternId_not_found (r : EnrichedReport setup) (classification : Json) :
    attackPatternId services classification ∉ (renderBundle services r.disk.file.fields).ids := by
  rw [ids_renderBundle, classificationIds_disk, List.append_nil]
  exact attackPatternId_not_mem services _ classification

theorem stixAgrees_iff : StixAgrees services projectName pid reports ↔
    ∀ r ∈ reports, readable r.disk.file.fields = true ∧ r.result.classifications = [] := by
  by_cases none_ : reports = []
  · subst none_
    simp [StixAgrees, apiProjectStix]
  · by_cases read : ∀ r ∈ reports, readable r.disk.file.fields = true
    · obtain ⟨bundle, answered, ids⟩ := apiProjectStix_ok services projectName pid reports none_ read
      unfold StixAgrees
      rw [answered]
      constructor
      · intro same r listed
        refine ⟨read r listed, ?_⟩
        by_contra classified
        obtain ⟨item, rest, items⟩ := List.exists_cons_of_ne_nil classified
        have own : attackPatternId services (Item.toJson item) ∈ classificationIds services r.attached := by
          rw [classificationIds, attached_classifications, items]
          simp
        have object : HasObject services r (attackPatternId services (Item.toJson item)) :=
          (hasObject_iff services r _).mpr ⟨read r listed, (mem_ids_attached services r _).mpr (.inr own)⟩
        obtain ⟨other, -, found⟩ := (ids _).mp ((same _).mpr ⟨r, listed, object⟩)
        exact attackPatternId_not_found services other _ found
      · intro all id
        rw [ids]
        refine exists_congr fun r => and_congr_right fun listed => ?_
        have unclassified : classificationIds services r.attached = [] := by
          rw [classificationIds, attached_classifications, (all r listed).2]
          rfl
        rw [hasObject_iff, and_iff_right (read r listed), mem_ids_attached, unclassified]
        simp
    · have failed : apiProjectStix services pid projectName (reports.map EnrichedReport.listed) = .failed := by
        unfold apiProjectStix
        rw [if_neg (by simpa using none_), foldlM_collectBundle, if_neg read]
      unfold StixAgrees
      rw [failed]
      exact ⟨False.elim, fun all => read fun r listed => (all r listed).1⟩

/-- What the project's exports cannot have lost: nothing is classified, and no coverage is of
    the domain. -/
def NothingMapped (r : EnrichedReport setup) : Prop :=
  r.result.classifications = [] ∧ ∀ item ∈ r.result.platformCoverage,
    services.library.lower item.domain = domain.id → item.techniqueId = ""

theorem project_exports_agree_iff :
    (NavigatorAgrees services projectName domain reports ∧ StixAgrees services projectName pid reports) ↔
      ∀ r ∈ reports, readable r.disk.file.fields = true ∧ NothingMapped services domain r := by
  rw [navigatorAgrees_iff, stixAgrees_iff, ← forall₂_and]
  refine forall₂_congr fun r _ => ?_
  unfold NothingMapped Unmapped
  constructor
  · rintro ⟨⟨-, unmapped⟩, read, unclassified⟩
    exact ⟨read, unclassified, fun item listed => unmapped item (List.mem_append_right _ listed)⟩
  · rintro ⟨read, unclassified, uncovered⟩
    have capture : captureReadable r.disk.file.fields = true := by
      unfold readable at read
      simp only [Bool.and_eq_true] at read
      exact read.1.1.1.1
    refine ⟨⟨capture, ?_⟩, read, unclassified⟩
    rw [unclassified, List.nil_append]
    exact uncovered

end Agreement

/-! ### A technique that the project does not export -/

def plainServices : Services where
  library := Plugins.RulePacks.plainLibrary
  numbers := plainNumbers
  uuid5 := id
  now := "2026-01-01T00:00:00.000Z"
  fromIsoFormat := some
  ipVersion := fun _ => none
  isMac := fun _ => false
  repr := id
  version := "1.0"

/-- A report of one beacon, which the base pack maps to T1071. -/
def beaconDisk : Disk :=
  ⟨⟨({ riskFindings := [⟨"HIGH", "BEACON", "", ["10.0.0.5"], [], 7, ""⟩] } : MarlinSpikeReport).toDict, PyDict.empty⟩,
    fun _ => none⟩

def mitreOnly : Setup := plainSetup fun p => p = .mitre

def classified : Option Artifact → Option (List String)
  | some (.mitre result) => some (result.classifications.map (·.techniqueId))
  | _ => none

/-- The report's own exports have the technique, the project's have not. -/
theorem beacon_not_exported : ∃ r : EnrichedReport mitreOnly, r.before = beaconDisk ∧
    ¬(NavigatorAgrees plainServices "plant" .enterprise [r] ∧ StixAgrees plainServices "plant" 1 [r]) := by
  have techniques : classified (runAll mitreOnly beaconDisk .mitre) = some ["T1071"] := by decide +kernel
  have merges : (mergeInput mitreOnly beaconDisk).isSome = true := by decide +kernel
  obtain ⟨findings, merged⟩ := Option.isSome_iff_exists.mp merges
  cases ran : runAll mitreOnly beaconDisk .mitre with
  | none =>
    rw [ran] at techniques
    cases techniques
  | some artifact =>
    rw [ran] at techniques
    cases artifact with
    | mitre result =>
      refine ⟨⟨"capture.json", beaconDisk, .saved _, findings, merged, result, ran⟩, rfl, ?_⟩
      rintro ⟨-, agrees⟩
      have none_ : result.classifications = [] := ((stixAgrees_iff ..).mp agrees _ List.mem_cons_self).2
      rw [classified, none_] at techniques
      cases techniques
    | _ => cases techniques

end Marlinspike.Emit.ProjectExports
