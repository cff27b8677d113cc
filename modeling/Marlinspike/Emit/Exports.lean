import Mathlib.Order.Bounds.Basic
import Marlinspike.Emit.Stix

/-!
The routes that export a report or a whole project. A report is loaded with its sidecars and
given the ATT&CK plugin's items as fields of its own; of a project, the files are read as
they are. The layers of a project are merged technique by technique, and the highest score
wins (`apiProjectNavigator_highest`).
-/
namespace Marlinspike.Emit.Exports
open Marlinspike.Plugins.Enrich
open Marlinspike.Emit.Navigator
open Marlinspike.Emit.Stix

/-! ### Reports with ATT&CK fields -/

def Reference.toJson (r : Plugins.Mitre.Reference) : Json :=
  .obj [("id", .str r.id), ("name", .str r.name), ("url", .str r.url), ("shortname", .str r.shortname)]

/-- An item, without the fields that no export reads. -/
def Item.toJson (item : Plugins.Mitre.Item) : Json :=
  .obj [("technique_id", .str item.techniqueId), ("title", .str item.title), ("family", .str item.family),
    ("publication", .str item.publication), ("basis", .str item.basis), ("confidence", .float item.confidence),
    ("mapped_from", Json.ofTexts item.mappedFrom), ("affected_nodes", Json.ofTexts item.affectedNodes),
    ("evidence_refs", Json.ofTexts item.evidenceRefs), ("rationale", .str item.rationale), ("domain", .str item.domain),
    ("attack_version", (item.attackVersion.map Json.str).getD .null), ("technique_url", .str item.techniqueUrl),
    ("attack_name", .str item.attackName), ("description", .str item.description),
    ("tactics", .arr (item.tactics.map Reference.toJson))]

/-- The classifications and the coverage of an artifact's `data`. -/
def mitreData : Option Artifact → List Json × List Json
  | some (.mitre result) => (result.classifications.map Item.toJson, result.platformCoverage.map Item.toJson)
  | some (.other value) =>
    (itemsOf ((value.get "data").get "classifications"), itemsOf ((value.get "data").get "platform_coverage"))
  | _ => ([], [])

/-- `attach_mitre_fields`. -/
def attachMitreFields (file : File) : Plugins.Report :=
  let data := mitreData (file.extensions.get Plugin.mitre.id)
  (file.fields.set "mitre_classifications" (.arr data.1)).set "mitre_platform_coverage" (.arr data.2)

section Routes
variable (setup : Setup) (services : Services)

/-- `ensure_mitre`: a sidecar that is missing is written first. -/
def ensureMitre (d : Disk) (p : Plugin) : Option Artifact :=
  if p = .mitre ∧ setup.enabled .mitre = true ∧ d.sidecars .mitre = none then runPlugin setup d.file.fields .mitre
  else d.sidecars p

/-- `load_report_with_extensions`, if it does not raise. -/
def loadReportWithExtensions (d : Disk) : Option File :=
  let sidecars := ensureMitre setup d
  (((riskFindings d.file.fields).iterate).filter fun findings =>
    mergeable setup findings (mergedExtensions d.file sidecars)).map fun findings =>
      mergedFile setup d.file sidecars findings

/-- The answer to an export: a document, 404, or 500. -/
inductive Response (Document : Type) where
  | ok (document : Document)
  | notFound
  | failed

/-! ### The exports of a report -/

/-- `api_report_navigator`, when it renders the layer. -/
def apiReportNavigator (d : Disk) (domain : AttackDomain) : Response Layer :=
  match (loadReportWithExtensions setup d).map attachMitreFields with
  | none => .failed
  | some report =>
    if !captureReadable report then .failed
    else
      match renderLayers services.library services.numbers report domain with
      | some layer => .ok layer
      | none =>
        let captureId := (captureSource report).text services.library
        ((renderEmptyLayer services.library services.numbers domain captureId).map .ok).getD .failed

/-- `api_report_stix`, when it renders the bundle. -/
def apiReportStix (d : Disk) : Response Bundle :=
  match (loadReportWithExtensions setup d).map attachMitreFields with
  | none => .failed
  | some report => if readable report then .ok (renderBundle services report) else .failed

/-! ### The exports of a project -/

/-- A report of a project: the name of its file, and what is on the disk. -/
structure Listed where
  name : String
  disk : Disk

/-- The file's name is appended to a comment that does not have it. -/
def annotate (name : String) (t : Technique) : Technique :=
  if name ≠ "" ∧ ¬name.toList <:+: t.comment.toList then
    { t with comment := services.library.strip (t.comment ++ "\n\nseen in: " ++ name) }
  else t

def mergeTechnique (name : String) (merged : PyDict String Technique) (t : Technique) : PyDict String Technique :=
  if t.techniqueId = "" then merged
  else
    let held := match merged.get t.techniqueId with
      | some existing => if existing.score < t.score then t else existing
      | none => t
    merged.set t.techniqueId (annotate services name held)

structure LayerMerge where
  merged : PyDict String Technique
  /-- The first layer. -/
  template : Option Layer

/-- A report of the loop; the file is read as it is. There is no result where rendering raises. -/
def mergeLayer (domain : AttackDomain) (merge : LayerMerge) (listed : Listed) : Option LayerMerge :=
  let report := listed.disk.file.fields
  if !captureReadable report then none
  else
    match renderLayers services.library services.numbers report domain with
    | none => some merge
    | some layer =>
      some ⟨layer.techniques.foldl (mergeTechnique services listed.name) merge.merged, merge.template.or (some layer)⟩

/-- `api_project_navigator`. -/
def apiProjectNavigator (projectName : String) (domain : AttackDomain) (reports : List Listed) : Response Layer :=
  if reports = [] then .notFound
  else
    match reports.foldlM (mergeLayer services domain) ⟨PyDict.empty, none⟩ with
    | none => .failed
    | some ⟨_, none⟩ => .notFound
    | some ⟨merged, some template⟩ =>
      if merged.items = [] then .notFound
      else .ok {
        name := "MarlinSpike — project '" ++ projectName ++ "' — " ++ domain.id
        attackVersion := template.attackVersion
        domain := domain.id
        description := "Aggregated ATT&CK technique coverage across " ++ toString reports.length ++
          " report(s) in project '" ++ projectName ++ "'. Per technique, the highest score across all reports wins."
        techniques := byScore (merged.items.map Prod.snd)
        metadata := [("project", projectName), ("report_count", toString reports.length),
          ("produced_by", "MarlinSpike")] }

/-- An object is kept if it is the first of its id. -/
def collectObject (allObjects : PyDict String Json) (object : Json) : PyDict String Json :=
  match idOf object with
  | none => allObjects
  | some oid => if oid ≠ "" ∧ allObjects.get oid = none then allObjects.set oid object else allObjects

def collectBundle (allObjects : PyDict String Json) (listed : Listed) : Option (PyDict String Json) :=
  if readable listed.disk.file.fields then
    some ((renderBundle services listed.disk.file.fields).objects.foldl collectObject allObjects)
  else none

/-- `api_project_stix`. -/
def apiProjectStix (pid : Nat) (projectName : String) (reports : List Listed) : Response Bundle :=
  if reports = [] then .notFound
  else
    match reports.foldlM (collectBundle services) PyDict.empty with
    | none => .failed
    | some allObjects =>
      if allObjects.items = [] then .notFound
      else .ok ⟨stableId services "bundle" ("project:" ++ toString pid ++ ":" ++ projectName),
        allObjects.items.map Prod.snd⟩

end Routes

/-! ### Merging layers -/

section Merging
variable (services : Services)

@[simp] theorem annotate_score (name : String) (t : Technique) : (annotate services name t).score = t.score := by
  unfold annotate
  split_ifs <;> rfl

@[simp] theorem annotate_id (name : String) (t : Technique) :
    (annotate services name t).techniqueId = t.techniqueId := by
  unfold annotate
  split_ifs <;> rfl

/-- The merge of the techniques of layers, each with the file it is of. -/
def mergeTechniques (named : List (String × Technique)) : PyDict String Technique :=
  named.foldl (fun merged entry => mergeTechnique services entry.1 merged entry.2) PyDict.empty

def scoresOf (tid : String) (named : List (String × Technique)) : Set Int :=
  {score | ∃ entry ∈ named, entry.2.techniqueId = tid ∧ entry.2.score = score}

theorem scoresOf_concat (tid : String) (named : List (String × Technique)) (entry : String × Technique) :
    scoresOf tid (named ++ [entry]) =
      if entry.2.techniqueId = tid then insert entry.2.score (scoresOf tid named) else scoresOf tid named := by
  ext score
  split_ifs with own
  · simp only [scoresOf, Set.mem_ofPred_eq, Set.mem_insert_iff, List.mem_append, List.mem_singleton]
    constructor
    · rintro ⟨other, listed | rfl, same, rfl⟩
      · exact .inr ⟨other, listed, same, rfl⟩
      · exact .inl rfl
    · rintro (rfl | ⟨other, listed, same, rfl⟩)
      · exact ⟨entry, .inr rfl, own, rfl⟩
      · exact ⟨other, .inl listed, same, rfl⟩
  · simp only [scoresOf, Set.mem_ofPred_eq, List.mem_append, List.mem_singleton]
    constructor
    · rintro ⟨other, listed | rfl, same, rfl⟩
      · exact ⟨other, listed, same, rfl⟩
      · exact absurd same own
    · rintro ⟨other, listed, same, rfl⟩
      exact ⟨other, .inl listed, same, rfl⟩

theorem indexed_mergeTechniques (named : List (String × Technique)) : Indexed (mergeTechniques services named) := by
  induction named using List.reverseRecOn with
  | nil => exact fun _ _ found => by cases found
  | append_singleton named entry ih =>
    intro tid t found
    rw [mergeTechniques, List.foldl_append] at found
    change (mergeTechnique services entry.1 (mergeTechniques services named) entry.2).get tid = some t at found
    unfold mergeTechnique at found
    dsimp only at found
    split_ifs at found
    · exact ih tid t found
    · rw [PyDict.get_set] at found
      split_ifs at found with own
      · obtain rfl := Option.some.inj found
        rw [annotate_id, ← own]
        split
        · rename_i existing before
          split_ifs
          · rfl
          · exact ih _ existing before
        · rfl
      · exact ih tid t found

/-- The merge itself keeps every technique, with the highest of its scores. -/
theorem mergeTechniques_highest (named : List (String × Technique)) {tid : String} (some_ : tid ≠ "") :
    match (mergeTechniques services named).get tid with
    | some t => IsGreatest (scoresOf tid named) t.score
    | none => scoresOf tid named = ∅ := by
  induction named using List.reverseRecOn with
  | nil => simp [mergeTechniques, scoresOf]
  | append_singleton named entry ih =>
    have step : mergeTechniques services (named ++ [entry]) =
        mergeTechnique services entry.1 (mergeTechniques services named) entry.2 := by
      rw [mergeTechniques, List.foldl_append]
      rfl
    rw [step, scoresOf_concat, mergeTechnique]
    by_cases own : entry.2.techniqueId = tid
    · rw [if_neg (by rw [own]; exact some_), if_pos own, own, PyDict.get_set_self]
      simp only [annotate_score]
      cases before : (mergeTechniques services named).get tid with
      | none =>
        rw [before] at ih
        rw [ih]
        simp
      | some existing =>
        rw [before] at ih
        have inserted := IsGreatest.insert entry.2.score ih
        dsimp only
        split_ifs with higher
        · rw [max_eq_left higher.le] at inserted
          exact inserted
        · rw [max_eq_right (not_lt.mp higher)] at inserted
          exact inserted
    · rw [if_neg own]
      split_ifs
      · exact ih
      · dsimp only
        rw [PyDict.get_set, if_neg own]
        exact ih

/-- The techniques of the layer that is rendered of a file as it is. -/
def ownTechniques (domain : AttackDomain) (listed : Listed) : List (String × Technique) :=
  ((renderLayers services.library services.numbers listed.disk.file.fields domain).elim [] Layer.techniques).map
    (listed.name, ·)

/-- The loop over the reports merges the techniques of their layers. -/
theorem merged_eq (domain : AttackDomain) (reports : List Listed) {merge last : LayerMerge}
    (runs : reports.foldlM (mergeLayer services domain) merge = some last) :
    last.merged = (reports.flatMap (ownTechniques services domain)).foldl
      (fun merged entry => mergeTechnique services entry.1 merged entry.2) merge.merged := by
  induction reports generalizing merge with
  | nil =>
    obtain rfl := Option.some.inj runs
    rfl
  | cons listed rest ih =>
    rw [List.foldlM_cons] at runs
    obtain ⟨next, step, runs⟩ := Option.bind_eq_some_iff.mp runs
    have merged : next.merged = (ownTechniques services domain listed).foldl
        (fun merged entry => mergeTechnique services entry.1 merged entry.2) merge.merged := by
      unfold mergeLayer at step
      unfold ownTechniques
      dsimp only at step
      split_ifs at step
      cases rendered : renderLayers services.library services.numbers listed.disk.file.fields domain with
      | none =>
        rw [rendered] at step
        obtain rfl := Option.some.inj step
        rfl
      | some layer =>
        rw [rendered] at step
        obtain rfl := Option.some.inj step
        rw [Option.elim_some, List.foldl_map]
    rw [ih runs, List.flatMap_cons, List.foldl_append, merged]

/-- A project's layer has the highest score that a technique has in the layers of the files. -/
theorem apiProjectNavigator_highest {projectName : String} {domain : AttackDomain} {reports : List Listed}
    {layer : Layer} (answered : apiProjectNavigator services projectName domain reports = .ok layer) {t : Technique}
    (listed : t ∈ layer.techniques) (some_ : t.techniqueId ≠ "") :
    IsGreatest (scoresOf t.techniqueId (reports.flatMap (ownTechniques services domain))) t.score := by
  unfold apiProjectNavigator at answered
  split_ifs at answered
  split at answered
  · cases answered
  · cases answered
  · rename_i merged template runs
    have whole : merged = mergeTechniques services (reports.flatMap (ownTechniques services domain)) :=
      merged_eq services domain reports runs
    split_ifs at answered
    obtain rfl := Response.ok.inj answered
    obtain ⟨⟨key, t⟩, item, rfl⟩ := List.mem_map.mp (mem_byScore.mp listed)
    rw [whole] at item
    have found := PyDict.mem_items_iff.mp item
    obtain rfl : t.techniqueId = key := indexed_mergeTechniques services _ key t found
    have highest := mergeTechniques_highest services (reports.flatMap (ownTechniques services domain)) some_
    rw [found] at highest
    exact highest

end Merging

end Marlinspike.Emit.Exports
