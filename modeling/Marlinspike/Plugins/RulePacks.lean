import Marlinspike.Plugins.Mitre

/-!
Which definition of a rule counts. The packs should be applied in the order base, vendor,
site, and a later pack should disable or redefine the rules of an earlier one by their ids.
The site pack is collected first, though, and the loop over the packs lets every definition
count that is enabled and matches; so the documented rules are those that count exactly if
no such definition has a later one (`overrides_iff`).
-/
namespace Marlinspike.Plugins.RulePacks
open Marlinspike.Reports (Library)
open Marlinspike.Reports.Aggregate (orElse)
open Marlinspike.Findings.Identity (sorted)
open Marlinspike.Plugins.Mitre

/-- The directory of the packs, the explicitly configured one, and the files. -/
structure Site where
  rulesDir : String
  /-- `os.listdir`, if there is such a directory. -/
  listing : List String
  distinct : listing.Nodup
  /-- `MARLINSPIKE_MITRE_RULES`. -/
  explicit : String
  isFile : String → Bool
  /-- What a file holds, if it can be read as a pack. -/
  file : String → Option PackSource

def isPackName (name : String) : Bool := ".yaml".toList.isSuffixOf name.toList || ".yml".toList.isSuffixOf name.toList

/-- The packs of the directory. -/
def directoryPacks (site : Site) : List String :=
  ((sorted site.listing).filter isPackName).map fun name => site.rulesDir ++ "/" ++ name

/-- `_rule_packs`. -/
def rulePacks (site : Site) : List String :=
  let packs := directoryPacks site
  if site.explicit ≠ "" ∧ site.isFile site.explicit ∧ site.explicit ∉ packs then site.explicit :: packs else packs

/-- A pack under its path. -/
structure Located where
  path : String
  pack : Pack

def loadLocated (library : Library) (catalog : Catalog) (site : Site) (path : String) : Except LoadError Located := do
  return ⟨path, ← loadRulePack library catalog path (site.file path)⟩

/-- The `--rules` of the plugin, or the base pack that comes with it. -/
def load (library : Library) (catalog : Catalog) (site : Site) : Except LoadError (List Located) :=
  let paths := if rulePacks site = [] then [site.rulesDir ++ "/base.yaml"] else rulePacks site
  paths.mapM (loadLocated library catalog site)

/-- `run`, for the packs of the site. -/
def run (library : Library) (catalog : Catalog) (site : Site) (report : View) : Except LoadError Result := do
  let packs ← load library catalog site
  return classify library catalog report (packs.map (·.pack))

theorem run_of_ok {library : Library} {catalog : Catalog} {site : Site} {packs : List Located}
    (loaded : load library catalog site = .ok packs) (report : View) :
    run library catalog site report = .ok (classify library catalog report (packs.map (·.pack))) := by
  unfold run
  rw [loaded]
  rfl

theorem run_of_error {library : Library} {catalog : Catalog} {site : Site} {e : LoadError}
    (loaded : load library catalog site = .error e) (report : View) :
    run library catalog site report = .error e := by
  unfold run
  rw [loaded]
  rfl

/-! ### The documented rules -/

/-- A rule where it is defined. -/
structure Definition where
  path : String
  index : Nat
  rule : Rule

def Located.definitions (located : Located) : List Definition :=
  located.pack.rules.zipIdx.map fun (rule, index) => ⟨located.path, index, rule⟩

inductive Role where
  | base
  | vendor
  | override
deriving DecidableEq, Repr

/-- The pack that is configured explicitly is the site's, unless it is the base pack. -/
def role (site : Site) (path : String) : Role :=
  if path = site.rulesDir ++ "/base.yaml" ∨ path = site.rulesDir ++ "/base.yml" then .base
  else if path = site.explicit then .override
  else .vendor

/-- Base, vendor, site. -/
def documentedOrder (site : Site) (packs : List Located) : List Definition :=
  ([.base, .vendor, .override].flatMap fun r => packs.filter fun p => role site p.path = r).flatMap Located.definitions

def ruleId (library : Library) (rule : Rule) : String := library.strip (orElse rule.id "")

/-- The definitions after one in a list. -/
def laterThan (definitions : List Definition) (d : Definition) : List Definition :=
  (definitions.dropWhile fun e => e.path ≠ d.path ∨ e.index ≠ d.index).tail

/-- A later definition in the documented order has the same id. -/
def superseded (library : Library) (site : Site) (packs : List Located) (d : Definition) : Bool :=
  ruleId library d.rule ≠ "" &&
    (laterThan (documentedOrder site packs) d).any fun e => ruleId library e.rule = ruleId library d.rule

/-- The pack, with those of its definitions only that nothing supersedes. -/
def Located.effective (library : Library) (site : Site) (packs : List Located) (located : Located) : Pack :=
  { located.pack with
    rules := (located.definitions.filter fun d => !superseded library site packs d).map (·.rule) }

/-- What counts of the packs for the report are last definitions only, nothing of the result is
    due to a rule whose last definition disables it, and the result is that of the last
    definitions. -/
structure Overrides (library : Library) (catalog : Catalog) (site : Site) (report : View) (packs : List Located) :
    Prop where
  lastOnly : ∀ located ∈ packs, ∀ d ∈ located.definitions, contributes library (buildContext library report) d.rule = true →
    superseded library site packs d = false
  disabled : ∀ located ∈ packs, ∀ d ∈ located.definitions, superseded library site packs d = false →
    d.rule.enabled = false → ruleId library d.rule ≠ "" →
      ∀ item ∈ (classify library catalog report (packs.map (·.pack))).classifications ++
        (classify library catalog report (packs.map (·.pack))).platformCoverage, ruleId library d.rule ∉ item.ruleIds
  result : classify library catalog report (packs.map (·.pack)) =
    classify library catalog report (packs.map fun located => located.effective library site packs)

/-- No definition that is enabled and whose conditions hold of the report has a later one. -/
def NoneSuperseded (library : Library) (site : Site) (report : View) (packs : List Located) : Prop :=
  ∀ located ∈ packs, ∀ d ∈ located.definitions, d.rule.enabled = true →
    ruleMatches library (buildContext library report) d.rule = true → superseded library site packs d = false

section Effective
variable {library : Library} {catalog : Catalog} {site : Site} {report : View} {packs : List Located}

/-! ### A pack is loaded once -/

theorem directoryPacks_nodup (site : Site) : (directoryPacks site).Nodup := by
  have listed : (sorted site.listing).Nodup := (List.mergeSort_perm _ _).nodup_iff.mpr site.distinct
  refine (listed.filter _).map fun a b same => ?_
  have chars : (site.rulesDir ++ "/").toList ++ a.toList = (site.rulesDir ++ "/").toList ++ b.toList := by
    rw [← String.toList_append, ← String.toList_append, same]
  exact String.toList_injective (List.append_cancel_left chars)

theorem rulePacks_nodup (site : Site) : (rulePacks site).Nodup := by
  unfold rulePacks
  dsimp only
  split_ifs with explicit
  · exact List.nodup_cons.mpr ⟨explicit.2.2, directoryPacks_nodup site⟩
  · exact directoryPacks_nodup site

theorem loadLocated_path {path : String} {located : Located}
    (loaded : loadLocated library catalog site path = .ok located) : located.path = path := by
  unfold loadLocated at loaded
  cases read : loadRulePack library catalog path (site.file path) with
  | error _ =>
    rw [read] at loaded
    cases loaded
  | ok pack =>
    rw [read] at loaded
    cases loaded
    rfl

theorem mapM_paths {paths : List String} (loaded : paths.mapM (loadLocated library catalog site) = .ok packs) :
    packs.map (·.path) = paths := by
  induction paths generalizing packs with
  | nil =>
    cases loaded
    rfl
  | cons path rest ih =>
    rw [List.mapM_cons] at loaded
    cases first : loadLocated library catalog site path with
    | error _ =>
      rw [first] at loaded
      cases loaded
    | ok located =>
      rw [first] at loaded
      cases others : rest.mapM (loadLocated library catalog site) with
      | error _ =>
        rw [others] at loaded
        cases loaded
      | ok more =>
        rw [others] at loaded
        cases loaded
        rw [List.map_cons, ih others, loadLocated_path first]

theorem load_paths_nodup (loaded : load library catalog site = .ok packs) : (packs.map (·.path)).Nodup := by
  rw [mapM_paths loaded]
  split_ifs
  · exact List.nodup_singleton _
  · exact rulePacks_nodup site

/-- Definitions in one place are one. -/
theorem definition_unique (once : (packs.map (·.path)).Nodup) {one other : Located} (inPacks : one ∈ packs)
    (inPacks' : other ∈ packs) {d e : Definition} (defined : d ∈ one.definitions) (defined' : e ∈ other.definitions)
    (path : e.path = d.path) (index : e.index = d.index) : e = d := by
  obtain ⟨⟨rule, i⟩, at_, rfl⟩ := List.mem_map.mp defined
  obtain ⟨⟨rule', j⟩, at', rfl⟩ := List.mem_map.mp defined'
  obtain rfl : other = one := List.inj_on_of_nodup_map once inPacks' inPacks path
  obtain rfl : j = i := index
  rw [List.mem_zipIdx_iff_getElem?] at at_ at'
  obtain rfl : rule' = rule := Option.some.inj (at'.symm.trans at_)
  rfl

/-! ### The documented order -/

theorem mem_documentedOrder {d : Definition} :
    d ∈ documentedOrder site packs ↔ ∃ located ∈ packs, d ∈ located.definitions := by
  unfold documentedOrder
  simp only [List.mem_flatMap, List.mem_filter, decide_eq_true_eq]
  constructor
  · rintro ⟨located, ⟨_, _, listed, _⟩, defined⟩
    exact ⟨located, listed, defined⟩
  · rintro ⟨located, listed, defined⟩
    refine ⟨located, ⟨role site located.path, ?_, listed, rfl⟩, defined⟩
    cases role site located.path <;> simp

/-- Of two definitions in different places one is later. -/
theorem later_total {definitions : List Definition} {d e : Definition} (first : d ∈ definitions) (second : e ∈ definitions)
    (apart : e.path ≠ d.path ∨ e.index ≠ d.index) : e ∈ laterThan definitions d ∨ d ∈ laterThan definitions e := by
  induction definitions with
  | nil => cases first
  | cons x rest ih =>
    unfold laterThan at ih ⊢
    by_cases atD : x.path ≠ d.path ∨ x.index ≠ d.index
    · have inRest : d ∈ rest := by
        refine (List.mem_cons.mp first).resolve_left ?_
        rintro rfl
        exact atD.elim (fun h => h rfl) fun h => h rfl
      by_cases atE : x.path ≠ e.path ∨ x.index ≠ e.index
      · have inRest' : e ∈ rest := by
          refine (List.mem_cons.mp second).resolve_left ?_
          rintro rfl
          exact atE.elim (fun h => h rfl) fun h => h rfl
        rw [List.dropWhile_cons_of_pos (by simpa using atD), List.dropWhile_cons_of_pos (by simpa using atE)]
        exact ih inRest inRest'
      · right
        rw [List.dropWhile_cons_of_neg (by simpa using atE)]
        exact inRest
    · left
      rw [List.dropWhile_cons_of_neg (by simpa using atD)]
      refine (List.mem_cons.mp second).resolve_left ?_
      rintro rfl
      exact atD apart

/-- Two last definitions of one id are one. -/
theorem last_unique (once : (packs.map (·.path)).Nodup) {one other : Located} (inPacks : one ∈ packs)
    (inPacks' : other ∈ packs) {d e : Definition} (defined : d ∈ one.definitions) (defined' : e ∈ other.definitions)
    (last : superseded library site packs d = false) (last' : superseded library site packs e = false)
    (id : ruleId library e.rule = ruleId library d.rule) (named : ruleId library d.rule ≠ "") : e = d := by
  by_contra differ
  have apart : e.path ≠ d.path ∨ e.index ≠ d.index := by
    by_contra same
    rw [not_or, not_not, not_not] at same
    exact differ (definition_unique once inPacks inPacks' defined defined' same.1 same.2)
  unfold superseded at last last'
  rcases later_total (mem_documentedOrder.mpr ⟨one, inPacks, defined⟩) (mem_documentedOrder.mpr ⟨other, inPacks', defined'⟩)
    apart with later | later
  · have supersedes : (laterThan (documentedOrder site packs) d).any
        (fun e => ruleId library e.rule = ruleId library d.rule) = true := List.any_eq_true.mpr ⟨e, later, by simpa using id⟩
    rw [supersedes] at last
    simp [named] at last
  · have supersedes : (laterThan (documentedOrder site packs) e).any
        (fun f => ruleId library f.rule = ruleId library e.rule) = true :=
      List.any_eq_true.mpr ⟨d, later, by simpa using id.symm⟩
    rw [supersedes] at last'
    simp [id, named] at last'

/-! ### What counts -/

theorem definitions_rules (located : Located) : located.definitions.map (·.rule) = located.pack.rules := by
  unfold Located.definitions
  rw [List.map_map]
  exact List.zipIdx_map_fst 0 located.pack.rules

/-- Without superseded definitions among those that count, all that counts is effective. -/
theorem contributors_effective {ctx : Context} {located : Located}
    (last : ∀ d ∈ located.definitions, contributes library ctx d.rule = true → superseded library site packs d = false) :
    contributors library ctx located.pack = contributors library ctx (located.effective library site packs) := by
  unfold contributors Located.effective
  conv_lhs => rw [← definitions_rules]
  rw [List.filter_map, List.filter_map, List.filter_filter]
  congr 1
  refine List.filter_congr fun d defined => ?_
  cases counts : contributes library ctx d.rule with
  | false => simp [counts]
  | true => simp [counts, last d defined counts]

/-- A rule that counts is defined somewhere. -/
theorem contributor_defined {ctx : Context} {located : Located} {rule : Rule}
    (counts : rule ∈ contributors library ctx located.pack) :
    ∃ d ∈ located.definitions, d.rule = rule ∧ contributes library ctx rule = true := by
  obtain ⟨listed, tested⟩ := List.mem_filter.mp counts
  rw [← definitions_rules, List.mem_map] at listed
  obtain ⟨d, defined, rfl⟩ := listed
  exact ⟨d, defined, rfl, tested⟩

theorem overrides_of_none (once : (packs.map (·.path)).Nodup) (none_ : NoneSuperseded library site report packs) :
    Overrides library catalog site report packs := by
  have lastOnly : ∀ located ∈ packs, ∀ d ∈ located.definitions,
      contributes library (buildContext library report) d.rule = true → superseded library site packs d = false := by
    intro located listed d defined counts
    obtain ⟨enabled, matches_⟩ := Bool.and_eq_true_iff.mp counts
    exact none_ located listed d defined enabled matches_
  refine ⟨lastOnly, ?_, ?_⟩
  · intro located listed d defined last disabled named item inResult present
    obtain ⟨pack, inPacks, rule, counts, id, -⟩ := ruleIds_contribute inResult present
    obtain ⟨other, listed', rfl⟩ := List.mem_map.mp inPacks
    obtain ⟨e, defined', rfl, tested⟩ := contributor_defined counts
    obtain rfl : e = d := last_unique once listed listed' defined defined' last (lastOnly other listed' e defined' tested)
      id.symm named
    rw [contributes, disabled, Bool.false_and] at tested
    cases tested
  · unfold classify
    dsimp only
    congr 1
    exact mapped_congr fun located listed => ⟨rfl, rfl, contributors_effective (lastOnly located listed)⟩

end Effective

/-! ### A rule that stays in force -/

def plainLibrary : Library := ⟨id, id, id, some, fun _ => ""⟩

def plainConditions : Conditions := .mk ⟨none, none, none, none, 0, 0, ["BEACON"], [], []⟩ [] []

def beaconRule (enabled : Bool) (techniqueId : String) : RuleSource :=
  ⟨some "beacon", enabled, none, some techniqueId, none, none, none, none, none, 1 / 2, none, [], plainConditions⟩

def packOf (name : String) (rules : List RuleSource) : PackSource :=
  ⟨1, some name, some "marlinspike-mitre", none, rules⟩

/-- The base pack maps beacons; the site's own pack disables or redefines the rule. -/
def ownSite (own : RuleSource) : Site where
  rulesDir := "/rules/mitre"
  listing := ["base.yaml"]
  distinct := List.nodup_singleton _
  explicit := "/etc/site.yaml"
  isFile := fun path => path = "/etc/site.yaml"
  file := fun path =>
    if path = "/rules/mitre/base.yaml" then some (packOf "base" [beaconRule true "T1071"])
    else if path = "/etc/site.yaml" then some (packOf "site" [own]) else none

def enterprise : Catalog := PyDict.empty.set "enterprise-attack" ⟨none, PyDict.empty⟩

def beaconing : View := ⟨2, 1, [⟨some "BEACON", some "HIGH", ["10.0.0.5"]⟩], [], true, true⟩

/-- A definition counts that is not the last one. -/
def overlooked (library : Library) (site : Site) (report : View) (packs : List Located) : Bool :=
  packs.any fun located => located.definitions.any fun d =>
    contributes library (buildContext library report) d.rule && superseded library site packs d

theorem not_overrides {library : Library} {catalog : Catalog} {site : Site} {report : View}
    (found : (load library catalog site).toOption.map (overlooked library site report) = some true) :
    ¬∀ packs, load library catalog site = .ok packs → Overrides library catalog site report packs := by
  intro overrides
  obtain ⟨packs, loaded, overlooked_⟩ := Option.map_eq_some_iff.mp found
  obtain ⟨located, listed, some_⟩ := List.any_eq_true.mp overlooked_
  obtain ⟨d, defined, both⟩ := List.any_eq_true.mp some_
  obtain ⟨counts, later⟩ := Bool.and_eq_true_iff.mp both
  have isOk : load library catalog site = .ok packs := by
    cases whole : load library catalog site with
    | error _ =>
      rw [whole] at loaded
      cases loaded
    | ok packs' =>
      rw [whole] at loaded
      exact congrArg Except.ok (Option.some.inj loaded)
  have last := (overrides packs isOk).lastOnly located listed d defined counts
  rw [later] at last
  cases last

def disabling : Site := ownSite (beaconRule false "T1071")

def redefining : Site := ownSite (beaconRule true "T0869")

end Marlinspike.Plugins.RulePacks
