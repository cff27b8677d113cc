import Mathlib.Algebra.Order.Ring.Unbundled.Rat
import Marlinspike.Plugins.Values

/-!
The advisories for the assets and CVEs of a report: every distinct vendor and product is a
search in the catalog, and so is every CVE that a finding names. Of the findings only their
`cve_id` counts (`runReport_congr`).
-/
namespace Marlinspike.Plugins.Cisa
open Marlinspike.Reports (Library)

/-- The vendored catalog: `advisories`, `sources` and `generated_at`. -/
structure Catalog where
  advisories : List Json
  sources : Json
  generatedAt : Json

/-- A group of the rules file, with what else it goes by. -/
structure Group where
  name : String
  aliases : List String
deriving DecidableEq, Repr

section Search
variable (library : Library) (numbers : Numbers) (isWord : Char → Bool)

/-- `_normalize`. -/
def normalize (text : String) : String :=
  library.lower (String.ofList ([' '].intercalate ((text.toList.splitOnP isSpace).filter (· ≠ []))))

/-- The fields that are searched, and their weights. -/
def searchFields : List (String × Nat) :=
  [("id", 100), ("cve_refs", 80), ("vendor", 60), ("product", 50), ("title", 30), ("description", 10), ("notes", 5)]

/-- `_field_text`. -/
def fieldText (advisory : Json) (field : String) : String :=
  match advisory.get field with
  | .arr items => normalize library (" ".intercalate (items.map (Json.toText library)))
  | other => normalize library (other.text library)

/-- `_load_expansions`. -/
def loadExpansions (groups : List Group) : PyDict String (List String) :=
  groups.foldl (fun expansions group =>
    let terms := ((normalize library group.name) :: group.aliases.map (normalize library)).filter (· ≠ "")
    terms.foldl (fun expansions term => expansions.set term terms) expansions) PyDict.empty

/-- `_build_term_groups`: the whole term first, then its words. -/
def buildTermGroups (term : String) (expansions : PyDict String (List String)) : List (List String) :=
  let normalized := normalize library term
  match expansions.get normalized with
  | some terms => [terms]
  | none => ((normalized.toList.splitOnP isSpace).filter (· ≠ [])).map fun word =>
      (expansions.get (String.ofList word)).getD [String.ofList word]

/-- `\b` between two characters. -/
def boundary (before after : Option Char) : Bool := before.any isWord != after.any isWord

/-- Where the term occurs: the character before it and the one after it. -/
def occurrences (term : List Char) : Option Char → List Char → List (Option Char × Option Char)
  | before, [] => if term = [] then [(before, none)] else []
  | before, c :: rest =>
    (if term.isPrefixOf (c :: rest) then [(before, ((c :: rest).drop term.length).head?)] else []) ++
      occurrences term (some c) rest

/-- The term as a word of its own. -/
def isWholeWord (term haystack : List Char) : Bool :=
  (occurrences term none haystack).any fun sides =>
    boundary isWord sides.1 term.head? && boundary isWord term.getLast? sides.2

/-- The weight of one term in one field: double for a whole word. -/
def termScore (advisory : Json) (term : String) (field : String × Nat) : Nat :=
  let haystack := fieldText library advisory field.1
  if haystack = "" ∨ (occurrences term.toList none haystack.toList).isEmpty then 0
  else if isWholeWord isWord term.toList haystack.toList then field.2 * 2
  else field.2

def groupScore (advisory : Json) (group : List String) : Nat :=
  (group.flatMap fun term => searchFields.map (termScore library isWord advisory term)).foldl max 0

/-- `_score_advisory`: every group must match. -/
def scoreAdvisory (advisory : Json) (groups : List (List String)) : Nat :=
  let scores := groups.map (groupScore library isWord advisory)
  if scores.any (· = 0) then 0 else scores.sum

/-- The order of a pair: the greater number first, then the earlier date. -/
def cvss (numbers : Numbers) (advisory : Json) : Rat :=
  match advisory.get "cvss_score" with
  | .null => 0
  | other => (other.toRat numbers).getD 0

def dateAdded (advisory : Json) : String := (advisory.get "date_added").text library

/-- `search`, without a limit. -/
def search (groups : List Group) (catalog : Catalog) (term : String) : List Json :=
  let termGroups := buildTermGroups library term (loadExpansions library groups)
  if termGroups = [] then []
  else
    let scored := (catalog.advisories.map fun a => (scoreAdvisory library isWord a termGroups, a)).filter fun s => 1 ≤ s.1
    (scored.mergeSort fun a b => b.1 < a.1 ∨ a.1 = b.1 ∧ (cvss numbers b.2 < cvss numbers a.2 ∨
      cvss numbers a.2 = cvss numbers b.2 ∧ dateAdded library a.2 ≤ dateAdded library b.2)).map Prod.snd

/-- What is found: the advisories that every group of the term matches. -/
theorem mem_search {groups : List Group} {catalog : Catalog} {term : String} {advisory : Json} :
    advisory ∈ search library numbers isWord groups catalog term ↔ advisory ∈ catalog.advisories ∧
      buildTermGroups library term (loadExpansions library groups) ≠ [] ∧
      1 ≤ scoreAdvisory library isWord advisory (buildTermGroups library term (loadExpansions library groups)) := by
  unfold search
  dsimp only
  split_ifs with none_
  · simp [none_]
  · simp only [List.mem_map, List.mem_mergeSort, List.mem_filter, decide_eq_true_eq]
    constructor
    · rintro ⟨_, ⟨⟨other, member, rfl⟩, scored⟩, rfl⟩
      exact ⟨member, none_, scored⟩
    · rintro ⟨member, -, scored⟩
      exact ⟨_, ⟨⟨advisory, member, rfl⟩, scored⟩, rfl⟩

end Search

/-! ### What is read of a report -/

/-- An asset that is searched for. -/
structure Asset where
  nodeId : String
  vendor : String
  product : String
deriving DecidableEq, Repr

def Asset.searchTerm (library : Library) (asset : Asset) : String :=
  library.lower (if asset.vendor ≠ "" ∧ asset.product ≠ "" then asset.vendor ++ " " ++ asset.product
    else if asset.vendor ≠ "" then asset.vendor else asset.product)

section Report
variable (library : Library) (numbers : Numbers) (isWord : Char → Bool) (isCve : String → Bool)

def assetOf (idKey : String) (item : Json) : Asset :=
  ⟨(item.get idKey).text library, (item.get "vendor").stripped library, (item.get "product").stripped library⟩

/-- `_add_asset`, one after the other: the first of each vendor and product. -/
def addAssets (assets : List Asset) : List Asset :=
  let keyOf := fun a : Asset => (library.lower a.vendor, library.lower a.product)
  assets.foldl (fun kept a =>
    if (a.vendor = "" ∧ a.product = "") ∨ keyOf a ∈ kept.map keyOf then kept else kept ++ [a]) []

/-- The items of a field; none if one of them is no object, where the plugin raises. -/
def itemsOf (value : Json) : Option (List Json) :=
  match value with
  | .arr items => if items.all Json.isObj then some items else none
  | other => if other.truthy then none else some []

/-- One finding's CVE id, if it is one and not seen yet. -/
def addCve (kept : List String) (finding : Json) : List String :=
  let cve := (finding.get "cve_id").stripped library
  if cve ≠ "" ∧ isCve cve ∧ library.upper cve ∉ kept.map library.upper then kept ++ [cve] else kept

/-- The CVE ids of the findings, each once. -/
def cveIds (findings : List Json) : List String := findings.foldl (addCve library isCve) []

/-- `_extract_report_terms`. -/
def extractReportTerms (report : Report) : Option (List Asset × List String) := do
  let inventory ← itemsOf ((report.get "asset_inventory").getD .null)
  let nodes ← itemsOf ((report.get "nodes").getD .null)
  let findings ← itemsOf ((report.get "risk_findings").getD .null)
  return (addAssets library (inventory.map (assetOf library "node_id") ++ nodes.map (assetOf library "id")),
    cveIds library isCve findings)

def maxAssetsSearched : Nat := 500

/-- The first advisory of each id. -/
def distinctAdvisories (advisories : List Json) : List Json :=
  advisories.foldl (fun kept a =>
    if (a.get "id").text library ∈ kept.map (fun b => (b.get "id").text library) then kept else kept ++ [a]) []

/-- What the artifact is put together of. -/
structure Result where
  assetsFound : Nat
  byAsset : List (Asset × List Json)
  allAdvisories : List Json
  uniqueTerms : Nat

/-- `run_report`; none if it raises. -/
def runReport (groups : List Group) (catalog : Catalog) (report : Report) : Option Result := do
  let terms ← extractReportTerms library isCve report
  let assets := terms.1.take maxAssetsSearched
  let byAsset := assets.map fun a => (a, search library numbers isWord groups catalog (a.searchTerm library))
  let found := byAsset.flatMap Prod.snd ++ terms.2.flatMap (search library numbers isWord groups catalog)
  let all := (distinctAdvisories library found).mergeSort fun a b => cvss numbers b < cvss numbers a ∨
    cvss numbers a = cvss numbers b ∧ dateAdded library a ≤ dateAdded library b
  return ⟨terms.1.length, byAsset, all, assets.length + terms.2.length⟩

end Report

/-- A finding that a search is made for. -/
def namesCve (library : Library) (isCve : String → Bool) (finding : Json) : Bool :=
  (finding.get "cve_id").stripped library ≠ "" && isCve ((finding.get "cve_id").stripped library)

section Cves
variable {library : Library} {isCve : String → Bool}

theorem addCve_silent {f : Json} (silent : namesCve library isCve f = false) (kept : List String) :
    addCve library isCve kept f = kept := by
  refine if_neg ?_
  rintro ⟨named, isOne, -⟩
  simp [namesCve, named, isOne] at silent

/-- Findings at the end that name no CVE make no difference. -/
theorem cveIds_append {findings silent : List Json} (blank : ∀ f ∈ silent, namesCve library isCve f = false) :
    cveIds library isCve (findings ++ silent) = cveIds library isCve findings := by
  unfold cveIds
  rw [List.foldl_append]
  refine List.foldlRecOn (motive := fun kept => kept = _) silent _ rfl fun kept same f member => ?_
  rw [addCve_silent (blank f member), same]

/-- A CVE is searched for if some finding names it, in whatever case. -/
theorem mem_cveIds {findings : List Json} {cve : String} :
    cve ∈ (cveIds library isCve findings).map library.upper ↔
      ∃ f ∈ findings, namesCve library isCve f = true ∧ library.upper ((f.get "cve_id").stripped library) = cve := by
  suffices folded : ∀ kept, cve ∈ (findings.foldl (addCve library isCve) kept).map library.upper ↔
      cve ∈ kept.map library.upper ∨
        ∃ f ∈ findings, namesCve library isCve f = true ∧ library.upper ((f.get "cve_id").stripped library) = cve by
    simpa [cveIds] using folded []
  induction findings with
  | nil => simp
  | cons f rest ih =>
    intro kept
    have one : cve ∈ (addCve library isCve kept f).map library.upper ↔ cve ∈ kept.map library.upper ∨
        (namesCve library isCve f = true ∧ library.upper ((f.get "cve_id").stripped library) = cve) := by
      cases names : namesCve library isCve f with
      | false => simp [addCve_silent names]
      | true =>
        obtain ⟨named, isOne⟩ : (f.get "cve_id").stripped library ≠ "" ∧ isCve ((f.get "cve_id").stripped library) := by
          simpa [namesCve] using names
        unfold addCve
        dsimp only
        by_cases seen : library.upper ((f.get "cve_id").stripped library) ∈ kept.map library.upper
        · rw [if_neg fun new => new.2.2 seen]
          refine ⟨.inl, ?_⟩
          rintro (old | ⟨-, rfl⟩)
          · exact old
          · exact seen
        · rw [if_pos ⟨named, isOne, seen⟩, List.map_append, List.mem_append]
          simp [eq_comm]
    rw [List.foldl_cons, ih, one, or_assoc]
    simp only [List.mem_cons, exists_eq_or_imp]

theorem nodup_cveIds {findings : List Json} : ((cveIds library isCve findings).map library.upper).Nodup := by
  refine List.foldlRecOn (motive := fun kept : List String => (kept.map library.upper).Nodup) findings _ List.nodup_nil
    fun kept distinct f _ => ?_
  unfold addCve
  dsimp only
  split_ifs with new
  · rw [List.map_append, List.nodup_append]
    refine ⟨distinct, List.nodup_singleton _, ?_⟩
    rintro a old b last rfl
    rw [List.mem_singleton.mp last] at old
    exact new.2.2 old
  · exact distinct

/-- If as many CVEs are named by the findings that are kept as by all, they are the same. -/
theorem cves_of_length {findings : List Json} {keep : Json → Bool}
    (asMany : (cveIds library isCve (findings.filter keep)).length = (cveIds library isCve findings).length) {f : Json}
    (listed : f ∈ findings) (names : namesCve library isCve f = true) :
    ∃ g ∈ findings, keep g = true ∧ namesCve library isCve g = true ∧
      library.upper ((g.get "cve_id").stripped library) = library.upper ((f.get "cve_id").stripped library) := by
  have among : (cveIds library isCve (findings.filter keep)).map library.upper ⊆
      (cveIds library isCve findings).map library.upper := by
    intro cve member
    obtain ⟨g, kept, rest⟩ := mem_cveIds.mp member
    exact mem_cveIds.mpr ⟨g, (List.mem_filter.mp kept).1, rest⟩
  have all := (List.subperm_of_subset nodup_cveIds among).perm_of_length_le (by simp [asMany])
  obtain ⟨g, kept, names', same⟩ := mem_cveIds.mp (all.symm.subset (mem_cveIds.mpr ⟨f, listed, names, rfl⟩))
  obtain ⟨inAll, stays⟩ := List.mem_filter.mp kept
  exact ⟨g, inAll, stays, names', same⟩

end Cves

theorem itemsOf_iterate {v : Json} {items : List Json} (iterated : v.iterate = some items) :
    itemsOf v = if items.all Json.isObj then some items else none := by
  cases v with
  | arr items' =>
    cases iterated
    rfl
  | obj entries =>
    cases iterated
    cases entries <;> rfl
  | str s =>
    cases iterated
    cases chars : s.toList with
    | nil =>
      obtain rfl : s = "" := String.toList_eq_nil_iff.mp chars
      rfl
    | cons c rest =>
      have some_ : s ≠ "" := by
        rintro rfl
        cases chars
      simp [itemsOf, Json.truthy, some_, Json.isObj]
  | null =>
    cases iterated
    rfl
  | bool b =>
    cases b with
    | false =>
      cases iterated
      rfl
    | true => cases iterated
  | int i =>
    unfold Json.iterate at iterated
    dsimp only at iterated
    split_ifs at iterated with zero
    cases iterated
    simp [itemsOf, zero]
  | float r =>
    unfold Json.iterate at iterated
    dsimp only at iterated
    split_ifs at iterated with zero
    cases iterated
    simp [itemsOf, zero]

/-! ### Reports with the same assets -/

/-- The assets of a report; none if the plugin raises. -/
def assetsOf (library : Library) (report : Report) : Option (List Asset) := do
  let inventory ← itemsOf ((report.get "asset_inventory").getD .null)
  let nodes ← itemsOf ((report.get "nodes").getD .null)
  return addAssets library (inventory.map (assetOf library "node_id") ++ nodes.map (assetOf library "id"))

section Same
variable {library : Library} {numbers : Numbers} {isWord : Char → Bool} {isCve : String → Bool} {groups : List Group}
  {catalog : Catalog} {report report' : Report} {findings findings' : List Json}

theorem extractReportTerms_eq (iterated : ((report.get "risk_findings").getD .null).iterate = some findings) :
    extractReportTerms library isCve report = (assetsOf library report).bind fun assets =>
      if findings.all Json.isObj then some (assets, cveIds library isCve findings) else none := by
  unfold extractReportTerms assetsOf
  rw [itemsOf_iterate iterated]
  cases itemsOf ((report.get "asset_inventory").getD .null) with
  | none => rfl
  | some inventory =>
    cases itemsOf ((report.get "nodes").getD .null) with
    | none => rfl
    | some nodes => cases findings.all Json.isObj <;> rfl

theorem assetsOf_congr (inventory : report.get "asset_inventory" = report'.get "asset_inventory")
    (nodes : report.get "nodes" = report'.get "nodes") : assetsOf library report = assetsOf library report' := by
  unfold assetsOf
  rw [inventory, nodes]

/-- Reports that differ in findings which name no CVE have the same result. -/
theorem runReport_congr (assets : assetsOf library report = assetsOf library report')
    (iterated : ((report.get "risk_findings").getD .null).iterate = some findings)
    (iterated' : ((report'.get "risk_findings").getD .null).iterate = some findings')
    (objects : findings.all Json.isObj = findings'.all Json.isObj)
    (cves : cveIds library isCve findings = cveIds library isCve findings') :
    runReport library numbers isWord isCve groups catalog report =
      runReport library numbers isWord isCve groups catalog report' := by
  unfold runReport
  rw [extractReportTerms_eq iterated, extractReportTerms_eq iterated', assets, objects, cves]

theorem runReport_ne_none (iterated : ((report.get "risk_findings").getD .null).iterate = some findings) :
    runReport library numbers isWord isCve groups catalog report ≠ none ↔
      assetsOf library report ≠ none ∧ findings.all Json.isObj = true := by
  unfold runReport
  rw [extractReportTerms_eq iterated]
  cases assetsOf library report with
  | none => simp
  | some assets => cases findings.all Json.isObj <;> simp

/-- Where the results are the same, as many CVEs have been searched for. -/
theorem cves_of_runReport_eq (assets : assetsOf library report = assetsOf library report')
    (iterated : ((report.get "risk_findings").getD .null).iterate = some findings)
    (iterated' : ((report'.get "risk_findings").getD .null).iterate = some findings')
    (objects : findings.all Json.isObj = findings'.all Json.isObj)
    (ran : runReport library numbers isWord isCve groups catalog report' ≠ none)
    (same : runReport library numbers isWord isCve groups catalog report =
      runReport library numbers isWord isCve groups catalog report') :
    (cveIds library isCve findings).length = (cveIds library isCve findings').length := by
  obtain ⟨some_, typed⟩ := (runReport_ne_none iterated').mp ran
  obtain ⟨found, present⟩ := Option.ne_none_iff_exists'.mp some_
  unfold runReport at same
  rw [extractReportTerms_eq iterated, extractReportTerms_eq iterated', assets, objects, typed, present] at same
  have terms := congrArg (Option.map Result.uniqueTerms) same
  simpa using terms

end Same

end Marlinspike.Plugins.Cisa
