import Marlinspike.Emit.ReportFiles
import Marlinspike.Engine.Vulnerabilities
import Marlinspike.Firsts
import Marlinspike.Plugins.Cisa

/-!
The advisories for the reports of the engine. Its nodes have a product line and no id or product,
and its findings no CVE of their own; so the plugin searches for vendors alone, for assets that it
does not name (`enriched_iff`).
-/
namespace Marlinspike.Plugins.CisaCoverage
open Marlinspike.Reports (Library)
open Marlinspike.Firsts
open Marlinspike.Plugins.Cisa
open Marlinspike.Risk.Advisories (ReportNode)
open Marlinspike.Risk.Surface (RiskFinding)
open Marlinspike.Emit.ReportFiles
open Marlinspike.Engine.Vulnerabilities (names ReportNode.carried ReportNode.key)

def idOf (library : Library) (advisory : Json) : String := (advisory.get "id").text library

/-! ### First occurrences -/

section Distinct
variable (library : Library)

theorem distinctAdvisories_eq (advisories : List Json) :
    distinctAdvisories library advisories = firsts (idOf library) advisories := by
  induction advisories using List.reverseRecOn with
  | nil => rfl
  | append_singleton advisories last ih =>
    rw [firsts_concat, ← ih, distinctAdvisories, List.foldl_concat]
    rfl

def assetKey (asset : Asset) : String × String := (library.lower asset.vendor, library.lower asset.product)

/-- The assets that have a vendor or a product, each once. -/
theorem addAssets_eq (assets : List Asset) : addAssets library assets =
    firsts (assetKey library) (assets.filter fun a => ¬(a.vendor = "" ∧ a.product = "")) := by
  induction assets using List.reverseRecOn with
  | nil => rfl
  | append_singleton assets last ih =>
    rw [List.filter_append, addAssets, List.foldl_concat]
    change (if _ ∨ _ then addAssets library assets else addAssets library assets ++ [last]) = _
    by_cases blank : last.vendor = "" ∧ last.product = ""
    · have out : [last].filter (fun a => ¬(a.vendor = "" ∧ a.product = "")) = [] := by simp [blank]
      rw [out, List.append_nil, ← ih]
      exact if_pos (.inl blank)
    · have stays : [last].filter (fun a => ¬(a.vendor = "" ∧ a.product = "")) = [last] :=
        List.filter_cons_of_pos (decide_eq_true blank)
      rw [stays, firsts_concat, ← ih]
      by_cases seen : assetKey library last ∈ (addAssets library assets).map (assetKey library)
      · rw [if_pos seen]
        exact if_pos (.inr seen)
      · rw [if_neg seen]
        exact if_neg (not_or.mpr ⟨blank, seen⟩)

end Distinct

/-! ### What a report is to be searched for -/

section Enrichment
variable (library : Library) (numbers : Numbers) (isWord : Char → Bool) (isCve : String → Bool) (groups : List Group)
  (catalog : Catalog) (report : MarlinSpikeReport)

/-- The vendor of a node, and its product line where there is one. -/
def described (node : ReportNode) : Asset := ⟨ReportNode.key node, library.strip node.vendor, library.strip node.productLine⟩

/-- A CVE of a node, or of a finding of the catalog of advisories. -/
def Carries (cve : String) : Prop :=
  (∃ node ∈ report.nodes, ∃ vulnerability ∈ ReportNode.carried node, vulnerability.cve = cve) ∨
    ∃ finding ∈ report.riskFindings, finding.category = "CISA_ICS_ADVISORY" ∧ names cve finding = true

/-- All that the search finds for the nodes and CVEs, each once, and the assets by the keys of nodes. -/
structure Enriched (result : Result) : Prop where
  assets : ∀ node ∈ report.nodes, ∀ advisory ∈
    search library numbers isWord groups catalog ((described library node).searchTerm library),
      advisory ∈ result.allAdvisories
  cves : ∀ cve, Carries report cve → ∀ advisory ∈ search library numbers isWord groups catalog cve,
    advisory ∈ result.allAdvisories
  once : (result.allAdvisories.map (idOf library)).Nodup
  keys : ∀ entry ∈ result.byAsset, ∃ node ∈ report.nodes, ReportNode.key node = entry.1.nodeId ∧
    library.strip node.vendor = entry.1.vendor

/-- The vendors of the nodes, each once whatever its case. -/
def vendors : List String :=
  firsts library.lower ((report.nodes.map fun node => library.strip node.vendor).filter (· ≠ ""))

/-- It is a vendor whose search finds the advisory. -/
def OfVendor (advisory : Json) : Prop :=
  ∃ vendor ∈ vendors library report, advisory ∈ search library numbers isWord groups catalog (library.lower vendor)

/-- Nodes without an address have all vendors, and the searches for these find all there is. -/
structure Covering : Prop where
  addressless : ∀ vendor ∈ vendors library report, ∃ node ∈ report.nodes, ReportNode.key node = "" ∧
    library.strip node.vendor = vendor
  productLines : ∀ node ∈ report.nodes, ∀ advisory ∈
    search library numbers isWord groups catalog ((described library node).searchTerm library),
      OfVendor library numbers isWord groups catalog report advisory
  cves : ∀ cve, Carries report cve → ∀ advisory ∈ search library numbers isWord groups catalog cve,
    OfVendor library numbers isWord groups catalog report advisory

/-- The pairs of vendors and product lines, of which there are not too many. -/
def Few : Prop := ((report.nodes.map fun node => assetKey library (described library node)).dedup).length ≤ maxAssetsSearched

/-! ### What the plugin reads -/

/-- An asset of which the vendor is all there is. -/
def vendorAsset (vendor : String) : Asset := ⟨"", vendor, ""⟩

variable {library isCve report}

theorem assetOf_toJson (stripped : library.strip "" = "") (node : ReportNode) :
    assetOf library "id" (ReportNode.toJson node) = vendorAsset (library.strip node.vendor) := by
  have id : (ReportNode.toJson node).get "id" = .null := by
    cases cves : node.cveVulnerabilities <;> simp [ReportNode.toJson, nodeFields, Json.get, List.lookup_cons, cves]
  have vendor : (ReportNode.toJson node).get "vendor" = .str node.vendor := rfl
  have product : (ReportNode.toJson node).get "product" = .null := by
    cases cves : node.cveVulnerabilities <;> simp [ReportNode.toJson, nodeFields, Json.get, List.lookup_cons, cves]
  rw [assetOf, id, vendor, product, Json.stripped, Json.text_str, Json.stripped]
  simp [Json.text, Json.truthy, stripped, vendorAsset]

theorem silent_toJson (stripped : library.strip "" = "") (finding : RiskFinding) :
    namesCve library isCve (RiskFinding.toJson finding) = false := by
  have cve : (RiskFinding.toJson finding).get "cve_id" = .null := by
    simp [RiskFinding.toJson, Json.get, List.lookup_cons]
  simp [namesCve, cve, Json.stripped, Json.text, Json.truthy, stripped]

theorem itemsOf_objects {items : List Json} (objects : ∀ item ∈ items, item.isObj = true) :
    itemsOf (.arr items) = some items := if_pos (List.all_eq_true.mpr objects)

theorem addAssets_vendorAsset (texts : List String) : addAssets library (texts.map vendorAsset) =
    (firsts library.lower (texts.filter (· ≠ ""))).map vendorAsset := by
  have some_ : (texts.map vendorAsset).filter (fun a => ¬(a.vendor = "" ∧ a.product = "")) =
      (texts.filter (· ≠ "")).map vendorAsset := by
    rw [List.filter_map]
    exact congrArg _ (List.filter_congr fun text _ => decide_eq_decide.mpr (by simp [vendorAsset]))
  rw [addAssets_eq, some_, firsts_map]
  refine congrArg _ (firsts_congr fun text _ text' _ => ?_)
  simp [assetKey, vendorAsset]

/-- Vendors are all that is searched for. -/
theorem extractReportTerms_toDict (stripped : library.strip "" = "") : extractReportTerms library isCve report.toDict =
    some ((vendors library report).map vendorAsset, []) := by
  have inventory : report.toDict.get "asset_inventory" = none := toDict_of_not_mem report (by decide)
  have findings : report.toDict.get "risk_findings" = some (.arr (report.riskFindings.map RiskFinding.toJson)) := rfl
  have nodes_ : itemsOf (.arr (report.nodes.map ReportNode.toJson)) = some (report.nodes.map ReportNode.toJson) := by
    refine itemsOf_objects fun item member => ?_
    obtain ⟨node, -, rfl⟩ := List.mem_map.mp member
    rfl
  have findings_ : itemsOf (.arr (report.riskFindings.map RiskFinding.toJson)) =
      some (report.riskFindings.map RiskFinding.toJson) := by
    refine itemsOf_objects fun item member => ?_
    obtain ⟨finding, -, rfl⟩ := List.mem_map.mp member
    rfl
  have cves : cveIds library isCve (report.riskFindings.map RiskFinding.toJson) = [] := by
    refine @cveIds_append library isCve [] _ fun f member => ?_
    obtain ⟨finding, -, rfl⟩ := List.mem_map.mp member
    exact silent_toJson stripped finding
  have assets : addAssets library ((report.nodes.map ReportNode.toJson).map (assetOf library "id")) =
      (vendors library report).map vendorAsset := by
    have read : (report.nodes.map ReportNode.toJson).map (assetOf library "id") =
        (report.nodes.map fun node => library.strip node.vendor).map vendorAsset := by
      rw [List.map_map, List.map_map]
      exact List.map_congr_left fun node _ => assetOf_toJson stripped node
    rw [read, addAssets_vendorAsset, vendors]
  have none_ : itemsOf .null = some [] := rfl
  unfold extractReportTerms
  rw [inventory, toDict_nodes, findings, Option.getD_none, Option.getD_some, Option.getD_some, none_, nodes_, findings_]
  change some (addAssets library ([] ++ _), cveIds library isCve _) = _
  rw [List.nil_append, assets, cves]

variable (library)

/-- All that the searches for the vendors find. -/
def foundOf (report : MarlinSpikeReport) : List Json := (vendors library report).flatMap fun vendor =>
  search library numbers isWord groups catalog (library.lower vendor)

variable {library numbers isWord groups catalog}

theorem length_vendors (few : Few library report) : (vendors library report).length ≤ maxAssetsSearched := by
  refine Nat.le_trans ?_ few
  rw [← List.length_map library.lower, ← List.length_map (f := Prod.fst)]
  refine (List.subperm_of_subset (nodup_firsts _) fun lowered member => ?_).length_le
  obtain ⟨vendor, listed, rfl⟩ := List.mem_map.mp member
  obtain ⟨node, inside, rfl⟩ := List.mem_map.mp (List.mem_filter.mp (mem_of_mem_firsts listed)).1
  exact List.mem_map.mpr ⟨assetKey library (described library node), List.mem_dedup.mpr (List.mem_map_of_mem inside), rfl⟩

theorem runReport_toDict (stripped : library.strip "" = "") (few : Few library report) : ∃ result,
    runReport library numbers isWord isCve groups catalog report.toDict = some result ∧
    result.byAsset = (vendors library report).map (fun vendor =>
      (vendorAsset vendor, search library numbers isWord groups catalog (library.lower vendor))) ∧
    result.allAdvisories.Perm (firsts (idOf library) (foundOf library numbers isWord groups catalog report)) := by
  have searched : ∀ vendor, (vendorAsset vendor).searchTerm library = library.lower vendor := by
    intro vendor
    by_cases blank : vendor = "" <;> simp [vendorAsset, Asset.searchTerm, blank]
  have taken : ((vendors library report).map vendorAsset).take maxAssetsSearched = (vendors library report).map vendorAsset :=
    List.take_of_length_le (by rw [List.length_map]; exact length_vendors few)
  unfold runReport
  rw [extractReportTerms_toDict stripped]
  refine ⟨_, rfl, ?_, ?_⟩
  · dsimp only
    rw [taken, List.map_map]
    exact List.map_congr_left fun vendor _ => by rw [Function.comp_apply, searched]
  · dsimp only
    refine (List.mergeSort_perm _ _).trans ?_
    rw [distinctAdvisories_eq, taken, List.map_map, List.flatMap_nil, List.append_nil, List.flatMap_map, foundOf]
    simp only [Function.comp_apply, searched]
    exact List.Perm.refl _

theorem mem_foundOf {advisory : Json} : advisory ∈ foundOf library numbers isWord groups catalog report ↔
    OfVendor library numbers isWord groups catalog report advisory := List.mem_flatMap

/-- Advisories that are found are not taken for each other. -/
theorem mem_firsts_foundOf (distinct : (catalog.advisories.map (idOf library)).Nodup) {advisory : Json} :
    advisory ∈ firsts (idOf library) (foundOf library numbers isWord groups catalog report) ↔
      OfVendor library numbers isWord groups catalog report advisory := by
  rw [← mem_foundOf]
  refine ⟨mem_of_mem_firsts, fun member => ?_⟩
  have listed : ∀ a ∈ foundOf library numbers isWord groups catalog report, a ∈ catalog.advisories := by
    intro a found
    obtain ⟨vendor, -, found⟩ := List.mem_flatMap.mp found
    exact ((mem_search library numbers isWord).mp found).1
  have kept : idOf library advisory ∈
      (firsts (idOf library) (foundOf library numbers isWord groups catalog report)).map (idOf library) :=
    key_mem_firsts member
  obtain ⟨other, first, same⟩ := List.mem_map.mp kept
  rw [← List.inj_on_of_nodup_map distinct (listed other (mem_of_mem_firsts first)) (listed advisory member) same]
  exact first

theorem enriched_of_result (distinct : (catalog.advisories.map (idOf library)).Nodup) {result : Result}
    (entries : result.byAsset = (vendors library report).map (fun vendor =>
      (vendorAsset vendor, search library numbers isWord groups catalog (library.lower vendor))))
    (all : result.allAdvisories.Perm (firsts (idOf library) (foundOf library numbers isWord groups catalog report))) :
    Enriched library numbers isWord groups catalog report result ↔
      Covering library numbers isWord groups catalog report := by
  have mem : ∀ advisory, advisory ∈ result.allAdvisories ↔
      OfVendor library numbers isWord groups catalog report advisory :=
    fun advisory => all.mem_iff.trans (mem_firsts_foundOf distinct)
  constructor
  · intro enriched
    refine ⟨fun vendor listed => ?_, fun node inside advisory found => ?_, fun cve carried advisory found => ?_⟩
    · exact enriched.keys (vendorAsset vendor, _) (entries ▸ List.mem_map_of_mem listed)
    · exact (mem advisory).mp (enriched.assets node inside advisory found)
    · exact (mem advisory).mp (enriched.cves cve carried advisory found)
  · intro covering
    refine ⟨fun node inside advisory found => ?_, fun cve carried advisory found => ?_, ?_, fun entry listed => ?_⟩
    · exact (mem advisory).mpr (covering.productLines node inside advisory found)
    · exact (mem advisory).mpr (covering.cves cve carried advisory found)
    · exact (all.map _).nodup_iff.mpr (nodup_firsts _)
    · rw [entries] at listed
      obtain ⟨vendor, named, rfl⟩ := List.mem_map.mp listed
      exact covering.addressless vendor named

/-- The enrichment covers a report exactly if nodes without an address have all the vendors, and the
searches for these find all that there is to find. -/
theorem enriched_iff (stripped : library.strip "" = "") (distinct : (catalog.advisories.map (idOf library)).Nodup)
    (few : Few library report) :
    (∃ result, runReport library numbers isWord isCve groups catalog report.toDict = some result ∧
      Enriched library numbers isWord groups catalog report result) ↔
      Covering library numbers isWord groups catalog report := by
  obtain ⟨result, ran, entries, all⟩ :=
    @runReport_toDict library numbers isWord isCve groups catalog report stripped few
  rw [← enriched_of_result distinct entries all, ran]
  simp only [Option.some.injEq, exists_eq_left']

/-- Where all nodes have an address, a node with a vendor is enough. -/
theorem not_covering_of_addresses (all : ∀ node ∈ report.nodes, ReportNode.key node ≠ "") {node : ReportNode}
    (inside : node ∈ report.nodes) (some_ : library.strip node.vendor ≠ "") :
    ¬Covering library numbers isWord groups catalog report := by
  intro covering
  have listed : library.strip node.vendor ∈ (report.nodes.map fun node => library.strip node.vendor).filter (· ≠ "") :=
    List.mem_filter.mpr ⟨List.mem_map_of_mem inside, decide_eq_true some_⟩
  have kept : library.lower (library.strip node.vendor) ∈ (vendors library report).map library.lower := key_mem_firsts listed
  obtain ⟨vendor, listed, -⟩ := List.mem_map.mp kept
  obtain ⟨other, member, blank, -⟩ := covering.addressless vendor listed
  exact all other member blank

end Enrichment

/-! ### The report of a controller -/

open Marlinspike.Engine.Pipelines (Topology buildTopology chainReport)
open Marlinspike.Engine.Mirror (Stages.correlating fewStages plantArgs)
open Marlinspike.Engine.Vulnerabilities (cisaIcsCatalog correlatedNode controllerTables announced buildTopology_announced
  nodes_chainReport)
open Marlinspike.Risk.Advisories (ProfiledNode.reported)
open Marlinspike.Topology.Addresses (ProfiledNode.key)

/-- The report that the full chain writes. -/
def controllerReport (topology : Topology) : MarlinSpikeReport :=
  let report := chainReport (Stages.correlating (fewStages controllerTables announced) cisaIcsCatalog) plantArgs 60
    ⟨announced, .python, []⟩ topology
  { nodes := report.nodes
    riskFindings := report.riskFindings }

def asciiLibrary : Library :=
  ⟨controllerTables.lower, fun text => String.ofList (text.toList.map Char.toUpper), controllerTables.strip, fun _ => none,
    fun _ => ""⟩

def noNumbers : Numbers := ⟨fun _ => none, fun _ => none, fun _ => "", fun _ _ => "", fun _ r => r⟩

/-- A catalog of one advisory. -/
def oneAdvisory : Catalog where
  advisories := [.obj [("id", .str "ICSA-22-258-05"), ("cve_refs", .arr [.str "CVE-2022-38465"]), ("vendor", .str "Siemens"),
    ("product", .str "SIMATIC S7-1500"), ("type", .str "ics")]]
  sources := .obj []
  generatedAt := .null

theorem few_controllerReport {topology : Topology}
    (built : buildTopology (fewStages controllerTables announced) plantArgs announced = some topology) :
    Few asciiLibrary (controllerReport topology) := by
  have short : (buildTopology (fewStages controllerTables announced) plantArgs announced).map
      (fun t => decide (t.nodes.length ≤ maxAssetsSearched)) = some true := by decide +kernel
  rw [built, Option.map_some, Option.some.injEq, decide_eq_true_eq] at short
  refine Nat.le_trans (List.dedup_sublist _).length_le ?_
  rw [List.length_map, controllerReport, nodes_chainReport, List.length_map]
  exact short

theorem distinct_oneAdvisory : (oneAdvisory.advisories.map (idOf asciiLibrary)).Nodup := List.nodup_singleton _

theorem strip_asciiLibrary : asciiLibrary.strip "" = "" := by decide +kernel

theorem enriched_controller : ∃ topology,
    buildTopology (fewStages controllerTables announced) plantArgs announced = some topology ∧
    ((∃ result, runReport asciiLibrary noNumbers Char.isAlphanum (fun _ => true) [] oneAdvisory
        (controllerReport topology).toDict = some result ∧
      Enriched asciiLibrary noNumbers Char.isAlphanum [] oneAdvisory (controllerReport topology) result) ↔
      Covering asciiLibrary noNumbers Char.isAlphanum [] oneAdvisory (controllerReport topology)) := by
  obtain ⟨topology, built⟩ := buildTopology_announced
  exact ⟨topology, built, enriched_iff strip_asciiLibrary distinct_oneAdvisory (few_controllerReport built)⟩

theorem nodes_controllerReport (topology : Topology) : (controllerReport topology).nodes =
    topology.nodes.map fun node => correlatedNode controllerTables cisaIcsCatalog (ProfiledNode.reported node) := by
  rw [controllerReport, nodes_chainReport]
  rfl

theorem not_covering_controller {topology : Topology}
    (built : buildTopology (fewStages controllerTables announced) plantArgs announced = some topology) :
    ¬Covering asciiLibrary noNumbers Char.isAlphanum [] oneAdvisory (controllerReport topology) := by
  have nodes : (buildTopology (fewStages controllerTables announced) plantArgs announced).map (fun t =>
      t.nodes.all (fun node => decide (ProfiledNode.key node ≠ "")) &&
        t.nodes.any fun node => decide (asciiLibrary.strip node.vendor ≠ "")) = some true := by decide +kernel
  rw [built, Option.map_some, Option.some.injEq, Bool.and_eq_true, List.all_eq_true, List.any_eq_true] at nodes
  obtain ⟨addresses, node, inside, some_⟩ := nodes
  have listed : correlatedNode controllerTables cisaIcsCatalog (ProfiledNode.reported node) ∈
      (controllerReport topology).nodes := by
    rw [nodes_controllerReport]
    exact List.mem_map_of_mem inside
  refine not_covering_of_addresses ?_ listed (of_decide_eq_true some_)
  intro other member
  rw [nodes_controllerReport] at member
  obtain ⟨profiled, there, rfl⟩ := List.mem_map.mp member
  exact of_decide_eq_true (addresses profiled there)

/-- The assets of the report have no node. -/
theorem assets_without_node : ∃ topology,
    buildTopology (fewStages controllerTables announced) plantArgs announced = some topology ∧
    Few asciiLibrary (controllerReport topology) ∧
    ¬∃ result, runReport asciiLibrary noNumbers Char.isAlphanum (fun _ => true) [] oneAdvisory
        (controllerReport topology).toDict = some result ∧
      Enriched asciiLibrary noNumbers Char.isAlphanum [] oneAdvisory (controllerReport topology) result := by
  obtain ⟨topology, built⟩ := buildTopology_announced
  refine ⟨topology, built, few_controllerReport built, ?_⟩
  rintro ⟨result, ran, enriched⟩
  obtain ⟨result', ran', entries, all⟩ := @runReport_toDict asciiLibrary noNumbers Char.isAlphanum (fun _ => true) []
    oneAdvisory (controllerReport topology) strip_asciiLibrary (few_controllerReport built)
  obtain rfl := Option.some.inj (ran.symm.trans ran')
  exact not_covering_controller built ((enriched_of_result distinct_oneAdvisory entries all).mp enriched)

end Marlinspike.Plugins.CisaCoverage
