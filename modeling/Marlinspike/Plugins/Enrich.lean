import Marlinspike.Plugins.RulePacks
import Marlinspike.Plugins.Arp
import Marlinspike.Plugins.Apt
import Marlinspike.Plugins.Cisa

/-!
The enrichment of a report. Every enabled plugin reads the report and writes a sidecar; then
the sidecars become extensions of the report, and what they have found is appended to its
risk findings in place of what the plugins had found before.

The ATT&CK plugin reads those very findings, so a second enrichment may map what the first
one has merged, and the findings of extensions of other plugins are appended each time.
What is enough for the second to change nothing, and what is needed, is `enriched_twice`.
-/
namespace Marlinspike.Plugins.Enrich
open Marlinspike.Reports (Library)
open Marlinspike.Plugins.RulePacks (load)

/-! ### Plugins -/

inductive Plugin where
  | mitre
  | arp
  | apt
  | cisa
deriving DecidableEq, Repr

/-- `_SPECS`. -/
def specs : List Plugin := [.mitre, .arp, .apt, .cisa]

def Plugin.id : Plugin → String
  | .mitre => "marlinspike-mitre"
  | .arp => "marlinspike-arp"
  | .apt => "marlinspike-apt"
  | .cisa => "marlinspike-cisa"

theorem Plugin.id_ne {p q : Plugin} (apart : p ≠ q) : p.id ≠ q.id := by
  cases p <;> cases q <;> first | exact absurd rfl apart | decide

/-- `PLUGIN_IDS`. -/
def pluginIds : List String := specs.map Plugin.id

/-- An artifact without its stamp: of a plugin, or any other value that is found in its place. -/
inductive Artifact where
  | mitre (result : Mitre.Result)
  | arp (result : Arp.Result)
  | apt (result : Apt.Result)
  | cisa (result : Cisa.Result)
  | other (value : Json)

/-- The items of `data.findings`. -/
def Artifact.findings : Artifact → List Json
  | .mitre _ => []
  | .arp result => result.findings.map Arp.Finding.toJson
  | .apt result => result.findings.map Apt.Finding.toJson
  | .cisa _ => []
  | .other value => (((value.get "data").get "findings").iterate).getD []

/-- Whether the findings can be taken up one by one; if not, collecting them raises. -/
def Artifact.readable : Artifact → Bool
  | .other value => (((value.get "data").get "findings").iterate).isSome
  | _ => true

/-- The check of a sidecar: an object of the plugin's id. -/
def accepted (p : Plugin) : Artifact → Bool
  | .mitre _ => p = .mitre
  | .arp _ => p = .arp
  | .apt _ => p = .apt
  | .cisa _ => p = .cisa
  | .other value => match value.get "plugin_id" with
    | .str id => id = p.id
    | _ => false

/-- The configuration, the packs and the catalogs; packs that cannot be loaded are none. -/
structure Setup where
  enabled : Plugin → Bool
  library : Library
  /-- `str.strip` of nothing. -/
  stripBlank : library.strip "" = ""
  numbers : Numbers
  isExternal : String → Bool
  isWord : Char → Bool
  isCve : String → Bool
  attackCatalog : Mitre.Catalog
  site : RulePacks.Site
  arpPacks : Option (List Arp.PackSettings)
  aptPacks : Option (List Apt.PackSettings)
  cisaGroups : List Cisa.Group
  cisaCatalog : Option Cisa.Catalog

/-! ### Findings -/

def riskFindings (report : Report) : Json := (report.get "risk_findings").getD .null

def singleKeys : List String := ["src_ip", "ip", "host", "address", "source_ip"]
def manyKeys : List String := ["distinct_target_ips", "affected_nodes", "target_ips", "involved_ips", "claimed_by_macs"]

/-- The texts that `_add` keeps, each once. -/
def affectedNodes (library : Library) (finding : Json) : List String :=
  let single := singleKeys.map finding.get
  let many := manyKeys.flatMap fun key => ((finding.get key).iterate).getD []
  let given := (single ++ many).filter fun v => match v with
    | .null => false
    | _ => true
  appendUnique [] (given.map fun v => library.strip (v.toText library))

def severities : List String := ["CRITICAL", "HIGH", "MEDIUM", "LOW", "INFO"]

/-- `v or w`. -/
def either (v w : Json) : Json := if v.truthy then v else w

def attackIds (finding : Json) : Json := either (finding.get "attack_techniques") (finding.get "attack_ids")

def cvssImpact (numbers : Numbers) (finding : Json) : Option Rat :=
  (either (finding.get "cvss_impact") (.int 0)).toRat numbers

/-- The fields of a risk finding that is made of a plugin's, if none of them raises. -/
def adaptedFields (library : Library) (numbers : Numbers) (pluginId category : String) (finding : Json) :
    List (String × Json) :=
  let severity := library.upper ((either (finding.get "severity") (.str "MEDIUM")).text library)
  let description := either (finding.get "detail") (either (finding.get "description")
    (either (finding.get "message") (.str category)))
  let techniques := (((attackIds finding).iterate).getD []).map fun v => library.upper (library.strip (v.toText library))
  [("category", .str category), ("severity", .str (if severity ∈ severities then severity else "MEDIUM")),
    ("description", .str (description.text library)), ("affected_nodes", Json.ofTexts (affectedNodes library finding)),
    ("affected_edges", .arr (((finding.get "affected_edges").iterate).getD [])),
    ("cvss_impact", .float ((cvssImpact numbers finding).getD 0)),
    ("remediation", .str ((finding.get "remediation").text library)),
    ("attack_ids", Json.ofTexts (techniques.filter (· ≠ ""))), ("source", .str pluginId)]

/-- Whether the fields of a finding can be read. -/
def adapts (numbers : Numbers) (finding : Json) : Bool :=
  (manyKeys.all fun key => (finding.get key).iterate.isSome) && (finding.get "affected_edges").iterate.isSome &&
    (attackIds finding).iterate.isSome && (cvssImpact numbers finding).isSome

/-- `plugin_finding_to_risk_finding`, of a finding whose fields can be read. -/
def pluginFindingToRiskFinding (library : Library) (numbers : Numbers) (pluginId : String) (finding : Json) : Option Json :=
  let category := (finding.get "category").stripped library
  if !finding.isObj ∨ category = "" then none
  else some (.obj (adaptedFields library numbers pluginId category finding))

def adaptedFindings (library : Library) (numbers : Numbers) (entry : String × Artifact) : List Json :=
  entry.2.findings.filterMap (pluginFindingToRiskFinding library numbers entry.1)

/-- `collect_plugin_risk_findings`. -/
def collectPluginRiskFindings (library : Library) (numbers : Numbers) (extensions : PyDict String Artifact) : List Json :=
  extensions.items.flatMap (adaptedFindings library numbers)

/-- Whether it does not raise: all findings can be read that have a category. -/
def collects (library : Library) (numbers : Numbers) (extensions : PyDict String Artifact) : Bool :=
  extensions.items.all fun entry => entry.2.readable && entry.2.findings.all fun finding =>
    !finding.isObj || (finding.get "category").stripped library = "" || adapts numbers finding

/-- A finding that one of the plugins is the source of. -/
def fromPlugin (finding : Json) : Bool :=
  match finding.get "source" with
  | .str source => pluginIds.contains source
  | _ => false

/-- Whether its source can be looked up in a set. -/
def hashable (finding : Json) : Bool :=
  match finding.get "source" with
  | .arr _ | .obj _ => false
  | _ => true

/-! ### The plugins on a report -/

/-- A finding and an indicator as the ATT&CK plugin reads them. -/
def mitreFinding (library : Library) (finding : Json) : Mitre.Finding :=
  ⟨some ((finding.get "category").text library), some ((finding.get "severity").text library),
    (finding.get "affected_nodes").texts library⟩

def mitreIndicator (library : Library) (indicator : Json) : Mitre.Indicator :=
  ⟨some ((indicator.get "type").text library), (indicator.get "affected_nodes").texts library,
    some ((indicator.get "src").text library), some ((indicator.get "dst").text library)⟩

/-- What the ATT&CK plugin reads; none where it raises. -/
def mitreView (library : Library) (report : Report) : Option Mitre.View := do
  let field := fun key => (report.get key).getD .null
  let nodes ← (field "nodes").iterate
  let edges ← (field "edges").iterate
  let findings ← (riskFindings report).iterate
  let indicators ← (field "c2_indicators").iterate
  guard ((field "protocol_summary").isObj ∨ ¬(field "protocol_summary").truthy)
  return {
    nodeCount := nodes.length
    edgeCount := edges.length
    riskFindings := (findings.filter Json.isObj).map (mitreFinding library)
    c2Indicators := (indicators.filter Json.isObj).map (mitreIndicator library)
    hasProtocols := (field "protocol_summary").truthy
    hasCapture := (field "capture_info").isObj }

/-- A plugin's artifact, if it does not fail. -/
def runPlugin (setup : Setup) (report : Report) : Plugin → Option Artifact
  | .mitre => do
    let view ← mitreView setup.library report
    let result ← (RulePacks.run setup.library setup.attackCatalog setup.site view).toOption
    return .mitre result
  | .arp => do
    let packs ← setup.arpPacks
    let result ← Arp.detect setup.library setup.numbers (Arp.mergePacks setup.library packs) report
    return .arp result
  | .apt => do
    let packs ← setup.aptPacks
    let result ← Apt.detect setup.library setup.numbers setup.isExternal (Apt.mergePacks setup.library packs) report
    return .apt result
  | .cisa => do
    let catalog ← setup.cisaCatalog
    let result ← Cisa.runReport setup.library setup.numbers setup.isWord setup.isCve setup.cisaGroups catalog report
    return .cisa result

/-! ### Enriching -/

/-- A report file: its fields, and apart from them its extensions. -/
structure File where
  fields : Report
  extensions : PyDict String Artifact

/-- The report file and the sidecars beside it. -/
structure Disk where
  file : File
  sidecars : Plugin → Option Artifact

/-- `run_all`: a plugin that is disabled or fails leaves its sidecar as it is. -/
def runAll (setup : Setup) (d : Disk) (p : Plugin) : Option Artifact :=
  if setup.enabled p then (runPlugin setup d.file.fields p).or (d.sidecars p) else d.sidecars p

def addSidecar (sidecars : Plugin → Option Artifact) (extensions : PyDict String Artifact) (p : Plugin) :
    PyDict String Artifact :=
  match sidecars p with
  | some artifact => if accepted p artifact then extensions.set p.id artifact else extensions
  | none => extensions

def mergedExtensions (file : File) (sidecars : Plugin → Option Artifact) : PyDict String Artifact :=
  specs.foldl (addSidecar sidecars) file.extensions

/-- `base_findings + plugin_findings`. -/
def mergedFindings (setup : Setup) (findings : List Json) (extensions : PyDict String Artifact) : List Json :=
  findings.filter (fun f => !fromPlugin f) ++ collectPluginRiskFindings setup.library setup.numbers extensions

/-- `load_report_with_extensions`, of a report with these findings. -/
def mergedFile (setup : Setup) (file : File) (sidecars : Plugin → Option Artifact) (findings : List Json) : File :=
  let extensions := mergedExtensions file sidecars
  ⟨file.fields.set "risk_findings" (.arr (mergedFindings setup findings extensions)), extensions⟩

/-- Whether the findings and the extensions can be merged. -/
def mergeable (setup : Setup) (findings : List Json) (extensions : PyDict String Artifact) : Bool :=
  findings.all hashable && collects setup.library setup.numbers extensions

/-- The risk findings that are merged, if merging does not raise. -/
def mergeInput (setup : Setup) (d : Disk) : Option (List Json) :=
  ((riskFindings d.file.fields).iterate).filter fun findings =>
    mergeable setup findings (mergedExtensions d.file (runAll setup d))

/-- `write_enriched`. If it raises when it merges, the sidecars have been written. -/
def writeEnriched (setup : Setup) (d : Disk) : Disk :=
  match mergeInput setup d with
  | some findings => ⟨mergedFile setup d.file (runAll setup d) findings, runAll setup d⟩
  | none => ⟨d.file, runAll setup d⟩

section Merging
variable {setup : Setup} {d : Disk} {file : File} {sidecars : Plugin → Option Artifact} {findings : List Json}

theorem merged_get {key : String} (other : key ≠ "risk_findings") :
    (mergedFile setup file sidecars findings).fields.get key = file.fields.get key := by
  unfold mergedFile
  dsimp only
  rw [PyDict.get_set, if_neg (Ne.symm other)]

theorem merged_findings : (riskFindings (mergedFile setup file sidecars findings).fields).iterate =
    some (mergedFindings setup findings (mergedExtensions file sidecars)) := by
  unfold riskFindings mergedFile
  dsimp only
  rw [PyDict.get_set_self]
  rfl

/-! ### Extensions -/

theorem addSidecar_get_ne {extensions : PyDict String Artifact} {p : Plugin} {key : String} (other : key ≠ p.id) :
    (addSidecar sidecars extensions p).get key = extensions.get key := by
  unfold addSidecar
  cases sidecars p with
  | none => rfl
  | some artifact =>
    dsimp only
    split_ifs
    · rw [PyDict.get_set, if_neg (Ne.symm other)]
    · rfl

/-- What is not one of the plugins' stays as it is. -/
theorem mergedExtensions_get {key : String} (foreign : key ∉ pluginIds) :
    (mergedExtensions file sidecars).get key = file.extensions.get key := by
  have apart : ∀ p : Plugin, key ≠ p.id := by
    rintro p rfl
    exact foreign (List.mem_map.mpr ⟨p, by cases p <;> decide, rfl⟩)
  unfold mergedExtensions specs
  simp only [List.foldl_cons, List.foldl_nil, addSidecar_get_ne (apart _)]

/-- A sidecar that is accepted is the plugin's extension then. -/
theorem mergedExtensions_own {p : Plugin} {artifact : Artifact} (present : sidecars p = some artifact)
    (ok : accepted p artifact = true) : (mergedExtensions file sidecars).get p.id = some artifact := by
  have own (extensions : PyDict String Artifact) : (addSidecar sidecars extensions p).get p.id = some artifact := by
    unfold addSidecar
    rw [present]
    dsimp only
    rw [if_pos ok, PyDict.get_set_self]
  have others (extensions : PyDict String Artifact) (q : Plugin) (apart : p ≠ q) :
      (addSidecar sidecars extensions q).get p.id = extensions.get p.id :=
    addSidecar_get_ne (Plugin.id_ne apart)
  unfold mergedExtensions specs
  simp only [List.foldl_cons, List.foldl_nil]
  cases p with
  | mitre => rw [others _ .cisa (by decide), others _ .apt (by decide), others _ .arp (by decide), own]
  | arp => rw [others _ .cisa (by decide), others _ .apt (by decide), own]
  | apt => rw [others _ .cisa (by decide), own]
  | cisa => rw [own]

/-- The sidecars are merged already. -/
theorem mergedExtensions_again (extensions : PyDict String Artifact)
    (same : extensions = mergedExtensions file sidecars) {fields : Report} :
    mergedExtensions ⟨fields, extensions⟩ sidecars = extensions := by
  have unchanged : ∀ p : Plugin, addSidecar sidecars extensions p = extensions := by
    intro p
    unfold addSidecar
    cases present : sidecars p with
    | none => rfl
    | some artifact =>
      dsimp only
      split_ifs with ok
      · exact PyDict.set_of_get (by rw [same]; exact mergedExtensions_own present ok)
      · rfl
  unfold mergedExtensions specs
  simp only [List.foldl_cons, List.foldl_nil, unchanged]

/-! ### Findings -/

theorem fromPlugin_isObj {f : Json} (plugin : fromPlugin f = true) : f.isObj = true := by
  cases f with
  | obj items => rfl
  | _ => cases plugin

theorem adapted_obj {library : Library} {numbers : Numbers} {entry : String × Artifact} {f : Json}
    (member : f ∈ adaptedFindings library numbers entry) :
    ∃ category finding, f = .obj (adaptedFields library numbers entry.1 category finding) := by
  obtain ⟨finding, _, adapted⟩ := List.mem_filterMap.mp member
  unfold pluginFindingToRiskFinding at adapted
  dsimp only at adapted
  split_ifs at adapted
  exact ⟨_, finding, (Option.some.inj adapted).symm⟩

/-- The findings that are merged name their plugin, and no CVE. -/
theorem adapted_source {library : Library} {numbers : Numbers} {entry : String × Artifact} {f : Json}
    (member : f ∈ adaptedFindings library numbers entry) :
    f.isObj = true ∧ fromPlugin f = pluginIds.contains entry.1 ∧ f.get "cve_id" = .null := by
  obtain ⟨category, finding, rfl⟩ := adapted_obj member
  exact ⟨rfl, rfl, rfl⟩

theorem collected {extensions : PyDict String Artifact} {f : Json} :
    f ∈ collectPluginRiskFindings setup.library setup.numbers extensions ↔
      ∃ entry ∈ extensions.items, f ∈ adaptedFindings setup.library setup.numbers entry := List.mem_flatMap

theorem collected_objects {extensions : PyDict String Artifact} :
    (collectPluginRiskFindings setup.library setup.numbers extensions).all Json.isObj = true := by
  refine List.all_eq_true.mpr fun f member => ?_
  obtain ⟨entry, _, adapted⟩ := collected.mp member
  exact (adapted_source adapted).1

/-- The findings of extensions that none of the plugins has written. -/
def foreignFindings (setup : Setup) (extensions : PyDict String Artifact) : List Json :=
  (collectPluginRiskFindings setup.library setup.numbers extensions).filter fun f => !fromPlugin f

/-- The second merge keeps what no plugin is the source of and appends everything again. -/
theorem mergedFindings_again {extensions : PyDict String Artifact} :
    mergedFindings setup (mergedFindings setup findings extensions) extensions =
      findings.filter (fun f => !fromPlugin f) ++ foreignFindings setup extensions ++
        collectPluginRiskFindings setup.library setup.numbers extensions := by
  unfold mergedFindings foreignFindings
  rw [List.filter_append, List.filter_filter]
  simp only [Bool.and_self]

theorem mergedFindings_objects {extensions : PyDict String Artifact} :
    (mergedFindings setup findings extensions).all Json.isObj = findings.all Json.isObj := by
  unfold mergedFindings
  rw [List.all_append, collected_objects, Bool.and_true, List.all_filter]
  refine List.all_congr rfl fun f => ?_
  cases plugin : fromPlugin f with
  | false => simp
  | true => simp [fromPlugin_isObj plugin]

/-- No extension but those of the plugins has findings that can be merged. -/
def NoForeign (setup : Setup) (d : Disk) : Prop :=
  ∀ entry ∈ d.file.extensions.items, entry.1 ∉ pluginIds → adaptedFindings setup.library setup.numbers entry = []

theorem noForeign_iff :
    NoForeign setup d ↔ foreignFindings setup (mergedExtensions d.file sidecars) = [] := by
  unfold foreignFindings
  rw [List.filter_eq_nil_iff]
  constructor
  · intro none_ f member
    obtain ⟨entry, listed, adapted⟩ := collected.mp member
    rw [(adapted_source adapted).2.1]
    by_cases own : entry.1 ∈ pluginIds
    · simp [own]
    · have kept : entry ∈ d.file.extensions.items := by
        have found := PyDict.mem_items_iff.mp (show (entry.1, entry.2) ∈ _ from listed)
        rw [mergedExtensions_get own] at found
        exact PyDict.mem_items_of_get found
      rw [none_ entry kept own] at adapted
      cases adapted
  · intro none_ entry listed foreign
    refine List.eq_nil_iff_forall_not_mem.mpr fun f adapted => ?_
    have kept : entry ∈ (mergedExtensions d.file sidecars).items := by
      have found := PyDict.mem_items_iff.mp (show (entry.1, entry.2) ∈ _ from listed)
      have same : (mergedExtensions d.file sidecars).get entry.1 = d.file.extensions.get entry.1 :=
        mergedExtensions_get foreign
      rw [← same] at found
      exact PyDict.mem_items_of_get found
    have plugin := none_ f (collected.mpr ⟨entry, kept, adapted⟩)
    rw [(adapted_source adapted).2.1] at plugin
    simp [foreign] at plugin

/-! ### The plugins on the merged report -/

/-- The report after the merge. -/
def merged (setup : Setup) (d : Disk) (findings : List Json) : Report :=
  (mergedFile setup d.file (runAll setup d) findings).fields

theorem merged_same (key : String) (other : key ≠ "risk_findings") :
    (merged setup d findings).get key = d.file.fields.get key := merged_get other

/-- The ATT&CK plugin reads the merged report as it has read the report, but for the findings. -/
theorem mitreView_merged (iterated : (riskFindings d.file.fields).iterate = some findings) :
    ∃ riskFindings', mitreView setup.library (merged setup d findings) =
      (mitreView setup.library d.file.fields).map fun view => { view with riskFindings := riskFindings' } := by
  refine ⟨((mergedFindings setup findings (mergedExtensions d.file (runAll setup d))).filter Json.isObj).map
    (mitreFinding setup.library), ?_⟩
  have read : ∀ key, key ≠ "risk_findings" → (merged setup d findings).get key = d.file.fields.get key := merged_same
  have iterated' : (riskFindings (merged setup d findings)).iterate =
      some (mergedFindings setup findings (mergedExtensions d.file (runAll setup d))) := merged_findings
  unfold mitreView
  simp only [iterated, iterated', read "nodes" (by decide), read "edges" (by decide), read "c2_indicators" (by decide),
    read "protocol_summary" (by decide), read "capture_info" (by decide)]
  cases ((d.file.fields.get "nodes").getD .null).iterate with
  | none => rfl
  | some nodes =>
    cases ((d.file.fields.get "edges").getD .null).iterate with
    | none => rfl
    | some edges =>
      cases ((d.file.fields.get "c2_indicators").getD .null).iterate with
      | none => rfl
      | some indicators =>
        by_cases typed : ((d.file.fields.get "protocol_summary").getD .null).isObj = true ∨
            ¬((d.file.fields.get "protocol_summary").getD .null).truthy = true
        · simp [guard]
        · simp [guard]

theorem assets_merged :
    Cisa.assetsOf setup.library (merged setup d findings) = Cisa.assetsOf setup.library d.file.fields :=
  Cisa.assetsOf_congr (merged_same "asset_inventory" (by decide)) (merged_same "nodes" (by decide))

/-- What is enough for the second enrichment to change nothing: no other extension has findings,
    the plugins' former findings name no CVE that the others do not name in the same order, and
    the ATT&CK rules do not tell the report from the merged one. -/
structure Undisturbed (setup : Setup) (d : Disk) (findings : List Json) : Prop where
  foreign : NoForeign setup d
  cves : setup.enabled .cisa = true →
    Cisa.cveIds setup.library setup.isCve (findings.filter fun f => !fromPlugin f) =
      Cisa.cveIds setup.library setup.isCve findings
  rules : setup.enabled .mitre = true → ∀ view view' packs, mitreView setup.library d.file.fields = some view →
    mitreView setup.library (merged setup d findings) = some view' →
    load setup.library setup.attackCatalog setup.site = .ok packs →
    Mitre.SameToRules setup.library (packs.map (·.pack)) (Mitre.buildContext setup.library view)
      (Mitre.buildContext setup.library view')

/-- The findings that are merged name no CVE. -/
theorem cveIds_merged {extensions : PyDict String Artifact} :
    Cisa.cveIds setup.library setup.isCve (mergedFindings setup findings extensions) =
      Cisa.cveIds setup.library setup.isCve (findings.filter fun f => !fromPlugin f) := by
  refine Cisa.cveIds_append fun f member => ?_
  obtain ⟨entry, _, adapted⟩ := collected.mp member
  unfold Cisa.namesCve
  rw [(adapted_source adapted).2.2]
  simp [Json.stripped, Json.text, Json.truthy, setup.stripBlank]

theorem runPlugin_mitre (report : Report) : runPlugin setup report .mitre =
    (mitreView setup.library report).bind fun view =>
      (RulePacks.run setup.library setup.attackCatalog setup.site view).toOption.map .mitre := by
  unfold runPlugin
  cases mitreView setup.library report with
  | none => rfl
  | some view => exact Option.map_eq_bind.symm

theorem runPlugin_arp (report : Report) : runPlugin setup report .arp = setup.arpPacks.bind fun packs =>
    (Arp.detect setup.library setup.numbers (Arp.mergePacks setup.library packs) report).map .arp := by
  unfold runPlugin
  cases setup.arpPacks with
  | none => rfl
  | some packs => exact Option.map_eq_bind.symm

theorem runPlugin_apt (report : Report) : runPlugin setup report .apt = setup.aptPacks.bind fun packs =>
    (Apt.detect setup.library setup.numbers setup.isExternal (Apt.mergePacks setup.library packs) report).map .apt := by
  unfold runPlugin
  cases setup.aptPacks with
  | none => rfl
  | some packs => exact Option.map_eq_bind.symm

theorem runPlugin_cisa (report : Report) : runPlugin setup report .cisa = setup.cisaCatalog.bind fun catalog =>
    (Cisa.runReport setup.library setup.numbers setup.isWord setup.isCve setup.cisaGroups catalog report).map
      .cisa := by
  unfold runPlugin
  cases setup.cisaCatalog with
  | none => rfl
  | some catalog => exact Option.map_eq_bind.symm

theorem mitre_merged (iterated : (riskFindings d.file.fields).iterate = some findings)
    (undisturbed : Undisturbed setup d findings) (enabled : setup.enabled .mitre = true) :
    runPlugin setup (merged setup d findings) .mitre = runPlugin setup d.file.fields .mitre := by
  obtain ⟨riskFindings', seen⟩ : ∃ riskFindings', mitreView setup.library (merged setup d findings) =
      (mitreView setup.library d.file.fields).map fun view => { view with riskFindings := riskFindings' } :=
    mitreView_merged iterated
  rw [runPlugin_mitre, runPlugin_mitre]
  cases view : mitreView setup.library d.file.fields with
  | none =>
    rw [seen, view]
    rfl
  | some v =>
    rw [view, Option.map_some] at seen
    rw [seen, Option.bind_some, Option.bind_some]
    cases loaded : load setup.library setup.attackCatalog setup.site with
    | error e => rw [RulePacks.run_of_error loaded, RulePacks.run_of_error loaded]
    | ok packs =>
      rw [RulePacks.run_of_ok loaded, RulePacks.run_of_ok loaded,
        Mitre.classify_same (undisturbed.rules enabled v _ packs view seen loaded)]

/-- Then every plugin has the same artifact of the merged report. -/
theorem runPlugin_merged (iterated : (riskFindings d.file.fields).iterate = some findings)
    (undisturbed : Undisturbed setup d findings) {p : Plugin} (enabled : setup.enabled p = true) :
    runPlugin setup (merged setup d findings) p = runPlugin setup d.file.fields p := by
  have read : ∀ key, key ≠ "risk_findings" → (merged setup d findings).get key = d.file.fields.get key := merged_same
  cases p with
  | mitre => exact mitre_merged iterated undisturbed enabled
  | arp =>
    rw [runPlugin_arp, runPlugin_arp]
    refine Option.bind_congr fun packs _ => congrArg (Option.map Artifact.arp) (Arp.detect_congr fun key listed => ?_)
    exact read key (by rintro rfl; simp [Arp.fields] at listed)
  | apt =>
    rw [runPlugin_apt, runPlugin_apt]
    refine Option.bind_congr fun packs _ => congrArg (Option.map Artifact.apt) (Apt.detect_congr fun key listed => ?_)
    exact read key (by rintro rfl; simp [Apt.fields] at listed)
  | cisa =>
    rw [runPlugin_cisa, runPlugin_cisa]
    refine Option.bind_congr fun catalog _ => congrArg (Option.map Artifact.cisa) ?_
    exact Cisa.runReport_congr assets_merged merged_findings iterated mergedFindings_objects
      (cveIds_merged.trans (undisturbed.cves enabled))

/-! ### Enriching again -/

/-- Enriching again changes nothing. -/
def Settled (setup : Setup) (d : Disk) : Prop := writeEnriched setup (writeEnriched setup d) = writeEnriched setup d

theorem runAll_again {fields : Report} {extensions : PyDict String Artifact}
    (same : ∀ p, setup.enabled p = true → runPlugin setup fields p = runPlugin setup d.file.fields p) :
    runAll setup ⟨⟨fields, extensions⟩, runAll setup d⟩ = runAll setup d := by
  funext p
  unfold runAll
  dsimp only
  cases enabled : setup.enabled p with
  | false => simp
  | true =>
    rw [same p enabled, if_pos rfl, if_pos rfl]
    cases runPlugin setup d.file.fields p with
    | none => rfl
    | some artifact => rfl

theorem mergeInput_iterate (given : mergeInput setup d = some findings) :
    (riskFindings d.file.fields).iterate = some findings := (Option.filter_eq_some_iff.mp given).1

theorem writeEnriched_of_some (given : mergeInput setup d = some findings) :
    writeEnriched setup d = ⟨mergedFile setup d.file (runAll setup d) findings, runAll setup d⟩ := by
  unfold writeEnriched
  rw [given]

/-- If merging raises, the report stays as it is. -/
theorem settled_of_none (unmerged : mergeInput setup d = none) : Settled setup d := by
  have once : writeEnriched setup d = ⟨d.file, runAll setup d⟩ := by
    unfold writeEnriched
    rw [unmerged]
  have sidecars : runAll setup ⟨d.file, runAll setup d⟩ = runAll setup d := runAll_again fun _ _ => rfl
  have again : mergeInput setup ⟨d.file, runAll setup d⟩ = none := by
    unfold mergeInput
    rw [sidecars]
    exact unmerged
  unfold Settled
  rw [once]
  unfold writeEnriched
  rw [again, sidecars]

theorem mergedFindings_fixed {extensions : PyDict String Artifact} :
    mergedFindings setup (mergedFindings setup findings extensions) extensions = mergedFindings setup findings extensions ↔
      foreignFindings setup extensions = [] := by
  rw [mergedFindings_again]
  constructor
  · intro same
    have lengths := congrArg List.length same
    unfold mergedFindings at lengths
    simp only [List.length_append] at lengths
    exact List.eq_nil_of_length_eq_zero (by omega)
  · intro none_
    rw [none_, List.append_nil]
    rfl

/-- Merged again, the file stays as it is if all that has been appended is of the plugins. -/
theorem mergedFile_again : mergedFile setup (mergedFile setup file sidecars findings) sidecars
      (mergedFindings setup findings (mergedExtensions file sidecars)) = mergedFile setup file sidecars findings ↔
    foreignFindings setup (mergedExtensions file sidecars) = [] := by
  have extensions : mergedExtensions (mergedFile setup file sidecars findings) sidecars =
      mergedExtensions file sidecars := mergedExtensions_again _ rfl
  have fixed_iff : mergedFindings setup (mergedFindings setup findings (mergedExtensions file sidecars))
      (mergedExtensions file sidecars) = mergedFindings setup findings (mergedExtensions file sidecars) ↔
        foreignFindings setup (mergedExtensions file sidecars) = [] := mergedFindings_fixed
  rw [← fixed_iff]
  constructor
  · intro same
    have read := congrArg (fun f : File => (riskFindings f.fields).iterate) same
    rw [merged_findings, merged_findings, extensions] at read
    exact Option.some.inj read
  · intro fixed
    have stays : (mergedFile setup file sidecars findings).fields.set "risk_findings"
        (.arr (mergedFindings setup findings (mergedExtensions file sidecars))) =
          (mergedFile setup file sidecars findings).fields := PyDict.set_of_get (PyDict.get_set_self ..)
    rw [mergedFile, extensions, fixed, stays]
    rfl

theorem mergedFindings_hashable {extensions : PyDict String Artifact} (all : findings.all hashable = true) :
    (mergedFindings setup findings extensions).all hashable = true := by
  refine List.all_eq_true.mpr fun f member => ?_
  rcases List.mem_append.mp member with base | plugin
  · exact List.all_eq_true.mp all f (List.mem_filter.mp base).1
  · obtain ⟨entry, _, adapted⟩ := collected.mp plugin
    obtain ⟨category, finding, rfl⟩ := adapted_obj adapted
    rfl

/-- What has been merged can be merged again. -/
theorem mergeInput_again (given : mergeInput setup d = some findings)
    (same : runAll setup (writeEnriched setup d) = runAll setup d) : mergeInput setup (writeEnriched setup d) =
      some (mergedFindings setup findings (mergedExtensions d.file (runAll setup d))) := by
  obtain ⟨-, ok⟩ := Option.filter_eq_some_iff.mp given
  obtain ⟨hashables, collects_⟩ := Bool.and_eq_true_iff.mp ok
  have extensions : mergedExtensions (mergedFile setup d.file (runAll setup d) findings) (runAll setup d) =
      mergedExtensions d.file (runAll setup d) := mergedExtensions_again _ rfl
  refine Option.filter_eq_some_iff.mpr ⟨?_, ?_⟩
  · rw [writeEnriched_of_some given]
    exact merged_findings
  · rw [same, writeEnriched_of_some given, extensions, mergeable, mergedFindings_hashable hashables, collects_]
    rfl

/-- Enriching again changes nothing exactly if the plugins write the same, and no other extension
    has findings. -/
theorem settled_iff (given : mergeInput setup d = some findings) :
    Settled setup d ↔ runAll setup (writeEnriched setup d) = runAll setup d ∧ NoForeign setup d := by
  have twice (same : runAll setup (writeEnriched setup d) = runAll setup d) : writeEnriched setup (writeEnriched setup d) =
      ⟨mergedFile setup (mergedFile setup d.file (runAll setup d) findings) (runAll setup d)
        (mergedFindings setup findings (mergedExtensions d.file (runAll setup d))), runAll setup d⟩ := by
    rw [writeEnriched_of_some (mergeInput_again given same), same, writeEnriched_of_some given]
  unfold Settled
  constructor
  · intro settled
    have same : runAll setup (writeEnriched setup d) = runAll setup d := by
      have sidecars (e : Disk) : (writeEnriched setup e).sidecars = runAll setup e := by
        unfold writeEnriched
        cases mergeInput setup e <;> rfl
      rw [← sidecars, settled, sidecars]
    rw [twice same, writeEnriched_of_some given, Disk.mk.injEq] at settled
    exact ⟨same, noForeign_iff.mpr (mergedFile_again.mp settled.1)⟩
  · rintro ⟨same, foreign⟩
    rw [twice same, writeEnriched_of_some given, mergedFile_again.mpr (noForeign_iff.mp foreign)]

/-! ### What is enough and what is needed -/

/-- What cannot be missing: no other extension has findings, every CVE that is searched for is
    named by a finding that stays, and a category that the report has findings of before the merge
    or after it is no news to the ATT&CK plugin then. -/
structure Required (setup : Setup) (d : Disk) (findings : List Json) : Prop where
  foreign : NoForeign setup d
  cves : setup.enabled .cisa = true → runPlugin setup d.file.fields .cisa ≠ none → ∀ f ∈ findings,
    Cisa.namesCve setup.library setup.isCve f = true → ∃ g ∈ findings, fromPlugin g = false ∧
      Cisa.namesCve setup.library setup.isCve g = true ∧
      setup.library.upper ((g.get "cve_id").stripped setup.library) =
        setup.library.upper ((f.get "cve_id").stripped setup.library)
  categories : setup.enabled .mitre = true → ∀ view view' packs, mitreView setup.library d.file.fields = some view →
    mitreView setup.library (merged setup d findings) = some view' →
    load setup.library setup.attackCatalog setup.site = .ok packs →
    let ctx := Mitre.buildContext setup.library view
    let ctx' := Mitre.buildContext setup.library view'
    (∀ label ∈ ctx'.findingLabels, label ∈ ctx.findingLabels ∨ label ∈ ctx.indicatorLabels) ∧
      ∀ label ∈ ctx.findingLabels, label ∈ ctx'.findingLabels ∨ label ∈ ctx'.indicatorLabels

/-- A plugin that has run both times has found the same. -/
theorem runPlugin_of_runAll (given : mergeInput setup d = some findings)
    (same : runAll setup (writeEnriched setup d) = runAll setup d) {p : Plugin} (enabled : setup.enabled p = true)
    {first second : Artifact} (ran : runPlugin setup d.file.fields p = some first)
    (again : runPlugin setup (merged setup d findings) p = some second) : second = first := by
  have sidecar := congrFun same p
  rw [writeEnriched_of_some given] at sidecar
  unfold runAll at sidecar
  dsimp only at sidecar
  rw [if_pos enabled, if_pos enabled, ran] at sidecar
  unfold merged runAll at again
  rw [again] at sidecar
  exact Option.some.inj sidecar

theorem undisturbed_settled (given : mergeInput setup d = some findings)
    (undisturbed : Undisturbed setup d findings) : Settled setup d := by
  refine (settled_iff given).mpr ⟨?_, undisturbed.foreign⟩
  rw [writeEnriched_of_some given]
  exact runAll_again fun p enabled => runPlugin_merged (mergeInput_iterate given) undisturbed enabled

theorem settled_required (given : mergeInput setup d = some findings)
    (settled : Settled setup d) : Required setup d findings := by
  obtain ⟨same, foreign⟩ := (settled_iff given).mp settled
  refine ⟨foreign, ?_, ?_⟩
  · intro enabled ran f listed names
    obtain ⟨first, artifact⟩ := Option.ne_none_iff_exists'.mp ran
    rw [runPlugin_cisa] at ran artifact
    obtain ⟨catalog, present, found⟩ := Option.bind_eq_some_iff.mp artifact
    obtain ⟨result, one, rfl⟩ := Option.map_eq_some_iff.mp found
    have ran' : Cisa.runReport setup.library setup.numbers setup.isWord setup.isCve setup.cisaGroups catalog
        (merged setup d findings) ≠ none := by
      obtain ⟨assets, objects⟩ := (Cisa.runReport_ne_none (mergeInput_iterate given)).mp (by rw [one]; exact Option.some_ne_none _)
      refine (Cisa.runReport_ne_none merged_findings).mpr ⟨?_, mergedFindings_objects.trans objects⟩
      rwa [← assets_merged] at assets
    obtain ⟨result', two⟩ := Option.ne_none_iff_exists'.mp ran'
    have twice : Artifact.cisa result' = .cisa result := by
      refine runPlugin_of_runAll given same enabled ?_ ?_
      · rw [runPlugin_cisa, present, Option.bind_some, one, Option.map_some]
      · rw [runPlugin_cisa, present, Option.bind_some, two, Option.map_some]
    have asMany := Cisa.cves_of_runReport_eq assets_merged merged_findings (mergeInput_iterate given) mergedFindings_objects
      (by rw [one]; exact Option.some_ne_none _) (by rw [one, two, Artifact.cisa.inj twice])
    rw [cveIds_merged] at asMany
    obtain ⟨g, inAll, stays, rest⟩ := Cisa.cves_of_length asMany listed names
    exact ⟨g, inAll, by simpa using stays, rest⟩
  · intro enabled view view' packs seen seen' loaded
    have one := RulePacks.run_of_ok loaded view
    have two := RulePacks.run_of_ok loaded view'
    have twice := runPlugin_of_runAll given same enabled
      (by rw [runPlugin_mitre, seen, Option.bind_some, one]; rfl)
      (by rw [runPlugin_mitre, seen', Option.bind_some, two]; rfl)
    have results := Artifact.mitre.inj twice
    exact ⟨fun label => Mitre.labels_of_classify_eq results, fun label => Mitre.labels_of_classify_eq results.symm⟩

end Merging

/-! ### Reports that change again -/

def plainNumbers : Numbers := ⟨fun _ => none, fun _ => none, fun _ => "", fun _ _ => "", fun _ r => r⟩

def plainSetup (enabled : Plugin → Bool) : Setup where
  enabled
  library := RulePacks.plainLibrary
  stripBlank := rfl
  numbers := plainNumbers
  isExternal := fun _ => false
  isWord := fun _ => false
  isCve := fun _ => false
  attackCatalog := RulePacks.enterprise
  site := { RulePacks.disabling with explicit := "" }
  arpPacks := some []
  aptPacks := none
  cisaGroups := []
  cisaCatalog := none

def unmappedCategories : Option Artifact → Option (List String)
  | some (.mitre result) => some result.unmappedCategories
  | _ => none

/-- One gratuitous ARP reply. -/
def announced : Json :=
  .obj [("src_mac", .str "00:11:22:33:44:55"), ("src_ip", .str "10.0.0.5"), ("is_gratuitous", .bool true)]

def announcing : Disk := ⟨⟨PyDict.empty.set "arp_observations" (.arr [announced]), PyDict.empty⟩, fun _ => none⟩

def arpAndMitre : Setup := plainSetup fun p => p = .mitre ∨ p = .arp

/-- An extension of a tool that is none of the plugins. -/
def extended : Disk :=
  ⟨⟨PyDict.empty, PyDict.empty.set "site-audit" (.other (.obj [("data", .obj [("findings",
    .arr [.obj [("category", .str "WEAK_PASSWORD")]])])]))⟩, fun _ => none⟩

def findingCount (d : Disk) : Option Nat := ((riskFindings d.file.fields).iterate).map List.length

end Marlinspike.Plugins.Enrich
