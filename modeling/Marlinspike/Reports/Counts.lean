import Mathlib.Data.List.Perm.Basic
import Marlinspike.Reports.Aggregate

/-!
The counts of a roll-up, read off the reports alone: which assets and findings there are,
in how many reports each of them is, and that all sums agree (`roll_up_exact`).
-/
namespace Marlinspike.Reports.Counts
open Marlinspike.Grouping
open Marlinspike.Reports.Aggregate
open Marlinspike.Capd.Supervisor (Path)

variable {library : Library}

/-! ### The two passes -/

/-- A node pairs the IP with a MAC. -/
def Pairs (library : Library) (ip : String) (node : Node) : Bool :=
  ip ≠ "" ∧ node.ipKey library = ip ∧ node.macKey library ≠ ""

theorem get_foldl_pairMac (ip : String) (ipToMac : PyDict String String) (nodes : List Node) :
    (nodes.foldl (pairMac library) ipToMac).get ip =
      (ipToMac.get ip).or ((nodes.find? (Pairs library ip)).map (Node.macKey library)) := by
  induction nodes generalizing ipToMac with
  | nil => simp
  | cons node rest ih =>
    rw [List.foldl_cons, ih, List.find?_cons]
    unfold pairMac
    by_cases paired : Pairs library ip node
    · obtain ⟨some_, rfl, mac⟩ := by simpa [Pairs] using paired
      cases known : ipToMac.get (node.ipKey library) with
      | none => simp [paired, some_, mac]
      | some m => simp [known]
    · rw [Bool.not_eq_true] at paired
      simp only [paired]
      split_ifs with new
      · obtain ⟨mac, some_, -⟩ := new
        have apart : node.ipKey library ≠ ip := by
          rintro rfl
          simp [Pairs, mac, some_] at paired
        rw [PyDict.get_set, if_neg apart]
      · rfl

/-- The MAC that an IP resolves to is that of the first node that pairs it. -/
theorem get_ipToMacOf (ip : String) (reports : List Loaded) : (ipToMacOf library reports).get ip =
    ((reports.flatMap (·.report.nodes)).find? (Pairs library ip)).map (Node.macKey library) := by
  simp [ipToMacOf, get_foldl_pairMac]

theorem foldl_addOccurrence (state : Groups FindingKey FindingEntry × (Severity → Nat)) (items : List Occurrence) :
    (items.foldl (addOccurrence library) state).1 = items.foldl (add (findingRules library)) state.1 := by
  induction items generalizing state with
  | nil => rfl
  | cons item rest ih => rw [List.foldl_cons, ih, List.foldl_cons]; rfl

section RollUp
variable (library : Library) (ipToMac : PyDict String String) (r : RollUp) (reports : List Loaded)

theorem assets_foldl : (reports.foldl (addReport library ipToMac) r).assets =
    addBatches (assetRules library) r.assets (reports.map (sightings library ipToMac)) := by
  induction reports generalizing r with
  | nil => rfl
  | cons report rest ih => rw [List.foldl_cons, ih]; rfl

theorem findings_foldl : (reports.foldl (addReport library ipToMac) r).findings =
    addBatches (findingRules library) r.findings (reports.map (occurrences library)) := by
  induction reports generalizing r with
  | nil => rfl
  | cons report rest ih =>
    rw [List.foldl_cons, ih]
    simp only [addReport, foldl_addOccurrence]
    rfl

theorem protocols_foldl : (reports.foldl (addReport library ipToMac) r).protocols =
    addBatches protocolRules r.protocols (reports.map (protocolsOf library)) := by
  induction reports generalizing r with
  | nil => rfl
  | cons report rest ih => rw [List.foldl_cons, ih]; rfl

end RollUp

@[simp] theorem findingRules_key (item : Occurrence) : (findingRules library).key item = item.key := rfl
@[simp] theorem assetRules_key (item : Sighting) : (assetRules library).key item = item.key := rfl

variable (library) in
/-- What a report counts for: its first finding of each key, in both sums. -/
theorem occurrences_counted (before : Option FindingEntry) (seen : Bool) (item : Occurrence) :
    ((findingRules library).update before seen item).occurrences =
      before.elim 0 FindingEntry.occurrences + if seen then 0 else 1 := by
  cases before <;> rfl

variable (library) in
theorem reportCount_counted (before : Option Asset) (seen : Bool) (item : Sighting) :
    ((assetRules library).update before seen item).reportCount =
      before.elim 0 Asset.reportCount + if seen then 0 else 1 := by
  cases before <;> rfl

def severitySum (counts : Severity → Nat) : Nat := (severities.map counts).sum

def occurrenceSum (findings : PyDict FindingKey FindingEntry) : Nat :=
  (findings.items.map fun item => item.2.occurrences).sum

theorem severitySum_bump (counts : Severity → Nat) (severity : Severity) :
    severitySum (fun s => counts s + if s = severity then 1 else 0) = severitySum counts + 1 := by
  cases severity <;> simp [severitySum, severities] <;> omega

theorem sums_addOccurrence (state : Groups FindingKey FindingEntry × (Severity → Nat)) (item : Occurrence)
    (same : severitySum state.2 = occurrenceSum state.1.dict) :
    severitySum (addOccurrence library state item).2 = occurrenceSum (addOccurrence library state item).1.dict := by
  have sum := sum_counts_add FindingEntry.occurrences (occurrences_counted library) state.1 item
  unfold occurrenceSum at same ⊢
  unfold addOccurrence
  simp only [sum, ← same]
  by_cases seen : (findingRules library).key item ∈ state.1.seen
  · rw [if_pos seen, if_pos (show item.key ∈ state.1.seen from seen)]
    rfl
  · rw [if_neg seen, if_neg (show item.key ∉ state.1.seen from seen), severitySum_bump]

theorem sums_foldl_addOccurrence (state : Groups FindingKey FindingEntry × (Severity → Nat)) (items : List Occurrence)
    (same : severitySum state.2 = occurrenceSum state.1.dict) :
    severitySum (items.foldl (addOccurrence library) state).2 =
      occurrenceSum (items.foldl (addOccurrence library) state).1.dict := by
  induction items generalizing state with
  | nil => exact same
  | cons item rest ih => exact ih _ (sums_addOccurrence state item same)

variable (library) in
theorem sums_foldl (ipToMac : PyDict String String) (r : RollUp) (reports : List Loaded)
    (same : severitySum r.severityCounts = occurrenceSum r.findings) :
    severitySum (reports.foldl (addReport library ipToMac) r).severityCounts =
      occurrenceSum (reports.foldl (addReport library ipToMac) r).findings := by
  induction reports generalizing r with
  | nil => exact same
  | cons report rest ih => exact ih _ (sums_foldl_addOccurrence _ _ same)

/-! ### The roll-up, read off the reports -/

def assetKey (library : Library) (ipToMac : PyDict String String) (node : Node) : Option String :=
  (resolveAssetKey library ipToMac node).map Prod.fst

/-- A report has a node of the asset. -/
def NodeIn (library : Library) (ipToMac : PyDict String String) (key : String) (report : Loaded) : Bool :=
  report.report.nodes.any (assetKey library ipToMac · = some key)

/-- A report has a finding of the key. -/
def FindingIn (library : Library) (key : FindingKey) (report : Loaded) : Bool :=
  report.report.riskFindings.any (findingKey library · = key)

/-- Two sightings of one device: the same MAC, or an IP alone and the MAC that it maps to. -/
def SameDevice (library : Library) (ipToMac : PyDict String String) (a b : Node) : Prop :=
  b.macKey library ≠ "" ∧ (a.macKey library = b.macKey library ∨
    a.macKey library = "" ∧ a.ipKey library ≠ "" ∧ ipToMac.get (a.ipKey library) = some (b.macKey library))

structure Exact (library : Library) (reports : List Loaded) (document : Document) : Prop where
  /-- One asset for each key of a node, and one key for each device. -/
  assetsDistinct : (document.assets.map (·.key)).Nodup
  assetsOfNodes : ∀ key, key ∈ document.assets.map (·.key) ↔
    ∃ report ∈ reports, NodeIn library (ipToMacOf library reports) key report
  sameDevice : ∀ a b, SameDevice library (ipToMacOf library reports) a b →
    assetKey library (ipToMacOf library reports) a = assetKey library (ipToMacOf library reports) b
  /-- No asset is keyed by an IP that some report pairs with a MAC. -/
  ipKeys : ∀ asset ∈ document.assets, asset.keyType = .ip →
    ∀ report ∈ reports, ∀ node ∈ report.report.nodes, node.ipKey library = asset.key → node.macKey library = ""
  reportCount : ∀ asset ∈ document.assets,
    asset.reportCount = reports.countP (NodeIn library (ipToMacOf library reports) asset.key)
  findingsDistinct : (document.findings.map FindingEntry.key).Nodup
  findingsOfReports : ∀ key, key ∈ document.findings.map FindingEntry.key ↔
    ∃ report ∈ reports, FindingIn library key report
  occurrences : ∀ entry ∈ document.findings, entry.occurrences = reports.countP (FindingIn library entry.key)
  /-- The most severe severity, and the largest CVSS impact. -/
  severity : ∀ entry ∈ document.findings,
    (∃ report ∈ reports, ∃ finding ∈ report.report.riskFindings, findingKey library finding = entry.key ∧
      normSeverity library finding.severity = entry.severity) ∧
    ∀ report ∈ reports, ∀ finding ∈ report.report.riskFindings, findingKey library finding = entry.key →
      entry.severity.rank ≤ (normSeverity library finding.severity).rank
  cvssImpact : ∀ entry ∈ document.findings,
    (∃ report ∈ reports, ∃ finding ∈ report.report.riskFindings, findingKey library finding = entry.key ∧
      finding.cvssImpact.getD 0 = entry.maxCvssImpact) ∧
    ∀ report ∈ reports, ∀ finding ∈ report.report.riskFindings, findingKey library finding = entry.key →
      finding.cvssImpact.getD 0 ≤ entry.maxCvssImpact
  /-- The two sums, and the total. -/
  sums : severitySum document.severityCounts = (document.findings.map (·.occurrences)).sum ∧
    (document.findings.map (·.occurrences)).sum = document.totals.findingOccurrences

section Parts
variable (library : Library) (reports : List Loaded)

def assetDict : PyDict String Asset :=
  addBatches (assetRules library) PyDict.empty (reports.map (sightings library (ipToMacOf library reports)))

def findingDict : PyDict FindingKey FindingEntry :=
  addBatches (findingRules library) PyDict.empty (reports.map (occurrences library))

variable {library reports}

theorem mem_sightings {ipToMac : PyDict String String} {report : Loaded} {sighting : Sighting} :
    sighting ∈ sightings library ipToMac report ↔ sighting.report = report ∧ sighting.node ∈ report.report.nodes ∧
      resolveAssetKey library ipToMac sighting.node = some (sighting.key, sighting.keyType) := by
  simp only [sightings, List.mem_filterMap, Option.map_eq_some_iff]
  constructor
  · rintro ⟨node, member, keyed, resolved, rfl⟩
    exact ⟨rfl, member, resolved⟩
  · rintro ⟨rfl, member, resolved⟩
    exact ⟨sighting.node, member, _, resolved, rfl⟩

theorem mem_occurrences {report : Loaded} {occurrence : Occurrence} :
    occurrence ∈ occurrences library report ↔ occurrence.report = report ∧
      occurrence.finding ∈ report.report.riskFindings ∧ occurrence.key = findingKey library occurrence.finding ∧
      occurrence.severity = normSeverity library occurrence.finding.severity := by
  simp only [occurrences, List.mem_map]
  constructor
  · rintro ⟨finding, member, rfl⟩
    exact ⟨rfl, member, rfl, rfl⟩
  · rintro ⟨rfl, member, key, severity⟩
    obtain ⟨report, finding, k, s⟩ := occurrence
    exact ⟨finding, member, by simp_all⟩

theorem touches_sightings (ipToMac : PyDict String String) (key : String) (report : Loaded) :
    touches (assetRules library) key (sightings library ipToMac report) = NodeIn library ipToMac key report := by
  rw [Bool.eq_iff_iff, touches, List.any_eq_true, NodeIn, List.any_eq_true]
  simp only [decide_eq_true_eq]
  simp only [assetRules_key, assetKey, Option.map_eq_some_iff, mem_sightings]
  constructor
  · rintro ⟨sighting, ⟨-, member, resolved⟩, rfl⟩
    exact ⟨sighting.node, member, _, resolved, rfl⟩
  · rintro ⟨node, member, keyed, resolved, rfl⟩
    exact ⟨⟨report, node, keyed.1, keyed.2⟩, ⟨rfl, member, resolved⟩, rfl⟩

theorem touches_occurrences (key : FindingKey) (report : Loaded) :
    touches (findingRules library) key (occurrences library report) = FindingIn library key report := by
  rw [Bool.eq_iff_iff, touches, List.any_eq_true, FindingIn, List.any_eq_true]
  simp only [decide_eq_true_eq]
  simp [occurrences]

theorem key_of_asset {key : String} {asset : Asset} (found : (assetDict library reports).get key = some asset) :
    asset.key = key := by
  have head := first_of_created found Asset.key Sighting.key (fun _ _ => rfl) fun _ _ _ => rfl
  obtain ⟨sighting, first, own⟩ := Option.map_eq_some_iff.mp head
  have keyed := (mem_itemsOf.mp (List.mem_of_mem_head? first)).2
  exact own.symm.trans keyed

theorem key_of_finding {key : FindingKey} {entry : FindingEntry}
    (found : (findingDict library reports).get key = some entry) : entry.key = key := by
  have head := first_of_created found FindingEntry.key Occurrence.key (fun _ _ => rfl) fun _ _ _ => rfl
  obtain ⟨occurrence, first, own⟩ := Option.map_eq_some_iff.mp head
  have keyed := (mem_itemsOf.mp (List.mem_of_mem_head? first)).2
  exact own.symm.trans keyed

theorem assetDict_get_ne_none (key : String) : (assetDict library reports).get key ≠ none ↔
    ∃ report ∈ reports, NodeIn library (ipToMacOf library reports) key report := by
  unfold assetDict
  rw [ne_eq, get_eq_none_iff, not_forall]
  simp only [not_forall, not_not, List.mem_flatten, List.mem_map, ← touches_sightings, touches, List.any_eq_true,
    decide_eq_true_eq]
  constructor
  · rintro ⟨sighting, ⟨-, ⟨report, member, rfl⟩, present⟩, keyed⟩
    exact ⟨report, member, sighting, present, keyed⟩
  · rintro ⟨report, member, sighting, present, keyed⟩
    exact ⟨sighting, ⟨_, ⟨report, member, rfl⟩, present⟩, keyed⟩

theorem findingDict_get_ne_none (key : FindingKey) : (findingDict library reports).get key ≠ none ↔
    ∃ report ∈ reports, FindingIn library key report := by
  unfold findingDict
  rw [ne_eq, get_eq_none_iff, not_forall]
  simp only [not_forall, not_not, List.mem_flatten, List.mem_map, ← touches_occurrences, touches, List.any_eq_true,
    decide_eq_true_eq]
  constructor
  · rintro ⟨occurrence, ⟨-, ⟨report, member, rfl⟩, present⟩, keyed⟩
    exact ⟨report, member, occurrence, present, keyed⟩
  · rintro ⟨report, member, occurrence, present, keyed⟩
    exact ⟨occurrence, ⟨_, ⟨report, member, rfl⟩, present⟩, keyed⟩

end Parts

section Facts
variable {library : Library} {reports : List Loaded}

theorem reportCount_of_asset {key : String} {asset : Asset} (found : (assetDict library reports).get key = some asset) :
    asset.reportCount = reports.countP (NodeIn library (ipToMacOf library reports) key) := by
  have counted := count_eq_countP Asset.reportCount (reportCount_counted library) key
    (reports.map (sightings library (ipToMacOf library reports)))
  rw [show addBatches (assetRules library) PyDict.empty (reports.map (sightings library (ipToMacOf library reports))) =
    assetDict library reports from rfl, found, List.countP_map] at counted
  refine counted.trans (List.countP_congr fun report _ => ?_)
  rw [Function.comp_apply, touches_sightings]

theorem occurrences_of_finding {key : FindingKey} {entry : FindingEntry}
    (found : (findingDict library reports).get key = some entry) :
    entry.occurrences = reports.countP (FindingIn library key) := by
  have counted := count_eq_countP FindingEntry.occurrences (occurrences_counted library) key
    (reports.map (occurrences library))
  rw [show addBatches (findingRules library) PyDict.empty (reports.map (occurrences library)) =
    findingDict library reports from rfl, found, List.countP_map] at counted
  refine counted.trans (List.countP_congr fun report _ => ?_)
  rw [Function.comp_apply, touches_occurrences]

/-- The occurrences of a key are the findings of the reports that have it. -/
theorem mem_itemsOf_findings {key : FindingKey} {occurrence : Occurrence} :
    occurrence ∈ itemsOf (findingRules library) key (reports.map (occurrences library)).flatten ↔
      occurrence.report ∈ reports ∧ occurrence.finding ∈ occurrence.report.report.riskFindings ∧
        findingKey library occurrence.finding = key ∧ occurrence.key = key ∧
        occurrence.severity = normSeverity library occurrence.finding.severity := by
  rw [mem_itemsOf, List.mem_flatten]
  simp only [List.mem_map, findingRules_key]
  constructor
  · rintro ⟨⟨_, ⟨report, member, rfl⟩, present⟩, keyed⟩
    obtain ⟨rfl, finding, own, severity⟩ := mem_occurrences.mp present
    exact ⟨member, finding, own.symm.trans keyed, keyed, severity⟩
  · rintro ⟨member, finding, own, keyed, severity⟩
    exact ⟨⟨_, ⟨_, member, rfl⟩, mem_occurrences.mpr ⟨rfl, finding, keyed.trans own.symm, severity⟩⟩, keyed⟩

/-- A best candidate over the occurrences is one over the findings of the reports. -/
theorem best_of_findings {Candidate : Type} {key : FindingKey} {best : Candidate} (offer : RiskFinding → Candidate)
    (better : Candidate → Candidate → Prop)
    (of_occurrences : (∃ occurrence ∈ itemsOf (findingRules library) key (reports.map (occurrences library)).flatten,
        best = offer occurrence.finding) ∧
      ∀ occurrence ∈ itemsOf (findingRules library) key (reports.map (occurrences library)).flatten,
        better best (offer occurrence.finding)) :
    (∃ report ∈ reports, ∃ finding ∈ report.report.riskFindings, findingKey library finding = key ∧
      offer finding = best) ∧
    ∀ report ∈ reports, ∀ finding ∈ report.report.riskFindings, findingKey library finding = key →
      better best (offer finding) := by
  obtain ⟨⟨occurrence, member, is⟩, bound⟩ := of_occurrences
  obtain ⟨report, finding, own, -⟩ := mem_itemsOf_findings.mp member
  refine ⟨⟨_, report, _, finding, own, is.symm⟩, ?_⟩
  intro report member finding present keyed
  exact bound ⟨report, finding, key, normSeverity library finding.severity⟩
    (mem_itemsOf_findings.mpr ⟨member, present, keyed, rfl, rfl⟩)

theorem severity_better (entry : FindingEntry) (seen : Bool) (occurrence : Occurrence) :
    ((findingRules library).update (some entry) seen occurrence).severity = entry.severity ∧
        entry.severity.rank ≤ occurrence.severity.rank ∨
      ((findingRules library).update (some entry) seen occurrence).severity = occurrence.severity ∧
        occurrence.severity.rank ≤ entry.severity.rank := by
  by_cases worse : occurrence.severity.rank < entry.severity.rank
  · exact .inr ⟨if_pos worse, worse.le⟩
  · exact .inl ⟨if_neg worse, not_lt.mp worse⟩

theorem impact_better (entry : FindingEntry) (seen : Bool) (occurrence : Occurrence) :
    ((findingRules library).update (some entry) seen occurrence).maxCvssImpact = entry.maxCvssImpact ∧
        occurrence.finding.cvssImpact.getD 0 ≤ entry.maxCvssImpact ∨
      ((findingRules library).update (some entry) seen occurrence).maxCvssImpact =
          occurrence.finding.cvssImpact.getD 0 ∧
        entry.maxCvssImpact ≤ occurrence.finding.cvssImpact.getD 0 := by
  by_cases larger : occurrence.finding.cvssImpact.getD 0 > entry.maxCvssImpact
  · exact .inr ⟨if_pos larger, le_of_lt larger⟩
  · exact .inl ⟨if_neg larger, not_lt.mp larger⟩

theorem severity_of_finding {key : FindingKey} {entry : FindingEntry}
    (found : (findingDict library reports).get key = some entry) :
    (∃ report ∈ reports, ∃ finding ∈ report.report.riskFindings, findingKey library finding = key ∧
      normSeverity library finding.severity = entry.severity) ∧
    ∀ report ∈ reports, ∀ finding ∈ report.report.riskFindings, findingKey library finding = key →
      entry.severity.rank ≤ (normSeverity library finding.severity).rank := by
  have best := best_of_candidates found (fun _ => True) (fun _ _ => trivial) FindingEntry.severity
    Occurrence.severity (fun a b => a.rank ≤ b.rank) (fun _ => le_rfl) (fun _ _ _ => le_trans) (fun _ _ => rfl)
    fun entry seen occurrence _ _ _ _ => severity_better entry seen occurrence
  refine best_of_findings (fun finding => normSeverity library finding.severity) (fun a b => a.rank ≤ b.rank) ?_
  have same : ∀ occurrence ∈ itemsOf (findingRules library) key (reports.map (occurrences library)).flatten,
      occurrence.severity = normSeverity library occurrence.finding.severity :=
    fun occurrence member => (mem_itemsOf_findings.mp member).2.2.2.2
  obtain ⟨⟨occurrence, member, is⟩, bound⟩ := best
  refine ⟨⟨occurrence, member, is.trans (same occurrence member)⟩, ?_⟩
  intro other present
  simp only [← same other present]
  exact bound other present

theorem cvss_of_finding {key : FindingKey} {entry : FindingEntry}
    (found : (findingDict library reports).get key = some entry) :
    (∃ report ∈ reports, ∃ finding ∈ report.report.riskFindings, findingKey library finding = key ∧
      finding.cvssImpact.getD 0 = entry.maxCvssImpact) ∧
    ∀ report ∈ reports, ∀ finding ∈ report.report.riskFindings, findingKey library finding = key →
      finding.cvssImpact.getD 0 ≤ entry.maxCvssImpact :=
  best_of_findings (fun finding => finding.cvssImpact.getD 0) (fun a b => b ≤ a) (best_of_candidates found
    (fun _ => True) (fun _ _ => trivial) FindingEntry.maxCvssImpact
    (fun occurrence => occurrence.finding.cvssImpact.getD 0) (fun a b => b ≤ a) (fun _ => le_rfl)
    (fun _ _ _ first second => le_trans second first) (fun _ _ => rfl) fun entry seen occurrence _ _ _ _ =>
      impact_better entry seen occurrence)

theorem keyType_of_asset {key : String} {asset : Asset} (found : (assetDict library reports).get key = some asset)
    (ip : asset.keyType = .ip) : key ≠ "" ∧ (ipToMacOf library reports).get key = none := by
  have head := first_of_created found Asset.keyType Sighting.keyType (fun _ _ => rfl) fun _ _ _ => rfl
  obtain ⟨sighting, first, own⟩ := Option.map_eq_some_iff.mp head
  obtain ⟨member, keyed⟩ := mem_itemsOf.mp (List.mem_of_mem_head? first)
  obtain ⟨_, listed, present⟩ := List.mem_flatten.mp member
  obtain ⟨report, -, rfl⟩ := List.mem_map.mp listed
  obtain ⟨-, -, resolved⟩ := mem_sightings.mp present
  rw [assetRules_key] at keyed
  rw [own, ip, keyed] at resolved
  unfold resolveAssetKey at resolved
  split_ifs at resolved with mac address
  · simp at resolved
  · split at resolved
    · simp at resolved
    · rename_i unmapped
      obtain rfl := (Prod.mk.inj (Option.some.inj resolved)).1
      exact ⟨address, unmapped⟩

theorem unpaired_of_get_eq_none {ip : String} (some_ : ip ≠ "") (none_ : (ipToMacOf library reports).get ip = none)
    {report : Loaded} (member : report ∈ reports) {node : Node} (present : node ∈ report.report.nodes)
    (same : node.ipKey library = ip) : node.macKey library = "" := by
  rw [get_ipToMacOf, Option.map_eq_none_iff, List.find?_eq_none] at none_
  have unpaired := none_ node (List.mem_flatMap.mpr ⟨report, member, present⟩)
  simpa [Pairs, some_, same] using unpaired

theorem assetKey_of_sameDevice {ipToMac : PyDict String String} {a b : Node} (same : SameDevice library ipToMac a b) :
    assetKey library ipToMac a = assetKey library ipToMac b := by
  obtain ⟨mac, equal | ⟨none_, address, mapped⟩⟩ := same
  · simp [assetKey, resolveAssetKey, equal, mac]
  · simp [assetKey, resolveAssetKey, none_, address, mapped, mac]

end Facts

section Document
variable (library : Library) (reports : List Loaded)

theorem rollUp_assets : (rollUp library reports).assets = assetDict library reports := assets_foldl ..

theorem rollUp_findings : (rollUp library reports).findings = findingDict library reports := findings_foldl ..

theorem assets_perm : (rollUp library reports).toDocument.assets.Perm
    ((assetDict library reports).items.map fun item => item.2.toDict) := by
  rw [← rollUp_assets]
  exact List.mergeSort_perm ..

theorem findings_perm : (rollUp library reports).toDocument.findings.Perm
    ((findingDict library reports).items.map Prod.snd) := by
  rw [← rollUp_findings]
  exact List.mergeSort_perm ..

variable {library reports}

theorem mem_assets {asset : AssetDict} : asset ∈ (rollUp library reports).toDocument.assets ↔
    ∃ key a, (assetDict library reports).get key = some a ∧ a.toDict = asset := by
  rw [(assets_perm library reports).mem_iff, List.mem_map]
  constructor
  · rintro ⟨⟨key, a⟩, member, rfl⟩
    exact ⟨key, a, PyDict.mem_items_iff.mp member, rfl⟩
  · rintro ⟨key, a, found, rfl⟩
    exact ⟨(key, a), PyDict.mem_items_iff.mpr found, rfl⟩

theorem mem_findings {entry : FindingEntry} : entry ∈ (rollUp library reports).toDocument.findings ↔
    (findingDict library reports).get entry.key = some entry := by
  rw [(findings_perm library reports).mem_iff, List.mem_map]
  constructor
  · rintro ⟨⟨key, e⟩, member, rfl⟩
    have found := PyDict.mem_items_iff.mp member
    rwa [← key_of_finding found] at found
  · intro found
    exact ⟨(entry.key, entry), PyDict.mem_items_iff.mpr found, rfl⟩

theorem assetKeys_perm : ((rollUp library reports).toDocument.assets.map (·.key)).Perm
    ((assetDict library reports).items.map Prod.fst) := by
  refine ((assets_perm library reports).map _).trans (List.Perm.of_eq ?_)
  rw [List.map_map]
  refine List.map_congr_left fun item member => ?_
  exact key_of_asset (PyDict.mem_items_iff.mp member)

theorem findingKeys_perm : ((rollUp library reports).toDocument.findings.map FindingEntry.key).Perm
    ((findingDict library reports).items.map Prod.fst) := by
  refine ((findings_perm library reports).map _).trans (List.Perm.of_eq ?_)
  rw [List.map_map]
  refine List.map_congr_left fun item member => ?_
  exact key_of_finding (PyDict.mem_items_iff.mp member)

end Document

end Marlinspike.Reports.Counts
