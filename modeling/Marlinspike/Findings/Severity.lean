import Mathlib.Data.List.Dedup
import Marlinspike.Findings.Identity

/-!
The severity of a finding in the light of the tags of its assets. Tags are kept under the MAC
of an asset that has one, but the overlay looks each affected node up as it is written, so
that it misses the tags of a node that goes by its IP, and it takes a node that is listed
twice for an untagged one. Where neither matters it is the documented rule
(`contextual_severity_iff`).
-/
namespace Marlinspike.Findings.Severity
open Marlinspike.Reports
open Marlinspike.Reports.Aggregate
open Marlinspike.Findings.Identity

structure AssetTag where
  owner : Option String
  criticality : Option String
  zone : Option String
  businessFunction : Option String
  freeText : Option String
deriving DecidableEq, Repr

/-- The tags of a project, by `asset_key`. -/
abbrev Tags := PyDict String AssetTag

def severityOrder : List String := ["INFO", "LOW", "MEDIUM", "HIGH", "CRITICAL"]

/-- One node's tag, where it has one. -/
def addTag (tags found : Tags) (node : String) : Tags :=
  match tags.get node with
  | some tag => found.set node tag
  | none => found

/-- The tags of the affected nodes. -/
def nodeTagMap (tags : Tags) (affected : List String) : Tags := affected.foldl (addTag tags) PyDict.empty

def hasCriticalAsset (found : Tags) : Bool :=
  (found.items.filterMap fun item => (truthy item.2.criticality)).any (· = "critical")

def allLow (found : Tags) (affected : List String) : Bool :=
  affected ≠ [] ∧ found.items.length = affected.length ∧
    affected.all fun node => (found.get node).bind (·.criticality) = some "low"

/-- The contextual severity and its reason, of a severity in upper case. -/
def contextual (tags : Tags) (base : String) (affected : List String) : String × String :=
  let found := nodeTagMap tags affected
  if base ∈ severityOrder then
    let index := severityOrder.idxOf base
    if hasCriticalAsset found ∧ index < severityOrder.length - 1 then
      (severityOrder.getD (index + 1) "", "bumped: affected node tagged critical")
    else if allLow found affected ∧ 0 < index then
      (severityOrder.getD (index - 1) "", "reduced: all affected nodes tagged low")
    else (base, "unchanged")
  else (base, "unchanged")

/-- A finding with what the overlay adds to it. -/
structure Enriched (Note : Type) where
  finding : RiskFinding
  contextualSeverity : String
  contextualSeverityReason : String
  note : Option Note
  assetTags : Tags
  signature : List Char

/-- `_apply_contextual_severity`. -/
def applyContextualSeverity {Note : Type} (library : Library) (sha256 : String → String) (findings : List RiskFinding)
    (tags : Tags) (notesBySig : PyDict (List Char) Note) : List (Enriched Note) :=
  findings.map fun finding =>
    let base := library.upper (orElse finding.severity "")
    let context := contextual tags base finding.affectedNodes
    let signature := findingSignature sha256 finding
    ⟨finding, context.1, context.2, notesBySig.get signature, nodeTagMap tags finding.affectedNodes, signature⟩

/-! ### The documented rule -/

/-- The MAC that the report pairs with an IP. -/
def pairedMac (nodes : List Node) (ip : String) : Option String :=
  nodes.findSome? fun node => if truthy node.ip = some ip then truthy node.mac else none

/-- The key of the asset that an affected node belongs to. -/
def assetKey (nodes : List Node) (node : String) : String := (pairedMac nodes node).getD node

/-- Tags are kept by MAC for an asset that has one. -/
def MacFirst (nodes : List Node) (tags : Tags) : Prop := ∀ ip, pairedMac nodes ip ≠ none → tags.get ip = none

/-- The asset is tagged with the criticality. -/
def Tagged (tags : Tags) (criticality key : String) : Prop := (tags.get key).bind (·.criticality) = some criticality

instance (tags : Tags) (criticality key : String) : Decidable (Tagged tags criticality key) := by
  unfold Tagged
  infer_instance

def raised (base : String) : String := severityOrder.getD (min (severityOrder.idxOf base + 1) 4) ""
def lowered (base : String) : String := severityOrder.getD (severityOrder.idxOf base - 1) ""

/-- The rule of the documentation, on the assets of the affected nodes. -/
def documented (nodes : List Node) (tags : Tags) (base : String) (affected : List String) : String :=
  if ∃ node ∈ affected, Tagged tags "critical" (assetKey nodes node) then raised base
  else if affected ≠ [] ∧ ∀ node ∈ affected, Tagged tags "low" (assetKey nodes node) then lowered base
  else base

/-- If an asset is tagged critical, a node that is written as the tag's key is. -/
def CriticalByKey (nodes : List Node) (tags : Tags) (affected : List String) : Prop :=
  (∃ node ∈ affected, Tagged tags "critical" (assetKey nodes node)) → ∃ node ∈ affected, Tagged tags "critical" node

/-- If all assets are tagged low, every node is written as the tag's key, and once. -/
def LowByKey (nodes : List Node) (tags : Tags) (affected : List String) : Prop :=
  (∀ node ∈ affected, Tagged tags "low" (assetKey nodes node)) →
    affected.Nodup ∧ ∀ node ∈ affected, pairedMac nodes node = none

/-! ### What the overlay finds -/

section Found
variable {tags : Tags} {affected : List String}

theorem get_addTag (found : Tags) (node other : String) :
    (addTag tags found node).get other =
      if node = other ∧ tags.get node ≠ none then tags.get node else found.get other := by
  unfold addTag
  cases tag : tags.get node with
  | none => simp
  | some tag => simp [PyDict.get_set]

theorem get_foldl_addTag (found : Tags) (node : String) :
    (affected.foldl (addTag tags) found).get node =
      if node ∈ affected ∧ tags.get node ≠ none then tags.get node else found.get node := by
  induction affected generalizing found with
  | nil => simp
  | cons head rest ih =>
    rw [List.foldl_cons, ih, get_addTag]
    by_cases here : head = node
    · subst here
      by_cases tag : tags.get head = none
      · simp [tag]
      · simp [tag]
    · simp [here, Ne.symm here]

theorem get_nodeTagMap (node : String) :
    (nodeTagMap tags affected).get node = if node ∈ affected then tags.get node else none := by
  show (affected.foldl (addTag tags) PyDict.empty).get node = _
  rw [get_foldl_addTag]
  show (if node ∈ affected ∧ tags.get node ≠ none then tags.get node else none) = _
  by_cases listed : node ∈ affected
  · by_cases tag : tags.get node = none
    · simp [tag]
    · simp [listed, tag]
  · simp [listed]

theorem hasCriticalAsset_iff :
    hasCriticalAsset (nodeTagMap tags affected) = true ↔ ∃ node ∈ affected, Tagged tags "critical" node := by
  unfold hasCriticalAsset
  simp only [List.any_eq_true, List.mem_filterMap, decide_eq_true_eq]
  constructor
  · rintro ⟨criticality, ⟨⟨node, tag⟩, member, is⟩, rfl⟩
    have found := PyDict.mem_items_iff.mp member
    rw [get_nodeTagMap] at found
    split at found
    · next listed =>
      refine ⟨node, listed, ?_⟩
      have given : tag.criticality = some "critical" := (Option.filter_eq_some_iff.mp is).1
      simp [Tagged, found, given]
    · cases found
  · rintro ⟨node, listed, tagged⟩
    obtain ⟨tag, found, given⟩ := Option.bind_eq_some_iff.mp tagged
    refine ⟨"critical", ⟨(node, tag), PyDict.mem_items_iff.mpr ?_, ?_⟩, rfl⟩
    · rw [get_nodeTagMap, if_pos listed, found]
    · show truthy tag.criticality = _
      rw [given]
      rfl

/-- The map is as long as the list of nodes only if every node has a tag and is listed once. -/
theorem length_nodeTagMap_iff : (nodeTagMap tags affected).items.length = affected.length ↔
    affected.Nodup ∧ ∀ node ∈ affected, tags.get node ≠ none := by
  have keys : ((nodeTagMap tags affected).items.map Prod.fst).Perm
      ((affected.filter fun node => tags.get node ≠ none).dedup) := by
    refine (List.perm_ext_iff_of_nodup (nodeTagMap tags affected).distinct (List.nodup_dedup _)).mpr fun node => ?_
    rw [PyDict.mem_keys_iff, get_nodeTagMap, List.mem_dedup, List.mem_filter, decide_eq_true_eq]
    by_cases listed : node ∈ affected
    · simp [listed]
    · simp [listed]
  have counted : (nodeTagMap tags affected).items.length =
      (affected.filter fun node => tags.get node ≠ none).dedup.length := by
    rw [← keys.length_eq, List.length_map]
  rw [counted]
  constructor
  · intro same
    have short : (affected.filter fun node => tags.get node ≠ none).dedup.Sublist affected :=
      (List.dedup_sublist _).trans List.filter_sublist
    have whole := short.eq_of_length same
    refine ⟨whole ▸ List.nodup_dedup _, fun node listed => ?_⟩
    rw [← whole, List.mem_dedup, List.mem_filter] at listed
    exact of_decide_eq_true listed.2
  · rintro ⟨once, tagged⟩
    rw [List.filter_eq_self.mpr fun node listed => decide_eq_true (tagged node listed), once.dedup]

theorem allLow_iff : allLow (nodeTagMap tags affected) affected = true ↔
    affected ≠ [] ∧ affected.Nodup ∧ ∀ node ∈ affected, Tagged tags "low" node := by
  have own {node : String} (listed : node ∈ affected) :
      ((nodeTagMap tags affected).get node).bind (·.criticality) = (tags.get node).bind (·.criticality) := by
    rw [get_nodeTagMap, if_pos listed]
  unfold allLow
  rw [decide_eq_true_eq, length_nodeTagMap_iff, List.all_eq_true]
  constructor
  · rintro ⟨some_, ⟨once, _⟩, low⟩
    exact ⟨some_, once, fun node listed => (own listed).symm.trans (of_decide_eq_true (low node listed))⟩
  · rintro ⟨some_, once, low⟩
    refine ⟨some_, ⟨once, fun node listed none_ => ?_⟩,
      fun node listed => decide_eq_true ((own listed).trans (low node listed))⟩
    have tagged := low node listed
    rw [Tagged, none_] at tagged
    cases tagged

theorem contextual_of_known {base : String} (known : base ∈ severityOrder) : (contextual tags base affected).1 =
    if (∃ node ∈ affected, Tagged tags "critical" node) ∧ base ≠ "CRITICAL" then raised base
    else if (affected ≠ [] ∧ affected.Nodup ∧ ∀ node ∈ affected, Tagged tags "low" node) ∧ base ≠ "INFO" then
      lowered base
    else base := by
  have top : ∀ base ∈ severityOrder, (severityOrder.idxOf base < severityOrder.length - 1 ↔ base ≠ "CRITICAL") ∧
      (0 < severityOrder.idxOf base ↔ base ≠ "INFO") ∧
      (base ≠ "CRITICAL" → severityOrder.getD (severityOrder.idxOf base + 1) "" = raised base) := by decide
  obtain ⟨notTop, notBottom, raise⟩ := top base known
  unfold contextual
  rw [if_pos known]
  simp only [hasCriticalAsset_iff, allLow_iff, notTop, notBottom]
  by_cases critical : (∃ node ∈ affected, Tagged tags "critical" node) ∧ base ≠ "CRITICAL"
  · rw [if_pos critical, if_pos critical]
    exact raise critical.2
  · rw [if_neg critical, if_neg critical]
    split
    · rfl
    · rfl

end Found

/-! ### Agreement -/

section Agreement
variable {nodes : List Node} {tags : Tags} {affected : List String}

/-- A node that is written as a tag's key belongs to the tag's asset. -/
theorem tagged_asset {criticality node : String} (keyed : MacFirst nodes tags) (tagged : Tagged tags criticality node) :
    pairedMac nodes node = none ∧ Tagged tags criticality (assetKey nodes node) := by
  have unpaired : pairedMac nodes node = none := by
    by_contra paired
    rw [Tagged, keyed node paired] at tagged
    cases tagged
  refine ⟨unpaired, ?_⟩
  rw [assetKey, unpaired]
  exact tagged

theorem tagged_unique {key criticality criticality' : String} (one : Tagged tags criticality key)
    (other : Tagged tags criticality' key) : criticality = criticality' :=
  Option.some.inj (one.symm.trans other)

/-- The severity of one finding is the documented one if and only if the tags are found by
    the names of the nodes, as far as they matter at its base severity. -/
theorem contextual_eq_iff {base : String} (known : base ∈ severityOrder) (keyed : MacFirst nodes tags) :
    (contextual tags base affected).1 = documented nodes tags base affected ↔
      (base ≠ "CRITICAL" → CriticalByKey nodes tags affected) ∧ (base ≠ "INFO" → LowByKey nodes tags affected) := by
  have moves : ∀ base ∈ severityOrder,
      (raised base = base ↔ base = "CRITICAL") ∧ (lowered base = base ↔ base = "INFO") := by
    decide
  obtain ⟨raisedIs, loweredIs⟩ := moves base known
  rw [contextual_of_known known]
  unfold documented
  have byKey : (∃ node ∈ affected, Tagged tags "critical" node) →
      ∃ node ∈ affected, Tagged tags "critical" (assetKey nodes node) := by
    rintro ⟨node, listed, tagged⟩
    exact ⟨node, listed, (tagged_asset keyed tagged).2⟩
  have lowKeys (low : ∀ node ∈ affected, Tagged tags "low" node) :
      ∀ node ∈ affected, Tagged tags "low" (assetKey nodes node) :=
    fun node listed => (tagged_asset keyed (low node listed)).2
  have apart (critical : ∃ node ∈ affected, Tagged tags "critical" (assetKey nodes node))
      (low : ∀ node ∈ affected, Tagged tags "low" (assetKey nodes node)) : False := by
    obtain ⟨node, listed, tagged⟩ := critical
    exact absurd (tagged_unique tagged (low node listed)) (by decide)
  have ofKeys (low : ∀ node ∈ affected, Tagged tags "low" (assetKey nodes node))
      (unpaired : ∀ node ∈ affected, pairedMac nodes node = none) : ∀ node ∈ affected, Tagged tags "low" node := by
    intro node listed
    have tagged := low node listed
    rwa [assetKey, unpaired node listed] at tagged
  by_cases asset : ∃ node ∈ affected, Tagged tags "critical" (assetKey nodes node)
  · rw [if_pos asset]
    have free : LowByKey nodes tags affected := fun low => (apart asset low).elim
    have notLow : ¬∀ node ∈ affected, Tagged tags "low" node := fun low => apart asset (lowKeys low)
    by_cases top : base = "CRITICAL"
    · rw [if_neg (fun both => both.2 top), if_neg (fun both => notLow both.1.2.2)]
      exact iff_of_true (raisedIs.mpr top).symm ⟨fun other => absurd top other, fun _ => free⟩
    · by_cases literal : ∃ node ∈ affected, Tagged tags "critical" node
      · rw [if_pos ⟨literal, top⟩]
        exact iff_of_true rfl ⟨fun _ _ => literal, fun _ => free⟩
      · rw [if_neg (fun both => literal both.1), if_neg (fun both => notLow both.1.2.2)]
        exact iff_of_false (fun same => top (raisedIs.mp same.symm)) fun both => literal (both.1 top asset)
  · rw [if_neg asset, if_neg (fun both => asset (byKey both.1))]
    have free : CriticalByKey nodes tags affected := fun critical => absurd critical asset
    by_cases low : affected ≠ [] ∧ ∀ node ∈ affected, Tagged tags "low" (assetKey nodes node)
    · rw [if_pos low]
      by_cases bottom : base = "INFO"
      · rw [if_neg (fun both => both.2 bottom)]
        exact iff_of_true (loweredIs.mpr bottom).symm ⟨fun _ => free, fun other => absurd bottom other⟩
      · by_cases literal : affected ≠ [] ∧ affected.Nodup ∧ ∀ node ∈ affected, Tagged tags "low" node
        · rw [if_pos ⟨literal, bottom⟩]
          exact iff_of_true rfl ⟨fun _ => free, fun _ _ =>
            ⟨literal.2.1, fun node listed => (tagged_asset keyed (literal.2.2 node listed)).1⟩⟩
        · rw [if_neg (fun both => literal both.1)]
          refine iff_of_false (fun same => bottom (loweredIs.mp same.symm)) fun both => literal ?_
          obtain ⟨once, unpaired⟩ := both.2 bottom low.2
          exact ⟨low.1, once, ofKeys low.2 unpaired⟩
    · rw [if_neg low, if_neg (fun both => low ⟨both.1.1, lowKeys both.1.2.2⟩)]
      refine iff_of_true rfl ⟨fun _ => free, fun _ all => ?_⟩
      obtain rfl : affected = [] := by
        by_contra some_
        exact low ⟨some_, all⟩
      exact ⟨List.nodup_nil, nofun⟩

/-- `severity`, as the overlay reads it. -/
def baseOf (library : Library) (finding : RiskFinding) : String := library.upper (orElse finding.severity "")

/-- The overlay follows the documented rule on every finding of a known severity if and only
    if, for each of them: below CRITICAL, if some affected node belongs to an asset tagged
    critical, one is written as the key of such a tag; and above INFO, if all belong to assets
    tagged low, none is listed twice or goes by an IP that is paired with a MAC. -/
theorem contextual_severity_iff {Note : Type} {library : Library} {sha256 : String → String} {report : Report}
    {findings : List RiskFinding} {notesBySig : PyDict (List Char) Note} (keyed : MacFirst report.nodes tags) :
    (∀ item ∈ applyContextualSeverity library sha256 findings tags notesBySig,
      baseOf library item.finding ∈ severityOrder → item.contextualSeverity =
        documented report.nodes tags (baseOf library item.finding) item.finding.affectedNodes) ↔
    ∀ finding ∈ findings, baseOf library finding ∈ severityOrder →
      (baseOf library finding ≠ "CRITICAL" → CriticalByKey report.nodes tags finding.affectedNodes) ∧
      (baseOf library finding ≠ "INFO" → LowByKey report.nodes tags finding.affectedNodes) := by
  unfold applyContextualSeverity
  rw [List.forall_mem_map]
  exact forall₂_congr fun finding _ => forall_congr' fun known => contextual_eq_iff known keyed

end Agreement

def controller : Node := ⟨some "00:1c:06:11:22:33", some "10.0.0.5", none, none, none, some 1, []⟩

def plant : Report := ⟨none, none, ⟨none, none, PyDict.empty⟩, [controller], []⟩

/-- The tag of the controller, by its MAC. -/
def taggedAs (criticality : String) : Tags :=
  PyDict.empty.set "00:1c:06:11:22:33" ⟨none, some criticality, none, none, none⟩

theorem taggedAs_macFirst (criticality : String) : MacFirst plant.nodes (taggedAs criticality) := by
  intro ip paired
  have isIp : "10.0.0.5" = ip := by
    by_contra other
    exact paired (by simp [plant, controller, pairedMac, truthy, Option.filter, other])
  subst isIp
  rw [taggedAs, PyDict.get_set, if_neg (by decide)]
  rfl

def openPort (affected : List String) : RiskFinding :=
  ⟨some "CLEARTEXT_REMOTE_ACCESS", some "HIGH", some "Telnet in use", none, none, affected, [], [], [], none⟩

def overlaid (criticality : String) (affected : List String) : List (Enriched Unit) :=
  applyContextualSeverity plainLibrary reversed [openPort affected] (taggedAs criticality) PyDict.empty

/-- Written as the MAC, the controller raises the severity. -/
theorem raised_by_mac : MacFirst plant.nodes (taggedAs "critical") ∧
    (overlaid "critical" ["00:1c:06:11:22:33"]).map (·.contextualSeverity) = ["CRITICAL"] ∧
    ∀ item ∈ overlaid "critical" ["00:1c:06:11:22:33"], baseOf plainLibrary item.finding ∈ severityOrder →
      item.contextualSeverity = documented plant.nodes (taggedAs "critical") (baseOf plainLibrary item.finding)
        item.finding.affectedNodes := by
  refine ⟨taggedAs_macFirst _, by decide +kernel, (contextual_severity_iff (taggedAs_macFirst _)).mpr ?_⟩
  intro finding member _
  obtain rfl := List.mem_singleton.mp member
  refine ⟨fun _ _ => ⟨_, List.mem_singleton_self _, by decide⟩, fun _ low => ?_⟩
  exact absurd (low _ (List.mem_singleton_self _)) (by decide)

/-- Written as its IP, it does not, and listed twice, it does not lower it either. -/
theorem ip_and_repetition_overlooked : MacFirst plant.nodes (taggedAs "critical") ∧
    (overlaid "critical" ["10.0.0.5"]).map (·.contextualSeverity) = ["HIGH"] ∧
    documented plant.nodes (taggedAs "critical") "HIGH" ["10.0.0.5"] = "CRITICAL" ∧
    MacFirst plant.nodes (taggedAs "low") ∧
    (overlaid "low" ["00:1c:06:11:22:33", "00:1c:06:11:22:33"]).map (·.contextualSeverity) = ["HIGH"] ∧
    documented plant.nodes (taggedAs "low") "HIGH" ["00:1c:06:11:22:33", "00:1c:06:11:22:33"] = "MEDIUM" :=
  ⟨taggedAs_macFirst _, by decide +kernel, by decide +kernel, taggedAs_macFirst _, by decide +kernel, by decide +kernel⟩

end Marlinspike.Findings.Severity
