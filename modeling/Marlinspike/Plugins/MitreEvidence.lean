import Mathlib.Data.List.Induction
import Marlinspike.Plugins.Mitre

/-!
What the rules of the ATT&CK mapping cite as evidence. A rule maps where its conditions hold, at
any depth (`technique_iff`); but it cites what any clause of the conditions names, whether
that clause holds or not, and so more than what supports it (`techniques_accounted_iff`).
-/
namespace Marlinspike.Plugins.MitreEvidence
open Marlinspike.Reports (Library)
open Marlinspike.Findings.Identity (plainLibrary)
open Marlinspike.Plugins.Mitre

/-! ### The meaning of conditions -/

section Meaning
variable (library : Library) (ctx : Context)

/-- Something of the report is under one of the names, if there are any. -/
def NamesHold (values present : List String) : Prop :=
  clauseNames library values = [] ∨ ∃ name ∈ clauseNames library values, name ∈ present

structure PrimitiveHolds (p : Primitive) : Prop where
  hasCapture : ∀ given ∈ p.hasCapture, given = ctx.hasCapture
  hasNodes : ∀ given ∈ p.hasNodes, (given = true ↔ ctx.nodeCount ≠ 0)
  hasEdges : ∀ given ∈ p.hasEdges, (given = true ↔ ctx.edgeCount ≠ 0)
  hasProtocols : ∀ given ∈ p.hasProtocols, given = ctx.hasProtocols
  minNodes : p.minNodes ≤ ctx.nodeCount
  minEdges : p.minEdges ≤ ctx.edgeCount
  findingCategories : NamesHold library p.findingCategories ctx.findingLabels
  indicatorTypes : NamesHold library p.indicatorTypes ctx.indicatorLabels
  severity : NamesHold library p.severity ctx.severities

/-- The conditions hold of a report: all of `all_of`, and one of `any_of` if it has any. -/
inductive Holds : Conditions → Prop where
  | every {primitive : Primitive} {allOf : List Conditions} (own : PrimitiveHolds library ctx primitive)
      (all : ∀ clause ∈ allOf, Holds clause) : Holds (.mk primitive allOf [])
  | one {primitive : Primitive} {allOf anyOf : List Conditions} (own : PrimitiveHolds library ctx primitive)
      (all : ∀ clause ∈ allOf, Holds clause) (alternative : Conditions) (listed : alternative ∈ anyOf)
      (holds : Holds alternative) : Holds (.mk primitive allOf anyOf)

end Meaning

section Conditions
variable {library : Library} {ctx : Context}

theorem namesMatch_iff {values present : List String} :
    namesMatch library values present = true ↔ NamesHold library values present := by
  simp [namesMatch, NamesHold]

theorem flagMatches_iff {given : Option Bool} {actual : Bool} :
    flagMatches given actual = true ↔ ∀ flag ∈ given, flag = actual := by
  cases given <;> simp [flagMatches]

theorem primitiveMatches_iff {p : Primitive} : primitiveMatches library ctx p = true ↔ PrimitiveHolds library ctx p := by
  unfold primitiveMatches
  simp only [Bool.and_eq_true, decide_eq_true_eq, namesMatch_iff, flagMatches_iff]
  have flag : ∀ (given : Bool) (P : Prop) [Decidable P], given = decide P ↔ (given = true ↔ P) := by
    intro given P _
    rw [Bool.eq_iff_iff, decide_eq_true_iff]
  constructor
  · rintro ⟨⟨⟨⟨⟨⟨⟨⟨capture, nodes⟩, edges⟩, protocols⟩, minNodes⟩, minEdges⟩, categories⟩, types⟩, severity⟩
    exact ⟨capture, fun given is => (flag given _).mp (nodes given is), fun given is => (flag given _).mp (edges given is),
      protocols, minNodes, minEdges, categories, types, severity⟩
  · rintro ⟨capture, nodes, edges, protocols, minNodes, minEdges, categories, types, severity⟩
    exact ⟨⟨⟨⟨⟨⟨⟨⟨capture, fun given is => (flag given _).mpr (nodes given is)⟩,
      fun given is => (flag given _).mpr (edges given is)⟩, protocols⟩, minNodes⟩, minEdges⟩, categories⟩, types⟩, severity⟩

theorem allMatch_iff {clauses : List Conditions} :
    allMatch library ctx clauses = true ↔ ∀ clause ∈ clauses, conditionsMatch library ctx clause = true := by
  induction clauses with
  | nil => simp [allMatch]
  | cons clause rest ih => simp [allMatch, ih]

theorem anyMatch_iff {clauses : List Conditions} :
    anyMatch library ctx clauses = true ↔ ∃ clause ∈ clauses, conditionsMatch library ctx clause = true := by
  induction clauses with
  | nil => simp [anyMatch]
  | cons clause rest ih => simp [anyMatch, ih]

/-- Induction over conditions, at any depth. -/
theorem conditions_induction {P : Conditions → Prop}
    (step : ∀ primitive allOf anyOf, (∀ clause ∈ allOf, P clause) → (∀ clause ∈ anyOf, P clause) →
      P (.mk primitive allOf anyOf)) : ∀ conditions, P conditions
  | .mk primitive allOf anyOf =>
    step primitive allOf anyOf (fun clause _ => conditions_induction step clause)
      (fun clause _ => conditions_induction step clause)

theorem holds_iff (conditions : Conditions) : conditionsMatch library ctx conditions = true ↔ Holds library ctx conditions := by
  induction conditions using conditions_induction with
  | step primitive allOf anyOf all any =>
    rw [conditionsMatch, Bool.and_eq_true, Bool.and_eq_true, Bool.or_eq_true, primitiveMatches_iff, allMatch_iff, anyMatch_iff,
      List.isEmpty_iff]
    constructor
    · rintro ⟨⟨own, every⟩, none_ | ⟨alternative, listed, holds⟩⟩
      · subst none_
        exact .every own fun clause member => (all clause member).mp (every clause member)
      · exact .one own (fun clause member => (all clause member).mp (every clause member)) alternative listed
          ((any alternative listed).mp holds)
    · rintro (⟨own, every⟩ | ⟨own, every, alternative, listed, holds⟩)
      · exact ⟨⟨own, fun clause member => (all clause member).mpr (every clause member)⟩, .inl rfl⟩
      · exact ⟨⟨own, fun clause member => (all clause member).mpr (every clause member)⟩,
          .inr ⟨alternative, listed, (any alternative listed).mpr holds⟩⟩

end Conditions

/-! ### What clauses name -/

/-- The clause is the conditions, or stands in them at any depth. -/
inductive ClauseOf : Conditions → Conditions → Prop where
  | self (conditions : Conditions) : ClauseOf conditions conditions
  | allOf {clause child : Conditions} {primitive : Primitive} {allOf anyOf : List Conditions} (member : child ∈ allOf)
      (inside : ClauseOf clause child) : ClauseOf clause (.mk primitive allOf anyOf)
  | anyOf {clause child : Conditions} {primitive : Primitive} {allOf anyOf : List Conditions} (member : child ∈ anyOf)
      (inside : ClauseOf clause child) : ClauseOf clause (.mk primitive allOf anyOf)

def primitiveOf : Conditions → Primitive
  | .mk primitive _ _ => primitive

/-- The findings and indicators whose category or type a clause names. -/
def namedBy (library : Library) (ctx : Context) (clause : Conditions) : List Observation :=
  ctx.findings.filter (fun o => (clauseNames library (primitiveOf clause).findingCategories).contains o.label) ++
    ctx.indicators.filter fun o => (clauseNames library (primitiveOf clause).indicatorTypes).contains o.label

section Evidence
variable {library : Library} {ctx : Context}

theorem clauseFilters_eq (clauses : List Conditions) : clauseFilters library clauses =
    (clauses.flatMap fun clause => (observationFilters library clause).1,
      clauses.flatMap fun clause => (observationFilters library clause).2) := by
  induction clauses with
  | nil => rfl
  | cons clause rest ih =>
    rw [clauseFilters, ih]
    rfl

/-- A clause of the conditions is these, or a clause of one of their parts. -/
theorem exists_clause_iff {P : Conditions → Prop} {primitive : Primitive} {allOf anyOf : List Conditions} :
    (∃ clause, ClauseOf clause (.mk primitive allOf anyOf) ∧ P clause) ↔ P (.mk primitive allOf anyOf) ∨
      (∃ child ∈ allOf, ∃ clause, ClauseOf clause child ∧ P clause) ∨ ∃ child ∈ anyOf, ∃ clause, ClauseOf clause child ∧ P clause := by
  constructor
  · rintro ⟨clause, inside, holds⟩
    cases inside with
    | self => exact .inl holds
    | allOf member inside => exact .inr (.inl ⟨_, member, clause, inside, holds⟩)
    | anyOf member inside => exact .inr (.inr ⟨_, member, clause, inside, holds⟩)
  · rintro (holds | ⟨child, member, clause, inside, holds⟩ | ⟨child, member, clause, inside, holds⟩)
    · exact ⟨_, .self _, holds⟩
    · exact ⟨clause, .allOf member inside, holds⟩
    · exact ⟨clause, .anyOf member inside, holds⟩

theorem mem_filters_iff (conditions : Conditions) (name : String) :
    (name ∈ (observationFilters library conditions).1 ↔
      ∃ clause, ClauseOf clause conditions ∧ name ∈ clauseNames library (primitiveOf clause).findingCategories) ∧
    (name ∈ (observationFilters library conditions).2 ↔
      ∃ clause, ClauseOf clause conditions ∧ name ∈ clauseNames library (primitiveOf clause).indicatorTypes) := by
  induction conditions using conditions_induction with
  | step primitive allOf anyOf all any =>
    rw [observationFilters, clauseFilters_eq, clauseFilters_eq, exists_clause_iff, exists_clause_iff]
    simp only [List.mem_append, List.mem_flatMap, or_assoc]
    constructor
    · refine or_congr Iff.rfl (or_congr ?_ ?_)
      · exact exists_congr fun clause => and_congr_right fun member => (all clause member).1
      · exact exists_congr fun clause => and_congr_right fun member => (any clause member).1
    · refine or_congr Iff.rfl (or_congr ?_ ?_)
      · exact exists_congr fun clause => and_congr_right fun member => (all clause member).2
      · exact exists_congr fun clause => and_congr_right fun member => (any clause member).2

/-- A rule cites what any clause of its conditions names. -/
theorem mem_evidence_iff {rule : Rule} {o : Observation} :
    o ∈ ctx.evidence library rule ↔ ∃ clause, ClauseOf clause rule.when ∧ o ∈ namedBy library ctx clause := by
  unfold Context.evidence namedBy
  simp only [List.mem_append, List.mem_filter, List.contains_iff_mem, (mem_filters_iff rule.when o.label).1,
    (mem_filters_iff rule.when o.label).2]
  constructor
  · rintro (⟨member, clause, inside, named⟩ | ⟨member, clause, inside, named⟩)
    · exact ⟨clause, inside, .inl ⟨member, named⟩⟩
    · exact ⟨clause, inside, .inr ⟨member, named⟩⟩
  · rintro ⟨clause, inside, ⟨member, named⟩ | ⟨member, named⟩⟩
    · exact .inl ⟨member, clause, inside, named⟩
    · exact .inr ⟨member, clause, inside, named⟩

end Evidence

/-! ### Grounds -/

section Grounds
variable (library : Library) (ctx : Context) (rule : Rule)

/-- A clause that holds names the observation. -/
def Supports (o : Observation) : Prop :=
  ∃ clause, ClauseOf clause rule.when ∧ Holds library ctx clause ∧ o ∈ namedBy library ctx clause

/-- The rule cites exactly what supports it. -/
structure Grounded : Prop where
  refs : ∀ ref, ref ∈ (collectRuleEvidence library ctx rule).evidenceRefs ↔ ∃ o, Supports library ctx rule o ∧ o.ref = ref
  nodes : ∀ node, node ∈ (collectRuleEvidence library ctx rule).affectedNodes ↔ ∃ o, Supports library ctx rule o ∧ node ∈ o.nodes

/-- What a clause names that does not hold has its reference and nodes from what supports the rule, too. -/
def Harmless : Prop :=
  ∀ clause, ClauseOf clause rule.when → ¬Holds library ctx clause → ∀ o ∈ namedBy library ctx clause,
    (∃ support, Supports library ctx rule support ∧ support.ref = o.ref) ∧
      ∀ node ∈ o.nodes, ∃ support, Supports library ctx rule support ∧ node ∈ support.nodes

variable {library ctx rule}

theorem mem_evidenceRefs {ref : String} (kind : rule.kind = .classification) :
    ref ∈ (collectRuleEvidence library ctx rule).evidenceRefs ↔ ∃ o ∈ ctx.evidence library rule, o.ref = ref := by
  unfold collectRuleEvidence
  dsimp only
  rw [if_neg (by rw [kind]; exact fun both => nomatch both.2), mem_sortedSet, List.mem_map]

theorem mem_affectedNodes {node : String} :
    node ∈ (collectRuleEvidence library ctx rule).affectedNodes ↔ ∃ o ∈ ctx.evidence library rule, node ∈ o.nodes := by
  unfold collectRuleEvidence
  dsimp only
  rw [mem_sortedSet, List.mem_flatMap]

theorem evidence_of_supports {o : Observation} (supports : Supports library ctx rule o) : o ∈ ctx.evidence library rule := by
  obtain ⟨clause, inside, -, named⟩ := supports
  exact mem_evidence_iff.mpr ⟨clause, inside, named⟩

theorem grounded_iff (kind : rule.kind = .classification) : Grounded library ctx rule ↔ Harmless library ctx rule := by
  constructor
  · rintro ⟨refs, nodes⟩ clause inside - o named
    have cited : o ∈ ctx.evidence library rule := mem_evidence_iff.mpr ⟨clause, inside, named⟩
    constructor
    · exact (refs o.ref).mp ((mem_evidenceRefs kind).mpr ⟨o, cited, rfl⟩)
    · exact fun node member => (nodes node).mp (mem_affectedNodes.mpr ⟨o, cited, member⟩)
  · intro harmless
    -- what is cited either supports the rule or is harmless
    have either_ : ∀ o ∈ ctx.evidence library rule, Supports library ctx rule o ∨
        (∃ support, Supports library ctx rule support ∧ support.ref = o.ref) ∧
          ∀ node ∈ o.nodes, ∃ support, Supports library ctx rule support ∧ node ∈ support.nodes := by
      intro o cited
      obtain ⟨clause, inside, named⟩ := mem_evidence_iff.mp cited
      by_cases holds : Holds library ctx clause
      · exact .inl ⟨clause, inside, holds, named⟩
      · exact .inr (harmless clause inside holds o named)
    constructor
    · intro ref
      rw [mem_evidenceRefs kind]
      constructor
      · rintro ⟨o, cited, rfl⟩
        obtain supports | ⟨same, -⟩ := either_ o cited
        · exact ⟨o, supports, rfl⟩
        · exact same
      · rintro ⟨o, supports, rfl⟩
        exact ⟨o, evidence_of_supports supports, rfl⟩
    · intro node
      rw [mem_affectedNodes]
      constructor
      · rintro ⟨o, cited, member⟩
        obtain supports | ⟨-, all⟩ := either_ o cited
        · exact ⟨o, supports, member⟩
        · exact all node member
      · rintro ⟨o, supports, member⟩
        exact ⟨o, evidence_of_supports supports, member⟩

end Grounds

/-! ### The classifications -/

section Classifications
variable {library : Library} {catalog : Catalog} {ctx : Context}

/-- The rules that are mapped to classifications, in order. -/
def classifying (library : Library) (ctx : Context) (packs : List Pack) : List Rule :=
  (packs.flatMap (contributors library ctx)).filter (·.kind = .classification)

def storeRule (library : Library) (catalog : Catalog) (ctx : Context) (items : PyDict String Item) (rule : Rule) :
    PyDict String Item :=
  store library items (ruleItem library catalog ctx rule)

theorem classifications_contribute (rules : List Rule) (m : Mapping) :
    (rules.foldl (contribute library catalog ctx) m).classifications =
      (rules.filter (·.kind = .classification)).foldl (storeRule library catalog ctx) m.classifications := by
  induction rules generalizing m with
  | nil => rfl
  | cons rule rest ih =>
    rw [List.foldl_cons, ih]
    cases kind : rule.kind with
    | coverage =>
      rw [List.filter_cons_of_neg (by simp [kind]), contribute, kind]
    | classification =>
      rw [List.filter_cons_of_pos (by simp [kind]), List.foldl_cons, contribute, kind]
      rfl

theorem classifications_mapped (packs : List Pack) : (mapped library catalog ctx packs).classifications =
    (classifying library ctx packs).foldl (storeRule library catalog ctx) PyDict.empty := by
  have all : ∀ (packs : List Pack) (m : Mapping), (packs.foldl (mapPack library catalog ctx) m).classifications =
      (classifying library ctx packs).foldl (storeRule library catalog ctx) m.classifications := by
    intro packs
    induction packs with
    | nil => exact fun m => rfl
    | cons pack rest ih =>
      intro m
      have first : classifying library ctx (pack :: rest) =
          (contributors library ctx pack).filter (·.kind = .classification) ++ classifying library ctx rest := by
        rw [classifying, List.flatMap_cons, List.filter_append]
        rfl
      rw [List.foldl_cons, ih, mapPack_eq, classifications_contribute, first, List.foldl_append]
  exact all packs Mapping.init

def ruleKey (rule : Rule) : String := rule.domain ++ "::" ++ rule.techniqueId

/-- What an item has of the rules that share its key. -/
structure Gathered (library : Library) (ctx : Context) (rules : List Rule) (key : String) (item : Item) : Prop where
  named : item.domain ≠ ""
  own : ∃ rule ∈ rules, ruleKey rule = key ∧ rule.domain = item.domain ∧ rule.techniqueId = item.techniqueId
  refs : ∀ ref, ref ∈ item.evidenceRefs ↔
    ∃ rule ∈ rules, ruleKey rule = key ∧ ref ∈ (collectRuleEvidence library ctx rule).evidenceRefs
  nodes : ∀ node, node ∈ item.affectedNodes ↔
    ∃ rule ∈ rules, ruleKey rule = key ∧ node ∈ (collectRuleEvidence library ctx rule).affectedNodes

theorem gathered_first {rule : Rule} (named : rule.domain ≠ "") {rules : List Rule}
    (other : ∀ rule' ∈ rules, ruleKey rule' ≠ ruleKey rule) :
    Gathered library ctx (rules ++ [rule]) (ruleKey rule) (ruleItem library catalog ctx rule) := by
  have only : ∀ P : Rule → Prop, (∃ rule' ∈ rules ++ [rule], ruleKey rule' = ruleKey rule ∧ P rule') ↔ P rule := by
    intro P
    constructor
    · rintro ⟨rule', member, same, holds⟩
      obtain old | new := List.mem_append.mp member
      · exact absurd same (other rule' old)
      · obtain rfl := List.mem_singleton.mp new
        exact holds
    · intro holds
      exact ⟨rule, List.mem_append_right _ List.mem_cons_self, rfl, holds⟩
  exact ⟨named, (only fun rule' => rule'.domain = rule.domain ∧ rule'.techniqueId = rule.techniqueId).mpr ⟨rfl, rfl⟩,
    fun ref => (only fun rule' => ref ∈ (collectRuleEvidence library ctx rule').evidenceRefs).symm,
    fun node => (only fun rule' => node ∈ (collectRuleEvidence library ctx rule').affectedNodes).symm⟩

theorem gathered_merge {rule : Rule} {rules : List Rule} {item : Item} (gathered : Gathered library ctx rules (ruleKey rule) item) :
    Gathered library ctx (rules ++ [rule]) (ruleKey rule) (mergeItem library item (ruleItem library catalog ctx rule)) := by
  have more : ∀ P : Rule → Prop, (∃ rule' ∈ rules ++ [rule], ruleKey rule' = ruleKey rule ∧ P rule') ↔
      (∃ rule' ∈ rules, ruleKey rule' = ruleKey rule ∧ P rule') ∨ P rule := by
    intro P
    constructor
    · rintro ⟨rule', member, same, holds⟩
      obtain old | new := List.mem_append.mp member
      · exact .inl ⟨rule', old, same, holds⟩
      · obtain rfl := List.mem_singleton.mp new
        exact .inr holds
    · rintro (⟨rule', old, same, holds⟩ | holds)
      · exact ⟨rule', List.mem_append_left _ old, same, holds⟩
      · exact ⟨rule, List.mem_append_right _ List.mem_cons_self, rfl, holds⟩
  have domain : (mergeItem library item (ruleItem library catalog ctx rule)).domain = item.domain := if_neg gathered.named
  refine ⟨by rw [domain]; exact gathered.named, ?_, fun ref => ?_, fun node => ?_⟩
  · rw [domain]
    exact (more _).mpr (.inl gathered.own)
  · rw [more, ← gathered.refs]
    exact mem_sortedSet.trans List.mem_append
  · rw [more, ← gathered.nodes]
    exact mem_sortedSet.trans List.mem_append

theorem gathered_other {rules : List Rule} {rule : Rule} {key : String} {item : Item} (other : ruleKey rule ≠ key)
    (gathered : Gathered library ctx rules key item) : Gathered library ctx (rules ++ [rule]) key item := by
  have same : ∀ P : Rule → Prop, (∃ rule' ∈ rules ++ [rule], ruleKey rule' = key ∧ P rule') ↔
      ∃ rule' ∈ rules, ruleKey rule' = key ∧ P rule' := by
    intro P
    constructor
    · rintro ⟨rule', member, same, holds⟩
      obtain old | new := List.mem_append.mp member
      · exact ⟨rule', old, same, holds⟩
      · obtain rfl := List.mem_singleton.mp new
        exact absurd same other
    · rintro ⟨rule', old, same, holds⟩
      exact ⟨rule', List.mem_append_left _ old, same, holds⟩
  exact ⟨gathered.named, (same _).mpr gathered.own, fun ref => (gathered.refs ref).trans (same _).symm,
    fun node => (gathered.nodes node).trans (same _).symm⟩

/-- Each key of a rule has an item, and each item gathers what the rules of its key cite. -/
theorem gathered_foldl (rules : List Rule) (named : ∀ rule ∈ rules, rule.domain ≠ "") :
    (∀ key item, (rules.foldl (storeRule library catalog ctx) PyDict.empty).get key = some item →
      Gathered library ctx rules key item) ∧
    ∀ rule ∈ rules, (rules.foldl (storeRule library catalog ctx) PyDict.empty).get (ruleKey rule) ≠ none := by
  induction rules using List.reverseRecOn with
  | nil => exact ⟨fun _ _ found => (nomatch found), fun _ member => (nomatch member)⟩
  | append_singleton rules rule ih =>
    obtain ⟨gathered, kept⟩ := ih fun rule' member => named rule' (List.mem_append_left _ member)
    have new : rule.domain ≠ "" := named rule (List.mem_append_right _ List.mem_cons_self)
    rw [List.foldl_append, List.foldl_cons, List.foldl_nil]
    generalize items_eq : rules.foldl (storeRule library catalog ctx) PyDict.empty = items at gathered kept
    constructor
    · intro key item found
      rw [storeRule, store, PyDict.get_set] at found
      split at found
      next same =>
        obtain rfl := same
        obtain rfl := Option.some.inj found
        split
        next first existing => exact gathered_merge (gathered _ _ existing)
        next none_ =>
          refine gathered_first new fun rule' member same => ?_
          exact kept rule' member (same ▸ none_)
      next other => exact gathered_other other (gathered key item found)
    · intro rule' member
      rw [storeRule, store, PyDict.get_set]
      split
      next => exact Option.some_ne_none _
      next other =>
        obtain old | last := List.mem_append.mp member
        · exact kept rule' old
        · obtain rfl := List.mem_singleton.mp last
          exact absurd rfl other

end Classifications

/-! ### Packs that have been loaded -/

section Loaded
variable {library : Library} {catalog : Catalog}

def IsDomain (domain : String) : Prop := domain = "enterprise-attack" ∨ domain = "ics-attack"

theorem isDomain_normalizeDomain (value : Option String) : IsDomain (normalizeDomain library value) := by
  unfold normalizeDomain
  generalize library.lower (library.strip (Reports.Aggregate.orElse value "")) = name
  cases found : domainAliases.lookup name with
  | none => exact .inl rfl
  | some domain =>
    obtain ⟨before, after, listed, -⟩ := List.lookup_eq_some_iff.mp found
    have known : ∀ entry ∈ domainAliases, IsDomain entry.2 := by
      unfold IsDomain
      decide
    exact known (name, domain) (listed ▸ List.mem_append_right _ List.mem_cons_self)

theorem domain_loadRule {path packDomain : String} {index : Nat} {source : RuleSource} {rule : Rule}
    (loaded : loadRule library catalog path packDomain index source = .ok rule) : IsDomain rule.domain := by
  unfold loadRule at loaded
  dsimp only [bind, Except.bind, pure, Except.pure, throw, throwThe, MonadExceptOf.throw] at loaded
  repeat' split at loaded
  all_goals first
    | cases loaded; exact isDomain_normalizeDomain _
    | cases loaded

theorem mem_of_mapM {α β ε : Type} {f : α → Except ε β} {l : List α} {outcome : List β} (ok : l.mapM f = .ok outcome) {b : β}
    (member : b ∈ outcome) : ∃ a ∈ l, f a = .ok b := by
  induction l generalizing outcome with
  | nil =>
    cases ok
    cases member
  | cons a rest ih =>
    rw [List.mapM_cons] at ok
    cases first : f a with
    | error _ =>
      rw [first] at ok
      cases ok
    | ok b' =>
      rw [first] at ok
      cases others : rest.mapM f with
      | error _ =>
        rw [others] at ok
        cases ok
      | ok more =>
        rw [others] at ok
        cases ok
        obtain rfl | member := List.mem_cons.mp member
        · exact ⟨a, List.mem_cons_self, first⟩
        · obtain ⟨a', listed, is⟩ := ih others member
          exact ⟨a', List.mem_cons_of_mem _ listed, is⟩

/-- A pack that has been read from a file. -/
def IsLoaded (library : Library) (catalog : Catalog) (pack : Pack) : Prop :=
  ∃ path source, loadRulePack library catalog path source = .ok pack

theorem domain_of_loaded {pack : Pack} (loaded : IsLoaded library catalog pack) {rule : Rule} (member : rule ∈ pack.rules) :
    IsDomain rule.domain := by
  obtain ⟨path, source, loaded⟩ := loaded
  unfold loadRulePack at loaded
  dsimp only [bind, Except.bind, pure, Except.pure, throw, throwThe, MonadExceptOf.throw] at loaded
  repeat' split at loaded
  all_goals try cases loaded
  next _ _ _ _ _ rules read =>
    obtain ⟨entry, -, made⟩ := mem_of_mapM read member
    exact domain_loadRule made

/-- Rules of one key are of one technique. -/
theorem technique_of_key {rule rule' : Rule} (domain : IsDomain rule.domain) (domain' : IsDomain rule'.domain)
    (same : ruleKey rule = ruleKey rule') : rule.techniqueId = rule'.techniqueId := by
  have chars := congrArg String.toList same
  unfold ruleKey at chars
  obtain is | is := domain <;> obtain is' | is' := domain'
  · simp only [is, is', String.toList_append] at chars
    exact String.toList_injective (List.append_cancel_left chars)
  · rw [is, is'] at chars
    simp at chars
  · rw [is, is'] at chars
    simp at chars
  · simp only [is, is', String.toList_append] at chars
    exact String.toList_injective (List.append_cancel_left chars)

end Loaded

/-! ### What the mapping accounts for -/

/-- The rule is one of a pack, enabled and no coverage rule, and its conditions hold of the report. -/
structure Applies (library : Library) (ctx : Context) (packs : List Pack) (rule : Rule) : Prop where
  listed : ∃ pack ∈ packs, rule ∈ pack.rules
  enabled : rule.enabled = true
  kind : rule.kind = .classification
  holds : Holds library ctx rule.when

/-- The classifications are of the techniques of the rules that apply, and these cite exactly
what supports them. -/
structure Accounted (library : Library) (catalog : Catalog) (report : View) (packs : List Pack) : Prop where
  techniques : ∀ technique,
    technique ∈ (classify library catalog report packs).classifications.map (·.techniqueId) ↔
      ∃ rule, Applies library (buildContext library report) packs rule ∧ rule.techniqueId = technique
  evidence : ∀ rule, Applies library (buildContext library report) packs rule →
    Grounded library (buildContext library report) rule

section Accounts
variable {library : Library} {catalog : Catalog} {report : View} {packs : List Pack}

theorem mem_classifying_iff {ctx : Context} {rule : Rule} : rule ∈ classifying library ctx packs ↔ Applies library ctx packs rule := by
  unfold classifying contributors contributes ruleMatches
  simp only [List.mem_filter, List.mem_flatMap, Bool.and_eq_true, decide_eq_true_eq, holds_iff]
  constructor
  · rintro ⟨⟨pack, listed, member, enabled, holds⟩, kind⟩
    exact ⟨⟨pack, listed, member⟩, enabled, kind, holds⟩
  · rintro ⟨⟨pack, listed, member⟩, enabled, kind, holds⟩
    exact ⟨⟨pack, listed, member, enabled, holds⟩, kind⟩

variable (loaded : ∀ pack ∈ packs, IsLoaded library catalog pack)
include loaded

theorem domain_of_applies {ctx : Context} {rule : Rule} (applies : Applies library ctx packs rule) : IsDomain rule.domain := by
  obtain ⟨pack, listed, member⟩ := applies.listed
  exact domain_of_loaded (loaded pack listed) member

theorem gathered_mapped (ctx : Context) :
    (∀ key item, (mapped library catalog ctx packs).classifications.get key = some item →
      Gathered library ctx (classifying library ctx packs) key item) ∧
    ∀ rule, Applies library ctx packs rule → (mapped library catalog ctx packs).classifications.get (ruleKey rule) ≠ none := by
  have named : ∀ rule ∈ classifying library ctx packs, rule.domain ≠ "" := by
    intro rule member
    obtain is | is := domain_of_applies loaded (mem_classifying_iff.mp member)
    · rw [is]
      decide
    · rw [is]
      decide
  obtain ⟨gathered, kept⟩ := @gathered_foldl library catalog ctx (classifying library ctx packs) named
  rw [← classifications_mapped] at gathered kept
  exact ⟨gathered, fun rule applies => kept rule (mem_classifying_iff.mpr applies)⟩

omit loaded in
theorem mem_classifications_iff {item : Item} : item ∈ (classify library catalog report packs).classifications ↔
    ∃ key, (mapped library catalog (buildContext library report) packs).classifications.get key = some item := by
  unfold classify result
  dsimp only
  rw [List.mem_mergeSort, List.mem_map]
  constructor
  · rintro ⟨⟨key, item⟩, member, rfl⟩
    exact ⟨key, PyDict.get_of_mem_items member⟩
  · rintro ⟨key, found⟩
    exact ⟨(key, item), PyDict.mem_items_of_get found, rfl⟩

theorem technique_iff (technique : String) :
    technique ∈ (classify library catalog report packs).classifications.map (·.techniqueId) ↔
      ∃ rule, Applies library (buildContext library report) packs rule ∧ rule.techniqueId = technique := by
  obtain ⟨gathered, kept⟩ := gathered_mapped loaded (buildContext library report)
  rw [List.mem_map]
  constructor
  · rintro ⟨item, member, rfl⟩
    obtain ⟨key, found⟩ := mem_classifications_iff.mp member
    obtain ⟨rule, counts, -, -, same⟩ := (gathered key item found).own
    exact ⟨rule, mem_classifying_iff.mp counts, same⟩
  · rintro ⟨rule, applies, rfl⟩
    obtain ⟨item, found⟩ := Option.ne_none_iff_exists'.mp (kept rule applies)
    obtain ⟨rule', counts, key, -, same⟩ := (gathered _ item found).own
    refine ⟨item, mem_classifications_iff.mpr ⟨_, found⟩, ?_⟩
    rw [← same]
    exact technique_of_key (domain_of_applies loaded (mem_classifying_iff.mp counts)) (domain_of_applies loaded applies) key

/-- The mapping accounts for the rules that apply if what their clauses name without holding does no harm. -/
theorem techniques_accounted_iff : Accounted library catalog report packs ↔
    ∀ rule, Applies library (buildContext library report) packs rule → Harmless library (buildContext library report) rule := by
  constructor
  · intro accounted rule applies
    exact (grounded_iff applies.kind).mp (accounted.evidence rule applies)
  · intro harmless
    exact ⟨technique_iff loaded, fun rule applies => (grounded_iff applies.kind).mpr (harmless rule applies)⟩

/-- An item cites what the rules of its technique and domain cite. -/
theorem cited_iff {item : Item} (member : item ∈ (classify library catalog report packs).classifications) :
    (∀ ref, ref ∈ item.evidenceRefs ↔ ∃ rule, Applies library (buildContext library report) packs rule ∧
      ruleKey rule = storageKey item ∧ ref ∈ (collectRuleEvidence library (buildContext library report) rule).evidenceRefs) ∧
    ∀ node, node ∈ item.affectedNodes ↔ ∃ rule, Applies library (buildContext library report) packs rule ∧
      ruleKey rule = storageKey item ∧ node ∈ (collectRuleEvidence library (buildContext library report) rule).affectedNodes := by
  obtain ⟨key, found⟩ := mem_classifications_iff.mp member
  have gathered := (gathered_mapped loaded (buildContext library report)).1 key item found
  obtain ⟨rule, -, own, domain, technique⟩ := gathered.own
  have key_eq : storageKey item = key := by
    rw [storageKey, ← domain, ← technique]
    exact own
  simp only [key_eq, ← mem_classifying_iff]
  exact ⟨gathered.refs, gathered.nodes⟩

end Accounts

/-! ### A scan that nothing supports -/

def naming (minNodes : Int) (categories : List String) : Conditions :=
  .mk ⟨none, none, none, none, minNodes, 0, categories, [], []⟩ [] []

/-- A beacon, or a scan of a network of a hundred nodes. -/
def beaconOrScan : Conditions :=
  .mk ⟨none, none, none, none, 0, 0, [], [], []⟩ [] [naming 0 ["BEACON"], naming 100 ["PORT_SCAN"]]

def beaconOrScanSource : RuleSource :=
  ⟨some "beacon-or-scan", true, none, some "T1071", none, none, none, none, none, 1 / 2, none, [], beaconOrScan⟩

def beaconOrScanRule : Rule :=
  ⟨some "beacon-or-scan", true, .classification, "T1071", "enterprise-attack", none, none, none, none, 1 / 2, none, [],
    beaconOrScan⟩

def beaconOrScanPack : Pack := ⟨some "base", "enterprise-attack", [beaconOrScanRule]⟩

def enterprise : Catalog := PyDict.empty.set "enterprise-attack" ⟨none, PyDict.empty⟩

/-- A network of two nodes with a beacon and a scan. -/
def beaconAndScan : View :=
  ⟨2, 1, [⟨some "BEACON", some "HIGH", ["10.0.0.5"]⟩, ⟨some "PORT_SCAN", some "LOW", ["10.0.0.9"]⟩], [], true, true⟩

theorem loaded_beaconOrScan : ∀ pack ∈ [beaconOrScanPack], IsLoaded plainLibrary enterprise pack := by
  intro pack member
  obtain rfl := List.mem_singleton.mp member
  exact ⟨"base.yaml", some ⟨1, some "base", some "marlinspike-mitre", none, [beaconOrScanSource]⟩, rfl⟩

theorem accounted_beaconOrScan : Accounted plainLibrary enterprise beaconAndScan [beaconOrScanPack] ↔
    ∀ rule, Applies plainLibrary (buildContext plainLibrary beaconAndScan) [beaconOrScanPack] rule →
      Harmless plainLibrary (buildContext plainLibrary beaconAndScan) rule :=
  techniques_accounted_iff loaded_beaconOrScan

theorem clauseOf_naming {clause : Conditions} {minNodes : Int} {categories : List String}
    (inside : ClauseOf clause (naming minNodes categories)) : clause = naming minNodes categories := by
  cases inside with
  | self => rfl
  | allOf member => cases member
  | anyOf member => cases member

theorem clauseOf_beaconOrScan {clause : Conditions} (inside : ClauseOf clause beaconOrScan) :
    clause = beaconOrScan ∨ clause = naming 0 ["BEACON"] ∨ clause = naming 100 ["PORT_SCAN"] := by
  cases inside with
  | self => exact .inl rfl
  | allOf member => cases member
  | anyOf member inside =>
    obtain rfl | rest := List.mem_cons.mp member
    · exact .inr (.inl (clauseOf_naming inside))
    · obtain rfl := List.mem_singleton.mp rest
      exact .inr (.inr (clauseOf_naming inside))

/-- The scan is cited, though the clause that names it does not hold. -/
theorem scan_without_support : ¬∀ (library : Library) (catalog : Catalog) (report : View) (packs : List Pack),
    (∀ pack ∈ packs, IsLoaded library catalog pack) → Accounted library catalog report packs := by
  intro all
  have accounted := all plainLibrary enterprise beaconAndScan [beaconOrScanPack] loaded_beaconOrScan
  have applies : Applies plainLibrary (buildContext plainLibrary beaconAndScan) [beaconOrScanPack] beaconOrScanRule :=
    ⟨⟨_, List.mem_singleton_self _, List.mem_singleton_self _⟩, rfl, rfl, (holds_iff _).mp (by decide +kernel)⟩
  have cited : "10.0.0.9" ∈
      (collectRuleEvidence plainLibrary (buildContext plainLibrary beaconAndScan) beaconOrScanRule).affectedNodes := by
    rw [mem_affectedNodes]
    decide +kernel
  obtain ⟨o, ⟨clause, inside, holds, named⟩, node⟩ := ((accounted.evidence _ applies).nodes _).mp cited
  obtain rfl | rfl | rfl := clauseOf_beaconOrScan inside
  · cases named
  · have elsewhere : ∀ o ∈ namedBy plainLibrary (buildContext plainLibrary beaconAndScan) (naming 0 ["BEACON"]),
        "10.0.0.9" ∉ o.nodes := by decide +kernel
    exact elsewhere o named node
  · exact absurd ((holds_iff _).mpr holds) (by decide +kernel)

end Marlinspike.Plugins.MitreEvidence
