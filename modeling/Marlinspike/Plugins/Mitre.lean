import Mathlib.Data.List.Dedup
import Marlinspike.Plugins.Values

/-!
The ATT&CK mapping of a report. A rule of a pack maps the findings and indicators that it
names to a technique, if its conditions hold of the report; what the rules of all packs map to
one technique of one domain is merged into one item. The mapping is that of the rules
which are enabled and match, in the order of the packs (`mapPack_eq`).
-/
namespace Marlinspike.Plugins.Mitre
open Marlinspike.Reports (Library)
open Marlinspike.Reports.Aggregate (truthy orElse)

/-! ### Reports -/

structure Finding where
  category : Option String
  severity : Option String
  affectedNodes : List String
deriving DecidableEq, Repr

/-- An entry of `c2_indicators`. -/
structure Indicator where
  type : Option String
  affectedNodes : List String
  src : Option String
  dst : Option String
deriving DecidableEq, Repr

/-- What the plugin reads of a report. -/
structure View where
  nodeCount : Nat
  edgeCount : Nat
  riskFindings : List Finding
  c2Indicators : List Indicator
  /-- `protocol_summary` is not empty, `capture_info` is an object. -/
  hasProtocols : Bool
  hasCapture : Bool
deriving DecidableEq, Repr

/-! ### Rule packs -/

/-- The clauses of `when` beside `all_of` and `any_of`. -/
structure Primitive where
  hasCapture : Option Bool
  hasNodes : Option Bool
  hasEdges : Option Bool
  hasProtocols : Option Bool
  minNodes : Int
  minEdges : Int
  findingCategories : List String
  indicatorTypes : List String
  severity : List String
deriving DecidableEq, Repr

inductive Conditions where
  | mk (primitive : Primitive) (allOf anyOf : List Conditions)

inductive Kind where
  | classification
  | coverage
deriving DecidableEq, Repr

/-- A rule as it stands in a pack. -/
structure RuleSource where
  id : Option String
  enabled : Bool
  kind : Option String
  techniqueId : Option String
  domain : Option String
  title : Option String
  family : Option String
  publication : Option String
  basis : Option String
  confidence : Rat
  rationale : Option String
  responseGuidance : List String
  when : Conditions

structure PackSource where
  schemaVersion : Int
  packId : Option String
  pluginId : Option String
  defaultDomain : Option String
  rules : List RuleSource

/-- A rule that has been loaded. -/
structure Rule where
  id : Option String
  enabled : Bool
  kind : Kind
  techniqueId : String
  domain : String
  title : Option String
  family : Option String
  publication : Option String
  basis : Option String
  confidence : Rat
  rationale : Option String
  responseGuidance : List String
  when : Conditions

structure Pack where
  packId : Option String
  defaultDomain : String
  rules : List Rule

/-! ### The catalog -/

/-- A tactic or a mitigation, with empty texts for what it has none of. -/
structure Reference where
  id : String
  name : String
  url : String
  shortname : String
deriving DecidableEq, Repr

structure Technique where
  url : String
  name : String
  description : String
  detection : String
  platforms : List String
  tactics : List Reference
  isSubtechnique : Bool
  parentTechniqueId : String
  parentTechniqueName : String
  parentTechniqueUrl : String
  mitigations : List Reference
deriving DecidableEq, Repr

structure Domain where
  attackVersion : Option String
  techniques : PyDict String Technique

/-- The domains of the vendored catalog. -/
abbrev Catalog := PyDict String Domain

def defaultDomain : String := "enterprise-attack"

def domainAliases : List (String × String) :=
  [("enterprise", "enterprise-attack"), ("enterprise-attack", "enterprise-attack"), ("ics", "ics-attack"),
    ("ics-attack", "ics-attack")]

/-- `normalize_domain`. -/
def normalizeDomain (library : Library) (value : Option String) : String :=
  (domainAliases.lookup (library.lower (library.strip (orElse value "")))).getD defaultDomain

/-! ### Loading -/

inductive LoadError where
  | unreadable (path : String)
  | schemaVersion (path : String)
  | pluginId (path : String)
  | defaultDomain (path domain : String)
  | techniqueId (path : String) (index : Nat)
  | kind (path : String) (kind : String)
  | emptyGuidance (path : String) (index : Nat)
  | domain (path domain : String)
deriving DecidableEq, Repr

def pluginId : String := "marlinspike-mitre"

def kindOf (kind : String) : Option Kind :=
  if kind = "classification" then some .classification else if kind = "coverage" then some .coverage else none

def loadRule (library : Library) (catalog : Catalog) (path packDomain : String) (index : Nat) (source : RuleSource) :
    Except LoadError Rule := do
  let techniqueId := library.upper (library.strip (orElse source.techniqueId ""))
  if techniqueId = "" then throw (.techniqueId path index)
  let kindText := library.strip (orElse source.kind "classification")
  let some kind := kindOf kindText | throw (.kind path kindText)
  if source.responseGuidance.any fun step => library.strip step = "" then throw (.emptyGuidance path index)
  let domain := normalizeDomain library (some (orElse source.domain packDomain))
  if (catalog.get domain).isNone then throw (.domain path domain)
  return { id := source.id, enabled := source.enabled, kind, techniqueId, domain, title := source.title
           family := source.family, publication := source.publication, basis := source.basis
           confidence := source.confidence, rationale := source.rationale
           responseGuidance := source.responseGuidance.map library.strip, when := source.when }

/-- `_load_rule_pack`. -/
def loadRulePack (library : Library) (catalog : Catalog) (path : String) (source : Option PackSource) :
    Except LoadError Pack := do
  let some source := source | throw (.unreadable path)
  if source.schemaVersion ≠ 1 then throw (.schemaVersion path)
  if source.pluginId ≠ some pluginId then throw (.pluginId path)
  let packDomain := normalizeDomain library source.defaultDomain
  if (catalog.get packDomain).isNone then throw (.defaultDomain path packDomain)
  let rules ← source.rules.zipIdx.mapM fun (rule, index) => loadRule library catalog path packDomain index rule
  return ⟨source.packId, packDomain, rules⟩

/-! ### The context of a report -/

/-- The runs of letters and digits of a text. -/
def alphanumericRuns : List Char → List (List Char)
  | [] => [[]]
  | c :: rest =>
    match alphanumericRuns rest with
    | [] => []
    | run :: runs => if c.isAlphanum then (c :: run) :: runs else [] :: run :: runs

/-- `_slug`. -/
def slug (library : Library) (value : String) : String :=
  let runs := (alphanumericRuns (library.lower (library.strip value)).toList).filter (· ≠ [])
  if runs = [] then "unknown" else String.ofList (['-'].intercalate runs)

/-- A finding or an indicator under its label, with the reference that it is cited by. -/
structure Observation where
  label : String
  ref : String
  nodes : List String
deriving DecidableEq, Repr

/-- `_build_observation_index`: the items are numbered by label; `labels` are those before them. -/
def observations (library : Library) (kind : String) (labels : List String) :
    List (Option String × List String) → List Observation
  | [] => []
  | item :: rest =>
    let label := library.upper (library.strip (orElse item.1 ""))
    if label = "" then observations library kind labels rest
    else
      ⟨label, kind ++ ":" ++ slug library label ++ ":" ++ toString (labels.count label + 1), item.2.filter (· ≠ "")⟩ ::
        observations library kind (label :: labels) rest

/-- `_build_context`. -/
structure Context where
  nodeCount : Nat
  edgeCount : Nat
  hasProtocols : Bool
  hasCapture : Bool
  findings : List Observation
  indicators : List Observation
  severities : List String
deriving DecidableEq, Repr

def Indicator.nodes (indicator : Indicator) : List String :=
  indicator.affectedNodes ++ (truthy indicator.src).toList ++ (truthy indicator.dst).toList

def severityOf (library : Library) (finding : Finding) : Option String :=
  truthy (some (library.upper (library.strip (orElse finding.severity ""))))

def buildContext (library : Library) (report : View) : Context where
  nodeCount := report.nodeCount
  edgeCount := report.edgeCount
  hasProtocols := report.hasProtocols
  hasCapture := report.hasCapture
  findings := observations library "finding" [] (report.riskFindings.map fun f => (f.category, f.affectedNodes))
  indicators := observations library "indicator" [] (report.c2Indicators.map fun i => (i.type, i.nodes))
  severities := report.riskFindings.filterMap (severityOf library)

def Context.findingLabels (ctx : Context) : List String := ctx.findings.map (·.label)
def Context.indicatorLabels (ctx : Context) : List String := ctx.indicators.map (·.label)

/-! ### Conditions -/

/-- The names of a clause, without blank ones. -/
def clauseNames (library : Library) (values : List String) : List String :=
  (values.filter fun value => library.strip value ≠ "").map library.upper

/-- A flag that is given must be the report's. -/
def flagMatches (given : Option Bool) (actual : Bool) : Bool := given.all (· = actual)

/-- A clause that names something needs one of its names. -/
def namesMatch (library : Library) (values present : List String) : Bool :=
  let names := clauseNames library values
  names.isEmpty || names.any present.contains

/-- `_primitive_matches`. -/
def primitiveMatches (library : Library) (ctx : Context) (p : Primitive) : Bool :=
  flagMatches p.hasCapture ctx.hasCapture && flagMatches p.hasNodes (ctx.nodeCount ≠ 0) &&
    flagMatches p.hasEdges (ctx.edgeCount ≠ 0) && flagMatches p.hasProtocols ctx.hasProtocols &&
    p.minNodes ≤ ctx.nodeCount && p.minEdges ≤ ctx.edgeCount &&
    namesMatch library p.findingCategories ctx.findingLabels &&
    namesMatch library p.indicatorTypes ctx.indicatorLabels && namesMatch library p.severity ctx.severities

mutual
/-- `_conditions_match`. -/
def conditionsMatch (library : Library) (ctx : Context) : Conditions → Bool
  | .mk primitive allOf anyOf =>
    primitiveMatches library ctx primitive && allMatch library ctx allOf && (anyOf.isEmpty || anyMatch library ctx anyOf)

def allMatch (library : Library) (ctx : Context) : List Conditions → Bool
  | [] => true
  | clause :: rest => conditionsMatch library ctx clause && allMatch library ctx rest

def anyMatch (library : Library) (ctx : Context) : List Conditions → Bool
  | [] => false
  | clause :: rest => conditionsMatch library ctx clause || anyMatch library ctx rest
end

/-- `_rule_matches`. -/
def ruleMatches (library : Library) (ctx : Context) (rule : Rule) : Bool := conditionsMatch library ctx rule.when

/-! ### Evidence -/

mutual
/-- `_extract_observation_filters`: the categories and the indicator types that the conditions
    name, at any depth. -/
def observationFilters (library : Library) : Conditions → List String × List String
  | .mk primitive allOf anyOf =>
    let all := clauseFilters library allOf
    let any := clauseFilters library anyOf
    (clauseNames library primitive.findingCategories ++ all.1 ++ any.1,
      clauseNames library primitive.indicatorTypes ++ all.2 ++ any.2)

def clauseFilters (library : Library) : List Conditions → List String × List String
  | [] => ([], [])
  | clause :: rest =>
    let first := observationFilters library clause
    let others := clauseFilters library rest
    (first.1 ++ others.1, first.2 ++ others.2)
end

structure Evidence where
  mappedFrom : List String
  evidenceRefs : List String
  affectedNodes : List String
deriving DecidableEq, Repr

/-- The observations that a rule's conditions name. -/
def Context.evidence (library : Library) (ctx : Context) (rule : Rule) : List Observation :=
  let filters := observationFilters library rule.when
  ctx.findings.filter (fun o => filters.1.contains o.label) ++ ctx.indicators.filter fun o => filters.2.contains o.label

/-- `_collect_rule_evidence`. -/
def collectRuleEvidence (library : Library) (ctx : Context) (rule : Rule) : Evidence :=
  let found := ctx.evidence library rule
  let refs := found.map (·.ref)
  { mappedFrom := sortedSet (found.map (·.label))
    evidenceRefs := sortedSet (if refs = [] ∧ rule.kind = .coverage then ["platform:" ++ slug library rule.techniqueId] else refs)
    affectedNodes := sortedSet (found.flatMap (·.nodes)) }

/-! ### Items -/

structure Guidance where
  priority : String
  analystSummary : String
  nextSteps : List String
  detectionNotes : String
  mitigationFocus : List String
  references : List String
deriving DecidableEq, Repr

/-- What is mapped to a technique of a domain. -/
structure Item where
  techniqueId : String
  title : String
  family : String
  publication : String
  basis : String
  confidence : Rat
  mappedFrom : List String
  affectedNodes : List String
  evidenceRefs : List String
  rationale : String
  domain : String
  attackVersion : Option String
  techniqueUrl : String
  attackName : String
  description : String
  detection : String
  platforms : List String
  tactics : List Reference
  tacticIds : List String
  tacticShortnames : List String
  isSubtechnique : Bool
  parentTechniqueId : String
  parentTechniqueName : String
  parentTechniqueUrl : String
  mitigations : List Reference
  ruleIds : List String
  responseGuidance : Guidance
deriving DecidableEq, Repr

/-- `BASIS_RANK`. -/
def basisRank (basis : String) : Nat :=
  if basis = "observed" then 0 else if basis = "inferred" then 1 else if basis = "platform" then 2 else 99

/-- `GUIDANCE_PRIORITY`. -/
def guidancePriority (priority : String) : Nat :=
  if priority = "critical" then 0 else if priority = "high" then 1 else if priority = "medium" then 2
  else if priority = "informational" then 3 else 99

def priorityForItem (basis : String) (confidence : Rat) : String :=
  if basis = "platform" then "informational"
  else if 9 / 10 ≤ confidence then "high"
  else if 3 / 4 ≤ confidence then "medium"
  else "informational"

/-- `_clean_text`: runs of blanks become one, and none is left at the ends. -/
def cleanText (text : String) : List Char :=
  [' '].intercalate ((text.toList.splitOnP isSpace).filter (· ≠ []))

/-- `_short_text`. -/
def shortText (text : String) : String :=
  let clean := cleanText text
  if clean.length ≤ 320 then String.ofList clean
  else String.ofList (((clean.take 317).reverse.dropWhile isSpace).reverse ++ "...".toList)

/-- `_build_response_guidance`. -/
def buildResponseGuidance (library : Library) (item : Item) (rule : Rule) (technique : Technique) : Guidance :=
  let named (references : List Reference) := (references.map fun r => library.strip r.name).filter (· ≠ "")
  let tacticNames := named item.tactics
  let mitigationNames := named item.mitigations
  let steps := appendUnique [] rule.responseGuidance
  let steps := if item.affectedNodes = [] then steps else appendUnique steps
    ["Pivot on the affected assets first: " ++ commaList (item.affectedNodes.take 4) ++ "." ++
      (if item.basis ≠ "platform" then " Validate whether the traffic pattern is expected for their role." else "")]
  let steps := if item.evidenceRefs = [] then steps else appendUnique steps
    ["Trace the mapping back to the observed evidence refs: " ++ commaList (item.evidenceRefs.take 4) ++ "."]
  let steps := if tacticNames = [] then steps else appendUnique steps
    ["Frame triage around the ATT&CK tactic(s): " ++ commaList (tacticNames.take 3) ++ "."]
  let steps := appendUnique steps
    (if item.basis = "platform" then
      ["Treat this as ATT&CK coverage context for passive analysis, not as a confirmed incident on its own."]
    else
      ["Confirm whether the observed behavior is approved or expected before escalating containment.",
        "If the behavior is unexpected, preserve packet evidence and isolate the host or channel long enough to collect " ++
          "endpoint context."])
  let steps := if mitigationNames = [] then steps else appendUnique steps
    ["Review ATT&CK mitigations that best fit this behavior: " ++ commaList (mitigationNames.take 3) ++ "."]
  { priority := priorityForItem item.basis item.confidence
    analystSummary := shortText (orElse rule.rationale (orElse (some technique.description)
      (orElse (some item.title) item.techniqueId ++ " mapped from passive network evidence.")))
    nextSteps := steps
    detectionNotes := shortText technique.detection
    mitigationFocus := mitigationNames.take 5
    references := (appendUnique [library.strip item.techniqueUrl] (item.tactics.map fun t => library.strip t.url)).filter (· ≠ "") }

/-- The metadata of a technique that the catalog lacks. -/
def unknownTechnique : Technique := ⟨"", "", "", "", [], [], false, "", "", "", []⟩

/-- The technique's entry in the catalog. -/
def techniqueMetadata (library : Library) (catalog : Catalog) (techniqueId domain : String) : Option Technique :=
  (catalog.get domain).bind fun d => d.techniques.get (library.upper (library.strip techniqueId))

/-- The item of a rule: what `_classify` puts together and `_enrich_attack_item` adds. -/
def ruleItem (library : Library) (catalog : Catalog) (ctx : Context) (rule : Rule) : Item :=
  let evidence := collectRuleEvidence library ctx rule
  let technique := (techniqueMetadata library catalog rule.techniqueId rule.domain).getD unknownTechnique
  let title := orElse rule.title rule.techniqueId
  let stripped (texts : List String) := (texts.map library.strip).filter (· ≠ "")
  let item : Item :=
    { techniqueId := rule.techniqueId
      title
      family := orElse rule.family "Unknown"
      publication := orElse rule.publication "Plugin mapping"
      basis := orElse rule.basis (if rule.kind = .coverage then "platform" else "observed")
      confidence := rule.confidence
      mappedFrom := evidence.mappedFrom
      affectedNodes := evidence.affectedNodes
      evidenceRefs := evidence.evidenceRefs
      rationale := orElse rule.rationale ""
      domain := rule.domain
      attackVersion := (catalog.get rule.domain).bind (·.attackVersion)
      techniqueUrl := technique.url
      attackName := orElse (some technique.name) title
      description := technique.description
      detection := technique.detection
      platforms := sortedSet (stripped technique.platforms)
      tactics := technique.tactics
      tacticIds := stripped (technique.tactics.map (·.id))
      tacticShortnames := stripped (technique.tactics.map (·.shortname))
      isSubtechnique := technique.isSubtechnique
      parentTechniqueId := technique.parentTechniqueId
      parentTechniqueName := technique.parentTechniqueName
      parentTechniqueUrl := technique.parentTechniqueUrl
      mitigations := technique.mitigations
      ruleIds := stripped [orElse rule.id ""]
      responseGuidance := ⟨"", "", [], "", [], []⟩ }
  { item with responseGuidance := buildResponseGuidance library item rule technique }

/-! ### Merging -/

def kept (merged source : String) : String := if merged = "" then source else merged

/-- `_merge_dict_list`: the first of each key, and none without a key. -/
def mergeReferences (library : Library) (references : List Reference) : List Reference :=
  let keyOf (r : Reference) := library.strip (orElse (some r.id) (orElse (some r.name) r.url))
  references.foldl
    (fun merged r => if keyOf r = "" ∨ keyOf r ∈ merged.map keyOf then merged else merged ++ [r]) []

/-- `_merge_guidance`. -/
def mergeGuidance (library : Library) (target source : Guidance) : Guidance :=
  let stripped (texts : List String) := (texts.map library.strip).filter (· ≠ "")
  { priority := if guidancePriority source.priority < guidancePriority target.priority then source.priority else target.priority
    analystSummary := kept target.analystSummary source.analystSummary
    nextSteps := appendUnique target.nextSteps (stripped source.nextSteps)
    detectionNotes := kept target.detectionNotes source.detectionNotes
    mitigationFocus := appendUnique target.mitigationFocus (stripped source.mitigationFocus)
    references := appendUnique target.references (stripped source.references) }

/-- `_merge_item`: the first item's texts stay, lists are united, and the greater confidence
    and the stronger basis win. -/
def mergeItem (library : Library) (target source : Item) : Item :=
  { target with
    confidence := if target.confidence < source.confidence then source.confidence else target.confidence
    basis := if basisRank source.basis < basisRank target.basis then source.basis else target.basis
    domain := kept target.domain source.domain
    attackVersion := (truthy target.attackVersion).or ((truthy source.attackVersion).or target.attackVersion)
    techniqueUrl := kept target.techniqueUrl source.techniqueUrl
    attackName := kept target.attackName source.attackName
    description := kept target.description source.description
    detection := kept target.detection source.detection
    parentTechniqueId := kept target.parentTechniqueId source.parentTechniqueId
    parentTechniqueName := kept target.parentTechniqueName source.parentTechniqueName
    parentTechniqueUrl := kept target.parentTechniqueUrl source.parentTechniqueUrl
    mappedFrom := sortedSet (target.mappedFrom ++ source.mappedFrom)
    evidenceRefs := sortedSet (target.evidenceRefs ++ source.evidenceRefs)
    affectedNodes := sortedSet (target.affectedNodes ++ source.affectedNodes)
    platforms := sortedSet (target.platforms ++ source.platforms)
    tacticIds := sortedSet (target.tacticIds ++ source.tacticIds)
    tacticShortnames := sortedSet (target.tacticShortnames ++ source.tacticShortnames)
    ruleIds := sortedSet (target.ruleIds ++ source.ruleIds)
    mitigations := mergeReferences library (target.mitigations ++ source.mitigations)
    tactics := mergeReferences library (target.tactics ++ source.tactics)
    isSubtechnique := target.isSubtechnique || source.isSubtechnique
    rationale := kept target.rationale source.rationale
    responseGuidance := mergeGuidance library target.responseGuidance source.responseGuidance }

/-! ### The loop over the packs -/

/-- What `_classify` gathers; the sets are lists here. -/
structure Mapping where
  classifications : PyDict String Item
  platformCoverage : PyDict String Item
  mappedCategories : List String
  activeDomains : List String
  packIds : List String
  warnings : List String

def Mapping.init : Mapping := ⟨PyDict.empty, PyDict.empty, [], [], [], []⟩

def storageKey (item : Item) : String := item.domain ++ "::" ++ item.techniqueId

def store (library : Library) (items : PyDict String Item) (item : Item) : PyDict String Item :=
  items.set (storageKey item) (match items.get (storageKey item) with
    | some existing => mergeItem library existing item
    | none => item)

/-- A rule that is enabled and matches. -/
def contribute (library : Library) (catalog : Catalog) (ctx : Context) (m : Mapping) (rule : Rule) : Mapping :=
  let item := ruleItem library catalog ctx rule
  let m := { m with
    activeDomains := m.activeDomains ++ [item.domain]
    warnings := m.warnings ++ (if (techniqueMetadata library catalog rule.techniqueId rule.domain).isNone then
      ["ATT&CK technique metadata missing for " ++ rule.domain ++ ":" ++ rule.techniqueId] else []) }
  match rule.kind with
  | .coverage => { m with platformCoverage := store library m.platformCoverage item }
  | .classification =>
    { m with
      classifications := store library m.classifications item
      mappedCategories := m.mappedCategories ++ item.mappedFrom }

/-- The loop's tests of a rule. -/
def contributes (library : Library) (ctx : Context) (rule : Rule) : Bool := rule.enabled && ruleMatches library ctx rule

def mapRule (library : Library) (catalog : Catalog) (ctx : Context) (m : Mapping) (rule : Rule) : Mapping :=
  if contributes library ctx rule then contribute library catalog ctx m rule else m

def mapPack (library : Library) (catalog : Catalog) (ctx : Context) (m : Mapping) (pack : Pack) : Mapping :=
  pack.rules.foldl (mapRule library catalog ctx)
    { m with
      packIds := m.packIds ++ [orElse pack.packId "unknown-pack"]
      activeDomains := m.activeDomains ++ [pack.defaultDomain] }

def mapped (library : Library) (catalog : Catalog) (ctx : Context) (packs : List Pack) : Mapping :=
  packs.foldl (mapPack library catalog ctx) Mapping.init

/-! ### The result -/

/-- The order of tuples: the first difference decides. -/
def notAfter (comparisons : List Ordering) : Bool := (comparisons.find? (· ≠ .eq)).getD .eq ≠ .gt

/-- `summary`. -/
structure Summary where
  classificationTotal : Nat
  observedTotal : Nat
  inferredTotal : Nat
  platformCoverageTotal : Nat
  mappedCategoryTotal : Nat
  unmappedCategoryTotal : Nat
  tacticTotal : Nat
  subtechniqueTotal : Nat
  matrixDomainTotal : Nat
deriving DecidableEq, Repr

/-- `summary`, `data`, `warnings`, and the domains that the matrix and the metadata are about;
    these two are put together from the items, the domains and the catalog. -/
structure Result where
  summary : Summary
  classifications : List Item
  platformCoverage : List Item
  mappedCategories : List String
  unmappedCategories : List String
  activeDomains : List String
  packIds : List String
  supportedTechniques : List String
  warnings : List String
deriving DecidableEq, Repr

def result (library : Library) (ctx : Context) (m : Mapping) : Result :=
  let classifications := (m.classifications.items.map Prod.snd).mergeSort fun a b => notAfter
    [compare (basisRank a.basis) (basisRank b.basis), compare b.confidence a.confidence, compare a.domain b.domain,
      compare a.techniqueId b.techniqueId]
  let platformCoverage := (m.platformCoverage.items.map Prod.snd).mergeSort fun a b => notAfter
    [compare a.domain b.domain, compare a.family b.family, compare a.techniqueId b.techniqueId]
  let items := classifications ++ platformCoverage
  let mappedCategories := sortedSet m.mappedCategories
  let unmappedCategories := sortedSet (ctx.findingLabels.filter (· ∉ m.mappedCategories))
  let activeDomains := sortedSet m.activeDomains
  { summary :=
      { classificationTotal := classifications.length
        observedTotal := (classifications.filter (·.basis = "observed")).length
        inferredTotal := (classifications.filter (·.basis = "inferred")).length
        platformCoverageTotal := platformCoverage.length
        mappedCategoryTotal := mappedCategories.length
        unmappedCategoryTotal := unmappedCategories.length
        tacticTotal := (((items.flatMap (·.tactics)).map (·.id)).filter (library.strip · ≠ "")).dedup.length
        subtechniqueTotal := ((items.filter (·.isSubtechnique)).map (·.techniqueId)).dedup.length
        matrixDomainTotal := activeDomains.length }
    classifications
    platformCoverage
    mappedCategories
    unmappedCategories
    activeDomains
    packIds := sortedSet m.packIds
    supportedTechniques := sortedSet (items.map (·.techniqueId))
    warnings := sortedSet m.warnings }

/-- `_classify`. -/
def classify (library : Library) (catalog : Catalog) (report : View) (packs : List Pack) : Result :=
  let ctx := buildContext library report
  result library ctx (mapped library catalog ctx packs)

/-! ### The rules that count -/

section Contributors
variable {library : Library} {catalog : Catalog} {ctx : Context}

def contributors (library : Library) (ctx : Context) (pack : Pack) : List Rule :=
  pack.rules.filter (contributes library ctx)

/-- A pack counts by its header and the rules of it that are enabled and match. -/
theorem mapPack_eq (m : Mapping) (pack : Pack) :
    mapPack library catalog ctx m pack = (contributors library ctx pack).foldl (contribute library catalog ctx)
      { m with
        packIds := m.packIds ++ [orElse pack.packId "unknown-pack"]
        activeDomains := m.activeDomains ++ [pack.defaultDomain] } := by
  rw [contributors, List.foldl_filter]
  rfl

/-- Packs that agree in what counts are mapped alike. -/
theorem mapped_congr {α : Type} {packs : List α} {f g : α → Pack}
    (same : ∀ p ∈ packs, (f p).packId = (g p).packId ∧ (f p).defaultDomain = (g p).defaultDomain ∧
      contributors library ctx (f p) = contributors library ctx (g p)) :
    mapped library catalog ctx (packs.map f) = mapped library catalog ctx (packs.map g) := by
  unfold mapped
  rw [List.foldl_map, List.foldl_map]
  refine List.foldl_ext _ _ _ fun m p listed => ?_
  obtain ⟨packId, domain, rules⟩ := same p listed
  rw [mapPack_eq, mapPack_eq, packId, domain, rules]

/-- What holds at the start, and is kept by the packs' headers and the rules that count. -/
theorem mapped_invariant {packs : List Pack} {I : Mapping → Prop} (start : I Mapping.init)
    (header : ∀ (m : Mapping) (packIds activeDomains : List String), I m → I { m with packIds, activeDomains })
    (kept : ∀ pack ∈ packs, ∀ rule ∈ contributors library ctx pack, ∀ m, I m → I (contribute library catalog ctx m rule)) :
    I (mapped library catalog ctx packs) := by
  refine List.foldlRecOn packs (mapPack library catalog ctx) start fun m holds pack listed => ?_
  rw [mapPack_eq]
  refine List.foldlRecOn _ _ (header m _ _ holds) fun m holds rule counts => ?_
  exact kept pack listed rule counts m holds

def Mapping.items (m : Mapping) : List Item :=
  m.classifications.items.map Prod.snd ++ m.platformCoverage.items.map Prod.snd

section Items
variable {P : Item → Prop} (merged : ∀ a b, P a → P b → P (mergeItem library a b))
include merged

theorem store_items {items : PyDict String Item} {item : Item} (all : ∀ i ∈ items.items.map Prod.snd, P i) (new : P item) :
    ∀ i ∈ (store library items item).items.map Prod.snd, P i := by
  intro i member
  rcases PyDict.mem_values_set member with rfl | old
  · cases existing : items.get (storageKey item) with
    | none => exact new
    | some first => exact merged _ _ (all _ (List.mem_map.mpr ⟨_, PyDict.mem_items_of_get existing, rfl⟩)) new
  · exact all i old

theorem contribute_items {m : Mapping} {rule : Rule} (all : ∀ i ∈ m.items, P i)
    (new : P (ruleItem library catalog ctx rule)) : ∀ i ∈ (contribute library catalog ctx m rule).items, P i := by
  rw [Mapping.items, List.forall_mem_append] at all
  unfold contribute Mapping.items
  cases rule.kind with
  | coverage => exact List.forall_mem_append.mpr ⟨all.1, store_items merged all.2 new⟩
  | classification => exact List.forall_mem_append.mpr ⟨store_items merged all.1 new, all.2⟩

/-- What holds of the items of the rules that count, and is kept by merging, holds of all items. -/
theorem mapped_items {packs : List Pack}
    (made : ∀ pack ∈ packs, ∀ rule ∈ contributors library ctx pack, P (ruleItem library catalog ctx rule)) :
    ∀ i ∈ (mapped library catalog ctx packs).items, P i := by
  refine mapped_invariant (I := fun m => ∀ i ∈ m.items, P i) (fun i member => by cases member) (fun m _ _ all => all) ?_
  exact fun pack listed rule counts m all => contribute_items merged all (made pack listed rule counts)

end Items

/-- The items of the result are those of the mapping. -/
theorem mem_result_items {m : Mapping} {item : Item} :
    item ∈ (result library ctx m).classifications ++ (result library ctx m).platformCoverage ↔ item ∈ m.items := by
  unfold Mapping.items result
  simp only [List.mem_append, List.mem_mergeSort]

/-- An item names rules only that count. -/
theorem ruleIds_contribute {report : View} {packs : List Pack} {item : Item} {id : String}
    (listed : item ∈ (classify library catalog report packs).classifications ++
      (classify library catalog report packs).platformCoverage) (named : id ∈ item.ruleIds) :
    ∃ pack ∈ packs, ∃ rule ∈ contributors library (buildContext library report) pack,
      id = library.strip (orElse rule.id "") ∧ id ≠ "" := by
  refine mapped_items (P := fun item => ∀ id ∈ item.ruleIds, ∃ pack ∈ packs,
    ∃ rule ∈ contributors library (buildContext library report) pack, id = library.strip (orElse rule.id "") ∧ id ≠ "")
    ?_ ?_ item (mem_result_items.mp listed) id named
  · intro a b first second id member
    rcases List.mem_append.mp (mem_sortedSet.mp member) with inA | inB
    · exact first id inA
    · exact second id inB
  · intro pack inPacks rule counts id member
    have own : id = library.strip (orElse rule.id "") ∧ id ≠ "" := by
      have : id ∈ ([orElse rule.id ""].map library.strip).filter (· ≠ "") := member
      simpa using this
    exact ⟨pack, inPacks, rule, counts, own⟩

/-- Mapped categories are labels of findings or indicators. -/
theorem mappedCategories_labels {packs : List Pack} {category : String}
    (mapped_ : category ∈ (mapped library catalog ctx packs).mappedCategories) :
    category ∈ ctx.findingLabels ∨ category ∈ ctx.indicatorLabels := by
  refine mapped_invariant (I := fun m => ∀ c ∈ m.mappedCategories, c ∈ ctx.findingLabels ∨ c ∈ ctx.indicatorLabels)
    ?_ ?_ ?_ category mapped_
  · intro c member
    cases member
  · exact fun m _ _ all => all
  · intro pack _ rule _ m all c member
    have source : c ∈ m.mappedCategories ∨ c ∈ (collectRuleEvidence library ctx rule).mappedFrom := by
      unfold contribute at member
      cases kind : rule.kind with
      | coverage =>
        rw [kind] at member
        exact .inl member
      | classification =>
        rw [kind] at member
        exact List.mem_append.mp member
    rcases source with old | new
    · exact all c old
    · obtain ⟨o, found, rfl⟩ := List.mem_map.mp (mem_sortedSet.mp new)
      rcases List.mem_append.mp found with finding | indicator
      · exact .inl (List.mem_map.mpr ⟨o, (List.mem_filter.mp finding).1, rfl⟩)
      · exact .inr (List.mem_map.mpr ⟨o, (List.mem_filter.mp indicator).1, rfl⟩)

/-! ### What the rules see of a report -/

/-- The rules of the packs tell the two contexts no further apart than by observations that none
    of them asks for, and they have findings of the same categories. -/
structure SameToRules (library : Library) (packs : List Pack) (ctx ctx' : Context) : Prop where
  labels : ∀ label, label ∈ ctx.findingLabels ↔ label ∈ ctx'.findingLabels
  matches_ : ∀ pack ∈ packs, ∀ rule ∈ pack.rules, rule.enabled = true →
    ruleMatches library ctx rule = ruleMatches library ctx' rule
  evidence : ∀ pack ∈ packs, ∀ rule ∈ pack.rules, rule.enabled = true → ruleMatches library ctx rule = true →
    collectRuleEvidence library ctx rule = collectRuleEvidence library ctx' rule

theorem contributors_same {packs : List Pack} {ctx' : Context} (same : SameToRules library packs ctx ctx') {pack : Pack}
    (listed : pack ∈ packs) : contributors library ctx pack = contributors library ctx' pack := by
  refine List.filter_congr fun rule defined => ?_
  unfold contributes
  cases enabled : rule.enabled with
  | false => rfl
  | true => rw [same.matches_ pack listed rule defined enabled]

theorem contribute_same {ctx' : Context} {rule : Rule}
    (evidence : collectRuleEvidence library ctx rule = collectRuleEvidence library ctx' rule) (m : Mapping) :
    contribute library catalog ctx m rule = contribute library catalog ctx' m rule := by
  have item : ruleItem library catalog ctx rule = ruleItem library catalog ctx' rule := by
    unfold ruleItem
    rw [evidence]
  unfold contribute
  rw [item]

theorem mapped_same {packs : List Pack} {ctx' : Context} (same : SameToRules library packs ctx ctx') :
    mapped library catalog ctx packs = mapped library catalog ctx' packs := by
  refine List.foldl_ext _ _ _ fun m pack listed => ?_
  rw [mapPack_eq, mapPack_eq, ← contributors_same same listed]
  refine List.foldl_ext _ _ _ fun m rule counts => ?_
  obtain ⟨defined, tested⟩ := List.mem_filter.mp counts
  obtain ⟨enabled, matches_⟩ := Bool.and_eq_true_iff.mp tested
  exact contribute_same (same.evidence pack listed rule defined enabled matches_) m

/-- Reports that the rules do not tell apart have the same result. -/
theorem classify_same {report report' : View} {packs : List Pack}
    (same : SameToRules library packs (buildContext library report) (buildContext library report')) :
    classify library catalog report packs = classify library catalog report' packs := by
  have unmapped (categories : List String) :
      sortedSet ((buildContext library report).findingLabels.filter (· ∉ categories)) =
        sortedSet ((buildContext library report').findingLabels.filter (· ∉ categories)) := by
    refine sortedSet_congr fun label => ?_
    rw [List.mem_filter, List.mem_filter, same.labels label]
  unfold classify
  dsimp only
  rw [mapped_same same]
  unfold result
  dsimp only
  rw [unmapped]

/-- A category that only one of two reports has findings of, and the other not even an
    indicator, shows in the result. -/
theorem labels_of_classify_eq {report report' : View} {packs : List Pack}
    (same : classify library catalog report' packs = classify library catalog report packs) {label : String}
    (present : label ∈ (buildContext library report').findingLabels) :
    label ∈ (buildContext library report).findingLabels ∨ label ∈ (buildContext library report).indicatorLabels := by
  by_cases mapped_ : label ∈ (mapped library catalog (buildContext library report') packs).mappedCategories
  · have inResult : label ∈ (classify library catalog report' packs).mappedCategories := mem_sortedSet.mpr mapped_
    rw [same] at inResult
    exact mappedCategories_labels (mem_sortedSet.mp inResult)
  · have inResult : label ∈ (classify library catalog report' packs).unmappedCategories :=
      mem_sortedSet.mpr (List.mem_filter.mpr ⟨present, decide_eq_true mapped_⟩)
    rw [same] at inResult
    exact .inl (List.mem_filter.mp (mem_sortedSet.mp inResult)).1

end Contributors

end Marlinspike.Plugins.Mitre
