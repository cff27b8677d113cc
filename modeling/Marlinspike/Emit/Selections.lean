import Marlinspike.Emit.ReportFiles
import Marlinspike.Emit.Sigma
import Marlinspike.Findings.Apart

/-!
Whether the Sigma rule of a finding selects the traffic that the finding is made of. The rule
of external traffic keeps the connections to public addresses only, so that it misses the
ones that come in, and the rule of Modbus writes leaves out exactly the hosts that wrote
(`detects_iff`).
-/
namespace Marlinspike.Emit.Selections
open Marlinspike.Plugins (Report)
open Marlinspike.Findings.Apart
open Marlinspike.Topology.Graph hiding Services
open Marlinspike.Topology.Profile
open Marlinspike.Risk.Surface
open Marlinspike.Risk.Score
open Marlinspike.Emit.ReportFiles
open Marlinspike.Emit.Navigator (itemsOf)
open Marlinspike.Emit.Sigma
open Marlinspike.Selecting

/-! ### Evidence -/

/-- The line of Zeek's log for a conversation: of its addresses, and of its function code where
    it writes. -/
structure Records (conv : Conversation) (event : Event) : Prop where
  origH : event "id.orig_h" = some conv.srcKey
  respH : event "id.resp_h" = some conv.dstKey
  func : 0 < conv.modbusWrites → ∃ func, event "func" = some func ∧ "WRITE".toList <:+: func.toList

section Evidence
variable (tables : Tables) (surface : RiskSurface)

def writeSources : List String :=
  ((surface.conversations.filter fun conv => 0 < conv.modbusWrites).map (·.srcKey)).dedup

/-- The conversation is one of an edge that crosses the levels. -/
def Crossing (conv : Conversation) : Prop :=
  ∃ edge ∈ levelledEdges surface, crossesPurdue edge.2.1 edge.2.2 = true ∧
    (edge.1.src, edge.1.dst, edge.1.protocol, edge.1.dstPort, edge.1.transport) = conv.edgeKey

/-- The conversation is one of those that a finding of the category is made of. -/
def Contributed (category : String) (conv : Conversation) : Prop :=
  category = "ICS_EXTERNAL_COMMS" ∧ (exposure tables surface conv).isSome ∨
    category = "CROSS_PURDUE" ∧ Crossing surface conv ∨
    category = "MODBUS_WRITE_ANON" ∧ 0 < conv.modbusWrites

/-- The rule of every finding selects the line of each conversation that the finding is made of. -/
def Detects (services : Services) (formats : Formats) (captureId : String) : Prop :=
  ∀ f ∈ findings tables formats surface, ∀ conv ∈ surface.conversations, Contributed tables surface f.category conv →
    ∃ made, ruleOf services captureId (RiskFinding.toJson f) = some made ∧
      ∀ event, Records conv event → made.2.detection.selects event = true

/-- No more than two hosts write, the exposed conversations are with hosts whose address does
    not begin as a private one, and none of the endpoints is blank. -/
structure Selectable : Prop where
  writers : (writeSources surface).length ≤ 2
  exposed : ∀ conv ∈ surface.conversations, (exposure tables surface conv).isSome →
    conv.srcKey ≠ "" ∧ ∀ beginning ∈ privatePrefixes, ¬beginning.toList <+: conv.dstKey.toList
  crossing : ∀ conv ∈ surface.conversations, Crossing surface conv → conv.srcKey ≠ "" ∧ conv.dstKey ≠ ""

end Evidence

/-! ### What the rules select -/

section Rules
variable {services : Services} {captureId : String} {finding : Json} {event : Event} {src dst : String}

theorem selects_crossPurdue (some_ : nodesOf services finding ≠ []) :
    ∃ rule, ruleCrossPurdue services finding captureId = some rule ∧
      ∀ event src dst, event "id.orig_h" = some src → event "id.resp_h" = some dst →
        (rule.detection.selects event = true ↔ src ∈ nodesOf services finding ∧ dst ∈ nodesOf services finding) := by
  refine ⟨_, if_neg some_, fun event src dst orig resp => ?_⟩
  simp [Detection.selects, Detection.found, Detection.searches, Search.selects, selects_oneOf orig, selects_oneOf resp]

theorem selects_icsExternalComms (orig : event "id.orig_h" = some src) (resp : event "id.resp_h" = some dst) :
    (ruleIcsExternalComms services finding captureId).detection.selects event = true ↔
      src ∈ nodesOf services finding ∧ ∀ beginning ∈ privatePrefixes, ¬beginning.toList <+: dst.toList := by
  have filter_ := @selects_startsWith event _ _ privatePrefixes resp
  simp [ruleIcsExternalComms, Detection.selects, Detection.found, Detection.searches, Search.selects, selects_oneOf orig,
    ← Bool.not_eq_true, filter_]

/-- The hosts that wrote are taken for known ones. -/
theorem selects_modbusWriteAnon (orig : event "id.orig_h" = some src)
    (write : ∃ func, event "func" = some func ∧ "WRITE".toList <:+: func.toList) :
    (ruleModbusWriteAnon services finding captureId).detection.selects event = true ↔
      src ∉ nodesOf services finding := by
  obtain ⟨func, is, write⟩ := write
  have selected : (Test.contains "func" ["WRITE", "FORCE"]).selects event = true :=
    (selects_contains is).mpr ⟨"WRITE", List.mem_cons_self, write⟩
  by_cases none_ : nodesOf services finding = []
  · simp [ruleModbusWriteAnon, none_, Detection.selects, Detection.found, Detection.searches, Search.selects, selected]
  · simp [ruleModbusWriteAnon, none_, Detection.selects, Detection.found, Detection.searches, Search.selects, selected,
      ← Bool.not_eq_true, selects_oneOf orig]

end Rules

/-! ### The checks -/

section Checks
variable {services : Services} {tables : Tables} {formats : Formats} {surface : RiskSurface} {captureId : String}

theorem nodesOf_toJson (f : RiskFinding) : nodesOf services (RiskFinding.toJson f) = f.affectedNodes.filter (· ≠ "") := by
  show (((f.affectedNodes.map Json.str).filter Json.truthy).map (Json.toText services.library)) = _
  rw [List.filter_map, List.map_map]
  exact List.map_id _

theorem mem_nodesOf {f : RiskFinding} {node : String} :
    node ∈ nodesOf services (RiskFinding.toJson f) ↔ node ∈ f.affectedNodes ∧ node ≠ "" := by
  simp [nodesOf_toJson]

/-- The rule of a finding is made by the builder of its category. -/
theorem ruleOf_toJson {f : RiskFinding} {category : String} (is : f.category = category) (known : category ∈ emittable) :
    (ruleOf services captureId (RiskFinding.toJson f)).map Prod.snd =
      build services category (RiskFinding.toJson f) captureId := by
  have text : ((RiskFinding.toJson f).get "category").text services.library = category := by
    show (Json.str f.category).text services.library = category
    rw [is]
    have some_ : category ≠ "" := by
      rintro rfl
      exact absurd known (by decide)
    simp [Json.text, Json.truthy, Json.toText, some_]
  unfold ruleOf
  rw [text, services.upper_emittable category known, Option.map_map]
  exact Option.map_id'

def eventCategories : List String := ["ICS_EXTERNAL_COMMS", "CROSS_PURDUE", "MODBUS_WRITE_ANON"]

/-- The findings of the three categories are made by their own checks. -/
theorem mem_check {f : RiskFinding} (listed : f ∈ findings tables formats surface) (own : f.category ∈ eventCategories) :
    f ∈ checkExternalComms tables surface ∧ f.category = "ICS_EXTERNAL_COMMS" ∨
      f ∈ checkCrossPurdue surface ∧ f.category = "CROSS_PURDUE" ∨
      f ∈ checkWriteSources surface ∧ f.category = "MODBUS_WRITE_ANON" := by
  have apart : f.category ∉ sharedCategories := (by decide : ∀ c ∈ eventCategories, c ∉ sharedCategories) _ own
  have not_mem {categories : List String} {fs : List RiskFinding} (told : Told categories fs)
      (disjoint : ∀ c ∈ eventCategories, c ∉ categories) : f ∉ fs :=
    fun member => disjoint _ own (told.made f member apart)
  have not_shared {fs : List RiskFinding} (shared : ∀ f ∈ fs, f.category ∈ sharedCategories) : f ∉ fs :=
    fun member => apart (shared f member)
  have peel {fs gs : List RiskFinding} (listed : f ∈ fs ++ gs) (other : f ∉ gs) : f ∈ fs :=
    (List.mem_append.mp listed).resolve_right other
  have homes : f ∉ checkRogueAndDualHomed surface := by
    intro member
    obtain ⟨item, -, is⟩ := List.mem_map.mp member
    have category : f.category = "DUAL_HOMED_ENDPOINT_SUSPECT" := by rw [← is]
    rw [category] at own
    exact absurd own (by decide)
  replace listed := peel listed (not_mem told_checkC2Indicators (by decide))
  replace listed := peel listed (not_shared (shared_map fun conv => by simp [sharedCategories]))
  replace listed := peel listed (not_shared (shared_flatMap fun conv _ => shared_tlsFindings))
  replace listed := peel listed (not_shared (shared_map fun conv => by simp [sharedCategories]))
  replace listed := peel listed (not_shared (shared_flatMap fun conv _ => shared_lateralMovement))
  replace listed := peel listed homes
  replace listed := peel listed (not_shared (shared_map fun conv => by simp [sharedCategories]))
  replace listed := peel listed (not_shared (shared_flatMap fun conv _ => shared_advancedProtocols))
  replace listed := peel listed (not_shared shared_checkEolStatus)
  replace listed := peel listed (not_shared (shared_flatMap fun conv _ => shared_threatSignatures))
  replace listed := peel listed (not_shared (shared_flatMap fun item _ => shared_flatMap fun conv _ => shared_plcFindings))
  replace listed := peel listed (not_shared (shared_flatMap fun conv _ => shared_baselineDeviations))
  replace listed := peel listed (not_mem told_checkConduitAndCommandAnomalies (by decide))
  replace listed := peel listed (not_mem told_checkPortAnalysis (by decide))
  replace listed := peel listed (not_mem told_checkProgramAccess (by decide))
  replace listed := peel listed (not_mem told_checkOpcSecurity (by decide))
  replace listed := peel listed (not_mem told_checkNoAuth (by decide))
  rcases List.mem_append.mp listed with listed | writes
  · have listed := peel listed (not_mem told_checkCleartextEngineering (by decide))
    rcases List.mem_append.mp listed with external | crossed
    · have category := told_checkExternalComms.made f external apart
      rcases List.mem_cons.mp category with is | info
      · exact .inl ⟨external, is⟩
      · rw [List.mem_singleton.mp info] at own
        exact absurd own (by decide)
    · exact .inr (.inl ⟨crossed, List.mem_singleton.mp (told_checkCrossPurdue.made f crossed apart)⟩)
  · exact .inr (.inr ⟨writes, List.mem_singleton.mp (told_checkWriteSources.made f writes apart)⟩)

/-! The findings, and their nodes. -/

theorem exists_external {conv : Conversation} (listed : conv ∈ surface.conversations)
    (exposed : (exposure tables surface conv).isSome) :
    ∃ f ∈ checkExternalComms tables surface, f.category = "ICS_EXTERNAL_COMMS" := by
  have some_ : (surface.conversations.filter fun conv => (exposure tables surface conv).isSome) ≠ [] :=
    List.ne_nil_of_mem (List.mem_filter.mpr ⟨listed, exposed⟩)
  unfold checkExternalComms
  dsimp only
  rw [if_neg some_]
  exact ⟨_, List.mem_append_left _ (List.mem_singleton.mpr rfl), rfl⟩

theorem exists_crossPurdue {conv : Conversation} (crossing : Crossing surface conv) :
    ∃ f ∈ checkCrossPurdue surface, f.category = "CROSS_PURDUE" := by
  obtain ⟨edge, levelled, crosses, -⟩ := crossing
  have some_ : crossPurdueViolations surface ≠ [] :=
    List.ne_nil_of_mem (List.mem_map_of_mem (List.mem_filter.mpr ⟨levelled, crosses⟩))
  unfold checkCrossPurdue
  dsimp only
  rw [if_neg some_]
  exact ⟨_, List.mem_singleton.mpr rfl, rfl⟩

theorem exists_writeSources (many : 2 < (writeSources surface).length) :
    ∃ f ∈ checkWriteSources surface, f.category = "MODBUS_WRITE_ANON" ∧ f.affectedNodes = writeSources surface := by
  unfold checkWriteSources
  dsimp only
  rw [if_pos (by exact many)]
  exact ⟨_, List.mem_singleton.mpr rfl, rfl, rfl⟩

/-- Both the sender and the receiver of what comes in from outside are among the nodes. -/
theorem srcKey_mem_external {f : RiskFinding} (made : f ∈ checkExternalComms tables surface)
    (own : f.category = "ICS_EXTERNAL_COMMS") {conv : Conversation} (listed : conv ∈ surface.conversations)
    (exposed : (exposure tables surface conv).isSome) : conv.srcKey ∈ f.affectedNodes := by
  have nodes : f.affectedNodes = (((surface.conversations.filterMap (exposure tables surface)).map Prod.fst).dedup ++
      externalIps tables surface).dedup := by
    unfold checkExternalComms at made
    rcases List.mem_append.mp made with critical | info
    · split_ifs at critical
      · cases critical
      · rw [List.mem_singleton.mp critical]
    · split_ifs at info
      · cases info
      · have category : f.category = "EXTERNAL_IPS_OBSERVED" := by rw [List.mem_singleton.mp info]
        rw [category] at own
        exact absurd own (by decide)
  obtain ⟨pair, is⟩ := Option.isSome_iff_exists.mp exposed
  have found : pair ∈ surface.conversations.filterMap (exposure tables surface) :=
    List.mem_filterMap.mpr ⟨conv, listed, is⟩
  rw [nodes, List.mem_dedup, List.mem_append, List.mem_dedup]
  unfold exposure at is
  split_ifs at is with outbound inbound
  · refine .inl ?_
    rw [← Option.some.inj is] at found
    exact List.mem_map_of_mem found
  · refine .inr (List.mem_dedup.mpr ?_)
    have addressed : conv.srcIp ≠ "" := by
      simp only [Bool.and_eq_true, srcPublic, decide_eq_true_eq] at inbound
      exact inbound.2.1
    rw [← Option.some.inj is] at found
    have source : conv.srcKey = conv.srcIp := if_pos addressed
    rw [source]
    exact List.mem_map_of_mem found

theorem keys_mem_crossPurdue {f : RiskFinding} (made : f ∈ checkCrossPurdue surface) {conv : Conversation}
    (crossing : Crossing surface conv) : conv.srcKey ∈ f.affectedNodes ∧ conv.dstKey ∈ f.affectedNodes := by
  obtain ⟨edge, levelled, crosses, own⟩ := crossing
  have nodes : f.affectedNodes = ((crossPurdueViolations surface).flatMap fun v => [v.src, v.dst]).dedup := by
    unfold checkCrossPurdue at made
    dsimp only at made
    split_ifs at made
    · cases made
    · rw [List.mem_singleton.mp made]
  simp only [Conversation.edgeKey, Prod.mk.injEq] at own
  rw [nodes, List.mem_dedup, List.mem_dedup, ← own.1, ← own.2.1]
  have crossed : edge ∈ (levelledEdges surface).filter fun edge => crossesPurdue edge.2.1 edge.2.2 :=
    List.mem_filter.mpr ⟨levelled, crosses⟩
  exact ⟨List.mem_flatMap.mpr ⟨_, List.mem_map_of_mem crossed, List.mem_cons_self⟩,
    List.mem_flatMap.mpr ⟨_, List.mem_map_of_mem crossed, List.mem_cons_of_mem _ List.mem_cons_self⟩⟩

theorem mem_findings {f : RiskFinding} (made : f ∈ checkExternalComms tables surface ∨ f ∈ checkCrossPurdue surface ∨
    f ∈ checkWriteSources surface) : f ∈ findings tables formats surface := by
  unfold findings
  simp only [List.mem_append]
  rcases made with external | crossed | writes
  · simp only [external, true_or]
  · simp only [crossed, true_or, or_true]
  · simp only [writes, true_or, or_true]

/-- The line that Zeek writes of a conversation. -/
def lineOf (conv : Conversation) : Event := fun field =>
  if field = "id.orig_h" then some conv.srcKey
  else if field = "id.resp_h" then some conv.dstKey
  else if field = "func" then some "WRITE_SINGLE_REGISTER"
  else none

theorem records_lineOf (conv : Conversation) : Records conv (lineOf conv) :=
  ⟨rfl, rfl, fun _ => ⟨"WRITE_SINGLE_REGISTER", rfl, by decide⟩⟩

/-- The rule of a finding selects the line of a conversation. -/
theorem selected_of_detects (detects : Detects tables surface services formats captureId) {f : RiskFinding}
    {category : String} (made : f ∈ findings tables formats surface) (is : f.category = category)
    (known : category ∈ emittable) {conv : Conversation} (listed : conv ∈ surface.conversations)
    (contributed : Contributed tables surface category conv) :
    ∃ rule, build services category (RiskFinding.toJson f) captureId = some rule ∧
      rule.detection.selects (lineOf conv) = true := by
  obtain ⟨named, rule, selects⟩ := detects f made conv listed (is ▸ contributed)
  refine ⟨named.2, ?_, selects _ (records_lineOf conv)⟩
  rw [← ruleOf_toJson is known, rule, Option.map_some]

/-- The lines that the rule of a category selects. -/
theorem detected_of_build {f : RiskFinding} {category : String} (is : f.category = category) (known : category ∈ emittable)
    {rule : Rule} (built : build services category (RiskFinding.toJson f) captureId = some rule) :
    ∃ made, ruleOf services captureId (RiskFinding.toJson f) = some made ∧ made.2 = rule := by
  rw [← ruleOf_toJson is known, Option.map_eq_some_iff] at built
  exact built

/-- The rule of a finding in a report is emitted, or another one of its id. -/
theorem emitted_of_finding {report : Report} {fs : List RiskFinding}
    (reported : report.get "risk_findings" = some (.arr (fs.map RiskFinding.toJson))) {f : RiskFinding} (listed : f ∈ fs)
    {made : String × Rule} (rule : ruleOf services captureId (RiskFinding.toJson f) = some made) :
    made.2.id ∈ ids (renderRules services report (some captureId)) := by
  have items : Navigator.fieldItems report "risk_findings" = fs.map RiskFinding.toJson := by
    simp only [Navigator.fieldItems, reported, Option.getD_some, itemsOf, Json.iterate]
  refine (renderRules_spec.2.1 _).mpr (List.mem_map.mpr ⟨made, ?_, rfl⟩)
  refine List.mem_append_left _ (List.mem_append_left _ (List.mem_filterMap.mpr ⟨RiskFinding.toJson f, ?_, rule⟩))
  rw [items]
  exact List.mem_map_of_mem listed

end Checks

/-- A rule selects the line of every conversation that its finding is made of, exactly if no
    more than two hosts write, no exposed conversation is with a host whose address begins as a
    private one, and no endpoint is blank. -/
theorem detects_iff (services : Sigma.Services) (tables : Tables) (formats : Formats) (surface : RiskSurface)
    (captureId : String) :
    Detects tables surface services formats captureId ↔ Selectable tables surface := by
  constructor
  · intro detects
    refine ⟨?_, fun conv listed exposed => ?_, fun conv listed crossing => ?_⟩
    · by_contra many
      obtain ⟨f, made, is, nodes⟩ := exists_writeSources (Nat.lt_of_not_le many)
      obtain ⟨source, written, some_⟩ : ∃ source ∈ writeSources surface, source ≠ "" := by
        by_contra blank
        push Not at blank
        have all : writeSources surface = List.replicate (writeSources surface).length "" :=
          List.eq_replicate_iff.mpr ⟨rfl, blank⟩
        have distinct : (writeSources surface).Nodup := List.nodup_dedup _
        rw [all, List.nodup_replicate] at distinct
        omega
      have contributor := written
      simp only [writeSources, List.mem_dedup, List.mem_map, List.mem_filter, decide_eq_true_eq] at contributor
      obtain ⟨conv, ⟨listed, writes⟩, rfl⟩ := contributor
      obtain ⟨rule, built, selects⟩ := selected_of_detects detects (mem_findings (.inr (.inr made))) is (by decide)
        listed (.inr (.inr ⟨rfl, writes⟩))
      obtain rfl := Option.some.inj built
      rw [selects_modbusWriteAnon (records_lineOf conv).origH ((records_lineOf conv).func writes), mem_nodesOf,
        nodes] at selects
      exact selects ⟨written, some_⟩
    · obtain ⟨f, made, is⟩ := exists_external listed exposed
      obtain ⟨rule, built, selects⟩ := selected_of_detects detects (mem_findings (.inl made)) is (by decide) listed
        (.inl ⟨rfl, exposed⟩)
      obtain rfl := Option.some.inj built
      rw [selects_icsExternalComms (records_lineOf conv).origH (records_lineOf conv).respH, mem_nodesOf] at selects
      exact ⟨selects.1.2, selects.2⟩
    · obtain ⟨f, made, is⟩ := exists_crossPurdue crossing
      obtain ⟨rule, built, selects⟩ := selected_of_detects detects (mem_findings (.inr (.inl made))) is (by decide) listed
        (.inr (.inl ⟨rfl, crossing⟩))
      have some_ : nodesOf services (RiskFinding.toJson f) ≠ [] := by
        intro none_
        rw [show build services "CROSS_PURDUE" _ captureId = none from if_pos none_] at built
        cases built
      obtain ⟨rule', built', selects_iff⟩ := @selects_crossPurdue services captureId _ some_
      obtain rfl : rule' = rule := Option.some.inj (built'.symm.trans built)
      obtain ⟨source, destination⟩ :=
        (selects_iff _ _ _ (records_lineOf conv).origH (records_lineOf conv).respH).mp selects
      exact ⟨(mem_nodesOf.mp source).2, (mem_nodesOf.mp destination).2⟩
  · intro selectable f made conv listed contributed
    have own : f.category ∈ eventCategories := by
      rcases contributed with ⟨is, -⟩ | ⟨is, -⟩ | ⟨is, -⟩
      all_goals
        rw [is]
        decide
    rcases mem_check made own with ⟨made, is⟩ | ⟨made, is⟩ | ⟨made, is⟩
    · have exposed : (exposure tables surface conv).isSome := by simpa [Contributed, is] using contributed
      obtain ⟨some_, public_⟩ := selectable.exposed conv listed exposed
      obtain ⟨named, rule, same⟩ := @detected_of_build services captureId _ _ is (by decide) _ rfl
      refine ⟨named, rule, fun event records => ?_⟩
      rw [same, selects_icsExternalComms records.origH records.respH, mem_nodesOf]
      exact ⟨⟨srcKey_mem_external made is listed exposed, some_⟩, public_⟩
    · have crossing : Crossing surface conv := by simpa [Contributed, is] using contributed
      obtain ⟨some_, some'⟩ := selectable.crossing conv listed crossing
      obtain ⟨source, destination⟩ := keys_mem_crossPurdue made crossing
      have source : conv.srcKey ∈ nodesOf services (RiskFinding.toJson f) := mem_nodesOf.mpr ⟨source, some_⟩
      obtain ⟨rule, built, selects_iff⟩ := @selects_crossPurdue services captureId _ (List.ne_nil_of_mem source)
      obtain ⟨named, rule, same⟩ := detected_of_build is (by decide) built
      refine ⟨named, rule, fun event records => ?_⟩
      rw [same, selects_iff event _ _ records.origH records.respH]
      exact ⟨source, mem_nodesOf.mpr ⟨destination, some'⟩⟩
    · have few := selectable.writers
      unfold checkWriteSources at made
      dsimp only at made
      rw [if_neg (by exact Nat.not_lt.mpr few)] at made
      cases made

/-! ### Writers, and a visitor -/

def plainServices : Sigma.Services where
  library := ⟨id, id, id, some, fun _ => ""⟩
  sha1 := id
  nowIsoDate := "2026/01/01"
  upper_emittable _ _ := rfl

/-- A packet to a controller, over Modbus. -/
def sent (src : String) (writes : Nat) : Conversation :=
  { srcIp := src, dstIp := "10.0.3.5", srcMac := "", dstMac := "", protocol := "Modbus TCP", port := 502, packetCount := 1
    bytesTotal := 66, firstSeen := "", lastSeen := "", modbusWrites := writes }

/-- Three hosts write to the controller. -/
def writers : RiskSurface :=
  { nodes := PyDict.empty, edges := [], conversations := ["10.0.3.7", "10.0.3.8", "10.0.3.9"].map fun src => sent src 1
    skipC2 := true, captureDuration := 60 }

/-- Tables in which 8.8.8.8 is a public address. -/
def publicTables : Tables :=
  { Topology.Levels.fewTables with
    net :=
      { address := fun ip => if ip = "8.8.8.8" then some ⟨.v4, 0x08080808⟩ else none
        network := fun _ => none
        isGlobal := fun _ => true } }

/-- A public host reads from the controller. -/
def visited : RiskSurface :=
  { nodes := nodesByKey [{ host "10.0.3.5" with protocols := ["Modbus TCP"] }], edges := []
    conversations := [sent "8.8.8.8" 0], skipC2 := true, captureDuration := 60 }

/-- The rule of the writers leaves out what they write, the one of the visitor its visit. -/
theorem rules_miss_evidence : ¬Detects publicTables writers plainServices plainFormats "capture" ∧
    ¬Detects publicTables visited plainServices plainFormats "capture" := by
  constructor
  · intro detects
    obtain ⟨f, made, is, nodes⟩ := @exists_writeSources writers (by decide)
    obtain ⟨rule, built, selects⟩ := selected_of_detects detects (mem_findings (.inr (.inr made))) is (by decide)
      (show sent "10.0.3.7" 1 ∈ _ from List.mem_cons_self) (.inr (.inr ⟨rfl, by decide⟩))
    obtain rfl := Option.some.inj built
    rw [selects_modbusWriteAnon (records_lineOf _).origH ((records_lineOf _).func (by decide)), mem_nodesOf,
      nodes] at selects
    exact selects ⟨by decide, by decide⟩
  · intro detects
    have exposed : (exposure publicTables visited (sent "8.8.8.8" 0)).isSome := by decide
    have listed : sent "8.8.8.8" 0 ∈ visited.conversations := List.mem_cons_self
    obtain ⟨f, made, is⟩ := exists_external listed exposed
    obtain ⟨rule, built, selects⟩ := selected_of_detects detects (mem_findings (.inl made)) is (by decide) listed
      (.inl ⟨rfl, exposed⟩)
    obtain rfl := Option.some.inj built
    rw [selects_icsExternalComms (records_lineOf _).origH (records_lineOf _).respH] at selects
    exact selects.2 "10." (by decide) (by decide)

end Marlinspike.Emit.Selections
