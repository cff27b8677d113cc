import Mathlib.Data.List.Flatten
import Mathlib.Tactic.Ring
import Marlinspike.Risk.Score

/-!
The risk surface without its conversations: it has the same targets and the same zone
violations, and the same findings exactly if no check finds anything in the conversations
(`findings_silenced_iff`).
-/
namespace Marlinspike.Risk.Conversations
open Marlinspike.Topology.Graph
open Marlinspike.Topology.Profile
open Marlinspike.Risk.Surface
open Marlinspike.Risk.Score

/-- The surface without the conversations and the duration of their capture. -/
def RiskSurface.silenced (surface : RiskSurface) : RiskSurface :=
  { surface with conversations := [], captureDuration := 0 }

section Silent
variable (tables : Tables) (formats : Formats) (surface : RiskSurface)

/-- A controller with an address that a conversation goes from or to. -/
def Controls (ip : String) (conv : Conversation) : Prop :=
  (∃ item ∈ surface.nodes.items, item.2.role = "Programmable Logic Controller" ∧ item.2.ip ≠ "" ∧ item.2.ip = ip) ∧
    (conv.srcIp = ip ∨ conv.dstIp = ip)

/-- A conversation that no check of its own takes exception to. -/
structure Unremarkable (conv : Conversation) : Prop where
  unexposed : exposure tables surface conv = none
  writes : conv.modbusWrites = 0
  programs : conv.s7ProgramAccess = false
  sessions : (within "OPC-UA" conv.protocol && conv.opcNoSecurity) = false
  baseline : baselineDeviations surface conv = []
  controllers : ∀ ip, Controls surface ip conv → plcFindings tables ip conv = []
  signatures : threatSignatures conv = []
  advanced : advancedProtocols tables conv = []
  stops : isStop tables conv = false
  lateral : lateralMovement surface conv = []
  bursts : isPollingBurst tables conv = false
  tls : tlsFindings tables conv = []
  formed : isMalformed tables conv = false

/-- A conversation without a sign of command and control. -/
structure Inconspicuous (conv : Conversation) : Prop where
  beacon : checkBeacon tables formats conv = []
  dns : checkDns formats [] conv = []
  channel : checkChannel tables surface conv = []
  persistence : checkPersistence tables formats surface conv = []

/-- Nothing to be found in the conversations. -/
structure Silent : Prop where
  unremarkable : ∀ conv ∈ surface.conversations, Unremarkable tables surface conv
  singleHomed : ∀ item ∈ (macToSubnets surface.conversations).items, item.2.length ≤ 1
  inconspicuous : surface.skipC2 = false →
    (∀ conv ∈ surface.conversations, Inconspicuous tables formats surface conv) ∧
      checkFlows tables formats surface = []

/-! ### What each check finds in the conversations -/

variable {tables formats surface}

theorem found_eq_nil {α : Type} {values : List α} {p : α → Bool} {finding : RiskFinding} :
    (if values.filter p = [] then [] else [finding]) = [] ↔ ∀ value ∈ values, p value = false := by
  split_ifs with none_
  · simpa using none_
  · simpa using none_

theorem exposures_eq_nil : (surface.conversations.filter fun conv => (exposure tables surface conv).isSome) = [] ↔
    ∀ conv ∈ surface.conversations, exposure tables surface conv = none := by
  simp [List.filter_eq_nil_iff]

theorem checkModbusWrites_eq_nil :
    checkModbusWrites surface = [] ↔ ∀ conv ∈ surface.conversations, conv.modbusWrites = 0 := by
  unfold checkModbusWrites
  simp only [found_eq_nil]
  simp

theorem checkProgramAccess_eq_nil :
    checkProgramAccess surface = [] ↔ ∀ conv ∈ surface.conversations, conv.s7ProgramAccess = false := by
  unfold checkProgramAccess
  exact found_eq_nil

theorem checkOpcSecurity_eq_nil : checkOpcSecurity surface = [] ↔
    ∀ conv ∈ surface.conversations, (within "OPC-UA" conv.protocol && conv.opcNoSecurity) = false := by
  unfold checkOpcSecurity
  exact found_eq_nil

/-- Without writes and program accesses there is no engineering traffic. -/
theorem checkCleartextEngineering_eq_nil (writes : ∀ conv ∈ surface.conversations, conv.modbusWrites = 0)
    (programs : ∀ conv ∈ surface.conversations, conv.s7ProgramAccess = false) :
    checkCleartextEngineering surface = [] := by
  unfold checkCleartextEngineering
  refine found_eq_nil.mpr fun conv member => ?_
  simp [writes conv member, programs conv member]

theorem checkWriteSources_eq_nil (writes : ∀ conv ∈ surface.conversations, conv.modbusWrites = 0) :
    checkWriteSources surface = [] := by
  have none_ : (surface.conversations.filter fun conv => 0 < conv.modbusWrites) = [] := by
    rw [List.filter_eq_nil_iff]
    intro conv member
    simp [writes conv member]
  unfold checkWriteSources
  rw [none_]
  rfl

theorem checkPlcIntegrity_eq_nil : checkPlcIntegrity tables surface = [] ↔
    ∀ conv ∈ surface.conversations, ∀ ip, Controls surface ip conv → plcFindings tables ip conv = [] := by
  unfold checkPlcIntegrity Controls
  simp only [List.flatMap_eq_nil_iff, List.mem_filter, decide_eq_true_eq]
  constructor
  · rintro none_ conv member ip ⟨⟨item, inside, role, named, rfl⟩, touches⟩
    exact none_ item ⟨inside, role, named⟩ conv ⟨member, touches⟩
  · rintro none_ item ⟨inside, role, named⟩ conv ⟨member, touches⟩
    exact none_ conv member item.2.ip ⟨⟨item, inside, role, named, rfl⟩, touches⟩

theorem checkPlcStateShifts_eq_nil : checkPlcStateShifts tables surface = [] ↔
    ∀ conv ∈ surface.conversations, isStop tables conv = false := by
  simp [checkPlcStateShifts, List.filter_eq_nil_iff]

theorem checkRogueAndDualHomed_eq_nil : checkRogueAndDualHomed surface = [] ↔
    ∀ item ∈ (macToSubnets surface.conversations).items, item.2.length ≤ 1 := by
  simp [checkRogueAndDualHomed, List.filter_eq_nil_iff]

theorem checkPollingJitterAndBursts_eq_nil : checkPollingJitterAndBursts tables surface = [] ↔
    ∀ conv ∈ surface.conversations, isPollingBurst tables conv = false := by
  simp [checkPollingJitterAndBursts, List.filter_eq_nil_iff]

theorem checkProtocolConformance_eq_nil : checkProtocolConformance tables surface = [] ↔
    ∀ conv ∈ surface.conversations, isMalformed tables conv = false := by
  simp [checkProtocolConformance, List.filter_eq_nil_iff]

/-- An alert of a conversation stays, and changes what the later ones are checked for. -/
theorem conversationAlerts_eq_nil (conversations : List Conversation) (alerts : List Alert) :
    conversations.foldl
        (fun alerts conv =>
          let beacons := alerts ++ checkBeacon tables formats conv
          beacons ++ checkDns formats beacons conv ++ checkChannel tables surface conv) alerts = [] ↔
      alerts = [] ∧ ∀ conv ∈ conversations, checkBeacon tables formats conv = [] ∧ checkDns formats [] conv = [] ∧
        checkChannel tables surface conv = [] := by
  induction conversations generalizing alerts with
  | nil => simp
  | cons conv rest ih =>
    rw [List.foldl_cons, ih]
    simp only [List.append_eq_nil_iff, List.forall_mem_cons]
    constructor
    · rintro ⟨⟨⟨⟨none_, beacon⟩, dns⟩, channel⟩, later⟩
      rw [none_, beacon] at dns
      exact ⟨none_, ⟨beacon, dns, channel⟩, later⟩
    · rintro ⟨none_, ⟨beacon, dns, channel⟩, later⟩
      refine ⟨⟨⟨⟨none_, beacon⟩, ?_⟩, channel⟩, later⟩
      rwa [none_, beacon]

theorem checkC2Indicators_eq_nil : checkC2Indicators tables formats surface = [] ↔ (surface.skipC2 = false →
    (∀ conv ∈ surface.conversations, Inconspicuous tables formats surface conv) ∧
      checkFlows tables formats surface = []) := by
  unfold checkC2Indicators
  cases surface.skipC2 with
  | true => simp
  | false =>
    simp only [Bool.false_eq_true, if_false, forall_const, List.append_eq_nil_iff, List.flatMap_eq_nil_iff]
    rw [checkConversations, conversationAlerts_eq_nil]
    constructor
    · rintro ⟨⟨⟨-, conversations⟩, flows⟩, persistence⟩
      refine ⟨fun conv member => ?_, flows⟩
      obtain ⟨beacon, dns, channel⟩ := conversations conv member
      exact ⟨beacon, dns, channel, persistence conv member⟩
    · rintro ⟨inconspicuous, flows⟩
      refine ⟨⟨⟨rfl, fun conv member => ?_⟩, flows⟩, fun conv member => (inconspicuous conv member).persistence⟩
      exact ⟨(inconspicuous conv member).beacon, (inconspicuous conv member).dns, (inconspicuous conv member).channel⟩

/-! ### All checks -/

/-- No check finds anything in the conversations. -/
structure NothingFound (tables : Tables) (formats : Formats) (surface : RiskSurface) : Prop where
  exposures : ∀ conv ∈ surface.conversations, exposure tables surface conv = none
  cleartext : checkCleartextEngineering surface = []
  sources : checkWriteSources surface = []
  sessions : checkOpcSecurity surface = []
  programs : checkProgramAccess surface = []
  writes : checkModbusWrites surface = []
  baseline : checkBaselineDeviations surface = []
  controllers : checkPlcIntegrity tables surface = []
  signatures : checkOtThreatSignatures surface = []
  advanced : checkAdvancedProtocols tables surface = []
  stops : checkPlcStateShifts tables surface = []
  homes : checkRogueAndDualHomed surface = []
  lateral : checkPurdueLeakAndLateralMovement surface = []
  bursts : checkPollingJitterAndBursts tables surface = []
  tls : checkPassiveTlsSecurity tables surface = []
  formed : checkProtocolConformance tables surface = []
  c2 : checkC2Indicators tables formats surface = []

theorem nothingFound_iff : NothingFound tables formats surface ↔ Silent tables formats surface := by
  constructor
  · intro found
    refine ⟨fun conv member => ?_, checkRogueAndDualHomed_eq_nil.mp found.homes, checkC2Indicators_eq_nil.mp found.c2⟩
    exact
      { unexposed := found.exposures conv member
        writes := checkModbusWrites_eq_nil.mp found.writes conv member
        programs := checkProgramAccess_eq_nil.mp found.programs conv member
        sessions := checkOpcSecurity_eq_nil.mp found.sessions conv member
        baseline := List.flatMap_eq_nil_iff.mp found.baseline conv member
        controllers := checkPlcIntegrity_eq_nil.mp found.controllers conv member
        signatures := List.flatMap_eq_nil_iff.mp found.signatures conv member
        advanced := List.flatMap_eq_nil_iff.mp found.advanced conv member
        stops := checkPlcStateShifts_eq_nil.mp found.stops conv member
        lateral := List.flatMap_eq_nil_iff.mp found.lateral conv member
        bursts := checkPollingJitterAndBursts_eq_nil.mp found.bursts conv member
        tls := List.flatMap_eq_nil_iff.mp found.tls conv member
        formed := checkProtocolConformance_eq_nil.mp found.formed conv member }
  · rintro ⟨unremarkable, singleHomed, inconspicuous⟩
    have writes conv member := (unremarkable conv member).writes
    have programs conv member := (unremarkable conv member).programs
    exact
      { exposures := fun conv member => (unremarkable conv member).unexposed
        cleartext := checkCleartextEngineering_eq_nil writes programs
        sources := checkWriteSources_eq_nil writes
        sessions := checkOpcSecurity_eq_nil.mpr fun conv member => (unremarkable conv member).sessions
        programs := checkProgramAccess_eq_nil.mpr programs
        writes := checkModbusWrites_eq_nil.mpr writes
        baseline := List.flatMap_eq_nil_iff.mpr fun conv member => (unremarkable conv member).baseline
        controllers := checkPlcIntegrity_eq_nil.mpr fun conv member => (unremarkable conv member).controllers
        signatures := List.flatMap_eq_nil_iff.mpr fun conv member => (unremarkable conv member).signatures
        advanced := List.flatMap_eq_nil_iff.mpr fun conv member => (unremarkable conv member).advanced
        stops := checkPlcStateShifts_eq_nil.mpr fun conv member => (unremarkable conv member).stops
        homes := checkRogueAndDualHomed_eq_nil.mpr singleHomed
        lateral := List.flatMap_eq_nil_iff.mpr fun conv member => (unremarkable conv member).lateral
        bursts := checkPollingJitterAndBursts_eq_nil.mpr fun conv member => (unremarkable conv member).bursts
        tls := List.flatMap_eq_nil_iff.mpr fun conv member => (unremarkable conv member).tls
        formed := checkProtocolConformance_eq_nil.mpr fun conv member => (unremarkable conv member).formed
        c2 := checkC2Indicators_eq_nil.mpr inconspicuous }

/-- The findings that are read off the topology. -/
def topologyFindings (tables : Tables) (formats : Formats) (surface : RiskSurface) : List RiskFinding :=
  checkCrossPurdue surface ++ checkNoAuth tables formats surface ++ checkPortAnalysis surface ++
    checkConduits surface ++ checkEolStatus tables surface

@[simp] theorem conversations_silenced : (RiskSurface.silenced surface).conversations = [] := rfl

theorem silent_silenced : Silent tables formats (RiskSurface.silenced surface) where
  unremarkable := by simp
  singleHomed := by simp [macToSubnets, PyDict.empty]
  inconspicuous _ := by simp [checkFlows, flowPairs, PyDict.empty]

/-- Where nothing is found in the conversations, only the topology is left. -/
theorem findings_of_nothingFound (found : NothingFound tables formats surface) : findings tables formats surface =
    checkExternalComms tables surface ++ topologyFindings tables formats surface := by
  unfold findings checkConduitAndCommandAnomalies topologyFindings
  rw [found.cleartext, found.sources, found.sessions, found.programs, found.writes, found.baseline, found.controllers,
    found.signatures, found.advanced, found.stops, found.homes, found.lateral, found.bursts, found.tls, found.formed,
    found.c2]
  simp only [List.append_nil, List.map_nil, List.append_assoc]

theorem checkExternalComms_of_unexposed
    (unexposed : ∀ conv ∈ surface.conversations, exposure tables surface conv = none) :
    checkExternalComms tables surface = checkExternalComms tables (RiskSurface.silenced surface) := by
  have none_ : surface.conversations.filterMap (exposure tables surface) = [] := List.filterMap_eq_nil_iff.mpr unexposed
  unfold checkExternalComms externalIps
  rw [exposures_eq_nil.mpr unexposed, none_]
  rfl

/-! ### The converse -/

theorem eq_of_mem_unless {p : Prop} [Decidable p] {finding made : RiskFinding}
    (member : finding ∈ if p then [] else [made]) : finding = made := by
  split_ifs at member
  · cases member
  · exact List.mem_singleton.mp member

theorem category_portsOf {key : String} {node : ProfiledNode} {finding : RiskFinding}
    (made : finding ∈ portsOf key node) : finding.category ≠ "ICS_EXTERNAL_COMMS" := by
  simp only [portsOf, List.mem_append] at made
  rcases made with ((cleartext | unknown) | itOnOt) | high
  · obtain ⟨port, -, rfl⟩ := List.mem_map.mp cleartext
    simp
  · split_ifs at unknown
    · cases List.mem_singleton.mp unknown
      simp [scanTarget]
    · obtain ⟨port, -, rfl⟩ := List.mem_map.mp unknown
      simp
  · obtain ⟨port, -, rfl⟩ := List.mem_map.mp itOnOt
    simp
  · split_ifs at high
    · cases List.mem_singleton.mp high
      simp [scanTarget]
    · cases high
    · obtain ⟨port, -, rfl⟩ := List.mem_map.mp high
      simp

/-- No check of the topology makes the finding that exposes assets. -/
theorem category_topologyFindings {finding : RiskFinding} (made : finding ∈ topologyFindings tables formats surface) :
    finding.category ≠ "ICS_EXTERNAL_COMMS" := by
  simp only [topologyFindings, List.mem_append] at made
  rcases made with (((crossed | unauth) | ports) | conduits) | eol
  · rw [eq_of_mem_unless crossed]
    simp
  · rw [eq_of_mem_unless unauth]
    simp
  · obtain ⟨item, -, listed⟩ := List.mem_flatMap.mp ports
    exact category_portsOf listed
  · rw [eq_of_mem_unless conduits]
    simp
  · obtain ⟨item, -, listed⟩ := List.mem_flatMap.mp eol
    split_ifs at listed
    · cases listed
    · obtain ⟨line, -, rfl⟩ := List.mem_map.mp listed
      simp

theorem category_checkExternalComms_silenced {finding : RiskFinding}
    (made : finding ∈ checkExternalComms tables (RiskSurface.silenced surface)) :
    finding.category ≠ "ICS_EXTERNAL_COMMS" := by
  simp only [checkExternalComms, conversations_silenced, List.filter_nil, if_true, List.nil_append] at made
  split_ifs at made
  · cases made
  · cases List.mem_singleton.mp made
    simp

theorem exposed_mem_findings {conv : Conversation} (member : conv ∈ surface.conversations)
    (exposed : exposure tables surface conv ≠ none) :
    ∃ finding ∈ findings tables formats surface, finding.category = "ICS_EXTERNAL_COMMS" := by
  have some_ : (surface.conversations.filter fun conv => (exposure tables surface conv).isSome) ≠ [] := by
    intro none_
    exact exposed (exposures_eq_nil.mp none_ conv member)
  have made : ∃ finding ∈ checkExternalComms tables surface, finding.category = "ICS_EXTERNAL_COMMS" := by
    dsimp only [checkExternalComms]
    rw [if_neg some_]
    exact ⟨_, List.mem_append_left _ (List.mem_singleton_self _), rfl⟩
  obtain ⟨finding, made, category⟩ := made
  refine ⟨finding, ?_, category⟩
  unfold findings
  simp only [List.append_assoc]
  exact List.mem_append_left _ made

/-- How many findings there are of the conversations alone. -/
def conversationCount (tables : Tables) (formats : Formats) (surface : RiskSurface) : Nat :=
  (checkCleartextEngineering surface).length + (checkWriteSources surface).length + (checkOpcSecurity surface).length +
    (checkProgramAccess surface).length + (checkModbusWrites surface).length +
    (checkBaselineDeviations surface).length + (checkPlcIntegrity tables surface).length +
    (checkOtThreatSignatures surface).length + (checkAdvancedProtocols tables surface).length +
    (checkPlcStateShifts tables surface).length + (checkRogueAndDualHomed surface).length +
    (checkPurdueLeakAndLateralMovement surface).length + (checkPollingJitterAndBursts tables surface).length +
    (checkPassiveTlsSecurity tables surface).length + (checkProtocolConformance tables surface).length +
    (checkC2Indicators tables formats surface).length

theorem length_findings : (findings tables formats surface).length =
    (checkExternalComms tables surface).length + (topologyFindings tables formats surface).length +
      conversationCount tables formats surface := by
  unfold findings checkConduitAndCommandAnomalies topologyFindings conversationCount
  simp only [List.length_append, List.length_map]
  ring

theorem nothingFound_of_count (unexposed : ∀ conv ∈ surface.conversations, exposure tables surface conv = none)
    (none_ : conversationCount tables formats surface = 0) : NothingFound tables formats surface := by
  unfold conversationCount at none_
  constructor
  · exact unexposed
  all_goals
    apply List.eq_nil_of_length_eq_zero
    omega

/-- The conversations add nothing to the findings exactly if they are silent. -/
theorem findings_silenced_iff :
    findings tables formats surface = findings tables formats (RiskSurface.silenced surface) ↔
      Silent tables formats surface := by
  have alone : findings tables formats (RiskSurface.silenced surface) =
      checkExternalComms tables (RiskSurface.silenced surface) ++ topologyFindings tables formats surface :=
    findings_of_nothingFound (nothingFound_iff.mpr silent_silenced)
  constructor
  · intro same
    have unexposed : ∀ conv ∈ surface.conversations, exposure tables surface conv = none := by
      intro conv member
      by_contra exposed
      obtain ⟨finding, made, category⟩ := @exposed_mem_findings tables formats surface conv member exposed
      rw [same, alone, List.mem_append] at made
      rcases made with external | topology
      · exact category_checkExternalComms_silenced external category
      · exact category_topologyFindings topology category
    have lengths := congrArg List.length same
    rw [alone, length_findings, List.length_append, checkExternalComms_of_unexposed unexposed] at lengths
    exact nothingFound_iff.mp (nothingFound_of_count unexposed (by omega))
  · intro silent
    have found := nothingFound_iff.mpr silent
    rw [alone, findings_of_nothingFound found, checkExternalComms_of_unexposed found.exposures]

end Silent

end Marlinspike.Risk.Conversations
