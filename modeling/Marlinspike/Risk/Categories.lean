import Marlinspike.Risk.Score

/-!
The categories of the findings. The checks of the risk surface have categories of their own
(`category_findings`), so that a category of another stage tells its findings apart.
-/
namespace Marlinspike.Risk.Categories
open Marlinspike.Topology.Graph
open Marlinspike.Topology.Profile
open Marlinspike.Risk.Surface
open Marlinspike.Risk.Score

/-- The categories of the risk surface, and the types of the indicators. -/
def categories : List String :=
  ["ICS_EXTERNAL_COMMS", "EXTERNAL_IPS_OBSERVED", "CROSS_PURDUE", "IEC62443_CONDUIT_VIOLATION", "MODBUS_WRITE_COIL",
   "CLEARTEXT_ENG", "MODBUS_WRITE_ANON", "OPC_NO_SECURITY", "S7_PROGRAM_ACCESS", "NO_AUTH_OBSERVED", "PORT_SCAN_TARGET",
   "CLEARTEXT_REMOTE_ACCESS", "UNKNOWN_SERVICE_PORT", "IT_SERVICE_ON_OT_DEVICE", "HIGH_PORT_SERVICE", "ASSET_EOL",
   "BASELINE_DEVIATION", "PLC_INTEGRITY", "CIP_LADDER_LOGIC_CHANGE", "MODBUS_WRITE_PLC", "DNP3_CONFIG_CHANGE",
   "OT_CONFIG_WRITE", "OT_THREAT_SIGNATURE", "BACNET_UNAUTH_WRITE", "PROFINET_DCP_SET", "DNP3_UNAUTH_CONTROL",
   "PLC_MODE_SHIFT_DETECTED", "DUAL_HOMED_ENDPOINT_SUSPECT", "LATERAL_MOVEMENT_SUSPECT", "OT_POLLING_BURST_ANOMALY",
   "WEAK_TLS_CIPHER_OBSERVED", "EXPIRED_TLS_CERTIFICATE", "SELF_SIGNED_TLS_CERTIFICATE", "MALFORMED_INDUSTRIAL_FRAME",
   "C2_BEACONING", "C2_DNS_EXFIL", "C2_DNS_TUNNEL_SUSPECT", "C2_DNS_HIGH_ENTROPY", "C2_SUSPECT_CHANNEL", "C2_DATA_EXFIL",
   "C2_PERSISTENCE"]

/-! ### Findings of known categories -/

def Known (found : List RiskFinding) : Prop := ∀ finding ∈ found, finding.category ∈ categories

theorem known_nil : Known [] := fun _ member => nomatch member

theorem known_one {finding : RiskFinding} (known : finding.category ∈ categories) : Known [finding] := by
  intro other member
  rw [List.mem_singleton.mp member]
  exact known

theorem known_append {first second : List RiskFinding} (known : Known first) (known' : Known second) :
    Known (first ++ second) := by
  intro finding member
  exact (List.mem_append.mp member).elim (known finding) (known' finding)

theorem known_ite {p : Prop} [Decidable p] {first second : List RiskFinding} (known : Known first) (known' : Known second) :
    Known (if p then first else second) := by
  split_ifs
  · exact known
  · exact known'

theorem known_map {α : Type} {items : List α} {make : α → RiskFinding} (known : ∀ item, (make item).category ∈ categories) :
    Known (items.map make) := by
  intro finding member
  obtain ⟨item, -, rfl⟩ := List.mem_map.mp member
  exact known item

theorem known_flatMap {α : Type} {items : List α} {make : α → List RiskFinding} (known : ∀ item, Known (make item)) :
    Known (items.flatMap make) := by
  intro finding member
  obtain ⟨item, -, inside⟩ := List.mem_flatMap.mp member
  exact known item finding inside

section Checks
variable (tables : Tables) (formats : Formats) (surface : RiskSurface)

/-! ### The checks -/

theorem known_unless {p : Prop} [Decidable p] {finding : RiskFinding} (known : finding.category ∈ categories) :
    Known (if p then [] else [finding]) := known_ite known_nil (known_one known)

theorem known_when {p : Prop} [Decidable p] {finding : RiskFinding} (known : finding.category ∈ categories) :
    Known (if p then [finding] else []) := known_ite (known_one known) known_nil

theorem known_onOperations (conv : Conversation) (words : List String) {finding : String → RiskFinding}
    (known : ∀ op, (finding op).category ∈ categories) : Known (onOperations tables conv words finding) := known_map known

theorem known_checkExternalComms : Known (checkExternalComms tables surface) :=
  known_append (known_unless (by simp [categories])) (known_unless (by simp [categories]))

theorem known_checkCrossPurdue : Known (checkCrossPurdue surface) := known_unless (by simp [categories])

theorem known_checkCleartextEngineering : Known (checkCleartextEngineering surface) := known_unless (by simp [categories])

theorem known_checkWriteSources : Known (checkWriteSources surface) := known_when (by simp [categories])

theorem known_checkOpcSecurity : Known (checkOpcSecurity surface) := known_unless (by simp [categories])

theorem known_checkProgramAccess : Known (checkProgramAccess surface) := known_unless (by simp [categories])

theorem known_checkNoAuth : Known (checkNoAuth tables formats surface) := known_unless (by simp [categories])

theorem known_portsOf (key : String) (node : ProfiledNode) : Known (portsOf key node) := by
  refine known_append (known_append (known_append ?_ (known_ite ?_ ?_)) ?_) (known_ite (known_ite ?_ known_nil) ?_)
  · exact known_map fun sp => by simp [categories]
  · exact known_one (by simp [categories, scanTarget])
  · exact known_map fun sp => by simp [categories]
  · exact known_map fun sp => by simp [categories]
  · exact known_one (by simp [categories, scanTarget])
  · exact known_map fun sp => by simp [categories]

theorem known_checkConduitAndCommandAnomalies : Known (checkConduitAndCommandAnomalies surface) :=
  known_append (known_unless (by simp [categories])) (known_unless (by simp [categories]))

theorem known_baselineDeviations (conv : Conversation) : Known (baselineDeviations surface conv) := by
  unfold baselineDeviations
  split
  · exact known_append (known_when (by simp [categories])) (known_when (by simp [categories]))
  · exact known_nil

theorem known_identityFindings (ip : String) (cip : CipIdentity) : Known (identityFindings ip cip) :=
  known_append (known_when (by simp [categories])) (known_when (by simp [categories]))

theorem known_plcFindings (ip : String) (conv : Conversation) : Known (plcFindings tables ip conv) := by
  refine known_append (known_append (known_append (known_append ?_ ?_) ?_) ?_) ?_
  · split
    · exact known_identityFindings ip _
    · exact known_nil
  · exact known_ite (known_onOperations tables conv _ fun op => by simp [categories]) known_nil
  · exact known_when (by simp [categories])
  · exact known_ite (known_onOperations tables conv _ fun op => by simp [categories]) known_nil
  · exact known_ite (known_onOperations tables conv _ fun op => by simp [categories]) known_nil

theorem known_threatSignatures (conv : Conversation) : Known (threatSignatures conv) :=
  known_append (known_append (known_when (by simp [categories])) (known_when (by simp [categories])))
    (known_when (by simp [categories]))

theorem known_checkEolStatus : Known (checkEolStatus tables surface) :=
  known_flatMap fun item => known_ite known_nil (known_map fun eol => by simp [categories])

theorem known_advancedProtocols (conv : Conversation) : Known (advancedProtocols tables conv) := by
  refine known_append (known_append ?_ ?_) ?_
  · exact known_ite (known_onOperations tables conv _ fun op => by simp [categories]) known_nil
  · exact known_ite (known_onOperations tables conv _ fun op => by simp [categories]) known_nil
  · exact known_ite (known_onOperations tables conv _ fun op => by simp [categories]) known_nil

theorem known_lateralMovement (conv : Conversation) : Known (lateralMovement surface conv) := by
  unfold lateralMovement
  split
  · exact known_nil
  · exact known_when (by simp [categories])

theorem known_tlsFindings (conv : Conversation) : Known (tlsFindings tables conv) :=
  known_ite (known_append (known_append (known_when (by simp [categories])) (known_when (by simp [categories])))
    (known_when (by simp [categories]))) known_nil

theorem known_checkPlcStateShifts : Known (checkPlcStateShifts tables surface) :=
  known_map fun conv => by simp [categories]

theorem known_checkRogueAndDualHomed : Known (checkRogueAndDualHomed surface) :=
  known_map fun item => by simp [categories]

theorem known_checkPollingJitterAndBursts : Known (checkPollingJitterAndBursts tables surface) :=
  known_map fun conv => by simp [categories]

theorem known_checkProtocolConformance : Known (checkProtocolConformance tables surface) :=
  known_map fun conv => by simp [categories]

theorem known_checkPortAnalysis : Known (checkPortAnalysis surface) :=
  known_flatMap fun item => known_portsOf item.1 item.2

theorem known_checkBaselineDeviations : Known (checkBaselineDeviations surface) :=
  known_flatMap (known_baselineDeviations surface)

theorem known_checkPlcIntegrity : Known (checkPlcIntegrity tables surface) :=
  known_flatMap fun item => known_flatMap (known_plcFindings tables item.2.ip)

theorem known_checkOtThreatSignatures : Known (checkOtThreatSignatures surface) :=
  known_flatMap known_threatSignatures

theorem known_checkAdvancedProtocols : Known (checkAdvancedProtocols tables surface) :=
  known_flatMap (known_advancedProtocols tables)

theorem known_checkPurdueLeakAndLateralMovement : Known (checkPurdueLeakAndLateralMovement surface) :=
  known_flatMap (known_lateralMovement surface)

theorem known_checkPassiveTlsSecurity : Known (checkPassiveTlsSecurity tables surface) :=
  known_flatMap (known_tlsFindings tables)

/-! ### The indicators -/

def Typed (alerts : List Alert) : Prop := ∀ alert ∈ alerts, alert.indicator.type ∈ categories

theorem typed_nil : Typed [] := fun _ member => nomatch member

theorem typed_one {alert : Alert} (typed : alert.indicator.type ∈ categories) : Typed [alert] := by
  intro other member
  rw [List.mem_singleton.mp member]
  exact typed

theorem typed_ite {p : Prop} [Decidable p] {first second : List Alert} (typed : Typed first) (typed' : Typed second) :
    Typed (if p then first else second) := by
  split_ifs
  · exact typed
  · exact typed'

theorem typed_append {first second : List Alert} (typed : Typed first) (typed' : Typed second) : Typed (first ++ second) := by
  intro alert member
  exact (List.mem_append.mp member).elim (typed alert) (typed' alert)

theorem typed_flatMap {α : Type} {items : List α} {make : α → List Alert} (typed : ∀ item, Typed (make item)) :
    Typed (items.flatMap make) := by
  intro alert member
  obtain ⟨item, -, inside⟩ := List.mem_flatMap.mp member
  exact typed item alert inside

theorem typed_checkBeacon (conv : Conversation) : Typed (checkBeacon tables formats conv) :=
  typed_ite (typed_ite (typed_one (by simp [categories])) (typed_ite (typed_one (by simp [categories])) typed_nil)) typed_nil

theorem typed_checkDomain (conv : Conversation) (base : String) (uniqueCount : Nat) :
    Typed (checkDomain formats conv base uniqueCount) :=
  typed_ite (typed_one (by simp [categories])) (typed_ite (typed_one (by simp [categories])) typed_nil)

theorem typed_checkDns (before : List Alert) (conv : Conversation) : Typed (checkDns formats before conv) :=
  typed_ite typed_nil (typed_append (typed_flatMap fun item => typed_checkDomain formats conv _ _)
    (typed_ite (typed_one (by simp [categories])) typed_nil))

theorem typed_checkChannel (conv : Conversation) : Typed (checkChannel tables surface conv) :=
  typed_ite (typed_one (by simp [categories])) typed_nil

theorem typed_checkConversations : Typed (checkConversations tables formats surface) := by
  unfold checkConversations
  -- Each conversation adds its alerts to those before it.
  have step : ∀ (conversations : List Conversation) (alerts : List Alert), Typed alerts →
      Typed (conversations.foldl (fun alerts conv =>
        (alerts ++ checkBeacon tables formats conv) ++
          checkDns formats (alerts ++ checkBeacon tables formats conv) conv ++ checkChannel tables surface conv) alerts) := by
    intro conversations
    induction conversations with
    | nil => intro alerts typed; exact typed
    | cons conv rest ih =>
      intro alerts typed
      refine ih _ (typed_append (typed_append (typed_append typed ?_) ?_) ?_)
      · exact typed_checkBeacon tables formats conv
      · exact typed_checkDns formats _ conv
      · exact typed_checkChannel tables surface conv
  exact step surface.conversations [] typed_nil

theorem typed_checkFlow (src dst : String) (outBytes inBytes : Nat) :
    Typed (checkFlow tables formats surface src dst outBytes inBytes) :=
  typed_ite (typed_one (by simp [categories])) typed_nil

theorem typed_checkPersistence (conv : Conversation) : Typed (checkPersistence tables formats surface conv) :=
  typed_ite (typed_one (by simp [categories])) typed_nil

theorem typed_checkC2Indicators : Typed (checkC2Indicators tables formats surface) := by
  refine typed_ite typed_nil (typed_append (typed_append ?_ ?_) ?_)
  · exact typed_checkConversations tables formats surface
  · exact typed_flatMap fun item => typed_append (typed_checkFlow tables formats surface _ _ _ _)
      (typed_checkFlow tables formats surface _ _ _ _)
  · exact typed_flatMap fun conv => typed_checkPersistence tables formats surface conv

theorem known_findings_of_typed {alerts : List Alert} (typed : Typed alerts) : Known (alerts.map Alert.finding) := by
  intro finding member
  obtain ⟨alert, inside, rfl⟩ := List.mem_map.mp member
  exact typed alert inside

/-- Every finding of the risk surface is of one of its categories. -/
theorem category_findings : Known (findings tables formats surface) := by
  refine known_append ?_ (known_findings_of_typed (typed_checkC2Indicators tables formats surface))
  refine known_append ?_ (known_checkProtocolConformance tables surface)
  refine known_append ?_ (known_checkPassiveTlsSecurity tables surface)
  refine known_append ?_ (known_checkPollingJitterAndBursts tables surface)
  refine known_append ?_ (known_checkPurdueLeakAndLateralMovement surface)
  refine known_append ?_ (known_checkRogueAndDualHomed surface)
  refine known_append ?_ (known_checkPlcStateShifts tables surface)
  refine known_append ?_ (known_checkAdvancedProtocols tables surface)
  refine known_append ?_ (known_checkEolStatus tables surface)
  refine known_append ?_ (known_checkOtThreatSignatures surface)
  refine known_append ?_ (known_checkPlcIntegrity tables surface)
  refine known_append ?_ (known_checkBaselineDeviations surface)
  refine known_append ?_ (known_checkConduitAndCommandAnomalies surface)
  refine known_append ?_ (known_checkPortAnalysis surface)
  refine known_append ?_ (known_checkProgramAccess surface)
  refine known_append ?_ (known_checkOpcSecurity surface)
  refine known_append ?_ (known_checkNoAuth tables formats surface)
  refine known_append ?_ (known_checkWriteSources surface)
  refine known_append ?_ (known_checkCleartextEngineering surface)
  refine known_append ?_ (known_checkCrossPurdue surface)
  exact known_checkExternalComms tables surface

end Checks

end Marlinspike.Risk.Categories
