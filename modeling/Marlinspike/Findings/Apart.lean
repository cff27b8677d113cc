import Marlinspike.Findings.Identity
import Marlinspike.Risk.Score
import Marlinspike.Topology.Levels

/-!
Which findings of a report are told apart by the key of the roll-up and the signature of the
notes. Both leave the description out, and the checks of services, operations and single
conversations make several findings of the same nodes; those share an entry and its notes.
All other checks make at most one finding of the same nodes (`findings_told`).
-/
namespace Marlinspike.Findings.Apart
open Marlinspike.Reports (Library)
open Marlinspike.Reports.Aggregate (findingKey)
open Marlinspike.Findings.Identity
open Marlinspike.Topology.Graph
open Marlinspike.Topology.Profile
open Marlinspike.Risk.Surface
open Marlinspike.Risk.Score

/-- The categories of which there may be several findings of the same nodes: of services,
    operations and conversations, and of the lines of old products. -/
def sharedCategories : List String :=
  ["CLEARTEXT_REMOTE_ACCESS", "UNKNOWN_SERVICE_PORT", "IT_SERVICE_ON_OT_DEVICE", "HIGH_PORT_SERVICE", "ASSET_EOL",
   "BASELINE_DEVIATION", "PLC_INTEGRITY", "CIP_LADDER_LOGIC_CHANGE", "MODBUS_WRITE_PLC", "DNP3_CONFIG_CHANGE",
   "OT_CONFIG_WRITE", "OT_THREAT_SIGNATURE", "BACNET_UNAUTH_WRITE", "PROFINET_DCP_SET", "DNP3_UNAUTH_CONTROL",
   "PLC_MODE_SHIFT_DETECTED", "LATERAL_MOVEMENT_SUSPECT", "OT_POLLING_BURST_ANOMALY", "WEAK_TLS_CIPHER_OBSERVED",
   "EXPIRED_TLS_CERTIFICATE", "SELF_SIGNED_TLS_CERTIFICATE", "MALFORMED_INDUSTRIAL_FRAME", "C2_BEACONING",
   "C2_DNS_EXFIL", "C2_DNS_TUNNEL_SUSPECT", "C2_DNS_HIGH_ENTROPY", "C2_SUSPECT_CHANNEL", "C2_PERSISTENCE"]

/-! ### Lists of findings that are told apart -/

/-- Of the categories that are not shared, the list has findings of these only, and no two
    findings of the same category with the same nodes. -/
structure Told (categories : List String) (fs : List RiskFinding) : Prop where
  made : ∀ f ∈ fs, f.category ∉ sharedCategories → f.category ∈ categories
  apart : ∀ f ∈ fs, ∀ g ∈ fs, f.category = g.category → f.category ∉ sharedCategories →
    f.affectedNodes.Perm g.affectedNodes → f = g

theorem told_nil : Told [] [] := ⟨nofun, nofun⟩

theorem told_shared {fs : List RiskFinding} (shared : ∀ f ∈ fs, f.category ∈ sharedCategories) : Told [] fs where
  made f member own := absurd (shared f member) own
  apart f member _ _ _ own _ := absurd (shared f member) own

theorem told_singleton {f : RiskFinding} {category : String} (same : f.category = category) : Told [category] [f] where
  made g member _ := by
    rw [List.mem_singleton.mp member, same]
    exact List.mem_cons_self
  apart g member h member' _ _ _ := by rw [List.mem_singleton.mp member, List.mem_singleton.mp member']

theorem Told.mono {categories categories' : List String} {fs : List RiskFinding} (told : Told categories fs)
    (more : categories ⊆ categories') : Told categories' fs :=
  ⟨fun f member own => more (told.made f member own), told.apart⟩

/-- A check that makes one finding or none. -/
theorem told_unless {p : Prop} [Decidable p] {f : RiskFinding} {category : String} (same : f.category = category) :
    Told [category] (if p then [] else [f]) := by
  split_ifs
  · exact told_nil.mono (List.nil_subset _)
  · exact told_singleton same

theorem Told.append {categories categories' : List String} {a b : List RiskFinding} (first : Told categories a)
    (second : Told categories' b) (disjoint : ∀ c ∈ categories, c ∉ categories') :
    Told (categories ++ categories') (a ++ b) where
  made f member own := by
    rcases List.mem_append.mp member with inFirst | inSecond
    · exact List.mem_append_left _ (first.made f inFirst own)
    · exact List.mem_append_right _ (second.made f inSecond own)
  apart f member g member' same own nodes := by
    have own' : g.category ∉ sharedCategories := same ▸ own
    rcases List.mem_append.mp member with inFirst | inSecond
    · rcases List.mem_append.mp member' with inFirst' | inSecond'
      · exact first.apart f inFirst g inFirst' same own nodes
      · exact absurd (same ▸ second.made g inSecond' own') (disjoint _ (first.made f inFirst own))
    · rcases List.mem_append.mp member' with inFirst' | inSecond'
      · exact absurd (second.made f inSecond own) (disjoint _ (same ▸ first.made g inFirst' own'))
      · exact second.apart f inSecond g inSecond' same own nodes

theorem Told.shared {categories : List String} {a b : List RiskFinding} (told : Told categories a)
    (shared : ∀ f ∈ b, f.category ∈ sharedCategories) : Told categories (a ++ b) := by
  simpa using told.append (told_shared shared) (by simp)

/-- The findings of several items are told apart if those of one item are, and the nodes tell
    from which item they are. -/
theorem told_flatMap {α : Type} {categories : List String} {items : List α} {findingsOf : α → List RiskFinding}
    (each : ∀ a ∈ items, Told categories (findingsOf a))
    (items_apart : ∀ a ∈ items, ∀ b ∈ items, ∀ f ∈ findingsOf a, ∀ g ∈ findingsOf b, f.category ∉ sharedCategories →
      g.category ∉ sharedCategories → f.affectedNodes.Perm g.affectedNodes → a = b) :
    Told categories (items.flatMap findingsOf) where
  made f member own := by
    obtain ⟨a, listed, made⟩ := List.mem_flatMap.mp member
    exact (each a listed).made f made own
  apart f member g member' same own nodes := by
    obtain ⟨a, listed, made⟩ := List.mem_flatMap.mp member
    obtain ⟨b, listed', made'⟩ := List.mem_flatMap.mp member'
    obtain rfl := items_apart a listed b listed' f made g made' own (same ▸ own) nodes
    exact (each a listed).apart f made g made' same own nodes

/-! ### The checks -/

section Checks
variable {tables : Tables} {formats : Formats} {surface : RiskSurface}

theorem told_checkExternalComms :
    Told (["ICS_EXTERNAL_COMMS"] ++ ["EXTERNAL_IPS_OBSERVED"]) (checkExternalComms tables surface) :=
  Told.append (told_unless rfl) (told_unless rfl) (by decide)

theorem told_checkCrossPurdue : Told ["CROSS_PURDUE"] (checkCrossPurdue surface) := told_unless rfl

theorem told_checkCleartextEngineering : Told ["CLEARTEXT_ENG"] (checkCleartextEngineering surface) := told_unless rfl

theorem told_checkWriteSources : Told ["MODBUS_WRITE_ANON"] (checkWriteSources surface) := by
  unfold checkWriteSources
  dsimp only
  split_ifs
  · exact told_singleton rfl
  · exact told_nil.mono (List.nil_subset _)

theorem told_checkNoAuth : Told ["NO_AUTH_OBSERVED"] (checkNoAuth tables formats surface) := told_unless rfl

theorem told_checkOpcSecurity : Told ["OPC_NO_SECURITY"] (checkOpcSecurity surface) := told_unless rfl

theorem told_checkProgramAccess : Told ["S7_PROGRAM_ACCESS"] (checkProgramAccess surface) := told_unless rfl

theorem told_checkConduitAndCommandAnomalies :
    Told (["IEC62443_CONDUIT_VIOLATION"] ++ ["MODBUS_WRITE_COIL"]) (checkConduitAndCommandAnomalies surface) :=
  Told.append (told_unless rfl) (told_unless rfl) (by decide)

/-! Checks of services, operations and single conversations. -/

theorem shared_onOperations {conv : Conversation} {words : List String} {finding : String → RiskFinding}
    (shared : ∀ op, (finding op).category ∈ sharedCategories) :
    ∀ f ∈ onOperations tables conv words finding, f.category ∈ sharedCategories := by
  intro f member
  obtain ⟨op, -, rfl⟩ := List.mem_map.mp member
  exact shared op

theorem shared_when {p : Prop} [Decidable p] {fs : List RiskFinding} (shared : ∀ f ∈ fs, f.category ∈ sharedCategories) :
    ∀ f ∈ if p then fs else [], f.category ∈ sharedCategories := by
  intro f member
  split_ifs at member
  · exact shared f member
  · cases member

theorem shared_singleton {f : RiskFinding} (shared : f.category ∈ sharedCategories) :
    ∀ g ∈ [f], g.category ∈ sharedCategories := by
  intro g member
  rwa [List.mem_singleton.mp member]

theorem shared_append {fs gs : List RiskFinding} (first : ∀ f ∈ fs, f.category ∈ sharedCategories)
    (second : ∀ f ∈ gs, f.category ∈ sharedCategories) : ∀ f ∈ fs ++ gs, f.category ∈ sharedCategories :=
  List.forall_mem_append.mpr ⟨first, second⟩

theorem shared_flatMap {α : Type} {items : List α} {findingsOf : α → List RiskFinding}
    (each : ∀ a ∈ items, ∀ f ∈ findingsOf a, f.category ∈ sharedCategories) :
    ∀ f ∈ items.flatMap findingsOf, f.category ∈ sharedCategories := by
  intro f member
  obtain ⟨a, listed, made⟩ := List.mem_flatMap.mp member
  exact each a listed f made

theorem shared_map {α : Type} {items : List α} {finding : α → RiskFinding}
    (each : ∀ a, (finding a).category ∈ sharedCategories) : ∀ f ∈ items.map finding, f.category ∈ sharedCategories := by
  intro f member
  obtain ⟨a, -, rfl⟩ := List.mem_map.mp member
  exact each a

theorem shared_baselineDeviations {conv : Conversation} :
    ∀ f ∈ baselineDeviations surface conv, f.category ∈ sharedCategories := by
  unfold baselineDeviations
  split
  · exact shared_append (shared_when (shared_singleton (by simp [sharedCategories]))) (shared_when (shared_singleton (by simp [sharedCategories])))
  · exact nofun

theorem shared_identityFindings {ip : String} {cip : CipIdentity} :
    ∀ f ∈ identityFindings ip cip, f.category ∈ sharedCategories :=
  shared_append (shared_when (shared_singleton (by simp [sharedCategories]))) (shared_when (shared_singleton (by simp [sharedCategories])))

theorem shared_plcFindings {ip : String} {conv : Conversation} :
    ∀ f ∈ plcFindings tables ip conv, f.category ∈ sharedCategories := by
  refine shared_append (shared_append (shared_append (shared_append ?_ ?_) ?_) ?_) ?_
  · cases conv.cipIdentity with
    | none => exact nofun
    | some cip => exact shared_identityFindings
  · exact shared_when (shared_onOperations fun op => by simp [sharedCategories])
  · exact shared_when (shared_singleton (by simp [sharedCategories]))
  · exact shared_when (shared_onOperations fun op => by simp [sharedCategories])
  · exact shared_when (shared_onOperations fun op => by simp [sharedCategories])

theorem shared_threatSignatures {conv : Conversation} : ∀ f ∈ threatSignatures conv, f.category ∈ sharedCategories := by
  refine shared_append (shared_append ?_ ?_) ?_
  · exact shared_when (shared_singleton (by simp [sharedCategories]))
  · exact shared_when (shared_singleton (by simp [sharedCategories]))
  · exact shared_when (shared_singleton (by simp [sharedCategories]))

theorem shared_checkEolStatus : ∀ f ∈ checkEolStatus tables surface, f.category ∈ sharedCategories := by
  refine shared_flatMap fun item _ => ?_
  split_ifs
  · exact nofun
  · exact shared_map fun eol => by simp [sharedCategories]

theorem shared_advancedProtocols {conv : Conversation} :
    ∀ f ∈ advancedProtocols tables conv, f.category ∈ sharedCategories := by
  refine shared_append (shared_append ?_ ?_) ?_
  · exact shared_when (shared_onOperations fun op => by simp [sharedCategories])
  · exact shared_when (shared_onOperations fun op => by simp [sharedCategories])
  · exact shared_when (shared_onOperations fun op => by simp [sharedCategories])

theorem shared_lateralMovement {conv : Conversation} :
    ∀ f ∈ lateralMovement surface conv, f.category ∈ sharedCategories := by
  unfold lateralMovement
  split
  · exact nofun
  · exact shared_when (shared_singleton (by simp [sharedCategories]))

theorem shared_tlsFindings {conv : Conversation} : ∀ f ∈ tlsFindings tables conv, f.category ∈ sharedCategories := by
  refine shared_when (shared_append (shared_append ?_ ?_) ?_)
  · exact shared_when (shared_singleton (by simp [sharedCategories]))
  · exact shared_when (shared_singleton (by simp [sharedCategories]))
  · exact shared_when (shared_singleton (by simp [sharedCategories]))

/-! Ports: a node with many unknown ports is a scan target, and that once. -/

theorem told_portsOf {key : String} {node : ProfiledNode} : Told ["PORT_SCAN_TARGET"] (portsOf key node) := by
  unfold portsOf
  extract_lets cleartext unknown itOnOt high cleartextFindings unknownFindings itFindings highFindings
  have cleartextShared : Told [] cleartextFindings := told_shared (shared_map fun sp => by simp [sharedCategories])
  have itShared : Told [] itFindings := told_shared (shared_map fun sp => by simp [sharedCategories])
  by_cases many : scanThreshold < unknown.length
  · have scanned : Told ["PORT_SCAN_TARGET"] unknownFindings := by
      rw [show unknownFindings = _ from if_pos many]
      exact told_singleton rfl
    have highShared : Told [] highFindings := by
      refine told_shared ?_
      dsimp only [highFindings]
      rw [if_neg (Nat.not_le.mpr many)]
      split_ifs
      · exact nofun
      · exact shared_map fun sp => by simp [sharedCategories]
    exact ((cleartextShared.append scanned (by simp)).append itShared (by simp)).append highShared (by simp)
  · have unknownShared : Told [] unknownFindings := by
      rw [show unknownFindings = _ from if_neg many]
      exact told_shared (shared_map fun sp => by simp [sharedCategories])
    have scanned : Told ["PORT_SCAN_TARGET"] highFindings := by
      dsimp only [highFindings]
      rw [if_pos (Nat.not_lt.mp many)]
      split_ifs
      · exact told_singleton rfl
      · exact (told_shared (shared_map fun sp => by simp [sharedCategories])).mono (List.nil_subset _)
    exact ((cleartextShared.append unknownShared (by simp)).append itShared (by simp)).append scanned (by simp)

theorem nodes_portsOf {key : String} {node : ProfiledNode} {f : RiskFinding} (made : f ∈ portsOf key node) :
    f.affectedNodes = [key] := by
  simp only [portsOf, List.mem_append] at made
  rcases made with ((cleartext | unknown) | itOnOt) | high
  · obtain ⟨port, -, rfl⟩ := List.mem_map.mp cleartext
    rfl
  · split_ifs at unknown
    · rw [List.mem_singleton.mp unknown]
      rfl
    · obtain ⟨port, -, rfl⟩ := List.mem_map.mp unknown
      rfl
  · obtain ⟨port, -, rfl⟩ := List.mem_map.mp itOnOt
    rfl
  · split_ifs at high
    · rw [List.mem_singleton.mp high]
      rfl
    · cases high
    · obtain ⟨port, -, rfl⟩ := List.mem_map.mp high
      rfl

theorem told_checkPortAnalysis : Told ["PORT_SCAN_TARGET"] (checkPortAnalysis surface) := by
  refine told_flatMap (fun item _ => told_portsOf) fun item listed item' listed' f made g made' _ _ nodes => ?_
  rw [nodes_portsOf made, nodes_portsOf made', List.singleton_perm_singleton] at nodes
  have found := PyDict.get_of_mem_items (show (item.1, item.2) ∈ _ from listed)
  have found' := PyDict.get_of_mem_items (show (item'.1, item'.2) ∈ _ from listed')
  rw [nodes, found'] at found
  exact Prod.ext nodes (Option.some.inj found).symm

/-! A MAC in several subnets is one finding, under the MAC. -/

theorem key_of_nodesByKey {nodes : List ProfiledNode} {key : String} {node : ProfiledNode}
    (found : (nodesByKey nodes).get key = some node) : key = either node.ip node.mac := by
  unfold nodesByKey at found
  refine List.foldlRecOn (motive := fun byKey : ProfiledNodes => ∀ key node, byKey.get key = some node →
    key = either node.ip node.mac) nodes _ ?_ ?_ key node found
  · intro key node found
    cases found
  · intro byKey holds added _ key node found
    rw [PyDict.get_set] at found
    split_ifs at found with same
    · rw [← same, ← Option.some.inj found]
    · exact holds key node found

theorem label_of_mac (keyed : ∀ key node, surface.nodes.get key = some node → key = either node.ip node.mac)
    (mac : String) : either (((surface.nodes.get mac).map (·.ip)).getD "") mac = mac := by
  cases found : surface.nodes.get mac with
  | none => rfl
  | some node =>
    have key := keyed mac node found
    show either node.ip mac = mac
    unfold either at key ⊢
    split_ifs at key ⊢ with addressed
    · exact key.symm
    · rfl

theorem told_checkRogueAndDualHomed
    (keyed : ∀ key node, surface.nodes.get key = some node → key = either node.ip node.mac) :
    Told ["DUAL_HOMED_ENDPOINT_SUSPECT"] (checkRogueAndDualHomed surface) := by
  unfold checkRogueAndDualHomed
  rw [List.map_eq_flatMap]
  refine told_flatMap (fun item _ => told_singleton rfl) fun item listed item' listed' f made g made' _ _ nodes => ?_
  rw [List.mem_singleton.mp made, List.mem_singleton.mp made'] at nodes
  dsimp only at nodes
  rw [label_of_mac keyed, label_of_mac keyed, List.singleton_perm_singleton] at nodes
  have found := PyDict.get_of_mem_items (show (item.1, item.2) ∈ _ from (List.mem_filter.mp listed).1)
  have found' := PyDict.get_of_mem_items (show (item'.1, item'.2) ∈ _ from (List.mem_filter.mp listed').1)
  rw [nodes, found'] at found
  exact Prod.ext nodes (Option.some.inj found).symm

/-! Indicators. -/

/-- The alerts make findings of shared categories only. -/
def SharedAlerts (alerts : List Alert) : Prop := ∀ alert ∈ alerts, alert.indicator.type ∈ sharedCategories

theorem sharedAlerts_when {p : Prop} [Decidable p] {alerts alerts' : List Alert} (first : SharedAlerts alerts)
    (second : SharedAlerts alerts') : SharedAlerts (if p then alerts else alerts') := by
  split_ifs
  · exact first
  · exact second

theorem sharedAlerts_nil : SharedAlerts [] := nofun

theorem sharedAlerts_singleton {alert : Alert} (shared : alert.indicator.type ∈ sharedCategories) :
    SharedAlerts [alert] := by
  intro other member
  rwa [List.mem_singleton.mp member]

theorem SharedAlerts.append {alerts alerts' : List Alert} (first : SharedAlerts alerts) (second : SharedAlerts alerts') :
    SharedAlerts (alerts ++ alerts') := List.forall_mem_append.mpr ⟨first, second⟩

theorem sharedAlerts_flatMap {α : Type} {items : List α} {alertsOf : α → List Alert}
    (each : ∀ a ∈ items, SharedAlerts (alertsOf a)) : SharedAlerts (items.flatMap alertsOf) := by
  intro alert member
  obtain ⟨a, listed, made⟩ := List.mem_flatMap.mp member
  exact each a listed alert made

theorem shared_checkBeacon {conv : Conversation} : SharedAlerts (checkBeacon tables formats conv) := by
  refine sharedAlerts_when (sharedAlerts_when ?_ (sharedAlerts_when ?_ sharedAlerts_nil)) sharedAlerts_nil
  · exact sharedAlerts_singleton (by simp [sharedCategories])
  · exact sharedAlerts_singleton (by simp [sharedCategories])

theorem shared_checkDns {before : List Alert} {conv : Conversation} : SharedAlerts (checkDns formats before conv) := by
  refine sharedAlerts_when sharedAlerts_nil (SharedAlerts.append (sharedAlerts_flatMap fun item _ => ?_) ?_)
  · refine sharedAlerts_when ?_ (sharedAlerts_when ?_ sharedAlerts_nil)
    · exact sharedAlerts_singleton (by simp [sharedCategories])
    · exact sharedAlerts_singleton (by simp [sharedCategories])
  · exact sharedAlerts_when (sharedAlerts_singleton (by simp [sharedCategories])) sharedAlerts_nil

theorem shared_checkChannel {conv : Conversation} : SharedAlerts (checkChannel tables surface conv) :=
  sharedAlerts_when (sharedAlerts_singleton (by simp [sharedCategories])) sharedAlerts_nil

theorem shared_checkConversations : SharedAlerts (checkConversations tables formats surface) := by
  refine List.foldlRecOn (motive := SharedAlerts) surface.conversations _ sharedAlerts_nil fun alerts shared conv _ => ?_
  exact ((shared.append shared_checkBeacon).append shared_checkDns).append shared_checkChannel

theorem shared_checkPersistence {conv : Conversation} : SharedAlerts (checkPersistence tables formats surface conv) :=
  sharedAlerts_when (sharedAlerts_singleton (by simp [sharedCategories])) sharedAlerts_nil

theorem told_sharedAlerts {alerts : List Alert} (shared : SharedAlerts alerts) : Told [] (alerts.map Alert.finding) := by
  refine told_shared fun f member => ?_
  obtain ⟨alert, made, rfl⟩ := List.mem_map.mp member
  exact shared alert made

/-! Bytes between two endpoints count in one direction, whichever it is. -/

theorem flowPairs_ordered {convs : List Conversation} {key : String × String}
    (present : (flowPairs convs).get key ≠ none) : key.1 ≤ key.2 := by
  unfold flowPairs at present
  refine List.foldlRecOn (motive := fun pairs : PyDict (String × String) Flows => ∀ key, pairs.get key ≠ none →
    key.1 ≤ key.2) convs _ ?_ ?_ key present
  · intro key present
    exact absurd rfl present
  · intro pairs ordered conv _ key present
    dsimp only at present
    split_ifs at present with forward
    · rw [PyDict.get_set] at present
      split_ifs at present with same
      · rw [← same]
        exact le_of_lt forward
      · exact ordered key present
    · rw [PyDict.get_set] at present
      split_ifs at present with same
      · rw [← same]
        exact not_lt.mp forward
      · exact ordered key present

theorem checkFlow_spec {src dst : String} {outBytes inBytes : Nat} {f : RiskFinding}
    (made : f ∈ (checkFlow tables formats surface src dst outBytes inBytes).map Alert.finding) :
    f.affectedNodes = [src, dst] ∧ 10 * inBytes < outBytes := by
  obtain ⟨alert, listed, rfl⟩ := List.mem_map.mp made
  unfold checkFlow at listed
  dsimp only at listed
  split_ifs at listed with flows
  · rw [List.mem_singleton.mp listed]
    exact ⟨rfl, flows.2.2.2.2.1⟩
  · cases listed

theorem told_checkFlow {src dst : String} {outBytes inBytes : Nat} :
    Told ["C2_DATA_EXFIL"] ((checkFlow tables formats surface src dst outBytes inBytes).map Alert.finding) := by
  unfold checkFlow
  dsimp only
  split_ifs
  · exact told_singleton rfl
  · exact told_nil.mono (List.nil_subset _)

theorem told_checkFlows : Told ["C2_DATA_EXFIL"] ((checkFlows tables formats surface).map Alert.finding) := by
  unfold checkFlows
  rw [List.map_flatMap]
  refine told_flatMap (fun item listed => ?_) ?_
  · rw [List.map_append]
    refine ⟨fun f member own => ?_, fun f member g member' same own nodes => ?_⟩
    · rcases List.mem_append.mp member with out | back
      · exact told_checkFlow.made f out own
      · exact told_checkFlow.made f back own
    · rcases List.mem_append.mp member with out | back <;> rcases List.mem_append.mp member' with out' | back'
      · exact told_checkFlow.apart f out g out' same own nodes
      · have one := (checkFlow_spec out).2
        have two := (checkFlow_spec back').2
        omega
      · have one := (checkFlow_spec back).2
        have two := (checkFlow_spec out').2
        omega
      · exact told_checkFlow.apart f back g back' same own nodes
  · intro item listed item' listed' f made g made' _ _ nodes
    have ends (pair : (String × String) × Flows) (h : RiskFinding)
        (made : h ∈ (checkFlow tables formats surface pair.1.1 pair.1.2 pair.2.outbound pair.2.inbound ++
          checkFlow tables formats surface pair.1.2 pair.1.1 pair.2.inbound pair.2.outbound).map Alert.finding) :
        h.affectedNodes.Perm [pair.1.1, pair.1.2] := by
      rw [List.map_append] at made
      rcases List.mem_append.mp made with out | back
      · rw [(checkFlow_spec out).1]
      · rw [(checkFlow_spec back).1]
        exact List.Perm.swap ..
    have found := PyDict.get_of_mem_items (show (item.1, item.2) ∈ _ from listed)
    have found' := PyDict.get_of_mem_items (show (item'.1, item'.2) ∈ _ from listed')
    have sorted_ : [item.1.1, item.1.2].Pairwise (· ≤ ·) := by
      simpa using flowPairs_ordered (by rw [found]; exact Option.some_ne_none _)
    have sorted' : [item'.1.1, item'.1.2].Pairwise (· ≤ ·) := by
      simpa using flowPairs_ordered (by rw [found']; exact Option.some_ne_none _)
    have same : [item.1.1, item.1.2] = [item'.1.1, item'.1.2] :=
      List.Perm.eq_of_pairwise (fun a b _ _ => le_antisymm) sorted_ sorted'
        ((ends item f made).symm.trans (nodes.trans (ends item' g made')))
    have keys : item.1 = item'.1 := by
      simp only [List.cons.injEq, and_true] at same
      exact Prod.ext same.1 same.2
    rw [keys, found'] at found
    exact Prod.ext keys (Option.some.inj found).symm

theorem told_checkC2Indicators : Told ["C2_DATA_EXFIL"] ((checkC2Indicators tables formats surface).map Alert.finding) := by
  unfold checkC2Indicators
  split_ifs
  · exact told_nil.mono (List.nil_subset _)
  · rw [List.map_append, List.map_append]
    refine ((told_sharedAlerts shared_checkConversations).append told_checkFlows (by simp)).append (told_sharedAlerts ?_)
      (by simp)
    exact sharedAlerts_flatMap fun conv _ => shared_checkPersistence

/-! ### The score -/

/-- The other categories: at most one finding of the same nodes is made of each. -/
def soleCategories : List String :=
  ["ICS_EXTERNAL_COMMS", "EXTERNAL_IPS_OBSERVED", "CROSS_PURDUE", "CLEARTEXT_ENG", "MODBUS_WRITE_ANON",
   "NO_AUTH_OBSERVED", "OPC_NO_SECURITY", "S7_PROGRAM_ACCESS", "PORT_SCAN_TARGET", "IEC62443_CONDUIT_VIOLATION",
   "MODBUS_WRITE_COIL", "DUAL_HOMED_ENDPOINT_SUSPECT", "C2_DATA_EXFIL"]

/-- The findings of all checks, of nodes under their own keys. -/
theorem findings_told (keyed : ∀ key node, surface.nodes.get key = some node → key = either node.ip node.mac) :
    Told soleCategories (findings tables formats surface) := by
  have external : Told _ (checkExternalComms tables surface) := told_checkExternalComms
  have crossed := external.append (b := checkCrossPurdue surface) told_checkCrossPurdue (by simp)
  have cleartext := crossed.append (b := checkCleartextEngineering surface) told_checkCleartextEngineering (by simp)
  have sources := cleartext.append (b := checkWriteSources surface) told_checkWriteSources (by simp)
  have unauth := sources.append (b := checkNoAuth tables formats surface) told_checkNoAuth (by simp)
  have sessions := unauth.append (b := checkOpcSecurity surface) told_checkOpcSecurity (by simp)
  have programs := sessions.append (b := checkProgramAccess surface) told_checkProgramAccess (by simp)
  have ports := programs.append (b := checkPortAnalysis surface) told_checkPortAnalysis (by simp)
  have conduits := ports.append (b := checkConduitAndCommandAnomalies surface) told_checkConduitAndCommandAnomalies
    (by simp)
  have baseline := conduits.shared (b := checkBaselineDeviations surface)
    (shared_flatMap fun conv _ => shared_baselineDeviations)
  have controllers := baseline.shared (b := checkPlcIntegrity tables surface)
    (shared_flatMap fun item _ => shared_flatMap fun conv _ => shared_plcFindings)
  have signatures := controllers.shared (b := checkOtThreatSignatures surface)
    (shared_flatMap fun conv _ => shared_threatSignatures)
  have eol := signatures.shared (b := checkEolStatus tables surface) shared_checkEolStatus
  have advanced := eol.shared (b := checkAdvancedProtocols tables surface)
    (shared_flatMap fun conv _ => shared_advancedProtocols)
  have stops := advanced.shared (b := checkPlcStateShifts tables surface)
    (shared_map fun conv => by simp [sharedCategories])
  have homes := stops.append (b := checkRogueAndDualHomed surface) (told_checkRogueAndDualHomed keyed) (by simp)
  have lateral := homes.shared (b := checkPurdueLeakAndLateralMovement surface)
    (shared_flatMap fun conv _ => shared_lateralMovement)
  have bursts := lateral.shared (b := checkPollingJitterAndBursts tables surface)
    (shared_map fun conv => by simp [sharedCategories])
  have tls := bursts.shared (b := checkPassiveTlsSecurity tables surface)
    (shared_flatMap fun conv _ => shared_tlsFindings)
  have formed := tls.shared (b := checkProtocolConformance tables surface)
    (shared_map fun conv => by simp [sharedCategories])
  exact formed.append (b := (checkC2Indicators tables formats surface).map Alert.finding) told_checkC2Indicators (by simp)

end Checks

/-! ### Keys and signatures -/

/-- The finding as the report has it, `asdict`. -/
def reported (f : RiskFinding) : Reports.Aggregate.RiskFinding where
  category := some f.category
  severity := some f.severity
  description := some f.description
  remediation := some f.remediation
  source := none
  affectedNodes := f.affectedNodes
  affectedEdges := f.affectedEdges
  attackIds := []
  attackTechniques := []
  cvssImpact := some f.cvssImpact

/-- `str.strip` and `str.upper` leave the categories as they are. -/
def PlainCategories (library : Library) : Prop :=
  ∀ category ∈ soleCategories ++ sharedCategories, library.upper (library.strip category) = category

/-- Of different categories, nodes or edges, or of a category that is not shared. -/
def Separate (f g : RiskFinding) : Prop :=
  f.category ∉ sharedCategories ∨ f.category ≠ g.category ∨ ¬f.affectedNodes.Perm g.affectedNodes ∨
    ¬f.affectedEdges.Perm g.affectedEdges

/-- `RiskSurface(…).score()["findings"]` of a topology. -/
def scored (tables : Tables) (formats : Formats) (nodes : List ProfiledNode) (edges : List TopologyEdge)
    (conversations : List Conversation) (skipC2 : Bool) (captureDuration : Rat) : List RiskFinding :=
  (score tables formats ⟨nodesByKey nodes, edges, conversations, skipC2, captureDuration⟩).findings

section Keys
variable {library : Library} {sha256 : String → String} {tables : Tables} {formats : Formats} {nodes : List ProfiledNode}
  {edges : List TopologyEdge} {conversations : List Conversation} {skipC2 : Bool} {captureDuration : Rat}

theorem told_scored : Told soleCategories (scored tables formats nodes edges conversations skipC2 captureDuration) :=
  findings_told fun _ _ => key_of_nodesByKey

theorem orElse_reported (f : RiskFinding) : Reports.Aggregate.orElse (reported f).category "" = f.category := by
  by_cases blank : f.category = ""
  · simp [reported, Reports.Aggregate.orElse, Reports.Aggregate.truthy, Option.filter_some, blank]
  · simp [reported, Reports.Aggregate.orElse, Reports.Aggregate.truthy, Option.filter_some, blank]

/-- What both identities take in. -/
def SameParts (f g : RiskFinding) : Prop :=
  f.category = g.category ∧ f.affectedNodes.Perm g.affectedNodes ∧ f.affectedEdges.Perm g.affectedEdges

theorem category_known {f : RiskFinding} (listed : f ∈ scored tables formats nodes edges conversations skipC2 captureDuration) :
    f.category ∈ soleCategories ++ sharedCategories := by
  by_cases shared : f.category ∈ sharedCategories
  · exact List.mem_append_right _ shared
  · exact List.mem_append_left _ (told_scored.made f listed shared)

theorem same_key_iff (plain : PlainCategories library) {f g : RiskFinding}
    (listed : f ∈ scored tables formats nodes edges conversations skipC2 captureDuration)
    (listed' : g ∈ scored tables formats nodes edges conversations skipC2 captureDuration) :
    findingKey library (reported f) = findingKey library (reported g) ↔ SameParts f g := by
  rw [findingKey_eq_iff, orElse_reported, orElse_reported, plain _ (category_known listed),
    plain _ (category_known listed')]
  rfl

theorem same_signature_iff
    (free : CollisionFree sha256 ((scored tables formats nodes edges conversations skipC2 captureDuration).map
      fun f => signatureText (reported f)))
    {f g : RiskFinding} (listed : f ∈ scored tables formats nodes edges conversations skipC2 captureDuration)
    (listed' : g ∈ scored tables formats nodes edges conversations skipC2 captureDuration) :
    findingSignature sha256 (reported f) = findingSignature sha256 (reported g) ↔ SameParts f g := by
  have texts : findingSignature sha256 (reported f) = findingSignature sha256 (reported g) ↔
      signatureText (reported f) = signatureText (reported g) := by
    constructor
    · exact free _ (List.mem_map_of_mem listed) _ (List.mem_map_of_mem listed')
    · intro same
      unfold findingSignature
      rw [same]
  rw [texts, signatureText_eq_iff, orElse_reported, orElse_reported]
  rfl

end Keys

/-! ### A host that is told apart -/

/-- Tables without known ports, in which 8.8.8.8 is the one address, and a public one. -/
def quietTables : Tables :=
  { Topology.Levels.fewTables with
    lower := id
    upper := id
    otProtocols := fun _ => none
    wellKnownPorts := fun _ => none
    net :=
      { address := fun ip => if ip = "8.8.8.8" then some ⟨.v4, 0x08080808⟩ else none
        network := fun _ => none
        isGlobal := fun _ => true } }

def plainFormats : Formats := ⟨fun _ r => r, fun _ r => toString r.num, fun _ => ""⟩

def service (port : Nat) (protocol category : String) : ServicePort := ⟨port, "tcp", protocol, category, 3, []⟩

def host (ip : String) : ProfiledNode :=
  { ip, mac := "", protocols := [], initiates := false, responds := true, systemName := "", systemDesc := "", mgmtIp := ""
    capabilities := [], ports := [], vlans := [], servicePorts := [] }

/-- The findings of a public host with a Telnet server. -/
def exposedHost : List RiskFinding :=
  scored quietTables plainFormats [{ host "8.8.8.8" with purdueLevel := 5, servicePorts := [service 23 "Telnet" "IT"] }]
    [] [] true 0

/-- There are findings of the category with different descriptions and the same nodes and edges. -/
def conflated (fs : List RiskFinding) (category : String) : Bool :=
  let ofCategory := fs.filter (·.category = category)
  ofCategory.any fun f => ofCategory.any fun g => f.description ≠ g.description &&
    f.affectedNodes.isPerm g.affectedNodes && f.affectedEdges.isPerm g.affectedEdges

/-- An old controller with two cleartext services and two unknown ones. -/
def controller : ProfiledNode :=
  { host "10.0.0.1" with
    servicePorts := [service 23 "Telnet" "IT", service 21 "FTP" "IT", service 20001 "" "Unknown", service 20002 "" "Unknown"]
    productLine := "s7-300 s7-400"
    purdueLevel := 1
    role := "Programmable Logic Controller" }

def panel (ip : String) : ProfiledNode := { host ip with role := "Human-Machine Interface" }

def visit (protocol : String) (port : Nat) : Conversation :=
  { srcIp := "10.0.0.9", dstIp := "10.0.0.1", srcMac := "", dstMac := "", protocol, port, packetCount := 2000
    bytesTotal := 600000, firstSeen := "", lastSeen := "" }

/-- Pairs of conversations between the same endpoints, over several ports and protocols. -/
def visits : List Conversation :=
  [{ visit "cip modbus dnp3 bacnet profinet Modbus TriStation" 22 with
      cipIdentity := some ⟨"", "", "", "0", "1.1"⟩, operationsSeen := ["write set a", "write set b"]
      modbusFunctions := [8], modbusWrites := 1 },
   { visit "modbus" 3389 with srcIp := "10.0.0.8", modbusWrites := 1 }, visit "modbus" 22, visit "modbus" 3389,
   { visit "MODBUS" 443 with notes := "RC4 EXPIRED_CERT SELF_SIGNED MALFORMED STOP", beaconScore := 9 / 10 },
   { visit "CIP" 8443 with
      notes := "RC4 EXPIRED_CERT SELF_SIGNED MALFORMED STOP", beaconScore := 9 / 10, packetCount := 3000 },
   { visit "a" 5001 with srcIp := "10.0.0.1", dstIp := "8.8.8.8", beaconInterval := 1 },
   { visit "a" 5002 with srcIp := "10.0.0.1", dstIp := "8.8.8.8", beaconInterval := 1 },
   { visit "DNS" 53 with dnsQueries := ["a.b.c", "a.d.e"], dnsEntropy := 5 },
   { visit "DNS" 53 with dnsQueries := ["a.b.c"], dnsEntropy := 5, packetCount := 601 },
   -- the links of these two are written alike
   { visit "a" 1 with srcIp := "x", dstIp := "x → x", modbusWrites := 1 },
   { visit "a" 1 with srcIp := "x → x", dstIp := "x", modbusWrites := 1 }]

def plant : List RiskFinding :=
  scored quietTables plainFormats [controller, panel "x", panel "x → x"] [] visits false 60

/-- As many subdomains as it takes, of two domains. -/
def tunnelled : List String :=
  (List.range 51).flatMap fun i => [String.ofList [Char.ofNat (65 + i), '.', 'b', '.', 'c'], String.ofList [Char.ofNat (65 + i), '.', 'd', '.', 'e']]

def exfiltration : List RiskFinding :=
  scored quietTables plainFormats [] [] [{ visit "DNS" 53 with dnsQueries := tunnelled, dnsEntropy := 5 }] false 60

/-- Such findings have one key and one signature. -/
theorem merged_of_conflated {fs : List RiskFinding} {category : String} (found : conflated fs category = true) :
    ∃ f ∈ fs, ∃ g ∈ fs, f.category = category ∧ g.category = category ∧ f.description ≠ g.description ∧
      findingKey plainLibrary (reported f) = findingKey plainLibrary (reported g) ∧
      findingSignature id (reported f) = findingSignature id (reported g) := by
  obtain ⟨f, inFs, some_⟩ := List.any_eq_true.mp found
  obtain ⟨g, inFs', both⟩ := List.any_eq_true.mp some_
  obtain ⟨listed, is⟩ := List.mem_filter.mp inFs
  obtain ⟨listed', is'⟩ := List.mem_filter.mp inFs'
  have is := of_decide_eq_true is
  have is' := of_decide_eq_true is'
  simp only [Bool.and_eq_true, decide_eq_true_eq, List.isPerm_iff] at both
  obtain ⟨⟨differ, nodes⟩, edges⟩ := both
  have texts : signatureText (reported f) = signatureText (reported g) := by
    refine signatureText_eq_iff.mpr ⟨?_, nodes, edges⟩
    rw [orElse_reported, orElse_reported, is, is']
  refine ⟨f, listed, g, listed', is, is', differ, findingKey_eq_iff.mpr ⟨?_, nodes, edges⟩, ?_⟩
  · rw [orElse_reported, orElse_reported, is, is']
  · unfold findingSignature
    rw [texts]

end Marlinspike.Findings.Apart
