import Marlinspike.Sorting
import Marlinspike.Topology.Keys
import Marlinspike.Topology.Profile

/-!
When the subnet map decides the Purdue levels of its hosts: exactly if no host at another
level than 1 is taken for network infrastructure by its vendor (`subnet_map_decides_iff`).
That branch of `_assign_roles` is the only one of the passes that overrides the map.
-/
namespace Marlinspike.Topology.Levels
open Marlinspike.Sorting
open Marlinspike.Cidr
open Marlinspike.Topology.Graph
open Marlinspike.Topology.Keys
open Marlinspike.Topology.Merge
open Marlinspike.Topology.Profile

section Map
variable (tables : Tables) (subnetMap : SubnetMap)

/-- A map to the levels 0 to 5, whose networks can be read and are distinct. -/
structure ValidMap : Prop where
  levels : ∀ subnet level, subnetMap.get subnet = some level → 0 ≤ level ∧ level ≤ 5
  parseable : ∀ subnet, subnetMap.get subnet ≠ none → tables.net.network subnet ≠ none
  distinct : ∀ subnet other, subnetMap.get subnet ≠ none → subnetMap.get other ≠ none →
    tables.net.network subnet = tables.net.network other → subnet = other

/-- The network of a mapped subnet contains the address. -/
def Covers (a : Address) (subnet : String) (n : Network) (level : Int) : Prop :=
  subnetMap.get subnet = some level ∧ tables.net.network subnet = some n ∧ n.contains a

/-- The level of the most specific mapped subnet that contains the address. -/
def MostSpecific (a : Address) (level : Int) : Prop :=
  ∃ subnet n, Covers tables subnetMap a subnet n level ∧
    ∀ other m otherLevel, Covers tables subnetMap a other m otherLevel → m.prefixlen ≤ n.prefixlen

/-- A host that the map is to decide: an address in a mapped subnet, neither a broadcast nor
    a multicast one. -/
def Mapped (ip : String) (a : Address) : Prop :=
  tables.net.address ip = some a ∧ (∃ subnet n level, Covers tables subnetMap a subnet n level) ∧
    isBroadcastOrMulticast tables ip = false

/-- Every such host is at the level that the map gives it. -/
def Decided (nodes : ProfiledNodes) : Prop :=
  ∀ ip a node, Mapped tables subnetMap ip a → nodes.get ip = some node →
    MostSpecific tables subnetMap a node.purdueLevel

/-- The branch of `_assign_roles` for vendors of network infrastructure. -/
def takenForInfrastructure (node : ProfiledNode) : Bool :=
  let node := switchByName tables node
  !isSwitch node && !isRouter node && byInfrastructureVendor tables node

/-- Before the roles are assigned, every such host that is taken for network infrastructure
    is one that the map puts at level 1. -/
def NotOverridden (nodes : ProfiledNodes) : Prop :=
  ∀ ip a node, Mapped tables subnetMap ip a → nodes.get ip = some node → takenForInfrastructure tables node = true →
    MostSpecific tables subnetMap a 1

end Map

/-! ### The entry that is found -/

section Found
variable {tables : Tables} {subnetMap : SubnetMap} {ip : String} {a : Address}

theorem ipInSubnet_iff {subnet : String} (parsed : tables.net.address ip = some a) :
    ipInSubnet tables ip subnet = true ↔ ∃ n, tables.net.network subnet = some n ∧ n.contains a := by
  unfold ipInSubnet
  rw [parsed]
  cases tables.net.network subnet with
  | none => simp
  | some n => simp

/-- The most specific entry is the first one in the order that matches. -/
theorem mapSubnet_mostSpecific (mapped : Mapped tables subnetMap ip a) (node : ProfiledNode) :
    MostSpecific tables subnetMap a (mapSubnet tables subnetMap ip node).purdueLevel := by
  obtain ⟨parsed, ⟨covered, n, level, entry, net, inside⟩, -⟩ := mapped
  have member : (covered, level) ∈ orderedSubnetMap tables subnetMap :=
    (List.mergeSort_perm ..).mem_iff.mpr (PyDict.mem_items_iff.mpr entry)
  unfold mapSubnet
  cases found : (orderedSubnetMap tables subnetMap).find? fun entry => ipInSubnet tables ip entry.1 with
  | none =>
    have outside := List.find?_eq_none.mp found _ member
    exact absurd ((ipInSubnet_iff parsed).mpr ⟨n, net, inside⟩) outside
  | some best =>
    obtain ⟨subnet, first⟩ := best
    obtain ⟨holds, before, after, split_, earlier⟩ := List.find?_eq_some_iff_append.mp found
    obtain ⟨best, net, inside⟩ := (ipInSubnet_iff parsed).mp holds
    have present : subnetMap.get subnet = some first := by
      refine PyDict.mem_items_iff.mp ((List.mergeSort_perm ..).mem_iff.mp (?_ : _ ∈ orderedSubnetMap tables subnetMap))
      rw [split_]
      simp
    refine ⟨subnet, best, ⟨present, net, inside⟩, ?_⟩
    rintro other m otherLevel ⟨entry, otherNet, otherInside⟩
    have sorted : (orderedSubnetMap tables subnetMap).Pairwise fun a b =>
        subnetPrefixlen tables b.1 ≤ subnetPrefixlen tables a.1 := by
      let rank (entry : String × Int) := OrderDual.toDual (subnetPrefixlen tables entry.1)
      have ranked (a b : String × Int) :
          decide (subnetPrefixlen tables b.1 ≤ subnetPrefixlen tables a.1) = true ↔ rank a ≤ rank b :=
        decide_eq_true_iff
      exact pairwise_mergeSort_rank ranked subnetMap.items
    have otherMember : (other, otherLevel) ∈ before ++ (subnet, first) :: after := by
      rw [← split_]
      exact (List.mergeSort_perm ..).mem_iff.mpr (PyDict.mem_items_iff.mpr entry)
    have longer : subnetPrefixlen tables other ≤ subnetPrefixlen tables subnet := by
      rcases List.mem_append.mp otherMember with missed | later
      · have outside := earlier _ missed
        rw [(ipInSubnet_iff parsed).mpr ⟨m, otherNet, otherInside⟩] at outside
        cases outside
      · rcases List.mem_cons.mp later with same | later
        · obtain ⟨rfl, -⟩ := Prod.mk.inj same
          exact le_refl _
        · rw [split_] at sorted
          exact List.rel_of_pairwise_cons (List.pairwise_append.mp sorted).2.1 later
    rw [subnetPrefixlen, subnetPrefixlen, net, otherNet] at longer
    exact Int.ofNat_le.mp longer

/-- There is one most specific level. -/
theorem mostSpecific_unique (valid : ValidMap tables subnetMap) {level other : Int}
    (is : MostSpecific tables subnetMap a level) (isOther : MostSpecific tables subnetMap a other) : level = other := by
  obtain ⟨subnet, n, ⟨entry, net, inside⟩, longest⟩ := is
  obtain ⟨otherSubnet, m, ⟨otherEntry, otherNet, otherInside⟩, otherLongest⟩ := isOther
  have same : n = m := eq_of_contains inside otherInside
    (Nat.le_antisymm (otherLongest _ _ _ ⟨entry, net, inside⟩) (longest _ _ _ ⟨otherEntry, otherNet, otherInside⟩))
  have key := valid.distinct subnet otherSubnet (by simp [entry]) (by simp [otherEntry]) (by rw [net, otherNet, same])
  rw [key, otherEntry] at entry
  exact (Option.some.inj entry).symm

theorem mostSpecific_bounds (valid : ValidMap tables subnetMap) {level : Int}
    (is : MostSpecific tables subnetMap a level) : 0 ≤ level ∧ level ≤ 5 := by
  obtain ⟨subnet, n, ⟨entry, -⟩, -⟩ := is
  exact valid.levels subnet level entry

end Found

/-! ### What the passes do to a level -/

section Levels
variable (tables : Tables)

theorem markNetwork_of_not {ip : String} (host : isBroadcastOrMulticast tables ip = false) (node : ProfiledNode) :
    markNetwork tables ip node = node := by
  rw [markNetwork, host]
  rfl

theorem markExternal_of_ne (ip : String) {node : ProfiledNode} (set_ : node.purdueLevel ≠ -1) :
    markExternal tables ip node = node := if_pos set_

theorem inferOt_of_ne {node : ProfiledNode} (set_ : node.purdueLevel ≠ -1) : inferOt tables node = node := if_pos set_

theorem inferIt_of_ne (otIps : List String) (traffic : Traffic) {node : ProfiledNode} (set_ : node.purdueLevel ≠ -1) :
    inferIt otIps traffic node = node := if_pos set_

theorem byOui_purdueLevel (node : ProfiledNode) : (byOui tables node).purdueLevel = node.purdueLevel := by
  unfold byOui
  split_ifs
  · dsimp only
    split_ifs
    · split <;> rfl
    · rfl
  · rfl

theorem byCip_purdueLevel (conv : Conversation) (node : ProfiledNode) :
    (byCip tables node conv).purdueLevel = node.purdueLevel := by
  unfold byCip
  split <;> rfl

theorem foldl_byCip_purdueLevel (convs : List Conversation) (node : ProfiledNode) :
    (convs.foldl (byCip tables) node).purdueLevel = node.purdueLevel := by
  induction convs generalizing node with
  | nil => rfl
  | cons conv rest ih => rw [List.foldl_cons, ih, byCip_purdueLevel]

theorem byBacnetVendor_purdueLevel (bacnet : BacnetIdentity) (node : ProfiledNode) :
    (byBacnetVendor tables node bacnet).purdueLevel = node.purdueLevel := by
  unfold byBacnetVendor
  split_ifs <;> rfl

theorem byBacnet_purdueLevel (convs : List Conversation) (node : ProfiledNode) :
    (byBacnet tables node convs).purdueLevel = node.purdueLevel := by
  induction convs generalizing node with
  | nil => rfl
  | cons conv rest ih =>
    rw [byBacnet]
    split
    · exact ih node
    · rename_i bacnet _
      have same := byBacnetVendor_purdueLevel tables bacnet node
      dsimp only
      split_ifs
      · exact same
      · split
        · exact (ih _).trans same
        · exact (ih _).trans same

theorem byOmron_purdueLevel (convs : List Conversation) (node : ProfiledNode) :
    (byOmron tables node convs).purdueLevel = node.purdueLevel := by
  unfold byOmron
  by_cases serves : node.servicePorts.any (isOmronPort tables) = true
  · rw [if_pos serves]
    cases (convs.filterMap (·.omronIdentity)).find? (·.model ≠ "") with
    | none => rfl
    | some omron => rfl
  · rw [if_neg serves]

theorem byPn_purdueLevel (convs : List Conversation) (node : ProfiledNode) :
    (byPn tables node convs).purdueLevel = node.purdueLevel := by
  unfold byPn
  split <;> rfl

theorem byIec61850_purdueLevel (convs : List Conversation) (node : ProfiledNode) :
    (byIec61850 tables node convs).purdueLevel = node.purdueLevel := by
  unfold byIec61850
  dsimp only
  split_ifs <;> rfl

theorem bySystemInfo_purdueLevel (node : ProfiledNode) : (bySystemInfo tables node).purdueLevel = node.purdueLevel := by
  unfold bySystemInfo
  dsimp only
  split_ifs
  · split <;> rfl
  · rfl

theorem byCapabilities_purdueLevel (node : ProfiledNode) : (byCapabilities node).purdueLevel = node.purdueLevel := by
  unfold byCapabilities
  split_ifs <;> rfl

theorem byHostname_purdueLevel (convs : List Conversation) (node : ProfiledNode) :
    (byHostname tables node convs).purdueLevel = node.purdueLevel := by
  unfold byHostname
  dsimp only
  split_ifs
  · split <;> rfl
  · rfl

theorem normalizeVendor_purdueLevel (node : ProfiledNode) :
    (normalizeVendor tables node).purdueLevel = node.purdueLevel := by
  unfold normalizeVendor
  split_ifs <;> rfl

theorem fingerprintVendor_purdueLevel (traffic : Traffic) (node : ProfiledNode) :
    (fingerprintVendor tables traffic node).purdueLevel = node.purdueLevel := by
  unfold fingerprintVendor
  rw [normalizeVendor_purdueLevel, byHostname_purdueLevel, byCapabilities_purdueLevel, bySystemInfo_purdueLevel,
    byIec61850_purdueLevel, byPn_purdueLevel, byOmron_purdueLevel, byBacnet_purdueLevel, foldl_byCip_purdueLevel,
    byOui_purdueLevel]

theorem switchByName_purdueLevel (node : ProfiledNode) : (switchByName tables node).purdueLevel = node.purdueLevel := by
  unfold switchByName
  dsimp only
  split_ifs <;> rfl

theorem engineered_purdueLevel (t : Traits) (node : ProfiledNode) :
    (engineered tables t node).purdueLevel = node.purdueLevel := by
  unfold engineered
  split_ifs <;> rfl

/-- The roles leave the levels alone, except for network infrastructure. -/
theorem assignRole_purdueLevel {ip : String} (host : isBroadcastOrMulticast tables ip = false) (traffic : Traffic)
    (node : ProfiledNode) : (assignRole tables ip traffic node).purdueLevel =
      if takenForInfrastructure tables node then 1 else node.purdueLevel := by
  have same := switchByName_purdueLevel tables node
  unfold assignRole
  rw [host, if_neg Bool.false_ne_true]
  dsimp only
  by_cases switch : isSwitch (switchByName tables node) = true
  · rw [if_pos switch, if_neg (by simp [takenForInfrastructure, switch])]
    exact same
  · by_cases router : isRouter (switchByName tables node) = true
    · rw [if_neg switch, if_pos router, if_neg (by simp [takenForInfrastructure, router])]
      exact same
    · by_cases vendor : byInfrastructureVendor tables (switchByName tables node) = true
      · have taken : takenForInfrastructure tables node = true := by simp [takenForInfrastructure, switch, router, vendor]
        rw [if_neg switch, if_neg router, if_pos vendor, if_pos taken]
      · rw [if_neg switch, if_neg router, if_neg vendor, if_neg (by simp [takenForInfrastructure, vendor])]
        split
        · exact same
        · rw [engineered_purdueLevel]
          exact same

theorem rankTarget_purdueLevel (ip : String) (node : ProfiledNode) :
    (rankTarget tables ip node).purdueLevel = node.purdueLevel := by
  unfold rankTarget
  split_ifs <;> rfl

end Levels

/-! ### The whole build -/

section Build
variable {tables : Tables} {subnetMap : SubnetMap} {b : TopologyBuilder} {ip : String} {a : Address}

/-- Up to the roles, a host of the map is at its level. -/
theorem fingerprinted_mostSpecific (valid : ValidMap tables subnetMap) (mapped : Mapped tables subnetMap ip a)
    {node : ProfiledNode} (found : (fingerprinted tables subnetMap b).get ip = some node) :
    MostSpecific tables subnetMap a node.purdueLevel := by
  unfold fingerprinted inferPurdueLevels at found
  simp only [PyDict.get_mapItems, Option.map_map, Option.map_eq_some_iff, Function.comp_apply] at found
  obtain ⟨merged, -, rfl⟩ := found
  have given := mapSubnet_mostSpecific mapped (TopologyNode.profiled merged)
  have set_ : (mapSubnet tables subnetMap ip (TopologyNode.profiled merged)).purdueLevel ≠ -1 := by
    have bounds := mostSpecific_bounds valid given
    omega
  rw [fingerprintVendor_purdueLevel, markNetwork_of_not tables mapped.2.2, markExternal_of_ne tables ip set_,
    inferOt_of_ne tables set_, inferIt_of_ne _ _ set_]
  exact given

theorem profiledNodes_get {node : ProfiledNode} :
    (profiledNodes tables subnetMap b).get ip = some node ↔
      ∃ before, (fingerprinted tables subnetMap b).get ip = some before ∧
        rankTarget tables ip (assignRole tables ip (trafficOf b ip) before) = node := by
  rw [profiledNodes, PyDict.get_mapItems, Option.map_eq_some_iff]

theorem decided_iff (valid : ValidMap tables subnetMap) :
    Decided tables subnetMap (profiledNodes tables subnetMap b) ↔
      NotOverridden tables subnetMap (fingerprinted tables subnetMap b) := by
  constructor
  · intro decided ip a node mapped found taken
    have level := decided ip a _ mapped (profiledNodes_get.mpr ⟨node, found, rfl⟩)
    rw [rankTarget_purdueLevel, assignRole_purdueLevel tables mapped.2.2, if_pos taken] at level
    exact level
  · intro notOverridden ip a node mapped found
    obtain ⟨before, earlier, rfl⟩ := profiledNodes_get.mp found
    rw [rankTarget_purdueLevel, assignRole_purdueLevel tables mapped.2.2]
    by_cases taken : takenForInfrastructure tables before = true
    · rw [if_pos taken]
      exact notOverridden ip a before mapped earlier taken
    · rw [if_neg taken]
      exact fingerprinted_mostSpecific valid mapped earlier

end Build

/-- The build puts every host of the map at the level of its most specific subnet, exactly if
    those taken for network infrastructure are mapped to level 1. -/
theorem subnet_map_decides_iff (tables : Tables) (skipEphemeral : Bool) (subnetMap : SubnetMap)
    (valid : ValidMap tables subnetMap) (conversations : List Conversation) :
    ∃ m, topologyOf tables.toServices skipEphemeral conversations = some m ∧
      (Decided tables subnetMap (profiledNodes tables subnetMap m.builder) ↔
        NotOverridden tables subnetMap (fingerprinted tables subnetMap m.builder)) := by
  obtain ⟨-, m, runs, -⟩ := topologyOf_tracked tables.toServices skipEphemeral conversations
  exact ⟨m, runs, decided_iff valid⟩

/-! ### A switch at level 3 -/

/-- Tables of a few entries, and the addresses of one network. -/
def fewTables : Tables where
  toServices := { fewServices with lower := fun text => String.ofList (text.toList.map Char.toLower) }
  net :=
    { address := fun ip =>
        if ip = "10.0.3.5" then some ⟨.v4, 0x0A000305⟩ else if ip = "10.0.3.9" then some ⟨.v4, 0x0A000309⟩ else none
      network := fun subnet => if subnet = "10.0.3.0/24" then some ⟨.v4, 24, 0x0A0003⟩ else none
      isGlobal := fun a => a.value / 2 ^ 24 ≠ 10 }
  strip text := String.ofList ((text.toList.dropWhile (· = ' ')).reverse.dropWhile (· = ' ')).reverse
  intAuto _ := none
  intDecimal _ := none
  hex4 n := toString n
  otNames := ["Modbus TCP"]
  externalIpHints := []
  ouiDb oui := if oui = "00:90:e8" then some ("Moxa", []) else none
  cipVendorIdMap _ := none
  cipDeviceTypeMap _ := none
  bacnetVendorIdMap _ := none
  profinetVendorIdMap _ := none
  profinetSwitchHints := ["switch", "scalance"]
  iec61850IedHints := ["relay"]
  iec61850BayControllerHints := ["bay"]
  historianSignatures := ["historian"]
  hmiSignatures := ["wincc"]
  engineeringSignatures := ["step 7"]
  omronSignatures := ["omron"]
  itVendorHostnamePatterns := []
  normalizeVendorName := id

/-- A map that puts 10.0.3.0/24 at level 3. -/
def siteMap : SubnetMap := PyDict.empty.set "10.0.3.0/24" 3

/-- A serial server of Moxa and its client. -/
def moxaServer : List Conversation :=
  [{ srcIp := "10.0.3.9", dstIp := "10.0.3.5", srcMac := "00:11:22:33:44:66", dstMac := "00:90:e8:01:02:03"
     protocol := "HTTPS", port := 443, packetCount := 9, bytesTotal := 1200, firstSeen := "", lastSeen := ""
     transport := "tcp" }]

theorem siteMap_get {subnet : String} {level : Int} (entry : siteMap.get subnet = some level) :
    subnet = "10.0.3.0/24" ∧ level = 3 := by
  rw [siteMap, PyDict.get_set, PyDict.get_empty] at entry
  split_ifs at entry with same
  · exact ⟨same.symm, (Option.some.inj entry).symm⟩

theorem siteMap_valid : ValidMap fewTables siteMap where
  levels subnet level entry := by
    obtain ⟨-, rfl⟩ := siteMap_get entry
    decide
  parseable subnet present := by
    obtain ⟨level, entry⟩ := Option.ne_none_iff_exists'.mp present
    obtain ⟨rfl, -⟩ := siteMap_get entry
    decide
  distinct subnet other present otherPresent _ := by
    obtain ⟨level, entry⟩ := Option.ne_none_iff_exists'.mp present
    obtain ⟨otherLevel, otherEntry⟩ := Option.ne_none_iff_exists'.mp otherPresent
    rw [(siteMap_get entry).1, (siteMap_get otherEntry).1]

theorem subnet_map_decides_moxa : ∃ m, topologyOf fewTables.toServices false moxaServer = some m ∧
    (Decided fewTables siteMap (profiledNodes fewTables siteMap m.builder) ↔
      NotOverridden fewTables siteMap (fingerprinted fewTables siteMap m.builder)) :=
  subnet_map_decides_iff fewTables false siteMap siteMap_valid moxaServer

/-- The map puts the server at level 3, the build at level 1. -/
theorem moxa_server_overridden : ValidMap fewTables siteMap ∧
    ¬∃ m, topologyOf fewTables.toServices false moxaServer = some m ∧
      Decided fewTables siteMap (profiledNodes fewTables siteMap m.builder) := by
  refine ⟨siteMap_valid, ?_⟩
  rintro ⟨m, runs, decided⟩
  have level : (topologyOf fewTables.toServices false moxaServer).map (fun m =>
      ((profiledNodes fewTables siteMap m.builder).get "10.0.3.5").map (·.purdueLevel)) = some (some 1) := by
    decide +kernel
  rw [runs, Option.map_some, Option.some.injEq, Option.map_eq_some_iff] at level
  obtain ⟨node, found, level⟩ := level
  have mapped : Mapped fewTables siteMap "10.0.3.5" ⟨.v4, 0x0A000305⟩ := by
    refine ⟨rfl, ⟨"10.0.3.0/24", ⟨.v4, 24, 0x0A0003⟩, 3, ?_, rfl, ?_⟩, ?_⟩
    · decide
    · decide
    · decide
  obtain ⟨subnet, n, ⟨entry, -⟩, -⟩ := decided "10.0.3.5" _ node mapped found
  rw [level] at entry
  exact absurd (siteMap_get entry).2 (by decide)

end Marlinspike.Topology.Levels
