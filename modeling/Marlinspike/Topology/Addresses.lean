import Marlinspike.Topology.Keys
import Marlinspike.Topology.Profile

/-!
The addresses of the nodes, which no pass over the merged graph changes: the nodes that are
reported are still those of their keys (`profiledNodes_key`), and so no two of them are the same.
-/
namespace Marlinspike.Topology.Addresses
open Marlinspike.Topology.Graph
open Marlinspike.Topology.Keys
open Marlinspike.Topology.Merge
open Marlinspike.Topology.Profile

def ProfiledNode.address (node : ProfiledNode) : String × String := (node.ip, node.mac)

/-- The key that a node has in the graph. -/
def ProfiledNode.key (node : ProfiledNode) : String := either node.ip node.mac

section Passes
variable (tables : Tables)
open ProfiledNode (address)

theorem mapSubnet_address (subnetMap : SubnetMap) (ip : String) (node : ProfiledNode) :
    address (mapSubnet tables subnetMap ip node) = address node := by
  unfold mapSubnet
  split <;> rfl

theorem markNetwork_address (ip : String) (node : ProfiledNode) :
    address (markNetwork tables ip node) = address node := by
  unfold markNetwork
  split_ifs <;> rfl

theorem markExternal_address (ip : String) (node : ProfiledNode) :
    address (markExternal tables ip node) = address node := by
  unfold markExternal
  split_ifs <;> rfl

theorem inferOt_address (node : ProfiledNode) : address (inferOt tables node) = address node := by
  unfold inferOt
  split_ifs <;> rfl

theorem inferIt_address (otIps : List String) (traffic : Traffic) (node : ProfiledNode) :
    address (inferIt otIps traffic node) = address node := by
  unfold inferIt
  dsimp only
  split_ifs <;> rfl

theorem byOui_address (node : ProfiledNode) : address (byOui tables node) = address node := by
  unfold byOui
  split_ifs
  · dsimp only
    split_ifs
    · split <;> rfl
    · rfl
  · rfl

theorem byCip_address (conv : Conversation) (node : ProfiledNode) :
    address (byCip tables node conv) = address node := by
  unfold byCip
  split <;> rfl

theorem foldl_byCip_address (convs : List Conversation) (node : ProfiledNode) :
    address (convs.foldl (byCip tables) node) = address node := by
  induction convs generalizing node with
  | nil => rfl
  | cons conv rest ih => rw [List.foldl_cons, ih, byCip_address]

theorem byBacnetVendor_address (bacnet : BacnetIdentity) (node : ProfiledNode) :
    address (byBacnetVendor tables node bacnet) = address node := by
  unfold byBacnetVendor
  split_ifs <;> rfl

theorem byBacnet_address (convs : List Conversation) (node : ProfiledNode) :
    address (byBacnet tables node convs) = address node := by
  induction convs generalizing node with
  | nil => rfl
  | cons conv rest ih =>
    rw [byBacnet]
    split
    · exact ih node
    · rename_i bacnet _
      have same := byBacnetVendor_address tables bacnet node
      dsimp only
      split_ifs
      · exact same
      · split
        · exact (ih _).trans same
        · exact (ih _).trans same

theorem byOmron_address (convs : List Conversation) (node : ProfiledNode) :
    address (byOmron tables node convs) = address node := by
  unfold byOmron
  by_cases serves : node.servicePorts.any (isOmronPort tables) = true
  · rw [if_pos serves]
    cases (convs.filterMap (·.omronIdentity)).find? (·.model ≠ "") with
    | none => rfl
    | some omron => rfl
  · rw [if_neg serves]

theorem byPn_address (convs : List Conversation) (node : ProfiledNode) :
    address (byPn tables node convs) = address node := by
  unfold byPn
  split <;> rfl

theorem byIec61850_address (convs : List Conversation) (node : ProfiledNode) :
    address (byIec61850 tables node convs) = address node := by
  unfold byIec61850
  dsimp only
  split_ifs <;> rfl

theorem bySystemInfo_address (node : ProfiledNode) : address (bySystemInfo tables node) = address node := by
  unfold bySystemInfo
  dsimp only
  split_ifs
  · split <;> rfl
  · rfl

theorem byCapabilities_address (node : ProfiledNode) : address (byCapabilities node) = address node := by
  unfold byCapabilities
  split_ifs <;> rfl

theorem byHostname_address (convs : List Conversation) (node : ProfiledNode) :
    address (byHostname tables node convs) = address node := by
  unfold byHostname
  dsimp only
  split_ifs
  · split <;> rfl
  · rfl

theorem normalizeVendor_address (node : ProfiledNode) : address (normalizeVendor tables node) = address node := by
  unfold normalizeVendor
  split_ifs <;> rfl

theorem fingerprintVendor_address (traffic : Traffic) (node : ProfiledNode) :
    address (fingerprintVendor tables traffic node) = address node := by
  unfold fingerprintVendor
  rw [normalizeVendor_address, byHostname_address, byCapabilities_address, bySystemInfo_address, byIec61850_address,
    byPn_address, byOmron_address, byBacnet_address, foldl_byCip_address, byOui_address]

theorem switchByName_address (node : ProfiledNode) : address (switchByName tables node) = address node := by
  unfold switchByName
  dsimp only
  split_ifs <;> rfl

theorem engineered_address (t : Traits) (node : ProfiledNode) : address (engineered tables t node) = address node := by
  unfold engineered
  split_ifs <;> rfl

theorem assignRole_address (ip : String) (traffic : Traffic) (node : ProfiledNode) :
    address (assignRole tables ip traffic node) = address node := by
  have same := switchByName_address tables node
  unfold assignRole
  split_ifs with network
  · rfl
  · dsimp only
    split_ifs
    · exact same
    · exact same
    · exact same
    · exact same
    · split
      · exact same
      · rw [engineered_address]
        exact same

theorem rankTarget_address (ip : String) (node : ProfiledNode) :
    address (rankTarget tables ip node) = address node := by
  unfold rankTarget
  split_ifs <;> rfl

end Passes

section Build
variable (tables : Tables) (subnetMap : SubnetMap) (b : TopologyBuilder)

/-- The nodes that are reported have the addresses of the graph. -/
theorem get_profiledNodes {key : String} {node : ProfiledNode}
    (found : (profiledNodes tables subnetMap b).get key = some node) :
    ∃ merged, b.nodes.get key = some merged ∧ ProfiledNode.address node = (merged.ip, merged.mac) := by
  unfold profiledNodes fingerprinted inferPurdueLevels at found
  simp only [PyDict.get_mapItems, Option.map_map, Option.map_eq_some_iff, Function.comp_apply] at found
  obtain ⟨merged, there, rfl⟩ := found
  refine ⟨merged, there, ?_⟩
  rw [rankTarget_address, assignRole_address, fingerprintVendor_address, inferIt_address, inferOt_address,
    markExternal_address, markNetwork_address, mapSubnet_address]
  rfl

variable (skipEphemeral : Bool) (conversations : List Conversation)

/-- Every node is that of its key. -/
theorem profiledNodes_key {m : Merging} (built : topologyOf tables.toServices skipEphemeral conversations = some m) :
    ∀ item ∈ (profiledNodes tables subnetMap m.builder).items, ProfiledNode.key item.2 = item.1 := by
  intro item member
  obtain ⟨-, m', runs, -, -, -, -, named⟩ := topologyOf_tracked tables.toServices skipEphemeral conversations
  obtain rfl := Option.some.inj (built.symm.trans runs)
  obtain ⟨merged, there, same⟩ := get_profiledNodes tables subnetMap m.builder (PyDict.get_of_mem_items member)
  obtain ⟨ip, mac⟩ := Prod.mk.injEq .. ▸ same
  rw [ProfiledNode.key, ip, mac]
  exact named item.1 merged there

theorem nodup_keys {m : Merging} (built : topologyOf tables.toServices skipEphemeral conversations = some m) :
    (((profiledNodes tables subnetMap m.builder).items.map Prod.snd).map ProfiledNode.key).Nodup := by
  have keys : ((profiledNodes tables subnetMap m.builder).items.map Prod.snd).map ProfiledNode.key =
      (profiledNodes tables subnetMap m.builder).items.map Prod.fst := by
    rw [List.map_map]
    exact List.map_congr_left fun item member => profiledNodes_key tables subnetMap skipEphemeral conversations built item member
  rw [keys]
  exact (profiledNodes tables subnetMap m.builder).distinct

end Build

end Marlinspike.Topology.Addresses
