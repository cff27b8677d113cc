import Marlinspike.Topology.Graph

/-!
The nodes that are keyed by a MAC, merged into the nodes of their IPs: the attributes go to
the other node, and the edges and the conversations are keyed anew.
-/
namespace Marlinspike.Topology.Merge
open Marlinspike.Topology.Graph

/-- What a node takes over from one that is merged into it. -/
def TopologyNode.absorbs (ipNode macNode : TopologyNode) : TopologyNode :=
  { ipNode with
    capabilities := macNode.capabilities.foldl addNew ipNode.capabilities
    systemName := either ipNode.systemName macNode.systemName
    systemDesc := either ipNode.systemDesc macNode.systemDesc
    mgmtIp := either ipNode.mgmtIp macNode.mgmtIp
    ports := macNode.ports.foldl addNew ipNode.ports
    vlans := macNode.vlans.foldl addNew ipNode.vlans
    protocols := macNode.protocols.foldl addNew ipNode.protocols
    initiates := ipNode.initiates || macNode.initiates
    responds := ipNode.responds || macNode.responds
    mac := either ipNode.mac macNode.mac }

def rekeyEdge (macKey target : String) (e : TopologyEdge) : TopologyEdge :=
  { e with
    src := if e.src = macKey then target else e.src
    dst := if e.dst = macKey then target else e.dst }

/-- `index[target].extend(index.pop(mac_key))`: the list at the target is looked up, or made,
    before the other one is taken out, and what extends it shows only if it is still there. -/
def rekeyIndex (macKey target : String) (index : Index) : Index :=
  match index.get macKey with
  | none => index
  | some moved => ((index.set target ((index.get target).getD [])).pop macKey).modify target (· ++ moved)

section Merge
variable (lower : String → String)

def pairMac (macToIp : PyDict String String) (mac ip : String) : PyDict String String :=
  if mac ≠ "" ∧ ip ≠ "" then macToIp.set (lower mac) ip else macToIp

/-- The last IP that goes with each MAC. -/
def macToIpOf (conversations : List Conversation) : PyDict String String :=
  conversations.foldl
    (fun macToIp conv => pairMac lower (pairMac lower macToIp conv.srcMac conv.srcIp) conv.dstMac conv.dstIp)
    PyDict.empty

/-- The IP to merge into: the management address, or else the one in the traffic. -/
def targetOf (macToIp : PyDict String String) (macKey : String) (macNode : TopologyNode) : Option String :=
  if macNode.mgmtIp ≠ "" then some macNode.mgmtIp else (macToIp.get (lower macKey)).filter (· ≠ "")

/-- The builder and the nodes that it has merged, each with the node it went to. -/
structure Merging where
  builder : TopologyBuilder
  merged : List (String × String)

/-- A node is merged into another one, and taken out. -/
def mergeInto (m : Merging) (macKey target : String) (macNode : TopologyNode) : Merging where
  builder :=
    { nodes := (m.builder.nodes.modify target (TopologyNode.absorbs · macNode)).pop macKey
      edges := m.builder.edges.map (rekeyEdge macKey target)
      convBySrc := rekeyIndex macKey target m.builder.convBySrc
      convByDst := rekeyIndex macKey target m.builder.convByDst }
  merged := m.merged ++ [(macKey, target)]

/-- One key of the loop; without its node there is a `KeyError`. -/
def mergeNode (macToIp : PyDict String String) (m : Merging) (macKey : String) : Option Merging :=
  match m.builder.nodes.get macKey with
  | none => none
  | some macNode =>
    match targetOf lower macToIp macKey macNode with
    | none => some m
    | some target =>
      if m.builder.nodes.get target = none then some m else some (mergeInto m macKey target macNode)

/-- A MAC for a node that has none. -/
def backfillMac (nodes : Nodes) (pair : String × String) : Nodes :=
  nodes.modify pair.2 fun node => { node with mac := either node.mac pair.1 }

/-- The keys that are taken for MACs. -/
def macKeys (nodes : Nodes) : List String := (nodes.items.map Prod.fst).filter fun k => k.toList.contains ':'

def mergeL2Nodes (conversations : List Conversation) (b : TopologyBuilder) : Option Merging :=
  let macToIp := macToIpOf lower conversations
  ((macKeys b.nodes).foldlM (mergeNode lower macToIp) ⟨b, []⟩).map fun m =>
    { m with builder := { m.builder with nodes := macToIp.items.foldl backfillMac m.builder.nodes } }

end Merge

/-- `_build_graph` and `_merge_l2_nodes`. -/
def topologyOf (services : Services) (skipEphemeral : Bool) (conversations : List Conversation) : Option Merging :=
  mergeL2Nodes services.lower conversations (graphed services skipEphemeral conversations)

end Marlinspike.Topology.Merge
