import Mathlib.Data.List.Induction
import Marlinspike.Topology.Graph

/-!
What the graph says of the endpoints of its conversations: they are its nodes, in the order
in which they first appear, each under its own key and with the first management address
that it advertises.
-/
namespace Marlinspike.Topology.Endpoints
open Marlinspike.Topology.Graph

/-- The keys of the endpoints, in the order of their first conversations. -/
def endpoints (conversations : List Conversation) : List String :=
  conversations.foldl (fun keys conv => addNew (addNew keys conv.srcKey) conv.dstKey) []

/-- The management address that the sender advertises. -/
def Conversation.mgmtIp (conv : Conversation) : String := (conv.advertised.map (·.mgmtIp)).getD ""

/-- The first management address that an endpoint advertises. -/
def mgmtOf (conversations : List Conversation) (key : String) : String :=
  (((conversations.filter (·.srcKey = key)).map Conversation.mgmtIp).find? (· ≠ "")).getD ""

@[simp] theorem either_empty (b : String) : either "" b = b := rfl

theorem either_of_ne {a b : String} (some_ : a ≠ "") : either a b = a := if_pos some_

theorem endpoints_concat (conversations : List Conversation) (conv : Conversation) :
    endpoints (conversations ++ [conv]) = addNew (addNew (endpoints conversations) conv.srcKey) conv.dstKey := by
  rw [endpoints, List.foldl_append]
  rfl

theorem mem_endpoints {conversations : List Conversation} {key : String} :
    key ∈ endpoints conversations ↔ ∃ conv ∈ conversations, key = conv.srcKey ∨ key = conv.dstKey := by
  induction conversations using List.reverseRecOn with
  | nil => simp [endpoints]
  | append_singleton conversations conv ih =>
    rw [endpoints_concat, mem_addNew, mem_addNew, ih]
    simp only [List.mem_append, List.mem_singleton, or_and_right, exists_or, exists_eq_left, or_assoc]

theorem mgmtOf_concat (conversations : List Conversation) (conv : Conversation) (key : String) :
    mgmtOf (conversations ++ [conv]) key =
      if conv.srcKey = key then either (mgmtOf conversations key) (Conversation.mgmtIp conv)
      else mgmtOf conversations key := by
  unfold mgmtOf
  rw [List.filter_append, List.map_append, List.find?_append]
  by_cases own : conv.srcKey = key
  · rw [if_pos own, List.filter_cons_of_pos (by simpa using own)]
    cases found : ((conversations.filter (·.srcKey = key)).map Conversation.mgmtIp).find? (· ≠ "") with
    | none =>
      by_cases some_ : Conversation.mgmtIp conv = ""
      · simp [some_]
      · simp [some_]
    | some mgmt =>
      have some_ : mgmt ≠ "" := by simpa using List.find?_some found
      simp [either_of_ne some_]
  · rw [if_neg own, List.filter_cons_of_neg (by simpa using own)]
    simp

theorem mgmtOf_of_absent {conversations : List Conversation} {key : String} (absent : key ∉ endpoints conversations) :
    mgmtOf conversations key = "" := by
  have none_ : conversations.filter (·.srcKey = key) = [] := by
    rw [List.filter_eq_nil_iff]
    intro conv member own
    exact absent (mem_endpoints.mpr ⟨conv, member, .inl (by simpa using Eq.symm (of_decide_eq_true own))⟩)
  rw [mgmtOf, none_]
  rfl

/-! ### Nodes -/

/-- The nodes are the endpoints, under their own keys. -/
structure Described (conversations : List Conversation) (nodes : Nodes) : Prop where
  keys : nodes.items.map Prod.fst = endpoints conversations
  named : ∀ key node, nodes.get key = some node → either node.ip node.mac = key
  mgmt : ∀ key node, nodes.get key = some node → node.mgmtIp = mgmtOf conversations key

theorem get_ensureNode (nodes : Nodes) (key ip mac other : String) : (ensureNode nodes key ip mac).get other =
    if key = other ∧ nodes.get other = none then some (.new ip mac) else nodes.get other := by
  unfold ensureNode
  by_cases absent : nodes.get key = none
  · rw [if_pos absent, PyDict.get_set]
    by_cases same : key = other
    · subst same
      simp [absent]
    · simp [same]
  · rw [if_neg absent, if_neg]
    rintro ⟨rfl, none_⟩
    exact absent none_

theorem absent_of_ensureNode {nodes : Nodes} {key ip mac other : String}
    (absent : (ensureNode nodes key ip mac).get other = none) : nodes.get other = none := by
  rw [get_ensureNode] at absent
  split_ifs at absent
  exact absent

theorem keys_ensureNode (nodes : Nodes) (key ip mac : String) :
    (ensureNode nodes key ip mac).items.map Prod.fst = addNew (nodes.items.map Prod.fst) key := by
  unfold ensureNode addNew
  by_cases absent : nodes.get key = none
  · rw [if_pos absent, PyDict.keys_set, if_pos absent, if_neg (by simpa using mt PyDict.mem_keys_iff.mp (by simpa using absent))]
  · rw [if_neg absent, if_pos (PyDict.mem_keys_iff.mpr absent)]

theorem either_assoc (a b c : String) : either a (either b c) = either (either a b) c := by
  unfold either
  split_ifs <;> rfl

theorem either_srcKey (conv : Conversation) : either conv.srcKey conv.srcMac = conv.srcKey := by
  unfold Conversation.srcKey either
  split_ifs <;> rfl

theorem either_dstKey (conv : Conversation) : either conv.dstKey conv.dstMac = conv.dstKey := by
  unfold Conversation.dstKey either
  split_ifs <;> rfl

theorem either_empty_right (a : String) : either a "" = a := by
  unfold either
  split_ifs with some_
  · rfl
  · exact (not_not.mp some_).symm

theorem advertises_mgmtIp (node : TopologyNode) (ld : L2Discovery) :
    (node.advertises ld).mgmtIp = either node.mgmtIp ld.mgmtIp := rfl

theorem discovers_mgmtIp (node : TopologyNode) (conv : Conversation) :
    (node.discovers conv).mgmtIp = either node.mgmtIp (Conversation.mgmtIp conv) := by
  unfold TopologyNode.discovers Conversation.mgmtIp Conversation.advertised
  cases conv.l2Discovery with
  | none => exact (either_empty_right _).symm
  | some ld =>
    by_cases sender : ld.source = some "lldp" ∨ ld.source = some "cdp"
    · have heard : Option.filter (fun ld : L2Discovery => ld.source = some "lldp" ∨ ld.source = some "cdp") (some ld) =
          some ld := by rw [Option.filter_some, if_pos (decide_eq_true sender)]
      simp only [if_pos sender, heard, Option.map_some, Option.getD_some, advertises_mgmtIp]
    · have silent : Option.filter (fun ld : L2Discovery => ld.source = some "lldp" ∨ ld.source = some "cdp") (some ld) =
          none := by simpa using sender
      simp only [if_neg sender, silent, Option.map_none, Option.getD_none, either_empty_right]
      split_ifs
      · rfl
      · rfl
      · split <;> rfl
      · rfl

theorem discovers_keyed (node : TopologyNode) (conv : Conversation) :
    (node.discovers conv).ip = node.ip ∧ (node.discovers conv).mac = node.mac := by
  unfold TopologyNode.discovers
  split
  · exact ⟨rfl, rfl⟩
  · split_ifs
    · exact ⟨rfl, rfl⟩
    · exact ⟨rfl, rfl⟩
    · exact ⟨rfl, rfl⟩
    · split <;> exact ⟨rfl, rfl⟩
    · exact ⟨rfl, rfl⟩

section Step
variable {nodes : Nodes} (named : ∀ key node, nodes.get key = some node → either node.ip node.mac = key)
include named

theorem named_ensureNode (ip mac : String) (key : String) (node : TopologyNode)
    (found : (ensureNode nodes (either ip mac) ip mac).get key = some node) : either node.ip node.mac = key := by
  rw [get_ensureNode] at found
  split_ifs at found with fresh
  · cases found
    exact fresh.1
  · exact named key node found

theorem named_modify (changed : String) (f : TopologyNode → TopologyNode)
    (keeps : ∀ node, either node.ip node.mac = changed → either (f node).ip (f node).mac = changed)
    (key : String) (node : TopologyNode) (found : (nodes.modify changed f).get key = some node) :
    either node.ip node.mac = key := by
  rw [PyDict.get_modify] at found
  split_ifs at found with same
  · obtain ⟨before, there, rfl⟩ := Option.map_eq_some_iff.mp found
    subst same
    exact keeps before (named _ _ there)
  · exact named key node found

end Step

section Mgmt
variable {nodes : Nodes} {mgmtAt : String → String}
  (mgmt : ∀ key node, nodes.get key = some node → node.mgmtIp = mgmtAt key)
include mgmt

theorem mgmt_ensureNode (fresh ip mac : String) (silent : nodes.get fresh = none → mgmtAt fresh = "")
    (key : String) (node : TopologyNode) (found : (ensureNode nodes fresh ip mac).get key = some node) :
    node.mgmtIp = mgmtAt key := by
  rw [get_ensureNode] at found
  split_ifs at found with new
  · obtain ⟨rfl, absent⟩ := new
    cases found
    exact (silent absent).symm
  · exact mgmt key node found

theorem mgmt_modify (changed : String) (f : TopologyNode → TopologyNode) (change : String → String)
    (changes : ∀ node, (f node).mgmtIp = change node.mgmtIp)
    (key : String) (node : TopologyNode) (found : (nodes.modify changed f).get key = some node) :
    node.mgmtIp = if changed = key then change (mgmtAt key) else mgmtAt key := by
  rw [PyDict.get_modify] at found
  split_ifs at found ⊢ with same
  · obtain ⟨before, there, rfl⟩ := Option.map_eq_some_iff.mp found
    rw [changes, mgmt key before there]
  · exact mgmt key node found

end Mgmt

/-- The nodes after another conversation. -/
theorem described_addToNodes (services : Services) {conversations : List Conversation} {nodes : Nodes}
    (described : Described conversations nodes) (conv : Conversation) :
    Described (conversations ++ [conv]) (addToNodes services nodes conv) := by
  obtain ⟨keys, named, mgmt⟩ := described
  refine ⟨?_, ?_, ?_⟩
  · unfold addToNodes
    rw [PyDict.keys_modify, PyDict.keys_modify, keys_ensureNode, PyDict.keys_modify, keys_ensureNode, keys,
      endpoints_concat]
  · have sent := named_modify (named_ensureNode named conv.srcIp conv.srcMac) conv.srcKey
      (·.sends conv.srcMac (protoDisplay services conv.protocol)) fun node own => by
        rw [TopologyNode.sends, either_assoc, own, either_srcKey]
    have received := named_modify (named_ensureNode sent conv.dstIp conv.dstMac) conv.dstKey
      (·.receives conv.dstMac (protoDisplay services conv.protocol)) fun node own => by
        rw [TopologyNode.receives, either_assoc, own, either_dstKey]
    refine named_modify received conv.srcKey _ fun node own => ?_
    obtain ⟨ip, mac⟩ := discovers_keyed (node.hosted conv) conv
    rw [ip, mac]
    exact own
  · have silent {key : String} (absent : nodes.get key = none) : mgmtOf conversations key = "" := by
      refine mgmtOf_of_absent ?_
      rw [← keys, PyDict.mem_keys_iff]
      exact not_not.mpr absent
    have ensured := mgmt_ensureNode mgmt conv.srcKey conv.srcIp conv.srcMac silent
    have sent := mgmt_modify ensured conv.srcKey (·.sends conv.srcMac (protoDisplay services conv.protocol)) id
      fun _ => rfl
    simp only [id_eq, ite_self] at sent
    have ensured := mgmt_ensureNode sent conv.dstKey conv.dstIp conv.dstMac fun absent =>
      silent (absent_of_ensureNode ((PyDict.get_modify_eq_none ..).mp absent))
    have received := mgmt_modify ensured conv.dstKey
      (·.receives conv.dstMac (protoDisplay services conv.protocol)) id fun _ => rfl
    simp only [id_eq, ite_self] at received
    have heard := mgmt_modify received conv.srcKey (fun node => (node.hosted conv).discovers conv)
      (either · (Conversation.mgmtIp conv)) fun node => discovers_mgmtIp (node.hosted conv) conv
    intro key node found
    rw [mgmtOf_concat]
    exact heard key node found

/-! ### The graph -/

section Graph
variable (services : Services) (skipEphemeral : Bool) (conversations : List Conversation)

theorem described_conversations :
    Described conversations (conversations.foldl (addConversation services skipEphemeral) .empty).nodes := by
  induction conversations using List.reverseRecOn with
  | nil => exact ⟨rfl, by simp [Building.empty], by simp [Building.empty]⟩
  | append_singleton conversations conv ih =>
    rw [List.foldl_append]
    exact described_addToNodes services ih conv

theorem described_graph : Described conversations (buildGraph services skipEphemeral conversations).1 := by
  have serves (items : List (String × PyDict (Nat × String) ServiceData)) (nodes : Nodes)
      (described : Described conversations nodes) : Described conversations
        (items.foldl (fun nodes item => nodes.modify item.1 (TopologyNode.serves services · item.2)) nodes) := by
    induction items generalizing nodes with
    | nil => exact described
    | cons item rest ih =>
      refine ih _ ⟨?_, ?_, ?_⟩
      · rw [PyDict.keys_modify, described.keys]
      · exact named_modify described.named item.1 _ fun node own => own
      · have mgmt := mgmt_modify described.mgmt item.1 (TopologyNode.serves services · item.2) id fun _ => rfl
        simpa only [id_eq, ite_self] using mgmt
  exact serves _ _ (described_conversations services skipEphemeral conversations)

/-- An edge of the map joins the endpoints of a conversation. -/
theorem edgeMap_endpoints (key : EdgeKey) (e : TopologyEdge)
    (found : (conversations.foldl (addConversation services skipEphemeral) .empty).edgeMap.get key = some e) :
    e.src = key.1 ∧ e.dst = key.2.1 ∧ ∃ conv ∈ conversations, key = conv.edgeKey := by
  induction conversations using List.reverseRecOn generalizing key e with
  | nil => cases found
  | append_singleton conversations conv ih =>
    rw [List.foldl_append, List.foldl_cons, List.foldl_nil, addConversation, addToEdges] at found
    have before (found : (conversations.foldl (addConversation services skipEphemeral) .empty).edgeMap.get key = some e) :
        e.src = key.1 ∧ e.dst = key.2.1 ∧ ∃ other ∈ conversations ++ [conv], key = other.edgeKey := by
      obtain ⟨src, dst, other, member, same⟩ := ih key e found
      exact ⟨src, dst, other, List.mem_append_left _ member, same⟩
    split_ifs at found with skipped
    · exact before found
    · split at found
      · rename_i merged there
        rw [PyDict.get_set] at found
        split_ifs at found with same
        · subst same
          cases found
          obtain ⟨src, dst, -⟩ := ih _ _ there
          exact ⟨src, dst, conv, by simp, rfl⟩
        · exact before found
      · rw [PyDict.get_set] at found
        split_ifs at found with same
        · subst same
          cases found
          exact ⟨rfl, rfl, conv, by simp, rfl⟩
        · exact before found

theorem edge_endpoints {e : TopologyEdge} (member : e ∈ (buildGraph services skipEphemeral conversations).2) :
    e.src ∈ endpoints conversations ∧ e.dst ∈ endpoints conversations := by
  obtain ⟨⟨key, _⟩, present, rfl⟩ := List.mem_map.mp member
  obtain ⟨src, dst, conv, own, rfl⟩ :=
    edgeMap_endpoints services skipEphemeral conversations _ _ (PyDict.mem_items_iff.mp present)
  exact ⟨mem_endpoints.mpr ⟨conv, own, .inl src⟩, mem_endpoints.mpr ⟨conv, own, .inr dst⟩⟩

end Graph

theorem get_indexBy (key : Conversation → String) (conversations : List Conversation) (k : String) :
    ((indexBy key conversations).get k).getD [] = conversations.filter (key · = k) := by
  induction conversations using List.reverseRecOn with
  | nil => rfl
  | append_singleton conversations conv ih =>
    rw [indexBy, List.foldl_append, List.foldl_cons, List.foldl_nil, ← indexBy, PyDict.get_set, List.filter_append, ← ih]
    by_cases own : key conv = k
    · rw [if_pos own, own, Option.getD_some, List.filter_cons_of_pos (by simpa using own), List.filter_nil]
    · rw [if_neg own, List.filter_cons_of_neg (by simpa using own), List.filter_nil, List.append_nil]

end Marlinspike.Topology.Endpoints
