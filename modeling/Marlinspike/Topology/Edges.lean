import Marlinspike.Gathering
import Marlinspike.Topology.Keys

/-!
The edges after the MAC-keyed nodes have been merged. When the graph is built there is one edge for
each key, gathered from its conversations (`get_edgeMap`), and merging nodes moves the ends of edges
but never joins two of them: they are unique, with nothing lost, exactly if no two keys are moved
onto each other (`edges_conserved_iff`).
-/
namespace Marlinspike.Topology.Edges
open Marlinspike.Gathering
open Marlinspike.Renaming
open Marlinspike.Topology.Graph
open Marlinspike.Topology.Endpoints
open Marlinspike.Topology.Merge
open Marlinspike.Topology.Keys

def TopologyEdge.key (e : TopologyEdge) : EdgeKey := (e.src, e.dst, e.protocol, e.dstPort, e.transport)

def moveKey (into : String → String) (key : EdgeKey) : EdgeKey := (into key.1, into key.2.1, key.2.2)

theorem key_moveEdge (into : String → String) (e : TopologyEdge) :
    TopologyEdge.key (moveEdge into e) = moveKey into (TopologyEdge.key e) := rfl

/-- The conversations that are not skipped as ephemeral. -/
def carried (skipEphemeral : Bool) (conversations : List Conversation) : List Conversation :=
  conversations.filter fun conv => !(skipEphemeral && decide (ephemeralPortMin ≤ conv.port))

/-- An edge for each key, with all conversations. -/
structure Conserved (skipEphemeral : Bool) (conversations : List Conversation) (m : Merging) : Prop where
  unique : (m.builder.edges.map TopologyEdge.key).Nodup
  count : (m.builder.edges.map TopologyEdge.conversationCount).sum = (carried skipEphemeral conversations).length
  bytes : (m.builder.edges.map TopologyEdge.bytesTotal).sum =
    ((carried skipEphemeral conversations).map Conversation.bytesTotal).sum
  writes : ∀ e ∈ m.builder.edges, e.includesWrites = true ↔ ∃ conv ∈ carried skipEphemeral conversations,
    moveKey (follow m.merged) conv.edgeKey = TopologyEdge.key e ∧ 0 < conv.modbusWrites
  programs : ∀ e ∈ m.builder.edges, e.includesProgramAccess = true ↔ ∃ conv ∈ carried skipEphemeral conversations,
    moveKey (follow m.merged) conv.edgeKey = TopologyEdge.key e ∧ conv.s7ProgramAccess = true

/-! ### The keys that are moved -/

section Moves
variable (lower : String → String) (conversations : List Conversation)

/-- Where a key of the loop goes after the keys before it: to the management address that it
    advertises, or is advertised as, or else to the last IP that goes with the MAC. -/
def destination (before : List String) (key : String) : Option String :=
  if mgmtAfter conversations before key ≠ "" then some (mgmtAfter conversations before key)
  else ((macToIpOf lower conversations).get (lower key)).filter (· ≠ "")

/-- A key goes to another endpoint, unless that one has gone. -/
def addMove (s : List String × List (String × String)) (key : String) : List String × List (String × String) :=
  (s.1 ++ [key],
    match destination lower conversations s.1 key with
    | some target =>
      if target ∈ endpoints conversations ∧ target ∉ s.2.map Prod.fst then s.2 ++ [(key, target)] else s.2
    | none => s.2)

/-- All moves of keys that the conversations give rise to. -/
def moves : List (String × String) := ((colonKeys conversations).foldl (addMove lower conversations) ([], [])).2

/-- No two conversations of different keys are moved onto one key. -/
def Apart (skipEphemeral : Bool) : Prop :=
  ∀ a ∈ carried skipEphemeral conversations, ∀ b ∈ carried skipEphemeral conversations,
    moveKey (follow (moves lower conversations)) a.edgeKey = moveKey (follow (moves lower conversations)) b.edgeKey →
      a.edgeKey = b.edgeKey

end Moves

section Loop
variable {lower : String → String} {conversations : List Conversation} {built : TopologyBuilder}
  {done : List String} {m : Merging} {key : String}

/-- What is so of the edges, whatever is merged into what. -/
def Moved (built : TopologyBuilder) (m : Merging) : Prop :=
  m.builder.edges = built.edges.map (moveEdge (follow m.merged))

theorem moved_mergeInto (moved : Moved built m) (target : String) (node : TopologyNode) :
    Moved built (mergeInto m key target node) := by
  rw [Moved, mergeInto, moved, List.map_map]
  refine List.map_congr_left fun e _ => ?_
  simp only [Function.comp_apply, rekeyEdge, moveEdge, follow_concat, rename]
  rfl

theorem targetOf_eq {node : TopologyNode} (mgmt : node.mgmtIp = mgmtAfter conversations done key) :
    targetOf lower (macToIpOf lower conversations) key node = destination lower conversations done key := by
  rw [targetOf, destination, mgmt]

/-- One key of the loop. -/
theorem mergeNode_moves (tracked : Tracked lower conversations built done m) (moved : Moved built m)
    (there : ∀ k, built.nodes.get k ≠ none ↔ k ∈ endpoints conversations) (fresh : key ∉ done) (some_ : key ≠ "")
    (member : key ∈ endpoints conversations) :
    ∃ next, mergeNode lower (macToIpOf lower conversations) m key = some next ∧
      Tracked lower conversations built (done ++ [key]) next ∧ Moved built next ∧
      (done ++ [key], next.merged) = addMove lower conversations (done, m.merged) key := by
  have alive := (tracked.alive key).mpr ⟨(there key).mpr member, fun gone => fresh (tracked.firsts.subset gone)⟩
  obtain ⟨node, found⟩ := Option.ne_none_iff_exists'.mp alive
  have is : targetOf lower (macToIpOf lower conversations) key node = destination lower conversations done key :=
    targetOf_eq (tracked.mgmt key node found)
  have reached (target : String) : m.builder.nodes.get target ≠ none ↔
      target ∈ endpoints conversations ∧ target ∉ m.merged.map Prod.fst := by rw [tracked.alive, there]
  rcases mergeNode_cases found with ⟨steps, stuck⟩ | ⟨target, goes, exists_, steps⟩
  · refine ⟨m, steps, tracked_kept tracked found fresh some_ stuck, moved, ?_⟩
    rw [addMove, ← is]
    cases goes : targetOf lower (macToIpOf lower conversations) key node with
    | none => rfl
    | some target =>
      have stays : ¬ (target ∈ endpoints conversations ∧ target ∉ m.merged.map Prod.fst) := by
        rw [← reached]
        exact not_not.mpr (stuck target goes)
      simp only [if_neg stays]
  · refine ⟨_, steps, tracked_merged tracked found fresh some_ goes, moved_mergeInto moved target node, ?_⟩
    rw [addMove, ← is, goes]
    simp only [if_pos ((reached target).mp exists_)]
    rfl

theorem moves_run (there : ∀ k, built.nodes.get k ≠ none ↔ k ∈ endpoints conversations) (rest done : List String)
    (m : Merging) (distinct : (done ++ rest).Nodup) (present : ∀ key ∈ rest, key ≠ "" ∧ key ∈ endpoints conversations)
    (tracked : Tracked lower conversations built done m) (moved : Moved built m) :
    ∃ next, rest.foldlM (mergeNode lower (macToIpOf lower conversations)) m = some next ∧ Moved built next ∧
      next.merged = (rest.foldl (addMove lower conversations) (done, m.merged)).2 := by
  induction rest generalizing done m with
  | nil => exact ⟨m, rfl, moved, rfl⟩
  | cons key rest ih =>
    obtain ⟨some_, member⟩ := present key List.mem_cons_self
    have fresh : key ∉ done := by
      intro before
      exact (List.nodup_append.mp distinct).2.2 key before key List.mem_cons_self rfl
    obtain ⟨next, steps, tracked, moved, same⟩ := mergeNode_moves tracked moved there fresh some_ member
    obtain ⟨last, runs, moved, merged⟩ := ih (done ++ [key]) next (by simpa using distinct)
      (fun k member => present k (List.mem_cons_of_mem _ member)) tracked moved
    refine ⟨last, ?_, moved, ?_⟩
    · rw [List.foldlM_cons, steps]
      exact runs
    · rw [List.foldl_cons, ← same]
      exact merged

end Loop

section Built
variable (services : Services) (skipEphemeral : Bool) (conversations : List Conversation)

/-- The merges are the moves, and the edges have gone with them. -/
theorem topologyOf_moves : ∃ m, topologyOf services skipEphemeral conversations = some m ∧
    m.merged = moves services.lower conversations ∧
    m.builder.edges = (graphed services skipEphemeral conversations).edges.map (moveEdge (follow m.merged)) := by
  have described := described_graph services skipEphemeral conversations
  have same : macKeys (graphed services skipEphemeral conversations).nodes = colonKeys conversations := by
    rw [macKeys, graphed, described.keys]
    rfl
  have distinct : ([] ++ colonKeys conversations).Nodup := by
    rw [List.nil_append, ← same]
    exact (graphed services skipEphemeral conversations).nodes.distinct.filter _
  have present (key : String) (member : key ∈ colonKeys conversations) : key ≠ "" ∧ key ∈ endpoints conversations := by
    obtain ⟨member, colon⟩ := List.mem_filter.mp member
    refine ⟨?_, member⟩
    rintro rfl
    simp at colon
  obtain ⟨looped, runs, moved, merged⟩ := moves_run (fun _ => keys_graphed services skipEphemeral conversations)
    (colonKeys conversations) [] _ distinct present (tracked_graphed services skipEphemeral conversations)
    (List.map_id _).symm
  rw [topologyOf, mergeL2Nodes, same, runs, Option.map_some]
  exact ⟨_, rfl, merged, moved⟩

/-! ### The edges of the graph -/

/-- The edges while the graph is built. -/
def edgeMapOf : PyDict EdgeKey TopologyEdge :=
  (conversations.foldl (addConversation services skipEphemeral) .empty).edgeMap

theorem edgeMapOf_concat (conv : Conversation) :
    edgeMapOf services skipEphemeral (conversations ++ [conv]) =
      addToEdges services skipEphemeral (edgeMapOf services skipEphemeral conversations) conv := by
  rw [edgeMapOf, List.foldl_append]
  rfl

theorem carried_concat (conv : Conversation) :
    carried skipEphemeral (conversations ++ [conv]) = carried skipEphemeral conversations ++
      if skipEphemeral ∧ ephemeralPortMin ≤ conv.port then [] else [conv] := by
  rw [carried, List.filter_append, ← carried]
  by_cases skipped : skipEphemeral ∧ ephemeralPortMin ≤ conv.port
  · simp [skipped]
  · have kept : (!(skipEphemeral && decide (ephemeralPortMin ≤ conv.port))) = true := by
      simpa [imp_iff_not_or] using skipped
    rw [if_neg skipped]
    simp only [List.filter, kept]

/-- The edge of a key is gathered from the conversations of the key. -/
theorem get_edgeMap (key : EdgeKey) : (edgeMapOf services skipEphemeral conversations).get key =
    gather (TopologyEdge.new services) TopologyEdge.merge
      ((carried skipEphemeral conversations).filter (·.edgeKey = key)) := by
  induction conversations using List.reverseRecOn with
  | nil => rfl
  | append_singleton conversations conv ih =>
    rw [edgeMapOf_concat, carried_concat, addToEdges]
    by_cases skipped : skipEphemeral ∧ ephemeralPortMin ≤ conv.port
    · rw [if_pos skipped, if_pos skipped, List.append_nil, ih]
    rw [if_neg skipped, if_neg skipped, List.filter_append]
    by_cases own : conv.edgeKey = key
    · subst own
      rw [List.filter_cons_of_pos (by simp), List.filter_nil, gather_concat, ← ih]
      cases (edgeMapOf services skipEphemeral conversations).get conv.edgeKey with
      | none => simp
      | some e => simp
    · rw [List.filter_cons_of_neg (by simpa using own), List.filter_nil, List.append_nil, ← ih]
      split
      · rw [PyDict.get_set, if_neg own]
      · rw [PyDict.get_set, if_neg own]

/-- What is counted over all edges, conversation by conversation. -/
theorem sum_edgeMap (amount : TopologyEdge → Nat) (own : Conversation → Nat)
    (first : ∀ conv, amount (.new services conv) = own conv)
    (next : ∀ e conv, amount (TopologyEdge.merge e conv) = amount e + own conv) :
    ((edgeMapOf services skipEphemeral conversations).items.map fun item => amount item.2).sum =
      ((carried skipEphemeral conversations).map own).sum := by
  induction conversations using List.reverseRecOn with
  | nil => rfl
  | append_singleton conversations conv ih =>
    rw [edgeMapOf_concat, carried_concat, addToEdges]
    by_cases skipped : skipEphemeral ∧ ephemeralPortMin ≤ conv.port
    · rw [if_pos skipped, if_pos skipped, List.append_nil, ih]
    rw [if_neg skipped, if_neg skipped, List.map_append, List.sum_append, ← ih]
    have sum := PyDict.sum_set amount (edgeMapOf services skipEphemeral conversations) conv.edgeKey
    cases found : (edgeMapOf services skipEphemeral conversations).get conv.edgeKey with
    | none =>
      have added := sum (.new services conv)
      rw [found, Option.elim_none, first] at added
      simpa using added
    | some e =>
      have added := sum (e.merge conv)
      rw [found, Option.elim_some, next] at added
      simp only [List.map_cons, List.map_nil, List.sum_cons, List.sum_nil]
      omega

theorem graphed_edges : (graphed services skipEphemeral conversations).edges =
    (edgeMapOf services skipEphemeral conversations).items.map Prod.snd := rfl

section Edge
variable {services skipEphemeral conversations} {item : EdgeKey × TopologyEdge}
  (member : item ∈ (edgeMapOf services skipEphemeral conversations).items)
include member

theorem gathered_edge : gather (TopologyEdge.new services) TopologyEdge.merge
    ((carried skipEphemeral conversations).filter (·.edgeKey = item.1)) = some item.2 := by
  rw [← get_edgeMap]
  exact PyDict.get_of_mem_items member

theorem key_of_edge : TopologyEdge.key item.2 = item.1 := by
  obtain ⟨conv, among, same⟩ := chosen_of_gather (gathered_edge member) TopologyEdge.key Conversation.edgeKey
    (fun _ => rfl) (fun _ _ => .inl rfl)
  rw [same]
  simpa using (List.mem_filter.mp among).2

/-- What an edge has from some conversation. -/
theorem flag_of_edge (flag : TopologyEdge → Bool) (own : Conversation → Prop)
    (first : ∀ conv, flag (.new services conv) = true ↔ own conv)
    (next : ∀ e conv, flag (TopologyEdge.merge e conv) = true ↔ flag e = true ∨ own conv) :
    flag item.2 = true ↔ ∃ conv ∈ carried skipEphemeral conversations, conv.edgeKey = item.1 ∧ own conv := by
  have gathered := mem_of_gather (gathered_edge member) (fun (_ : Unit) e => flag e = true) (fun _ conv => own conv)
    (fun _ => first) (fun _ => next) ()
  rw [gathered]
  simp [and_assoc]

end Edge

theorem mem_keys_edgeMap {key : EdgeKey} : key ∈ (edgeMapOf services skipEphemeral conversations).items.map Prod.fst ↔
    ∃ conv ∈ carried skipEphemeral conversations, conv.edgeKey = key := by
  rw [PyDict.mem_keys_iff, get_edgeMap, ne_eq, gather_eq_none_iff, List.filter_eq_nil_iff]
  simp

/-! ### The edges after the merges -/

/-- The keys of the moved edges are unique exactly if no two keys are moved onto each other. -/
theorem unique_iff (into : String → String) :
    ((((edgeMapOf services skipEphemeral conversations).items.map Prod.snd).map (moveEdge into)).map
        TopologyEdge.key).Nodup ↔
      ∀ a ∈ carried skipEphemeral conversations, ∀ b ∈ carried skipEphemeral conversations,
        moveKey into a.edgeKey = moveKey into b.edgeKey → a.edgeKey = b.edgeKey := by
  have keys : (((edgeMapOf services skipEphemeral conversations).items.map Prod.snd).map (moveEdge into)).map
      TopologyEdge.key = ((edgeMapOf services skipEphemeral conversations).items.map Prod.fst).map (moveKey into) := by
    rw [List.map_map, List.map_map, List.map_map]
    refine List.map_congr_left fun item member => ?_
    simp only [Function.comp_apply, key_moveEdge, key_of_edge member]
  have distinct : ((edgeMapOf services skipEphemeral conversations).items.map Prod.fst).Nodup :=
    (edgeMapOf services skipEphemeral conversations).distinct
  rw [keys, List.nodup_map_iff_inj_on distinct]
  simp only [mem_keys_edgeMap]
  constructor
  · intro injective a inA b inB same
    exact injective _ ⟨a, inA, rfl⟩ _ ⟨b, inB, rfl⟩ same
  · rintro apart _ ⟨a, inA, rfl⟩ _ ⟨b, inB, rfl⟩ same
    exact apart a inA b inB same

/-- A flag of a moved edge is that of the conversations that are moved to its key. -/
theorem flag_of_moved {into : String → String} (apart : ∀ a ∈ carried skipEphemeral conversations,
      ∀ b ∈ carried skipEphemeral conversations, moveKey into a.edgeKey = moveKey into b.edgeKey → a.edgeKey = b.edgeKey)
    (flag : TopologyEdge → Bool) (own : Conversation → Prop)
    (first : ∀ conv, flag (.new services conv) = true ↔ own conv)
    (next : ∀ e conv, flag (TopologyEdge.merge e conv) = true ↔ flag e = true ∨ own conv)
    (kept : ∀ e, flag (moveEdge into e) = flag e) :
    ∀ e ∈ ((edgeMapOf services skipEphemeral conversations).items.map Prod.snd).map (moveEdge into),
      flag e = true ↔ ∃ conv ∈ carried skipEphemeral conversations,
        moveKey into conv.edgeKey = TopologyEdge.key e ∧ own conv := by
  intro e among
  obtain ⟨_, before, rfl⟩ := List.mem_map.mp among
  obtain ⟨item, member, rfl⟩ := List.mem_map.mp before
  rw [kept, flag_of_edge member flag own first next, key_moveEdge, key_of_edge member]
  obtain ⟨here, inHere, isHere⟩ := (mem_keys_edgeMap ..).mp (List.mem_map_of_mem member)
  constructor
  · rintro ⟨conv, inside, same, has⟩
    exact ⟨conv, inside, by rw [same], has⟩
  · rintro ⟨conv, inside, same, has⟩
    rw [← isHere] at same ⊢
    exact ⟨conv, inside, apart conv inside here inHere same, has⟩

/-- There is an edge for each key, with all conversations, exactly if no two keys are moved onto
each other. -/
theorem edges_conserved_iff : (∃ m, topologyOf services skipEphemeral conversations = some m ∧
      Conserved skipEphemeral conversations m) ↔ Apart services.lower conversations skipEphemeral := by
  obtain ⟨m, runs, merged, edges⟩ := topologyOf_moves services skipEphemeral conversations
  rw [graphed_edges] at edges
  have unique := unique_iff services skipEphemeral conversations (follow m.merged)
  rw [← edges, merged] at unique
  constructor
  · rintro ⟨other, is, conserved⟩
    obtain rfl := Option.some.inj (runs.symm.trans is)
    exact unique.mp conserved.unique
  · intro apart
    have onMoved := apart
    rw [Apart, ← merged] at onMoved
    refine ⟨m, runs, unique.mpr apart, ?_, ?_, ?_, ?_⟩
    · have sum := sum_edgeMap services skipEphemeral conversations TopologyEdge.conversationCount (fun _ => 1)
        (fun _ => rfl) (fun _ _ => rfl)
      rw [edges, List.map_map, List.map_map]
      refine Eq.trans sum ?_
      simp
    · have sum := sum_edgeMap services skipEphemeral conversations TopologyEdge.bytesTotal Conversation.bytesTotal
        (fun _ => rfl) (fun _ _ => rfl)
      rw [edges, List.map_map, List.map_map]
      exact sum
    · rw [edges]
      exact flag_of_moved services skipEphemeral conversations onMoved TopologyEdge.includesWrites
        (0 < ·.modbusWrites) (fun conv => by simp [TopologyEdge.new]) (fun e conv => by simp [TopologyEdge.merge])
        (fun _ => rfl)
    · rw [edges]
      exact flag_of_moved services skipEphemeral conversations onMoved TopologyEdge.includesProgramAccess
        (·.s7ProgramAccess = true) (fun conv => by simp [TopologyEdge.new]) (fun e conv => by simp [TopologyEdge.merge])
        (fun _ => rfl)

end Built

/-! ### A switch with two ports -/

/-- An announcement of a switch from one of its ports. -/
def announcement (srcMac : String) : Conversation where
  srcIp := ""
  dstIp := ""
  srcMac := srcMac
  dstMac := "01:80:c2:00:00:0e"
  protocol := "LLDP"
  port := 0
  packetCount := 1
  bytesTotal := 60
  firstSeen := ""
  lastSeen := ""
  l2Discovery := some ⟨some "lldp", "switch", "", "10.0.0.2", ["Bridge"], [], [], "", none, none⟩

/-- A switch that announces its address from two ports, and its management traffic. -/
def twoPorts : List Conversation :=
  [announcement "00:11:22:33:44:01", announcement "00:11:22:33:44:02",
    { srcIp := "10.0.0.9", dstIp := "10.0.0.2", srcMac := "00:11:22:33:44:66", dstMac := "00:11:22:33:44:03"
      protocol := "HTTPS", port := 443, packetCount := 9, bytesTotal := 1200, firstSeen := "", lastSeen := ""
      transport := "tcp", srcPortsSeen := [50000] }]

/-- Both ports' nodes are merged into the switch's, and two edges have the same key. -/
theorem two_ports_one_key : ¬∃ m, topologyOf fewServices false twoPorts = some m ∧ Conserved false twoPorts m := by
  have twice : (topologyOf fewServices false twoPorts).map (fun m =>
      decide (m.builder.edges.map TopologyEdge.key).Nodup) = some false := by decide +kernel
  rintro ⟨m, runs, conserved⟩
  rw [runs, Option.map_some, Option.some.injEq] at twice
  exact of_decide_eq_false twice conserved.unique

end Marlinspike.Topology.Edges
