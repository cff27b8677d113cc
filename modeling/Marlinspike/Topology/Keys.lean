import Marlinspike.Renaming
import Marlinspike.Topology.Endpoints
import Marlinspike.Topology.Merge

/-!
When the graph is well formed after its MAC-keyed nodes have been merged: exactly if none
of them is merged into itself (`topology_well_formed_iff`). A key with a colon may be that
of an IPv6 host, and such a host that advertises its own address, or whose address another
node advertises, is its own target and is deleted.
-/
namespace Marlinspike.Topology.Keys
open Marlinspike.Renaming
open Marlinspike.Topology.Graph
open Marlinspike.Topology.Endpoints
open Marlinspike.Topology.Merge

/-- An edge between the keys that its ends have become. -/
def moveEdge (into : String → String) (e : TopologyEdge) : TopologyEdge :=
  { e with src := into e.src, dst := into e.dst }

/-- The graph after the merges: each key is kept, or replaced throughout by the key of the
    node that it was merged into. -/
structure WellFormed (conversations : List Conversation) (built : TopologyBuilder) (m : Merging) : Prop where
  joined : ∀ e ∈ m.builder.edges, m.builder.nodes.get e.src ≠ none ∧ m.builder.nodes.get e.dst ≠ none
  named : ∀ key node, m.builder.nodes.get key = some node → key = either node.ip node.mac
  replaced : ∀ key ∈ endpoints conversations, m.builder.nodes.get (follow m.merged key) ≠ none ∧
    (m.builder.nodes.get key ≠ none → follow m.merged key = key)
  edges : m.builder.edges = built.edges.map (moveEdge (follow m.merged))
  bySrc : ∀ key, ((m.builder.convBySrc.get key).getD []).Perm
    (conversations.filter fun conv => follow m.merged conv.srcKey = key)
  byDst : ∀ key, ((m.builder.convByDst.get key).getD []).Perm
    (conversations.filter fun conv => follow m.merged conv.dstKey = key)

/-! ### Nodes that are their own target -/

section Loop
variable (lower : String → String) (conversations : List Conversation)

/-- The keys of the loop. -/
def colonKeys : List String := (endpoints conversations).filter fun k => k.toList.contains ':'

/-- A key of the loop that is its own target, after the keys before it. -/
def OwnTarget (before : List String) (key : String) : Prop :=
  mgmtOf conversations key = key ∨ mgmtOf conversations key = "" ∧
    ((∃ other ∈ before, mgmtOf conversations other = key) ∨
      (macToIpOf lower conversations).get (lower key) = some key)

/-- No key of the loop is its own target. -/
def NoOwnTarget : Prop :=
  ∀ before key after, colonKeys conversations = before ++ key :: after → ¬OwnTarget lower conversations before key

/-- The management address of a node after some keys of the loop: its own, or else one that
    a node has been merged into it by. -/
def mgmtAfter (done : List String) (key : String) : String :=
  if mgmtOf conversations key = "" ∧ ∃ other ∈ done, mgmtOf conversations other = key then key
  else mgmtOf conversations key

/-- What is so after some keys of the loop, whatever was merged into what. -/
structure Tracked (built : TopologyBuilder) (done : List String) (m : Merging) : Prop where
  alive : ∀ key, m.builder.nodes.get key ≠ none ↔ built.nodes.get key ≠ none ∧ key ∉ m.merged.map Prod.fst
  firsts : (m.merged.map Prod.fst).Sublist done
  named : ∀ key node, m.builder.nodes.get key = some node → either node.ip node.mac = key
  mgmt : ∀ key node, m.builder.nodes.get key = some node → node.mgmtIp = mgmtAfter conversations done key
  selfs : ∀ before key after, done = before ++ key :: after →
    ((key, key) ∈ m.merged ↔ OwnTarget lower conversations before key)

/-- What is so while nothing has been merged into itself. -/
structure Alike (built : TopologyBuilder) (m : Merging) : Prop where
  kept : ∀ key, built.nodes.get key ≠ none → m.builder.nodes.get (follow m.merged key) ≠ none
  edges : m.builder.edges = built.edges.map (moveEdge (follow m.merged))
  bySrc : ∀ key, ((m.builder.convBySrc.get key).getD []).Perm
    (conversations.filter fun conv => follow m.merged conv.srcKey = key)
  byDst : ∀ key, ((m.builder.convByDst.get key).getD []).Perm
    (conversations.filter fun conv => follow m.merged conv.dstKey = key)

end Loop

/-! ### One key of the loop -/

section Step
variable {lower : String → String} {macToIp : PyDict String String} {m : Merging} {key : String}

theorem targetOf_ne_empty {node : TopologyNode} {target : String}
    (is : targetOf lower macToIp key node = some target) : target ≠ "" := by
  unfold targetOf at is
  split_ifs at is with some_
  · cases is
    exact some_
  · simpa using (Option.filter_eq_some_iff.mp is).2

/-- Nothing happens, or the node is merged into its target. -/
theorem mergeNode_cases {node : TopologyNode} (present : m.builder.nodes.get key = some node) :
    (mergeNode lower macToIp m key = some m ∧
      ∀ target, targetOf lower macToIp key node = some target → m.builder.nodes.get target = none) ∨
    ∃ target, targetOf lower macToIp key node = some target ∧ m.builder.nodes.get target ≠ none ∧
      mergeNode lower macToIp m key = some (mergeInto m key target node) := by
  unfold mergeNode
  simp only [present]
  cases is : targetOf lower macToIp key node with
  | none => exact .inl ⟨rfl, fun _ is => by cases is⟩
  | some target =>
    by_cases absent : m.builder.nodes.get target = none
    · refine .inl ⟨if_pos absent, ?_⟩
      rintro _ ⟨⟩
      exact absent
    · exact .inr ⟨target, rfl, absent, if_neg absent⟩

theorem get_mergeInto (target : String) (node : TopologyNode) (k : String) :
    (mergeInto m key target node).builder.nodes.get k =
      if key = k then none
      else if target = k then (m.builder.nodes.get k).map (TopologyNode.absorbs · node)
      else m.builder.nodes.get k := by
  rw [mergeInto, PyDict.get_pop, PyDict.get_modify]

end Step

section Tracking
variable {lower : String → String} {conversations : List Conversation} {built : TopologyBuilder}
  {done : List String} {m : Merging} {key : String} {node : TopologyNode}

theorem mgmtAfter_of_ne {k : String} (own : mgmtOf conversations k ≠ "") :
    mgmtAfter conversations done k = mgmtOf conversations k := if_neg fun given => own given.1

/-- What a key adds to the addresses, it adds to the one that it advertises. -/
theorem mgmtAfter_concat {k : String} (other : mgmtOf conversations key ≠ k) :
    mgmtAfter conversations (done ++ [key]) k = mgmtAfter conversations done k := by
  unfold mgmtAfter
  simp [or_and_right, exists_or, other]

/-- A key is its own target exactly if the loop takes it for its own. -/
theorem ownTarget_iff (some_ : key ≠ "") (mgmt : node.mgmtIp = mgmtAfter conversations done key) :
    targetOf lower (macToIpOf lower conversations) key node = some key ↔ OwnTarget lower conversations done key := by
  unfold targetOf OwnTarget
  rw [mgmt, mgmtAfter]
  by_cases own : mgmtOf conversations key = ""
  · by_cases given : ∃ other ∈ done, mgmtOf conversations other = key
    · simp [own, given, some_]
    · simp only [own, given, true_and, false_or, if_false, ne_eq, not_true_eq_false, Option.filter_eq_some_iff]
      simp [some_, Ne.symm some_]
  · simp [own]

theorem mgmtAfter_empty : mgmtAfter conversations done "" = mgmtOf conversations "" := by
  unfold mgmtAfter
  split_ifs with given
  · exact given.1.symm
  · rfl

theorem targetOf_of_mgmt {macToIp : PyDict String String} {target : String} (some_ : target ≠ "")
    (mgmt : node.mgmtIp = target) : targetOf lower macToIp key node = some target := by
  rw [targetOf, if_pos (mgmt ▸ some_), mgmt]

section Key
variable (tracked : Tracked lower conversations built done m) (present : m.builder.nodes.get key = some node)
include tracked present

/-- The address that a node other than the target gains is none. -/
theorem mgmtAfter_of_other {k : String} (other : targetOf lower (macToIpOf lower conversations) key node ≠ some k) :
    mgmtAfter conversations (done ++ [key]) k = mgmtAfter conversations done k := by
  by_cases advertised : mgmtOf conversations key = k
  · by_cases some_ : k = ""
    · rw [some_, mgmtAfter_empty, mgmtAfter_empty]
    · have own : node.mgmtIp = k := by
        rw [tracked.mgmt key node present, mgmtAfter_of_ne (by rw [advertised]; exact some_), advertised]
      exact absurd (targetOf_of_mgmt some_ own) other
  · exact mgmtAfter_concat advertised

/-- The target gains the address of the node. -/
theorem mgmtAfter_of_target {target : String}
    (is : targetOf lower (macToIpOf lower conversations) key node = some target) (apart : target ≠ key) :
    either (mgmtAfter conversations done target) node.mgmtIp = mgmtAfter conversations (done ++ [key]) target := by
  by_cases own : mgmtOf conversations target = ""
  · by_cases given : ∃ other ∈ done, mgmtOf conversations other = target
    · have later : ∃ other ∈ done ++ [key], mgmtOf conversations other = target := by
        obtain ⟨other, member, same⟩ := given
        exact ⟨other, List.mem_append_left _ member, same⟩
      rw [mgmtAfter, mgmtAfter, if_pos ⟨own, given⟩, if_pos ⟨own, later⟩, either_of_ne (targetOf_ne_empty is)]
    · have gains : mgmtOf conversations key = target ↔ node.mgmtIp = target := by
        rw [tracked.mgmt key node present, mgmtAfter]
        split_ifs with taken
        · exact ⟨fun same => absurd (same.symm.trans taken.1) (targetOf_ne_empty is), fun same => absurd same.symm apart⟩
        · rfl
      have only : node.mgmtIp = "" ∨ node.mgmtIp = target := by
        unfold targetOf at is
        split_ifs at is with some_
        · exact .inr (Option.some.inj is)
        · exact .inl (not_not.mp some_)
      rw [mgmtAfter, if_neg fun both => given both.2, own, either_empty, mgmtAfter]
      by_cases advertised : mgmtOf conversations key = target
      · rw [if_pos ⟨own, key, by simp, advertised⟩, gains.mp advertised]
      · have none_ : ¬∃ other ∈ done ++ [key], mgmtOf conversations other = target := by
          rintro ⟨other, member, same⟩
          rcases List.mem_append.mp member with before | last
          · exact given ⟨other, before, same⟩
          · rw [List.mem_singleton.mp last] at same
            exact advertised same
        rw [if_neg fun both => none_ both.2, own]
        exact only.resolve_right (mt gains.mpr advertised)
  · rw [mgmtAfter_of_ne own, mgmtAfter_of_ne own, either_of_ne own]

/-- Whether a key is its own target is settled when the loop comes to it. -/
theorem selfs_step {next : List (String × String)} (fresh : key ∉ done) (some_ : key ≠ "")
    (before_ : ∀ other ∈ done, (other, other) ∈ next ↔ (other, other) ∈ m.merged)
    (self : (key, key) ∈ next ↔ targetOf lower (macToIpOf lower conversations) key node = some key)
    (before : List String) (k : String) (after : List String) (split_ : done ++ [key] = before ++ k :: after) :
    (k, k) ∈ next ↔ OwnTarget lower conversations before k := by
  rcases List.eq_nil_or_concat after with rfl | ⟨after, last, rfl⟩
  · obtain ⟨rfl, same⟩ := List.append_inj' split_ rfl
    obtain rfl := List.head_eq_of_cons_eq same
    exact self.trans (ownTarget_iff some_ (tracked.mgmt key node present))
  · rw [List.concat_eq_append, ← List.cons_append, ← List.append_assoc] at split_
    obtain ⟨rfl, -⟩ := List.append_inj' split_ rfl
    exact (before_ k (by simp)).trans (tracked.selfs before k after rfl)

/-- Nothing happens to a node without a target. -/
theorem tracked_kept (fresh : key ∉ done) (some_ : key ≠ "") (stuck : ∀ target,
    targetOf lower (macToIpOf lower conversations) key node = some target → m.builder.nodes.get target = none) :
    Tracked lower conversations built (done ++ [key]) m where
  alive := tracked.alive
  firsts := tracked.firsts.trans (List.sublist_append_left ..)
  named := tracked.named
  mgmt k other found := by
    rw [mgmtAfter_of_other tracked present fun is => by simp [stuck k is] at found]
    exact tracked.mgmt k other found
  selfs := by
    refine selfs_step tracked present fresh some_ (fun _ _ => Iff.rfl) ⟨fun self => ?_, fun is => ?_⟩
    · exact absurd (tracked.firsts.subset (List.mem_map_of_mem self)) fresh
    · exact absurd (stuck key is) (by simp [present])

theorem tracked_merged (fresh : key ∉ done) (some_ : key ≠ "") {target : String}
    (is : targetOf lower (macToIpOf lower conversations) key node = some target) :
    Tracked lower conversations built (done ++ [key]) (mergeInto m key target node) where
  alive k := by
    rw [get_mergeInto]
    by_cases same : key = k
    · simp [mergeInto, same]
    · have alive := tracked.alive k
      have notLast : k ≠ key := Ne.symm same
      by_cases isTarget : target = k
      · simpa [mergeInto, same, isTarget, notLast] using alive
      · simpa [mergeInto, same, isTarget, notLast] using alive
  firsts := by
    rw [mergeInto, List.map_append]
    exact tracked.firsts.append (List.Sublist.refl _)
  named k other found := by
    rw [get_mergeInto] at found
    split_ifs at found with gone isTarget
    · obtain ⟨ipNode, there, rfl⟩ := Option.map_eq_some_iff.mp found
      have own := tracked.named k ipNode there
      have named : either ipNode.ip ipNode.mac ≠ "" := by
        rw [own, ← isTarget]
        exact targetOf_ne_empty is
      rw [TopologyNode.absorbs, either_assoc, either_of_ne named, own]
    · exact tracked.named k other found
  mgmt k other found := by
    rw [get_mergeInto] at found
    split_ifs at found with gone isTarget
    · obtain ⟨ipNode, there, rfl⟩ := Option.map_eq_some_iff.mp found
      subst isTarget
      rw [TopologyNode.absorbs, tracked.mgmt target ipNode there]
      exact mgmtAfter_of_target tracked present is (Ne.symm gone)
    · rw [mgmtAfter_of_other tracked present (by rw [is]; simpa using isTarget)]
      exact tracked.mgmt k other found
  selfs := by
    refine selfs_step tracked present fresh some_ (fun other member => ?_) ?_
    · have apart : other ≠ key := by
        rintro rfl
        exact fresh member
      simp [mergeInto, apart]
    · have unmerged : (key, key) ∉ m.merged := fun self => fresh (tracked.firsts.subset (List.mem_map_of_mem self))
      simp [mergeInto, unmerged, is, eq_comm]

end Key

end Tracking

/-! ### Merges into other nodes -/

theorem get_rekeyIndex {macKey target : String} (apart : target ≠ macKey) (index : Index) (k : String) :
    ((rekeyIndex macKey target index).get k).getD [] =
      if macKey = k then [] else if target = k then (index.get k).getD [] ++ (index.get macKey).getD []
      else (index.get k).getD [] := by
  unfold rekeyIndex
  cases found : index.get macKey with
  | none =>
    by_cases gone : macKey = k
    · subst gone
      simp [found]
    · simp [gone]
  | some moved =>
    simp only [PyDict.get_modify, PyDict.get_pop, PyDict.get_set]
    by_cases gone : macKey = k
    · subst gone
      simp [apart]
    · by_cases isTarget : target = k
      · subst isTarget
        simp [gone]
      · simp [gone, isTarget]

/-- The index follows its keys. -/
theorem rekeyIndex_perm {macKey target : String} (apart : target ≠ macKey) {index : Index}
    {conversations : List Conversation} {key : Conversation → String}
    (indexed : ∀ k, ((index.get k).getD []).Perm (conversations.filter (key · = k))) (k : String) :
    (((rekeyIndex macKey target index).get k).getD []).Perm
      (conversations.filter fun conv => rename (macKey, target) (key conv) = k) := by
  rw [get_rekeyIndex apart]
  split_ifs with gone isTarget
  · rw [← gone, filter_rename_old key conversations apart]
  · rw [← isTarget]
    exact ((indexed target).append (indexed macKey)).trans (filter_rename_new key conversations apart).symm
  · rw [filter_rename_other key conversations (Ne.symm gone) (Ne.symm isTarget)]
    exact indexed k

theorem alike_merged {conversations : List Conversation} {built : TopologyBuilder} {m : Merging} {key target : String}
    {node : TopologyNode} (alike : Alike conversations built m) (apart : target ≠ key)
    (exists_ : m.builder.nodes.get target ≠ none) : Alike conversations built (mergeInto m key target node) where
  kept k there := by
    rw [mergeInto, follow_concat, ← mergeInto, get_mergeInto, rename]
    by_cases moved : follow m.merged k = key
    · simpa [moved, Ne.symm apart] using exists_
    · have kept := alike.kept k there
      rw [if_neg moved, if_neg (Ne.symm moved)]
      split_ifs
      · simpa using kept
      · exact kept
  edges := by
    rw [mergeInto, alike.edges, List.map_map]
    refine List.map_congr_left fun e _ => ?_
    simp only [Function.comp_apply, rekeyEdge, moveEdge, follow_concat, rename]
    rfl
  bySrc k := by
    simp only [mergeInto, follow_concat]
    exact rekeyIndex_perm apart alike.bySrc k
  byDst k := by
    simp only [mergeInto, follow_concat]
    exact rekeyIndex_perm apart alike.byDst k

/-! ### The whole loop -/

section Run
variable {lower : String → String} {conversations : List Conversation} {built : TopologyBuilder}

/-- Some more keys of the loop. -/
theorem tracked_run (rest done : List String) (m : Merging) (distinct : (done ++ rest).Nodup)
    (present : ∀ key ∈ rest, key ≠ "" ∧ built.nodes.get key ≠ none)
    (tracked : Tracked lower conversations built done m)
    (alike : (∀ key, (key, key) ∉ m.merged) → Alike conversations built m) :
    ∃ next, rest.foldlM (mergeNode lower (macToIpOf lower conversations)) m = some next ∧
      Tracked lower conversations built (done ++ rest) next ∧
      ((∀ key, (key, key) ∉ next.merged) → Alike conversations built next) := by
  induction rest generalizing done m with
  | nil => exact ⟨m, rfl, by rwa [List.append_nil], alike⟩
  | cons key rest ih =>
    obtain ⟨some_, there⟩ := present key List.mem_cons_self
    have fresh : key ∉ done := by
      intro before
      exact (List.nodup_append.mp distinct).2.2 key before key List.mem_cons_self rfl
    have alive := (tracked.alive key).mpr ⟨there, fun gone => fresh (tracked.firsts.subset gone)⟩
    obtain ⟨node, found⟩ := Option.ne_none_iff_exists'.mp alive
    have step : ∃ next, mergeNode lower (macToIpOf lower conversations) m key = some next ∧
        Tracked lower conversations built (done ++ [key]) next ∧
        ((∀ k, (k, k) ∉ next.merged) → Alike conversations built next) := by
      rcases mergeNode_cases found with ⟨steps, stuck⟩ | ⟨target, is, exists_, steps⟩
      · exact ⟨m, steps, tracked_kept tracked found fresh some_ stuck, alike⟩
      · refine ⟨_, steps, tracked_merged tracked found fresh some_ is, fun others => ?_⟩
        have before : ∀ k, (k, k) ∉ m.merged := fun k self => others k (List.mem_append_left _ self)
        have apart : target ≠ key := by
          rintro rfl
          exact others target (List.mem_append_right _ List.mem_cons_self)
        exact alike_merged (alike before) apart exists_
    obtain ⟨next, steps, tracked, alike⟩ := step
    obtain ⟨last, runs, tracked, alike⟩ := ih (done ++ [key]) next (by simpa using distinct)
      (fun k member => present k (List.mem_cons_of_mem _ member)) tracked alike
    refine ⟨last, ?_, by simpa using tracked, alike⟩
    rw [List.foldlM_cons, steps]
    exact runs

theorem macToIpOf_ne_empty (mac ip : String) : (macToIpOf lower conversations).get mac = some ip → ip ≠ "" := by
  have paired {macToIp : PyDict String String} (before : ∀ mac ip, macToIp.get mac = some ip → ip ≠ "") (mac ip : String) :
      ∀ k v, (pairMac lower macToIp mac ip).get k = some v → v ≠ "" := by
    intro k v found
    unfold pairMac at found
    split_ifs at found with both
    · rw [PyDict.get_set] at found
      split_ifs at found
      · cases found
        exact both.2
      · exact before k v found
    · exact before k v found
  induction conversations using List.reverseRecOn generalizing mac ip with
  | nil =>
    intro found
    cases found
  | append_singleton conversations conv ih =>
    rw [macToIpOf, List.foldl_append]
    exact paired (paired ih conv.srcMac conv.srcIp) conv.dstMac conv.dstIp mac ip

/-- A MAC that is filled in changes no key. -/
theorem backfilled (pairs : List (String × String)) (ips : ∀ pair ∈ pairs, pair.2 ≠ "") (nodes : Nodes)
    (named : ∀ key node, nodes.get key = some node → either node.ip node.mac = key) :
    (∀ key, (pairs.foldl backfillMac nodes).get key = none ↔ nodes.get key = none) ∧
      ∀ key node, (pairs.foldl backfillMac nodes).get key = some node → either node.ip node.mac = key := by
  induction pairs generalizing nodes with
  | nil => exact ⟨fun _ => Iff.rfl, named⟩
  | cons pair rest ih =>
    have filled := named_modify named pair.2 (fun node => { node with mac := either node.mac pair.1 }) fun node own => by
      rw [either_assoc, own, either_of_ne (ips pair List.mem_cons_self)]
    obtain ⟨keys, named⟩ := ih (fun other member => ips other (List.mem_cons_of_mem _ member)) _ filled
    refine ⟨fun key => (keys key).trans ?_, named⟩
    exact PyDict.get_modify_eq_none ..

end Run

section Topology
variable (services : Services) (skipEphemeral : Bool) (conversations : List Conversation)

theorem keys_graphed {key : String} :
    (graphed services skipEphemeral conversations).nodes.get key ≠ none ↔ key ∈ endpoints conversations := by
  rw [← (described_graph services skipEphemeral conversations).keys]
  exact PyDict.mem_keys_iff.symm

theorem tracked_graphed : Tracked services.lower conversations (graphed services skipEphemeral conversations) []
    ⟨graphed services skipEphemeral conversations, []⟩ where
  alive key := by simp
  firsts := List.Sublist.refl _
  named := (described_graph services skipEphemeral conversations).named
  mgmt key node found := by
    rw [mgmtAfter, if_neg (by simp)]
    exact (described_graph services skipEphemeral conversations).mgmt key node found
  selfs before key after split_ := by simp at split_

theorem alike_graphed : Alike conversations (graphed services skipEphemeral conversations)
    ⟨graphed services skipEphemeral conversations, []⟩ where
  kept _ there := there
  edges := (List.map_id _).symm
  bySrc key := by
    rw [graphed, get_indexBy]
    exact List.Perm.refl _
  byDst key := by
    rw [graphed, get_indexBy]
    exact List.Perm.refl _

/-- The merges and what is so after them. -/
theorem topologyOf_tracked : ∃ looped m, topologyOf services skipEphemeral conversations = some m ∧
    Tracked services.lower conversations (graphed services skipEphemeral conversations)
      (colonKeys conversations) looped ∧
    ((∀ key, (key, key) ∉ looped.merged) → Alike conversations (graphed services skipEphemeral conversations) looped) ∧
    m = { looped with
      builder := { looped.builder with nodes := m.builder.nodes } } ∧
    (∀ key, m.builder.nodes.get key = none ↔ looped.builder.nodes.get key = none) ∧
    ∀ key node, m.builder.nodes.get key = some node → either node.ip node.mac = key := by
  have same : macKeys (graphed services skipEphemeral conversations).nodes = colonKeys conversations := by
    rw [macKeys, graphed, (described_graph services skipEphemeral conversations).keys]
    rfl
  have distinct : ([] ++ colonKeys conversations).Nodup := by
    rw [List.nil_append, ← same]
    exact (graphed services skipEphemeral conversations).nodes.distinct.filter _
  have present (key : String) (member : key ∈ colonKeys conversations) :
      key ≠ "" ∧ (graphed services skipEphemeral conversations).nodes.get key ≠ none := by
    obtain ⟨member, colon⟩ := List.mem_filter.mp member
    refine ⟨?_, (keys_graphed ..).mpr member⟩
    rintro rfl
    simp at colon
  obtain ⟨looped, runs, tracked, alike⟩ := tracked_run (colonKeys conversations) [] _ distinct present
    (tracked_graphed services skipEphemeral conversations) fun _ => alike_graphed services skipEphemeral conversations
  obtain ⟨keys, named⟩ := backfilled (macToIpOf services.lower conversations).items
    (fun pair member => macToIpOf_ne_empty pair.1 pair.2 (PyDict.mem_items_iff.mp member)) looped.builder.nodes tracked.named
  refine ⟨looped, ⟨{ looped.builder with
      nodes := (macToIpOf services.lower conversations).items.foldl backfillMac looped.builder.nodes }, looped.merged⟩,
    ?_, tracked, alike, rfl, keys, named⟩
  rw [topologyOf, mergeL2Nodes, same, runs]
  rfl

/-- The merged graph is well formed exactly if no node is merged into itself. -/
theorem topology_well_formed_iff : (∃ m, topologyOf services skipEphemeral conversations = some m ∧
      WellFormed conversations (graphed services skipEphemeral conversations) m) ↔
    NoOwnTarget services.lower conversations := by
  obtain ⟨looped, m, runs, tracked, alike, looks, keys, named⟩ := topologyOf_tracked services skipEphemeral conversations
  have merged : m.merged = looped.merged := by rw [looks]
  constructor
  · rintro ⟨_, is, wellFormed⟩ before key after split_ own
    cases runs.symm.trans is
    have self := (tracked.selfs before key after split_).mpr own
    have distinct : (looped.merged.map Prod.fst).Nodup := by
      refine tracked.firsts.nodup ?_
      rw [colonKeys, ← (described_graph services skipEphemeral conversations).keys]
      exact (graphed services skipEphemeral conversations).nodes.distinct.filter _
    have member : key ∈ endpoints conversations := by
      refine (List.mem_filter.mp (?_ : key ∈ colonKeys conversations)).1
      rw [split_]
      simp
    have kept := (wellFormed.replaced key member).1
    rw [merged, follow_of_self distinct self, ne_eq, keys] at kept
    exact ((tracked.alive key).mp kept).2 (List.mem_map_of_mem self)
  · intro none_
    have others (key : String) : (key, key) ∉ looped.merged := by
      intro self
      obtain ⟨before, after, split_⟩ := List.append_of_mem (tracked.firsts.subset (List.mem_map_of_mem self))
      exact none_ before key after split_ ((tracked.selfs before key after split_).mp self)
    have alike := alike others
    have edges : m.builder.edges = looped.builder.edges := by rw [looks]
    have bySrc : m.builder.convBySrc = looped.builder.convBySrc := by rw [looks]
    have byDst : m.builder.convByDst = looped.builder.convByDst := by rw [looks]
    have kept {key : String} (member : key ∈ endpoints conversations) :
        m.builder.nodes.get (follow m.merged key) ≠ none := by
      rw [ne_eq, keys, merged]
      exact alike.kept key ((keys_graphed ..).mpr member)
    refine ⟨m, runs, ?_, ?_, ?_, ?_, ?_, ?_⟩
    · intro e member
      rw [edges, alike.edges, List.mem_map] at member
      obtain ⟨before, member, rfl⟩ := member
      obtain ⟨src, dst⟩ := edge_endpoints services skipEphemeral conversations member
      rw [moveEdge, ← merged]
      exact ⟨kept src, kept dst⟩
    · exact fun key node found => (named key node found).symm
    · refine fun key member => ⟨kept member, fun there => ?_⟩
      rw [ne_eq, keys] at there
      rw [merged]
      exact follow_of_not_mem ((tracked.alive key).mp there).2
    · rw [edges, alike.edges, merged]
    · rw [bySrc, merged]
      exact alike.bySrc
    · rw [byDst, merged]
      exact alike.byDst

end Topology

/-! ### A host that is its own target -/

/-- Services that name two ports. -/
def fewServices : Services where
  otProtocols port := if port = 502 then some "Modbus/TCP" else none
  wellKnownPorts port := if port = 443 then some ("HTTPS", "Web") else none
  lower := String.toLower
  upper := String.toUpper
  isDigit s := s ≠ "" ∧ s.all Char.isDigit

/-- A switch that advertises its IPv6 address by LLDP, and its management traffic. -/
def ipv6Switch : List Conversation :=
  let advertised : L2Discovery := ⟨some "lldp", "switch", "", "fe80::1", ["Bridge"], [], [], "", none, none⟩
  [{ srcIp := "", dstIp := "", srcMac := "00:11:22:33:44:55", dstMac := "01:80:c2:00:00:0e", protocol := "LLDP"
     port := 0, packetCount := 1, bytesTotal := 60, firstSeen := "", lastSeen := "", l2Discovery := some advertised },
   { srcIp := "fe80::1", dstIp := "fe80::2", srcMac := "00:11:22:33:44:55", dstMac := "00:11:22:33:44:66"
     protocol := "HTTPS", port := 443, packetCount := 9, bytesTotal := 1200, firstSeen := "", lastSeen := ""
     transport := "tcp", srcPortsSeen := [50000] }]

/-- The switch's own node, which has the address from the first merge, is merged into itself
    and taken out; both edges still start there. -/
theorem ipv6_switch_not_well_formed : ¬∃ m, topologyOf fewServices false ipv6Switch = some m ∧
    WellFormed ipv6Switch (graphed fewServices false ipv6Switch) m := by
  have dangling : (topologyOf fewServices false ipv6Switch).map (fun m => m.builder.edges.map fun e =>
      (e.src, decide (m.builder.nodes.get e.src = none))) = some [("fe80::1", true), ("fe80::1", true)] := by
    decide +kernel
  rintro ⟨m, runs, wellFormed⟩
  rw [runs, Option.map_some, Option.some.injEq] at dangling
  have first : ("fe80::1", true) ∈ m.builder.edges.map fun e => (e.src, decide (m.builder.nodes.get e.src = none)) := by
    rw [dangling]
    exact List.mem_cons_self
  obtain ⟨e, member, same⟩ := List.mem_map.mp first
  exact (wellFormed.joined e member).1 (of_decide_eq_true (Prod.mk.inj same).2)

end Marlinspike.Topology.Keys
