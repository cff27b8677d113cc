import Mathlib.Data.Prod.Lex
import Marlinspike.Diffing
import Marlinspike.Topology.Addresses
import Marlinspike.Topology.Edges
import Marlinspike.Topology.Levels

/-!
Two saved reports compared. Nodes are told apart by their IPs, and edges by their ends and their
protocol, though the graph tells nodes without an IP apart by their MACs, and edges by their
port and transport as well: a comparison is complete exactly if it meets no such node, and no
two edges that differ in those (`diff_complete_iff`).
-/
namespace Marlinspike.Reports.Diff
open Marlinspike.Diffing
open Marlinspike.Topology.Graph
open Marlinspike.Topology.Merge
open Marlinspike.Topology.Edges
open Marlinspike.Topology.Profile
open Marlinspike.Topology.Addresses

/-- What the comparison reads of a report. -/
structure Saved where
  timestamp : String
  nodes : List ProfiledNode
  edges : List TopologyEdge

inductive DiffType where
  | added
  | removed
  | changed
  | unchanged
deriving DecidableEq, Repr

inductive FieldValue where
  | text (value : String)
  | number (value : Int)
deriving DecidableEq, Repr

inductive Change where
  | field (name : String) (was now : FieldValue)
  | protocols (added removed : List String)
deriving DecidableEq, Repr

structure NodeDiff where
  ip : String
  diff : DiffType
  a : Option ProfiledNode
  b : Option ProfiledNode
  changes : List Change

structure EdgeDiff where
  key : String × String × String
  diff : DiffType
  a : Option TopologyEdge
  b : Option TopologyEdge

structure Summary where
  nodesAdded : Nat
  nodesRemoved : Nat
  nodesChanged : Nat
  nodesUnchanged : Nat
  edgesAdded : Nat
  edgesRemoved : Nat
  edgesUnchanged : Nat
deriving DecidableEq, Repr

structure DiffData where
  aName : String
  bName : String
  aTime : String
  bTime : String
  summary : Summary
  nodes : List NodeDiff
  edges : List EdgeDiff

/-! ### The comparison -/

def ipOf (node : ProfiledNode) : Option String := if node.ip ≠ "" then some node.ip else none

def edgeKey (e : TopologyEdge) : String × String × String := (e.src, e.dst, e.protocol)

def textLe (a b : String) : Bool := decide (a ≤ b)

/-- Tuples are in the order of their first parts that differ. -/
def tupleRank (key : String × String × String) : String ×ₗ String ×ₗ String := toLex (key.1, toLex key.2)

def tupleLe (a b : String × String × String) : Bool := decide (tupleRank a ≤ tupleRank b)

/-- `sorted(set(names) - set(others))`. -/
def missing (names others : List String) : List String := (names.filter (· ∉ others)).dedup.mergeSort textLe

def fieldChange (name : String) (was now : FieldValue) : List Change := if was ≠ now then [.field name was now] else []

def protocolChange (was now : List String) : List Change :=
  if (∀ p ∈ was, p ∈ now) ∧ ∀ p ∈ now, p ∈ was then [] else [.protocols (missing now was) (missing was now)]

def changesOf (a b : ProfiledNode) : List Change :=
  fieldChange "role" (.text a.role) (.text b.role) ++ fieldChange "vendor" (.text a.vendor) (.text b.vendor) ++
    fieldChange "purdue_level" (.number a.purdueLevel) (.number b.purdueLevel) ++
    protocolChange a.protocols b.protocols

def nodeDiff (row : Row String ProfiledNode) : NodeDiff :=
  match row.a, row.b with
  | some a, none => ⟨row.key, .removed, some a, none, []⟩
  | none, some b => ⟨row.key, .added, none, some b, []⟩
  | some a, some b =>
    ⟨row.key, if changesOf a b ≠ [] then .changed else .unchanged, some a, some b, changesOf a b⟩
  -- An IP is that of a node.
  | none, none => ⟨row.key, .unchanged, none, none, []⟩

def edgeDiff (row : Row (String × String × String) TopologyEdge) : EdgeDiff :=
  match row.a, row.b with
  | some a, none => ⟨row.key, .removed, some a, none⟩
  | none, some b => ⟨row.key, .added, none, some b⟩
  | a, b => ⟨row.key, .unchanged, a, b⟩

def nodeDiffs (a b : Saved) : List NodeDiff := (rows textLe ipOf a.nodes b.nodes).map nodeDiff

def edgeDiffs (a b : Saved) : List EdgeDiff := (rows tupleLe (some ∘ edgeKey) a.edges b.edges).map edgeDiff

def summaryOf (nodes : List NodeDiff) (edges : List EdgeDiff) : Summary where
  nodesAdded := nodes.countP (·.diff = .added)
  nodesRemoved := nodes.countP (·.diff = .removed)
  nodesChanged := nodes.countP (·.diff = .changed)
  nodesUnchanged := nodes.countP (·.diff = .unchanged)
  edgesAdded := edges.countP (·.diff = .added)
  edgesRemoved := edges.countP (·.diff = .removed)
  edgesUnchanged := edges.countP (·.diff = .unchanged)

/-- `api_report_diff`, for the base names of the reports; an error is an answer with its status. -/
def apiReportDiff (directory : String → Option Saved) (aName bName : String) : Except (Nat × String) DiffData :=
  if aName = "" ∨ bName = "" then .error (400, "Missing ?a= and ?b= parameters")
  else
    match directory aName, directory bName with
    | none, _ => .error (404, "Report A not found: " ++ aName)
    | _, none => .error (404, "Report B not found: " ++ bName)
    | some a, some b =>
      .ok
        { aName := aName
          bName := bName
          aTime := a.timestamp
          bTime := b.timestamp
          summary := summaryOf (nodeDiffs a b) (edgeDiffs a b)
          nodes := nodeDiffs a b
          edges := edgeDiffs a b }

/-! ### The other way round -/

def DiffType.flip : DiffType → DiffType
  | added => removed
  | removed => added
  | changed => changed
  | unchanged => unchanged

def Change.reverse : Change → Change
  | field name was now => field name now was
  | protocols added removed => protocols removed added

def NodeDiff.flip (entry : NodeDiff) : NodeDiff :=
  ⟨entry.ip, entry.diff.flip, entry.b, entry.a, entry.changes.map Change.reverse⟩

def EdgeDiff.flip (entry : EdgeDiff) : EdgeDiff := ⟨entry.key, entry.diff.flip, entry.b, entry.a⟩

theorem textLe_ranked (a b : String) : textLe a b = true ↔ id a ≤ id b := decide_eq_true_iff

theorem tupleLe_ranked (a b : String × String × String) : tupleLe a b = true ↔ tupleRank a ≤ tupleRank b :=
  decide_eq_true_iff

theorem tupleRank_injective : Function.Injective tupleRank := by
  rintro ⟨_, _, _⟩ ⟨_, _, _⟩ same
  cases same
  rfl

theorem fieldChange_reverse (name : String) (was now : FieldValue) :
    fieldChange name now was = (fieldChange name was now).map Change.reverse := by
  unfold fieldChange
  split_ifs with back forth forth
  · rfl
  · exact absurd (Ne.symm back) forth
  · exact absurd (Ne.symm forth) back
  · rfl

theorem protocolChange_reverse (was now : List String) :
    protocolChange now was = (protocolChange was now).map Change.reverse := by
  unfold protocolChange
  by_cases same : (∀ p ∈ was, p ∈ now) ∧ ∀ p ∈ now, p ∈ was
  · rw [if_pos same, if_pos same.symm]
    rfl
  · rw [if_neg same, if_neg (mt And.symm same)]
    rfl

theorem changesOf_reverse (a b : ProfiledNode) : changesOf b a = (changesOf a b).map Change.reverse := by
  simp only [changesOf, List.map_append]
  rw [fieldChange_reverse "role", fieldChange_reverse "vendor", fieldChange_reverse "purdue_level",
    protocolChange_reverse]

theorem nodeDiff_swap (row : Row String ProfiledNode) : nodeDiff row.swap = (nodeDiff row).flip := by
  obtain ⟨ip, a, b⟩ := row
  cases a with
  | none => cases b <;> rfl
  | some a =>
    cases b with
    | none => rfl
    | some b =>
      have reversed := changesOf_reverse a b
      by_cases none_ : changesOf a b = []
      · simp [nodeDiff, Row.swap, NodeDiff.flip, reversed, none_, DiffType.flip]
      · simp [nodeDiff, Row.swap, NodeDiff.flip, reversed, none_, DiffType.flip]

theorem edgeDiff_swap (row : Row (String × String × String) TopologyEdge) :
    edgeDiff row.swap = (edgeDiff row).flip := by
  obtain ⟨key, a, b⟩ := row
  cases a <;> cases b <;> rfl

theorem nodeDiffs_flip (a b : Saved) : nodeDiffs b a = (nodeDiffs a b).map NodeDiff.flip := by
  rw [nodeDiffs, nodeDiffs, rows_swap textLe_ranked Function.injective_id, List.map_map, List.map_map]
  exact List.map_congr_left fun row _ => nodeDiff_swap row

theorem edgeDiffs_flip (a b : Saved) : edgeDiffs b a = (edgeDiffs a b).map EdgeDiff.flip := by
  rw [edgeDiffs, edgeDiffs, rows_swap tupleLe_ranked tupleRank_injective, List.map_map, List.map_map]
  exact List.map_congr_left fun row _ => edgeDiff_swap row

/-! ### Completeness -/

/-- Everything of either report is on its side of exactly one entry, which says in which reports it is. -/
structure Represents {α Entry Identity : Type} [DecidableEq Identity] (identity : α → Identity)
    (a b : Entry → Option α) (diff : Entry → DiffType) (as bs : List α) (entries : List Entry) : Prop where
  left : ∀ x ∈ as, entries.countP (fun entry => (a entry).map identity = some (identity x)) = 1
  right : ∀ y ∈ bs, entries.countP (fun entry => (b entry).map identity = some (identity y)) = 1
  added : ∀ entry ∈ entries, ∀ i, (a entry).map identity = some i ∨ (b entry).map identity = some i →
    (diff entry = .added ↔ i ∉ as.map identity ∧ i ∈ bs.map identity)
  removed : ∀ entry ∈ entries, ∀ i, (a entry).map identity = some i ∨ (b entry).map identity = some i →
    (diff entry = .removed ↔ i ∈ as.map identity ∧ i ∉ bs.map identity)

/-- How the entries come out of the rows. -/
structure Labels {α Entry Key : Type} (of : Row Key α → Entry) (a b : Entry → Option α) (diff : Entry → DiffType) :
    Prop where
  left : ∀ row, a (of row) = row.a
  right : ∀ row, b (of row) = row.b
  added : ∀ row, diff (of row) = .added ↔ row.a = none ∧ row.b ≠ none
  removed : ∀ row, diff (of row) = .removed ↔ row.a ≠ none ∧ row.b = none

theorem labels_nodeDiff : Labels nodeDiff NodeDiff.a NodeDiff.b NodeDiff.diff where
  left row := by
    obtain ⟨ip, a, b⟩ := row
    cases a <;> cases b <;> rfl
  right row := by
    obtain ⟨ip, a, b⟩ := row
    cases a <;> cases b <;> rfl
  added row := by
    obtain ⟨ip, a, b⟩ := row
    cases a with
    | none => cases b <;> simp [nodeDiff]
    | some a =>
      cases b with
      | none => simp [nodeDiff]
      | some b => by_cases none_ : changesOf a b = [] <;> simp [nodeDiff, none_]
  removed row := by
    obtain ⟨ip, a, b⟩ := row
    cases a with
    | none => cases b <;> simp [nodeDiff]
    | some a =>
      cases b with
      | none => simp [nodeDiff]
      | some b => by_cases none_ : changesOf a b = [] <;> simp [nodeDiff, none_]

theorem labels_edgeDiff : Labels edgeDiff EdgeDiff.a EdgeDiff.b EdgeDiff.diff where
  left row := by
    obtain ⟨key, a, b⟩ := row
    cases a <;> cases b <;> rfl
  right row := by
    obtain ⟨key, a, b⟩ := row
    cases a <;> cases b <;> rfl
  added row := by
    obtain ⟨key, a, b⟩ := row
    cases a <;> cases b <;> simp [edgeDiff]
  removed row := by
    obtain ⟨key, a, b⟩ := row
    cases a <;> cases b <;> simp [edgeDiff]

section Labelled
variable {α Entry Key Identity : Type} [DecidableEq Key] [DecidableEq Identity] {identity : α → Identity}
  {le : Key → Key → Bool} {key : α → Option Key} {as bs : List α} {of : Row Key α → Entry} {a b : Entry → Option α}
  {diff : Entry → DiffType}

/-- The entries represent the reports exactly if the rows account for them. -/
theorem represents_iff (labels : Labels of a b diff) :
    Represents identity a b diff as bs ((rows le key as bs).map of) ↔ Accounted identity as bs (rows le key as bs) := by
  have mem_left {row i} (listed : row ∈ rows le key as bs) (side : row.a.map identity = some i) : i ∈ as.map identity := by
    obtain ⟨x, found, rfl⟩ := Option.map_eq_some_iff.mp side
    exact List.mem_map_of_mem (of_left listed found).1
  have mem_right {row i} (listed : row ∈ rows le key as bs) (side : row.b.map identity = some i) : i ∈ bs.map identity := by
    obtain ⟨y, found, rfl⟩ := Option.map_eq_some_iff.mp side
    exact List.mem_map_of_mem (of_right listed found).1
  constructor
  · rintro ⟨left, right, added, removed⟩
    refine ⟨fun x member => ?_, fun y member => ?_, fun row listed i either => ?_⟩
    · simpa only [List.countP_map, Function.comp_def, labels.left] using left x member
    · simpa only [List.countP_map, Function.comp_def, labels.right] using right y member
    · have entry := List.mem_map_of_mem (f := of) listed
      have shown : (a (of row)).map identity = some i ∨ (b (of row)).map identity = some i := by
        rwa [labels.left, labels.right]
      have isAdded := added (of row) entry i shown
      have isRemoved := removed (of row) entry i shown
      rw [labels.added] at isAdded
      rw [labels.removed] at isRemoved
      have among : i ∈ as.map identity ∨ i ∈ bs.map identity := either.imp (mem_left listed) (mem_right listed)
      have some_ := (mem_rows.mp listed).2
      refine ⟨⟨fun none_ => ?_, fun absent => ?_⟩, fun none_ => ?_, fun absent => ?_⟩
      · exact (isAdded.mp ⟨none_, some_.resolve_left (not_not.mpr none_)⟩).1
      · exact (isAdded.mpr ⟨absent, among.resolve_left absent⟩).1
      · exact (isRemoved.mp ⟨some_.resolve_right (not_not.mpr none_), none_⟩).2
      · exact (isRemoved.mpr ⟨among.resolve_right absent, absent⟩).2
  · rintro ⟨left, right, sides⟩
    refine ⟨fun x member => ?_, fun y member => ?_, fun entry listed i either => ?_, fun entry listed i either => ?_⟩
    · simpa only [List.countP_map, Function.comp_def, labels.left] using left x member
    · simpa only [List.countP_map, Function.comp_def, labels.right] using right y member
    · obtain ⟨row, inside, rfl⟩ := List.mem_map.mp listed
      rw [labels.left, labels.right] at either
      obtain ⟨first, second⟩ := sides row inside i either
      rw [labels.added, first, ne_eq, second, not_not]
    · obtain ⟨row, inside, rfl⟩ := List.mem_map.mp listed
      rw [labels.left, labels.right] at either
      obtain ⟨first, second⟩ := sides row inside i either
      rw [labels.removed, ne_eq, first, second, not_not]

end Labelled

/-- A report that the engine has written: one of a graph that it has built, or of none. -/
def Written (report : Saved) : Prop :=
  (report.nodes = [] ∧ report.edges = []) ∨
    ∃ (tables : Tables) (subnetMap : SubnetMap) (skipEphemeral : Bool) (conversations : List Conversation) (m : Merging),
      topologyOf tables.toServices skipEphemeral conversations = some m ∧
      report.nodes = (profiledNodes tables subnetMap m.builder).items.map Prod.snd ∧ report.edges = m.builder.edges

theorem nodup_of_written {report : Saved} (written : Written report) : (report.nodes.map ProfiledNode.key).Nodup := by
  rcases written with ⟨none_, -⟩ | ⟨tables, subnetMap, skipEphemeral, conversations, m, built, nodes, -⟩
  · rw [none_]
    exact List.nodup_nil
  · rw [nodes]
    exact nodup_keys tables subnetMap skipEphemeral conversations built

/-- The nodes and the edges of two reports are all in their comparison. -/
structure Complete (a b : Saved) : Prop where
  nodes : Represents ProfiledNode.key NodeDiff.a NodeDiff.b NodeDiff.diff a.nodes b.nodes (nodeDiffs a b)
  edges : Represents TopologyEdge.key EdgeDiff.a EdgeDiff.b EdgeDiff.diff a.edges b.edges (edgeDiffs a b)

/-- The other way round there are the same entries, with their sides and their changes turned. -/
structure Antisymmetric (a b : Saved) : Prop where
  nodes : nodeDiffs b a = (nodeDiffs a b).map NodeDiff.flip
  edges : edgeDiffs b a = (edgeDiffs a b).map EdgeDiff.flip

theorem nodes_represented_iff {a b : Saved} (writtenA : Written a) (writtenB : Written b) :
    Represents ProfiledNode.key NodeDiff.a NodeDiff.b NodeDiff.diff a.nodes b.nodes (nodeDiffs a b) ↔
      ∀ node ∈ a.nodes ++ b.nodes, node.ip ≠ "" := by
  have ipOf_some {node : ProfiledNode} (has : ipOf node ≠ none) : node.ip ≠ "" ∧ ipOf node = some (ProfiledNode.key node) := by
    unfold ipOf at has ⊢
    split_ifs at has ⊢ with some_
    · exact ⟨some_, by rw [ProfiledNode.key, Topology.Endpoints.either_of_ne some_]⟩
    · exact absurd rfl has
  have finer (x y : ProfiledNode) (hasX : ipOf x ≠ none) (hasY : ipOf y ≠ none)
      (same : ProfiledNode.key x = ProfiledNode.key y) : ipOf x = ipOf y := by
    rw [(ipOf_some hasX).2, (ipOf_some hasY).2, same]
  have dropped {report : Saved} (written : Written report) : Dropped ProfiledNode.key ipOf report.nodes := by
    intro x memberX none_ y memberY same
    rw [List.inj_on_of_nodup_map (nodup_of_written written) memberY memberX same]
    exact none_
  rw [nodeDiffs, represents_iff labels_nodeDiff, accounted_iff finer (dropped writtenA) (dropped writtenB)]
  constructor
  · exact fun telling node member => (ipOf_some (telling.1 node member)).1
  · intro some_
    have has (node) (member : node ∈ a.nodes ++ b.nodes) : ipOf node ≠ none := by
      rw [ipOf, if_pos (some_ node member)]
      exact Option.some_ne_none _
    refine ⟨has, fun x memberX y memberY same => ?_⟩
    rw [(ipOf_some (has x memberX)).2, (ipOf_some (has y memberY)).2] at same
    exact Option.some.inj same

theorem edges_represented_iff {a b : Saved} :
    Represents TopologyEdge.key EdgeDiff.a EdgeDiff.b EdgeDiff.diff a.edges b.edges (edgeDiffs a b) ↔
      ∀ e ∈ a.edges ++ b.edges, ∀ f ∈ a.edges ++ b.edges,
        edgeKey e = edgeKey f → e.dstPort = f.dstPort ∧ e.transport = f.transport := by
  have finer (e f : TopologyEdge) (_ : (some ∘ edgeKey) e ≠ none) (_ : (some ∘ edgeKey) f ≠ none)
      (same : TopologyEdge.key e = TopologyEdge.key f) : (some ∘ edgeKey) e = (some ∘ edgeKey) f := by
    simp_all [TopologyEdge.key, edgeKey]
  rw [edgeDiffs, represents_iff labels_edgeDiff, accounted_iff finer (fun _ _ => nofun) (fun _ _ => nofun)]
  constructor
  · rintro ⟨-, tells⟩ e memberE f memberF same
    have is := tells e memberE f memberF (congrArg some same)
    simp_all [TopologyEdge.key]
  · intro alike
    refine ⟨fun e _ => Option.some_ne_none _, fun e memberE f memberF same => ?_⟩
    have same := Option.some.inj same
    obtain ⟨port, transport⟩ := alike e memberE f memberF same
    simp_all [TopologyEdge.key, edgeKey]

/-- The comparison of two reports of the engine is turned round with them; and it is complete exactly
    if all nodes have IPs, and edges with the same ends and protocol the same port and transport. -/
theorem diff_complete_iff {a b : Saved} (writtenA : Written a) (writtenB : Written b) :
    Complete a b ∧ Antisymmetric a b ↔
      (∀ node ∈ a.nodes ++ b.nodes, node.ip ≠ "") ∧
      ∀ e ∈ a.edges ++ b.edges, ∀ f ∈ a.edges ++ b.edges,
        edgeKey e = edgeKey f → e.dstPort = f.dstPort ∧ e.transport = f.transport := by
  rw [← nodes_represented_iff writtenA writtenB, ← edges_represented_iff]
  constructor
  · exact fun ⟨complete, _⟩ => ⟨complete.nodes, complete.edges⟩
  · exact fun ⟨nodes, edges⟩ => ⟨⟨nodes, edges⟩, nodeDiffs_flip a b, edgeDiffs_flip a b⟩

/-! ### A switch that is known by its MAC -/

open Topology.Levels (fewTables)

def nodesOf (conversations : List Conversation) : List ProfiledNode :=
  ((topologyOf fewTables.toServices false conversations).map fun m =>
    (profiledNodes fewTables PyDict.empty m.builder).items.map Prod.snd).getD []

def edgesOf (conversations : List Conversation) : List TopologyEdge :=
  ((topologyOf fewTables.toServices false conversations).map fun m => m.builder.edges).getD []

def reportOf (conversations : List Conversation) : Saved := ⟨"", nodesOf conversations, edgesOf conversations⟩

theorem written_reportOf (conversations : List Conversation) : Written (reportOf conversations) := by
  obtain ⟨m, built, -⟩ := topologyOf_moves fewTables.toServices false conversations
  refine .inr ⟨fewTables, PyDict.empty, false, conversations, m, built, ?_, ?_⟩
  · simp only [reportOf, nodesOf, built, Option.map_some, Option.getD_some]
  · simp only [reportOf, edgesOf, built, Option.map_some, Option.getD_some]

/-- The announcements of a switch give it a node, which no comparison shows. -/
theorem not_forall_complete : ¬∀ a b : Saved, Written a → Written b → Complete a b ∧ Antisymmetric a b := by
  intro all
  have written := written_reportOf [announcement "00:11:22:33:44:01"]
  have complete := (all _ _ written written).1
  have nameless : ∃ node ∈ nodesOf [announcement "00:11:22:33:44:01"], node.ip = "" := by decide +kernel
  obtain ⟨node, member, none_⟩ := nameless
  exact (nodes_represented_iff written written).mp complete.nodes node (List.mem_append_left _ member) none_

def webServer : List Conversation :=
  [{ srcIp := "10.0.0.9", dstIp := "10.0.0.2", srcMac := "00:11:22:33:44:66", dstMac := "00:11:22:33:44:03"
     protocol := "HTTPS", port := 443, packetCount := 9, bytesTotal := 1200, firstSeen := "", lastSeen := ""
     transport := "tcp", srcPortsSeen := [50000] }]

theorem complete_webServer : Complete (reportOf webServer) (reportOf []) ∧
    Antisymmetric (reportOf webServer) (reportOf []) := by
  refine (diff_complete_iff (written_reportOf _) (written_reportOf _)).mpr ⟨?_, ?_⟩
  · show ∀ node ∈ nodesOf webServer ++ nodesOf [], node.ip ≠ ""
    decide +kernel
  · show ∀ e ∈ edgesOf webServer ++ edgesOf [], ∀ f ∈ edgesOf webServer ++ edgesOf [],
      edgeKey e = edgeKey f → e.dstPort = f.dstPort ∧ e.transport = f.transport
    decide +kernel

end Marlinspike.Reports.Diff
