import Mathlib.Data.List.Dedup
import Mathlib.Data.List.Forall2
import Marlinspike.Decimal
import Marlinspike.Dissect.Assigned
import Marlinspike.Dissect.Inline
import Marlinspike.Dissect.Permuted

/-!
The conversations of a capture in processes that iterate over their sets in different
orders. An address is the first of its set, and the source ports are cut off: the
conversations agree exactly if none has two hosts at one end, or more ports than are listed
(`reproducible_iff`).
-/
namespace Marlinspike.Dissect.Reproducible
open Marlinspike.Gathering
open Marlinspike.Dissect.Reader
open Marlinspike.Dissect.Lines
open Marlinspike.Dissect.ChunkLoop (StreamState Line InlineParsing)
open Marlinspike.Dissect.Assigned
open Marlinspike.Dissect.Inline
open Marlinspike.Dissect.Bronze (sorted)
open Marlinspike.Dissect.Permuted (sorted_eq_of_perm)
open Marlinspike.Topology (Graph.Services Graph.Conversation Graph.buildGraph Graph.addConversation)

/-- How a process iterates over its sets: each in some order. -/
structure IterationOrder where
  strings : List String → List String
  ints : List Nat → List Nat
  strings_perm : ∀ values, (strings values).Perm values
  ints_perm : ∀ values, (ints values).Perm values

def IterationOrder.forward : IterationOrder := ⟨id, id, .refl, .refl⟩

def IterationOrder.backward : IterationOrder := ⟨List.reverse, List.reverse, List.reverse_perm, List.reverse_perm⟩

/-- The floating-point scores. -/
structure Scores where
  /-- The score, the interval and the jitter. -/
  computeBeaconScore : List Rat → Rat × Rat × Rat
  /-- The average entropy, and the average for the length. -/
  computeDnsEntropy : List String → Rat × Rat

/-- A conversation, with what the topology does not read of it. -/
structure Dissected extends Graph.Conversation where
  srcPort : Nat
  dnp3Objects : List String
  opcSessions : List String
  iec104Typeids : List String
  iec104Causes : List String
  bacnetObjectTypes : List String
  omronCommands : List String
  mms : MmsSets
  goose : GooseSets
  dnsQueryTypes : List String

section Building
variable (scores : Scores) (order : IterationOrder)

/-- `sorted(values)`, of a set. -/
def sortedSet (values : List String) : List String := sorted (order.strings values)

def sortedMms (m : MmsSets) : MmsSets where
  serviceRequests := sortedSet order m.serviceRequests
  unconfirmedServices := sortedSet order m.unconfirmedServices
  names := sortedSet order m.names
  datasets := sortedSet order m.datasets
  reportIds := sortedSet order m.reportIds
  ctlModels := sortedSet order m.ctlModels

def sortedGoose (g : GooseSets) : GooseSets :=
  { g with
    gocbRefs := sortedSet order g.gocbRefs
    goIds := sortedSet order g.goIds
    datasets := sortedSet order g.datasets
    confRevs := sortedSet order g.confRevs }

/-- The number of source ports that are listed. -/
def seenCap : Nat := 50

/-- The conversation of an entry of the map. -/
def buildConversation (key : ConvKey) (conv : LineConv Details) : Dissected :=
  let d := conv.details
  let (bScore, bInterval, bJitter) := scores.computeBeaconScore conv.timestamps
  let (dEntropy, dEntropyRatio) := scores.computeDnsEntropy (order.strings d.dnsQueries)
  let srcPortList := order.ints conv.srcPorts
  { srcIp := (order.strings conv.srcIps).head?.getD ""
    dstIp := (order.strings conv.dstIps).head?.getD ""
    srcMac := key.srcMac
    dstMac := key.dstMac
    protocol := key.protocol
    port := key.port
    packetCount := conv.packetCount
    bytesTotal := conv.bytes
    firstSeen := conv.firstSeen
    lastSeen := conv.lastSeen
    modbusFunctions := order.ints d.modbusFunctions
    modbusWrites := d.modbusWrites
    cipIdentity := d.cipIdentity
    pnIdentity := d.pnIdentity
    s7Functions := order.strings d.s7Functions
    s7ProgramAccess := d.s7ProgramAccess
    dnp3Objects := order.strings d.dnp3Objects
    opcSessions := d.opcSessions
    opcNoSecurity := d.opcNoSecurity
    bacnetIdentity := some ⟨sortedSet order d.bacnetIdentity.vendorIds, sortedSet order d.bacnetIdentity.objectNames⟩
    bacnetObjectTypes := sortedSet order d.bacnetIdentity.objectTypes
    iec104Typeids := sortedSet order d.iec104Typeids
    iec104Causes := sortedSet order d.iec104Causes
    omronIdentity := some ⟨d.omronIdentity.model, d.omronIdentity.version⟩
    omronCommands := sortedSet order d.omronIdentity.commands
    mmsIdentity := sortedSet order d.mmsIdentity.names
    mms := sortedMms order d.mmsIdentity
    gooseIdentity := some ⟨sortedSet order d.gooseIdentity.gocbRefs, sortedSet order d.gooseIdentity.goIds⟩
    goose := sortedGoose order d.gooseIdentity
    srcPort := if srcPortList.length = 1 then srcPortList.head?.getD 0 else 0
    transport := conv.transport
    srcPortsSeen := srcPortList.take seenCap
    beaconScore := bScore
    beaconInterval := bInterval
    beaconJitter := bJitter
    dnsQueries := (order.strings d.dnsQueries).take dnsCap
    dnsQueryTypes := order.strings d.dnsQueryTypes
    dnsEntropy := dEntropy
    dnsEntropyRatio := dEntropyRatio
    l2Discovery := d.l2Discovery
    dhcpHostname := d.dhcpHostname
    dhcpVendorClass := d.dhcpVendorClass
    nbnsName := d.nbnsName
    userAgent := d.userAgent }

/-- The conversations that `dissect` returns for a map. -/
def conversationsOf (s : StreamState Details) : List Dissected :=
  s.lines.convMap.items.map fun item => buildConversation scores order item.1 item.2

end Building

def SameSet {α : Type} (first second : List α) : Prop := ∀ value, value ∈ first ↔ value ∈ second

/-- What two processes have to say alike of a conversation. -/
structure Agrees (a b : Dissected) : Prop where
  addresses : a.srcIp = b.srcIp ∧ a.dstIp = b.dstIp
  srcPort : a.srcPort = b.srcPort
  functions : SameSet a.modbusFunctions b.modbusFunctions ∧ SameSet a.s7Functions b.s7Functions ∧
    SameSet a.dnp3Objects b.dnp3Objects ∧ a.iec104Typeids = b.iec104Typeids ∧ a.iec104Causes = b.iec104Causes
  ports : SameSet a.srcPortsSeen b.srcPortsSeen
  queries : SameSet a.dnsQueries b.dnsQueries ∧ SameSet a.dnsQueryTypes b.dnsQueryTypes
  counters : a.packetCount = b.packetCount ∧ a.bytesTotal = b.bytesTotal ∧ a.modbusWrites = b.modbusWrites

/-- Any two orders give conversations that agree, and the same node keys and edges. -/
def DissectsAlike (scores : Scores) (services : Graph.Services) (skipEphemeral : Bool) (s : StreamState Details) : Prop :=
  ∀ order order', List.Forall₂ Agrees (conversationsOf scores order s) (conversationsOf scores order' s) ∧
    let graph := Graph.buildGraph services skipEphemeral ((conversationsOf scores order s).map Dissected.toConversation)
    let graph' := Graph.buildGraph services skipEphemeral ((conversationsOf scores order' s).map Dissected.toConversation)
    graph.1.items.map Prod.fst = graph'.1.items.map Prod.fst ∧ graph.2 = graph'.2

/-! ### The addresses and ports of some packets -/

section Packets
variable (tables : LineTables)

def srcIpOf (p : LinePacket) : String := orElse (field p.fields "ip.src") (field p.fields "arp.src.proto_ipv4")
def dstIpOf (p : LinePacket) : String := orElse (field p.fields "ip.dst") (field p.fields "arp.dst.proto_ipv4")

def srcIpsOf (packets : List LinePacket) : List String := ((framed tables packets).map srcIpOf).filter (· ≠ "")
def dstIpsOf (packets : List LinePacket) : List String := ((framed tables packets).map dstIpOf).filter (· ≠ "")
def srcPortsOf (packets : List LinePacket) : List Nat := ((framed tables packets).map (·.srcPort)).filter (· ≠ 0)

/-- At most one host at each end, and no more source ports than are listed. -/
def OneHostEach (packets : List LinePacket) : Prop :=
  (srcIpsOf tables packets).dedup.length ≤ 1 ∧ (dstIpsOf tables packets).dedup.length ≤ 1 ∧
    (srcPortsOf tables packets).dedup.length ≤ seenCap

end Packets

/-! ### A set that is filled -/

section Collecting
variable {α : Type} [DecidableEq α]

/-- The set of some values, in the order of the first additions. -/
def collect (values : List α) : List α := values.foldl addTo []

theorem collect_append (first second : List α) : collect (first ++ second) = second.foldl addTo (collect first) :=
  List.foldl_append

theorem collect_concat (values : List α) (value : α) : collect (values ++ [value]) = addTo (collect values) value :=
  collect_append ..

theorem mem_collect {values : List α} {value : α} : value ∈ collect values ↔ value ∈ values := by
  induction values using List.reverseRecOn with
  | nil => rfl
  | append_singleton values last ih =>
    rw [collect_concat, addTo, List.mem_append, List.mem_singleton]
    split_ifs with present
    · rw [ih, or_iff_left_of_imp]
      rintro rfl
      exact ih.mp present
    · rw [List.mem_append, List.mem_singleton, ih]

theorem nodup_collect (values : List α) : (collect values).Nodup := by
  induction values using List.reverseRecOn with
  | nil => exact List.nodup_nil
  | append_singleton values last ih =>
    rw [collect_concat, addTo]
    split_ifs with present
    · exact ih
    · exact List.nodup_append.mpr ⟨ih, List.nodup_singleton _, by simpa using fun _ member => ne_of_mem_of_not_mem member present⟩

theorem length_collect (values : List α) : (collect values).length = values.dedup.length := by
  refine ((List.perm_ext_iff_of_nodup (nodup_collect values) values.nodup_dedup).mpr fun value => ?_).length_eq
  rw [mem_collect, List.mem_dedup]

/-- A set that takes no more than so many values has the first of them. -/
theorem foldl_capped (cap : Nat) (values : List α) :
    values.foldl (fun seen value => if seen.length < cap then addTo seen value else seen) [] =
      (collect values).take cap := by
  induction values using List.reverseRecOn with
  | nil => exact List.take_nil.symm
  | append_singleton values last ih =>
    rw [List.foldl_append, ih, collect_concat, List.foldl_cons, List.foldl_nil, List.length_take]
    by_cases room : (collect values).length < cap
    · rw [if_pos (by omega), List.take_of_length_le (by omega), List.take_of_length_le]
      rw [addTo]
      split_ifs
      · omega
      · rw [List.length_append, List.length_singleton]
        omega
    · rw [if_neg (by omega), addTo]
      split_ifs
      · rfl
      · rw [List.take_append_of_le_length (by omega)]

end Collecting

/-! ### The sets of a conversation -/

section Sets
variable {tables : LineTables} {text : TextTables} {packets : List LinePacket} {conv : LineConv Details}

theorem srcIps_take (p : LinePacket) : (takePacket tables (inlineParsing text) conv p).srcIps =
    (srcIpsOf tables [p]).foldl addTo conv.srcIps := by
  have added (length : Nat) (details : Details) : (conv.add tables p length details).srcIps =
      if srcIpOf p ≠ "" then addTo conv.srcIps (srcIpOf p) else conv.srcIps := rfl
  unfold takePacket srcIpsOf framed
  cases framed : frameLen tables p with
  | none => simp [framed]
  | some length => by_cases none_ : srcIpOf p = "" <;> simp [framed, added, none_]

theorem dstIps_take (p : LinePacket) : (takePacket tables (inlineParsing text) conv p).dstIps =
    (dstIpsOf tables [p]).foldl addTo conv.dstIps := by
  have added (length : Nat) (details : Details) : (conv.add tables p length details).dstIps =
      if dstIpOf p ≠ "" then addTo conv.dstIps (dstIpOf p) else conv.dstIps := rfl
  unfold takePacket dstIpsOf framed
  cases framed : frameLen tables p with
  | none => simp [framed]
  | some length => by_cases none_ : dstIpOf p = "" <;> simp [framed, added, none_]

theorem srcPorts_take (p : LinePacket) : (takePacket tables (inlineParsing text) conv p).srcPorts =
    (srcPortsOf tables [p]).foldl (fun seen port => if seen.length < 100 then addTo seen port else seen) conv.srcPorts := by
  unfold takePacket srcPortsOf framed
  cases framed : frameLen tables p with
  | none => simp [framed]
  | some length => by_cases none_ : p.srcPort = 0 <;> simp [framed, LineConv.add, none_]

theorem dnsQueries_take (p : LinePacket) (few : conv.details.dnsQueries.length ≤ dnsCap) :
    (takePacket tables (inlineParsing text) conv p).details.dnsQueries.length ≤ dnsCap := by
  unfold takePacket
  cases frameLen tables p with
  | none => exact few
  | some length =>
    have named : (readNames p.fields conv.details).dnsQueries.length ≤ dnsCap := length_dnsQueries_readNames few
    dsimp only [LineConv.add]
    cases parsed : (inlineParsing text).parseInline p.fields p.protocol conv.details with
    | none => exact named
    | some details => rwa [Option.getD_some, dnsQueries_parseProtocol parsed]

variable (gathered : convOf tables (inlineParsing text) packets = some conv)
include gathered

theorem srcIps_eq : conv.srcIps = collect (srcIpsOf tables packets) := by
  refine convOf_induction gathered (fun packets conv => conv.srcIps = collect (srcIpsOf tables packets)) rfl ?_
  intro packets conv p held
  rw [srcIps_take, held, ← collect_append]
  simp [srcIpsOf, framed]

theorem dstIps_eq : conv.dstIps = collect (dstIpsOf tables packets) := by
  refine convOf_induction gathered (fun packets conv => conv.dstIps = collect (dstIpsOf tables packets)) rfl ?_
  intro packets conv p held
  rw [dstIps_take, held, ← collect_append]
  simp [dstIpsOf, framed]

theorem srcPorts_eq : conv.srcPorts = (collect (srcPortsOf tables packets)).take 100 := by
  refine convOf_induction gathered (fun packets conv => conv.srcPorts = (collect (srcPortsOf tables packets)).take 100)
    rfl ?_
  intro packets conv p held
  rw [srcPorts_take, held, ← foldl_capped, ← foldl_capped, ← List.foldl_append]
  simp [srcPortsOf, framed]

theorem length_dnsQueries : conv.details.dnsQueries.length ≤ dnsCap :=
  convOf_induction gathered (fun _ conv => conv.details.dnsQueries.length ≤ dnsCap) (Nat.zero_le _)
    fun _ _ p held => dnsQueries_take p held

end Sets

/-! ### Two orders of one set -/

section Orders
variable {α : Type}

theorem eq_of_perm_short {first second : List α} (perm : first.Perm second) (short : second.length ≤ 1) :
    first = second := by
  match second, short with
  | [], _ => exact List.perm_nil.mp perm
  | [_], _ => exact List.perm_singleton.mp perm

theorem sameSet_of_perm {first second : List α} (perm : first.Perm second) : SameSet first second :=
  fun _ => perm.mem_iff

variable (order order' : IterationOrder)

theorem strings_both (values : List String) : (order.strings values).Perm (order'.strings values) :=
  (order.strings_perm values).trans (order'.strings_perm values).symm

theorem ints_both (values : List Nat) : (order.ints values).Perm (order'.ints values) :=
  (order.ints_perm values).trans (order'.ints_perm values).symm

theorem sortedSet_both (values : List String) : sortedSet order values = sortedSet order' values :=
  sorted_eq_of_perm (strings_both order order' values)

theorem strings_short {values : List String} (short : values.length ≤ 1) : order.strings values = values :=
  eq_of_perm_short (order.strings_perm values) short

/-- The source port is the only one, or none. -/
theorem srcPort_both (scores : Scores) (key : ConvKey) (conv : LineConv Details) :
    (buildConversation scores order key conv).srcPort = (buildConversation scores order' key conv).srcPort := by
  unfold buildConversation
  dsimp only
  rw [(order.ints_perm _).length_eq, (order'.ints_perm _).length_eq]
  split_ifs with single
  · rw [eq_of_perm_short (order.ints_perm _) single.le, eq_of_perm_short (order'.ints_perm _) single.le]
  · rfl

end Orders

/-- What the graph reads of a conversation: of the source ports only how many there are. -/
def graphView (conv : Graph.Conversation) : Graph.Conversation :=
  { conv with
    modbusFunctions := []
    s7Functions := []
    srcPortsSeen := List.replicate conv.srcPortsSeen.length 0
    dnsQueries := []
    dnsEntropy := 0
    dnsEntropyRatio := 0 }

theorem addConversation_graphView (services : Graph.Services) (skipEphemeral : Bool) (b : Topology.Graph.Building)
    (conv : Graph.Conversation) : Graph.addConversation services skipEphemeral b (graphView conv) =
      Graph.addConversation services skipEphemeral b conv := by
  have edges : Topology.Graph.addToEdges services skipEphemeral b.edgeMap (graphView conv) =
      Topology.Graph.addToEdges services skipEphemeral b.edgeMap conv := by
    have new : Topology.Graph.TopologyEdge.new services (graphView conv) = .new services conv := by
      simp only [Topology.Graph.TopologyEdge.new, graphView, List.length_replicate]
      rfl
    have merge (e : Topology.Graph.TopologyEdge) : e.merge (graphView conv) = e.merge conv := by
      simp only [Topology.Graph.TopologyEdge.merge, graphView, List.length_replicate]
      rfl
    have key : (graphView conv).edgeKey = conv.edgeKey := rfl
    have port : (graphView conv).port = conv.port := rfl
    simp only [Topology.Graph.addToEdges, new, merge, key, port]
  unfold Graph.addConversation
  rw [edges]
  rfl

theorem buildGraph_graphView (services : Graph.Services) (skipEphemeral : Bool) (conversations : List Graph.Conversation) :
    Graph.buildGraph services skipEphemeral (conversations.map graphView) =
      Graph.buildGraph services skipEphemeral conversations := by
  have same (b : Topology.Graph.Building) : (conversations.map graphView).foldl
      (Graph.addConversation services skipEphemeral) b = conversations.foldl (Graph.addConversation services skipEphemeral) b := by
    rw [List.foldl_map]
    simp only [addConversation_graphView]
  unfold Graph.buildGraph
  rw [same]

/-! ### Few hosts -/

section Few
variable {conv : LineConv Details} (oneSrc : conv.srcIps.length ≤ 1) (oneDst : conv.dstIps.length ≤ 1)
include oneSrc oneDst

theorem agrees_of_few (few : conv.srcPorts.length ≤ seenCap) (queries : conv.details.dnsQueries.length ≤ dnsCap)
    (scores : Scores) (order order' : IterationOrder) (key : ConvKey) :
    Agrees (buildConversation scores order key conv) (buildConversation scores order' key conv) where
  addresses := by
    unfold buildConversation
    dsimp only
    rw [strings_short order oneSrc, strings_short order' oneSrc, strings_short order oneDst, strings_short order' oneDst]
    exact ⟨rfl, rfl⟩
  srcPort := srcPort_both order order' scores key conv
  functions := ⟨sameSet_of_perm (ints_both ..), sameSet_of_perm (strings_both ..), sameSet_of_perm (strings_both ..),
    sortedSet_both .., sortedSet_both ..⟩
  ports := by
    unfold buildConversation
    dsimp only
    rw [List.take_of_length_le (by rwa [(order.ints_perm _).length_eq]),
      List.take_of_length_le (by rwa [(order'.ints_perm _).length_eq])]
    exact sameSet_of_perm (ints_both ..)
  queries := by
    unfold buildConversation
    dsimp only
    rw [List.take_of_length_le (by rwa [(order.strings_perm _).length_eq]),
      List.take_of_length_le (by rwa [(order'.strings_perm _).length_eq])]
    exact ⟨sameSet_of_perm (strings_both ..), sameSet_of_perm (strings_both ..)⟩
  counters := ⟨rfl, rfl, rfl⟩

theorem graphView_of_few (scores : Scores) (order order' : IterationOrder) (key : ConvKey) :
    graphView (buildConversation scores order key conv).toConversation =
      graphView (buildConversation scores order' key conv).toConversation := by
  unfold buildConversation graphView
  dsimp only
  rw [strings_short order oneSrc, strings_short order' oneSrc, strings_short order oneDst, strings_short order' oneDst,
    List.length_take, List.length_take, (order.ints_perm _).length_eq, (order'.ints_perm _).length_eq]
  simp only [sortedSet_both order order']

end Few

/-! ### Many hosts -/

theorem short_of_ends {addresses : List String} (nodup : addresses.Nodup)
    (same : addresses.head?.getD "" = addresses.reverse.head?.getD "") : addresses.length ≤ 1 := by
  cases addresses with
  | nil => exact Nat.zero_le 1
  | cons first rest =>
    cases rest using List.reverseRecOn with
    | nil => exact Nat.le_refl 1
    | append_singleton middle last =>
      have equal : first = last := by simpa using same
      simp [equal] at nodup

theorem few_of_cut {ports : List Nat} (nodup : ports.Nodup) {cap : Nat} (pos : 0 < cap)
    (same : SameSet (ports.take cap) (ports.reverse.take cap)) : ports.length ≤ cap := by
  by_contra more
  cases ports with
  | nil => exact more (Nat.zero_le cap)
  | cons first rest =>
    obtain ⟨fresh, -⟩ := List.nodup_cons.mp nodup
    rw [List.length_cons] at more
    have listed := (same first).mp (List.mem_take_iff_getElem.mpr ⟨0, by simp [pos], rfl⟩)
    rw [List.reverse_cons, List.take_append_of_le_length (by rw [List.length_reverse]; omega)] at listed
    exact fresh (List.mem_reverse.mp (List.mem_of_mem_take listed))

section Streams
variable {tables : LineTables} {text : TextTables}

/-- The sets of a conversation are as small as those of its packets. -/
theorem oneHostEach_iff {packets : List LinePacket} {conv : LineConv Details}
    (gathered : convOf tables (inlineParsing text) packets = some conv) : OneHostEach tables packets ↔
      conv.srcIps.length ≤ 1 ∧ conv.dstIps.length ≤ 1 ∧ conv.srcPorts.length ≤ seenCap := by
  rw [srcIps_eq gathered, dstIps_eq gathered, srcPorts_eq gathered, List.length_take, length_collect, length_collect,
    length_collect, OneHostEach]
  refine and_congr_right' (and_congr_right' ?_)
  rw [seenCap]
  omega

variable (tables text) (lower : String → String) (collapseThreshold : Nat) (scores : Scores)
  (services : Graph.Services) (skipEphemeral : Bool)

/-- What is dissected does not depend on the order of sets, exactly if each conversation's
    packets name at most one source and one destination address, and at most 50 source ports. -/
theorem reproducible_iff (streams : List (List Line)) :
    DissectsAlike scores services skipEphemeral
        (passes tables lower (inlineParsing text) collapseThreshold .start streams) ↔
      ∀ key, OneHostEach tables
        (packetsUnder key (countedBy tables lower (inlineParsing text) collapseThreshold .start streams)) := by
  have found := @get_passes _ tables lower (inlineParsing text) collapseThreshold streams
  generalize passes tables lower (inlineParsing text) collapseThreshold .start streams = s at found ⊢
  generalize countedBy tables lower (inlineParsing text) collapseThreshold .start streams = counted at found ⊢
  unfold DissectsAlike conversationsOf
  constructor
  · intro alike key
    cases gathered : convOf tables (inlineParsing text) (packetsUnder key counted) with
    | none =>
      rw [gather_eq_none_iff.mp gathered]
      exact ⟨Nat.zero_le _, Nat.zero_le _, Nat.zero_le _⟩
    | some conv =>
      have member := PyDict.mem_items_of_get ((found key).trans gathered)
      obtain ⟨agree, -⟩ := alike .forward .backward
      rw [List.forall₂_map_left_iff, List.forall₂_map_right_iff, List.forall₂_same] at agree
      have own := agree _ member
      rw [oneHostEach_iff gathered]
      refine ⟨short_of_ends ?_ own.addresses.1, short_of_ends ?_ own.addresses.2, few_of_cut ?_ (by decide) own.ports⟩
      · rw [srcIps_eq gathered]
        exact nodup_collect _
      · rw [dstIps_eq gathered]
        exact nodup_collect _
      · rw [srcPorts_eq gathered]
        exact (nodup_collect _).sublist (List.take_sublist ..)
  · intro few order order'
    have small : ∀ item ∈ s.lines.convMap.items, item.2.srcIps.length ≤ 1 ∧ item.2.dstIps.length ≤ 1 ∧
        item.2.srcPorts.length ≤ seenCap ∧ item.2.details.dnsQueries.length ≤ dnsCap := by
      rintro ⟨key, conv⟩ member
      have gathered := (found key).symm.trans (PyDict.get_of_mem_items member)
      obtain ⟨oneSrc, oneDst, ports⟩ := (oneHostEach_iff gathered).mp (few key)
      exact ⟨oneSrc, oneDst, ports, length_dnsQueries gathered⟩
    constructor
    · rw [List.forall₂_map_left_iff, List.forall₂_map_right_iff, List.forall₂_same]
      intro item member
      obtain ⟨oneSrc, oneDst, ports, queries⟩ := small item member
      exact agrees_of_few oneSrc oneDst ports queries scores order order' item.1
    · have same : ((s.lines.convMap.items.map fun item => buildConversation scores order item.1 item.2).map
          Dissected.toConversation).map graphView = ((s.lines.convMap.items.map fun item =>
            buildConversation scores order' item.1 item.2).map Dissected.toConversation).map graphView := by
        simp only [List.map_map]
        refine List.map_congr_left fun item member => ?_
        obtain ⟨oneSrc, oneDst, -⟩ := small item member
        exact graphView_of_few oneSrc oneDst scores order order' item.1
      rw [← buildGraph_graphView, same, buildGraph_graphView]
      exact ⟨rfl, rfl⟩

end Streams

/-! Two hosts behind the MAC of one router ping a third. -/

/-- `int`, of decimal digits. -/
def decimalInt (text : String) : Option Nat :=
  if text ≠ "" ∧ text.toList.all Char.isDigit then some (Decimal.value text.toList) else none

def pingTables : LineTables where
  fields := ["frame.time", "frame.len", "frame.protocols", "frame.time_epoch", "eth.src", "eth.dst", "ip.src", "ip.dst"]
  ports := ⟨fun _ => none, fun _ => none⟩
  otTsharkProtocols _ := none
  upper text := String.ofList (text.toList.map Char.toUpper)
  capitalize := id
  int := decimalInt
  float _ := none

def pingText : TextTables where
  lower text := String.ofList (text.toList.map Char.toLower)
  strip := id
  isDigit text := text ≠ "" && text.toList.all Char.isDigit
  int := decimalInt
  intAnyBase := decimalInt

def pingFields (time srcIp : String) : List String :=
  [time, "98", "eth:ethertype:ip:icmp:data", "1785146400.000000000", "02:00:00:00:00:01", "02:00:00:00:00:02", srcIp,
    "10.0.0.9"]

def ping (time srcIp : String) : Line := ⟨tabbed (pingFields time srcIp), tabbed_ne_empty _ _ _⟩

def pingPacket (time srcIp : String) : LinePacket :=
  ⟨readFields pingTables.fields (pingFields time srcIp), "02:00:00:00:00:01", "02:00:00:00:00:02", "ICMP", 0, 0, ""⟩

def pingKey : ConvKey := ⟨"02:00:00:00:00:01", "02:00:00:00:00:02", "ICMP", 0⟩

section Pings
variable {time srcIp : String} (timed : time ≠ "" ∧ '\t' ∉ time.toList) (hosted : srcIp ≠ "" ∧ '\t' ∉ srcIp.toList)
include timed hosted

theorem field_ping (name : String) : field (pingPacket time srcIp).fields name =
    (PyDict.find name (["frame.time", "frame.len", "frame.protocols", "frame.time_epoch", "eth.src", "eth.dst",
      "ip.src", "ip.dst"].zip (pingFields time srcIp))).getD "" := by
  have items : (readFields pingTables.fields (pingFields time srcIp)).items = ["frame.time", "frame.len",
      "frame.protocols", "frame.time_epoch", "eth.src", "eth.dst", "ip.src", "ip.dst"].zip (pingFields time srcIp) := by
    simp [readFields, pingTables, pingFields, PyDict.set, PyDict.assign, PyDict.empty, timed, hosted]
  rw [field, PyDict.get, pingPacket, items]

theorem readPacket_ping : readPacket pingTables (ping time srcIp) = some (some (pingPacket time srcIp)) := by
  have read := field_ping timed hosted
  have zero : pingTables.int "0" = some 0 := by decide
  have icmp : classify pingTables "eth:ethertype:ip:icmp:data" 0 "" = some "ICMP" := by decide +kernel
  unfold readPacket
  rw [show (ping time srcIp).1 = tabbed (pingFields time srcIp) from rfl, splitText_tabbed (by simp [pingFields]) ?_]
  · simp only [pingPacket] at read ⊢
    simp only [read]
    simp [pingFields, PyDict.find, orElse, zero, icmp]
  · simp [pingFields, timed, hosted]

theorem frameLen_ping : frameLen pingTables (pingPacket time srcIp) = some 98 := by
  have length : pingTables.int "98" = some 98 := by decide
  rw [frameLen, field_ping timed hosted]
  simp [pingFields, PyDict.find, orElse, length]

theorem goes_on_ping {s : StreamState Details} :
    (ChunkLoop.streamLine pingTables pingText.lower (inlineParsing pingText) 50 s (ping time srcIp)).2 = true := by
  have quiet : within "Modbus" "ICMP" = false := by decide +kernel
  rw [← Bool.not_eq_false, ChunkLoop.streamLine_ends_iff, ChunkLoop.Raises, readPacket_ping timed hosted]
  simp [frameLen_ping timed hosted, inlineParsing, show (pingPacket time srcIp).protocol = "ICMP" from rfl, quiet]

theorem countedOf_ping {s : StreamState Details} (room : s.lines.convMap.items.length < convMapCap) :
    countedOf pingTables 50 s (ping time srcIp) = some ⟨pingKey, pingPacket time srcIp⟩ := by
  unfold countedOf keyOf collapse fold
  rw [readPacket_ping timed hosted]
  simp [pingPacket, pingKey, room]

theorem counted_pings {time' srcIp' : String} (timed' : time' ≠ "" ∧ '\t' ∉ time'.toList)
    (hosted' : srcIp' ≠ "" ∧ '\t' ∉ srcIp'.toList) :
    countedBy pingTables pingText.lower (inlineParsing pingText) 50 .start [[ping time srcIp, ping time' srcIp']] =
      [⟨pingKey, pingPacket time srcIp⟩, ⟨pingKey, pingPacket time' srcIp'⟩] := by
  have room : (ChunkLoop.streamLine pingTables pingText.lower (inlineParsing pingText) 50 .start
      (ping time srcIp)).1.lines.convMap.items.length < convMapCap := by
    rw [convMap_streamLine, countedOf_ping timed hosted (by decide)]
    exact (by decide : 1 < convMapCap)
  simp only [countedBy, countedIn, goes_on_ping timed hosted, goes_on_ping timed' hosted',
    countedOf_ping timed' hosted' room, if_true]
  rw [countedOf_ping timed hosted (by decide)]
  rfl

/-- Both are counted in one conversation. -/
theorem get_pings {time' srcIp' : String} (timed' : time' ≠ "" ∧ '\t' ∉ time'.toList)
    (hosted' : srcIp' ≠ "" ∧ '\t' ∉ srcIp'.toList) :
    (passes pingTables pingText.lower (inlineParsing pingText) 50 .start
      [[ping time srcIp, ping time' srcIp']]).lines.convMap.get pingKey =
        convOf pingTables (inlineParsing pingText) [pingPacket time srcIp, pingPacket time' srcIp'] := by
  rw [get_passes, counted_pings timed hosted timed' hosted', packetsUnder, List.filter_eq_self.mpr (by simp)]
  rfl

end Pings

def noScores : Scores := ⟨fun _ => (0, 0, 0), fun _ => (0, 0)⟩

def noServices : Graph.Services := ⟨fun _ => none, fun _ => none, id, id, fun _ => false⟩

def noon : String := "Jul 27, 2026 12:00:00.000000000 UTC"

theorem routed_hosts_differ : ¬DissectsAlike noScores noServices false
    (passes pingTables pingText.lower (inlineParsing pingText) 50 .start
      [[ping noon "10.0.0.1", ping noon "10.0.0.2"]]) := by
  have noon_ : noon ≠ "" ∧ '\t' ∉ noon.toList := by decide
  have first : "10.0.0.1" ≠ "" ∧ '\t' ∉ "10.0.0.1".toList := by decide
  have second : "10.0.0.2" ≠ "" ∧ '\t' ∉ "10.0.0.2".toList := by decide
  have found := get_pings noon_ first noon_ second
  generalize passes pingTables pingText.lower (inlineParsing pingText) 50 .start _ = s at found ⊢
  intro alike
  obtain ⟨agree, -⟩ := alike .forward .backward
  unfold conversationsOf at agree
  rw [List.forall₂_map_left_iff, List.forall₂_map_right_iff, List.forall₂_same] at agree
  cases gathered : convOf pingTables (inlineParsing pingText) [pingPacket noon "10.0.0.1", pingPacket noon "10.0.0.2"] with
  | none => cases gathered
  | some conv =>
    have hosts : conv.srcIps = ["10.0.0.1", "10.0.0.2"] := by
      rw [srcIps_eq gathered]
      simp [srcIpsOf, framed, frameLen_ping noon_ first, frameLen_ping noon_ second, srcIpOf, field_ping noon_ first,
        field_ping noon_ second, pingFields, PyDict.find, orElse]
      decide
    have same := (agree _ (PyDict.mem_items_of_get (found.trans gathered))).addresses.1
    simp [buildConversation, IterationOrder.forward, IterationOrder.backward, hosts] at same

end Marlinspike.Dissect.Reproducible
