import Marlinspike.Dissect.ArpStream
import Marlinspike.Plugins.Arp

/-!
Whether the detection of scans from conversations finds the scans that are found from
observations. A conversation has one address of all that its frames ask for, and counts as
an answer; so what is left of a scan are the conversations of the scanner's MAC, against the
different addresses that they show (`preserves_iff`).
-/
namespace Marlinspike.Plugins.ArpFallback
open Marlinspike.Reports (Library)
open Marlinspike.Findings.Identity (sorted)
open Marlinspike.Plugins.Arp
open Marlinspike.Dissect.Reader (ConvKey)
open Marlinspike.Dissect.Lines (LineTables)
open Marlinspike.Dissect.ChunkLoop (StreamState ArpObservation ArpTime arpObsCap)
open Marlinspike.Dissect.Inline (Details TextTables)
open Marlinspike.Dissect.Reproducible (IterationOrder Scores Dissected conversationsOf collect dstIpsOf)
open Marlinspike.Dissect.ArpStream

/-! ### The report of a capture -/

/-- The fields that the plugin finds in a conversation; there are none for further addresses. -/
def conversationJson (conv : Dissected) : Json :=
  .obj [("src_ip", .str conv.srcIp), ("dst_ip", .str conv.dstIp), ("src_mac", .str conv.srcMac),
    ("dst_mac", .str conv.dstMac), ("protocol", .str conv.protocol), ("packet_count", .int conv.packetCount),
    ("first_seen", .str conv.firstSeen)]

def timeJson : ArpTime → Json
  | .epoch seconds => .float seconds
  | .text time => .str time

def observationJson (o : ArpObservation) : Json :=
  .obj [("timestamp", timeJson o.timestamp), ("src_mac", .str o.srcMac), ("src_ip", .str o.srcIp),
    ("dst_mac", .str o.dstMac), ("dst_ip", .str o.dstIp), ("opcode", (o.opcode.map fun code => Json.int code).getD .null),
    ("is_gratuitous", (o.isGratuitous.map Json.bool).getD .null)]

def reportOf (scores : Scores) (order : IterationOrder) (s : StreamState Details) : Report :=
  (PyDict.empty.set "conversations" (.arr ((conversationsOf scores order s).map conversationJson))).set
    "arp_observations" (.arr (s.arpObservations.map observationJson))

section Detection
variable (library : Library) (numbers : Numbers) (settings : Settings)

/-- A finding is about the MAC. -/
def Flagged (scans : Scans) (mac : String) : Prop := ∃ f ∈ detectScans numbers settings scans, f.subject = mac

/-- Every MAC that the observations flag without replies is flagged by the conversations. -/
def Preserves (report : Report) : Prop :=
  let fromObservations := scansOfObservations numbers settings (extractObservations library report)
  let fromConvs := scansOfConvs numbers settings (extractConvs library numbers report)
  ∀ mac, Flagged numbers settings fromObservations mac → fromObservations.answers mac = 0 →
    Flagged numbers settings fromConvs mac

/-! ### Scans in a capture -/

variable {tables : LineTables} {lower : String → String} (frames : List (ArpFrame tables lower)) (mac : String)

/-- The addresses that a MAC asks for. -/
def requested : List String :=
  ((((frames.filter fun frame => frame.observation.opcode = some 1 ∧ normalizeMac library frame.packet.srcMac = mac).map
    fun frame => library.strip frame.observation.dstIp)).filter isTarget).dedup

/-- A MAC that asks for as many addresses as the threshold, and that nobody replies to. -/
structure Scanner : Prop where
  named : mac ≠ ""
  many : settings.scanThreshold ≤ (requested library frames mac).length
  unanswered : ∀ frame ∈ frames, frame.observation.opcode = some 2 → normalizeMac library frame.packet.dstMac ≠ mac

/-- The pairs of MACs of which this one is the first. -/
def pairs : List ConvKey := ((frames.map ArpFrame.key).dedup).filter fun key => normalizeMac library key.srcMac = mac

/-- The address that stands for all that the frames of a pair ask for. -/
def shownBy (order : IterationOrder) (key : ConvKey) : String :=
  library.strip ((order.strings (collect (dstIpsOf tables (packetsOf key frames)))).head?.getD "")

/-- The different addresses that stand for the pairs of a MAC. -/
def shown (order : IterationOrder) : List String :=
  (((pairs library frames mac).map (shownBy library frames order)).filter isTarget).dedup

/-- The pairs of a MAC show as many addresses as the threshold, and are not too many for these. -/
def StillSeen (order : IterationOrder) : Prop :=
  settings.scanThreshold ≤ (shown library frames mac order).length ∧
    ((pairs library frames mac).length : Rat) ≤ settings.responseRatioMax * (shown library frames mac order).length

end Detection

/-! ### What is flagged -/

def targetsOf (scans : Scans) (mac : String) : List String := (scans.targets.filter (·.1 = mac)).map Prod.snd

theorem length_sortedSet (names : List String) : (sortedSet names).length = names.dedup.length := by
  unfold sortedSet sorted
  exact List.length_mergeSort _

section Flagging
variable {library : Library} {numbers : Numbers} {settings : Settings} {scans : Scans} {mac : String}

theorem flagged_iff (positive : 1 ≤ settings.scanThreshold) : Flagged numbers settings scans mac ↔
    settings.scanThreshold ≤ (targetsOf scans mac).dedup.length ∧
      (scans.answers mac : Rat) ≤ settings.responseRatioMax * (targetsOf scans mac).dedup.length := by
  have subjects : Flagged numbers settings scans mac ↔ mac ∈ scans.targets.map Prod.fst ∧
      settings.scanThreshold ≤ (sortedSet (targetsOf scans mac)).length ∧
        (scans.answers mac : Rat) / (sortedSet (targetsOf scans mac)).length ≤ settings.responseRatioMax := by
    unfold Flagged detectScans
    simp [mem_sortedSet, targetsOf]
  rw [subjects, length_sortedSet]
  constructor
  · rintro ⟨-, many, ratio⟩
    have some_ : (0 : Rat) < (targetsOf scans mac).dedup.length := by
      have : 0 < (targetsOf scans mac).dedup.length := by omega
      exact_mod_cast this
    exact ⟨many, (div_le_iff₀ some_).mp ratio⟩
  · rintro ⟨many, ratio⟩
    have some_ : 0 < (targetsOf scans mac).dedup.length := by omega
    obtain ⟨ip, member⟩ := List.exists_mem_of_length_pos some_
    refine ⟨?_, many, (div_le_iff₀ (by exact_mod_cast some_)).mpr ratio⟩
    obtain ⟨pair, listed, -⟩ := List.mem_map.mp (List.mem_dedup.mp member)
    obtain ⟨listed, own⟩ := List.mem_filter.mp listed
    exact List.mem_map.mpr ⟨pair, listed, by simpa using own⟩

end Flagging

/-! ### What the plugin reads -/

section Reading
variable {library : Library} {numbers : Numbers} {settings : Settings} {scores : Scores} {order : IterationOrder}
  {s : StreamState Details}

theorem extractObservations_reportOf : extractObservations library (reportOf scores order s) =
    s.arpObservations.map fun o => observationOf library (observationJson o) := by
  have listed_ : listed (reportOf scores order s) "arp_observations" = s.arpObservations.map observationJson := by
    rw [listed, reportOf, PyDict.get_set_self]
    exact List.filter_eq_self.mpr (by simp [observationJson, Json.isObj])
  rw [extractObservations, listed_, List.map_map]
  rfl

theorem extractConvs_reportOf (arp : library.upper (library.strip "ARP") = "ARP")
    (all : ∀ item ∈ s.lines.convMap.items, item.1.protocol = "ARP") :
    extractConvs library numbers (reportOf scores order s) =
      (conversationsOf scores order s).map fun conv => convOf library numbers (conversationJson conv) := by
  have listed_ : ((reportOf scores order s).get "conversations") =
      some (.arr ((conversationsOf scores order s).map conversationJson)) := by
    rw [reportOf, PyDict.get_set, if_neg (by decide), PyDict.get_set_self]
  rw [extractConvs, listed_, Option.getD_some, Json.objects, Json.listify, List.filter_filter, List.filter_eq_self.mpr,
    List.map_map]
  · rfl
  · intro json given
    obtain ⟨conv, listed, rfl⟩ := List.mem_map.mp given
    obtain ⟨item, member, rfl⟩ := List.mem_map.mp listed
    have protocol : (Json.get (conversationJson (Dissect.Reproducible.buildConversation scores order item.1 item.2))
        "protocol").stripped library = library.strip "ARP" := by
      show (Json.str item.1.protocol).stripped library = _
      rw [all item member, Json.stripped, Json.text_str]
    rw [protocol, arp]
    rfl

theorem opcode_observationOf (o : ArpObservation) (code : Nat) :
    (observationOf library (observationJson o)).opcode = some (code : Int) ↔ o.opcode = some code := by
  show ((o.opcode.map fun code => Json.int code).getD .null).asInt = _ ↔ _
  cases o.opcode with
  | none => simp [Json.asInt]
  | some own => simp [Json.asInt]

theorem srcMac_observationOf (o : ArpObservation) :
    (observationOf library (observationJson o)).srcMac = normalizeMac library o.srcMac :=
  congrArg (normalizeMac library) (Json.text_str library o.srcMac)

theorem dstMac_observationOf (o : ArpObservation) :
    (observationOf library (observationJson o)).dstMac = normalizeMac library o.dstMac :=
  congrArg (normalizeMac library) (Json.text_str library o.dstMac)

theorem dstIp_observationOf (o : ArpObservation) :
    (observationOf library (observationJson o)).dstIp = library.strip o.dstIp :=
  congrArg library.strip (Json.text_str library o.dstIp)

end Reading

theorem length_dedup_congr {names names' : List String} (same : ∀ name, name ∈ names ↔ name ∈ names') :
    names.dedup.length = names'.dedup.length := by
  rw [← length_sortedSet, ← length_sortedSet, sortedSet_congr same]

/-! ### From observations -/

section Observations
variable {library : Library} {numbers : Numbers} {settings : Settings} {tables : LineTables} {lower : String → String}
  {frames : List (ArpFrame tables lower)} {mac : String}

/-- The observations of some frames, as the plugin reads them. -/
def observed (library : Library) (frames : List (ArpFrame tables lower)) : List Observation :=
  frames.map fun frame => observationOf library (observationJson frame.observation)

theorem length_targetsOf_observations (named : mac ≠ "") :
    (targetsOf (scansOfObservations numbers settings (observed library frames)) mac).dedup.length =
      (requested library frames mac).length := by
  refine length_dedup_congr fun ip => ?_
  have request (o : ArpObservation) : (observationOf library (observationJson o)).opcode = some 1 ↔ o.opcode = some 1 :=
    opcode_observationOf o 1
  have source (frame : ArpFrame tables lower) : (observationOf library (observationJson frame.observation)).srcMac =
      normalizeMac library frame.packet.srcMac := srcMac_observationOf frame.observation
  simp only [targetsOf, scansOfObservations, observed, List.mem_map, List.mem_filter, decide_eq_true_eq]
  constructor
  · rintro ⟨_, ⟨⟨_, ⟨⟨frame, member, rfl⟩, asks, -, target⟩, rfl⟩, own⟩, rfl⟩
    rw [dstIp_observationOf] at target ⊢
    exact ⟨⟨frame, ⟨member, (request _).mp asks, (source frame).symm.trans own⟩, rfl⟩, target⟩
  · rintro ⟨⟨frame, ⟨member, asks, own⟩, rfl⟩, target⟩
    rw [← dstIp_observationOf] at target ⊢
    have own := (source frame).trans own
    exact ⟨_, ⟨⟨_, ⟨⟨frame, member, rfl⟩, (request _).mpr asks, own ▸ named, target⟩, rfl⟩, own⟩, rfl⟩

theorem answers_observations (named : mac ≠ "") :
    (scansOfObservations numbers settings (observed library frames)).answers mac = 0 ↔
      ∀ frame ∈ frames, frame.observation.opcode = some 2 → normalizeMac library frame.packet.dstMac ≠ mac := by
  have reply (o : ArpObservation) : (observationOf library (observationJson o)).opcode = some 2 ↔ o.opcode = some 2 :=
    opcode_observationOf o 2
  rw [scansOfObservations, observed, List.length_eq_zero_iff, List.filter_eq_nil_iff, List.forall_mem_map]
  refine forall₂_congr fun frame _ => ?_
  have destination : (observationOf library (observationJson frame.observation)).dstMac =
      normalizeMac library frame.packet.dstMac := dstMac_observationOf frame.observation
  simp only [decide_eq_true_eq, reply, destination, not_and]
  exact forall_congr' fun _ => ⟨fun blank own => blank own (own ▸ named), fun other own => absurd own other⟩

/-- The MACs that the observations flag without replies. -/
theorem scanner_iff (positive : 1 ≤ settings.scanThreshold) (nonneg : 0 ≤ settings.responseRatioMax) :
    Flagged numbers settings (scansOfObservations numbers settings (observed library frames)) mac ∧
        (scansOfObservations numbers settings (observed library frames)).answers mac = 0 ↔
      Scanner library settings frames mac := by
  by_cases named : mac = ""
  · constructor
    · rintro ⟨flagged, -⟩
      obtain ⟨many, -⟩ := (flagged_iff positive).mp flagged
      have none_ : targetsOf (scansOfObservations numbers settings (observed library frames)) mac = [] := by
        refine List.map_eq_nil_iff.mpr (List.filter_eq_nil_iff.mpr ?_)
        rintro pair listed own
        obtain ⟨o, asked, rfl⟩ := List.mem_map.mp listed
        have speaks := (List.mem_filter.mp asked).2
        simp only [decide_eq_true_eq] at own speaks
        exact speaks.2.1 (own.trans named)
      rw [none_] at many
      exact absurd (positive.trans many) (by decide)
    · rintro ⟨some_, -, -⟩
      exact absurd named some_
  · rw [flagged_iff positive, length_targetsOf_observations named]
    constructor
    · rintro ⟨⟨many, -⟩, none_⟩
      exact ⟨named, many, (answers_observations named).mp none_⟩
    · rintro ⟨-, many, unanswered⟩
      have none_ : (scansOfObservations numbers settings (observed library frames)).answers mac = 0 :=
        (answers_observations named).mpr unanswered
      refine ⟨⟨many, ?_⟩, none_⟩
      rw [none_, Nat.cast_zero]
      exact mul_nonneg nonneg (Nat.cast_nonneg _)

end Observations

/-! ### From conversations -/

section Conversations
variable {library : Library} {numbers : Numbers} {settings : Settings} {tables : LineTables} {lower : String → String}
  {frames : List (ArpFrame tables lower)} {mac : String} {scores : Scores} {order : IterationOrder}
  {text : TextTables} {collapseThreshold chunkSize : Nat} {emptyFile : Bool}

theorem mem_packetsOf_key {key : ConvKey} : packetsOf key frames ≠ [] ↔ key ∈ frames.map ArpFrame.key := by
  simp [packetsOf, List.filter_eq_nil_iff]

/-- A conversation of the map has the frames of its key. -/
structure Gathered (frames : List (ArpFrame tables lower)) (s : StreamState Details) : Prop where
  keys : (s.lines.convMap.items.map Prod.fst).Perm (frames.map ArpFrame.key).dedup
  addresses : ∀ item ∈ s.lines.convMap.items, item.2.dstIps = collect (dstIpsOf tables (packetsOf item.1 frames))

theorem gathered_dissected (few : frames.length < arpObsCap) :
    Gathered frames (dissected text collapseThreshold emptyFile chunkSize frames) := by
  obtain ⟨-, found⟩ := dissected_spec text collapseThreshold emptyFile chunkSize few
  refine ⟨(List.perm_ext_iff_of_nodup (PyDict.distinct _) (List.nodup_dedup _)).mpr fun key => ?_, ?_⟩
  · rw [PyDict.mem_keys_iff, found, List.mem_dedup, ← mem_packetsOf_key, Dissect.Assigned.convOf, ne_eq,
      Gathering.gather_eq_none_iff]
  · rintro ⟨key, conv⟩ member
    exact Dissect.Reproducible.dstIps_eq ((found key).symm.trans (PyDict.get_of_mem_items member))

section Reading
variable {s : StreamState Details} (gathered : Gathered frames s)

/-- A conversation of the map, as the plugin reads it. -/
def convRead (library : Library) (numbers : Numbers) (scores : Scores) (order : IterationOrder)
    (item : ConvKey × Dissect.Lines.LineConv Details) : Conv :=
  convOf library numbers (conversationJson (Dissect.Reproducible.buildConversation scores order item.1 item.2))

theorem srcMac_convRead (item : ConvKey × Dissect.Lines.LineConv Details) :
    (convRead library numbers scores order item).srcMac = normalizeMac library item.1.srcMac :=
  congrArg (normalizeMac library) (Json.text_str library item.1.srcMac)

include gathered in
theorem dstIp_convRead {item : ConvKey × Dissect.Lines.LineConv Details} (member : item ∈ s.lines.convMap.items) :
    (convRead library numbers scores order item).dstIp = shownBy library frames order item.1 := by
  rw [shownBy, ← gathered.addresses item member]
  exact congrArg library.strip (Json.text_str library _)

include gathered in
theorem extractConvs_dissected (arp : library.upper (library.strip "ARP") = "ARP") :
    extractConvs library numbers (reportOf scores order s) =
      s.lines.convMap.items.map (convRead library numbers scores order) := by
  rw [extractConvs_reportOf arp, conversationsOf, List.map_map]
  · rfl
  · intro item member
    have key : item.1 ∈ (frames.map ArpFrame.key).dedup := gathered.keys.mem_iff.mp (List.mem_map_of_mem member)
    obtain ⟨frame, -, is⟩ := List.mem_map.mp (List.mem_dedup.mp key)
    rw [← is]
    rfl

include gathered in
theorem answers_convs (named : mac ≠ "") :
    (scansOfConvs numbers settings (s.lines.convMap.items.map (convRead library numbers scores order))).answers mac =
      (pairs library frames mac).length := by
  rw [pairs, ← (gathered.keys.filter _).length_eq, List.filter_map, List.length_map]
  show (((s.lines.convMap.items.map _).filter _).filter _).length = _
  rw [List.filter_filter, List.filter_map, List.length_map]
  refine congrArg List.length (List.filter_congr fun item _ => ?_)
  have source : (convRead library numbers scores order item).srcMac = normalizeMac library item.1.srcMac :=
    srcMac_convRead item
  rw [Function.comp_apply, Function.comp_apply, source, ← Bool.decide_and]
  exact decide_eq_decide.mpr ⟨And.left, fun own => ⟨own, own ▸ named⟩⟩

include gathered in
theorem length_targetsOf_convs (named : mac ≠ "") :
    (targetsOf (scansOfConvs numbers settings
      (s.lines.convMap.items.map (convRead library numbers scores order))) mac).dedup.length =
        (shown library frames mac order).length := by
  refine length_dedup_congr fun ip => ?_
  have source (item : ConvKey × Dissect.Lines.LineConv Details) :
      (convRead library numbers scores order item).srcMac = normalizeMac library item.1.srcMac := srcMac_convRead item
  have others (item : ConvKey × Dissect.Lines.LineConv Details) :
      (convRead library numbers scores order item).dstIps = [] := rfl
  simp only [targetsOf, scansOfConvs, pairs, List.mem_map, List.mem_filter, List.mem_flatMap, decide_eq_true_eq]
  constructor
  · rintro ⟨_, ⟨⟨_, ⟨⟨item, member, rfl⟩, -⟩, _, ⟨listed, target⟩, rfl⟩, own⟩, rfl⟩
    rw [others, List.mem_singleton, dstIp_convRead gathered member] at listed
    refine ⟨⟨item.1, ⟨?_, (source item).symm.trans own⟩, listed.symm⟩, target⟩
    exact gathered.keys.mem_iff.mp (List.mem_map_of_mem member)
  · rintro ⟨⟨key, ⟨listed, own⟩, rfl⟩, target⟩
    obtain ⟨item, member, rfl⟩ := List.mem_map.mp (gathered.keys.mem_iff.mpr listed)
    have own := (source item).trans own
    refine ⟨_, ⟨⟨_, ⟨⟨item, member, rfl⟩, own ▸ named⟩, _, ⟨?_, target⟩, rfl⟩, own⟩, rfl⟩
    rw [dstIp_convRead gathered member]
    exact List.mem_cons_self

end Reading

/-- The MACs that the conversations flag. -/
theorem stillSeen_iff (few : frames.length < arpObsCap) (arp : library.upper (library.strip "ARP") = "ARP")
    (positive : 1 ≤ settings.scanThreshold) (named : mac ≠ "") :
    Flagged numbers settings (scansOfConvs numbers settings (extractConvs library numbers
        (reportOf scores order (dissected text collapseThreshold emptyFile chunkSize frames)))) mac ↔
      StillSeen library settings frames mac order := by
  have gathered : Gathered frames (dissected text collapseThreshold emptyFile chunkSize frames) :=
    gathered_dissected few
  rw [extractConvs_dissected gathered arp, flagged_iff positive, length_targetsOf_convs gathered named,
    answers_convs gathered named]
  rfl

theorem extractObservations_dissected (few : frames.length < arpObsCap) :
    extractObservations library (reportOf scores order (dissected text collapseThreshold emptyFile chunkSize frames)) =
      observed library frames := by
  rw [extractObservations_reportOf, (dissected_spec text collapseThreshold emptyFile chunkSize few).1, List.map_map]
  rfl

/-- Every pair shows one address at most, so a ratio below one leaves nothing to be seen. -/
theorem not_stillSeen (positive : 1 ≤ settings.scanThreshold) (small : settings.responseRatioMax < 1) :
    ¬StillSeen library settings frames mac order := by
  rintro ⟨many, ratio⟩
  have shown_le : (shown library frames mac order).length ≤ (pairs library frames mac).length := by
    refine (List.dedup_sublist _).length_le.trans ((List.length_filter_le _ _).trans ?_)
    rw [List.length_map]
  have some_ : 1 ≤ (shown library frames mac order).length := by omega
  have some_ : (1 : Rat) ≤ (shown library frames mac order).length := by exact_mod_cast some_
  have le : ((shown library frames mac order).length : Rat) ≤ (pairs library frames mac).length := by
    exact_mod_cast shown_le
  nlinarith

end Conversations

/-- The conversations of a capture of ARP frames flag every MAC that the observations flag
    without replies, exactly if every scanner that gets no reply shows as many addresses in the
    conversations of its pairs as the threshold, and has not too many pairs for these. -/
theorem preserves_iff (library : Library) (numbers : Numbers) (settings : Settings) (scores : Scores)
    (order : IterationOrder) (text : TextTables) (collapseThreshold chunkSize : Nat) (emptyFile : Bool)
    {tables : LineTables} {lower : String → String} (frames : List (ArpFrame tables lower))
    (few : frames.length < arpObsCap) (positive : 1 ≤ settings.scanThreshold) (nonneg : 0 ≤ settings.responseRatioMax)
    (arp : library.upper (library.strip "ARP") = "ARP") :
    Preserves library numbers settings
        (reportOf scores order (dissected text collapseThreshold emptyFile chunkSize frames)) ↔
      ∀ mac, Scanner library settings frames mac → StillSeen library settings frames mac order := by
  unfold Preserves
  dsimp only
  rw [extractObservations_dissected few]
  refine forall_congr' fun mac => ?_
  rw [← and_imp, scanner_iff positive nonneg]
  exact forall_congr' fun scanner => stillSeen_iff few arp positive scanner.named

/-! ### A sweep -/

open Marlinspike.Dissect.Lines
open Marlinspike.Dissect.Reproducible (pingTables pingText noScores)

def sweepTables : LineTables :=
  { pingTables with
    fields := ["frame.time", "frame.len", "frame.protocols", "eth.src", "eth.dst", "arp.opcode", "arp.dst.proto_ipv4"] }

def sweepFields (ip : String) : List String :=
  ["Jul 27, 2026 12:00:00.000000000 UTC", "42", "eth:ethertype:arp", "02:00:00:00:00:01", "ff:ff:ff:ff:ff:ff", "1", ip]

def requestPacket (ip : String) : LinePacket :=
  ⟨readFields sweepTables.fields (sweepFields ip), "02:00:00:00:00:01", "ff:ff:ff:ff:ff:ff", "ARP", 0, 0, ""⟩

section Requests
variable {ip : String} (plain : ip ≠ "" ∧ '\t' ∉ ip.toList)
include plain

theorem field_request (name : String) :
    field (requestPacket ip).fields name = (PyDict.find name (sweepTables.fields.zip (sweepFields ip))).getD "" := by
  have items : (readFields sweepTables.fields (sweepFields ip)).items = sweepTables.fields.zip (sweepFields ip) := by
    simp [readFields, sweepTables, sweepFields, PyDict.set, PyDict.assign, PyDict.empty, plain]
  rw [field, PyDict.get, requestPacket, items]

theorem readPacket_request : readPacket sweepTables (tabbed (sweepFields ip)) = some (some (requestPacket ip)) := by
  have read := field_request plain
  have zero : sweepTables.int "0" = some 0 := by decide
  have arp : classify sweepTables "eth:ethertype:arp" 0 "" = some "ARP" := by decide +kernel
  unfold readPacket
  rw [splitText_tabbed (by simp [sweepFields]) (by simp [sweepFields, plain])]
  simp only [requestPacket] at read ⊢
  simp only [read]
  simp [show sweepTables.fields = ["frame.time", "frame.len", "frame.protocols", "eth.src", "eth.dst", "arp.opcode",
    "arp.dst.proto_ipv4"] from rfl, sweepFields, PyDict.find, orElse, zero, arp]

end Requests

/-- A broadcast request for an address. -/
def request (ip : String) (plain : ip ≠ "" ∧ '\t' ∉ ip.toList) : ArpFrame sweepTables pingText.lower where
  line := ⟨tabbed (sweepFields ip), tabbed_ne_empty _ _ _⟩
  packet := requestPacket ip
  read := readPacket_request plain
  protocol := rfl
  port := rfl
  stacked := by
    rw [field_request plain]
    exact (by decide +kernel : "arp".toList <:+: (pingText.lower "eth:ethertype:arp").toList)
  framed := by
    rw [frameLen, field_request plain]
    exact (by decide : (sweepTables.int "42").isSome)

def address (i : Fin 20) : String := "10.0.0." ++ toString (i.val + 1)

theorem address_plain (i : Fin 20) : address i ≠ "" ∧ '\t' ∉ (address i).toList := by
  revert i
  decide

/-- A host asks for twenty addresses, and gets no reply. -/
def sweep : List (ArpFrame sweepTables pingText.lower) :=
  (List.finRange 20).map fun i => request (address i) (address_plain i)

theorem observation_request {ip : String} (plain : ip ≠ "" ∧ '\t' ∉ ip.toList) :
    (request ip plain).observation.opcode = some 1 ∧ (request ip plain).observation.dstIp = ip := by
  have opcode : field (requestPacket ip).fields "arp.opcode" = "1" := field_request plain _
  have target : field (requestPacket ip).fields "arp.dst.proto_ipv4" = ip := field_request plain _
  have one : sweepTables.int "1" = some 1 := by decide
  simp [ArpFrame.observation, request, Dissect.ChunkLoop.arpObservation, opcode, target, one, orElse, plain]

theorem sweep_scans : Scanner Findings.Identity.plainLibrary defaults sweep "02:00:00:00:00:01" where
  named := by decide
  many := by
    have kept : sweep.filter (fun frame => frame.observation.opcode = some 1 ∧
        normalizeMac Findings.Identity.plainLibrary frame.packet.srcMac = "02:00:00:00:00:01") = sweep := by
      refine List.filter_eq_self.mpr fun frame member => ?_
      obtain ⟨i, -, rfl⟩ := List.mem_map.mp member
      exact decide_eq_true ⟨(observation_request (address_plain i)).1, rfl⟩
    have asked : sweep.map (fun frame => Findings.Identity.plainLibrary.strip frame.observation.dstIp) =
        (List.finRange 20).map address := by
      rw [sweep, List.map_map]
      exact List.map_congr_left fun i _ => (observation_request (address_plain i)).2
    rw [requested, kept, asked]
    decide +kernel
  unanswered := by
    rintro frame member reply
    obtain ⟨i, -, rfl⟩ := List.mem_map.mp member
    rw [(observation_request (address_plain i)).1] at reply
    cases reply

theorem few_sweep : sweep.length < arpObsCap := by
  rw [sweep, List.length_map, List.length_finRange]
  decide

def plainNumbers : Numbers := ⟨fun _ => none, fun _ => none, fun _ => "", fun _ _ => "", fun _ r => r⟩

/-- The report of the sweep. -/
def sweepReport : Report := reportOf noScores .forward (dissected pingText 50 false 0 sweep)

theorem preserves_iff_sweep : Preserves Findings.Identity.plainLibrary plainNumbers defaults sweepReport ↔
    ∀ mac, Scanner Findings.Identity.plainLibrary defaults sweep mac →
      StillSeen Findings.Identity.plainLibrary defaults sweep mac .forward :=
  preserves_iff Findings.Identity.plainLibrary plainNumbers defaults noScores .forward pingText 50 0 false sweep few_sweep
    (by decide) (by decide +kernel) rfl

/-- The sweep is flagged by its observations, and not by its conversation. -/
theorem sweep_lost : ¬Preserves Findings.Identity.plainLibrary plainNumbers defaults sweepReport := by
  intro preserves
  have positive : 1 ≤ defaults.scanThreshold := by decide
  unfold Preserves at preserves
  dsimp only at preserves
  rw [sweepReport, extractObservations_dissected few_sweep] at preserves
  obtain ⟨flagged, none_⟩ := (@scanner_iff _ plainNumbers _ _ _ _ _ positive (by decide +kernel)).mpr sweep_scans
  have seen := (stillSeen_iff few_sweep rfl positive sweep_scans.named).mp (preserves _ flagged none_)
  exact not_stillSeen positive (by decide +kernel) seen

end Marlinspike.Plugins.ArpFallback
