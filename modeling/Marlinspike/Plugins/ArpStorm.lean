import Mathlib.Algebra.BigOperators.Ring.Finset
import Mathlib.Algebra.Order.Field.Rat
import Marlinspike.Plugins.ArpEvidence
import Marlinspike.Topology.Graph

/-!
The rate of a MAC's ARP broadcasts in the reports of the engine. Its conversations have no
list of times, and what they have instead is the time of day as a text, which is no number:
all broadcasts count as sent within one minute (`honest_iff`).
-/
namespace Marlinspike.Plugins.ArpStorm
open Marlinspike.Reports (Library)
open Marlinspike.Findings.Identity (sorted plainLibrary)
open Marlinspike.Topology.Graph (Conversation)
open Marlinspike.Plugins.Arp
open Marlinspike.Plugins.ArpEvidence

/-! ### The reports of the engine -/

/-- A time as `frame.time` and the events of Bronze have it, with a time of day. -/
def IsTime (text : String) : Prop := ':' ∈ text.toList

/-- A conversation of the engine has packets, and the times of the first and the last one. -/
structure Timed (conv : Conversation) : Prop where
  packets : 0 < conv.packetCount
  first : IsTime conv.firstSeen
  last : IsTime conv.lastSeen

/-- What the plugin finds in a conversation, and the time of its last packet. -/
def conversationJson (conv : Conversation) : Json :=
  .obj [("src_ip", .str conv.srcIp), ("dst_ip", .str conv.dstIp), ("src_mac", .str conv.srcMac),
    ("dst_mac", .str conv.dstMac), ("protocol", .str conv.protocol), ("packet_count", .int conv.packetCount),
    ("first_seen", .str conv.firstSeen), ("last_seen", .str conv.lastSeen)]

def Lists (report : Report) (convs : List Conversation) : Prop :=
  report.get "conversations" = some (.arr (convs.map conversationJson))

section Rate
variable (library : Library) (settings : Settings) (instant : String → Rat) (convs : List Conversation) (mac : String)

/-- The conversations in which the MAC sends ARP packets to the broadcast address. -/
def broadcasts : List Conversation :=
  convs.filter fun conv => library.upper (library.strip conv.protocol) = "ARP" ∧ mac ≠ "" ∧
    normalizeMac library conv.srcMac = mac ∧ normalizeMac library conv.dstMac = "ff:ff:ff:ff:ff:ff"

def packets (own : List Conversation) : Nat := (own.map (·.packetCount)).sum

/-- From the earliest first packet to the latest last one, in minutes; the instants are in seconds. -/
def minutes : List Conversation → Rat
  | [] => 0
  | first :: rest =>
    (rest.foldl (fun latest conv => max latest (instant conv.lastSeen)) (instant first.lastSeen) -
      rest.foldl (fun earliest conv => min earliest (instant conv.firstSeen)) (instant first.firstSeen)) / 60

/-- The rate of the MAC's broadcasts exceeds the threshold. -/
def Floods : Prop :=
  broadcasts library convs mac ≠ [] ∧
    (settings.perMinute : Rat) < packets (broadcasts library convs mac) / max 1 (minutes instant (broadcasts library convs mac))

/-- A result has a finding of a broadcast storm for the MAC. -/
def Reported (result : Result) : Prop :=
  ∃ finding ∈ result.findings, finding.category = "ARP_BROADCAST_STORM" ∧ textOf finding "mac" = mac

/-- A storm is reported exactly for the MACs whose rate exceeds the threshold. -/
def Honest (numbers : Numbers) (report : Report) : Prop :=
  ∃ result, detect library numbers settings report = some result ∧
    ∀ mac, Reported mac result ↔ Floods library settings instant convs mac

/-- The packets do not lie between what the threshold allows in one minute and in all the time. -/
def Decisive : Prop :=
  let own := broadcasts library convs mac
  let allowed := settings.perMinute * max 1 (minutes instant own)
  (packets own : Rat) ≤ min (settings.perMinute : Rat) allowed ∨ max (settings.perMinute : Rat) allowed < packets own

end Rate

/-! ### What the plugin makes of them -/

section Reading
variable {library : Library} {numbers : Numbers} {settings : Settings} {convs : List Conversation} {mac : String}

def read (library : Library) (numbers : Numbers) (conv : Conversation) : Conv := convOf library numbers (conversationJson conv)

theorem srcMac_read (conv : Conversation) : (read library numbers conv).srcMac = normalizeMac library conv.srcMac :=
  congrArg (normalizeMac library) (Json.text_str library conv.srcMac)

theorem dstMac_read (conv : Conversation) : (read library numbers conv).dstMac = normalizeMac library conv.dstMac :=
  congrArg (normalizeMac library) (Json.text_str library conv.dstMac)

theorem firstSeen_read (conv : Conversation) : (read library numbers conv).firstSeen = conv.firstSeen :=
  Json.text_str library conv.firstSeen

theorem counted_read {conv : Conversation} (timed : Timed conv) :
    counted (read library numbers conv) = some (read library numbers conv, (conv.packetCount : Int)) := by
  have some_ : (Json.int conv.packetCount).truthy = true := by
    have := timed.packets
    exact decide_eq_true (by omega)
  have packetCount : (read library numbers conv).packetCount = some (conv.packetCount : Int) := if_pos some_
  rw [counted, packetCount, Option.map_some]

theorem broadcastTimes_read {conv : Conversation} (timed : Timed conv) :
    broadcastTimes library (read library numbers conv) = [conv.firstSeen] := by
  have given : conv.firstSeen ≠ "" := by
    intro blank
    have first := timed.first
    rw [IsTime, blank] at first
    exact absurd first (by decide)
  have only : broadcastTimes library (read library numbers conv) =
      if (read library numbers conv).firstSeen ≠ "" then [(read library numbers conv).firstSeen] else [] := rfl
  rw [only, firstSeen_read, if_pos given]

/-- The conversations with ARP packets to the broadcast address. -/
def flooded (library : Library) (convs : List Conversation) : List Conversation :=
  convs.filter fun conv => library.upper (library.strip conv.protocol) = "ARP" ∧
    normalizeMac library conv.srcMac ≠ "" ∧ normalizeMac library conv.dstMac = "ff:ff:ff:ff:ff:ff"

theorem extractConvs_lists {report : Report} (listed : Lists report convs) : extractConvs library numbers report =
    (convs.filter fun conv => library.upper (library.strip conv.protocol) = "ARP").map (read library numbers) := by
  have objects : (Json.arr (convs.map conversationJson)).objects = convs.map conversationJson := by
    change (convs.map conversationJson).filter Json.isObj = convs.map conversationJson
    exact List.filter_eq_self.mpr (by simp [conversationJson, Json.isObj])
  have protocol : ∀ conv, ((conversationJson conv).get "protocol").stripped library = library.strip conv.protocol :=
    fun conv => congrArg library.strip (Json.text_str library conv.protocol)
  unfold extractConvs
  rw [listed, Option.getD_some, objects, List.filter_map, List.map_map]
  simp only [Function.comp_def, protocol]
  rfl

theorem flooding_lists {report : Report} (listed : Lists report convs) :
    flooding (extractConvs library numbers report) = (flooded library convs).map (read library numbers) := by
  rw [extractConvs_lists listed, flooding, List.filter_map, List.filter_filter, flooded]
  refine congrArg (List.map _) (List.filter_congr fun conv _ => ?_)
  simp only [Function.comp_def, srcMac_read, dstMac_read]
  rw [← Bool.decide_and]
  exact decide_eq_decide.mpr and_comm

theorem broadcasts_eq (named : mac ≠ "") :
    broadcasts library convs mac = (flooded library convs).filter fun conv => normalizeMac library conv.srcMac = mac := by
  rw [flooded, List.filter_filter, broadcasts]
  refine List.filter_congr fun conv _ => ?_
  rw [← Bool.decide_and]
  refine decide_eq_decide.mpr ⟨?_, ?_⟩
  · rintro ⟨arp, -, rfl, broadcast⟩
    exact ⟨rfl, arp, named, broadcast⟩
  · rintro ⟨rfl, arp, -, broadcast⟩
    exact ⟨arp, named, rfl, broadcast⟩

theorem mapM_read {own : List Conversation} (timed : ∀ conv ∈ own, Timed conv) :
    (own.map (read library numbers)).mapM counted =
      some (own.map fun conv => (read library numbers conv, (conv.packetCount : Int))) := by
  induction own with
  | nil => rfl
  | cons conv rest ih =>
    rw [List.map_cons, List.mapM_cons, counted_read (timed conv List.mem_cons_self),
      ih fun other member => timed other (List.mem_cons_of_mem _ member)]
    rfl

theorem durationMinutes_unread {times : List String} (unread : ∀ time ∈ times, numbers.parse time = none) :
    durationMinutes numbers times = 1 := by
  unfold durationMinutes
  dsimp only
  split
  next => rfl
  next many =>
    cases times with
    | nil => exact absurd Nat.zero_lt_two many
    | cons time rest =>
      obtain ⟨first, others, is⟩ := List.exists_cons_of_length_pos (l := sorted (time :: rest))
        (by rw [sorted, List.length_mergeSort]; exact Nat.succ_pos _)
      have member : first ∈ time :: rest := by
        rw [← @List.mem_mergeSort _ (fun a b => decide (a ≤ b))]
        change first ∈ sorted (time :: rest)
        rw [is]
        exact List.mem_cons_self
      rw [is, List.headD_cons, unread first member]

theorem textOf_storms {counts : List (Conv × Int)} :
    (∃ finding ∈ storms library numbers settings counts, textOf finding "mac" = mac) ↔
      let own := counts.filter (·.1.srcMac = mac)
      own ≠ [] ∧ (settings.perMinute : Rat) < ((own.map Prod.snd).sum : Int) /
        max (durationMinutes numbers (own.flatMap fun c => broadcastTimes library c.1)) 1 := by
  have listed : mac ∈ counts.map (fun c => c.1.srcMac) ↔ counts.filter (·.1.srcMac = mac) ≠ [] := by
    simp [List.filter_eq_nil_iff]
  unfold storms
  dsimp only
  rw [← listed, ← mem_sortedSet]
  constructor
  · rintro ⟨finding, emitted, rfl⟩
    obtain ⟨own, kept, rfl⟩ := List.mem_map.mp emitted
    obtain ⟨member, fast⟩ := List.mem_filter.mp kept
    exact ⟨member, of_decide_eq_true fast⟩
  · rintro ⟨member, fast⟩
    exact ⟨_, List.mem_map.mpr ⟨mac, List.mem_filter.mpr ⟨member, decide_eq_true fast⟩, rfl⟩, rfl⟩

/-- All packets count as sent within a minute. -/
theorem storms_read (unread : ∀ text value, numbers.parse text = some value → ':' ∉ text.toList)
    {own : List Conversation} (timed : ∀ conv ∈ own, Timed conv) :
    (∃ finding ∈ storms library numbers settings (own.map fun conv => (read library numbers conv, (conv.packetCount : Int))),
      textOf finding "mac" = mac) ↔
      (own.filter fun conv => normalizeMac library conv.srcMac = mac) ≠ [] ∧
        (settings.perMinute : Rat) < packets (own.filter fun conv => normalizeMac library conv.srcMac = mac) := by
  have filtered : (own.map fun conv => (read library numbers conv, (conv.packetCount : Int))).filter (·.1.srcMac = mac) =
      (own.filter fun conv => normalizeMac library conv.srcMac = mac).map fun conv =>
        (read library numbers conv, (conv.packetCount : Int)) := by
    rw [List.filter_map]
    simp only [Function.comp_def, srcMac_read]
  have one : durationMinutes numbers (((own.filter fun conv => normalizeMac library conv.srcMac = mac).map fun conv =>
      (read library numbers conv, (conv.packetCount : Int))).flatMap fun c => broadcastTimes library c.1) = 1 := by
    refine durationMinutes_unread fun time member => ?_
    obtain ⟨c, counted_, listed⟩ := List.mem_flatMap.mp member
    obtain ⟨conv, kept, rfl⟩ := List.mem_map.mp counted_
    have is := timed conv (List.mem_filter.mp kept).1
    rw [broadcastTimes_read is, List.mem_singleton] at listed
    obtain rfl := listed
    exact Option.eq_none_iff_forall_ne_some.mpr fun value parsed => unread _ value parsed is.first
  have sum : ∀ own : List Conversation,
      ((own.map fun conv => (read library numbers conv, (conv.packetCount : Int))).map Prod.snd).sum = (packets own : Int) := by
    intro own
    rw [List.map_map, packets, Nat.cast_list_sum, List.map_map]
    rfl
  rw [textOf_storms]
  dsimp only
  rw [filtered, one, sum, max_self, div_one, Int.cast_natCast, ne_eq, List.map_eq_nil_iff]

theorem category_anomalies {anomalies : List Anomaly} {dupIps : List String} {keys : List (String × String)} {finding : Finding}
    (member : finding ∈ detectFromAnomalies library settings anomalies dupIps keys) :
    finding.category = "ARP_DUPLICATE_IP_CLAIM" ∨ finding.category = "ARP_GRATUITOUS_REPLY" := by
  obtain member | member := List.mem_append.mp member
  · obtain ⟨ip, -, rfl⟩ := List.mem_map.mp member
    exact .inl rfl
  · obtain ⟨pair, -, rfl⟩ := List.mem_map.mp member
    exact .inr rfl

/-- Of the detectors, one alone makes findings of a broadcast storm. -/
theorem mem_detectAll_iff {view : View} {findings storms : List Finding} {finding : Finding}
    (stormy : detectBroadcastStorm library numbers settings view.convs = some storms)
    (found : detectAll library numbers settings view = some findings) (storm : finding.category = "ARP_BROADCAST_STORM") :
    finding ∈ findings ↔ finding ∈ storms := by
  unfold detectAll at found
  dsimp only at found
  rw [stormy] at found
  obtain rfl := Option.some.inj found
  rw [List.mem_mergeSort]
  simp only [List.mem_append]
  constructor
  · rintro ((((((member | member) | member) | member) | member) | member) | member)
    · exact absurd (storm.symm.trans (category_claim member)) (by decide)
    · exact absurd (storm.symm.trans (category_gateway member)) (by decide)
    · exact absurd (storm.symm.trans (category_manyIps member)) (by decide)
    · exact absurd (storm.symm.trans (category_scanBehavior member)) (by decide)
    · exact member
    · exact absurd (storm.symm.trans (category_gratuitous member)) (by decide)
    · obtain other | other := category_anomalies member
      · exact absurd (storm.symm.trans other) (by decide)
      · exact absurd (storm.symm.trans other) (by decide)
  · intro member
    exact .inl (.inl (.inr member))

theorem storms_nil : storms library numbers settings [] = [] := by
  unfold storms sortedSet sorted
  simp

theorem reported_iff {report : Report} {result : Result} {storms : List Finding}
    (stormy : detectBroadcastStorm library numbers settings (extractConvs library numbers report) = some storms)
    (found : detect library numbers settings report = some result) :
    Reported mac result ↔ ∃ finding ∈ storms, textOf finding "mac" = mac := by
  have own : ∀ finding ∈ storms, finding.category = "ARP_BROADCAST_STORM" := fun _ => category_storm stormy
  have same : ∀ finding, finding.category = "ARP_BROADCAST_STORM" → (finding ∈ result.findings ↔ finding ∈ storms) := by
    intro finding storm
    unfold detect at found
    dsimp only at found
    split at found
    next empty =>
      obtain rfl := Option.some.inj found
      have convs_nil : extractConvs library numbers report = [] := List.isEmpty_iff.mp empty.1
      have none_ : storms = [] := by
        rw [convs_nil, detectBroadcastStorm_eq] at stormy
        split at stormy
        · exact (Option.some.inj stormy).symm
        · exact (Option.some.inj stormy).symm.trans storms_nil
      rw [none_]
    next =>
      obtain ⟨findings, detected, rfl⟩ := Option.map_eq_some_iff.mp found
      exact mem_detectAll_iff stormy detected storm
  constructor
  · rintro ⟨finding, member, storm, named⟩
    exact ⟨finding, (same finding storm).mp member, named⟩
  · rintro ⟨finding, member, named⟩
    exact ⟨finding, (same finding (own finding member)).mpr member, own finding member, named⟩

end Reading

/-! ### When the rate is honest -/

section Honest
variable (library : Library) (numbers : Numbers) (settings : Settings) (instant : String → Rat) (report : Report)
  (convs : List Conversation)

/-- The threshold is compared with the packets of all the time, as of one minute. -/
theorem reports_iff (unread : ∀ text value, numbers.parse text = some value → ':' ∉ text.toList)
    (enabled : settings.broadcastRate = true) (listed : Lists report convs) (timed : ∀ conv ∈ convs, Timed conv) :
    ∃ result, detect library numbers settings report = some result ∧
      ∀ mac, Reported mac result ↔ broadcasts library convs mac ≠ [] ∧
        (settings.perMinute : Rat) < packets (broadcasts library convs mac) := by
  have own : ∀ conv ∈ flooded library convs, Timed conv := fun conv member => timed conv (List.mem_filter.mp member).1
  have stormy : detectBroadcastStorm library numbers settings (extractConvs library numbers report) =
      some (storms library numbers settings ((flooded library convs).map fun conv =>
        (read library numbers conv, (conv.packetCount : Int)))) := by
    rw [detectBroadcastStorm_eq, flooding_lists listed, mapM_read own, if_neg (by rw [enabled]; decide)]
    rfl
  have answers : detect library numbers settings report ≠ none := by
    intro none_
    obtain ⟨-, conv, member, unknown⟩ := (detect_eq_none library numbers settings report).mp none_
    rw [flooding_lists listed] at member
    obtain ⟨conv, kept, rfl⟩ := List.mem_map.mp member
    have known := @counted_read library numbers _ (own conv kept)
    rw [counted, unknown] at known
    cases known
  obtain ⟨result, found⟩ := Option.ne_none_iff_exists'.mp answers
  refine ⟨result, found, fun mac => ?_⟩
  rw [reported_iff stormy found]
  by_cases named : mac = ""
  · subst named
    have nobody : broadcasts library convs "" = [] := by
      refine List.filter_eq_nil_iff.mpr fun conv _ => ?_
      simp
    constructor
    · intro storm
      obtain ⟨some_, -⟩ := textOf_storms.mp storm
      obtain ⟨pair, kept⟩ := List.exists_mem_of_ne_nil _ some_
      obtain ⟨member, blank⟩ := List.mem_filter.mp kept
      obtain ⟨conv, flooding_, rfl⟩ := List.mem_map.mp member
      rw [decide_eq_true_iff, srcMac_read] at blank
      exact absurd blank (of_decide_eq_true (List.mem_filter.mp flooding_).2).2.1
    · rintro ⟨some_, -⟩
      exact absurd nobody some_
  · rw [broadcasts_eq named]
    exact storms_read unread own

/-- The rate is honest if no MAC's packets lie between what the threshold allows in one minute and
in all the time. -/
theorem honest_iff (unread : ∀ text value, numbers.parse text = some value → ':' ∉ text.toList)
    (enabled : settings.broadcastRate = true) (listed : Lists report convs) (timed : ∀ conv ∈ convs, Timed conv) :
    Honest library settings instant convs numbers report ↔ ∀ mac, Decisive library settings instant convs mac := by
  obtain ⟨result, found, reports⟩ := reports_iff library numbers settings report convs unread enabled listed timed
  have only : Honest library settings instant convs numbers report ↔
      ∀ mac, Reported mac result ↔ Floods library settings instant convs mac := by
    constructor
    · rintro ⟨result', found', same⟩
      obtain rfl := Option.some.inj (found.symm.trans found')
      exact same
    · intro same
      exact ⟨result, found, same⟩
  rw [only]
  refine forall_congr' fun mac => ?_
  rw [reports mac]
  unfold Floods Decisive
  dsimp only
  generalize broadcasts library convs mac = own
  have positive : (0 : Rat) < max 1 (minutes instant own) := lt_of_lt_of_le one_pos (le_max_left _ _)
  rw [lt_div_iff₀ positive, le_min_iff, max_lt_iff]
  cases own with
  | nil =>
    have still : (packets [] : Rat) = 0 := rfl
    simp only [ne_eq, not_true_eq_false, false_and, true_iff, still]
    obtain nonneg | neg := le_or_gt 0 (settings.perMinute : Rat)
    · exact .inl ⟨nonneg, mul_nonneg nonneg positive.le⟩
    · exact .inr ⟨neg, mul_neg_of_neg_of_pos neg positive⟩
  | cons conv rest =>
    simp only [ne_eq, reduceCtorEq, not_false_eq_true, true_and]
    generalize (packets (conv :: rest) : Rat) = sent
    constructor
    · intro same
      by_cases fast : (settings.perMinute : Rat) < sent
      · exact .inr ⟨fast, same.mp fast⟩
      · exact .inl ⟨not_lt.mp fast, not_lt.mp (mt same.mpr fast)⟩
    · rintro (⟨below, below'⟩ | ⟨above, above'⟩)
      · exact iff_of_false (not_lt.mpr below) (not_lt.mpr below')
      · exact iff_of_true above above'

end Honest

/-! ### Ten quiet minutes -/

/-- A conversation of sixty broadcasts. -/
def asking (target firstSeen lastSeen : String) : Conversation :=
  { srcIp := "10.0.0.5", dstIp := target, srcMac := "02:00:00:00:00:01", dstMac := "ff:ff:ff:ff:ff:ff", protocol := "ARP"
    port := 0, packetCount := 60, bytesTotal := 3600, firstSeen, lastSeen }

/-- Sixty broadcasts at the beginning of ten minutes, and sixty at the end. -/
def quiet : List Conversation :=
  [asking "10.0.0.6" "Jul 27, 2026 12:00:00.000000000 UTC" "Jul 27, 2026 12:00:30.000000000 UTC",
    asking "10.0.0.7" "Jul 27, 2026 12:09:30.000000000 UTC" "Jul 27, 2026 12:10:00.000000000 UTC"]

/-- The seconds since noon of the times that occur. -/
def sinceNoon (text : String) : Rat :=
  if text = "Jul 27, 2026 12:00:00.000000000 UTC" then 0
  else if text = "Jul 27, 2026 12:00:30.000000000 UTC" then 30
  else if text = "Jul 27, 2026 12:09:30.000000000 UTC" then 570
  else 600

def quietReport : Report := PyDict.empty.set "conversations" (.arr (quiet.map conversationJson))

theorem timed_quiet : ∀ conv ∈ quiet, Timed conv := by
  intro conv member
  obtain rfl | rest := List.mem_cons.mp member
  · exact ⟨by decide, by unfold IsTime; decide, by unfold IsTime; decide⟩
  · obtain rfl := List.mem_singleton.mp rest
    exact ⟨by decide, by unfold IsTime; decide, by unfold IsTime; decide⟩

theorem honest_iff_quiet : Honest plainLibrary defaults sinceNoon quiet plainNumbers quietReport ↔
    ∀ mac, Decisive plainLibrary defaults sinceNoon quiet mac :=
  honest_iff plainLibrary plainNumbers defaults sinceNoon quietReport quiet (fun _ _ read => nomatch read) rfl rfl timed_quiet

/-- Twelve broadcasts a minute are reported as more than a hundred. -/
theorem quiet_reported :
    ¬∀ (library : Library) (numbers : Numbers) (settings : Settings) (instant : String → Rat) (report : Report)
      (convs : List Conversation), (∀ text value, numbers.parse text = some value → ':' ∉ text.toList) →
      settings.broadcastRate = true → Lists report convs → (∀ conv ∈ convs, Timed conv) →
      Honest library settings instant convs numbers report := by
  intro all
  have unread : ∀ text value, plainNumbers.parse text = some value → ':' ∉ text.toList := fun _ _ read => nomatch read
  obtain ⟨result, found, honest⟩ := all plainLibrary plainNumbers defaults sinceNoon quietReport quiet unread rfl rfl timed_quiet
  obtain ⟨result', found', reports⟩ :=
    reports_iff plainLibrary plainNumbers defaults quietReport quiet unread rfl rfl timed_quiet
  obtain rfl := Option.some.inj (found.symm.trans found')
  have own : broadcasts plainLibrary quiet "02:00:00:00:00:01" = quiet := by decide
  have storm : Reported "02:00:00:00:00:01" result := by
    rw [reports, own]
    exact ⟨by decide, by decide⟩
  have fast := ((honest _).mp storm).2
  rw [own] at fast
  have slow : ¬(defaults.perMinute : Rat) < packets quiet / max 1 (minutes sinceNoon quiet) := by decide +kernel
  exact slow fast

end Marlinspike.Plugins.ArpStorm
