import Mathlib.Algebra.BigOperators.Group.List.Basic
import Mathlib.Data.Prod.Lex
import Marlinspike.Plugins.Arp
import Marlinspike.Sorting

/-!
How the detection of ARP poisoning puts its three sources together. Conversations and
observations are one body of evidence about the MACs of an IP, the anomalies another one, which
counts only where the first names fewer than two MACs; gratuitous replies are gathered
from observations and anomalies alike. The order of the three lists makes no difference
(`detect_permuted`).
-/
namespace Marlinspike.Plugins.ArpEvidence
open Marlinspike.Reports (Library)
open Marlinspike.Findings.Identity (sorted sorted_eq_iff plainLibrary)
open Marlinspike.Plugins.Arp

/-! ### Lists in another order -/

section Permuted
variable {α β : Type} {l l' : List α}

theorem sortedSet_perm {names names' : List String} (perm : names.Perm names') : sortedSet names = sortedSet names' :=
  sortedSet_congr fun _ => perm.mem_iff

theorem mapM_perm (f : α → Option β) (perm : l.Perm l') :
    l.mapM f = none ∧ l'.mapM f = none ∨ ∃ r r', l.mapM f = some r ∧ l'.mapM f = some r' ∧ r.Perm r' := by
  induction perm with
  | nil => exact .inr ⟨[], [], rfl, rfl, .refl _⟩
  | cons a _ ih =>
    simp only [List.mapM_cons]
    cases f a with
    | none => exact .inl ⟨rfl, rfl⟩
    | some b =>
      obtain ⟨first, second⟩ | ⟨r, r', first, second, perm⟩ := ih
      · exact .inl ⟨by rw [first]; rfl, by rw [second]; rfl⟩
      · exact .inr ⟨b :: r, b :: r', by rw [first]; rfl, by rw [second]; rfl, perm.cons b⟩
  | swap a b rest =>
    simp only [List.mapM_cons]
    cases f a with
    | none => cases f b <;> exact .inl ⟨rfl, rfl⟩
    | some x =>
      cases f b with
      | none => exact .inl ⟨rfl, rfl⟩
      | some y =>
        cases rest.mapM f with
        | none => exact .inl ⟨rfl, rfl⟩
        | some r => exact .inr ⟨y :: x :: r, x :: y :: r, rfl, rfl, .swap x y r⟩
  | trans _ _ first second =>
    obtain ⟨one, two⟩ | ⟨r, r', one, two, perm⟩ := first
    · obtain ⟨-, three⟩ | ⟨_, _, three, -⟩ := second
      · exact .inl ⟨one, three⟩
      · rw [two] at three
        cases three
    · obtain ⟨three, -⟩ | ⟨s, s', three, four, perm'⟩ := second
      · rw [two] at three
        cases three
      · rw [two] at three
        obtain rfl := Option.some.inj three
        exact .inr ⟨r, s', one, four, perm.trans perm'⟩

/-- The least of some numbers. -/
def least : List Rat → Option Rat
  | [] => none
  | first :: rest => some (rest.foldl min first)

theorem least_perm {values values' : List Rat} (perm : values.Perm values') : least values = least values' := by
  induction perm with
  | nil => rfl
  | cons first perm _ => exact congrArg some perm.foldl_op_eq
  | swap a b rest => exact congrArg (fun first => some (rest.foldl min first)) (min_comm b a)
  | trans _ _ first second => exact first.trans second

end Permuted

/-! ### The bindings -/

/-- Indices with the same entries. -/
structure SameIndex (index index' : Index) : Prop where
  bindings : index.bindings.Perm index'.bindings
  announcing : index.announcing.Perm index'.announcing

section Order
variable {library : Library} {numbers : Numbers} {settings : Settings} {index index' : Index} {convs convs' : List Conv}
  {observations observations' : List Observation} {anomalies anomalies' : List Anomaly}

theorem sameIndex_build (speaking : convs.Perm convs') (announced : observations.Perm observations') :
    SameIndex (buildIndex convs observations) (buildIndex convs' observations') where
  bindings := ((speaking.filter _).flatMap_right _).append ((announced.filter _).map _)
  announcing := (speaking.filter _).flatMap_right _

namespace SameIndex
variable (same : SameIndex index index')
include same

theorem ips : index.ips = index'.ips := sortedSet_perm (same.bindings.map _)

theorem macs : index.macs = index'.macs := sortedSet_perm (same.bindings.map _)

theorem macsOf : index.macsOf = index'.macsOf := funext fun _ => sortedSet_perm ((same.bindings.filter _).map _)

theorem ipsOf : index.ipsOf = index'.ipsOf := funext fun _ => sortedSet_perm ((same.bindings.filter _).map _)

theorem convsOf (ip : String) : (index.convsOf ip).Perm (index'.convsOf ip) := (same.announcing.filter _).map _

end SameIndex

/-- The least of the epochs, of which one that is no number makes them texts. -/
def leastEpoch (numbers : Numbers) (raw : List String) : String :=
  ((raw.mapM numbers.parse).bind least).elim ((sorted raw).headD "") numbers.write

theorem firstSeen_eq (convs : List Conv) : firstSeen library numbers convs =
    let rendered := ((convs.filter (·.firstSeen ≠ "")).map fun c => library.strip c.firstSeen).filter (· ≠ "")
    let raw := ((convs.filter (·.firstSeen = "")).flatMap (epochs library)).filter (· ≠ "")
    if rendered ≠ [] then (sorted rendered).headD "" else leastEpoch numbers raw := by
  unfold firstSeen leastEpoch
  dsimp only
  refine if_congr Iff.rfl rfl ?_
  cases (((convs.filter (·.firstSeen = "")).flatMap (epochs library)).filter (· ≠ "")).mapM numbers.parse with
  | none => rfl
  | some values => cases values <;> rfl

theorem leastEpoch_perm {raw raw' : List String} (perm : raw.Perm raw') : leastEpoch numbers raw = leastEpoch numbers raw' := by
  unfold leastEpoch
  rw [sorted_eq_iff.mpr perm]
  obtain ⟨first, second⟩ | ⟨values, values', first, second, perm⟩ := mapM_perm numbers.parse perm
  · rw [first, second]
  · rw [first, second, Option.bind_some, Option.bind_some, least_perm perm]

theorem firstSeen_perm (perm : convs.Perm convs') : firstSeen library numbers convs = firstSeen library numbers convs' := by
  have rendered := ((perm.filter (·.firstSeen ≠ "")).map fun c => library.strip c.firstSeen).filter (· ≠ "")
  have raw := ((perm.filter (·.firstSeen = "")).flatMap_right (epochs library)).filter (· ≠ "")
  rw [firstSeen_eq, firstSeen_eq]
  dsimp only
  rw [sorted_eq_iff.mpr rendered, leastEpoch_perm raw]
  refine if_congr (not_congr ?_) rfl rfl
  rw [← List.length_eq_zero_iff, ← List.length_eq_zero_iff, rendered.length_eq]

/-! ### The detectors -/

theorem claimFinding_same (same : SameIndex index index') :
    claimFinding library numbers index = claimFinding library numbers index' := by
  funext category severity ip detail
  unfold claimFinding
  dsimp only
  rw [same.macsOf, firstSeen_perm (same.convsOf ip), (same.convsOf ip).length_eq]

theorem detectDuplicateIpClaim_same (same : SameIndex index index') :
    detectDuplicateIpClaim library numbers settings index = detectDuplicateIpClaim library numbers settings index' := by
  unfold detectDuplicateIpClaim
  rw [same.ips, same.macsOf, claimFinding_same same]

theorem detectGatewayMacChange_same (same : SameIndex index index') :
    detectGatewayMacChange library numbers settings index = detectGatewayMacChange library numbers settings index' := by
  unfold detectGatewayMacChange
  rw [same.macsOf, claimFinding_same same]

theorem detectMacClaimsManyIps_same (same : SameIndex index index') :
    detectMacClaimsManyIps library settings index = detectMacClaimsManyIps library settings index' := by
  unfold detectMacClaimsManyIps
  rw [same.macs, same.ipsOf]

theorem detectScans_targets {scans : Scans} {targets : List (String × String)} (perm : scans.targets.Perm targets) :
    detectScans numbers settings { scans with targets := targets } = detectScans numbers settings scans := by
  have targetsOf : ∀ mac, sortedSet ((targets.filter (·.1 = mac)).map Prod.snd) =
      sortedSet ((scans.targets.filter (·.1 = mac)).map Prod.snd) :=
    fun mac => sortedSet_perm ((perm.symm.filter _).map _)
  unfold detectScans
  simp only [targetsOf, sortedSet_perm (perm.map Prod.fst)]

theorem scansOfObservations_perm (announced : observations.Perm observations') :
    { scansOfObservations numbers settings observations with
      targets := (scansOfObservations numbers settings observations').targets } =
    scansOfObservations numbers settings observations' := by
  have answers : ∀ mac, (observations.filter fun o => o.opcode = some 2 ∧ o.dstMac = mac ∧ o.dstMac ≠ "").length =
      (observations'.filter fun o => o.opcode = some 2 ∧ o.dstMac = mac ∧ o.dstMac ≠ "").length :=
    fun mac => (announced.filter _).length_eq
  unfold scansOfObservations
  simp only [answers]

theorem scansOfConvs_perm (speaking : convs.Perm convs') :
    { scansOfConvs numbers settings convs with targets := (scansOfConvs numbers settings convs').targets } =
    scansOfConvs numbers settings convs' := by
  have answers : ∀ mac, ((convs.filter (·.srcMac ≠ "")).filter (·.srcMac = mac)).length =
      ((convs'.filter (·.srcMac ≠ "")).filter (·.srcMac = mac)).length :=
    fun mac => ((speaking.filter _).filter _).length_eq
  unfold scansOfConvs
  simp only [answers]

theorem detectScanBehavior_perm (speaking : convs.Perm convs') (announced : observations.Perm observations') :
    detectScanBehavior numbers settings convs observations = detectScanBehavior numbers settings convs' observations' := by
  have any : observations ≠ [] ↔ observations' ≠ [] := by
    rw [← List.length_pos_iff, ← List.length_pos_iff, announced.length_eq]
  unfold detectScanBehavior
  refine if_congr Iff.rfl rfl (if_congr any ?_ ?_)
  · rw [← scansOfObservations_perm announced]
    exact (detectScans_targets ((announced.filter _).map _)).symm
  · rw [← scansOfConvs_perm speaking]
    exact (detectScans_targets ((speaking.filter _).flatMap_right _)).symm

/-- `_detect_broadcast_storm` of the conversations with their packet counts. -/
def storms (library : Library) (numbers : Numbers) (settings : Settings) (counted : List (Conv × Int)) : List Finding :=
  let ofMac := fun mac => counted.filter (·.1.srcMac = mac)
  let packets : String → Int := fun mac => ((ofMac mac).map Prod.snd).sum
  let minutes := fun mac => durationMinutes numbers ((ofMac mac).flatMap fun c => broadcastTimes library c.1)
  let rate := fun mac => (packets mac : Rat) / max (minutes mac) 1
  ((sortedSet (counted.map fun c => c.1.srcMac)).filter fun mac => settings.perMinute < rate mac).map fun mac =>
    ⟨"ARP_BROADCAST_STORM", mac,
      [("mac", .str mac), ("broadcast_packet_count", .int (packets mac)),
        ("estimated_duration_minutes", .float (numbers.round 2 (minutes mac))),
        ("estimated_rate_per_minute", .float (numbers.round 1 (rate mac)))], "HIGH",
      "MAC " ++ mac ++ " sent " ++ toString (packets mac) ++ " ARP broadcast packets at ~" ++ numbers.fixed 1 (rate mac) ++
        "/min (threshold: " ++ toString settings.perMinute ++ "/min). Possible broadcast storm or ARP flood."⟩

def flooding (convs : List Conv) : List Conv := convs.filter fun c => c.srcMac ≠ "" ∧ c.dstMac = "ff:ff:ff:ff:ff:ff"

def counted (conv : Conv) : Option (Conv × Int) := conv.packetCount.map fun count => (conv, count)

theorem conv_of_counted {convs : List Conv} {counts : List (Conv × Int)} (found : convs.mapM counted = some counts) :
    counts.map Prod.fst = convs := by
  induction convs generalizing counts with
  | nil =>
    obtain rfl := Option.some.inj found
    rfl
  | cons conv rest ih =>
    rw [List.mapM_cons, Option.bind_eq_bind, Option.bind_eq_some_iff] at found
    obtain ⟨count, one, found⟩ := found
    obtain ⟨counts, others, found⟩ := Option.bind_eq_some_iff.mp found
    obtain rfl := Option.some.inj found
    obtain ⟨_, -, rfl⟩ := Option.map_eq_some_iff.mp one
    exact congrArg (conv :: ·) (ih others)

theorem detectBroadcastStorm_eq (convs : List Conv) : detectBroadcastStorm library numbers settings convs =
    if !settings.broadcastRate then some [] else ((flooding convs).mapM counted).map (storms library numbers settings) := by
  unfold detectBroadcastStorm
  refine if_congr Iff.rfl rfl ?_
  change ((flooding convs).mapM counted).bind _ = _
  cases found : (flooding convs).mapM counted with
  | none => rfl
  | some counts =>
    have macs : (flooding convs).map (·.srcMac) = counts.map fun c => c.1.srcMac := by
      rw [← conv_of_counted found, List.map_map]
      rfl
    change some (((sortedSet ((flooding convs).map (·.srcMac))).filter _).map _) = some (storms library numbers settings counts)
    rw [macs]
    rfl

theorem durationMinutes_perm {times times' : List String} (perm : times.Perm times') :
    durationMinutes numbers times = durationMinutes numbers times' := by
  unfold durationMinutes
  rw [sorted_eq_iff.mpr perm, perm.length_eq]

theorem storms_perm {counts counts' : List (Conv × Int)} (perm : counts.Perm counts') :
    storms library numbers settings counts = storms library numbers settings counts' := by
  have packets : ∀ mac, ((counts.filter (·.1.srcMac = mac)).map Prod.snd).sum =
      ((counts'.filter (·.1.srcMac = mac)).map Prod.snd).sum := fun mac => ((perm.filter _).map _).sum_eq
  have minutes : ∀ mac,
      durationMinutes numbers ((counts.filter (·.1.srcMac = mac)).flatMap fun c => broadcastTimes library c.1) =
      durationMinutes numbers ((counts'.filter (·.1.srcMac = mac)).flatMap fun c => broadcastTimes library c.1) :=
    fun mac => durationMinutes_perm ((perm.filter _).flatMap_right _)
  unfold storms
  simp only [packets, minutes, sortedSet_perm (perm.map fun c => c.1.srcMac)]

theorem detectBroadcastStorm_perm (speaking : convs.Perm convs') :
    detectBroadcastStorm library numbers settings convs = detectBroadcastStorm library numbers settings convs' := by
  rw [detectBroadcastStorm_eq, detectBroadcastStorm_eq]
  refine if_congr Iff.rfl rfl ?_
  have flooded : (flooding convs).Perm (flooding convs') := speaking.filter _
  obtain ⟨first, second⟩ | ⟨counts, counts', first, second, perm⟩ := mapM_perm counted flooded
  · rw [first, second]
  · rw [first, second, Option.map_some, Option.map_some, storms_perm perm]

theorem earliest_perm {times times' : List String} (perm : times.Perm times') : earliest times = earliest times' := by
  unfold earliest
  rw [sorted_eq_iff.mpr (perm.filter _)]

theorem ranked (a b : String × String) : decide (a.1 < b.1 ∨ a.1 = b.1 ∧ a.2 ≤ b.2) = true ↔ toLex a ≤ toLex b := by
  rw [decide_eq_true_iff]
  exact Prod.Lex.toLex_le_toLex.symm

theorem pairsOf_perm {sightings sightings' : List Sighting} (perm : sightings.Perm sightings') :
    pairsOf sightings = pairsOf sightings' :=
  (Sorting.mergeSort_eq_iff ranked toLex.injective).mpr (perm.map _).dedup

theorem gratuitousFinding_perm {sightings sightings' : List Sighting} (perm : sightings.Perm sightings')
    (signalSource : String) (wording : String → String → Nat → String) :
    gratuitousFinding signalSource wording sightings = gratuitousFinding signalSource wording sightings' := by
  funext pair
  have seen := perm.filter fun s => (s.mac, s.ip) = pair
  unfold gratuitousFinding
  dsimp only
  rw [seen.length_eq, earliest_perm (seen.map _)]

theorem detectGratuitous_perm (announced : observations.Perm observations') :
    detectGratuitous settings observations = detectGratuitous settings observations' := by
  have sightings : (gratuitousObservations observations).Perm (gratuitousObservations observations') :=
    (announced.filter _).map _
  unfold detectGratuitous
  dsimp only
  rw [pairsOf_perm sightings, gratuitousFinding_perm sightings]

theorem spoofFinding_perm {events events' : List Spoof} (perm : events.Perm events') :
    spoofFinding events = spoofFinding events' := by
  funext ip
  have seen := perm.filter fun e => e.ip = ip
  unfold spoofFinding
  dsimp only
  rw [sortedSet_perm (seen.flatMap_right _), earliest_perm (seen.map _), seen.length_eq]

theorem detectFromAnomalies_perm (flagged : anomalies.Perm anomalies') {dupIps : List String}
    {keys keys' : List (String × String)} (same : keys.Perm keys') :
    detectFromAnomalies library settings anomalies dupIps keys =
      detectFromAnomalies library settings anomalies' dupIps keys' := by
  have events : (if settings.duplicateIp then (spoofs library anomalies).filter fun e => e.ip ≠ "" ∧ e.ip ∉ dupIps else []).Perm
      (if settings.duplicateIp then (spoofs library anomalies').filter fun e => e.ip ≠ "" ∧ e.ip ∉ dupIps else []) := by
    split
    · exact ((flagged.filter _).filterMap _).filter _
    · exact .nil
  have sightings : (if settings.gratuitousReply then (flaggedGratuitous library anomalies).filter fun s =>
        s.mac ≠ "" ∧ s.ip ≠ "" ∧ (s.mac, s.ip) ∉ keys else []).Perm
      (if settings.gratuitousReply then (flaggedGratuitous library anomalies').filter fun s =>
        s.mac ≠ "" ∧ s.ip ≠ "" ∧ (s.mac, s.ip) ∉ keys' else []) := by
    split
    · simp only [same.mem_iff]
      exact ((flagged.filter _).filterMap _).filter _
    · exact .nil
  unfold detectFromAnomalies
  dsimp only
  rw [sortedSet_perm (events.map _), spoofFinding_perm events, pairsOf_perm sightings, gratuitousFinding_perm sightings]

/-- Views that list the same in another order. -/
structure SameView (view view' : View) : Prop where
  convs : view.convs.Perm view'.convs
  observations : view.observations.Perm view'.observations
  anomalies : view.anomalies.Perm view'.anomalies

theorem detectAll_same {view view' : View} (same : SameView view view') :
    detectAll library numbers settings view = detectAll library numbers settings view' := by
  have index := sameIndex_build same.convs same.observations
  have keys : (if settings.gratuitousReply then (gratuitousObservations view.observations).map fun s => (s.mac, s.ip) else []).Perm
      (if settings.gratuitousReply then (gratuitousObservations view'.observations).map fun s => (s.mac, s.ip) else []) := by
    split
    · exact ((same.observations.filter _).map _).map _
    · exact .nil
  unfold detectAll
  dsimp only
  rw [detectDuplicateIpClaim_same index, detectGatewayMacChange_same index, detectMacClaimsManyIps_same index,
    detectScanBehavior_perm same.convs same.observations, detectBroadcastStorm_perm same.convs,
    detectGratuitous_perm same.observations]
  simp only [detectFromAnomalies_perm same.anomalies keys]

/-- Reports whose fields list the same in another order. -/
def Permuted (report report' : Report) : Prop :=
  ∀ key ∈ fields, report.get key = report'.get key ∨
    ∃ items items', report.get key = some (.arr items) ∧ report'.get key = some (.arr items') ∧ items.Perm items'

variable {report report' : Report}

theorem listed_perm (permuted : Permuted report report') {key : String} (own : key ∈ fields) :
    (listed report key).Perm (listed report' key) := by
  unfold listed
  obtain same | ⟨items, items', first, second, perm⟩ := permuted key own
  · rw [same]
  · rw [first, second]
    exact perm.filter _

theorem viewOf_same (permuted : Permuted report report') :
    SameView (viewOf library numbers report) (viewOf library numbers report') where
  convs := by
    have objects : (((report.get "conversations").getD .null).objects).Perm
        (((report'.get "conversations").getD .null).objects) := by
      obtain same | ⟨items, items', first, second, perm⟩ := permuted "conversations" (by decide)
      · rw [same]
      · rw [first, second]
        exact perm.filter _
    exact (objects.filter _).map _
  observations := (listed_perm permuted (by decide)).map _
  anomalies := (listed_perm permuted (by decide)).map _

theorem detect_permuted (permuted : Permuted report report') :
    detect library numbers settings report = detect library numbers settings report' := by
  have same : SameView (viewOf library numbers report) (viewOf library numbers report') := viewOf_same permuted
  unfold detect
  dsimp only
  rw [same.convs.length_eq, same.observations.length_eq, same.anomalies.length_eq, detectAll_same same,
    same.convs.isEmpty_eq, same.observations.isEmpty_eq, same.anomalies.isEmpty_eq]

end Order

/-! ### What the sources name -/

/-- A conversation or an observation names the MAC for the IP. -/
def Named (view : View) (ip mac : String) : Prop :=
  mac ≠ "" ∧ ((∃ conv ∈ view.convs, conv.srcMac = mac ∧ ip ∈ sourceAddresses conv) ∨
    ∃ o ∈ view.observations, o.srcMac = mac ∧ o.srcIp = ip ∧ ip ≠ "" ∧ ip ≠ "0.0.0.0")

/-- An anomaly names the MAC for the IP. -/
def Flagged (library : Library) (view : View) (ip mac : String) : Prop :=
  ip ≠ "" ∧ ∃ event ∈ spoofs library view.anomalies, event.ip = ip ∧ mac ∈ event.macs

/-- An observation or an anomaly is evidence that the MAC announces the IP unasked. -/
def Gratuitous (library : Library) (view : View) (mac ip : String) : Prop :=
  mac ≠ "" ∧ ip ≠ "" ∧ ∃ sighting ∈ gratuitousObservations view.observations ++ flaggedGratuitous library view.anomalies,
    sighting.mac = mac ∧ sighting.ip = ip

/-- A text of a finding. -/
def textOf (finding : Finding) (key : String) : String :=
  match finding.fields.lookup key with
  | some (.str s) => s
  | _ => ""

/-- The finding is a duplicate claim of the IP. -/
def isClaim (ip : String) (finding : Finding) : Bool :=
  finding.category = "ARP_DUPLICATE_IP_CLAIM" ∧ textOf finding "ip" = ip

/-- The finding is a gratuitous reply of the MAC with the IP. -/
def isReply (mac ip : String) (finding : Finding) : Bool :=
  finding.category = "ARP_GRATUITOUS_REPLY" ∧ textOf finding "mac" = mac ∧ textOf finding "ip" = ip

/-- The MACs that claim the IP of the finding. -/
def ClaimedBy (finding : Finding) (macs : Set String) : Prop :=
  ∃ listed : List String, listed.Nodup ∧ (∀ mac, mac ∈ listed ↔ mac ∈ macs) ∧
    finding.fields.lookup "claimed_by_macs" = some (Json.ofTexts listed)

theorem nodup_sortedSet (names : List String) : (sortedSet names).Nodup :=
  (List.mergeSort_perm _ _).nodup_iff.mpr (List.nodup_dedup names)

theorem mem_macsOf {view : View} {ip mac : String} :
    mac ∈ (buildIndex view.convs view.observations).macsOf ip ↔ Named view ip mac := by
  unfold Index.macsOf buildIndex Named
  rw [mem_sortedSet]
  simp only [List.mem_map, List.mem_filter, List.mem_append, List.mem_flatMap, decide_eq_true_eq, Prod.exists, Prod.mk.injEq]
  constructor
  · rintro ⟨ip, mac, ⟨⟨conv, ⟨member, some_⟩, _, own, rfl, rfl⟩ | ⟨o, ⟨member, some_, whole⟩, rfl, rfl⟩, rfl⟩, rfl⟩
    · exact ⟨some_, .inl ⟨conv, member, rfl, own⟩⟩
    · exact ⟨some_, .inr ⟨o, member, rfl, rfl, whole⟩⟩
  · rintro ⟨some_, ⟨conv, member, rfl, own⟩ | ⟨o, member, rfl, rfl, whole⟩⟩
    · exact ⟨ip, _, ⟨.inl ⟨conv, ⟨member, some_⟩, ip, own, rfl, rfl⟩, rfl⟩, rfl⟩
    · exact ⟨_, _, ⟨.inr ⟨o, ⟨member, some_, whole⟩, rfl, rfl⟩, rfl⟩, rfl⟩

theorem nodup_macsOf (index : Index) (ip : String) : (index.macsOf ip).Nodup := nodup_sortedSet _

/-- Two MACs or more. -/
theorem two_macs {view : View} {ip : String} :
    2 ≤ ((buildIndex view.convs view.observations).macsOf ip).length ↔ {mac | Named view ip mac}.Nontrivial := by
  have distinct := nodup_macsOf (buildIndex view.convs view.observations) ip
  constructor
  · intro many
    match listed : (buildIndex view.convs view.observations).macsOf ip with
    | first :: second :: rest =>
      rw [listed] at distinct
      have one : Named view ip first := mem_macsOf.mp (listed ▸ List.mem_cons_self)
      have other : Named view ip second := mem_macsOf.mp (listed ▸ List.mem_cons_of_mem _ List.mem_cons_self)
      refine ⟨first, one, second, other, ?_⟩
      rintro rfl
      exact (List.nodup_cons.mp distinct).1 List.mem_cons_self
    | [_] =>
      rw [listed, List.length_singleton] at many
      exact absurd many (by decide)
    | [] =>
      rw [listed] at many
      exact absurd many (by decide)
  · rintro ⟨first, one, second, other, apart⟩
    have both : [first, second] ⊆ (buildIndex view.convs view.observations).macsOf ip := by
      intro mac member
      obtain rfl | member := List.mem_cons.mp member
      · exact mem_macsOf.mpr one
      · obtain rfl := List.mem_singleton.mp member
        exact mem_macsOf.mpr other
    have pair : [first, second].Nodup := List.nodup_cons.mpr ⟨by simpa using apart, List.nodup_singleton _⟩
    exact (pair.subperm both).length_le

/-! ### One finding each -/

/-- Of findings made of different keys, at most the one of a key is kept. -/
theorem filter_map_key {Key : Type} [DecidableEq Key] {keys : List Key} (distinct : keys.Nodup) {make : Key → Finding}
    {p : Finding → Bool} {key : Key} (own : ∀ other, p (make other) = decide (other = key)) :
    (keys.map make).filter p = if key ∈ keys then [make key] else [] := by
  have same : p ∘ make = fun other => decide (other = key) := funext own
  rw [List.filter_map, same, List.filter_eq, distinct.count]
  split <;> rfl

theorem filter_other {findings : List Finding} {category : String} (own : ∀ finding ∈ findings, finding.category = category)
    {p : Finding → Bool} (needs : ∀ finding, p finding = true → finding.category ≠ category) : findings.filter p = [] :=
  List.filter_eq_nil_iff.mpr fun finding member kept => needs finding kept (own finding member)

theorem category_of_isClaim {ip : String} {finding : Finding} (claim : isClaim ip finding = true) :
    finding.category = "ARP_DUPLICATE_IP_CLAIM" := (of_decide_eq_true claim).1

theorem category_of_isReply {mac ip : String} {finding : Finding} (reply : isReply mac ip finding = true) :
    finding.category = "ARP_GRATUITOUS_REPLY" := (of_decide_eq_true reply).1

theorem isClaim_apart {ip category : String} (apart : "ARP_DUPLICATE_IP_CLAIM" ≠ category) (finding : Finding)
    (claim : isClaim ip finding = true) : finding.category ≠ category := category_of_isClaim claim ▸ apart

theorem isReply_apart {mac ip category : String} (apart : "ARP_GRATUITOUS_REPLY" ≠ category) (finding : Finding)
    (reply : isReply mac ip finding = true) : finding.category ≠ category := category_of_isReply reply ▸ apart

section Categories
variable {library : Library} {numbers : Numbers} {settings : Settings} {index : Index} {finding : Finding}

theorem category_gateway (member : finding ∈ detectGatewayMacChange library numbers settings index) :
    finding.category = "ARP_GATEWAY_MAC_CHANGE" := by
  unfold detectGatewayMacChange at member
  dsimp only at member
  split at member
  · cases member
  · obtain rfl := List.mem_singleton.mp member
    rfl

theorem category_manyIps (member : finding ∈ detectMacClaimsManyIps library settings index) :
    finding.category = "ARP_MAC_CLAIMS_MANY_IPS" := by
  unfold detectMacClaimsManyIps at member
  dsimp only at member
  split at member
  · cases member
  · obtain ⟨mac, -, rfl⟩ := List.mem_map.mp member
    rfl

theorem category_scan {scans : Scans} (member : finding ∈ detectScans numbers settings scans) :
    finding.category = "ARP_SCAN_BEHAVIOR" := by
  obtain ⟨mac, -, rfl⟩ := List.mem_map.mp member
  rfl

theorem category_scanBehavior {convs : List Conv} {observations : List Observation}
    (member : finding ∈ detectScanBehavior numbers settings convs observations) : finding.category = "ARP_SCAN_BEHAVIOR" := by
  unfold detectScanBehavior at member
  split at member
  · cases member
  · split at member
    · exact category_scan member
    · exact category_scan member

theorem category_storm {convs : List Conv} {findings : List Finding}
    (found : detectBroadcastStorm library numbers settings convs = some findings) (member : finding ∈ findings) :
    finding.category = "ARP_BROADCAST_STORM" := by
  rw [detectBroadcastStorm_eq] at found
  split at found
  · obtain rfl := Option.some.inj found
    cases member
  · obtain ⟨counts, -, rfl⟩ := Option.map_eq_some_iff.mp found
    obtain ⟨mac, -, rfl⟩ := List.mem_map.mp member
    rfl

theorem category_gratuitous {observations : List Observation} (member : finding ∈ detectGratuitous settings observations) :
    finding.category = "ARP_GRATUITOUS_REPLY" := by
  unfold detectGratuitous at member
  dsimp only at member
  split at member
  · cases member
  · obtain ⟨pair, -, rfl⟩ := List.mem_map.mp member
    rfl

theorem category_claim (member : finding ∈ detectDuplicateIpClaim library numbers settings index) :
    finding.category = "ARP_DUPLICATE_IP_CLAIM" := by
  unfold detectDuplicateIpClaim at member
  split at member
  · cases member
  · obtain ⟨ip, -, rfl⟩ := List.mem_map.mp member
    rfl

end Categories

section Kept
variable {library : Library} {numbers : Numbers} {settings : Settings}

/-- Of all findings, the claims and the replies are those of three detectors. -/
theorem filter_detectAll {view : View} {findings : List Finding}
    (found : detectAll library numbers settings view = some findings) {p : Finding → Bool}
    (needs : ∀ finding, p finding = true → finding.category = "ARP_DUPLICATE_IP_CLAIM" ∨ finding.category = "ARP_GRATUITOUS_REPLY") :
    let dup := detectDuplicateIpClaim library numbers settings (buildIndex view.convs view.observations)
    let keys := if settings.gratuitousReply then (gratuitousObservations view.observations).map fun s => (s.mac, s.ip) else []
    (findings.filter p).Perm (dup.filter p ++ ((detectGratuitous settings view.observations).filter p ++
      (detectFromAnomalies library settings view.anomalies (dup.map (·.subject)) keys).filter p)) := by
  have apart : ∀ {category : String}, "ARP_DUPLICATE_IP_CLAIM" ≠ category → "ARP_GRATUITOUS_REPLY" ≠ category →
      ∀ finding, p finding = true → finding.category ≠ category := by
    intro category first second finding kept
    obtain same | same := needs finding kept
    · rw [same]
      exact first
    · rw [same]
      exact second
  obtain ⟨storms, stormy, found⟩ := Option.bind_eq_some_iff.mp found
  obtain rfl := Option.some.inj found
  refine ((List.mergeSort_perm _ _).filter p).trans ?_
  simp only [List.filter_append]
  rw [filter_other (fun _ => category_gateway) (apart (by decide) (by decide)),
    filter_other (fun _ => category_manyIps) (apart (by decide) (by decide)),
    filter_other (fun _ => category_scanBehavior) (apart (by decide) (by decide)),
    filter_other (fun _ => category_storm stormy) (apart (by decide) (by decide))]
  simp only [List.append_nil, List.append_assoc]
  exact .refl _

theorem claims_of_bindings (enabled : settings.duplicateIp = true) (index : Index) (ip : String) : ∃ detail,
    (detectDuplicateIpClaim library numbers settings index).filter (isClaim ip) =
      if 2 ≤ (index.macsOf ip).length then [claimFinding library numbers index "ARP_DUPLICATE_IP_CLAIM" "HIGH" ip detail] else [] := by
  have distinct : (index.ips.filter fun ip => 2 ≤ (index.macsOf ip).length).Nodup := (nodup_sortedSet _).filter _
  have bound : ip ∈ index.ips.filter (fun ip => 2 ≤ (index.macsOf ip).length) ↔ 2 ≤ (index.macsOf ip).length := by
    rw [List.mem_filter, decide_eq_true_iff]
    refine ⟨And.right, fun many => ⟨?_, many⟩⟩
    obtain ⟨mac, member⟩ := List.exists_mem_of_length_pos (Nat.lt_of_lt_of_le Nat.two_pos many)
    obtain ⟨binding, member, -⟩ := List.mem_map.mp (mem_sortedSet.mp member)
    obtain ⟨member, own⟩ := List.mem_filter.mp member
    exact mem_sortedSet.mpr (List.mem_map.mpr ⟨binding, member, of_decide_eq_true own⟩)
  unfold detectDuplicateIpClaim
  rw [if_neg (by rw [enabled]; decide)]
  refine ⟨_, (filter_map_key distinct fun other => ?_).trans (if_congr bound rfl rfl)⟩
  simp [isClaim, textOf, claimFinding]

/-- The events that no other detector has reported. -/
def newSpoofs (library : Library) (anomalies : List Anomaly) (dupIps : List String) : List Spoof :=
  (spoofs library anomalies).filter fun e => e.ip ≠ "" ∧ e.ip ∉ dupIps

def newSightings (library : Library) (anomalies : List Anomaly) (keys : List (String × String)) : List Sighting :=
  (flaggedGratuitous library anomalies).filter fun s => s.mac ≠ "" ∧ s.ip ≠ "" ∧ (s.mac, s.ip) ∉ keys

theorem mem_pairsOf {sightings : List Sighting} {mac ip : String} :
    (mac, ip) ∈ pairsOf sightings ↔ ∃ sighting ∈ sightings, sighting.mac = mac ∧ sighting.ip = ip := by
  unfold pairsOf
  rw [List.mem_mergeSort, List.mem_dedup, List.mem_map]
  simp only [Prod.mk.injEq]

theorem nodup_pairsOf (sightings : List Sighting) : (pairsOf sightings).Nodup :=
  (List.mergeSort_perm _ _).nodup_iff.mpr (List.nodup_dedup _)

theorem replies_of_sightings (signalSource : String) (wording : String → String → Nat → String) (sightings : List Sighting)
    (mac ip : String) : ((pairsOf sightings).map (gratuitousFinding signalSource wording sightings)).filter (isReply mac ip) =
      if (mac, ip) ∈ pairsOf sightings then [gratuitousFinding signalSource wording sightings (mac, ip)] else [] := by
  have own : ∀ other, isReply mac ip (gratuitousFinding signalSource wording sightings other) = decide (other = (mac, ip)) := by
    rintro ⟨mac', ip'⟩
    have first : textOf (gratuitousFinding signalSource wording sightings (mac', ip')) "mac" = mac' := rfl
    have second : textOf (gratuitousFinding signalSource wording sightings (mac', ip')) "ip" = ip' := rfl
    have category : (gratuitousFinding signalSource wording sightings (mac', ip')).category = "ARP_GRATUITOUS_REPLY" := rfl
    simp [isReply, first, second, category]
  by_cases seen : (mac, ip) ∈ pairsOf sightings
  · rw [if_pos seen]
    exact (filter_map_key (nodup_pairsOf sightings) own).trans (if_pos seen)
  · rw [if_neg seen]
    exact (filter_map_key (nodup_pairsOf sightings) own).trans (if_neg seen)

theorem replies_of_observations (enabled : settings.gratuitousReply = true) (observations : List Observation) (mac ip : String) :
    ∃ wording, (detectGratuitous settings observations).filter (isReply mac ip) =
      if (mac, ip) ∈ pairsOf (gratuitousObservations observations) then
        [gratuitousFinding "arp_observations" wording (gratuitousObservations observations) (mac, ip)] else [] := by
  unfold detectGratuitous
  rw [if_neg (by rw [enabled]; decide)]
  exact ⟨_, replies_of_sightings _ _ _ mac ip⟩

theorem claims_of_anomalies (enabled : settings.duplicateIp = true) (anomalies : List Anomaly) (dupIps : List String)
    (keys : List (String × String)) (ip : String) :
    (detectFromAnomalies library settings anomalies dupIps keys).filter (isClaim ip) =
      if ip ∈ sortedSet ((newSpoofs library anomalies dupIps).map (·.ip)) then
        [spoofFinding (newSpoofs library anomalies dupIps) ip] else [] := by
  unfold detectFromAnomalies
  dsimp only
  rw [if_pos enabled, List.filter_append, filter_map_key (nodup_sortedSet _), filter_other, List.append_nil]
  · rfl
  · intro finding member
    obtain ⟨pair, -, rfl⟩ := List.mem_map.mp member
    rfl
  · exact isClaim_apart (by decide)
  · intro other
    simp [isClaim, textOf, spoofFinding]

theorem replies_of_anomalies (enabled : settings.gratuitousReply = true) (anomalies : List Anomaly) (dupIps : List String)
    (keys : List (String × String)) (mac ip : String) : ∃ wording,
    (detectFromAnomalies library settings anomalies dupIps keys).filter (isReply mac ip) =
      if (mac, ip) ∈ pairsOf (newSightings library anomalies keys) then
        [gratuitousFinding "l2_anomalies" wording (newSightings library anomalies keys) (mac, ip)] else [] := by
  unfold detectFromAnomalies
  dsimp only
  rw [if_pos enabled, List.filter_append, filter_other, List.nil_append]
  · exact ⟨_, replies_of_sightings _ _ _ mac ip⟩
  · intro finding member
    obtain ⟨ip, -, rfl⟩ := List.mem_map.mp member
    rfl
  · exact isReply_apart (by decide)

/-! ### The merged evidence -/

variable {view : View} {findings : List Finding} (found : detectAll library numbers settings view = some findings)
include found

theorem one_claim_of_named (enabled : settings.duplicateIp = true) {ip : String}
    (many : {mac | Named view ip mac}.Nontrivial) :
    ∃ finding, findings.filter (isClaim ip) = [finding] ∧ ClaimedBy finding {mac | Named view ip mac} := by
  have kept := filter_detectAll found fun finding (claim : isClaim ip finding = true) => .inl (category_of_isClaim claim)
  obtain ⟨detail, bound⟩ := @claims_of_bindings library numbers _ enabled (buildIndex view.convs view.observations) ip
  have some_ := two_macs.mpr many
  rw [if_pos some_] at bound
  have reported : ip ∈ (detectDuplicateIpClaim library numbers settings (buildIndex view.convs view.observations)).map
      (·.subject) := by
    have member : claimFinding library numbers (buildIndex view.convs view.observations) "ARP_DUPLICATE_IP_CLAIM" "HIGH" ip
        detail ∈ (detectDuplicateIpClaim library numbers settings (buildIndex view.convs view.observations)).filter
          (isClaim ip) := bound ▸ List.mem_singleton_self _
    exact List.mem_map_of_mem (f := Finding.subject) (List.mem_filter.mp member).1
  dsimp only at kept
  rw [bound, claims_of_anomalies enabled, if_neg, filter_other (fun _ => category_gratuitous) (isClaim_apart (by decide))] at kept
  · refine ⟨_, List.perm_singleton.mp kept, _, nodup_macsOf (buildIndex view.convs view.observations) ip,
      fun mac => mem_macsOf, rfl⟩
  · rw [mem_sortedSet, List.mem_map]
    rintro ⟨event, member, rfl⟩
    exact (of_decide_eq_true (List.mem_filter.mp member).2).2 reported

theorem one_claim_of_flagged (enabled : settings.duplicateIp = true) {ip mac : String}
    (few : ¬{mac | Named view ip mac}.Nontrivial) (flagged : Flagged library view ip mac) :
    ∃ finding, findings.filter (isClaim ip) = [finding] ∧ ClaimedBy finding {mac | Flagged library view ip mac} := by
  have kept := filter_detectAll found fun finding (claim : isClaim ip finding = true) => .inl (category_of_isClaim claim)
  obtain ⟨detail, bound⟩ := @claims_of_bindings library numbers _ enabled (buildIndex view.convs view.observations) ip
  rw [if_neg (mt two_macs.mp few)] at bound
  have unreported : ip ∉ (detectDuplicateIpClaim library numbers settings (buildIndex view.convs view.observations)).map
      (·.subject) := by
    intro member
    obtain ⟨finding, member, own⟩ := List.mem_map.mp member
    have claim : isClaim ip finding = true := by
      unfold detectDuplicateIpClaim at member
      rw [if_neg (by rw [enabled]; decide)] at member
      obtain ⟨_, -, rfl⟩ := List.mem_map.mp member
      obtain rfl := own
      simp [isClaim, textOf, claimFinding]
    have inside := List.mem_filter.mpr ⟨member, claim⟩
    rw [bound] at inside
    cases inside
  obtain ⟨whole, event, member, own, -⟩ := flagged
  have new : ∀ event ∈ spoofs library view.anomalies, event.ip = ip → event ∈ newSpoofs library view.anomalies
      ((detectDuplicateIpClaim library numbers settings (buildIndex view.convs view.observations)).map (·.subject)) :=
    fun event member own => List.mem_filter.mpr ⟨member, decide_eq_true ⟨own ▸ whole, own ▸ unreported⟩⟩
  dsimp only at kept
  rw [bound, claims_of_anomalies enabled, if_pos, filter_other (fun _ => category_gratuitous) (isClaim_apart (by decide))] at kept
  · refine ⟨_, List.perm_singleton.mp kept, _, nodup_sortedSet _, fun mac => ?_, rfl⟩
    rw [mem_sortedSet, List.mem_flatMap]
    constructor
    · rintro ⟨event, member, named⟩
      obtain ⟨member, same⟩ := List.mem_filter.mp member
      exact ⟨whole, event, (List.mem_filter.mp member).1, of_decide_eq_true same, named⟩
    · rintro ⟨-, event, member, own, named⟩
      exact ⟨event, List.mem_filter.mpr ⟨new event member own, decide_eq_true own⟩, named⟩
  · exact mem_sortedSet.mpr (List.mem_map.mpr ⟨event, new event member own, own⟩)

theorem one_reply (enabled : settings.gratuitousReply = true) {mac ip : String} (evidence : Gratuitous library view mac ip) :
    ∃ finding, findings.filter (isReply mac ip) = [finding] := by
  have kept := filter_detectAll found fun finding (reply : isReply mac ip finding = true) => .inr (category_of_isReply reply)
  obtain ⟨someMac, someIp, sighting, member, own, own'⟩ := evidence
  dsimp only at kept
  rw [filter_other (fun _ => category_claim) (isReply_apart (by decide)), List.nil_append, if_pos enabled] at kept
  obtain ⟨wording, flagged⟩ := @replies_of_anomalies library settings enabled view.anomalies
    ((detectDuplicateIpClaim library numbers settings (buildIndex view.convs view.observations)).map (·.subject))
    ((gratuitousObservations view.observations).map fun s => (s.mac, s.ip)) mac ip
  obtain ⟨wording', observed⟩ := replies_of_observations enabled view.observations mac ip
  rw [flagged, observed] at kept
  have keys : (mac, ip) ∈ (gratuitousObservations view.observations).map (fun s => (s.mac, s.ip)) ↔
      (mac, ip) ∈ pairsOf (gratuitousObservations view.observations) := by
    rw [mem_pairsOf, List.mem_map]
    simp only [Prod.mk.injEq]
  by_cases seen : (mac, ip) ∈ pairsOf (gratuitousObservations view.observations)
  · rw [if_pos seen, if_neg] at kept
    · exact ⟨_, List.perm_singleton.mp kept⟩
    · rw [mem_pairsOf]
      rintro ⟨sighting, member, rfl, rfl⟩
      exact (of_decide_eq_true (List.mem_filter.mp member).2).2.2 (keys.mpr seen)
  · rw [if_neg seen, if_pos] at kept
    · exact ⟨_, List.perm_singleton.mp kept⟩
    · refine mem_pairsOf.mpr ⟨sighting, ?_, own, own'⟩
      obtain member | member := List.mem_append.mp member
      · exact absurd (mem_pairsOf.mpr ⟨sighting, member, own, own'⟩) seen
      · refine List.mem_filter.mpr ⟨member, decide_eq_true ?_⟩
        rw [own, own']
        exact ⟨someMac, someIp, mt keys.mp seen⟩

omit found in
theorem detectBroadcastStorm_eq_none {convs : List Conv} : detectBroadcastStorm library numbers settings convs = none ↔
    settings.broadcastRate = true ∧ ∃ conv ∈ flooding convs, conv.packetCount = none := by
  rw [detectBroadcastStorm_eq]
  cases settings.broadcastRate with
  | false => simp
  | true =>
    rw [Bool.not_true, if_neg Bool.false_ne_true, Option.map_eq_none_iff]
    have none_ : ∀ convs : List Conv, convs.mapM counted = none ↔ ∃ conv ∈ convs, conv.packetCount = none := by
      intro convs
      induction convs with
      | nil => simp
      | cons conv rest ih =>
        rw [List.mapM_cons, List.exists_mem_cons_iff, ← ih]
        cases count : conv.packetCount <;> cases rest.mapM counted <;> simp [counted, count]
    rw [none_]
    exact (and_iff_right rfl).symm

end Kept

/-- The MACs of all three sources. -/
def together (library : Library) (view : View) (ip : String) : Set String :=
  {mac | Named view ip mac ∨ Flagged library view ip mac}

/-- What is found of a report, if the IPs are claimed by the MACs that are given. -/
structure Merged (library : Library) (view : View) (claimants : String → Set String) (findings : List Finding) : Prop where
  claims : ∀ ip, (together library view ip).Nontrivial →
    ∃ finding, findings.filter (isClaim ip) = [finding] ∧ ClaimedBy finding (claimants ip)
  replies : ∀ mac ip, Gratuitous library view mac ip → ∃ finding, findings.filter (isReply mac ip) = [finding]

open Classical in
/-- The anomalies count where the conversations and observations name fewer than two MACs. -/
noncomputable def reported (library : Library) (view : View) (ip : String) : Set String :=
  if {mac | Named view ip mac}.Nontrivial then {mac | Named view ip mac} else {mac | Flagged library view ip mac}

section Reports
variable (library : Library) (numbers : Numbers) (settings : Settings) (report : Report)

theorem detect_eq_none : detect library numbers settings report = none ↔
    settings.broadcastRate = true ∧ ∃ conv ∈ flooding (extractConvs library numbers report), conv.packetCount = none := by
  unfold detect
  dsimp only
  split
  next empty =>
    have none_ : extractConvs library numbers report = [] := List.isEmpty_iff.mp empty.1
    simp [none_, flooding]
  next =>
    rw [Option.map_eq_none_iff, ← @detectBroadcastStorm_eq_none library numbers]
    change (detectBroadcastStorm library numbers settings (extractConvs library numbers report)).bind _ = none ↔ _
    cases detectBroadcastStorm library numbers settings (extractConvs library numbers report) <;> simp

theorem merged_of_detect (claims : settings.duplicateIp = true) (replies : settings.gratuitousReply = true) {result : Result}
    (found : detect library numbers settings report = some result) :
    Merged library (viewOf library numbers report) (reported library (viewOf library numbers report)) result.findings := by
  unfold detect at found
  dsimp only at found
  split at found
  next empty =>
    obtain ⟨convs, observations, anomalies⟩ := empty
    have convs_nil : (viewOf library numbers report).convs = [] := List.isEmpty_iff.mp convs
    have observations_nil : (viewOf library numbers report).observations = [] := List.isEmpty_iff.mp observations
    have anomalies_nil : (viewOf library numbers report).anomalies = [] := List.isEmpty_iff.mp anomalies
    constructor
    · intro ip many
      obtain ⟨mac, named⟩ := many.nonempty
      simp [together, Named, Flagged, convs_nil, observations_nil, anomalies_nil, spoofs] at named
    · rintro mac ip ⟨-, -, sighting, member, -⟩
      simp [observations_nil, anomalies_nil, gratuitousObservations, flaggedGratuitous] at member
  next =>
    obtain ⟨findings, detected, rfl⟩ := Option.map_eq_some_iff.mp found
    constructor
    · intro ip many
      unfold reported
      by_cases enough : {mac | Named (viewOf library numbers report) ip mac}.Nontrivial
      · rw [if_pos enough]
        exact one_claim_of_named detected claims enough
      · rw [if_neg enough]
        have flagged : ∃ mac, Flagged library (viewOf library numbers report) ip mac := by
          by_contra none_
          push Not at none_
          exact enough (by simpa [together, none_] using many)
        obtain ⟨mac, flagged⟩ := flagged
        exact one_claim_of_flagged detected claims enough flagged
    · intro mac ip evidence
      exact one_reply detected replies evidence

/-- The evidence is merged up to what the anomalies say of IPs that are claimed already; only a
broadcast conversation whose packet count is no number is in the way of a result. -/
theorem evidence_merged (claims : settings.duplicateIp = true) (replies : settings.gratuitousReply = true) :
    (detect library numbers settings report = none ↔ settings.broadcastRate = true ∧
      ∃ conv ∈ flooding (extractConvs library numbers report), conv.packetCount = none) ∧
    (∀ result, detect library numbers settings report = some result →
      Merged library (viewOf library numbers report) (reported library (viewOf library numbers report)) result.findings) ∧
    ∀ report', Permuted report report' →
      detect library numbers settings report = detect library numbers settings report' :=
  ⟨detect_eq_none library numbers settings report,
    fun _ found => merged_of_detect library numbers settings report claims replies found,
    fun _ permuted => detect_permuted permuted⟩

end Reports

/-! ### One MAC more -/

def plainNumbers : Numbers := ⟨fun _ => none, fun _ => none, fun _ => "", fun _ _ => "", fun _ r => r⟩

/-- An ARP conversation of a MAC that has the address. -/
def speaks (mac : String) : Json :=
  .obj [("protocol", .str "ARP"), ("src_mac", .str mac), ("src_ip", .str "10.0.0.5"), ("packet_count", .int 1)]

/-- Two MACs have the address in conversations, a third one takes it on in an anomaly. -/
def takenOn : Report :=
  (PyDict.empty.set "conversations" (.arr [speaks "02:00:00:00:00:01", speaks "02:00:00:00:00:02"])).set "l2_anomalies"
    (.arr [.obj [("decoder", .str "bilgepump:arp_spoof"),
      ("reason", .str "ARP spoof: 10.0.0.5 moved from 02:00:00:00:00:02 to 02:00:00:00:00:03")]])

def takenView : View := viewOf plainLibrary plainNumbers takenOn

theorem evidence_merged_takenOn :
    (detect plainLibrary plainNumbers defaults takenOn = none ↔ defaults.broadcastRate = true ∧
      ∃ conv ∈ flooding (extractConvs plainLibrary plainNumbers takenOn), conv.packetCount = none) ∧
    (∀ result, detect plainLibrary plainNumbers defaults takenOn = some result →
      Merged plainLibrary takenView (reported plainLibrary takenView) result.findings) ∧
    ∀ report', Permuted takenOn report' →
      detect plainLibrary plainNumbers defaults takenOn = detect plainLibrary plainNumbers defaults report' :=
  evidence_merged plainLibrary plainNumbers defaults takenOn rfl rfl

theorem takenView_convs : takenView.convs =
    [convOf plainLibrary plainNumbers (speaks "02:00:00:00:00:01"), convOf plainLibrary plainNumbers (speaks "02:00:00:00:00:02")] :=
  rfl

theorem named_takenOn {mac : String} :
    Named takenView "10.0.0.5" mac ↔ mac = "02:00:00:00:00:01" ∨ mac = "02:00:00:00:00:02" := by
  constructor
  · rintro ⟨-, ⟨conv, member, rfl, -⟩ | ⟨o, member, -⟩⟩
    · rw [takenView_convs, List.mem_cons, List.mem_singleton] at member
      obtain rfl | rfl := member
      · exact .inl rfl
      · exact .inr rfl
    · cases member
  · rintro (rfl | rfl)
    · exact ⟨by decide, .inl ⟨_, takenView_convs ▸ List.mem_cons_self, rfl, by decide⟩⟩
    · exact ⟨by decide, .inl ⟨_, takenView_convs ▸ List.mem_cons_of_mem _ List.mem_cons_self, rfl, by decide⟩⟩

theorem flagged_takenOn : Flagged plainLibrary takenView "10.0.0.5" "02:00:00:00:00:03" := by
  have events : spoofs plainLibrary takenView.anomalies =
      [⟨"10.0.0.5", ["02:00:00:00:00:02", "02:00:00:00:00:03"], ""⟩] := by decide
  refine ⟨by decide, _, events ▸ List.mem_singleton_self _, rfl, by decide⟩

theorem claimedBy_unique {finding : Finding} {macs macs' : Set String} (first : ClaimedBy finding macs)
    (second : ClaimedBy finding macs') : macs = macs' := by
  obtain ⟨listed, -, same, field⟩ := first
  obtain ⟨listed', -, same', field'⟩ := second
  rw [field] at field'
  have texts : listed = listed' := by
    have items : listed.map Json.str = listed'.map Json.str := Json.arr.inj (Option.some.inj field')
    exact (List.map_inj_right fun _ _ same => Json.str.inj same).mp items
  exact Set.ext fun mac => (same mac).symm.trans (texts ▸ same' mac)

/-- The claim of the address has two of the three MACs. -/
theorem third_mac_lost : ¬∀ (library : Library) (numbers : Numbers) (settings : Settings) (report : Report) (result : Result),
    settings.duplicateIp = true → settings.gratuitousReply = true → detect library numbers settings report = some result →
    Merged library (viewOf library numbers report) (together library (viewOf library numbers report)) result.findings := by
  intro all
  have answers : detect plainLibrary plainNumbers defaults takenOn ≠ none := by
    rw [ne_eq, detect_eq_none]
    rintro ⟨-, conv, member, -⟩
    have none_ : flooding takenView.convs = [] := by
      rw [takenView_convs]
      rfl
    exact List.not_mem_nil (none_ ▸ member)
  obtain ⟨result, found⟩ := Option.ne_none_iff_exists'.mp answers
  have many : {mac | Named takenView "10.0.0.5" mac}.Nontrivial :=
    ⟨_, named_takenOn.mpr (.inl rfl), _, named_takenOn.mpr (.inr rfl), by decide⟩
  have more : (together plainLibrary takenView "10.0.0.5").Nontrivial :=
    many.mono fun _ => .inl
  obtain ⟨finding, one, whole⟩ := (all plainLibrary plainNumbers defaults takenOn result rfl rfl found).claims _ more
  obtain ⟨finding', one', part⟩ := (merged_of_detect plainLibrary plainNumbers defaults takenOn rfl rfl found).claims _ more
  obtain rfl := List.singleton_inj.mp (one.symm.trans one')
  have both := claimedBy_unique whole part
  have third : "02:00:00:00:00:03" ∈ together plainLibrary takenView "10.0.0.5" := .inr flagged_takenOn
  have reported_eq : reported plainLibrary takenView "10.0.0.5" = {mac | Named takenView "10.0.0.5" mac} := if_pos many
  change together plainLibrary takenView "10.0.0.5" = reported plainLibrary takenView "10.0.0.5" at both
  rw [both, reported_eq] at third
  exact absurd (named_takenOn.mp third) (by decide)

end Marlinspike.Plugins.ArpEvidence
