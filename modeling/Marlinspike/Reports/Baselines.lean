import Mathlib.Data.Finset.Card
import Marlinspike.Grouping
import Marlinspike.Capd.Supervisor
import Marlinspike.Reports.Library

/-!
The longitudinal profile of an asset (`compute_asset_baseline`): the reports with a node of
the asset, and what of it occurs in each of them. Peers are counted once a report, by the
set of the reports' file names; findings and anomalies are counted one by one, so that their
counters count reports exactly if no report has two of a kind (`counters_count_reports_iff`).
-/
namespace Marlinspike.Reports.Baselines
open Marlinspike.Grouping
open Marlinspike.Capd.Supervisor (basename)

/-! ### Reports -/

/-- A node; an absent or empty field is the empty string, here and below. -/
structure Node where
  ip : String
  mac : String
deriving DecidableEq, Repr

structure Conversation where
  srcIp : String
  dstIp : String
  srcMac : String
  dstMac : String
  /-- `packet_count` or `packets`, as `int` reads it, or 0. -/
  packets : Int
deriving DecidableEq, Repr

structure RiskFinding where
  category : String
  affectedNodes : List String
deriving DecidableEq, Repr

structure Anomaly where
  anomalyType : String
  srcMac : String
  dstMac : String
deriving DecidableEq, Repr

/-- A report, with the findings and anomalies that are dicts. -/
structure Report where
  name : String
  pcapPath : String
  timestampStart : String
  startTs : String
  nodes : List Node
  conversations : List Conversation
  riskFindings : List RiskFinding
  l2Anomalies : List Anomaly
deriving DecidableEq, Repr

/-- `_report_ts`. -/
def Report.ts (report : Report) : String := if report.timestampStart ≠ "" then report.timestampStart else report.startTs

/-- `_report_filename`. -/
def Report.filename (report : Report) : String :=
  if report.name ≠ "" then report.name
  else if report.pcapPath ≠ "" then String.ofList (basename report.pcapPath.toList) else ""

/-- `_MAC_RE.match`; its `$` lets a line feed follow. -/
def isMac (key : String) : Bool :=
  let hex (c : Char) : Bool := c.isDigit || c = ':' || 'a' ≤ c && c ≤ 'f' || 'A' ≤ c && c ≤ 'F'
  let chars := key.toList
  chars.length = 17 && chars.all hex || chars.length = 18 && chars.dropLast.all hex && chars.getLast? = some '\n'

section Presences
variable (library : Library)

def normMac (mac : String) : String := library.lower (library.strip mac)

def matchesAsset (assetKey : String) (byMac : Bool) (node : Node) : Bool :=
  if byMac then normMac library node.mac = normMac library assetKey
  else library.strip node.ip = library.strip assetKey

/-- `_find_node`. -/
def findNode (report : Report) (assetKey : String) (byMac : Bool) : Option Node :=
  report.nodes.find? (matchesAsset library assetKey byMac)

/-- A report in which the asset appears, with its node. -/
structure Presence where
  report : Report
  node : Node
deriving DecidableEq, Repr

def Presence.filename (p : Presence) : String := p.report.filename

def Presence.ts (p : Presence) : String := p.report.ts

def presencesOf (reports : List Report) (assetKey : String) : List Presence :=
  reports.filterMap fun report => (findNode library report assetKey (isMac assetKey)).map fun node => ⟨report, node⟩

/-- `reports[-limit_reports:]`. -/
def limited (reports : List Report) : Option Int → List Report
  | none => reports
  | some limit => if 0 < limit then reports.drop (reports.length - limit.toNat) else reports.drop limit.natAbs

/-! ### What occurs in a report -/

/-- The other end of a conversation of the asset. -/
def peerOf (node : Node) (conv : Conversation) : Option String :=
  let srcIp := library.strip conv.srcIp
  let dstIp := library.strip conv.dstIp
  let srcMac := normMac library conv.srcMac
  let dstMac := normMac library conv.dstMac
  let assetIp := library.strip node.ip
  let assetMac := normMac library node.mac
  let byIp :=
    if assetIp = "" then none
    else if srcIp = assetIp ∧ dstIp ≠ "" then some dstIp
    else if dstIp = assetIp ∧ srcIp ≠ "" then some srcIp else none
  let byMac :=
    if assetMac = "" then none
    else if srcMac = assetMac ∧ dstIp ≠ "" then some dstIp
    else if dstMac = assetMac ∧ srcIp ≠ "" then some srcIp else none
  byIp.or byMac

/-- The conversations of the asset, with their peers. -/
def Presence.contacts (p : Presence) : List (String × Int) :=
  p.report.conversations.filterMap fun conv => (peerOf library p.node conv).map fun peer => (peer, conv.packets)

def affects (node : Node) (nodeRef : String) : Bool :=
  let ref := library.strip nodeRef
  let assetIp := library.strip node.ip
  let assetMac := normMac library node.mac
  assetIp ≠ "" && ref = assetIp || assetMac ≠ "" && normMac library ref = assetMac

/-- The categories of the findings on the asset, one for each of them. -/
def Presence.categories (p : Presence) : List String :=
  p.report.riskFindings.filterMap fun finding =>
    let category := library.upper (library.strip finding.category)
    if category ≠ "" ∧ finding.affectedNodes.any (affects library p.node) then some category else none

/-- The types of the asset's anomalies, one for each of them. -/
def Presence.anomalyTypes (p : Presence) : List String :=
  let assetMac := normMac library p.node.mac
  p.report.l2Anomalies.filterMap fun anomaly =>
    let atype := library.strip anomaly.anomalyType
    if atype ≠ "" ∧ assetMac ≠ "" ∧ (normMac library anomaly.srcMac = assetMac ∨ normMac library anomaly.dstMac = assetMac)
      then some atype else none

end Presences

/-! ### First and last seen -/

structure Seen where
  firstReport : String
  firstTs : String
  lastReport : String
  lastTs : String
deriving DecidableEq, Repr

def Seen.new (p : Presence) : Seen := ⟨p.filename, p.ts, p.filename, p.ts⟩

def Seen.extend (seen : Seen) (p : Presence) : Seen :=
  let seen :=
    if p.ts < seen.firstTs ∨ p.ts = seen.firstTs ∧ p.filename < seen.firstReport then
      { seen with firstReport := p.filename, firstTs := p.ts }
    else seen
  if p.ts > seen.lastTs ∨ p.ts = seen.lastTs ∧ p.filename > seen.lastReport then
    { seen with lastReport := p.filename, lastTs := p.ts }
  else seen

def extended (before : Option Seen) (p : Presence) : Seen := (before.map fun seen => seen.extend p).getD (Seen.new p)

structure PeerData where
  seen : Seen
  convsTotal : Int
deriving DecidableEq, Repr

/-- An entry of `finding_data` or of `anomaly_cadence`. -/
structure Tally where
  seen : Seen
  count : Nat
deriving DecidableEq, Repr

def peerRules : Rules String PeerData (Presence × String × Int) where
  key := fun contact => contact.2.1
  update before _ contact :=
    ⟨extended (before.map (·.seen)) contact.1, (before.map (·.convsTotal)).getD 0 + contact.2.2⟩

/-- `in_reports` and `reports_with_event`: every finding, or event, adds one. -/
def tallyRules : Rules String Tally (Presence × String) where
  key := Prod.snd
  update before _ event := ⟨extended (before.map (·.seen)) event.1, (before.map (·.count)).getD 0 + 1⟩

/-- `peer_report_seen`: the first contact with a peer in a report adds its file name. -/
def peerReportRules : Rules String (Finset String) (Presence × String × Int) where
  key := fun contact => contact.2.1
  update before seenInThisReport contact :=
    if seenInThisReport then before.getD ∅ else insert contact.1.filename (before.getD ∅)

/-! ### The profile -/

structure PeerHistory where
  peer : String
  firstSeenReport : String
  lastSeenReport : String
  reportCount : Nat
  convsTotal : Int
  isNewInLatest : Bool
deriving DecidableEq, Repr

structure FindingHistory where
  category : String
  firstSeenReport : String
  lastSeenReport : String
  inReports : Nat
  isNewInLatest : Bool
deriving DecidableEq, Repr

structure Cadence where
  atype : String
  reportsWithEvent : Nat
  first : String
  last : String
deriving DecidableEq, Repr

structure AssetBaseline where
  reportCount : Nat
  peerHistory : List PeerHistory
  findingHistory : List FindingHistory
  anomalyCadence : List Cadence
  newPeers : List String
  lostPeers : List String
  newFindings : List String
deriving DecidableEq, Repr

/-- `sorted(a - b)`, of two sets. -/
def sortedDifference (a b : List String) : List String :=
  ((a.filter (· ∉ b)).dedup).mergeSort fun s t => decide (s ≤ t)

section Profile
variable (library : Library) (presences : List Presence)

def contactBatches : List (List (Presence × String × Int)) :=
  presences.map fun p => (p.contacts library).map fun contact => (p, contact)

def peerData : PyDict String PeerData := addBatches peerRules PyDict.empty (contactBatches library presences)

def peerReportSeen : PyDict String (Finset String) :=
  addBatches peerReportRules PyDict.empty (contactBatches library presences)

/-- The loop over the findings, or over the anomalies. -/
def tallies (occurring : Presence → List String) : PyDict String Tally :=
  addBatches tallyRules PyDict.empty (presences.map fun p => (occurring p).map fun kind => (p, kind))

def findingData : PyDict String Tally := tallies presences (Presence.categories library)

def anomalyData : PyDict String Tally := tallies presences (Presence.anomalyTypes library)

/-- What occurs in the reports before the latest, and in the latest. -/
def inBaseline (occurring : Presence → List String) : List String := presences.dropLast.flatMap occurring

def inLatest (occurring : Presence → List String) : List String := presences.getLast?.toList.flatMap occurring

def Presence.peers (p : Presence) : List String := (p.contacts library).map Prod.fst

def peerEntry (entry : String × PeerData) : PeerHistory where
  peer := entry.1
  firstSeenReport := entry.2.seen.firstReport
  lastSeenReport := entry.2.seen.lastReport
  reportCount := (((peerReportSeen library presences).get entry.1).getD ∅).card
  convsTotal := entry.2.convsTotal
  isNewInLatest := entry.1 ∉ inBaseline presences (Presence.peers library)

def peerHistory : List PeerHistory :=
  ((peerData library presences).items.map (peerEntry library presences)).mergeSort
    fun e f => decide (f.lastSeenReport ≤ e.lastSeenReport)

def findingEntry (entry : String × Tally) : FindingHistory where
  category := entry.1
  firstSeenReport := entry.2.seen.firstReport
  lastSeenReport := entry.2.seen.lastReport
  inReports := entry.2.count
  isNewInLatest := entry.1 ∉ inBaseline presences (Presence.categories library)

def findingHistory : List FindingHistory :=
  ((findingData library presences).items.map (findingEntry library presences)).mergeSort
    fun e f => decide (f.lastSeenReport ≤ e.lastSeenReport)

def anomalyCadence : List Cadence :=
  (anomalyData library presences).items.map fun entry =>
    ⟨entry.1, entry.2.count, entry.2.seen.firstReport, entry.2.seen.lastReport⟩

def profile : AssetBaseline where
  reportCount := presences.length
  peerHistory := peerHistory library presences
  findingHistory := findingHistory library presences
  anomalyCadence := anomalyCadence library presences
  newPeers := sortedDifference (inLatest presences (Presence.peers library)) (inBaseline presences (Presence.peers library))
  lostPeers := sortedDifference (inBaseline presences (Presence.peers library)) (inLatest presences (Presence.peers library))
  newFindings := sortedDifference (inLatest presences (Presence.categories library))
    (inBaseline presences (Presence.categories library))

end Profile

def computeAssetBaseline (library : Library) (reports : List Report) (assetKey : String) (limitReports : Option Int) :
    Option AssetBaseline :=
  let presences := presencesOf library (limited reports limitReports) assetKey
  if presences.isEmpty then none else some (profile library presences)

/-! ### What the claim is about -/

/-- The counters of a profile are numbers of reports, and what is new is listed. -/
structure CountsReports (library : Library) (reports : List Report) (assetKey : String) (b : AssetBaseline) : Prop where
  report_count : b.reportCount = reports.countP fun report =>
    (findNode library report assetKey (isMac assetKey)).isSome
  peers : ∀ entry ∈ b.peerHistory, entry.reportCount =
    (presencesOf library reports assetKey).countP fun p => entry.peer ∈ p.peers library
  findings : ∀ entry ∈ b.findingHistory, entry.inReports =
    (presencesOf library reports assetKey).countP fun p => entry.category ∈ p.categories library
  anomalies : ∀ entry ∈ b.anomalyCadence, entry.reportsWithEvent =
    (presencesOf library reports assetKey).countP fun p => entry.atype ∈ p.anomalyTypes library
  new_peers : ∀ peer, peer ∈ b.newPeers ↔ ∃ entry ∈ b.peerHistory, entry.peer = peer ∧ entry.isNewInLatest = true
  new_findings : ∀ category, category ∈ b.newFindings ↔
    ∃ entry ∈ b.findingHistory, entry.category = category ∧ entry.isNewInLatest = true

/-- No report has two findings of a category on the asset, or two of its anomalies of a type. -/
def Single (library : Library) (reports : List Report) (assetKey : String) : Prop :=
  ∀ p ∈ presencesOf library reports assetKey, (p.categories library).Nodup ∧ (p.anomalyTypes library).Nodup

/-! ### Findings and anomalies -/

section Tallies
variable (presences : List Presence) (occurring : Presence → List String)

theorem touches_occurring (kind : String) (p : Presence) :
    touches tallyRules kind ((occurring p).map fun kind => (p, kind)) = decide (kind ∈ occurring p) := by
  rw [touches, List.any_map, Bool.eq_iff_iff, List.any_eq_true, decide_eq_true_eq]
  constructor
  · rintro ⟨other, member, same⟩
    obtain rfl : other = kind := of_decide_eq_true same
    exact member
  · exact fun member => ⟨kind, member, decide_eq_true rfl⟩

theorem length_itemsOf_occurring (kind : String) (p : Presence) :
    (itemsOf tallyRules kind ((occurring p).map fun kind => (p, kind))).length = (occurring p).count kind := by
  rw [itemsOf, List.filter_map, List.length_map, List.count_eq_length_filter]
  rfl

theorem countP_touches (kind : String) :
    (presences.map fun p => (occurring p).map fun kind => (p, kind)).countP (touches tallyRules kind) =
      presences.countP fun p => kind ∈ occurring p := by
  rw [List.countP_map]
  apply List.countP_congr
  intro p _
  rw [Function.comp_apply, touches_occurring]

theorem mem_tallies_iff (kind : String) :
    (∃ tally, (kind, tally) ∈ (tallies presences occurring).items) ↔ ∃ p ∈ presences, kind ∈ occurring p := by
  have absent := @get_eq_none_iff _ _ _ _ tallyRules kind
    (presences.map fun p => (occurring p).map fun kind => (p, kind))
  simp only [PyDict.mem_items_iff, tallies]
  rw [← Option.isSome_iff_exists, ← Option.ne_none_iff_isSome, ne_eq, absent]
  simp [tallyRules]

/-- The tallies count reports exactly if nothing occurs twice in one. -/
theorem tallies_count_iff :
    (∀ entry ∈ (tallies presences occurring).items, entry.2.count = presences.countP fun p => entry.1 ∈ occurring p) ↔
      ∀ p ∈ presences, (occurring p).Nodup := by
  have every (kind : String) (tally : Tally) (member : (kind, tally) ∈ (tallies presences occurring).items) :
      (tally.count = presences.countP fun p => kind ∈ occurring p) ↔ ∀ p ∈ presences, (occurring p).count kind ≤ 1 := by
    have counts (before : Option Tally) (seen : Bool) (event : Presence × String) :
        (tallyRules.update before seen event).count = before.elim 0 Tally.count + 1 := by cases before <;> rfl
    have counted := count_eq_length Tally.count counts kind
      (presences.map fun p => (occurring p).map fun kind => (p, kind))
    rw [PyDict.mem_items_iff, tallies] at member
    rw [member, Option.elim_some] at counted
    rw [counted, ← countP_touches, length_itemsOf_eq_countP_iff, List.forall_mem_map]
    simp only [length_itemsOf_occurring]
  constructor
  · intro counts p present
    rw [List.nodup_iff_count_le_one]
    intro kind
    by_cases occurs : kind ∈ occurring p
    · obtain ⟨tally, member⟩ := (mem_tallies_iff presences occurring kind).mpr ⟨p, present, occurs⟩
      exact (every kind tally member).mp (counts _ member) p present
    · rw [List.count_eq_zero_of_not_mem occurs]
      exact Nat.zero_le 1
  · rintro single ⟨kind, tally⟩ member
    exact (every kind tally member).mpr fun p present => List.nodup_iff_count_le_one.mp (single p present) kind

end Tallies

/-! ### Peers -/

section Peers
variable (library : Library) (presences : List Presence)

theorem touches_contacts (peer : String) (p : Presence) :
    touches peerReportRules peer ((p.contacts library).map fun contact => (p, contact)) =
      decide (peer ∈ p.peers library) := by
  rw [touches, List.any_map, Bool.eq_iff_iff, List.any_eq_true, decide_eq_true_eq, Presence.peers, List.mem_map]
  constructor
  · rintro ⟨contact, member, same⟩
    exact ⟨contact, member, of_decide_eq_true same⟩
  · rintro ⟨contact, member, same⟩
    exact ⟨contact, member, decide_eq_true same⟩

theorem visit_seen (value : Finset String) (items : List (Presence × String × Int)) :
    items.foldl (visit peerReportRules) (some value, true) = (some value, true) := by
  induction items with
  | nil => rfl
  | cons item rest ih => exact ih

/-- A report adds its file name to the set of every peer that occurs in it. -/
theorem get_addBatch_contacts (peer : String) (seen : PyDict String (Finset String)) (p : Presence) :
    ((addBatch peerReportRules seen ((p.contacts library).map fun contact => (p, contact))).get peer).getD ∅ =
      if peer ∈ p.peers library then insert p.filename ((seen.get peer).getD ∅) else (seen.get peer).getD ∅ := by
  have touched := touches_contacts library peer p
  split_ifs with occurs
  · obtain ⟨item, rest, items⟩ := List.exists_cons_of_ne_nil (touches_iff.mp (touched.trans (decide_eq_true occurs)))
    have own : item.1 = p := by
      have member : item ∈ (p.contacts library).map fun contact => (p, contact) :=
        (mem_itemsOf.mp (items ▸ List.mem_cons_self)).1
      obtain ⟨contact, -, rfl⟩ := List.mem_map.mp member
      rfl
    rw [get_addBatch]
    refine (congrArg (fun items => ((items.foldl (visit peerReportRules) (seen.get peer, false)).1).getD ∅) items).trans ?_
    rw [List.foldl_cons, visit, visit_seen, ← own]
    rfl
  · rw [get_addBatch_of_untouched (touched.trans (decide_eq_false occurs))]

theorem get_peerReportSeen (peer : String) :
    ((peerReportSeen library presences).get peer).getD ∅ =
      ((presences.filter fun p => peer ∈ p.peers library).map Presence.filename).toFinset := by
  unfold peerReportSeen contactBatches
  induction presences using List.reverseRecOn with
  | nil => rfl
  | append_singleton presences p ih =>
    rw [List.map_append, List.map_singleton, addBatches_append, get_addBatch_contacts, ih, List.filter_append,
      List.map_append, List.toFinset_append]
    by_cases occurs : peer ∈ p.peers library
    · ext name
      simp [occurs]
    · simp [occurs]

/-- With distinct file names, the set of a peer's file names has one for each report. -/
theorem card_peerReportSeen (distinct : (presences.map Presence.filename).Nodup) (peer : String) :
    (((peerReportSeen library presences).get peer).getD ∅).card = presences.countP fun p => peer ∈ p.peers library := by
  have nodup := distinct.sublist ((List.filter_sublist (p := fun p => decide (peer ∈ p.peers library))).map Presence.filename)
  rw [get_peerReportSeen, List.toFinset_card_of_nodup nodup, List.length_map, List.countP_eq_length_filter]

theorem mem_peerData_iff (peer : String) :
    (∃ data, (peer, data) ∈ (peerData library presences).items) ↔ ∃ p ∈ presences, peer ∈ p.peers library := by
  have absent := @get_eq_none_iff _ _ _ _ peerRules peer (contactBatches library presences)
  simp only [PyDict.mem_items_iff, peerData]
  rw [← Option.isSome_iff_exists, ← Option.ne_none_iff_isSome, ne_eq, absent]
  simp [peerRules, contactBatches, Presence.peers]

end Peers

/-! ### What is new -/

theorem mem_sortedDifference {a b : List String} {s : String} : s ∈ sortedDifference a b ↔ s ∈ a ∧ s ∉ b := by
  unfold sortedDifference
  rw [List.mem_mergeSort, List.mem_dedup, List.mem_filter, decide_eq_true_eq]

/-- What is not in the baseline but occurs at all is in the latest report. -/
theorem mem_inLatest_iff {presences : List Presence} {occurring : Presence → List String} {s : String}
    (fresh : s ∉ inBaseline presences occurring) :
    s ∈ inLatest presences occurring ↔ ∃ p ∈ presences, s ∈ occurring p := by
  unfold inLatest inBaseline at *
  rw [List.mem_flatMap]
  constructor
  · rintro ⟨p, last, occurs⟩
    exact ⟨p, List.mem_of_getLast? (Option.mem_toList.mp last), occurs⟩
  · rintro ⟨p, present, occurs⟩
    cases last : presences.getLast? with
    | none =>
      rw [List.getLast?_eq_none_iff.mp last] at present
      cases present
    | some latest =>
      rw [← List.dropLast_append_getLast? latest last] at present
      rcases List.mem_append.mp present with earlier | here
      · exact absurd (List.mem_flatMap.mpr ⟨p, earlier, occurs⟩) fresh
      · obtain rfl := List.mem_singleton.mp here
        exact ⟨p, by simp, occurs⟩

/-! ### The profile of an asset -/

section Reports
variable (library : Library) {reports : List Report} {assetKey : String}

theorem map_filename_presencesOf (reports : List Report) (assetKey : String) :
    (presencesOf library reports assetKey).map Presence.filename =
      (reports.filter fun report => (findNode library report assetKey (isMac assetKey)).isSome).map Report.filename := by
  unfold presencesOf
  induction reports with
  | nil => rfl
  | cons report rest ih =>
    rw [List.filterMap_cons, List.filter_cons]
    cases found : findNode library report assetKey (isMac assetKey) with
    | none => simpa using ih
    | some node => simpa [Presence.filename] using ih

theorem distinct_presences (distinct : (reports.map Report.filename).Nodup) :
    ((presencesOf library reports assetKey).map Presence.filename).Nodup := by
  rw [map_filename_presencesOf]
  exact distinct.sublist (List.filter_sublist.map Report.filename)

theorem length_presencesOf (reports : List Report) (assetKey : String) :
    (presencesOf library reports assetKey).length =
      reports.countP fun report => (findNode library report assetKey (isMac assetKey)).isSome := by
  rw [← List.length_map Presence.filename, map_filename_presencesOf, List.length_map, List.countP_eq_length_filter]

variable (presences : List Presence)

theorem mem_findingHistory {entry : FindingHistory} : entry ∈ findingHistory library presences ↔
    ∃ item ∈ (findingData library presences).items, findingEntry library presences item = entry := by
  rw [findingHistory, List.mem_mergeSort, List.mem_map]

theorem mem_peerHistory {entry : PeerHistory} : entry ∈ peerHistory library presences ↔
    ∃ item ∈ (peerData library presences).items, peerEntry library presences item = entry := by
  rw [peerHistory, List.mem_mergeSort, List.mem_map]

theorem mem_newFindings (category : String) : category ∈ (profile library presences).newFindings ↔
    ∃ entry ∈ findingHistory library presences, entry.category = category ∧ entry.isNewInLatest = true := by
  simp only [profile]
  rw [mem_sortedDifference]
  constructor
  · rintro ⟨latest, fresh⟩
    obtain ⟨tally, member⟩ := (mem_tallies_iff presences _ category).mpr ((mem_inLatest_iff fresh).mp latest)
    refine ⟨findingEntry library presences (category, tally), ?_, rfl, decide_eq_true fresh⟩
    exact (mem_findingHistory library presences).mpr ⟨_, member, rfl⟩
  · rintro ⟨entry, member, rfl, isNew⟩
    obtain ⟨⟨category, tally⟩, inside, rfl⟩ := (mem_findingHistory library presences).mp member
    have fresh := of_decide_eq_true isNew
    exact ⟨(mem_inLatest_iff fresh).mpr ((mem_tallies_iff presences _ _).mp ⟨tally, inside⟩), fresh⟩

theorem mem_newPeers (peer : String) : peer ∈ (profile library presences).newPeers ↔
    ∃ entry ∈ peerHistory library presences, entry.peer = peer ∧ entry.isNewInLatest = true := by
  simp only [profile]
  rw [mem_sortedDifference]
  constructor
  · rintro ⟨latest, fresh⟩
    obtain ⟨data, member⟩ := (mem_peerData_iff library presences peer).mpr ((mem_inLatest_iff fresh).mp latest)
    refine ⟨peerEntry library presences (peer, data), ?_, rfl, decide_eq_true fresh⟩
    exact (mem_peerHistory library presences).mpr ⟨_, member, rfl⟩
  · rintro ⟨entry, member, rfl, isNew⟩
    obtain ⟨⟨peer, data⟩, inside, rfl⟩ := (mem_peerHistory library presences).mp member
    have fresh := of_decide_eq_true isNew
    exact ⟨(mem_inLatest_iff fresh).mpr ((mem_peerData_iff library presences _).mp ⟨data, inside⟩), fresh⟩

theorem findings_count_iff :
    (∀ entry ∈ findingHistory library presences, entry.inReports =
      presences.countP fun p => entry.category ∈ p.categories library) ↔
      ∀ p ∈ presences, (p.categories library).Nodup := by
  rw [← tallies_count_iff]
  constructor
  · intro counts item member
    exact counts (findingEntry library presences item) ((mem_findingHistory library presences).mpr ⟨item, member, rfl⟩)
  · intro counts entry member
    obtain ⟨item, inside, rfl⟩ := (mem_findingHistory library presences).mp member
    exact counts item inside

theorem anomalies_count_iff :
    (∀ entry ∈ anomalyCadence library presences, entry.reportsWithEvent =
      presences.countP fun p => entry.atype ∈ p.anomalyTypes library) ↔
      ∀ p ∈ presences, (p.anomalyTypes library).Nodup := by
  rw [← tallies_count_iff, anomalyCadence, List.forall_mem_map]
  rfl

theorem peers_count (distinct : (presences.map Presence.filename).Nodup) :
    ∀ entry ∈ peerHistory library presences, entry.reportCount =
      presences.countP fun p => entry.peer ∈ p.peers library := by
  intro entry member
  obtain ⟨item, -, rfl⟩ := (mem_peerHistory library presences).mp member
  exact card_peerReportSeen library presences distinct item.1

end Reports

/-- The counters count reports exactly if no report has two findings of a category on the
asset or two of its anomalies of a type; the number of reports, the peers and what is new are
always right. -/
theorem counters_count_reports_iff (library : Library) (reports : List Report) (assetKey : String)
    (limitReports : Option Int) (distinct : ((limited reports limitReports).map Report.filename).Nodup)
    (b : AssetBaseline) (found : computeAssetBaseline library reports assetKey limitReports = some b) :
    CountsReports library (limited reports limitReports) assetKey b ↔
      Single library (limited reports limitReports) assetKey := by
  have same : b = profile library (presencesOf library (limited reports limitReports) assetKey) := by
    unfold computeAssetBaseline at found
    simp only at found
    split_ifs at found
    exact (Option.some.inj found).symm
  subst same
  unfold Single
  simp only [forall_and]
  constructor
  · intro counts
    exact ⟨(findings_count_iff library _).mp counts.findings, (anomalies_count_iff library _).mp counts.anomalies⟩
  · rintro ⟨findings, anomalies⟩
    constructor
    case report_count => exact length_presencesOf library _ assetKey
    case peers => exact peers_count library _ (distinct_presences library distinct)
    case findings => exact (findings_count_iff library _).mpr findings
    case anomalies => exact (anomalies_count_iff library _).mpr anomalies
    case new_peers => exact mem_newPeers library _
    case new_findings => exact mem_newFindings library _

/-! ### Two findings in one report -/

def plain : Library := ⟨id, id, id, some, fun _ => ""⟩

/-- A report with some findings on one node, all of one category. -/
def reportWith (findings : Nat) : Report where
  name := "plant.json"
  pcapPath := ""
  timestampStart := "2026-01-01T00:00:00"
  startTs := ""
  nodes := [⟨"10.0.0.5", ""⟩]
  conversations := []
  riskFindings := List.replicate findings ⟨"NO_AUTH_OBSERVED", ["10.0.0.5"]⟩
  l2Anomalies := []

theorem presences_reportWith (findings : Nat) :
    presencesOf plain [reportWith findings] "10.0.0.5" = [⟨reportWith findings, ⟨"10.0.0.5", ""⟩⟩] := by
  rfl

/-- One report with two findings of a category counts twice. -/
theorem two_findings_counted_twice :
    ¬ ∀ (library : Library) (reports : List Report) (assetKey : String) (b : AssetBaseline),
      (reports.map Report.filename).Nodup → computeAssetBaseline library reports assetKey none = some b →
        CountsReports library reports assetKey b := by
  intro counts
  have found := counts plain [reportWith 2] "10.0.0.5" _ (List.nodup_singleton _) rfl
  have single := (findings_count_iff plain _).mp found.findings
  rw [limited, presences_reportWith] at single
  exact absurd (single _ List.mem_cons_self) (by decide)

theorem counters_count_reports_iff_one :
    CountsReports plain [reportWith 1] "10.0.0.5" (profile plain (presencesOf plain [reportWith 1] "10.0.0.5")) := by
  refine (counters_count_reports_iff plain [reportWith 1] "10.0.0.5" none (List.nodup_singleton _) _ rfl).mpr ?_
  intro p present
  rw [limited, presences_reportWith, List.mem_singleton] at present
  subst present
  exact ⟨by decide, by decide⟩

end Marlinspike.Reports.Baselines
