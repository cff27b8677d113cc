import Mathlib.Data.String.Basic
import Marlinspike.Decimal
import Marlinspike.Dissect.Reproducible
import Marlinspike.Reports.Timeline

/-!
The time spans of conversations, with `frame.time` as tshark renders it. The first and last
time are taken by the order of texts, which is that of time within a day, and not from month
to month; and no such text is an ISO date, so that the timeline has none of the conversations
(`spans_chronological_iff`).
-/
namespace Marlinspike.Dissect.Spans
open Marlinspike.Decimal
open Marlinspike.Gathering
open Marlinspike.Dissect.Reader
open Marlinspike.Dissect.Lines
open Marlinspike.Dissect.ChunkLoop
open Marlinspike.Dissect.Assigned
open Marlinspike.Reports.Timeline (tsToEpoch withOffset entryOf entriesOf computeTimelineBuckets)

/-! ### Times of frames -/

/-- A time, as the zone of the host shows it. -/
structure FrameTime where
  year : Nat
  month : Fin 12
  day : Nat
  hour : Fin 24
  minute : Fin 60
  second : Fin 60
  nanosecond : Fin 1000000000
  zone : String
  /-- Seconds that the zone is east of UTC. -/
  offset : Int

def monthNames : List String := ["Jan", "Feb", "Mar", "Apr", "May", "Jun", "Jul", "Aug", "Sep", "Oct", "Nov", "Dec"]

def FrameTime.monthName (t : FrameTime) : String := monthNames.get t.month

/-- 'Mon D, YYYY'. -/
def FrameTime.date (t : FrameTime) : List Char :=
  t.monthName.toList ++ [' '] ++ decimal (width t.day) t.day ++ [',', ' '] ++ decimal 4 t.year

/-- 'HH:MM:SS.fraction'. -/
def FrameTime.clock (t : FrameTime) : List Char :=
  decimal 2 t.hour ++ [':'] ++ (decimal 2 t.minute ++ [':'] ++ (decimal 2 t.second ++ ['.'] ++ decimal 9 t.nanosecond))

/-- 'Mon D, YYYY HH:MM:SS.fraction TZ'. -/
def FrameTime.text (t : FrameTime) : String := String.ofList (t.date ++ [' '] ++ (t.clock ++ (' ' :: t.zone.toList)))

def leap (year : Nat) : Bool := year % 4 = 0 && (year % 100 ≠ 0 || year % 400 = 0)

/-- The days of the months before one, in a common year. -/
def daysBefore (month : Fin 12) : Nat := [0, 31, 59, 90, 120, 151, 181, 212, 243, 273, 304, 334].get month

/-- The days since 1970 began. -/
def FrameTime.dayNumber (t : FrameTime) : Int :=
  let years : Int := t.year - 1
  365 * years + years / 4 - years / 100 + years / 400 + daysBefore t.month +
    (if 2 ≤ t.month.val ∧ leap t.year then 1 else 0) + t.day - 719163

def FrameTime.nanos (t : FrameTime) : Nat :=
  ((t.hour.val * 60 + t.minute) * 60 + t.second) * 1000000000 + t.nanosecond

/-- Seconds since 1970. -/
def FrameTime.epoch (t : FrameTime) : Rat := (t.dayNumber * 86400 - t.offset : Int) + (t.nanos : Rat) / 1000000000

/-- The first character is a letter. -/
theorem text_head (t : FrameTime) : ∃ c rest, t.text.toList = c :: rest ∧ c.isDigit = false ∧ c ≠ 'Z' := by
  have all : ∀ month : Fin 12,
      ((monthNames.get month).toList.head?.any fun c => c.isDigit = false ∧ c ≠ 'Z') = true := by decide
  have letter := all t.month
  rw [FrameTime.text, String.toList_ofList, FrameTime.date, FrameTime.monthName]
  cases is : (monthNames.get t.month).toList with
  | nil => simp [is] at letter
  | cons c rest => exact ⟨c, _, rfl, by simpa [is] using letter⟩

/-! ### Within a day -/

/-- Times of one day of a zone. -/
def SameDay (a b : FrameTime) : Prop := a.date = b.date ∧ a.dayNumber = b.dayNumber ∧ a.zone = b.zone ∧ a.offset = b.offset

theorem clock_lt {a b : FrameTime} (earlier : a.nanos < b.nanos) : a.clock < b.clock := by
  obtain ⟨hour, minute, second, nanosecond⟩ := (⟨a.hour.2, a.minute.2, a.second.2, a.nanosecond.2⟩ :
    a.hour.val < 24 ∧ a.minute.val < 60 ∧ a.second.val < 60 ∧ a.nanosecond.val < 1000000000)
  obtain ⟨hour', minute', second', nanosecond'⟩ := (⟨b.hour.2, b.minute.2, b.second.2, b.nanosecond.2⟩ :
    b.hour.val < 24 ∧ b.minute.val < 60 ∧ b.second.val < 60 ∧ b.nanosecond.val < 1000000000)
  unfold FrameTime.nanos at earlier
  -- the first part that differs decides
  have after (part part' : Nat) {w : Nat} (fits : part' < 10 ^ w) (mark : Char) (rest rest' : List Char)
      (le : part ≤ part') (less : part = part' → rest < rest') :
      decimal w part ++ [mark] ++ rest < decimal w part' ++ [mark] ++ rest' := by
    rcases Nat.lt_or_eq_of_le le with first | same
    · rw [List.append_assoc, List.append_assoc]
      exact append_lt_append_of_lt (by simp) (decimal_lt first fits) _ _
    · rw [same, append_lt_append_left]
      exact less same
  refine after _ _ (by omega) _ _ _ (by omega) fun sameHour => ?_
  refine after _ _ (by omega) _ _ _ (by omega) fun sameMinute => ?_
  refine after _ _ (by omega) _ _ _ (by omega) fun sameSecond => ?_
  exact decimal_lt (by omega) (by omega)

theorem text_lt {a b : FrameTime} (sameDay : SameDay a b) (earlier : a.nanos < b.nanos) : a.text < b.text := by
  rw [String.lt_iff, FrameTime.text, FrameTime.text, String.toList_ofList, String.toList_ofList, sameDay.1,
    append_lt_append_left]
  exact append_lt_append_of_lt (by simp [FrameTime.clock]) (clock_lt earlier) _ _

/-- Within a day, texts are ordered as their times are. -/
theorem epoch_le_of_text_le {a b : FrameTime} (sameDay : SameDay a b) (le : a.text ≤ b.text) : a.epoch ≤ b.epoch := by
  have nanos : a.nanos ≤ b.nanos := by
    by_contra later
    have earlier := text_lt ⟨sameDay.1.symm, sameDay.2.1.symm, sameDay.2.2.1.symm, sameDay.2.2.2.symm⟩
      (Nat.lt_of_not_le later)
    exact absurd earlier (not_lt_of_ge le)
  rw [FrameTime.epoch, FrameTime.epoch, sameDay.2.1, sameDay.2.2.2]
  have cast : (a.nanos : Rat) ≤ b.nanos := by exact_mod_cast nanos
  linarith

/-! ### The first and the last time -/

section Ends
variable {Details : Type} {tables : LineTables} {parsing : InlineParsing Details} {packets : List LinePacket}
  {conv : LineConv Details}

def frameTime (p : LinePacket) : String := field p.fields "frame.time"

/-- The times that are compared. -/
def timesOf (tables : LineTables) (packets : List LinePacket) : List String := (framed tables packets).map frameTime

/-- None of no times, or one that comes before all in an order. -/
def Extreme (le : String → String → Prop) (times : List String) (best : String) : Prop :=
  times = [] ∧ best = "" ∨ best ∈ times ∧ ∀ time ∈ times, le best time

/-- Another time is the best one, or no better. -/
theorem extreme_concat (le : String → String → Prop) (refl : ∀ a, le a a) (trans : ∀ a b c, le a b → le b c → le a c)
    {times : List String} {best time : String} (extreme : Extreme le times best) {chosen : String}
    (choice : chosen = time ∧ (best = "" ∨ le time best) ∨ chosen = best ∧ best ≠ "" ∧ le best time)
    (timed : "" ∉ times) : Extreme le (times ++ [time]) chosen := by
  right
  rcases choice with ⟨rfl, new⟩ | ⟨rfl, some_, old⟩
  · refine ⟨by simp, fun other member => ?_⟩
    rcases List.mem_append.mp member with before | last
    · rcases extreme with ⟨rfl, -⟩ | ⟨held, first⟩
      · cases before
      · rcases new with rfl | better
        · exact absurd held timed
        · exact trans _ _ _ better (first other before)
    · rw [List.mem_singleton.mp last]
      exact refl _
  · rcases extreme with ⟨-, none_⟩ | ⟨held, first⟩
    · exact absurd none_ some_
    · refine ⟨List.mem_append_left _ held, fun other member => ?_⟩
      rcases List.mem_append.mp member with before | last
      · exact first other before
      · rwa [List.mem_singleton.mp last]

theorem timesOf_concat (p : LinePacket) : timesOf tables (packets ++ [p]) =
    timesOf tables packets ++ if (frameLen tables p).isSome then [frameTime p] else [] := by
  rw [timesOf, framed, List.filter_append, List.map_append]
  split_ifs with some_ <;> simp [timesOf, framed, some_]

/-- The span is from the least to the greatest text. -/
theorem extremes (gathered : convOf tables parsing packets = some conv) (timed : ∀ p ∈ packets, frameTime p ≠ "") :
    Extreme (· ≤ ·) (timesOf tables packets) conv.firstSeen ∧ Extreme (fun a b => b ≤ a) (timesOf tables packets) conv.lastSeen := by
  revert timed
  refine convOf_induction gathered (fun packets conv => (∀ p ∈ packets, frameTime p ≠ "") →
    Extreme (· ≤ ·) (timesOf tables packets) conv.firstSeen ∧ Extreme (fun a b => b ≤ a) (timesOf tables packets) conv.lastSeen) ?_ ?_
  · exact fun _ => ⟨.inl ⟨rfl, rfl⟩, .inl ⟨rfl, rfl⟩⟩
  · intro packets conv p held timed
    obtain ⟨first, last⟩ := held fun q member => timed q (List.mem_append_left _ member)
    have untimed : "" ∉ timesOf tables packets := by
      intro member
      obtain ⟨q, present, empty⟩ := List.mem_map.mp member
      exact timed q (List.mem_append_left _ (List.mem_of_mem_filter present)) empty
    rw [timesOf_concat, takePacket]
    cases frameLen tables p with
    | none => simpa using ⟨first, last⟩
    | some length =>
      refine ⟨extreme_concat (· ≤ ·) le_refl (fun _ _ _ => le_trans) first ?_ untimed,
        extreme_concat (fun a b => b ≤ a) le_refl (fun _ _ _ first second => second.trans first) last ?_ untimed⟩
      · dsimp only [LineConv.add]
        rw [← frameTime]
        split_ifs with new
        · exact .inl ⟨rfl, new.imp_right le_of_lt⟩
        · exact .inr ⟨rfl, fun none_ => new (.inl none_), le_of_not_gt fun less => new (.inr less)⟩
      · dsimp only [LineConv.add]
        rw [← frameTime]
        split_ifs with new
        · exact .inl ⟨rfl, new.imp_right le_of_lt⟩
        · exact .inr ⟨rfl, fun none_ => new (.inl none_), le_of_not_gt fun less => new (.inr less)⟩

end Ends

/-! ### Whole captures -/

section Spans
variable {Details : Type} (tables : LineTables) (lower : String → String) (parsing : InlineParsing Details)
  (collapseThreshold : Nat) (fromisoformat : String → Option Rat) (timeOf : LinePacket → FrameTime)

/-- The conversation as it is reported. -/
def reported (conv : LineConv Details) : Reports.Timeline.Conversation :=
  ⟨some (.other conv.firstSeen), some (.other conv.lastSeen), some conv.packetCount, some conv.bytes⟩

/-- The span of a conversation is that of its packets, it is read back as their times, and the
    timeline has the conversation. -/
structure Chronological (packets : List LinePacket) (conv : LineConv Details) : Prop where
  first : ∃ p ∈ packets, (∀ q ∈ packets, (timeOf p).epoch ≤ (timeOf q).epoch) ∧ conv.firstSeen = frameTime p ∧
    tsToEpoch fromisoformat (some (.other conv.firstSeen)) = some (timeOf p).epoch
  last : ∃ p ∈ packets, (∀ q ∈ packets, (timeOf q).epoch ≤ (timeOf p).epoch) ∧ conv.lastSeen = frameTime p ∧
    tsToEpoch fromisoformat (some (.other conv.lastSeen)) = some (timeOf p).epoch
  shown : entryOf fromisoformat (reported conv) ≠ none

/-- tshark renders the time of every packet. -/
def Rendered (streams : List (List Line)) : Prop :=
  ∀ lines ∈ streams, ∀ line ∈ lines, ∀ p, readPacket tables line = some (some p) → frameTime p = (timeOf p).text

/-- An ISO date begins with the digits of its year. -/
def ReadsDates : Prop := ∀ text seconds, fromisoformat text = some seconds → ∃ c rest, text.toList = c :: rest ∧ c.isDigit = true

/-- No line has a packet that is counted, up to the first whose ports cannot be read. -/
def NoPacket (lines : List Line) : Prop :=
  ∀ read ∈ (lines.map fun line => readPacket tables line.1).takeWhile Option.isSome, read = some none

variable {tables lower parsing collapseThreshold fromisoformat timeOf}

theorem mem_countedIn {s : StreamState Details} {lines : List Line} {counted : Counted}
    (member : counted ∈ countedIn tables lower parsing collapseThreshold s lines) :
    ∃ line ∈ lines, readPacket tables line = some (some counted.packet) := by
  induction lines generalizing s with
  | nil => cases member
  | cons line rest ih =>
    rcases List.mem_append.mp member with own | later
    · refine ⟨line, List.mem_cons_self, ?_⟩
      obtain ⟨p, read, rfl⟩ := Option.map_eq_some_iff.mp (Option.mem_toList.mp own)
      exact Option.join_eq_some_iff.mp read
    · split_ifs at later with on
      · obtain ⟨other, present, read⟩ := ih later
        exact ⟨other, List.mem_cons_of_mem _ present, read⟩
      · cases later

theorem mem_countedBy {s : StreamState Details} {streams : List (List Line)} {counted : Counted}
    (member : counted ∈ countedBy tables lower parsing collapseThreshold s streams) :
    ∃ lines ∈ streams, ∃ line ∈ lines, readPacket tables line = some (some counted.packet) := by
  induction streams generalizing s with
  | nil => cases member
  | cons lines rest ih =>
    rcases List.mem_append.mp member with own | later
    · exact ⟨lines, List.mem_cons_self, mem_countedIn own⟩
    · obtain ⟨other, present, found⟩ := ih later
      exact ⟨other, List.mem_cons_of_mem _ present, found⟩

theorem countedIn_eq_nil_iff {s : StreamState Details} {lines : List Line} :
    countedIn tables lower parsing collapseThreshold s lines = [] ↔ NoPacket tables lines := by
  unfold NoPacket
  induction lines generalizing s with
  | nil => simp [countedIn]
  | cons line rest ih =>
    have ends := streamLine_ends_iff tables lower parsing collapseThreshold s line
    rw [countedIn, countedOf, List.map_cons, List.takeWhile_cons]
    cases read : readPacket tables line with
    | none =>
      have over_ : (streamLine tables lower parsing collapseThreshold s line).2 = false := ends.mpr (by simp [Raises, read])
      simp [over_]
    | some result =>
      cases result with
      | none =>
        have on : (streamLine tables lower parsing collapseThreshold s line).2 = true := by
          rw [← Bool.not_eq_false, ends]
          simp [Raises, read]
        simp [on, ih]
      | some p => simp

theorem countedBy_eq_nil_iff {s : StreamState Details} {streams : List (List Line)} :
    countedBy tables lower parsing collapseThreshold s streams = [] ↔ ∀ lines ∈ streams, NoPacket tables lines := by
  induction streams generalizing s with
  | nil => simp [countedBy]
  | cons lines rest ih => rw [countedBy, List.append_eq_nil_iff, countedIn_eq_nil_iff, ih, List.forall_mem_cons]

/-- No text of a frame is a date. -/
theorem unread (dates : ReadsDates fromisoformat) {text : String} (shape : text = "" ∨ ∃ t : FrameTime, text = t.text) :
    tsToEpoch fromisoformat (some (.other text)) = none := by
  rw [tsToEpoch]
  cases read : fromisoformat (withOffset text) with
  | none => rfl
  | some seconds =>
    obtain ⟨c, rest, is, digit⟩ := dates _ _ read
    rw [withOffset, String.toList_ofList] at is
    rcases shape with rfl | ⟨t, rfl⟩
    · cases is
    · obtain ⟨letter, others, head, apart, other⟩ := text_head t
      rw [head, List.flatMap_cons, if_neg other] at is
      obtain ⟨rfl, -⟩ := List.cons.inj is
      rw [digit] at apart
      cases apart

theorem nonempty_of_text (t : FrameTime) : t.text ≠ "" := by
  obtain ⟨c, rest, is, -⟩ := text_head t
  intro empty
  rw [empty] at is
  cases is

section Conversation
variable {packets : List LinePacket} {conv : LineConv Details} (gathered : convOf tables parsing packets = some conv)
  (rendered : ∀ p ∈ packets, frameTime p = (timeOf p).text)
include gathered rendered

theorem firstSeen_shape : conv.firstSeen = "" ∨ ∃ t : FrameTime, conv.firstSeen = t.text := by
  obtain ⟨first, -⟩ := extremes gathered fun p member => rendered p member ▸ nonempty_of_text _
  rcases first with ⟨-, empty⟩ | ⟨held, -⟩
  · exact .inl empty
  · obtain ⟨p, member, is⟩ := List.mem_map.mp held
    exact .inr ⟨timeOf p, by rw [← is, rendered p (List.mem_of_mem_filter member)]⟩

/-- The timeline has no conversation of a capture. -/
theorem not_shown (dates : ReadsDates fromisoformat) : entryOf fromisoformat (reported conv) = none := by
  rw [entryOf, reported, unread dates (firstSeen_shape gathered rendered)]
  rfl

/-- Within one day the span is that of the packets. -/
theorem chronological_within_day (lengths : ∀ p ∈ packets, frameLen tables p ≠ none)
    (day : ∀ p ∈ packets, ∀ q ∈ packets, SameDay (timeOf p) (timeOf q)) :
    (∃ p ∈ packets, (∀ q ∈ packets, (timeOf p).epoch ≤ (timeOf q).epoch) ∧ conv.firstSeen = frameTime p) ∧
      ∃ p ∈ packets, (∀ q ∈ packets, (timeOf q).epoch ≤ (timeOf p).epoch) ∧ conv.lastSeen = frameTime p := by
  have all : framed tables packets = packets :=
    List.filter_eq_self.mpr fun p member => Option.isSome_iff_ne_none.mpr (lengths p member)
  have some_ : packets ≠ [] := by
    rintro rfl
    cases gathered
  obtain ⟨first, last⟩ := extremes gathered fun p member => rendered p member ▸ nonempty_of_text _
  rw [timesOf, all] at first last
  constructor
  · rcases first with ⟨none_, -⟩ | ⟨held, least⟩
    · exact absurd (List.map_eq_nil_iff.mp none_) some_
    · obtain ⟨p, member, is⟩ := List.mem_map.mp held
      refine ⟨p, member, fun q other => epoch_le_of_text_le (day p member q other) ?_, is.symm⟩
      rw [← rendered p member, ← rendered q other, is]
      exact least _ (List.mem_map_of_mem other)
  · rcases last with ⟨none_, -⟩ | ⟨held, greatest⟩
    · exact absurd (List.map_eq_nil_iff.mp none_) some_
    · obtain ⟨p, member, is⟩ := List.mem_map.mp held
      refine ⟨p, member, fun q other => epoch_le_of_text_le (day q other p member) ?_, is.symm⟩
      rw [← rendered p member, ← rendered q other, is]
      exact greatest _ (List.mem_map_of_mem other)

end Conversation

/-- All time spans are chronological and readable, exactly if no packet is counted. -/
theorem spans_chronological_iff (streams : List (List Line)) (rendered : Rendered tables timeOf streams)
    (dates : ReadsDates fromisoformat) :
    (∀ item ∈ (passes tables lower parsing collapseThreshold .start streams).lines.convMap.items,
      Chronological fromisoformat timeOf
        (packetsUnder item.1 (countedBy tables lower parsing collapseThreshold .start streams)) item.2) ↔
    ∀ lines ∈ streams, NoPacket tables lines := by
  rw [← @countedBy_eq_nil_iff _ tables lower parsing collapseThreshold .start streams]
  have found := @get_passes _ tables lower parsing collapseThreshold streams
  have read : ∀ counted ∈ countedBy tables lower parsing collapseThreshold .start streams,
      frameTime counted.packet = (timeOf counted.packet).text := by
    intro counted member
    obtain ⟨lines, stream, line, present, packet⟩ := mem_countedBy member
    exact rendered lines stream line present _ packet
  generalize passes tables lower parsing collapseThreshold .start streams = s at found ⊢
  generalize countedBy tables lower parsing collapseThreshold .start streams = counted at found read ⊢
  constructor
  · intro chronological
    cases counted with
    | nil => rfl
    | cons first rest =>
      cases gathered : convOf tables parsing (packetsUnder first.key (first :: rest)) with
      | none =>
        have empty := gather_eq_none_iff.mp gathered
        simp [packetsUnder] at empty
      | some conv =>
        have member := PyDict.mem_items_of_get ((found first.key).trans gathered)
        have rendered : ∀ p ∈ packetsUnder first.key (first :: rest), frameTime p = (timeOf p).text := fun p present => by
          obtain ⟨own, held, rfl⟩ := List.mem_map.mp present
          exact read own (List.mem_of_mem_filter held)
        exact absurd (not_shown gathered rendered dates) (chronological _ member).shown
  · rintro rfl item member
    have none_ := (found item.1).symm.trans (PyDict.get_of_mem_items (show (item.1, item.2) ∈ s.lines.convMap.items from member))
    cases none_

end Spans

/-! A host pings another until after the end of a month: by their texts, the first of February
comes before the last of January. -/

open Marlinspike.Dissect.Reproducible (pingTables pingText ping pingPacket pingKey pingFields readPacket_ping field_ping
  frameLen_ping counted_pings get_pings)
open Marlinspike.Dissect.Inline (inlineParsing)

def lastOfJanuary : FrameTime := ⟨2026, 0, 31, 23, 59, 59, 0, "UTC", 0⟩

def firstOfFebruary : FrameTime := ⟨2026, 1, 1, 0, 0, 1, 0, "UTC", 0⟩

def monthEnd : List (List Line) := [[ping lastOfJanuary.text "10.0.0.1", ping firstOfFebruary.text "10.0.0.1"]]

def monthEndTime (p : LinePacket) : FrameTime :=
  if frameTime p = firstOfFebruary.text then firstOfFebruary else lastOfJanuary

/-- `fromisoformat`, of a date alone, as its midnight in UTC. -/
def isoDate (text : String) : Option Rat :=
  match text.toList with
  | [y1, y2, y3, y4, '-', m1, m2, '-', d1, d2] =>
    if ([y1, y2, y3, y4, m1, m2, d1, d2].all Char.isDigit) then
      let month := value [m1, m2]
      let day := value [d1, d2]
      if inside : 1 ≤ month ∧ month ≤ 12 ∧ 1 ≤ day ∧ day ≤ 31 then
        some (FrameTime.epoch ⟨value [y1, y2, y3, y4], ⟨month - 1, by omega⟩, day, 0, 0, 0, 0, "UTC", 0⟩)
      else none
    else none
  | _ => none

theorem readsDates_isoDate : ReadsDates isoDate := by
  intro text seconds read
  unfold isoDate at read
  split at read
  · rename_i y1 _ _ _ _ _ _ _ is
    split_ifs at read with digits
    · exact ⟨y1, _, is, by simp at digits; exact digits.1⟩
  · cases read

theorem lastOfJanuary_plain : lastOfJanuary.text ≠ "" ∧ '\t' ∉ lastOfJanuary.text.toList := by decide +kernel

theorem firstOfFebruary_plain : firstOfFebruary.text ≠ "" ∧ '\t' ∉ firstOfFebruary.text.toList := by decide +kernel

theorem host_plain : "10.0.0.1" ≠ "" ∧ '\t' ∉ "10.0.0.1".toList := by decide

theorem frameTime_january : frameTime (pingPacket lastOfJanuary.text "10.0.0.1") = lastOfJanuary.text := by
  rw [frameTime, field_ping lastOfJanuary_plain host_plain]
  simp [pingFields, PyDict.find]

theorem frameTime_february : frameTime (pingPacket firstOfFebruary.text "10.0.0.1") = firstOfFebruary.text := by
  rw [frameTime, field_ping firstOfFebruary_plain host_plain]
  simp [pingFields, PyDict.find]

theorem february_lt_january : firstOfFebruary.text < lastOfJanuary.text := by decide +kernel

theorem monthEndTime_january : monthEndTime (pingPacket lastOfJanuary.text "10.0.0.1") = lastOfJanuary := by
  rw [monthEndTime, frameTime_january, if_neg february_lt_january.ne']

theorem monthEndTime_february : monthEndTime (pingPacket firstOfFebruary.text "10.0.0.1") = firstOfFebruary := by
  rw [monthEndTime, frameTime_february, if_pos rfl]

theorem rendered_monthEnd : Rendered pingTables monthEndTime monthEnd := by
  intro lines stream line present p read
  obtain rfl := List.mem_singleton.mp stream
  simp only [List.mem_cons, List.not_mem_nil, or_false] at present
  rcases present with rfl | rfl
  · rw [readPacket_ping lastOfJanuary_plain host_plain] at read
    obtain rfl := Option.some.inj (Option.some.inj read)
    rw [frameTime_january, monthEndTime_january]
  · rw [readPacket_ping firstOfFebruary_plain host_plain] at read
    obtain rfl := Option.some.inj (Option.some.inj read)
    rw [frameTime_february, monthEndTime_february]

theorem spans_chronological_iff_monthEnd :
    (∀ item ∈ (passes pingTables pingText.lower (inlineParsing pingText) 50 .start monthEnd).lines.convMap.items,
      Chronological isoDate monthEndTime
        (packetsUnder item.1 (countedBy pingTables pingText.lower (inlineParsing pingText) 50 .start monthEnd)) item.2) ↔
    ∀ lines ∈ monthEnd, NoPacket pingTables lines :=
  spans_chronological_iff monthEnd rendered_monthEnd readsDates_isoDate

theorem february_seen_first :
    ¬∀ item ∈ (passes pingTables pingText.lower (inlineParsing pingText) 50 .start monthEnd).lines.convMap.items,
      Chronological isoDate monthEndTime
        (packetsUnder item.1 (countedBy pingTables pingText.lower (inlineParsing pingText) 50 .start monthEnd)) item.2 := by
  have found := get_pings lastOfJanuary_plain host_plain firstOfFebruary_plain host_plain
  have counted := counted_pings lastOfJanuary_plain host_plain firstOfFebruary_plain host_plain
  intro all
  rw [monthEnd, counted] at all
  generalize passes pingTables pingText.lower (inlineParsing pingText) 50 .start _ = s at found all
  cases gathered : convOf pingTables (inlineParsing pingText)
      [pingPacket lastOfJanuary.text "10.0.0.1", pingPacket firstOfFebruary.text "10.0.0.1"] with
  | none => cases gathered
  | some conv =>
    obtain ⟨p, member, earliest, is, -⟩ := (all (pingKey, conv) (PyDict.mem_items_of_get (found.trans gathered))).first
    rw [packetsUnder, List.filter_eq_self.mpr (by simp), List.map_cons, List.map_singleton] at member earliest
    have times : timesOf pingTables [pingPacket lastOfJanuary.text "10.0.0.1", pingPacket firstOfFebruary.text "10.0.0.1"] =
        [lastOfJanuary.text, firstOfFebruary.text] := by
      simp [timesOf, framed, frameLen_ping lastOfJanuary_plain host_plain, frameLen_ping firstOfFebruary_plain host_plain,
        frameTime_january, frameTime_february]
    obtain ⟨first, -⟩ := extremes gathered (by
      simp [frameTime_january, frameTime_february, lastOfJanuary_plain.1, firstOfFebruary_plain.1])
    rw [times] at first
    rcases first with ⟨none_, -⟩ | ⟨-, least⟩
    · cases none_
    simp only [List.mem_cons, List.not_mem_nil, or_false] at member
    rcases member with rfl | rfl
    · -- the text of January is not the least
      rw [is, frameTime_january] at least
      exact absurd (least firstOfFebruary.text (by simp)) (not_le_of_gt february_lt_january)
    · -- February is not the earliest
      have before := earliest (pingPacket lastOfJanuary.text "10.0.0.1") (by simp)
      rw [monthEndTime_january, monthEndTime_february] at before
      revert before
      decide +kernel

end Marlinspike.Dissect.Spans
