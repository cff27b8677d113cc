import Mathlib.Algebra.Order.BigOperators.Group.List
import Mathlib.Data.List.Induction
import Mathlib.Data.Rat.Floor
import Mathlib.Tactic.FieldSimp
import Mathlib.Tactic.Linarith
import Mathlib.Tactic.Ring

/-!
The timeline of a report: the span of its conversations in at most 121 buckets of whole
seconds, with the packets and bytes of each conversation spread evenly over the buckets that
its interval meets (`Meets`). Timestamps are exact rationals; `fromisoformat` stands for
`datetime.fromisoformat(…).timestamp()`.
-/
namespace Marlinspike.Reports.Timeline

/-! ### Conversations -/

/-- A timestamp that is there: a number, or `str(value)` of anything else. -/
inductive Stamp where
  | number (seconds : Rat)
  | other (text : String)
deriving DecidableEq, Repr

structure Conversation where
  firstSeen : Option Stamp
  lastSeen : Option Stamp
  packetCount : Option Int
  bytesTotal : Option Int
deriving DecidableEq, Repr

/-- What the loops read of a conversation whose `first_seen` is parseable. -/
structure Entry where
  first : Rat
  last : Rat
  packets : Int
  bytes : Int
deriving DecidableEq, Repr

/-- `text.replace("Z", "+00:00")`. -/
def withOffset (text : String) : String :=
  String.ofList (text.toList.flatMap fun c => if c = 'Z' then "+00:00".toList else [c])

section Entries
variable (fromisoformat : String → Option Rat)

def tsToEpoch : Option Stamp → Option Rat
  | none => none
  | some (.number seconds) => some seconds
  | some (.other text) => fromisoformat (withOffset text)

def lastOf (first : Rat) : Option Rat → Rat
  | none => first
  | some last => if last < first then first else last

def entryOf (conv : Conversation) : Option Entry :=
  (tsToEpoch fromisoformat conv.firstSeen).map fun first =>
    ⟨first, lastOf first (tsToEpoch fromisoformat conv.lastSeen), conv.packetCount.getD 0, conv.bytesTotal.getD 0⟩

def entriesOf (conversations : List Conversation) : List Entry := conversations.filterMap (entryOf fromisoformat)

end Entries

/-! ### Buckets -/

/-- The global extent and the size and number of the buckets. -/
structure Plan where
  globalFirst : Rat
  globalLast : Rat
  bucketSeconds : Int
  nBuckets : Int
deriving DecidableEq, Repr

def bucketSecondsOf (span : Rat) : Int := if 0 < span then max 1 ⌈span / 120⌉ else 1

def nBucketsOf (span : Rat) : Int := if 0 < span then ⌈span / bucketSecondsOf span⌉ + 1 else 1

def planOf : List Entry → Option Plan
  | [] => none
  | entry :: rest =>
    let globalFirst := rest.foldl (fun low entry => min low entry.first) entry.first
    let globalLast := rest.foldl (fun high entry => max high entry.last) entry.last
    let span := globalLast - globalFirst
    some ⟨globalFirst, globalLast, bucketSecondsOf span, nBucketsOf span⟩

/-- `int(value)`, towards zero. -/
def truncate (value : Rat) : Int := if 0 ≤ value then ⌊value⌋ else ⌈value⌉

def Plan.index (plan : Plan) (time : Rat) : Int := truncate ((time - plan.globalFirst) / plan.bucketSeconds)

def Plan.clamp (plan : Plan) (index : Int) : Int := max 0 (min index (plan.nBuckets - 1))

/-- `pkt_arr`, `byte_arr` and `conv_arr` at one index. -/
structure Cell where
  packets : Int
  bytes : Int
  convCount : Nat
deriving DecidableEq, Repr

/-- `each + (1 if offset < rem else 0)` of `divmod(total, n_span)`. -/
def share (total nSpan : Int) (offset : Nat) : Int := total / nSpan + if (offset : Int) < total % nSpan then 1 else 0

def Cell.gain (cell : Cell) (entry : Entry) (nSpan : Int) (offset : Nat) : Cell where
  packets := cell.packets + share entry.packets nSpan offset
  bytes := cell.bytes + share entry.bytes nSpan offset
  convCount := cell.convCount + 1

def addShare (entry : Entry) (bStart nSpan : Int) (cells : List Cell) (offset : Nat) : List Cell :=
  cells.modify (bStart + offset).toNat fun cell => cell.gain entry nSpan offset

def addEntry (plan : Plan) (cells : List Cell) (entry : Entry) : List Cell :=
  let bStart := plan.clamp (plan.index entry.first)
  let bEnd := plan.clamp (plan.index entry.last)
  let nSpan := bEnd - bStart + 1
  (List.range nSpan.toNat).foldl (addShare entry bStart nSpan) cells

def arrays (plan : Plan) (entries : List Entry) : List Cell :=
  entries.foldl (addEntry plan) (List.replicate plan.nBuckets.toNat ⟨0, 0, 0⟩)

structure Bucket where
  t : Rat
  packets : Int
  bytes : Int
  convCount : Nat
deriving DecidableEq, Repr

/-- When a bucket begins. -/
def Plan.start (plan : Plan) (index : Nat) : Rat := plan.globalFirst + index * plan.bucketSeconds

def bucketOf (plan : Plan) (item : Cell × Nat) : Option Bucket :=
  if item.1.packets ≠ 0 ∨ item.1.bytes ≠ 0 ∨ item.1.convCount ≠ 0
    then some ⟨plan.start item.2, item.1.packets, item.1.bytes, item.1.convCount⟩ else none

structure TimelineBuckets where
  firstSeen : Option Rat
  lastSeen : Option Rat
  bucketSeconds : Int
  buckets : List Bucket
deriving DecidableEq, Repr

def computeTimelineBuckets (fromisoformat : String → Option Rat) (conversations : List Conversation) : TimelineBuckets :=
  let entries := entriesOf fromisoformat conversations
  match planOf entries with
  | none => ⟨none, none, 1, []⟩
  | some plan =>
    ⟨some plan.globalFirst, some plan.globalLast, plan.bucketSeconds,
      (arrays plan entries).zipIdx.filterMap (bucketOf plan)⟩

/-- Some instant of the entry's interval is in the bucket. -/
def Meets (plan : Plan) (entry : Entry) (index : Nat) : Prop :=
  ∃ time, entry.first ≤ time ∧ time ≤ entry.last ∧ plan.start index ≤ time ∧ time < plan.start (index + 1)

/-- The turn of one conversation: it is counted in the buckets that it meets and only there,
and its traffic is shared out evenly among them. -/
structure SpreadEvenly (plan : Plan) (entry : Entry) (before after : List Cell) : Prop where
  in_range : ∀ index, Meets plan entry index → index < before.length
  met : ∀ index cell, Meets plan entry index → before[index]? = some cell →
    (after[index]?.map (·.convCount)) = some (cell.convCount + 1)
  others : ∀ index, ¬ Meets plan entry index → after[index]? = before[index]?
  even : ∀ one other, Meets plan entry one → Meets plan entry other → ∀ cell cell' spare spare',
    before[one]? = some cell → after[one]? = some cell' → before[other]? = some spare → after[other]? = some spare' →
      cell'.packets - cell.packets ≤ spare'.packets - spare.packets + 1 ∧
      cell'.bytes - cell.bytes ≤ spare'.bytes - spare.bytes + 1
  packets : (after.map (·.packets)).sum = (before.map (·.packets)).sum + entry.packets
  bytes : (after.map (·.bytes)).sum = (before.map (·.bytes)).sum + entry.bytes

/-! ### The extent -/

/-- What the plan of some entries promises each of them. -/
structure Plan.Covers (plan : Plan) (entry : Entry) : Prop where
  width : 1 ≤ plan.bucketSeconds
  from_first : plan.globalFirst ≤ entry.first
  ordered : entry.first ≤ entry.last
  until_last : (entry.last - plan.globalFirst) / plan.bucketSeconds ≤ ((plan.nBuckets - 1 : Int) : Rat)

theorem one_le_bucketSecondsOf (span : Rat) : 1 ≤ bucketSecondsOf span := by
  unfold bucketSecondsOf
  split_ifs
  · exact le_max_left _ _
  · exact le_refl 1

theorem nBucketsOf_bounds (span : Rat) (nonneg : 0 ≤ span) :
    span / bucketSecondsOf span ≤ ((nBucketsOf span - 1 : Int) : Rat) ∧ 1 ≤ nBucketsOf span ∧
      nBucketsOf span ≤ 121 := by
  have width : (1 : Rat) ≤ bucketSecondsOf span := by exact_mod_cast one_le_bucketSecondsOf span
  unfold nBucketsOf
  split_ifs with positive
  · have enough : span / 120 ≤ bucketSecondsOf span := by
      unfold bucketSecondsOf
      rw [if_pos positive]
      refine (Int.le_ceil _).trans ?_
      exact_mod_cast le_max_right _ _
    have few : span / bucketSecondsOf span ≤ ((120 : Int) : Rat) := by
      rw [div_le_iff₀ (by linarith)]
      push_cast
      linarith
    have most := Int.ceil_le.mpr few
    have least : 0 ≤ ⌈span / bucketSecondsOf span⌉ := Int.ceil_nonneg (div_nonneg nonneg (by linarith))
    refine ⟨?_, by omega, by omega⟩
    rw [Int.add_sub_cancel]
    exact Int.le_ceil _
  · have none : span = 0 := by linarith
    subst none
    norm_num

theorem foldl_min_le (low : Rat) (entries : List Entry) :
    entries.foldl (fun low entry => min low entry.first) low ≤ low ∧
      ∀ entry ∈ entries, entries.foldl (fun low entry => min low entry.first) low ≤ entry.first := by
  induction entries generalizing low with
  | nil => simp
  | cons head rest ih =>
    obtain ⟨below, rest_below⟩ := ih (min low head.first)
    refine ⟨below.trans (min_le_left _ _), fun entry member => ?_⟩
    rcases List.mem_cons.mp member with rfl | later
    · exact below.trans (min_le_right _ _)
    · exact rest_below entry later

theorem le_foldl_max (high : Rat) (entries : List Entry) :
    high ≤ entries.foldl (fun high entry => max high entry.last) high ∧
      ∀ entry ∈ entries, entry.last ≤ entries.foldl (fun high entry => max high entry.last) high := by
  induction entries generalizing high with
  | nil => simp
  | cons head rest ih =>
    obtain ⟨above, rest_above⟩ := ih (max high head.last)
    refine ⟨(le_max_left _ _).trans above, fun entry member => ?_⟩
    rcases List.mem_cons.mp member with rfl | later
    · exact (le_max_right _ _).trans above
    · exact rest_above entry later

theorem planOf_extent {entries : List Entry} {plan : Plan} (planned : planOf entries = some plan) :
    ∀ entry ∈ entries, plan.globalFirst ≤ entry.first ∧ entry.last ≤ plan.globalLast := by
  cases entries with
  | nil => simp [planOf] at planned
  | cons head rest =>
    obtain rfl := Option.some.inj planned
    intro entry member
    rcases List.mem_cons.mp member with rfl | later
    · exact ⟨(foldl_min_le _ rest).1, (le_foldl_max _ rest).1⟩
    · exact ⟨(foldl_min_le _ rest).2 entry later, (le_foldl_max _ rest).2 entry later⟩

theorem planOf_sizes {entries : List Entry} {plan : Plan} (planned : planOf entries = some plan) :
    plan.bucketSeconds = bucketSecondsOf (plan.globalLast - plan.globalFirst) ∧
      plan.nBuckets = nBucketsOf (plan.globalLast - plan.globalFirst) := by
  cases entries with
  | nil => simp [planOf] at planned
  | cons head rest =>
    obtain rfl := Option.some.inj planned
    exact ⟨rfl, rfl⟩

/-- The interval ends at the later one of the two timestamps. -/
theorem lastOf_eq_max (first last : Rat) : lastOf first (some last) = max first last := by
  show (if last < first then first else last) = _
  split_ifs with early
  · exact (max_eq_left early.le).symm
  · exact (max_eq_right (not_lt.mp early)).symm

theorem le_lastOf (first : Rat) (last : Option Rat) : first ≤ lastOf first last := by
  cases last with
  | none => exact le_refl _
  | some last =>
    rw [lastOf_eq_max]
    exact le_max_left _ _

theorem ordered_of_mem {fromisoformat : String → Option Rat} {conversations : List Conversation} {entry : Entry}
    (member : entry ∈ entriesOf fromisoformat conversations) : entry.first ≤ entry.last := by
  obtain ⟨conv, -, made⟩ := List.mem_filterMap.mp member
  obtain ⟨first, -, rfl⟩ := Option.map_eq_some_iff.mp made
  exact le_lastOf first _

theorem sum_entriesOf (fromisoformat : String → Option Rat) (conversations : List Conversation)
    {value : Entry → Int} {count : Conversation → Option Int}
    (reads : ∀ conv entry, entryOf fromisoformat conv = some entry → value entry = (count conv).getD 0) :
    ((entriesOf fromisoformat conversations).map value).sum =
      ((conversations.filter fun conv => (tsToEpoch fromisoformat conv.firstSeen).isSome).map
        fun conv => (count conv).getD 0).sum := by
  induction conversations with
  | nil => rfl
  | cons conv rest ih =>
    unfold entriesOf at ih ⊢
    rw [List.filterMap_cons, List.filter_cons]
    cases parsed : tsToEpoch fromisoformat conv.firstSeen with
    | none => simpa [entryOf, parsed] using ih
    | some first =>
      have made : entryOf fromisoformat conv = some ⟨first, lastOf first (tsToEpoch fromisoformat conv.lastSeen),
          conv.packetCount.getD 0, conv.bytesTotal.getD 0⟩ := by
        rw [entryOf, parsed]
        rfl
      simp [made, ih, reads conv _ made]

theorem covers_of_mem {entries : List Entry} {plan : Plan} (planned : planOf entries = some plan) {entry : Entry}
    (member : entry ∈ entries) (ordered : entry.first ≤ entry.last) : plan.Covers entry := by
  obtain ⟨from_first, until_last⟩ := planOf_extent planned entry member
  obtain ⟨width_eq, count_eq⟩ := planOf_sizes planned
  have width := one_le_bucketSecondsOf (plan.globalLast - plan.globalFirst)
  rw [← width_eq] at width
  refine ⟨width, from_first, ordered, ?_⟩
  have bound := (nBucketsOf_bounds (plan.globalLast - plan.globalFirst) (by linarith)).1
  rw [← width_eq, ← count_eq] at bound
  have positive : (0 : Rat) < plan.bucketSeconds := by exact_mod_cast width
  exact (div_le_div_of_nonneg_right (by linarith) positive.le).trans bound

theorem planOf_nBuckets_le {entries : List Entry} {plan : Plan} (planned : planOf entries = some plan)
    (ordered : ∀ entry ∈ entries, entry.first ≤ entry.last) : plan.nBuckets ≤ 121 := by
  obtain ⟨-, count⟩ := planOf_sizes planned
  rw [count]
  refine (nBucketsOf_bounds _ ?_).2.2
  cases entries with
  | nil => simp [planOf] at planned
  | cons entry rest =>
    have extent := planOf_extent planned entry List.mem_cons_self
    linarith [ordered entry List.mem_cons_self]

/-! ### Indices -/

section Indices
variable {plan : Plan} {entry : Entry}

theorem truncate_of_nonneg {value : Rat} (nonneg : 0 ≤ value) : truncate value = ⌊value⌋ := if_pos nonneg

theorem Plan.Covers.positive (covers : plan.Covers entry) : (0 : Rat) < plan.bucketSeconds := by
  exact_mod_cast covers.width

theorem Plan.Covers.index_eq (covers : plan.Covers entry) {time : Rat} (since : plan.globalFirst ≤ time) :
    plan.index time = ⌊(time - plan.globalFirst) / plan.bucketSeconds⌋ :=
  truncate_of_nonneg (div_nonneg (by linarith) covers.positive.le)

/-- The indices of an entry are in order and in range. -/
theorem Plan.Covers.index_bounds (covers : plan.Covers entry) :
    0 ≤ plan.index entry.first ∧ plan.index entry.first ≤ plan.index entry.last ∧
      plan.index entry.last ≤ plan.nBuckets - 1 := by
  have reaches := covers.from_first.trans covers.ordered
  rw [covers.index_eq covers.from_first, covers.index_eq reaches]
  refine ⟨?_, ?_, ?_⟩
  · exact Int.floor_nonneg.mpr (div_nonneg (by linarith [covers.from_first]) covers.positive.le)
  · apply Int.floor_le_floor
    exact div_le_div_of_nonneg_right (by linarith [covers.ordered]) covers.positive.le
  · have below := (Int.floor_le _).trans covers.until_last
    exact_mod_cast below

theorem Plan.Covers.clamp_eq (covers : plan.Covers entry) :
    plan.clamp (plan.index entry.first) = plan.index entry.first ∧
      plan.clamp (plan.index entry.last) = plan.index entry.last := by
  obtain ⟨low, ordered, high⟩ := covers.index_bounds
  unfold Plan.clamp
  omega

/-- The buckets from the first index of an entry to its last are those that it meets. -/
theorem Plan.Covers.meets_iff (covers : plan.Covers entry) (index : Nat) :
    Meets plan entry index ↔ plan.index entry.first ≤ index ∧ (index : Int) ≤ plan.index entry.last := by
  have positive := covers.positive
  have begins : (index : Int) ≤ plan.index entry.last ↔ plan.start index ≤ entry.last := by
    rw [covers.index_eq (covers.from_first.trans covers.ordered), Int.le_floor, le_div_iff₀ positive, Plan.start,
      Int.cast_natCast, le_sub_iff_add_le']
  have ends : plan.index entry.first ≤ index ↔ entry.first < plan.start (index + 1) := by
    rw [covers.index_eq covers.from_first, ← Int.lt_add_one_iff, Int.floor_lt, div_lt_iff₀ positive, Plan.start,
      sub_lt_iff_lt_add']
    push_cast
    rfl
  rw [begins, ends]
  constructor
  · rintro ⟨time, since, until_, low, high⟩
    exact ⟨since.trans_lt high, low.trans until_⟩
  · rintro ⟨high, low⟩
    have wide : plan.start index < plan.start (index + 1) := by
      unfold Plan.start
      push_cast
      linarith
    refine ⟨max entry.first (plan.start index), le_max_left _ _, max_le covers.ordered low, le_max_right _ _, ?_⟩
    exact max_lt high wide

end Indices

/-! ### Shares -/

/-- The leading shares are one larger. -/
theorem sum_leading (each rem : Int) (nonneg : 0 ≤ rem) (n : Nat) :
    ((List.range n).map fun (offset : Nat) => each + if (offset : Int) < rem then 1 else 0).sum =
      n * each + min (n : Int) rem := by
  induction n with
  | zero => simp [nonneg]
  | succ n ih =>
    rw [List.range_succ, List.map_append, List.sum_append, ih, List.map_singleton, List.sum_singleton]
    push_cast
    have step : min (n : Int) rem + (if (n : Int) < rem then 1 else 0) = min ((n : Int) + 1) rem := by
      split_ifs <;> omega
    linarith

/-- `divmod` loses nothing. -/
theorem sum_share (total : Int) {nSpan : Int} (positive : 0 < nSpan) :
    ((List.range nSpan.toNat).map (share total nSpan)).sum = total := by
  have size : (nSpan.toNat : Int) = nSpan := Int.toNat_of_nonneg positive.le
  have rem_lt := Int.emod_lt_of_pos total positive
  unfold share
  rw [sum_leading _ _ (Int.emod_nonneg _ positive.ne'), size, min_eq_right rem_lt.le]
  exact Int.mul_ediv_add_emod total nSpan

theorem share_close (total nSpan : Int) (one other : Nat) : share total nSpan one ≤ share total nSpan other + 1 := by
  unfold share
  split_ifs <;> omega

theorem sum_map_modify (measure : Cell → Int) {change : Cell → Cell} {amount : Int}
    (changes : ∀ cell, measure (change cell) = measure cell + amount) {cells : List Cell} {index : Nat}
    (inside : index < cells.length) :
    ((cells.modify index change).map measure).sum = (cells.map measure).sum + amount := by
  induction cells generalizing index with
  | nil => simp at inside
  | cons cell rest ih =>
    cases index with
    | zero =>
      simp only [List.modify_zero_cons, List.map_cons, List.sum_cons, changes]
      ring
    | succ index =>
      simp only [List.modify_succ_cons, List.map_cons, List.sum_cons, ih (Nat.lt_of_succ_lt_succ inside)]
      ring

section Loop
variable (entry : Entry) (bStart nSpan : Int) (cells : List Cell)

/-- The inner loop, after some of its turns. -/
def spread (turns : Nat) : List Cell := (List.range turns).foldl (addShare entry bStart nSpan) cells

theorem spread_succ (turns : Nat) :
    spread entry bStart nSpan cells (turns + 1) =
      addShare entry bStart nSpan (spread entry bStart nSpan cells turns) turns := by
  unfold spread
  rw [List.range_succ, List.foldl_append]
  rfl

theorem length_spread (turns : Nat) : (spread entry bStart nSpan cells turns).length = cells.length := by
  induction turns with
  | zero => rfl
  | succ turns ih => rw [spread_succ, addShare, List.length_modify, ih]

theorem getElem?_spread (nonneg : 0 ≤ bStart) (turns index : Nat) :
    (spread entry bStart nSpan cells turns)[index]? = cells[index]?.map fun cell =>
      if bStart ≤ index ∧ (index : Int) < bStart + turns then cell.gain entry nSpan (index - bStart.toNat) else cell := by
  induction turns with
  | zero =>
    have outside : ¬ (bStart ≤ index ∧ (index : Int) < bStart + (0 : Nat)) := by omega
    simp only [if_neg outside]
    exact Option.map_id_apply.symm
  | succ turns ih =>
    rw [spread_succ, addShare, List.getElem?_modify, ih, Option.map_eq_map, Option.map_map]
    apply Option.map_congr
    intro cell _
    rw [Function.comp_apply]
    by_cases here : (bStart + turns).toNat = index
    · have before : ¬ (bStart ≤ index ∧ (index : Int) < bStart + turns) := by omega
      have now : bStart ≤ index ∧ (index : Int) < bStart + (turns + 1 : Nat) := by omega
      have offset : index - bStart.toNat = turns := by omega
      rw [if_pos here, if_neg before, if_pos now, offset]
    · have same : (bStart ≤ index ∧ (index : Int) < bStart + turns) ↔
          (bStart ≤ index ∧ (index : Int) < bStart + (turns + 1 : Nat)) := by omega
      rw [if_neg here]
      simp only [same]

theorem sum_spread {measure : Cell → Int} {total : Int} (nonneg : 0 ≤ bStart)
    (gains : ∀ (offset : Nat) (cell : Cell), measure (cell.gain entry nSpan offset) = measure cell + share total nSpan offset)
    (turns : Nat) (inside : bStart + turns ≤ cells.length) :
    ((spread entry bStart nSpan cells turns).map measure).sum =
      (cells.map measure).sum + ((List.range turns).map (share total nSpan)).sum := by
  induction turns with
  | zero => simp [spread]
  | succ turns ih =>
    have bound : (bStart + turns).toNat < (spread entry bStart nSpan cells turns).length := by
      rw [length_spread]
      omega
    rw [spread_succ, addShare, sum_map_modify measure (gains turns) bound, ih (by omega), List.range_succ,
      List.map_append, List.sum_append, List.map_singleton, List.sum_singleton, add_assoc]

end Loop

/-! ### A conversation's turn -/

section Turn
variable {plan : Plan} {entry : Entry}

/-- How many buckets an entry meets. -/
def Plan.nSpan (plan : Plan) (entry : Entry) : Int := plan.index entry.last - plan.index entry.first + 1

theorem addEntry_eq (covers : plan.Covers entry) (cells : List Cell) :
    addEntry plan cells entry =
      spread entry (plan.index entry.first) (plan.nSpan entry) cells (plan.nSpan entry).toNat := by
  obtain ⟨first, last⟩ := covers.clamp_eq
  unfold addEntry
  rw [first, last]
  rfl

theorem getElem?_addEntry (covers : plan.Covers entry) [∀ index, Decidable (Meets plan entry index)] (cells : List Cell)
    (index : Nat) :
    (addEntry plan cells entry)[index]? = cells[index]?.map fun cell =>
      if Meets plan entry index then cell.gain entry (plan.nSpan entry) (index - (plan.index entry.first).toNat)
      else cell := by
  obtain ⟨low, ordered, -⟩ := covers.index_bounds
  have meets := covers.meets_iff index
  have size : ((plan.nSpan entry).toNat : Int) = plan.index entry.last - plan.index entry.first + 1 :=
    Int.toNat_of_nonneg (by unfold Plan.nSpan; omega)
  have same : Meets plan entry index ↔ plan.index entry.first ≤ index ∧
      (index : Int) < plan.index entry.first + (plan.nSpan entry).toNat := by
    rw [meets, size]
    omega
  rw [addEntry_eq covers, getElem?_spread _ _ _ _ low]
  simp only [same]

theorem sum_addEntry (covers : plan.Covers entry) {cells : List Cell} (size : cells.length = plan.nBuckets.toNat)
    {measure : Cell → Int} {total : Int}
    (gains : ∀ (offset : Nat) (cell : Cell),
      measure (cell.gain entry (plan.nSpan entry) offset) = measure cell + share total (plan.nSpan entry) offset) :
    ((addEntry plan cells entry).map measure).sum = (cells.map measure).sum + total := by
  obtain ⟨low, ordered, high⟩ := covers.index_bounds
  have positive : 0 < plan.nSpan entry := by unfold Plan.nSpan; omega
  have inside : plan.index entry.first + (plan.nSpan entry).toNat ≤ cells.length := by
    rw [Int.toNat_of_nonneg positive.le, size]
    unfold Plan.nSpan
    omega
  rw [addEntry_eq covers, sum_spread _ _ _ _ low gains _ inside, sum_share total positive]

theorem length_addEntry (covers : plan.Covers entry) (cells : List Cell) :
    (addEntry plan cells entry).length = cells.length := by
  rw [addEntry_eq covers, length_spread]

open Classical in
theorem spreadEvenly_addEntry (covers : plan.Covers entry) {cells : List Cell}
    (size : cells.length = plan.nBuckets.toNat) : SpreadEvenly plan entry cells (addEntry plan cells entry) := by
  have turn := getElem?_addEntry covers cells
  constructor
  case in_range =>
    intro index meets
    have bounds := covers.index_bounds
    have inside := (covers.meets_iff index).mp meets
    omega
  case met =>
    intro index cell meets found
    rw [turn, found, Option.map_some, if_pos meets]
    rfl
  case others =>
    intro index apart
    rw [turn]
    simp only [if_neg apart]
    exact Option.map_id_apply
  case even =>
    intro one other meets meets' cell cell' spare spare' found found' left left'
    rw [turn, found, Option.map_some, if_pos meets] at found'
    rw [turn, left, Option.map_some, if_pos meets'] at left'
    obtain rfl := Option.some.inj found'
    obtain rfl := Option.some.inj left'
    have packets := share_close entry.packets (plan.nSpan entry)
    have bytes := share_close entry.bytes (plan.nSpan entry)
    simp only [Cell.gain, add_sub_cancel_left]
    exact ⟨packets _ _, bytes _ _⟩
  case packets => exact sum_addEntry covers size fun _ _ => rfl
  case bytes => exact sum_addEntry covers size fun _ _ => rfl

end Turn

/-! ### All conversations -/

section Run
variable {plan : Plan} {entries : List Entry}

theorem length_arrays (covers : ∀ entry ∈ entries, plan.Covers entry) :
    (arrays plan entries).length = plan.nBuckets.toNat := by
  induction entries using List.reverseRecOn with
  | nil => exact List.length_replicate
  | append_singleton entries entry ih =>
    rw [arrays, List.foldl_append, List.foldl_cons, List.foldl_nil, length_addEntry (covers entry (by simp))]
    exact ih fun entry member => covers entry (by simp [member])

theorem arrays_concat (entry : Entry) : arrays plan (entries ++ [entry]) = addEntry plan (arrays plan entries) entry := by
  simp [arrays]

/-- What every conversation brings is all there is. -/
theorem sum_arrays (covers : ∀ entry ∈ entries, plan.Covers entry) {measure : Cell → Int} {total : Entry → Int}
    (empty : measure ⟨0, 0, 0⟩ = 0)
    (gains : ∀ (entry : Entry) (nSpan : Int) (offset : Nat) (cell : Cell),
      measure (cell.gain entry nSpan offset) = measure cell + share (total entry) nSpan offset) :
    ((arrays plan entries).map measure).sum = (entries.map total).sum := by
  induction entries using List.reverseRecOn with
  | nil => simp [arrays, empty]
  | append_singleton entries entry ih =>
    have earlier : ∀ entry ∈ entries, plan.Covers entry := fun entry member => covers entry (by simp [member])
    rw [arrays_concat, sum_addEntry (covers entry (by simp)) (length_arrays earlier) (gains entry _), ih earlier,
      List.map_append, List.sum_append, List.map_singleton, List.sum_singleton]

open Classical in
/-- A bucket counts the conversations that meet it. -/
theorem convCount_arrays (covers : ∀ entry ∈ entries, plan.Covers entry) {index : Nat} {cell : Cell}
    (found : (arrays plan entries)[index]? = some cell) :
    cell.convCount = (entries.filter fun entry => Meets plan entry index).length := by
  induction entries using List.reverseRecOn generalizing cell with
  | nil =>
    have empty := List.eq_of_mem_replicate (List.mem_of_getElem? found)
    simp [empty]
  | append_singleton entries entry ih =>
    have earlier : ∀ entry ∈ entries, plan.Covers entry := fun entry member => covers entry (by simp [member])
    rw [arrays_concat, getElem?_addEntry (covers entry (by simp)), Option.map_eq_some_iff] at found
    obtain ⟨before, found, rfl⟩ := found
    have counted := ih earlier found
    rw [List.filter_append, List.length_append, ← counted]
    split_ifs with meets
    · simp [Cell.gain, meets]
    · simp [meets]

/-- No bucket that is left out has any traffic. -/
theorem sum_buckets (cells : List Cell) (first : Nat) {measure : Cell → Int} {value : Bucket → Int}
    (empty : measure ⟨0, 0, 0⟩ = 0)
    (reads : ∀ cell index, value ⟨plan.start index, cell.packets, cell.bytes, cell.convCount⟩ = measure cell) :
    (((cells.zipIdx first).filterMap (bucketOf plan)).map value).sum = (cells.map measure).sum := by
  induction cells generalizing first with
  | nil => rfl
  | cons cell rest ih =>
    rw [List.zipIdx_cons, List.filterMap_cons, List.map_cons, List.sum_cons]
    by_cases some_ : cell.packets ≠ 0 ∨ cell.bytes ≠ 0 ∨ cell.convCount ≠ 0
    · simp only [bucketOf, if_pos some_, List.map_cons, List.sum_cons, reads]
      rw [← ih (first + 1)]
    · have nothing : measure cell = 0 := by
        have zero : cell = ⟨0, 0, 0⟩ := by
          obtain ⟨packets, bytes, convCount⟩ := cell
          simp only [ne_eq, not_or, not_not] at some_
          obtain ⟨rfl, rfl, rfl⟩ := some_
          rfl
        rw [zero, empty]
      simp only [bucketOf, if_neg some_]
      rw [nothing, zero_add, ← ih (first + 1)]

end Run

theorem length_buckets_le (plan : Plan) (cells : List Cell) :
    (cells.zipIdx.filterMap (bucketOf plan)).length ≤ cells.length := by
  rw [← List.length_zipIdx (l := cells) (i := 0)]
  exact List.length_filterMap_le _ _

end Marlinspike.Reports.Timeline
