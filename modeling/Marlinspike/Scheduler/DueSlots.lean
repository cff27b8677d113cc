import Mathlib.Data.List.DropRight
import Mathlib.Tactic.SplitIfs
import Marlinspike.Json

/-!
The daily slots of a capture schedule and the ticks that look for them. A tick compares the
slots with the time on its own UTC day, so a slot in the last two minutes of a day is missed
if its first tick comes after midnight and finds no slot of the new day (`covered_iff`). A
live scheduler covers all slots of a schedule in every run exactly if it has none after
23:57, or one at 00:00 (`always_covered_iff`).

Instants are microseconds since the beginning of some UTC day.
-/
namespace Marlinspike.Scheduler.DueSlots

/-! ### Text -/

inductive CharKind where
  | digit (value : Fin 10)
  | space
  | other
deriving DecidableEq, Repr

/-- What is taken from Python's library: `repr`, `str` of what is no string, and which
    characters beyond ASCII are decimal digits or whitespace. -/
structure Library where
  beyondAscii : Char → CharKind
  repr : Json → String
  str : Json → String

def asciiKind (c : Char) : CharKind :=
  if c.isDigit then .digit (Fin.ofNat 10 (c.toNat - 48))
  else if c = ' ' ∨ 9 ≤ c.toNat ∧ c.toNat ≤ 13 ∨ 28 ≤ c.toNat ∧ c.toNat ≤ 31 then .space
  else .other

section Schedules
variable (library : Library)

def kind (c : Char) : CharKind := if c.toNat < 128 then asciiKind c else library.beyondAscii c

/-- `\d`. -/
def digit (c : Char) : Option Nat :=
  match kind library c with
  | .digit value => some value
  | _ => none

def isSpace (c : Char) : Bool := kind library c = .space

/-- Further digits of a number, each perhaps after an underscore. -/
def moreDigits (number : Nat) : List Char → Option Nat
  | [] => some number
  | c :: rest =>
    match digit library c with
    | some value => moreDigits (10 * number + value) rest
    | none =>
      match c, rest with
      | '_', next :: rest => (digit library next).bind fun value => moreDigits (10 * number + value) rest
      | _, _ => none

def digits : List Char → Option Nat
  | [] => none
  | c :: rest => (digit library c).bind fun value => moreDigits library value rest

/-- `int(text)`, `none` where it raises. -/
def int (text : List Char) : Option Int :=
  let text := (text.dropWhile (isSpace library)).rdropWhile (isSpace library)
  if text.head? = some '+' then (digits library text.tail).map fun n => (n : Int)
  else if text.head? = some '-' then (digits library text.tail).map fun n => -(n : Int)
  else (digits library text).map fun n => (n : Int)

def hourRe (a b : Char) : Bool :=
  (a = '0' ∨ a = '1') ∧ (digit library b).isSome ∨ a = '2' ∧ '0' ≤ b ∧ b ≤ '3'

def minuteRe (a b : Char) : Bool := ('0' ≤ a ∧ a ≤ '5') ∧ (digit library b).isSome

/-- `_TIME_UTC_RE.match`; its `$` lets a line feed follow. -/
def timeUtcRe (text : String) : Bool :=
  match text.toList with
  | [a, b, ':', c, d] | [a, b, ':', c, d, '\n'] => hourRe library a b && minuteRe library c d
  | _ => false

/-! ### Schedules -/

/-- A schedule as it is submitted, stored and read again. -/
abbrev Schedule := PyDict String Json

def allowedKeys : List String := ["enabled", "times_utc", "duration_s", "interface", "bpf_filter"]

def unknownKeys (body : Schedule) : Option String :=
  let unknown := (body.items.map Prod.fst).filter (· ∉ allowedKeys)
  if unknown ≠ [] then some ("unknown key(s): " ++ ", ".intercalate (unknown.mergeSort (· ≤ ·))) else none

def enabledError (body : Schedule) : Option String :=
  match body.get "enabled" with
  | none | some (.bool _) => none
  | some _ => some "enabled must be a boolean"

def timeError : Json → Option String
  | .str text =>
    if timeUtcRe library text then none
    else some ("times_utc entry " ++ library.repr (.str text) ++ " is not a valid HH:MM (24h) time")
  | t => some ("times_utc entry " ++ library.repr t ++ " is not a valid HH:MM (24h) time")

def timesError (body : Schedule) : Option String :=
  match body.get "times_utc" with
  | none => none
  | some (.arr (t :: times)) => (t :: times).findSome? (timeError library)
  | some _ => some "times_utc must be a non-empty list of HH:MM strings"

def durationError (body : Schedule) : Option String :=
  match body.get "duration_s" with
  | none => none
  | some (.int seconds) => if seconds ≤ 0 then some "duration_s must be a positive integer" else none
  | some _ => some "duration_s must be a positive integer"

def stringError (body : Schedule) (key : String) : Option String :=
  match body.get key with
  | none | some (.str _) => none
  | some _ => some (key ++ " must be a string")

def truthy (body : Schedule) (key : String) : Bool := (body.get key).any Json.truthy

def requiredError (body : Schedule) : Option String :=
  if truthy body "enabled" then
    if !truthy body "interface" then some "enabled schedules require interface"
    else if !truthy body "times_utc" then some "enabled schedules require times_utc" else none
  else none

/-- `_validate_schedule_body`. -/
def validateScheduleBody (body : Schedule) : Option String :=
  unknownKeys body <|> enabledError body <|> timesError library body <|> durationError body <|>
    stringError body "interface" <|> stringError body "bpf_filter" <|> requiredError body

/-- `schedule.get("times_utc") or []`, for the lists that are accepted. -/
def timesUtc (schedule : Schedule) : List Json :=
  match schedule.get "times_utc" with
  | some (.arr times) => times
  | _ => []

/-! ### Due slots -/

def minute : Nat := 60000000
def day : Nat := 86400000000
/-- `_SLOT_GRACE_S`. -/
def grace : Nat := 180000000

/-- `hh, mm = str(raw_time).split(":")`, both as `int`s. -/
def parseTime (rawTime : Json) : Option (Int × Int) :=
  let text := match rawTime with
    | .str text => text
    | t => library.str t
  match text.toList.splitOn ':' with
  | [hh, mm] => (int library hh).bind fun hh => (int library mm).map fun mm => (hh, mm)
  | _ => none

/-- `now.replace(hour=hh, minute=mm, second=0, microsecond=0)`, `none` where it raises. -/
def slotToday (now : Nat) (time : Int × Int) : Option Nat :=
  if 0 ≤ time.1 ∧ time.1 < 24 ∧ 0 ≤ time.2 ∧ time.2 < 60 then
    some (now / day * day + (60 * time.1 + time.2).toNat * minute)
  else none

/-- `_due_slot_today` on some entries, `none` where it raises. -/
def dueAmong (now : Nat) (lastTriggeredAt : Option Nat) : List Json → Option Bool
  | [] => some false
  | rawTime :: rest =>
    match parseTime library rawTime with
    | none => dueAmong now lastTriggeredAt rest
    | some time =>
      match slotToday now time with
      | none => none
      | some slot =>
        if now < slot ∨ slot + grace < now ∨ lastTriggeredAt.any (slot ≤ ·) then dueAmong now lastTriggeredAt rest
        else some true

def dueSlotToday (schedule : Schedule) (now : Nat) (lastTriggeredAt : Option Nat) : Option Bool :=
  dueAmong library now lastTriggeredAt (timesUtc schedule)

/-! ### Runs -/

/-- A tick, and whether it gets as far as to commit the stamp of a due slot. -/
structure Tick where
  now : Nat
  commits : Bool
deriving DecidableEq, Repr

/-- `capture_schedule_last_triggered_at` after a tick. -/
def trigger (schedule : Schedule) (last : Option Nat) (tick : Tick) : Option Nat :=
  if dueSlotToday library schedule tick.now last = some true ∧ tick.commits then some tick.now else last

/-- The stamp that a tick finds. -/
def lastBefore (schedule : Schedule) (initial : Option Nat) (ticks : List Tick) (index : Nat) : Option Nat :=
  (ticks.take index).foldl (trigger library schedule) initial

/-- The ticks of a scheduler that lives: the gaps between them are shorter than the grace window. -/
def Live (ticks : List Tick) : Prop :=
  ticks.IsChain fun tick next => tick.now ≤ next.now ∧ next.now < tick.now + grace

def minuteOf (rawTime : Json) : Option Nat :=
  (parseTime library rawTime).map fun time => (60 * time.1 + time.2).toNat

/-- The minutes of the day that a schedule names. -/
def minutes (schedule : Schedule) : List Nat := (timesUtc schedule).filterMap (minuteOf library)

/-- A slot on some day. -/
def IsSlot (schedule : Schedule) (slot : Nat) : Prop := ∃ m ∈ minutes library schedule, ∃ d, slot = d * day + m * minute

/-- Some tick in the grace window of the slot finds a slot due, or a trigger at or after this one. -/
def Covered (schedule : Schedule) (initial : Option Nat) (ticks : List Tick) (slot : Nat) : Prop :=
  ∃ index tick, ticks[index]? = some tick ∧ slot ≤ tick.now ∧ tick.now ≤ slot + grace ∧
    (dueSlotToday library schedule tick.now (lastBefore library schedule initial ticks index) = some true ∨
      ∃ stamp ∈ lastBefore library schedule initial ticks index, slot ≤ stamp)

/-- Some tick in the grace window comes after a slot of its own day. -/
def Seen (schedule : Schedule) (ticks : List Tick) (slot : Nat) : Prop :=
  ∃ tick ∈ ticks, slot ≤ tick.now ∧ tick.now ≤ slot + grace ∧ ∃ m ∈ minutes library schedule, m * minute ≤ tick.now % day

end Schedules

/-! ### Accepted schedules -/

section Accepted
variable {library : Library}

theorem digit_ascii {c : Char} (low : 48 ≤ c.toNat) (high : c.toNat ≤ 57) : digit library c = some (c.toNat - 48) := by
  have ascii : c.isDigit = true := by
    simp only [Char.isDigit, Bool.and_eq_true, decide_eq_true_eq]
    exact ⟨low, high⟩
  unfold digit kind asciiKind
  rw [if_pos (by omega), if_pos ascii]
  simp only [Fin.val_ofNat, Option.some.injEq]
  omega

theorem digit_spec {c : Char} {value : Nat} (found : digit library c = some value) :
    value < 10 ∧ isSpace library c = false ∧ c ≠ '+' ∧ c ≠ '-' ∧ c ≠ ':' := by
  unfold digit at found
  cases kinds : kind library c with
  | digit d =>
    rw [kinds] at found
    obtain rfl := Option.some.inj found
    refine ⟨d.isLt, by simp [isSpace, kinds], ?_, ?_, ?_⟩ <;> rintro rfl <;> exact absurd kinds (by simp [kind, asciiKind])
  | space => rw [kinds] at found; cases found
  | other => rw [kinds] at found; cases found

/-- Two digits are a number, with or without a line feed after them. -/
theorem int_pair {c d : Char} {v w : Nat} (first : digit library c = some v) (second : digit library d = some w)
    {tail : List Char} (end_ : tail = [] ∨ tail = ['\n']) : int library (c :: d :: tail) = some (10 * v + w : Nat) := by
  obtain ⟨-, notSpace, notPlus, notMinus, -⟩ := digit_spec first
  obtain ⟨-, notSpace', -⟩ := digit_spec second
  have lineFeed : isSpace library '\n' = true := by simp [isSpace, kind, asciiKind]
  have stripped : ((c :: d :: tail).dropWhile (isSpace library)).rdropWhile (isSpace library) = [c, d] := by
    rw [List.dropWhile_cons_of_neg (by simp [notSpace])]
    rcases end_ with rfl | rfl
    · exact List.rdropWhile_concat_neg (p := isSpace library) [c] d (by simp [notSpace'])
    · exact (List.rdropWhile_concat_pos (p := isSpace library) [c, d] '\n' lineFeed).trans
        (List.rdropWhile_concat_neg (p := isSpace library) [c] d (by simp [notSpace']))
  unfold int
  simp only [stripped, List.head?_cons, Option.some.injEq, notPlus, notMinus, if_false]
  simp [digits, moreDigits, first, second]

theorem hourRe_spec {a b : Char} (accepted : hourRe library a b = true) :
    ∃ v w, digit library a = some v ∧ digit library b = some w ∧ 10 * v + w < 24 := by
  simp only [hourRe, decide_eq_true_eq] at accepted
  rcases accepted with ⟨rfl | rfl, decimal⟩ | ⟨rfl, low, high⟩
  · obtain ⟨w, found⟩ := Option.isSome_iff_exists.mp decimal
    have small := (digit_spec found).1
    exact ⟨0, w, digit_ascii (by decide) (by decide), found, by omega⟩
  · obtain ⟨w, found⟩ := Option.isSome_iff_exists.mp decimal
    have small := (digit_spec found).1
    exact ⟨1, w, digit_ascii (by decide) (by decide), found, by omega⟩
  · have bound : b.toNat ≤ 51 := high
    exact ⟨2, _, digit_ascii (by decide) (by decide), digit_ascii low (by omega), by omega⟩

theorem minuteRe_spec {a b : Char} (accepted : minuteRe library a b = true) :
    ∃ v w, digit library a = some v ∧ digit library b = some w ∧ 10 * v + w < 60 := by
  simp only [minuteRe, decide_eq_true_eq] at accepted
  obtain ⟨⟨low, high⟩, decimal⟩ := accepted
  obtain ⟨w, found⟩ := Option.isSome_iff_exists.mp decimal
  have small := (digit_spec found).1
  have bound : a.toNat ≤ 53 := high
  exact ⟨_, w, digit_ascii low (by omega), found, by omega⟩

/-- An entry that parses to a time of the day. -/
def Timely (library : Library) (rawTime : Json) : Prop :=
  ∃ hh mm : Nat, parseTime library rawTime = some ((hh : Int), (mm : Int)) ∧ hh < 24 ∧ mm < 60

theorem timely_of_chars {a b c d : Char} {tail : List Char} (end_ : tail = [] ∨ tail = ['\n']) {text : String}
    (chars : text.toList = a :: b :: ':' :: c :: d :: tail) (hour : hourRe library a b = true)
    (minute_ : minuteRe library c d = true) : Timely library (.str text) := by
  obtain ⟨v, w, first, second, hours⟩ := hourRe_spec hour
  obtain ⟨x, y, third, fourth, minutes⟩ := minuteRe_spec minute_
  refine ⟨10 * v + w, 10 * x + y, ?_, hours, minutes⟩
  have colon {e : Char} {n : Nat} (found : digit library e = some n) : e ≠ ':' := (digit_spec found).2.2.2.2
  have left : ':' ∉ [a, b] := by simp [(colon first).symm, (colon second).symm]
  have right : ':' ∉ c :: d :: tail := by
    rcases end_ with rfl | rfl <;> simp [(colon third).symm, (colon fourth).symm]
  have parts : (a :: b :: ':' :: c :: d :: tail).splitOn ':' = [[a, b], c :: d :: tail] := by
    rw [← List.splitOn_eq_singleton right]
    exact List.splitOn_append_cons_self_of_not_mem left _
  unfold parseTime
  simp only [chars, parts]
  rw [int_pair first second (.inl rfl), int_pair third fourth end_]
  rfl

theorem timely_of_timeUtcRe {text : String} (accepted : timeUtcRe library text = true) : Timely library (.str text) := by
  unfold timeUtcRe at accepted
  split at accepted
  · rename_i a b c d chars
    rw [Bool.and_eq_true] at accepted
    exact timely_of_chars (.inl rfl) chars accepted.1 accepted.2
  · rename_i a b c d chars
    rw [Bool.and_eq_true] at accepted
    exact timely_of_chars (.inr rfl) chars accepted.1 accepted.2
  · cases accepted

/-- In an accepted schedule, every entry is the time of a slot. -/
theorem timely_of_accepted {schedule : Schedule} (accepted : validateScheduleBody library schedule = none) :
    ∀ rawTime ∈ timesUtc schedule, Timely library rawTime := by
  have checked : timesError library schedule = none := by
    simp only [validateScheduleBody, Option.orElse_eq_orElse, Option.orElse_eq_or, Option.or_eq_none_iff] at accepted
    tauto
  intro rawTime member
  unfold timesUtc at member
  unfold timesError at checked
  cases found : schedule.get "times_utc" with
  | none => simp [found] at member
  | some value =>
    cases value with
    | arr times =>
      cases times with
      | nil => simp [found] at member
      | cons t times =>
        simp only [found] at member checked
        have fine := List.findSome?_eq_none_iff.mp checked rawTime member
        cases rawTime with
        | str text =>
          by_cases re : timeUtcRe library text = true
          · exact timely_of_timeUtcRe re
          · simp [timeError, re] at fine
        | _ => simp [timeError] at fine
    | _ => simp [found] at member

end Accepted

/-! ### A tick -/

section Ticks
variable {library : Library} {times : List Json} {now : Nat} {last : Option Nat}

/-- The slot of an entry is due, unless a trigger has been recorded since. -/
def Due (now : Nat) (last : Option Nat) (slot : Nat) : Prop :=
  slot ≤ now ∧ now ≤ slot + grace ∧ ∀ stamp ∈ last, stamp < slot

theorem slotToday_eq {hh mm : Nat} (hours : hh < 24) (minutes : mm < 60) (now : Nat) :
    slotToday now ((hh : Int), (mm : Int)) = some (now / day * day + (60 * hh + mm) * minute) := by
  unfold slotToday
  rw [if_pos (by simp only; omega)]
  congr 3

/-- The slot of the day of a tick. -/
def onDayOf (now m : Nat) : Nat := now / day * day + m * minute

theorem dueAmong_cons {rawTime : Json} (timely : Timely library rawTime) (rest : List Json) (now : Nat)
    (last : Option Nat) :
    ∃ m < 1440, minuteOf library rawTime = some m ∧
      (Due now last (onDayOf now m) ∧ dueAmong library now last (rawTime :: rest) = some true ∨
        ¬ Due now last (onDayOf now m) ∧
          dueAmong library now last (rawTime :: rest) = dueAmong library now last rest) := by
  obtain ⟨hh, mm, parsed, hours, minutes⟩ := timely
  have slot := slotToday_eq hours minutes now
  refine ⟨60 * hh + mm, by omega, ?_, ?_⟩
  · rw [minuteOf, parsed, Option.map_some]
    congr 1
  · rw [dueAmong]
    simp only [parsed, slot]
    unfold Due onDayOf
    split_ifs with early
    · refine .inr ⟨?_, rfl⟩
      rintro ⟨since, until_, fresh⟩
      rcases early with before | missed | fired
      · omega
      · omega
      · cases last with
        | none => cases fired
        | some stamp =>
          rw [Option.any_some, decide_eq_true_eq] at fired
          exact absurd fired (Nat.not_le.mpr (fresh stamp rfl))
    · simp only [not_or, Nat.not_lt] at early
      refine .inl ⟨⟨early.1, early.2.1, ?_⟩, rfl⟩
      rintro stamp ⟨⟩
      rw [Option.any_some, decide_eq_true_eq] at early
      exact Nat.not_le.mp early.2.2

theorem dueAmong_spec (timely : ∀ rawTime ∈ times, Timely library rawTime) (now : Nat) (last : Option Nat) :
    ∃ due, dueAmong library now last times = some due ∧
      (due = true ↔ ∃ m ∈ times.filterMap (minuteOf library), Due now last (onDayOf now m)) := by
  induction times with
  | nil => exact ⟨false, rfl, by simp⟩
  | cons rawTime rest ih =>
    obtain ⟨later, among, due_iff⟩ := ih fun rawTime member => timely rawTime (List.mem_cons_of_mem _ member)
    obtain ⟨m, -, parsed, due | notDue⟩ := dueAmong_cons (timely rawTime List.mem_cons_self) rest now last
    · exact ⟨true, due.2, by simp [parsed, due.1]⟩
    · exact ⟨later, notDue.2.trans among, by simp [parsed, notDue.1, due_iff]⟩

end Ticks

/-! ### All ticks -/

section Runs
variable {library : Library} {schedule : Schedule} {initial : Option Nat} {ticks : List Tick}

theorem dueSlotToday_iff (timely : ∀ rawTime ∈ timesUtc schedule, Timely library rawTime) (now : Nat) (last : Option Nat) :
    dueSlotToday library schedule now last = some true ↔
      ∃ m ∈ minutes library schedule, Due now last (onDayOf now m) := by
  obtain ⟨due, among, due_iff⟩ := dueAmong_spec timely now last
  rw [dueSlotToday, among, Option.some.injEq, due_iff]
  rfl

theorem minutes_lt (timely : ∀ rawTime ∈ timesUtc schedule, Timely library rawTime) {m : Nat}
    (named : m ∈ minutes library schedule) : m < 1440 := by
  obtain ⟨rawTime, member, parsed⟩ := List.mem_filterMap.mp named
  obtain ⟨m', small, parsed', -⟩ := dueAmong_cons (timely rawTime member) [] 0 none
  rw [parsed] at parsed'
  obtain rfl := Option.some.inj parsed'
  exact small

/-- The slot of today that a due slot is. -/
theorem onDayOf_le {now m : Nat} : onDayOf now m ≤ now ↔ m * minute ≤ now % day := by
  have split := Nat.div_add_mod now day
  unfold onDayOf
  rw [Nat.mul_comm (now / day) day]
  omega

/-- A due slot is after the last trigger, so that the stamp never goes back. -/
theorem trigger_mono (timely : ∀ rawTime ∈ timesUtc schedule, Timely library rawTime) (stamp : Nat) (tick : Tick) :
    ∃ later ∈ trigger library schedule (some stamp) tick, stamp ≤ later := by
  unfold trigger
  split_ifs with triggers
  · obtain ⟨m, -, since, -, fresh⟩ := (dueSlotToday_iff timely _ _).mp triggers.1
    exact ⟨tick.now, rfl, (fresh stamp rfl).le.trans since⟩
  · exact ⟨stamp, rfl, le_refl _⟩

theorem lastBefore_succ {index : Nat} {tick : Tick} (here : ticks[index]? = some tick) :
    lastBefore library schedule initial ticks (index + 1) =
      trigger library schedule (lastBefore library schedule initial ticks index) tick := by
  unfold lastBefore
  rw [List.take_add_one, here, List.foldl_append]
  rfl

theorem lastBefore_beyond {index : Nat} (beyond : ticks[index]? = none) :
    lastBefore library schedule initial ticks (index + 1) = lastBefore library schedule initial ticks index := by
  unfold lastBefore
  rw [List.take_add_one, beyond]
  simp

theorem lastBefore_mono (timely : ∀ rawTime ∈ timesUtc schedule, Timely library rawTime) {i j stamp : Nat} (le : i ≤ j)
    (found : stamp ∈ lastBefore library schedule initial ticks i) :
    ∃ later ∈ lastBefore library schedule initial ticks j, stamp ≤ later := by
  induction j, le using Nat.le_induction with
  | base => exact ⟨stamp, found, le_refl _⟩
  | succ j _ ih =>
    obtain ⟨later, found, le⟩ := ih
    cases here : ticks[j]? with
    | none =>
      rw [lastBefore_beyond here]
      exact ⟨later, found, le⟩
    | some tick =>
      rw [lastBefore_succ here, found]
      obtain ⟨latest, found, le'⟩ := trigger_mono timely later tick
      exact ⟨latest, found, le.trans le'⟩

/-- A stamp is the initial one or that of an earlier tick that has found a slot due. -/
theorem lastBefore_cases {j stamp : Nat} (found : stamp ∈ lastBefore library schedule initial ticks j) :
    initial = some stamp ∨ ∃ i < j, ∃ tick, ticks[i]? = some tick ∧ tick.now = stamp ∧
      dueSlotToday library schedule tick.now (lastBefore library schedule initial ticks i) = some true := by
  induction j with
  | zero => exact .inl found
  | succ j ih =>
    have earlier (found : stamp ∈ lastBefore library schedule initial ticks j) :
        initial = some stamp ∨ ∃ i < j + 1, ∃ tick, ticks[i]? = some tick ∧ tick.now = stamp ∧
          dueSlotToday library schedule tick.now (lastBefore library schedule initial ticks i) = some true := by
      rcases ih found with first | ⟨i, less, rest⟩
      · exact .inl first
      · exact .inr ⟨i, Nat.lt_succ_of_lt less, rest⟩
    cases here : ticks[j]? with
    | none =>
      rw [lastBefore_beyond here] at found
      exact earlier found
    | some tick =>
      rw [lastBefore_succ here, trigger] at found
      split_ifs at found with triggers
      · exact .inr ⟨j, Nat.lt_succ_self j, tick, here, Option.some.inj found, triggers.1⟩
      · exact earlier found

theorem now_le_now (live : Live ticks) {i j : Nat} {one other : Tick} (le : i ≤ j) (here : ticks[i]? = some one)
    (there : ticks[j]? = some other) : one.now ≤ other.now := by
  have ordered : ticks.Pairwise fun tick next => tick.now ≤ next.now :=
    List.isChain_iff_pairwise.mp (live.imp fun _ _ step => step.1)
  obtain ⟨inside, rfl⟩ := List.getElem?_eq_some_iff.mp here
  obtain ⟨inside', rfl⟩ := List.getElem?_eq_some_iff.mp there
  rcases Nat.eq_or_lt_of_le le with rfl | less
  · exact le_refl _
  · exact List.pairwise_iff_getElem.mp ordered i j inside inside' less

theorem grace_pos : 0 < grace := by decide

theorem exists_tick_of_head {head : Tick} {rest : List Tick} (live : Live (head :: rest)) {instant : Nat}
    (before : head.now ≤ instant) (last : ∃ tick ∈ head :: rest, instant ≤ tick.now) :
    ∃ tick ∈ head :: rest, instant ≤ tick.now ∧ tick.now < instant + grace := by
  induction rest generalizing head with
  | nil =>
    obtain ⟨tick, member, after⟩ := last
    obtain rfl := List.mem_singleton.mp member
    have positive := grace_pos
    exact ⟨tick, member, after, by omega⟩
  | cons next rest ih =>
    obtain ⟨⟨-, gap⟩, live⟩ := List.isChain_cons_cons.mp live
    by_cases exact_ : instant ≤ head.now
    · have positive := grace_pos
      exact ⟨head, List.mem_cons_self, exact_, by omega⟩
    · by_cases later : next.now ≤ instant
      · have last' : ∃ tick ∈ next :: rest, instant ≤ tick.now := by
          obtain ⟨tick, member, after⟩ := last
          rcases List.mem_cons.mp member with rfl | member
          · exact absurd after exact_
          · exact ⟨tick, member, after⟩
        obtain ⟨tick, member, inside⟩ := ih live later last'
        exact ⟨tick, List.mem_cons_of_mem _ member, inside⟩
      · exact ⟨next, by simp, by omega, by omega⟩

/-- The first tick at or after an instant is in its grace window. -/
theorem exists_tick (live : Live ticks) {instant : Nat} (first : ∃ tick ∈ ticks, tick.now ≤ instant)
    (last : ∃ tick ∈ ticks, instant ≤ tick.now) :
    ∃ tick ∈ ticks, instant ≤ tick.now ∧ tick.now < instant + grace := by
  obtain ⟨earlier, member, before⟩ := first
  cases ticks with
  | nil => cases member
  | cons head rest =>
    obtain ⟨index, there⟩ := List.getElem?_of_mem member
    exact exists_tick_of_head live ((now_le_now live (Nat.zero_le index) rfl there).trans before) last

/-- At a tick in the window of a slot, one of its own day is due or has been triggered. -/
theorem due_or_triggered (timely : ∀ rawTime ∈ timesUtc schedule, Timely library rawTime) {slot now m : Nat}
    {last : Option Nat} (named : m ∈ minutes library schedule) (after : slot ≤ onDayOf now m)
    (since : onDayOf now m ≤ now) (until_ : now ≤ onDayOf now m + grace) :
    dueSlotToday library schedule now last = some true ∨ ∃ stamp ∈ last, slot ≤ stamp := by
  by_cases triggered : ∃ stamp ∈ last, slot ≤ stamp
  · exact .inr triggered
  · refine .inl ((dueSlotToday_iff timely now last).mpr ⟨m, named, since, until_, fun stamp found => ?_⟩)
    by_contra late
    exact triggered ⟨stamp, found, after.trans (Nat.not_lt.mp late)⟩

theorem covered_of_seen (timely : ∀ rawTime ∈ timesUtc schedule, Timely library rawTime) {slot : Nat}
    (isSlot : IsSlot library schedule slot) (seen : Seen library schedule ticks slot) :
    Covered library schedule initial ticks slot := by
  obtain ⟨tick, member, after, within, m, named, reached⟩ := seen
  obtain ⟨index, here⟩ := List.getElem?_of_mem member
  refine ⟨index, tick, here, after, within, ?_⟩
  have reached := onDayOf_le.mpr reached
  by_cases sameDay : tick.now / day = slot / day
  · obtain ⟨own, named, d, rfl⟩ := isSlot
    have small := minutes_lt timely named
    have of_day : onDayOf tick.now own = d * day + own * minute := by
      have inDay : own * minute < day := by unfold minute day; omega
      rw [onDayOf, sameDay, Nat.mul_comm d, Nat.mul_add_div (by decide), Nat.div_eq_of_lt inDay, Nat.add_zero,
        Nat.mul_comm]
    exact due_or_triggered timely named of_day.ge (of_day.le.trans after) (within.trans (by rw [of_day]))
  · -- midnight is between the slot and the tick
    have later : slot / day < tick.now / day :=
      Nat.lt_of_le_of_ne (Nat.div_le_div_right after) (Ne.symm sameDay)
    have midnight : slot ≤ tick.now / day * day := by
      have next := Nat.mul_le_mul_right day later
      have inside := Nat.lt_div_mul_add (a := slot) (b := day) (by decide)
      rw [Nat.succ_mul] at next
      omega
    have after_midnight : tick.now / day * day ≤ onDayOf tick.now m := Nat.le_add_right _ _
    exact due_or_triggered timely named (midnight.trans after_midnight) reached (by omega)

/-- In a run of a live scheduler, a slot is covered exactly if it is seen, or was already
behind the stamp that the run began with. -/
theorem covered_iff (timely : ∀ rawTime ∈ timesUtc schedule, Timely library rawTime) (live : Live ticks) {slot : Nat}
    (isSlot : IsSlot library schedule slot) (first : ∃ tick ∈ ticks, tick.now ≤ slot)
    (last : ∃ tick ∈ ticks, slot ≤ tick.now) :
    Covered library schedule initial ticks slot ↔
      Seen library schedule ticks slot ∨ ∃ stamp ∈ initial, slot ≤ stamp := by
  constructor
  · rintro ⟨index, tick, here, after, within, due | ⟨stamp, found, late⟩⟩
    · obtain ⟨m, named, since, -⟩ := (dueSlotToday_iff timely _ _).mp due
      exact .inl ⟨tick, List.mem_of_getElem? here, after, within, m, named, onDayOf_le.mp since⟩
    · rcases lastBefore_cases found with rfl | ⟨i, less, earlier, there, rfl, due⟩
      · exact .inr ⟨stamp, rfl, late⟩
      · obtain ⟨m, named, since, -⟩ := (dueSlotToday_iff timely _ _).mp due
        have before := now_le_now live less.le there here
        exact .inl ⟨earlier, List.mem_of_getElem? there, late, before.trans within, m, named, onDayOf_le.mp since⟩
  · rintro (seen | ⟨stamp, rfl, late⟩)
    · exact covered_of_seen timely isSlot seen
    · obtain ⟨tick, member, after, within⟩ := exists_tick live first last
      obtain ⟨index, here⟩ := List.getElem?_of_mem member
      obtain ⟨later, found, le⟩ := lastBefore_mono timely (Nat.zero_le index)
        (show stamp ∈ lastBefore library schedule (some stamp) ticks 0 from rfl)
      exact ⟨index, tick, here, after, within.le, .inr ⟨later, found, late.trans le⟩⟩

/-- A slot is not due once a trigger at or after it has been recorded. -/
theorem not_due_again (timely : ∀ rawTime ∈ timesUtc schedule, Timely library rawTime) {rawTime : Json}
    (member : rawTime ∈ timesUtc schedule) {time : Int × Int} (parsed : parseTime library rawTime = some time)
    {index now slot : Nat} (today : slotToday now time = some slot)
    (triggered : ∃ i ≤ index, ∃ stamp ∈ lastBefore library schedule initial ticks i, slot ≤ stamp) :
    dueAmong library now (lastBefore library schedule initial ticks index) [rawTime] = some false := by
  obtain ⟨hh, mm, parsed', hours, small⟩ := timely rawTime member
  obtain rfl := Option.some.inj (parsed.symm.trans parsed')
  rw [slotToday_eq hours small] at today
  obtain rfl := Option.some.inj today
  obtain ⟨i, le, stamp, found, late⟩ := triggered
  obtain ⟨later, found, le⟩ := lastBefore_mono timely le found
  obtain ⟨m, -, minute_, ⟨due, -⟩ | ⟨-, skipped⟩⟩ := dueAmong_cons (timely rawTime member) [] now
    (lastBefore library schedule initial ticks index)
  · have same : m = 60 * hh + mm := by
      rw [minuteOf, parsed, Option.map_some] at minute_
      exact (Option.some.inj minute_).symm
    subst same
    exact absurd (due.2.2 later found) (Nat.not_lt.mpr (late.trans le))
  · exact skipped

/-! ### All runs -/

/-- Every slot between the first and the last tick of a live scheduler is covered. -/
def AlwaysCovered (library : Library) (schedule : Schedule) : Prop :=
  ∀ (initial : Option Nat) (ticks : List Tick), Live ticks → ∀ slot, IsSlot library schedule slot →
    (∃ tick ∈ ticks, tick.now ≤ slot) → (∃ tick ∈ ticks, slot ≤ tick.now) →
      Covered library schedule initial ticks slot

theorem reached_of_early {d m now : Nat} (early : m ≤ 1437) (after : d * day + m * minute ≤ now)
    (within : now < d * day + m * minute + grace) : m * minute ≤ now % day := by
  obtain ⟨r, rfl⟩ := Nat.exists_eq_add_of_le ((Nat.le_add_right _ _).trans after)
  have inDay : r < day := by
    have bound := Nat.mul_le_mul_right minute early
    have window : 1437 * minute + grace = day := by decide
    omega
  rw [Nat.mul_add_mod_of_lt inDay]
  omega

theorem alwaysCovered_of_early (timely : ∀ rawTime ∈ timesUtc schedule, Timely library rawTime)
    (early : (∀ m ∈ minutes library schedule, m ≤ 1437) ∨ 0 ∈ minutes library schedule) :
    AlwaysCovered library schedule := by
  intro initial ticks live slot isSlot first last
  obtain ⟨tick, member, after, within⟩ := exists_tick live first last
  apply covered_of_seen timely isSlot
  refine ⟨tick, member, after, within.le, ?_⟩
  rcases early with early | midnight
  · -- the window of the slot ends before midnight
    obtain ⟨m, named, d, rfl⟩ := isSlot
    exact ⟨m, named, reached_of_early (early m named) after within⟩
  · exact ⟨0, midnight, by omega⟩

/-- Ticks at 23:57:30, 00:00:20 and 00:03:10. -/
def aroundMidnight : List Tick := [⟨86250000000, true⟩, ⟨86420000000, true⟩, ⟨86590000000, true⟩]

theorem live_aroundMidnight : Live aroundMidnight := by
  unfold Live aroundMidnight grace
  simp

theorem early_of_alwaysCovered (timely : ∀ rawTime ∈ timesUtc schedule, Timely library rawTime)
    (always : AlwaysCovered library schedule) :
    (∀ m ∈ minutes library schedule, m ≤ 1437) ∨ 0 ∈ minutes library schedule := by
  by_contra missed
  simp only [not_or, not_forall, not_le] at missed
  obtain ⟨⟨m, named, late⟩, noMidnight⟩ := missed
  have small := minutes_lt timely named
  have isSlot : IsSlot library schedule (m * minute) := ⟨m, named, 0, by omega⟩
  have first : ∃ tick ∈ aroundMidnight, tick.now ≤ m * minute :=
    ⟨⟨86250000000, true⟩, by simp [aroundMidnight], by simp only [minute]; omega⟩
  have last : ∃ tick ∈ aroundMidnight, m * minute ≤ tick.now :=
    ⟨⟨86590000000, true⟩, by simp [aroundMidnight], by simp only [minute]; omega⟩
  have covered := always none aroundMidnight live_aroundMidnight _ isSlot first last
  rcases (covered_iff timely live_aroundMidnight isSlot first last).mp covered with seen | ⟨_, none_, -⟩
  · obtain ⟨tick, member, after, within, m', named', reached⟩ := seen
    have zero : m' = 0 := by
      simp only [aroundMidnight, List.mem_cons, List.not_mem_nil, or_false] at member
      unfold minute day grace at *
      rcases member with rfl | rfl | rfl <;> simp only at after within reached <;> omega
    exact noMidnight (zero ▸ named')
  · cases none_

/-- Which slots of an accepted schedule are covered in a run of a live scheduler, and for
which schedules all of them are in all runs. No slot is due after it has been triggered. -/
theorem due_slots_covered_iff (library : Library) (schedule : Schedule)
    (accepted : validateScheduleBody library schedule = none) :
    (∀ (initial : Option Nat) (ticks : List Tick), Live ticks →
      (∀ slot, IsSlot library schedule slot → (∃ tick ∈ ticks, tick.now ≤ slot) → (∃ tick ∈ ticks, slot ≤ tick.now) →
        (Covered library schedule initial ticks slot ↔
          Seen library schedule ticks slot ∨ ∃ stamp ∈ initial, slot ≤ stamp)) ∧
      ∀ index tick, ticks[index]? = some tick → ∀ rawTime ∈ timesUtc schedule, ∀ time slot,
        parseTime library rawTime = some time → slotToday tick.now time = some slot →
        (∃ i ≤ index, ∃ stamp ∈ lastBefore library schedule initial ticks i, slot ≤ stamp) →
        dueAmong library tick.now (lastBefore library schedule initial ticks index) [rawTime] = some false) ∧
    (AlwaysCovered library schedule ↔
      (∀ m ∈ minutes library schedule, m ≤ 1437) ∨ 0 ∈ minutes library schedule) := by
  have timely := timely_of_accepted accepted
  refine ⟨fun initial ticks live => ⟨?_, ?_⟩, early_of_alwaysCovered timely, alwaysCovered_of_early timely⟩
  · intro slot isSlot first last
    exact covered_iff timely live isSlot first last
  · intro index tick _ rawTime member time slot parsed today triggered
    exact not_due_again timely member parsed today triggered

end Runs

/-! ### A slot before midnight -/

def plain : Library := ⟨fun _ => .other, fun _ => "", fun _ => ""⟩

def lateSchedule : Schedule where
  items := [("enabled", .bool true), ("times_utc", .arr [.str "23:59"]), ("interface", .str "eth0")]
  distinct := by decide

theorem lateSchedule_accepted : validateScheduleBody plain lateSchedule = none := by rfl

theorem minutes_lateSchedule : minutes plain lateSchedule = [1439] := by rfl

/-- Ticks 170 seconds apart around midnight: the slot at 23:59 is covered by none of them. -/
theorem late_slot_missed :
    ¬ ∀ (library : Library) (schedule : Schedule), validateScheduleBody library schedule = none →
      truthy schedule "enabled" = true → AlwaysCovered library schedule := by
  intro covered
  have always := covered plain lateSchedule lateSchedule_accepted rfl
  rcases early_of_alwaysCovered (timely_of_accepted lateSchedule_accepted) always with early | midnight
  · rw [minutes_lateSchedule] at early
    exact absurd (early 1439 List.mem_cons_self) (by decide)
  · rw [minutes_lateSchedule] at midnight
    exact absurd midnight (by decide)

theorem due_slots_covered_iff_late : validateScheduleBody plain lateSchedule = none ∧
    (AlwaysCovered plain lateSchedule ↔
      (∀ m ∈ minutes plain lateSchedule, m ≤ 1437) ∨ 0 ∈ minutes plain lateSchedule) :=
  ⟨lateSchedule_accepted, (due_slots_covered_iff plain lateSchedule lateSchedule_accepted).2⟩

end Marlinspike.Scheduler.DueSlots
