import Mathlib.Algebra.Order.Ring.Rat
import Mathlib.Data.List.Induction
import Mathlib.Tactic.Linarith
import Marlinspike.PyDict

/-!
The limit on enroll and auth attempts. The table keeps, for each address, the attempts of its
last minute as far as anyone will ask for them (`Tracks`), so an attempt is let through
exactly if its address has made fewer than twenty in the minute before, and to clean the
table up makes no difference (`rate_limit_bounds`).
-/
namespace Marlinspike.Gateway.RateLimit

def authAttemptsPerWindow : Nat := 20

def authWindowS : Rat := 60

/-- `_auth_attempts`, by address. -/
abbrev AuthAttempts := PyDict String (List Rat)

structure Attempt where
  peerIp : String
  now : Rat
deriving DecidableEq, Repr

/-- The attempts that still count. -/
def inWindow (now : Rat) (times : List Rat) : List Rat := times.filter fun t => now - t < authWindowS

/-- The table with one more attempt of an address. -/
def noted (table : AuthAttempts) (peerIp : String) (now : Rat) : List Rat :=
  inWindow now ((table.get peerIp).getD []) ++ [now]

/-- The expired windows of all addresses are dropped. -/
def expired (table : AuthAttempts) (now : Rat) : AuthAttempts :=
  table.filter fun times => times.any fun t => now - t < authWindowS

def cleanUp (table : AuthAttempts) (now : Rat) : AuthAttempts :=
  if table.items.length > 10000 then expired table now else table

/-- `_auth_rate_limited`, with its clean-up, and the table after it. -/
def authRateLimited (clean : AuthAttempts → Rat → AuthAttempts) (table : AuthAttempts) (attempt : Attempt) :
    Bool × AuthAttempts :=
  let attempts := noted table attempt.peerIp attempt.now
  (decide (attempts.length > authAttemptsPerWindow), clean (table.set attempt.peerIp attempts) attempt.now)

/-! ### Any number of attempts -/

section Runs
variable (clean : AuthAttempts → Rat → AuthAttempts)

/-- The table and the answers so far, after another attempt. -/
def answer (state : AuthAttempts × List Bool) (attempt : Attempt) : AuthAttempts × List Bool :=
  let (limited, table) := authRateLimited clean state.1 attempt
  (table, state.2 ++ [limited])

def run (attempts : List Attempt) : AuthAttempts × List Bool := attempts.foldl (answer clean) (PyDict.empty, [])

def answers (attempts : List Attempt) : List Bool := (run clean attempts).2

/-- When the attempts of an address were made that were let through. -/
def letThrough (attempts : List Attempt) (peerIp : String) : List Rat :=
  ((attempts.zip (answers clean attempts)).filter fun item => item.1.peerIp = peerIp && !item.2).map (·.1.now)

end Runs

/-- When an address has made its attempts. -/
def timesOf (attempts : List Attempt) (peerIp : String) : List Rat :=
  (attempts.filter (·.peerIp = peerIp)).map (·.now)

/-- The clock does not go back. -/
def Ordered (attempts : List Attempt) : Prop := (attempts.map (·.now)).Pairwise (· ≤ ·)

/-- The table has all that later attempts will ask for. -/
def Tracks (table : AuthAttempts) (attempts : List Attempt) : Prop :=
  ∀ peerIp now, (∀ earlier ∈ attempts, earlier.now ≤ now) →
    inWindow now ((table.get peerIp).getD []) = inWindow now (timesOf attempts peerIp)

/-- A clean-up that takes nothing that is still in a window. -/
def Harmless (clean : AuthAttempts → Rat → AuthAttempts) : Prop :=
  ∀ table now later peerIp, now ≤ later →
    inWindow later (((clean table now).get peerIp).getD []) = inWindow later ((table.get peerIp).getD [])

theorem inWindow_inWindow {now later : Rat} (after : now ≤ later) (times : List Rat) :
    inWindow later (inWindow now times) = inWindow later times := by
  unfold inWindow
  rw [List.filter_filter]
  apply List.filter_congr
  intro t _
  by_cases late : later - t < authWindowS
  · have early : now - t < authWindowS := by linarith
    simp [late, early]
  · simp [late]

theorem harmless_expired : Harmless expired := by
  intro table now later peerIp after
  rw [expired, PyDict.get_filter]
  cases found : table.get peerIp with
  | none => rfl
  | some times =>
    by_cases live : (times.any fun t => now - t < authWindowS) = true
    · rw [Option.filter_some, if_pos live]
    · rw [Option.filter_some, if_neg live]
      symm
      apply List.filter_eq_nil_iff.mpr
      intro t member inside
      refine live (List.any_eq_true.mpr ⟨t, member, ?_⟩)
      simp only [decide_eq_true_eq] at inside ⊢
      linarith

theorem harmless_cleanUp : Harmless cleanUp := by
  intro table now later peerIp after
  unfold cleanUp
  split_ifs
  · exact harmless_expired table now later peerIp after
  · rfl

theorem harmless_none : Harmless fun table _ => table := fun _ _ _ _ _ => rfl

section Tracking
variable {clean : AuthAttempts → Rat → AuthAttempts} {attempts : List Attempt}

theorem timesOf_concat (attempts : List Attempt) (attempt : Attempt) (peerIp : String) :
    timesOf (attempts ++ [attempt]) peerIp =
      timesOf attempts peerIp ++ if attempt.peerIp = peerIp then [attempt.now] else [] := by
  unfold timesOf
  rw [List.filter_append, List.map_append]
  by_cases own : attempt.peerIp = peerIp <;> simp [own]

theorem run_concat (attempts : List Attempt) (attempt : Attempt) :
    run clean (attempts ++ [attempt]) = answer clean (run clean attempts) attempt := by
  simp [run]

/-- Each attempt leaves a table that tracks it, too. -/
theorem tracks_answer {state : AuthAttempts × List Bool} (harmless : Harmless clean) (tracks : Tracks state.1 attempts)
    (attempt : Attempt) : Tracks (answer clean state attempt).1 (attempts ++ [attempt]) := by
  intro peerIp now after
  have later : attempt.now ≤ now := after attempt (by simp)
  have before (earlier) (member : earlier ∈ attempts) : earlier.now ≤ now := after earlier (by simp [member])
  show inWindow now (((clean (state.1.set attempt.peerIp (noted state.1 attempt.peerIp attempt.now)) attempt.now).get
    peerIp).getD []) = _
  rw [harmless _ _ _ _ later, PyDict.get_set, timesOf_concat]
  split_ifs with own
  · subst own
    rw [Option.getD_some, noted]
    have kept := inWindow_inWindow later ((state.1.get attempt.peerIp).getD [])
    unfold inWindow at kept ⊢
    rw [List.filter_append, kept, List.filter_append]
    congr 1
    exact tracks attempt.peerIp now before
  · rw [List.append_nil]
    exact tracks peerIp now before

theorem tracks_run (harmless : Harmless clean) (attempts : List Attempt) : Tracks (run clean attempts).1 attempts := by
  induction attempts using List.reverseRecOn with
  | nil => exact fun _ _ _ => rfl
  | append_singleton attempts attempt ih =>
    rw [run_concat]
    exact tracks_answer harmless ih attempt

/-- An attempt is limited exactly if its address has made twenty others in the last minute. -/
theorem answers_concat (harmless : Harmless clean) {attempt : Attempt}
    (before : ∀ earlier ∈ attempts, earlier.now ≤ attempt.now) :
    answers clean (attempts ++ [attempt]) = answers clean attempts ++
      [decide (authAttemptsPerWindow ≤ (inWindow attempt.now (timesOf attempts attempt.peerIp)).length)] := by
  have tracked := tracks_run harmless attempts attempt.peerIp attempt.now before
  rw [answers, run_concat]
  show (run clean attempts).2 ++ [decide ((noted _ _ _).length > _)] = _
  rw [noted, tracked, List.length_append, List.length_singleton, ← answers]
  congr 2
  exact decide_eq_decide.mpr Nat.lt_succ_iff

theorem ordered_concat {attempt : Attempt} (ordered : Ordered (attempts ++ [attempt])) :
    Ordered attempts ∧ ∀ earlier ∈ attempts, earlier.now ≤ attempt.now := by
  unfold Ordered at ordered
  rw [List.map_append, List.pairwise_append] at ordered
  refine ⟨ordered.1, fun earlier member => ?_⟩
  exact ordered.2.2 earlier.now (List.mem_map_of_mem member) attempt.now (by simp)

theorem length_answers (harmless : Harmless clean) (ordered : Ordered attempts) :
    (answers clean attempts).length = attempts.length := by
  induction attempts using List.reverseRecOn with
  | nil => rfl
  | append_singleton attempts attempt ih =>
    obtain ⟨ordered, before⟩ := ordered_concat ordered
    rw [answers_concat harmless before, List.length_append, List.length_append, ih ordered]
    rfl

/-- Every answer is a count of earlier attempts. -/
theorem getElem?_answers (harmless : Harmless clean) (ordered : Ordered attempts) (index : Nat) :
    (answers clean attempts)[index]? = attempts[index]?.map fun attempt =>
      decide (authAttemptsPerWindow ≤ (inWindow attempt.now (timesOf (attempts.take index) attempt.peerIp)).length) := by
  induction attempts using List.reverseRecOn with
  | nil => rfl
  | append_singleton attempts attempt ih =>
    obtain ⟨ordered, before⟩ := ordered_concat ordered
    have size := length_answers harmless ordered
    rw [answers_concat harmless before]
    rcases Nat.lt_trichotomy index attempts.length with earlier | last | beyond
    · rw [List.getElem?_append_left (by omega), List.getElem?_append_left earlier, ih ordered,
        List.take_append_of_le_length (by omega)]
    · subst last
      rw [← size, List.getElem?_concat_length, size, List.getElem?_concat_length, List.take_left]
      rfl
    · rw [List.getElem?_eq_none (by simp; omega), List.getElem?_eq_none (by simp; omega)]
      rfl

/-- What is taken out of the table makes no difference. -/
theorem answers_eq {other : AuthAttempts → Rat → AuthAttempts} (harmless : Harmless clean) (others : Harmless other)
    (ordered : Ordered attempts) : answers clean attempts = answers other attempts := by
  apply List.ext_getElem?
  intro index
  rw [getElem?_answers harmless ordered, getElem?_answers others ordered]

theorem letThrough_concat (harmless : Harmless clean) {attempt : Attempt}
    (ordered : Ordered (attempts ++ [attempt])) (peerIp : String) :
    letThrough clean (attempts ++ [attempt]) peerIp = letThrough clean attempts peerIp ++
      if attempt.peerIp = peerIp ∧ (inWindow attempt.now (timesOf attempts peerIp)).length < authAttemptsPerWindow
        then [attempt.now] else [] := by
  obtain ⟨earlier, before⟩ := ordered_concat ordered
  unfold letThrough
  rw [answers_concat harmless before, List.zip_append (length_answers harmless earlier).symm, List.filter_append,
    List.map_append]
  congr 1
  by_cases own : attempt.peerIp = peerIp
  · subst own
    simp only [List.zip_cons_cons, List.zip_nil_left, List.filter_cons, List.filter_nil, decide_true, Bool.true_and,
      Bool.not_eq_eq_eq_not, Bool.not_true, decide_eq_false_iff_not, not_le, true_and]
    split_ifs <;> rfl
  · simp [own]

theorem letThrough_sublist (harmless : Harmless clean) (ordered : Ordered attempts) (peerIp : String) :
    (letThrough clean attempts peerIp).Sublist (timesOf attempts peerIp) := by
  induction attempts using List.reverseRecOn with
  | nil => exact List.nil_sublist _
  | append_singleton attempts attempt ih =>
    rw [letThrough_concat harmless ordered, timesOf_concat]
    apply (ih (ordered_concat ordered).1).append
    by_cases own : attempt.peerIp = peerIp
    · simp only [own, true_and, if_true]
      split_ifs
      · exact List.Sublist.refl _
      · exact List.nil_sublist _
    · simp [own]

/-- The attempts let through in any stretch of less than a minute. -/
theorem length_window_le (harmless : Harmless clean) (ordered : Ordered attempts) (peerIp : String) {within : Rat → Bool}
    (short : ∀ t later, within t → within later → later - t < authWindowS) :
    ((letThrough clean attempts peerIp).filter within).length ≤ authAttemptsPerWindow := by
  induction attempts using List.reverseRecOn with
  | nil => exact Nat.zero_le _
  | append_singleton attempts attempt ih =>
    have earlier := (ordered_concat ordered).1
    rw [letThrough_concat harmless ordered, List.filter_append, List.length_append]
    by_cases added : (attempt.peerIp = peerIp ∧
        (inWindow attempt.now (timesOf attempts peerIp)).length < authAttemptsPerWindow) ∧ within attempt.now
    · -- the newest attempt counts all the others of the stretch
      have counted : ((letThrough clean attempts peerIp).filter within).length ≤
          (inWindow attempt.now (timesOf attempts peerIp)).length := by
        refine ((letThrough_sublist harmless earlier peerIp).filter within).length_le.trans ?_
        apply List.Sublist.length_le
        apply List.monotone_filter_right
        intro t inside
        exact decide_eq_true (short t attempt.now inside added.2)
      have alone : (List.filter within [attempt.now]).length ≤ 1 := List.length_filter_le _ _
      rw [if_pos added.1]
      have room := added.1.2
      omega
    · have nothing : (List.filter within (if attempt.peerIp = peerIp ∧
          (inWindow attempt.now (timesOf attempts peerIp)).length < authAttemptsPerWindow
            then [attempt.now] else [])).length = 0 := by
        split_ifs with through
        · have outside : ¬ within attempt.now := fun inside => added ⟨through, inside⟩
          simp [outside]
        · rfl
      rw [nothing]
      exact ih earlier

end Tracking

end Marlinspike.Gateway.RateLimit
