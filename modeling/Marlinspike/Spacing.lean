import Mathlib.Algebra.Order.Monoid.Defs
import Mathlib.Data.List.Basic

/-!
Times of events, the latest first, of which only the first few may come close together: each
later one comes a whole period after all events but the one right before it. No period
then holds more events than were free to come at any time.
-/
namespace Marlinspike.Spacing
universe u
variable {Time : Type u} [AddCommMonoid Time] [LinearOrder Time]

/-- All but the first `n` events come at least `d` after the last event but one. -/
def Spaced (n : Nat) (d : Time) : List Time → Prop
  | [] => True
  | t :: before => (before.length < n ∨ ∀ u ∈ before.tail, u + d ≤ t) ∧ Spaced n d before

/-- The events of the period of length `d` that begins at `since`. -/
def within (since d : Time) (times : List Time) : List Time :=
  times.filter fun t => since ≤ t ∧ t < since + d

theorem within_cons (since d t : Time) (before : List Time) :
    within since d (t :: before) =
      if since ≤ t ∧ t < since + d then t :: within since d before else within since d before := by
  unfold within
  rw [List.filter_cons]
  by_cases inside : since ≤ t ∧ t < since + d
  · rw [if_pos (decide_eq_true inside), if_pos inside]
  · rw [if_neg (by simpa using inside), if_neg inside]

theorem length_within_le [IsOrderedCancelAddMonoid Time] {n : Nat} {d : Time} {times : List Time}
    (few : 2 ≤ n) (spaced : Spaced n d times) (since : Time) : (within since d times).length ≤ n := by
  induction times with
  | nil => exact Nat.zero_le n
  | cons t before ih =>
    obtain ⟨late, rest⟩ := spaced
    rw [within_cons]
    by_cases inside : since ≤ t ∧ t < since + d
    · rw [if_pos inside, List.length_cons]
      rcases late with short | apart
      · have fewer : (within since d before).length ≤ before.length := List.length_filter_le _ _
        omega
      · -- What is a period before an event of the window is before the window.
        have outside : ∀ u ∈ before.tail, ¬since ≤ u := by
          intro u member later
          have apart : u + d < since + d := lt_of_le_of_lt (apart u member) inside.2
          exact absurd (lt_of_add_lt_add_right apart) (not_lt_of_ge later)
        have one : (within since d before).length ≤ 1 := by
          cases before with
          | nil => exact Nat.zero_le 1
          | cons last older =>
            have none : within since d older = [] := by
              refine List.filter_eq_nil_iff.mpr fun u member => ?_
              have := outside u member
              simp [this]
            rw [within_cons, none]
            split <;> simp
        omega
    · rw [if_neg inside]
      exact ih rest

end Marlinspike.Spacing
