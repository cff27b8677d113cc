import Mathlib.Algebra.GroupWithZero.Nat
import Mathlib.Data.List.Basic

/-! Sums of a weight over a list of which one entry changes. -/
namespace Marlinspike.Weights
universe u
variable {α : Type u}

theorem sum_set (f : α → Nat) {l : List α} {i : Nat} {old : α} (there : l[i]? = some old) (new : α) :
    ((l.set i new).map f).sum + f old = (l.map f).sum + f new := by
  induction l generalizing i with
  | nil => simp at there
  | cons head rest ih =>
    cases i with
    | zero =>
      obtain rfl : head = old := by simpa using there
      simp only [List.set_cons_zero, List.map_cons, List.sum_cons]
      omega
    | succ i =>
      have := ih (by simpa using there)
      simp only [List.set_cons_succ, List.map_cons, List.sum_cons]
      omega

theorem sum_eraseIdx (f : α → Nat) {l : List α} {i : Nat} {old : α} (there : l[i]? = some old) :
    ((l.eraseIdx i).map f).sum + f old = (l.map f).sum := by
  induction l generalizing i with
  | nil => simp at there
  | cons head rest ih =>
    cases i with
    | zero =>
      obtain rfl : head = old := by simpa using there
      simp only [List.eraseIdx_cons_zero, List.map_cons, List.sum_cons]
      omega
    | succ i =>
      have := ih (by simpa using there)
      simp only [List.eraseIdx_cons_succ, List.map_cons, List.sum_cons]
      omega

theorem sum_set_le (f : α → Nat) {l : List α} {i : Nat} {old new : α} (there : l[i]? = some old)
    (less : f new ≤ f old) : ((l.set i new).map f).sum ≤ (l.map f).sum := by
  have := sum_set f there new
  omega

end Marlinspike.Weights
