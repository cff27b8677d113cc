import Mathlib.Data.List.Nodup
import Mathlib.Data.List.Perm.Basic
import Mathlib.Tactic.SplitIfs

/-!
Keys that are renamed one after the other: where each key has gone, and the items of a key
after a move.
-/
namespace Marlinspike.Renaming
universe u v
variable {Key : Type u} [DecidableEq Key]

/-- A key after a renaming of one key to another. -/
def rename (move : Key × Key) (k : Key) : Key := if k = move.1 then move.2 else k

/-- A key after all moves, in order. -/
def follow (moves : List (Key × Key)) (k : Key) : Key := moves.foldl (fun k move => rename move k) k

theorem follow_concat (moves : List (Key × Key)) (move : Key × Key) (k : Key) :
    follow (moves ++ [move]) k = rename move (follow moves k) := by
  rw [follow, List.foldl_append]
  rfl

/-- A key that is not renamed stays, whether others are renamed to it or not. -/
theorem follow_of_not_mem {moves : List (Key × Key)} {k : Key} (kept : k ∉ moves.map Prod.fst) :
    follow moves k = k := by
  induction moves with
  | nil => rfl
  | cons move rest ih =>
    rw [List.map_cons, List.mem_cons, not_or] at kept
    rw [follow, List.foldl_cons, rename, if_neg kept.1]
    exact ih kept.2

/-- A key that is renamed once, to itself, stays. -/
theorem follow_of_self {moves : List (Key × Key)} (once : (moves.map Prod.fst).Nodup) {k : Key}
    (self : (k, k) ∈ moves) : follow moves k = k := by
  induction moves with
  | nil => cases self
  | cons move rest ih =>
    rw [List.map_cons, List.nodup_cons] at once
    rw [follow, List.foldl_cons]
    rcases List.mem_cons.mp self with rfl | later
    · rw [rename, if_pos rfl]
      exact follow_of_not_mem once.1
    · have apart : k ≠ move.1 := by
        rintro rfl
        exact once.1 (List.mem_map.mpr ⟨_, later, rfl⟩)
      rw [rename, if_neg apart]
      exact ih once.2 later

/-! ### The items of a key -/

section Items
variable {Item : Type v} (key : Item → Key) (items : List Item) {old new : Key} (apart : new ≠ old)
include apart

theorem filter_rename_old : (items.filter fun item => rename (old, new) (key item) = old) = [] := by
  rw [List.filter_eq_nil_iff]
  intro item _
  simp only [rename, decide_eq_true_eq]
  split_ifs with same
  · exact apart
  · exact same

theorem filter_rename_new : (items.filter fun item => rename (old, new) (key item) = new).Perm
    (items.filter (key · = new) ++ items.filter (key · = old)) := by
  induction items with
  | nil => exact List.Perm.nil
  | cons item rest ih =>
    simp only [List.filter_cons, rename] at ih ⊢
    by_cases isOld : key item = old
    · have notNew : ¬old = new := Ne.symm apart
      simp only [isOld, if_true, decide_true, notNew, decide_false, Bool.false_eq_true, if_false]
      exact (ih.cons item).trans List.perm_middle.symm
    · by_cases isNew : key item = new
      · simp only [isNew, apart, if_false, decide_true, if_true, decide_false, Bool.false_eq_true]
        exact ih.cons item
      · simp only [isOld, isNew, if_false, decide_false, Bool.false_eq_true]
        exact ih

omit apart in
theorem filter_rename_other {k : Key} (notOld : k ≠ old) (notNew : k ≠ new) :
    (items.filter fun item => rename (old, new) (key item) = k) = items.filter (key · = k) := by
  refine List.filter_congr fun item _ => ?_
  rw [rename]
  split_ifs with same
  · rw [same]
    simp [Ne.symm notNew, Ne.symm notOld]
  · rfl

end Items

end Marlinspike.Renaming
