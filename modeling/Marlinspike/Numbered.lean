import Mathlib.Data.List.Nodup
import Mathlib.Order.Nat
import Mathlib.Tactic.SplitIfs

/-!
Lists as tables whose rows are known by their numbers: rows are added at the end and
changed in place, and what stands under a number after a change is said in terms of
what stood there before it.
-/
namespace Marlinspike.Numbered
universe u
variable {α : Type u} {rows : List α} {i j : Nat} {row other : α}

/-- A row that is known is replaced. -/
theorem getElem?_set (found : rows[i]? = some row) (j : Nat) :
    (rows.set i other)[j]? = (rows[j]?).map fun old => if i = j then other else old := by
  rw [List.getElem?_set]
  split_ifs with here inside
  · subst here
    rw [found]
    rfl
  · exact absurd (List.getElem?_eq_some_iff.mp found).1 inside
  · cases rows[j]? <;> rfl

/-- A row that is replaced with one that looks the same. -/
theorem map_set {β : Type u} {f : α → β} (found : rows[i]? = some row) (same : f other = f row) :
    (rows.set i other).map f = rows.map f := by
  apply List.ext_getElem?
  intro j
  rw [List.getElem?_map, List.getElem?_map, getElem?_set found, Option.map_map]
  cases at_ : rows[j]? with
  | none => rfl
  | some old =>
    rw [Option.map_some, Option.map_some, Function.comp_apply]
    split_ifs with here
    · subst here
      cases found.symm.trans at_
      rw [same]
    · rfl

theorem mem_set (found : rows[i]? = some row) : other ∈ rows.set i other :=
  List.mem_set (List.getElem?_eq_some_iff.mp found).1 other

/-- The other rows stay. -/
theorem mem_set_or (found : rows[i]? = some row) (other : α) {x : α} (member : x ∈ rows) :
    x = row ∨ x ∈ rows.set i other := by
  obtain ⟨j, at_⟩ := List.mem_iff_getElem?.mp member
  by_cases here : i = j
  · subst here
    exact .inl (Option.some.inj (at_.symm.trans found))
  · refine .inr (List.mem_of_getElem? (i := j) ?_)
    rw [getElem?_set found, at_, Option.map_some, if_neg here]

theorem getElem?_modify (rows : List α) (i : Nat) (f : α → α) (j : Nat) :
    (rows.modify i f)[j]? = (rows[j]?).map fun old => if i = j then f old else old := by
  rw [List.getElem?_modify]
  cases rows[j]? <;> rfl

theorem getElem?_same (rows : List α) (j : Nat) : rows[j]? = (rows[j]?).map fun old => old := by
  cases rows[j]? <;> rfl

/-- A row of a table to which one was added. -/
theorem getElem?_concat : (rows ++ [row])[i]? = some other ↔ rows[i]? = some other ∨ i = rows.length ∧ row = other := by
  rcases Nat.lt_trichotomy i rows.length with before | rfl | after
  · rw [List.getElem?_append_left before]
    exact ⟨.inl, fun found => found.resolve_right fun there => before.ne there.1⟩
  · simp
  · rw [List.getElem?_eq_none (by simp; omega), List.getElem?_eq_none (by omega)]
    simp [after.ne']

theorem getElem?_concat_of (found : rows[i]? = some row) : (rows ++ [other])[i]? = some row :=
  getElem?_concat.mpr (.inl found)

theorem getElem?_concat_last : (rows ++ [row])[rows.length]? = some row :=
  getElem?_concat.mpr (.inr ⟨rfl, rfl⟩)

/-- A new row that has what no other row has. -/
theorem nodup_filterMap_concat {β : Type u} {f : α → Option β} (distinct : (rows.filterMap f).Nodup)
    (fresh : ∀ b, f row = some b → ∀ other ∈ rows, f other ≠ some b) : ((rows ++ [row]).filterMap f).Nodup := by
  rw [List.filterMap_append]
  cases has : f row with
  | none =>
    rw [List.filterMap_cons_none has, List.filterMap_nil, List.append_nil]
    exact distinct
  | some b =>
    rw [List.filterMap_cons_some has, List.filterMap_nil, ← List.concat_eq_append]
    refine distinct.concat fun there => ?_
    obtain ⟨other, member, also⟩ := List.mem_filterMap.mp there
    exact fresh b has other member also

/-- What a row has to itself, no other row has. -/
theorem ne_of_mem_eraseIdx {β : Type u} {f : α → Option β} {b : β} (distinct : (rows.filterMap f).Nodup)
    (found : rows[i]? = some row) (has : f row = some b) (member : other ∈ rows.eraseIdx i) : f other ≠ some b := by
  intro also
  obtain ⟨inside, is⟩ := List.getElem?_eq_some_iff.mp found
  have split : rows = rows.take i ++ row :: rows.drop (i + 1) := by
    rw [← is, List.getElem_cons_drop, List.take_append_drop]
  rw [split, List.filterMap_append, List.filterMap_cons_some has, List.nodup_middle, List.nodup_cons,
    ← List.filterMap_append, ← List.eraseIdx_eq_take_drop_succ] at distinct
  exact distinct.1 (List.mem_filterMap.mpr ⟨other, member, also⟩)

end Marlinspike.Numbered
