import Mathlib.Data.List.Count
import Mathlib.Data.List.Nodup
import Mathlib.Data.List.Perm.Basic

/-!
Rows listed under the groups that they belong to. Where each row belongs to one group alone, its
home, the listing has every row once (`join_perm`); and a listing that has every row once
under its home has it under no other group (`only_home_of_join`).
-/
namespace Marlinspike.Joining
universe u v
variable {Row : Type u} {Group : Type v}

/-- The rows under each group that they belong to. -/
def join (belongs : Group → Row → Bool) (groups : List Group) (rows : List Row) : List (Group × Row) :=
  groups.flatMap fun group => (rows.filter (belongs group)).map fun row => (group, row)

theorem mem_join {belongs : Group → Row → Bool} {groups : List Group} {rows : List Row} {group : Group} {row : Row} :
    (group, row) ∈ join belongs groups rows ↔ group ∈ groups ∧ row ∈ rows ∧ belongs group row = true := by
  simp [join]

theorem filter_home {groups : List Group} (distinct : groups.Nodup) {p : Group → Bool} {home : Group} (member : home ∈ groups)
    (only : ∀ group ∈ groups, p group = true ↔ group = home) : groups.filter p = [home] := by
  induction groups with
  | nil => cases member
  | cons group rest ih =>
    obtain ⟨fresh, distinct⟩ := List.nodup_cons.mp distinct
    obtain rfl | later := List.mem_cons.mp member
    · rw [List.filter_cons_of_pos ((only _ List.mem_cons_self).mpr rfl)]
      refine congrArg (_ :: ·) (List.filter_eq_nil_iff.mpr fun other inside kept => ?_)
      obtain rfl := (only other (List.mem_cons_of_mem _ inside)).mp kept
      exact fresh inside
    · have other : ¬p group = true := fun kept => fresh ((only group List.mem_cons_self).mp kept ▸ later)
      rw [List.filter_cons_of_neg other]
      exact ih distinct later fun other inside => only other (List.mem_cons_of_mem _ inside)

theorem flatMap_option {groups : List Group} {p : Group → Bool} (row : Row) :
    (groups.flatMap fun group => if p group then [(group, row)] else []) = (groups.filter p).map fun group => (group, row) := by
  induction groups with
  | nil => rfl
  | cons group rest ih =>
    rw [List.flatMap_cons, ih]
    by_cases kept : p group = true
    · rw [if_pos kept, List.filter_cons_of_pos kept]
      rfl
    · rw [if_neg kept, List.filter_cons_of_neg kept]
      rfl

/-- Every row is listed once, under its home. -/
theorem join_perm {belongs : Group → Row → Bool} {groups : List Group} (distinct : groups.Nodup) {rows : List Row}
    {home : Row → Group} (homes : ∀ row ∈ rows, home row ∈ groups)
    (only : ∀ row ∈ rows, ∀ group ∈ groups, belongs group row = true ↔ group = home row) :
    (join belongs groups rows).Perm (rows.map fun row => (home row, row)) := by
  induction rows with
  | nil => simp [join]
  | cons row rest ih =>
    have split : join belongs groups (row :: rest) = groups.flatMap fun group =>
        (if belongs group row then [(group, row)] else []) ++ (rest.filter (belongs group)).map fun row => (group, row) := by
      refine List.flatMap_congr fun group _ => ?_
      by_cases own : belongs group row = true
      · rw [List.filter_cons_of_pos own, if_pos own]
        rfl
      · rw [List.filter_cons_of_neg own, if_neg own]
        rfl
    have one : (groups.flatMap fun group => if belongs group row then [(group, row)] else []) = [(home row, row)] := by
      rw [flatMap_option, filter_home distinct (homes row List.mem_cons_self) (only row List.mem_cons_self)]
      rfl
    have others := ih (fun row member => homes row (List.mem_cons_of_mem _ member))
      fun row member => only row (List.mem_cons_of_mem _ member)
    rw [split]
    refine (List.flatMap_append_perm groups _ _).symm.trans ?_
    rw [one]
    exact others.cons _

/-- A row that is listed once belongs to no group but its home. -/
theorem only_home_of_join {belongs : Group → Row → Bool} {groups : List Group} {rows : List Row} {home : Row → Group}
    (listed : (join belongs groups rows).Perm (rows.map fun row => (home row, row))) {row : Row} (member : row ∈ rows) :
    belongs (home row) row = true ∧ ∀ group ∈ groups, belongs group row = true → group = home row := by
  have own : (home row, row) ∈ join belongs groups rows := listed.mem_iff.mpr (List.mem_map_of_mem member)
  refine ⟨(mem_join.mp own).2.2, fun group inside belongs_ => ?_⟩
  have again := listed.mem_iff.mp (mem_join.mpr ⟨inside, member, belongs_⟩)
  obtain ⟨row', -, same⟩ := List.mem_map.mp again
  obtain ⟨rfl, rfl⟩ := Prod.mk.inj same
  rfl

/-- Rows that are put into groups by a key are all there. -/
theorem groups_perm [DecidableEq Group] (key : Row → Group) {keys : List Group} (distinct : keys.Nodup) {rows : List Row}
    (all : ∀ row ∈ rows, key row ∈ keys) : (keys.flatMap fun k => rows.filter fun row => key row = k).Perm rows := by
  have listed : (join (fun k row => decide (key row = k)) keys rows).Perm (rows.map fun row => (key row, row)) := by
    refine join_perm distinct all fun row _ group _ => ?_
    rw [decide_eq_true_iff]
    exact eq_comm
  have rows_eq : (join (fun k row => decide (key row = k)) keys rows).map Prod.snd =
      keys.flatMap fun k => rows.filter fun row => key row = k := by
    rw [join, List.map_flatMap]
    refine List.flatMap_congr fun k _ => ?_
    rw [List.map_map]
    exact List.map_id _
  rw [← rows_eq]
  refine (listed.map Prod.snd).trans ?_
  rw [List.map_map]
  exact .of_eq (List.map_id rows)

end Marlinspike.Joining
