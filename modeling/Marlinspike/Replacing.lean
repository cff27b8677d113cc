import Mathlib.Data.List.Infix

/-!
`str.replace`: the occurrences of a part, from the left, each behind the one before. A part that
begins with an item that it has nowhere else does not overlap itself, so that a text can be cut
before that item (`replaceAll_append`).
-/
namespace Marlinspike.Replacing
universe u
variable {α : Type u} [DecidableEq α]

/-- What comes of a text of which the first items belong to an occurrence. -/
def replaceFrom (old new : List α) : Nat → List α → List α
  | _, [] => []
  | skip + 1, _ :: rest => replaceFrom old new skip rest
  | 0, c :: rest =>
    if old.isPrefixOf (c :: rest) then new ++ replaceFrom old new (old.length - 1) rest
    else c :: replaceFrom old new 0 rest

def replaceAll (old new l : List α) : List α := replaceFrom old new 0 l

variable {old new l : List α}

theorem replaceFrom_eq (skip : Nat) : replaceFrom old new skip l = replaceAll old new (l.drop skip) := by
  induction skip generalizing l with
  | zero => rfl
  | succ skip ih =>
    cases l with
    | nil => rfl
    | cons c rest => exact ih

@[simp] theorem replaceAll_nil : replaceAll old new [] = [] := rfl

theorem replaceAll_cons_of_other {c : α} {rest : List α} (other : ¬ old <+: c :: rest) :
    replaceAll old new (c :: rest) = c :: replaceAll old new rest := by
  rw [replaceAll, replaceFrom, if_neg (mt List.isPrefixOf_iff_prefix.mp other)]
  rfl

theorem replaceAll_occurrence (some_ : old ≠ []) (rest : List α) :
    replaceAll old new (old ++ rest) = new ++ replaceAll old new rest := by
  obtain ⟨c, tail, rfl⟩ := List.exists_cons_of_ne_nil some_
  have here : (c :: tail).isPrefixOf (c :: (tail ++ rest)) = true :=
    List.isPrefixOf_iff_prefix.mpr (List.prefix_append (c :: tail) rest)
  have beyond : (tail ++ rest).drop ((c :: tail).length - 1) = rest := List.drop_left' (by simp)
  rw [List.cons_append, replaceAll, replaceFrom, if_pos here, replaceFrom_eq, beyond]

/-- A text without the part stays. -/
theorem replaceAll_of_not_infix (none_ : ¬ old <:+: l) : replaceAll old new l = l := by
  induction l with
  | nil => rfl
  | cons c rest ih =>
    rw [List.infix_cons_iff, not_or] at none_
    rw [replaceAll_cons_of_other none_.1, ih none_.2]

/-- Up to its first occurrence a text stays, whatever the part is replaced by. -/
theorem replaceAll_first (some_ : old ≠ []) (occurs : old <:+: l) :
    ∃ before after, l = before ++ (old ++ after) ∧
      ∀ new, replaceAll old new l = before ++ (new ++ replaceAll old new after) := by
  induction l with
  | nil => exact absurd (List.infix_nil.mp occurs) some_
  | cons c rest ih =>
    by_cases here : old <+: c :: rest
    · obtain ⟨after, same⟩ := here
      exact ⟨[], after, same.symm, fun new => same ▸ replaceAll_occurrence some_ after⟩
    · obtain ⟨before, after, rfl, replaced⟩ := ih ((List.infix_cons_iff.mp occurs).resolve_left here)
      exact ⟨c :: before, after, rfl, fun new => by
        rw [replaceAll_cons_of_other here, replaced, List.cons_append]⟩

omit [DecidableEq α] in
/-- No occurrence goes on behind an item that only begins one. -/
theorem prefix_of_head {c : α} {tail left right : List α} (once : c ∉ tail)
    (occurs : tail <+: left ++ c :: right) : tail <+: left := by
  rcases List.prefix_or_prefix_of_prefix occurs (List.prefix_append left _) with inside | ⟨more, rfl⟩
  · exact inside
  · cases more with
    | nil => exact by rw [List.append_nil]
    | cons d more =>
      have same : d = c := (List.cons_prefix_cons.mp ((List.prefix_append_right_inj left).mp occurs)).1
      exact absurd (List.mem_append_right _ (same ▸ List.mem_cons_self)) once

theorem replaceAll_append {c : α} {tail : List α} (once : c ∉ tail) (left right : List α) :
    replaceAll (c :: tail) new (left ++ c :: right) =
      replaceAll (c :: tail) new left ++ replaceAll (c :: tail) new (c :: right) := by
  induction size : left.length using Nat.strong_induction_on generalizing left with
  | _ n ih =>
    cases left with
    | nil => rfl
    | cons d left =>
      by_cases here : c :: tail <+: d :: (left ++ c :: right)
      · obtain ⟨rfl, follows⟩ := List.cons_prefix_cons.mp here
        obtain ⟨rest, rfl⟩ := prefix_of_head once follows
        have shorter : rest.length < n := by
          rw [← size, List.length_cons, List.length_append]
          omega
        have whole : c :: (tail ++ rest) ++ c :: right = c :: tail ++ (rest ++ c :: right) := by simp
        have part : c :: (tail ++ rest) = c :: tail ++ rest := rfl
        rw [whole, part, replaceAll_occurrence (List.cons_ne_nil c tail), ih _ shorter rest rfl,
          replaceAll_occurrence (List.cons_ne_nil c tail), List.append_assoc]
      · have notInside : ¬ c :: tail <+: d :: left := fun inside =>
          here (inside.trans (List.prefix_append (d :: left) (c :: right)))
        rw [List.cons_append, replaceAll_cons_of_other here, replaceAll_cons_of_other notInside,
          ih left.length (by rw [← size]; exact Nat.lt_succ_self _) left rfl, List.cons_append]

end Marlinspike.Replacing
