import Mathlib.Data.List.Sort

/-!
Lists sorted by a rank of their elements in a linear order: the outcome is in the order of
the ranks, and depends on nothing but what there is to sort where no two different elements
have one rank.
-/
namespace Marlinspike.Sorting
universe u v
variable {α : Type u} {Rank : Type v} [LinearOrder Rank] {le : α → α → Bool} {rank : α → Rank}
  (ranked : ∀ a b, le a b = true ↔ rank a ≤ rank b)
include ranked

theorem pairwise_mergeSort_rank (l : List α) : (l.mergeSort le).Pairwise fun a b => rank a ≤ rank b := by
  have sorted : (l.mergeSort le).Pairwise fun a b => le a b = true := by
    apply List.pairwise_mergeSort
    · intro a b c first second
      rw [ranked] at first second ⊢
      exact first.trans second
    · intro a b
      rw [Bool.or_eq_true, ranked, ranked]
      exact le_total _ _
  exact sorted.imp fun below => (ranked _ _).mp below

theorem mergeSort_eq_of_perm {l l' : List α} (perm : l.Perm l')
    (distinct : ∀ a ∈ l, ∀ b ∈ l, rank a = rank b → a = b) : l.mergeSort le = l'.mergeSort le := by
  have sorted := pairwise_mergeSort_rank ranked l
  have sorted' := pairwise_mergeSort_rank ranked l'
  refine List.Perm.eq_of_pairwise ?_ sorted sorted' ?_
  · intro a b first second below above
    have inside : b ∈ l := perm.mem_iff.mpr (List.mem_mergeSort.mp second)
    exact distinct a (List.mem_mergeSort.mp first) b inside (le_antisymm below above)
  · exact (List.mergeSort_perm l le).trans (perm.trans (List.mergeSort_perm l' le).symm)

theorem mergeSort_eq_iff (injective : Function.Injective rank) {l l' : List α} :
    l.mergeSort le = l'.mergeSort le ↔ l.Perm l' := by
  constructor
  · intro same
    have first : (l.mergeSort le).Perm l := List.mergeSort_perm l le
    have second : (l'.mergeSort le).Perm l' := List.mergeSort_perm l' le
    rw [same] at first
    exact first.symm.trans second
  · intro perm
    apply mergeSort_eq_of_perm ranked perm
    intro a _ b _ same
    exact injective same

/-- An element of a lower rank than all others comes first. -/
theorem head?_mergeSort {l : List α} {a : α} (member : a ∈ l) (first : ∀ b ∈ l, b = a ∨ rank a < rank b) :
    (l.mergeSort le).head? = some a := by
  have sorted := pairwise_mergeSort_rank ranked l
  have kept : a ∈ l.mergeSort le := List.mem_mergeSort.mpr member
  cases order : l.mergeSort le with
  | nil =>
    rw [order] at kept
    cases kept
  | cons head rest =>
    rw [order] at kept sorted
    have inside : head ∈ l := by
      rw [← @List.mem_mergeSort α le, order]
      exact List.mem_cons_self
    rcases first head inside with rfl | later
    · rfl
    · rcases List.mem_cons.mp kept with rfl | behind
      · exact absurd later (lt_irrefl _)
      · exact absurd (List.rel_of_pairwise_cons sorted behind) (not_le_of_gt later)

end Marlinspike.Sorting
