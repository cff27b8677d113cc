import Mathlib.Data.List.Induction
import Marlinspike.PyDict
import Marlinspike.Sorting

/-!
Two lists compared by a key of their elements: each list goes into a dictionary, where of the
elements with one key the last is kept and those without a key are left out, and there is a
row for each key of either. Comparing the other way round swaps the sides of the rows
(`rows_swap`), whatever the key is; but the rows account for everything in the lists exactly
if every element has a key and no key stands for two identities (`accounted_iff`).
-/
namespace Marlinspike.Diffing
open Marlinspike.Sorting
universe u v w
variable {α : Type u} {Key : Type v} [DecidableEq Key] {Identity : Type w}

/-- The elements by their keys, the last of each. -/
def keyed (key : α → Option Key) (items : List α) : PyDict Key α :=
  items.foldl (fun kept x => (key x).elim kept fun k => kept.set k x) PyDict.empty

/-- `sorted(set(a) | set(b))`. -/
def unionKeys (le : Key → Key → Bool) (a b : PyDict Key α) : List Key :=
  let keys := a.items.map Prod.fst
  (keys ++ (b.items.map Prod.fst).filter (· ∉ keys)).mergeSort le

structure Row (Key : Type v) (α : Type u) where
  key : Key
  a : Option α
  b : Option α

def Row.swap (row : Row Key α) : Row Key α := ⟨row.key, row.b, row.a⟩

def rows (le : Key → Key → Bool) (key : α → Option Key) (as bs : List α) : List (Row Key α) :=
  (unionKeys le (keyed key as) (keyed key bs)).map fun k => ⟨k, (keyed key as).get k, (keyed key bs).get k⟩

/-- Everything in the lists is on its side of exactly one row, and a row has no side for what the
    list of that side has not. -/
structure Accounted [DecidableEq Identity] (identity : α → Identity) (as bs : List α) (rows : List (Row Key α)) :
    Prop where
  left : ∀ x ∈ as, rows.countP (fun row => row.a.map identity = some (identity x)) = 1
  right : ∀ y ∈ bs, rows.countP (fun row => row.b.map identity = some (identity y)) = 1
  sides : ∀ row ∈ rows, ∀ i, row.a.map identity = some i ∨ row.b.map identity = some i →
    (row.a = none ↔ i ∉ as.map identity) ∧ (row.b = none ↔ i ∉ bs.map identity)

/-! ### Dictionaries -/

section Keyed
variable {key : α → Option Key} {items : List α} {k : Key} {x : α}

theorem keyed_concat : keyed key (items ++ [x]) = (key x).elim (keyed key items) fun k => (keyed key items).set k x := by
  rw [keyed, List.foldl_append]
  rfl

theorem of_get_keyed (found : (keyed key items).get k = some x) : x ∈ items ∧ key x = some k := by
  induction items using List.reverseRecOn with
  | nil => cases found
  | append_singleton items last ih =>
    rw [keyed_concat] at found
    cases own : key last with
    | none =>
      rw [own] at found
      exact (ih found).imp_left (List.mem_append_left _)
    | some k' =>
      rw [own, Option.elim_some, PyDict.get_set] at found
      split_ifs at found with same
      · cases found
        exact ⟨List.mem_append_right _ (List.mem_singleton_self _), same ▸ own⟩
      · exact (ih found).imp_left (List.mem_append_left _)

theorem get_keyed_ne_none (member : x ∈ items) (own : key x = some k) : (keyed key items).get k ≠ none := by
  induction items using List.reverseRecOn with
  | nil => cases member
  | append_singleton items last ih =>
    rw [keyed_concat]
    rcases List.mem_append.mp member with before | here
    · cases other : key last with
      | none => exact ih before
      | some k' =>
        rw [Option.elim_some, PyDict.get_set]
        split_ifs
        · exact Option.some_ne_none _
        · exact ih before
    · rw [← List.mem_singleton.mp here, own, Option.elim_some, PyDict.get_set, if_pos rfl]
      exact Option.some_ne_none _

end Keyed

section Rows
variable {le : Key → Key → Bool} {key : α → Option Key} {as bs : List α}

theorem mem_unionKeys {a b : PyDict Key α} {k : Key} : k ∈ unionKeys le a b ↔ a.get k ≠ none ∨ b.get k ≠ none := by
  rw [unionKeys, List.mem_mergeSort, List.mem_append, List.mem_filter, decide_eq_true_iff]
  simp only [PyDict.mem_keys_iff]
  tauto

theorem nodup_unionKeys (le : Key → Key → Bool) (a b : PyDict Key α) : (unionKeys le a b).Nodup := by
  refine (List.mergeSort_perm _ _).nodup_iff.mpr (List.nodup_append.mpr ⟨a.distinct, b.distinct.filter _, ?_⟩)
  rintro k first _ second rfl
  exact of_decide_eq_true (List.mem_filter.mp second).2 first

/-- Compared the other way round, the sides are swapped. -/
theorem rows_swap {Rank : Type*} [LinearOrder Rank] {rank : Key → Rank}
    (ranked : ∀ k k', le k k' = true ↔ rank k ≤ rank k') (injective : Function.Injective rank) :
    rows le key bs as = (rows le key as bs).map Row.swap := by
  have same : unionKeys le (keyed key bs) (keyed key as) = unionKeys le (keyed key as) (keyed key bs) := by
    have sorted : ∀ d e : PyDict Key α, (unionKeys le d e).mergeSort le = unionKeys le d e := fun d e =>
      List.mergeSort_of_pairwise ((pairwise_mergeSort_rank ranked _).imp fun below => (ranked _ _).mpr below)
    rw [← sorted (keyed key bs), ← sorted (keyed key as), mergeSort_eq_iff ranked injective]
    refine (List.perm_ext_iff_of_nodup (nodup_unionKeys le _ _) (nodup_unionKeys le _ _)).mpr fun k => ?_
    rw [mem_unionKeys, mem_unionKeys, or_comm]
  rw [rows, rows, same, List.map_map]
  rfl

theorem mem_rows {row : Row Key α} : row ∈ rows le key as bs ↔
    row = ⟨row.key, (keyed key as).get row.key, (keyed key bs).get row.key⟩ ∧ (row.a ≠ none ∨ row.b ≠ none) := by
  constructor
  · intro member
    obtain ⟨k, listed, rfl⟩ := List.mem_map.mp member
    exact ⟨rfl, mem_unionKeys.mp listed⟩
  · rintro ⟨is, either⟩
    rw [is] at either ⊢
    exact List.mem_map.mpr ⟨row.key, mem_unionKeys.mpr either, rfl⟩

/-- A test that only the row of one key passes is passed once. -/
theorem countP_rows {k : Key} (listed : (keyed key as).get k ≠ none ∨ (keyed key bs).get k ≠ none)
    {test : Row Key α → Bool} (only : ∀ row ∈ rows le key as bs, test row = true ↔ row.key = k) :
    (rows le key as bs).countP test = 1 := by
  have count := List.count_eq_one_of_mem (nodup_unionKeys le (keyed key as) (keyed key bs))
    (mem_unionKeys.mpr listed)
  rw [← count, rows, List.countP_map, List.count]
  refine List.countP_congr fun k' member => ?_
  rw [beq_iff_eq]
  exact only _ (List.mem_map_of_mem member)

theorem of_left {row : Row Key α} (member : row ∈ rows le key as bs) {x : α} (side : row.a = some x) :
    x ∈ as ∧ key x = some row.key := by
  rw [(mem_rows.mp member).1] at side
  exact of_get_keyed side

theorem of_right {row : Row Key α} (member : row ∈ rows le key as bs) {y : α} (side : row.b = some y) :
    y ∈ bs ∧ key y = some row.key := by
  rw [(mem_rows.mp member).1] at side
  exact of_get_keyed side

theorem row_unique {row other : Row Key α} (member : row ∈ rows le key as bs) (member' : other ∈ rows le key as bs)
    (same : row.key = other.key) : row = other := by
  rw [(mem_rows.mp member).1, (mem_rows.mp member').1, same]

end Rows

/-! ### Accounting -/

section Accounting
variable {identity : α → Identity} {le : Key → Key → Bool} {key : α → Option Key} {as bs : List α}

/-- Every element has a key, and no key stands for two identities. -/
def Telling (identity : α → Identity) (key : α → Option Key) (as bs : List α) : Prop :=
  (∀ x ∈ as ++ bs, key x ≠ none) ∧ ∀ x ∈ as ++ bs, ∀ y ∈ as ++ bs, key x = key y → identity x = identity y

section Sides
variable (finer : ∀ x y, key x ≠ none → key y ≠ none → identity x = identity y → key x = key y)
include finer

/-- A side on which a list is looked up has everything in the list once. -/
theorem countP_side [DecidableEq Identity] (telling : Telling identity key as bs) {l : List α} (within : ∀ z ∈ l, z ∈ as ++ bs)
    {side : Row Key α → Option α} (looked : ∀ row ∈ rows le key as bs, side row = (keyed key l).get row.key)
    (listed : ∀ k, (keyed key l).get k ≠ none → (keyed key as).get k ≠ none ∨ (keyed key bs).get k ≠ none)
    {x : α} (member : x ∈ l) :
    (rows le key as bs).countP (fun row => (side row).map identity = some (identity x)) = 1 := by
  obtain ⟨has, tells⟩ := telling
  obtain ⟨k, own⟩ := Option.ne_none_iff_exists'.mp (has x (within x member))
  have there := get_keyed_ne_none member own
  refine countP_rows (listed k there) fun row inside => ?_
  rw [decide_eq_true_iff, looked row inside, Option.map_eq_some_iff]
  constructor
  · rintro ⟨z, found, same⟩
    obtain ⟨among, key_⟩ := of_get_keyed found
    have is := finer z x (has z (within z among)) (has x (within x member)) same
    exact Option.some.inj (key_.symm.trans (is.trans own))
  · rintro rfl
    obtain ⟨z, found⟩ := Option.ne_none_iff_exists'.mp there
    obtain ⟨among, key_⟩ := of_get_keyed found
    exact ⟨z, found, tells z (within z among) x (within x member) (key_.trans own.symm)⟩

/-- A list has nothing of a key exactly if it has nothing of the identity. -/
theorem get_keyed_eq_none_iff (telling : Telling identity key as bs) {l : List α} (within : ∀ z ∈ l, z ∈ as ++ bs)
    {x : α} (among : x ∈ as ++ bs) {k : Key} (own : key x = some k) :
    (keyed key l).get k = none ↔ identity x ∉ l.map identity := by
  obtain ⟨has, tells⟩ := telling
  rw [← not_iff_not, not_not]
  constructor
  · intro found
    obtain ⟨z, found⟩ := Option.ne_none_iff_exists'.mp found
    obtain ⟨member, same⟩ := of_get_keyed found
    exact List.mem_map.mpr ⟨z, member, tells z (within z member) x among (same.trans own.symm)⟩
  · intro listed
    obtain ⟨z, member, same⟩ := List.mem_map.mp listed
    exact get_keyed_ne_none member ((finer z x (has z (within z member)) (has x among) same).trans own)

theorem accounted_of_telling [DecidableEq Identity] (telling : Telling identity key as bs) :
    Accounted identity as bs (rows le key as bs) := by
  have inA {x} (member : x ∈ as) : x ∈ as ++ bs := List.mem_append_left _ member
  have inB {y} (member : y ∈ bs) : y ∈ as ++ bs := List.mem_append_right _ member
  refine ⟨fun x member => ?_, fun y member => ?_, fun row listed i either => ?_⟩
  · exact countP_side finer telling (fun _ => inA) (fun row inside => congrArg Row.a (mem_rows.mp inside).1)
      (fun _ => Or.inl) member
  · exact countP_side finer telling (fun _ => inB) (fun row inside => congrArg Row.b (mem_rows.mp inside).1)
      (fun _ => Or.inr) member
  · have represented : ∃ x ∈ as ++ bs, key x = some row.key ∧ identity x = i := by
      rcases either with side | side
      · obtain ⟨x, side, same⟩ := Option.map_eq_some_iff.mp side
        obtain ⟨among, own⟩ := of_left listed side
        exact ⟨x, inA among, own, same⟩
      · obtain ⟨x, side, same⟩ := Option.map_eq_some_iff.mp side
        obtain ⟨among, own⟩ := of_right listed side
        exact ⟨x, inB among, own, same⟩
    obtain ⟨x, among, own, rfl⟩ := represented
    rw [(mem_rows.mp listed).1]
    exact ⟨get_keyed_eq_none_iff finer telling (fun _ => inA) among own,
      get_keyed_eq_none_iff finer telling (fun _ => inB) among own⟩

/-- What has a key and is on its side of one row is, as far as its identity goes, on that of its key. -/
theorem side_of_countP [DecidableEq Identity] {l : List α} {side : Row Key α → Option α}
    (looked : ∀ row ∈ rows le key as bs, side row = (keyed key l).get row.key) {x : α} {k : Key} (own : key x = some k)
    (once : (rows le key as bs).countP (fun row => (side row).map identity = some (identity x)) = 1)
    {row : Row Key α} (listed : row ∈ rows le key as bs) (here : row.key = k) :
    (side row).map identity = some (identity x) := by
  obtain ⟨other, inside, holds⟩ := List.countP_pos_iff.mp (once ▸ Nat.one_pos)
  have holds := of_decide_eq_true holds
  obtain ⟨z, found, same⟩ := Option.map_eq_some_iff.mp holds
  rw [looked other inside] at found
  obtain ⟨-, key_⟩ := of_get_keyed found
  have is := finer z x (by simp [key_]) (by simp [own]) same
  have row_ : other = row := row_unique inside listed
    ((Option.some.inj (key_.symm.trans (is.trans own))).trans here.symm)
  exact row_ ▸ holds

end Sides

/-- What has no key is in no row; its list has nothing else of its identity. -/
def Dropped (identity : α → Identity) (key : α → Option Key) (l : List α) : Prop :=
  ∀ x ∈ l, key x = none → ∀ y ∈ l, identity y = identity x → key y = none

theorem key_of_countP [DecidableEq Identity] {l : List α} (dropped : Dropped identity key l)
    {side : Row Key α → Option α} (looked : ∀ row ∈ rows le key as bs, side row = (keyed key l).get row.key) {x : α}
    (member : x ∈ l) (once : (rows le key as bs).countP (fun row => (side row).map identity = some (identity x)) = 1) :
    key x ≠ none := by
  intro none_
  obtain ⟨row, inside, holds⟩ := List.countP_pos_iff.mp (once ▸ Nat.one_pos)
  obtain ⟨z, found, same⟩ := Option.map_eq_some_iff.mp (of_decide_eq_true holds)
  rw [looked row inside] at found
  obtain ⟨among, own⟩ := of_get_keyed found
  rw [dropped x member none_ z among same] at own
  cases own

/-- The rows account for everything in the lists exactly if every element has a key and no key stands
    for two identities. -/
theorem accounted_iff [DecidableEq Identity]
    (finer : ∀ x y, key x ≠ none → key y ≠ none → identity x = identity y → key x = key y)
    (droppedA : Dropped identity key as) (droppedB : Dropped identity key bs) :
    Accounted identity as bs (rows le key as bs) ↔ Telling identity key as bs := by
  refine ⟨fun accounted => ?_, accounted_of_telling finer⟩
  have lookedA : ∀ row ∈ rows le key as bs, row.a = (keyed key as).get row.key := fun row inside =>
    congrArg Row.a (mem_rows.mp inside).1
  have lookedB : ∀ row ∈ rows le key as bs, row.b = (keyed key bs).get row.key := fun row inside =>
    congrArg Row.b (mem_rows.mp inside).1
  have has : ∀ x ∈ as ++ bs, key x ≠ none := by
    intro x among
    rcases List.mem_append.mp among with member | member
    · exact key_of_countP droppedA lookedA member (accounted.left x member)
    · exact key_of_countP droppedB lookedB member (accounted.right x member)
  have ofA {x row} (member : x ∈ as) (own : key x = some row.key) (listed : row ∈ rows le key as bs) :=
    side_of_countP finer lookedA own (accounted.left x member) listed rfl
  have ofB {y row} (member : y ∈ bs) (own : key y = some row.key) (listed : row ∈ rows le key as bs) :=
    side_of_countP finer lookedB own (accounted.right y member) listed rfl
  -- One of either list with one key: the row has both sides, so the left one is on the right list as well.
  have across {x y row} (memberX : x ∈ as) (memberY : y ∈ bs) (ownX : key x = some row.key)
      (ownY : key y = some row.key) (listed : row ∈ rows le key as bs) : identity x = identity y := by
    have right := ofB memberY ownY listed
    have both : row.b ≠ none := by
      intro none_
      rw [none_] at right
      cases right
    have there := (accounted.sides row listed (identity x) (Or.inl (ofA memberX ownX listed))).2.not.mp both
    obtain ⟨z, member, same⟩ := List.mem_map.mp (not_not.mp there)
    have own := (finer z x (has z (List.mem_append_right _ member)) (has x (List.mem_append_left _ memberX)) same).trans ownX
    rw [ofB member own listed, Option.some.injEq] at right
    exact same.symm.trans right
  refine ⟨has, fun x amongX y amongY same => ?_⟩
  obtain ⟨k, ownX⟩ := Option.ne_none_iff_exists'.mp (has x amongX)
  have ownY := same.symm.trans ownX
  have listed : (⟨k, (keyed key as).get k, (keyed key bs).get k⟩ : Row Key α) ∈ rows le key as bs := by
    refine mem_rows.mpr ⟨rfl, ?_⟩
    exact (List.mem_append.mp amongX).imp (get_keyed_ne_none · ownX) (get_keyed_ne_none · ownX)
  rcases List.mem_append.mp amongX with inX | inX
  · rcases List.mem_append.mp amongY with inY | inY
    · exact Option.some.inj ((ofA inX ownX listed).symm.trans (ofA inY ownY listed))
    · exact across inX inY ownX ownY listed
  · rcases List.mem_append.mp amongY with inY | inY
    · exact (across inY inX ownY ownX listed).symm
    · exact Option.some.inj ((ofB inX ownX listed).symm.trans (ofB inY ownY listed))

end Accounting

end Marlinspike.Diffing
