import Mathlib.Algebra.GroupWithZero.Nat
import Mathlib.Data.List.Nodup
import Mathlib.Tactic.SplitIfs

/-!
Python's `dict` over keys with decidable equality: insertion order, one entry per
key, assignment to a present key in place.
-/
namespace Marlinspike
universe u v

/-! Comparing pairs of texts, and texts as lists of characters, by one instance each. -/
instance lawful_pair : LawfulBEq (String × String) := inferInstance
instance lawful_chars : LawfulBEq (List Char) := inferInstance

/-- A `dict`: its items in iteration order, no key twice. -/
structure PyDict (Key : Type u) (Value : Type v) where
  items : List (Key × Value)
  distinct : (items.map Prod.fst).Nodup

namespace PyDict
variable {Key : Type u} {Value : Type v} [DecidableEq Key]

def find (key : Key) : List (Key × Value) → Option Value
  | [] => none
  | item :: rest => if item.1 = key then some item.2 else find key rest

def assign (key : Key) (value : Value) : List (Key × Value) → List (Key × Value)
  | [] => [(key, value)]
  | item :: rest => if item.1 = key then (key, value) :: rest else item :: assign key value rest

theorem mem_keys_assign (key : Key) (value : Value) (items : List (Key × Value)) (other : Key) :
    other ∈ (assign key value items).map Prod.fst ↔ other = key ∨ other ∈ items.map Prod.fst := by
  induction items with
  | nil => simp [assign]
  | cons item rest ih =>
    by_cases same : item.1 = key
    · simp only [assign, same, if_true, List.map_cons, List.mem_cons]
      tauto
    · simp only [assign, same, if_false, List.map_cons, List.mem_cons, ih]
      tauto

theorem nodup_assign {key : Key} {value : Value} {items : List (Key × Value)}
    (distinct : (items.map Prod.fst).Nodup) : ((assign key value items).map Prod.fst).Nodup := by
  induction items with
  | nil => simp [assign]
  | cons item rest ih =>
    obtain ⟨fresh, distinct⟩ := List.nodup_cons.mp distinct
    by_cases same : item.1 = key
    · subst same
      rw [assign, if_pos rfl, List.map_cons]
      exact List.nodup_cons.mpr ⟨fresh, distinct⟩
    · rw [assign, if_neg same, List.map_cons]
      refine List.nodup_cons.mpr ⟨fun member => ?_, ih distinct⟩
      rcases (mem_keys_assign key value rest item.1).mp member with equal | present
      · exact same equal
      · exact fresh present

theorem find_assign (key other : Key) (value : Value) (items : List (Key × Value)) :
    find other (assign key value items) = if key = other then some value else find other items := by
  induction items with
  | nil => simp [assign, find]
  | cons item rest ih =>
    by_cases same : item.1 = key
    · subst same
      by_cases sought : item.1 = other <;> simp [assign, find, sought]
    · rw [assign, if_neg same, find, find]
      by_cases sought : item.1 = other
      · subst sought
        rw [if_pos rfl, if_pos rfl, if_neg (Ne.symm same)]
      · rw [if_neg sought, if_neg sought, ih]

theorem find_filter (key other : Key) (items : List (Key × Value)) :
    find other (items.filter fun item => item.1 ≠ key) = if key = other then none else find other items := by
  induction items with
  | nil => simp [find]
  | cons item rest ih =>
    by_cases same : item.1 = key
    · rw [List.filter_cons_of_neg (by simpa using same), ih, find]
      by_cases sought : key = other
      · rw [if_pos sought, if_pos sought]
      · rw [if_neg sought, if_neg sought, if_neg (same ▸ sought)]
    · rw [List.filter_cons_of_pos (by simpa using same), find, find]
      by_cases sought : item.1 = other
      · subst sought
        rw [if_pos rfl, if_pos rfl, if_neg (Ne.symm same)]
      · rw [if_neg sought, if_neg sought, ih]

/-- `{}`. -/
def empty : PyDict Key Value := ⟨[], List.nodup_nil⟩

/-- `d.get(key)`. -/
def get (d : PyDict Key Value) (key : Key) : Option Value := find key d.items

/-- `d[key] = value`. -/
def set (d : PyDict Key Value) (key : Key) (value : Value) : PyDict Key Value :=
  ⟨assign key value d.items, nodup_assign d.distinct⟩

/-- `d.pop(key, None)`, the dictionary that is left. -/
def pop (d : PyDict Key Value) (key : Key) : PyDict Key Value :=
  ⟨d.items.filter fun item => item.1 ≠ key, d.distinct.sublist (List.filter_sublist.map _)⟩

/-- `{key: value for key, value in d.items() if keeps(value)}`. -/
def filter (d : PyDict Key Value) (keeps : Value → Bool) : PyDict Key Value :=
  ⟨d.items.filter fun item => keeps item.2, d.distinct.sublist (List.filter_sublist.map _)⟩

@[simp] theorem get_empty (key : Key) : (empty : PyDict Key Value).get key = none := rfl

theorem get_set (d : PyDict Key Value) (key other : Key) (value : Value) :
    (d.set key value).get other = if key = other then some value else d.get other :=
  find_assign key other value d.items

@[simp] theorem get_set_self (d : PyDict Key Value) (key : Key) (value : Value) :
    (d.set key value).get key = some value := by
  simp [get_set]

theorem get_pop (d : PyDict Key Value) (key other : Key) :
    (d.pop key).get other = if key = other then none else d.get other :=
  find_filter key other d.items

@[simp] theorem get_pop_self (d : PyDict Key Value) (key : Key) : (d.pop key).get key = none := by
  simp [get_pop]

theorem mem_items_of_get {d : PyDict Key Value} {key : Key} {value : Value} (found : d.get key = some value) :
    (key, value) ∈ d.items := by
  obtain ⟨items, distinct⟩ := d
  simp only [get] at found
  induction items with
  | nil => simp [find] at found
  | cons item rest ih =>
    by_cases same : item.1 = key
    · simp only [find, same, if_true, Option.some.injEq] at found
      subst same; subst found
      exact List.mem_cons_self
    · simp only [find, same, if_false] at found
      exact List.mem_cons_of_mem _ (ih (List.nodup_cons.mp distinct).2 found)

theorem get_of_mem_items {d : PyDict Key Value} {key : Key} {value : Value} (member : (key, value) ∈ d.items) :
    d.get key = some value := by
  obtain ⟨items, distinct⟩ := d
  simp only [get]
  induction items with
  | nil => simp at member
  | cons item rest ih =>
    obtain ⟨fresh, distinct⟩ := List.nodup_cons.mp distinct
    rcases List.mem_cons.mp member with rfl | later
    · simp [find]
    · have apart : item.1 ≠ key := fun same => fresh (same ▸ List.mem_map_of_mem later)
      rw [find, if_neg apart]
      exact ih distinct later

theorem mem_items_iff {d : PyDict Key Value} {key : Key} {value : Value} :
    (key, value) ∈ d.items ↔ d.get key = some value := ⟨get_of_mem_items, mem_items_of_get⟩

theorem mem_keys_iff {d : PyDict Key Value} {key : Key} : key ∈ d.items.map Prod.fst ↔ d.get key ≠ none := by
  rw [Option.ne_none_iff_exists', List.mem_map]
  constructor
  · rintro ⟨⟨key, value⟩, member, rfl⟩
    exact ⟨value, mem_items_iff.mp member⟩
  · rintro ⟨value, found⟩
    exact ⟨_, mem_items_iff.mpr found, rfl⟩

theorem get_filter (d : PyDict Key Value) (keeps : Value → Bool) (key : Key) :
    (d.filter keeps).get key = (d.get key).filter keeps := by
  apply Option.ext
  intro value
  rw [← mem_items_iff, Option.filter_eq_some_iff, ← mem_items_iff]
  exact List.mem_filter

theorem assign_of_find {key : Key} {value : Value} {items : List (Key × Value)} (found : find key items = some value) :
    assign key value items = items := by
  induction items with
  | nil => cases found
  | cons item rest ih =>
    rw [find] at found
    rw [assign]
    split_ifs at found ⊢ with same
    · obtain rfl := Option.some.inj found
      rw [← same]
    · rw [ih found]

/-- To assign what is there changes nothing. -/
theorem set_of_get {d : PyDict Key Value} {key : Key} {value : Value} (found : d.get key = some value) :
    d.set key value = d := by
  obtain ⟨items, distinct⟩ := d
  have same : assign key value items = items := assign_of_find found
  unfold set
  congr 1

/-- The values after an assignment: the assigned one and old ones. -/
theorem mem_values_set {d : PyDict Key Value} {key : Key} {value other : Value}
    (member : other ∈ (d.set key value).items.map Prod.snd) : other = value ∨ other ∈ d.items.map Prod.snd := by
  obtain ⟨⟨k, v⟩, present, rfl⟩ := List.mem_map.mp member
  have found := mem_items_iff.mp present
  rw [get_set] at found
  split_ifs at found with same
  · exact .inl (Option.some.inj found).symm
  · exact .inr (List.mem_map.mpr ⟨(k, v), mem_items_of_get found, rfl⟩)

theorem sum_assign (weight : Value → Nat) (key : Key) (value : Value) (items : List (Key × Value)) :
    ((assign key value items).map fun item => weight item.2).sum + (find key items).elim 0 weight =
      (items.map fun item => weight item.2).sum + weight value := by
  induction items with
  | nil => simp [assign, find]
  | cons item rest ih =>
    by_cases same : item.1 = key
    · simp only [assign, find, same, if_true, List.map_cons, List.sum_cons, Option.elim_some]
      omega
    · simp only [assign, find, same, if_false, List.map_cons, List.sum_cons]
      omega

/-- The sum of a weight over all values, after an assignment. -/
theorem sum_set (weight : Value → Nat) (d : PyDict Key Value) (key : Key) (value : Value) :
    ((d.set key value).items.map fun item => weight item.2).sum + (d.get key).elim 0 weight =
      (d.items.map fun item => weight item.2).sum + weight value := sum_assign weight key value d.items

/-- Dictionaries that agree on every key have the same values, in some order. -/
theorem values_perm {View : Type v} {view : Value → View} {d e : PyDict Key Value}
    (agree : ∀ key, (d.get key).map view = (e.get key).map view) :
    (d.items.map fun item => view item.2).Perm (e.items.map fun item => view item.2) := by
  have nodup (c : PyDict Key Value) : (c.items.map fun item => (item.1, view item.2)).Nodup := by
    refine List.Nodup.of_map Prod.fst ?_
    simpa [Function.comp_def] using c.distinct
  have mem (c : PyDict Key Value) (key : Key) (seen : View) :
      (key, seen) ∈ c.items.map (fun item => (item.1, view item.2)) ↔ (c.get key).map view = some seen := by
    rw [List.mem_map, Option.map_eq_some_iff]
    constructor
    · rintro ⟨⟨k, value⟩, member, equal⟩
      obtain ⟨rfl, rfl⟩ := Prod.mk.inj equal
      exact ⟨value, mem_items_iff.mp member, rfl⟩
    · rintro ⟨value, found, rfl⟩
      exact ⟨(key, value), mem_items_iff.mpr found, rfl⟩
  have pairs : (d.items.map fun item => (item.1, view item.2)).Perm (e.items.map fun item => (item.1, view item.2)) := by
    refine (List.perm_ext_iff_of_nodup (nodup d) (nodup e)).mpr ?_
    rintro ⟨key, seen⟩
    rw [mem, mem, agree]
  simpa [Function.comp_def] using pairs.map Prod.snd

/-- A change of the value of a key, if it is there. -/
def modify (d : PyDict Key Value) (key : Key) (f : Value → Value) : PyDict Key Value :=
  match d.get key with
  | none => d
  | some value => d.set key (f value)

theorem get_modify (d : PyDict Key Value) (key other : Key) (f : Value → Value) :
    (d.modify key f).get other = if key = other then (d.get other).map f else d.get other := by
  unfold modify
  by_cases same : key = other
  · subst same
    rw [if_pos rfl]
    cases found : d.get key with
    | none => exact found
    | some value => exact get_set_self ..
  · rw [if_neg same]
    cases found : d.get key with
    | none => rfl
    | some value => simp only [get_set, if_neg same]

theorem get_modify_eq_none (d : PyDict Key Value) (key other : Key) (f : Value → Value) :
    (d.modify key f).get other = none ↔ d.get other = none := by
  rw [get_modify]
  split_ifs
  · exact Option.map_eq_none_iff
  · rfl

theorem keys_assign (key : Key) (value : Value) (items : List (Key × Value)) :
    (assign key value items).map Prod.fst =
      if key ∈ items.map Prod.fst then items.map Prod.fst else items.map Prod.fst ++ [key] := by
  induction items with
  | nil => rfl
  | cons item rest ih =>
    by_cases same : item.1 = key
    · simp [assign, same]
    · rw [assign, if_neg same, List.map_cons, ih, List.map_cons]
      by_cases later : key ∈ rest.map Prod.fst
      · rw [if_pos later, if_pos (List.mem_cons_of_mem _ later)]
      · rw [if_neg later, if_neg (by simpa [Ne.symm same] using later), List.cons_append]

/-- A new key comes last. -/
theorem keys_set (d : PyDict Key Value) (key : Key) (value : Value) : (d.set key value).items.map Prod.fst =
    if d.get key = none then d.items.map Prod.fst ++ [key] else d.items.map Prod.fst := by
  rw [set, keys_assign]
  by_cases present : key ∈ d.items.map Prod.fst
  · rw [if_pos present, if_neg (mem_keys_iff.mp present)]
  · rw [if_neg present, if_pos (by simpa using mt mem_keys_iff.mpr present)]

theorem keys_modify (d : PyDict Key Value) (key : Key) (f : Value → Value) :
    (d.modify key f).items.map Prod.fst = d.items.map Prod.fst := by
  unfold modify
  cases found : d.get key with
  | none => rfl
  | some value => rw [keys_set, if_neg (by simp [found])]

/-- Dictionaries with the same keys have as many items. -/
theorem length_eq {Other : Type v} {d : PyDict Key Value} {e : PyDict Key Other}
    (same : ∀ key, d.get key ≠ none ↔ e.get key ≠ none) : d.items.length = e.items.length := by
  have keys : (d.items.map Prod.fst).Perm (e.items.map Prod.fst) := by
    refine (List.perm_ext_iff_of_nodup d.distinct e.distinct).mpr fun key => ?_
    rw [mem_keys_iff, mem_keys_iff, same]
  simpa using keys.length_eq

/-- Every value changed, under its key. -/
def mapItems {Other : Type v} (d : PyDict Key Value) (f : Key → Value → Other) : PyDict Key Other :=
  ⟨d.items.map fun item => (item.1, f item.1 item.2), by simpa [Function.comp_def] using d.distinct⟩

theorem get_mapItems {Other : Type v} (d : PyDict Key Value) (f : Key → Value → Other) (key : Key) :
    (d.mapItems f).get key = (d.get key).map (f key) := by
  obtain ⟨items, distinct⟩ := d
  simp only [get, mapItems]
  clear distinct
  induction items with
  | nil => rfl
  | cons item rest ih =>
    rw [List.map_cons, find, find, ih]
    split_ifs with same
    · rw [same, Option.map_some]
    · rfl

/-- The items of a key: one, if it is there. -/
theorem filter_key (d : PyDict Key Value) (key : Key) :
    (d.items.filter fun item => item.1 = key) = ((d.get key).map fun value => (key, value)).toList := by
  obtain ⟨items, distinct⟩ := d
  simp only [get]
  induction items with
  | nil => rfl
  | cons item rest ih =>
    obtain ⟨fresh, distinct⟩ := List.nodup_cons.mp distinct
    by_cases same : item.1 = key
    · subst same
      have none_ : rest.filter (fun other => other.1 = item.1) = [] := by
        refine List.filter_eq_nil_iff.mpr fun other member => ?_
        have apart : other.1 ≠ item.1 := fun equal => fresh (equal ▸ List.mem_map_of_mem member)
        simpa using apart
      rw [List.filter_cons_of_pos (by simp), none_]
      simp [find]
    · rw [List.filter_cons_of_neg (by simpa using same), ih distinct, find, if_neg same]

theorem assign_of_fresh {key : Key} {items : List (Key × Value)} (fresh : key ∉ items.map Prod.fst) (value : Value) :
    assign key value items = items ++ [(key, value)] := by
  induction items with
  | nil => rfl
  | cons item rest ih =>
    rw [List.map_cons, List.mem_cons, not_or] at fresh
    rw [assign, if_neg (Ne.symm fresh.1), ih fresh.2, List.cons_append]

/-- `d.update(items)`. -/
def update (d : PyDict Key Value) (items : List (Key × Value)) : PyDict Key Value :=
  items.foldl (fun d item => d.set item.1 item.2) d

theorem mem_or_mem_of_update {item : Key × Value} {items : List (Key × Value)} {d : PyDict Key Value}
    (member : item ∈ (d.update items).items) : item ∈ items ∨ item ∈ d.items := by
  induction items generalizing d with
  | nil => exact Or.inr member
  | cons first rest ih =>
    obtain later | new := ih (d := d.set first.1 first.2) member
    · exact Or.inl (List.mem_cons_of_mem _ later)
    · have got := mem_items_iff.mp new
      rw [get_set] at got
      split_ifs at got with same
      · have equal : first = item := Prod.ext same (Option.some.inj got)
        exact Or.inl (equal ▸ List.mem_cons_self)
      · exact Or.inr (mem_items_iff.mpr got)

/-- Items under new keys come last, in their order. -/
theorem items_update {items : List (Key × Value)} {d : PyDict Key Value}
    (distinct : ((d.items ++ items).map Prod.fst).Nodup) : (d.update items).items = d.items ++ items := by
  induction items generalizing d with
  | nil => exact (List.append_nil _).symm
  | cons item rest ih =>
    have fresh : item.1 ∉ d.items.map Prod.fst := by
      rw [List.map_append, List.nodup_append] at distinct
      exact fun present => distinct.2.2 _ present _ List.mem_cons_self rfl
    have added : (d.set item.1 item.2).items = d.items ++ [item] := assign_of_fresh fresh item.2
    rw [List.append_cons, ← added] at distinct ⊢
    exact ih distinct

omit [DecidableEq Key] in
theorem eq_of_items {d e : PyDict Key Value} (same : d.items = e.items) : d = e := by
  cases d
  cases e
  cases same
  rfl

/-- A dictionary is made of its items. -/
theorem empty_update (d : PyDict Key Value) : empty.update d.items = d := eq_of_items (items_update d.distinct)

theorem find_update (items : List (Key × Value)) (key : Key) (d : PyDict Key Value)
    (distinct : (items.map Prod.fst).Nodup) : (d.update items).get key = (find key items).or (d.get key) := by
  induction items generalizing d with
  | nil => rfl
  | cons item rest ih =>
    obtain ⟨fresh, distinct⟩ := List.nodup_cons.mp distinct
    refine (ih (d.set item.1 item.2) distinct).trans ?_
    rw [get_set, find]
    split_ifs with same
    · have absent : find key rest = none := by
        by_contra present
        exact fresh (same ▸ mem_keys_iff (d := ⟨rest, distinct⟩).mpr present)
      rw [absent, Option.none_or, Option.some_or]
    · rfl

/-- `{**d, **e}` has what `e` has, and of the rest what `d` has. -/
theorem get_update (d e : PyDict Key Value) (key : Key) : (d.update e.items).get key = (e.get key).or (d.get key) :=
  find_update e.items key d e.distinct

theorem mapItems_set {Other : Type v} (d : PyDict Key Value) (key : Key) (value : Value) (f : Key → Value → Other) :
    (d.set key value).mapItems f = (d.mapItems f).set key (f key value) := by
  apply eq_of_items
  change (assign key value d.items).map _ = assign key (f key value) (d.items.map _)
  induction d.items with
  | nil => rfl
  | cons item rest ih =>
    rw [assign, List.map_cons, assign]
    split_ifs with same
    · rw [List.map_cons]
    · rw [List.map_cons, ih]

theorem mapItems_update {Other : Type v} (d : PyDict Key Value) (items : List (Key × Value)) (f : Key → Value → Other) :
    (d.update items).mapItems f = (d.mapItems f).update (items.map fun item => (item.1, f item.1 item.2)) := by
  induction items generalizing d with
  | nil => rfl
  | cons item rest ih => exact (ih (d.set item.1 item.2)).trans (congrArg (update · _) (mapItems_set d _ _ f))

/-- A dictionary is its keys, in their order, and what they are looked up to. -/
theorem eq_of_get {d e : PyDict Key Value} (keys : d.items.map Prod.fst = e.items.map Prod.fst)
    (same : ∀ key, d.get key = e.get key) : d = e := by
  have listed (c : PyDict Key Value) :
      c.items.map some = (c.items.map Prod.fst).map fun key => (c.get key).map (Prod.mk key) := by
    rw [List.map_map]
    refine List.map_congr_left fun item member => ?_
    rw [Function.comp_apply, mem_items_iff.mp member, Option.map_some]
  have equal : d.items.map some = e.items.map some := by rw [listed, listed, keys, funext same]
  exact eq_of_items (List.map_injective_iff.mpr (fun _ _ some_ => Option.some.inj some_) equal)

end PyDict
end Marlinspike
