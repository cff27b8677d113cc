import Mathlib.Data.List.Count
import Mathlib.Data.List.Flatten
import Mathlib.Data.List.Induction
import Mathlib.Tactic.SplitIfs
import Marlinspike.PyDict

/-!
A dictionary filled from batches of items, one value a key, with the keys that the
present batch has touched kept in a set: the loop over all items, read key by key.
The rules say what a value has from its items when each item counts its batch once,
adds to a set, offers a candidate for the best so far, or is looked at only when first.
-/
namespace Marlinspike.Grouping
universe u v w x
variable {Key : Type u} {Value : Type v} {Item : Type w} [DecidableEq Key]

structure Groups (Key : Type u) (Value : Type v) where
  dict : PyDict Key Value
  /-- The keys that the batch has touched. -/
  seen : List Key

/-- How items are grouped: their key, and the value after an item, from the value before and
    whether the batch has touched it. -/
structure Rules (Key : Type u) (Value : Type v) (Item : Type w) where
  key : Item → Key
  update : Option Value → Bool → Item → Value

variable (rules : Rules Key Value Item)

def add (groups : Groups Key Value) (item : Item) : Groups Key Value :=
  let k := rules.key item
  ⟨groups.dict.set k (rules.update (groups.dict.get k) (decide (k ∈ groups.seen)) item), k :: groups.seen⟩

def addBatch (dict : PyDict Key Value) (batch : List Item) : PyDict Key Value :=
  (batch.foldl (add rules) ⟨dict, []⟩).dict

def addBatches (dict : PyDict Key Value) (batches : List (List Item)) : PyDict Key Value :=
  batches.foldl (addBatch rules) dict

/-! ### One key -/

/-- The items of a key. -/
def itemsOf (k : Key) (items : List Item) : List Item := items.filter (rules.key · = k)

/-- A batch has an item of the key. -/
def touches (k : Key) (batch : List Item) : Bool := batch.any (rules.key · = k)

/-- What an item of the key does to its value. -/
def visit (state : Option Value × Bool) (item : Item) : Option Value × Bool :=
  (some (rules.update state.1 state.2 item), true)

variable {rules}

theorem mem_itemsOf {k : Key} {items : List Item} {item : Item} :
    item ∈ itemsOf rules k items ↔ item ∈ items ∧ rules.key item = k := by
  simp [itemsOf]

theorem itemsOf_append (k : Key) (first second : List Item) :
    itemsOf rules k (first ++ second) = itemsOf rules k first ++ itemsOf rules k second := List.filter_append ..

theorem touches_iff {k : Key} {batch : List Item} : touches rules k batch = true ↔ itemsOf rules k batch ≠ [] := by
  rw [touches, List.any_eq_true, ne_eq, List.eq_nil_iff_forall_not_mem, not_forall]
  simp [mem_itemsOf]

variable (rules) in
/-- The loop over a batch, read at one key. -/
theorem foldl_add_at (k : Key) (groups : Groups Key Value) (items : List Item) :
    ((items.foldl (add rules) groups).dict.get k, decide (k ∈ (items.foldl (add rules) groups).seen)) =
      (itemsOf rules k items).foldl (visit rules) (groups.dict.get k, decide (k ∈ groups.seen)) := by
  induction items generalizing groups with
  | nil => rfl
  | cons item rest ih =>
    rw [List.foldl_cons, ih, itemsOf, itemsOf, List.filter_cons]
    by_cases own : rules.key item = k
    · rw [if_pos (by simpa using own), List.foldl_cons]
      simp [add, own, visit]
    · rw [if_neg (by simpa using own)]
      simp [add, PyDict.get_set, own, Ne.symm own]

theorem get_addBatch (k : Key) (dict : PyDict Key Value) (batch : List Item) :
    (addBatch rules dict batch).get k = ((itemsOf rules k batch).foldl (visit rules) (dict.get k, false)).1 := by
  have at_ := foldl_add_at rules k ⟨dict, []⟩ batch
  simp only [List.not_mem_nil, decide_false] at at_
  rw [← at_]
  rfl

theorem get_addBatch_of_untouched {k : Key} {dict : PyDict Key Value} {batch : List Item}
    (untouched : touches rules k batch = false) : (addBatch rules dict batch).get k = dict.get k := by
  have none_ : itemsOf rules k batch = [] := by
    by_contra some_
    simp [touches_iff.mpr some_] at untouched
  rw [get_addBatch, none_]
  rfl

theorem addBatches_append (dict : PyDict Key Value) (batches : List (List Item)) (batch : List Item) :
    addBatches rules dict (batches ++ [batch]) = addBatch rules (addBatches rules dict batches) batch := by
  rw [addBatches, List.foldl_append]
  rfl

/-- The induction rule over the items of a key: what holds after the first, and is kept by
    each of the others, holds of the items and the value at the end. -/
theorem get_addBatches_induction {k : Key} (valid : Item → Prop) (holds : List Item → Value → Prop)
    (first : ∀ item, valid item → rules.key item = k → holds [item] (rules.update none false item))
    (next : ∀ items value seen item, valid item → rules.key item = k → holds items value →
      holds (items ++ [item]) (rules.update (some value) seen item))
    (batches : List (List Item)) (all : ∀ item ∈ batches.flatten, valid item) :
    ((addBatches rules PyDict.empty batches).get k = none ∧ itemsOf rules k batches.flatten = []) ∨
      ∃ value, (addBatches rules PyDict.empty batches).get k = some value ∧
        holds (itemsOf rules k batches.flatten) value := by
  have inner : ∀ (items : List Item) (before : List Item) (state : Option Value × Bool),
      (∀ item ∈ items, valid item ∧ rules.key item = k) →
      (state = (none, false) ∧ before = [] ∨ ∃ value, state.1 = some value ∧ holds before value) →
      ((items.foldl (visit rules) state).1 = none ∧ before ++ items = []) ∨
        ∃ value, (items.foldl (visit rules) state).1 = some value ∧ holds (before ++ items) value := by
    intro items
    induction items with
    | nil =>
      rintro before state - (⟨rfl, rfl⟩ | ⟨value, is, held⟩)
      · exact .inl ⟨rfl, rfl⟩
      · exact .inr ⟨value, is, by simpa using held⟩
    | cons item rest ih =>
      intro before state keyed held
      rw [List.foldl_cons, List.append_cons]
      refine ih _ _ (fun other member => keyed other (List.mem_cons_of_mem _ member)) (.inr ⟨_, rfl, ?_⟩)
      obtain ⟨valid_, own⟩ := keyed item List.mem_cons_self
      rcases held with ⟨rfl, rfl⟩ | ⟨value, is, held⟩
      · exact first item valid_ own
      · rw [is]
        exact next before value state.2 item valid_ own held
  induction batches using List.reverseRecOn with
  | nil => exact .inl ⟨rfl, rfl⟩
  | append_singleton batches batch ih =>
    have flat : (batches ++ [batch]).flatten = batches.flatten ++ batch := by simp
    rw [flat] at all
    rw [addBatches_append, flat, itemsOf_append, get_addBatch]
    refine inner _ _ _ ?_ ?_
    · intro item member
      obtain ⟨present, keyed⟩ := mem_itemsOf.mp member
      exact ⟨all item (List.mem_append_right _ present), keyed⟩
    rcases ih fun item member => all item (List.mem_append_left _ member) with ⟨none_, empty⟩ | ⟨value, is, held⟩
    · exact .inl ⟨by rw [none_], empty⟩
    · exact .inr ⟨value, is, held⟩

/-! ### What the items say about the value -/

theorem get_eq_none_iff {k : Key} {batches : List (List Item)} :
    (addBatches rules PyDict.empty batches).get k = none ↔ ∀ item ∈ batches.flatten, rules.key item ≠ k := by
  have empty : itemsOf rules k batches.flatten = [] ↔ ∀ item ∈ batches.flatten, rules.key item ≠ k := by
    simp only [itemsOf, List.filter_eq_nil_iff, decide_eq_true_eq, ne_eq]
  rw [← empty]
  rcases @get_addBatches_induction _ _ _ _ rules k (fun _ => True) (fun items _ => items ≠ [])
    (fun _ _ _ => nofun) (fun items _ _ item _ _ _ => by simp) batches (fun _ _ => trivial) with ⟨none_, nil⟩ | ⟨value, found, some_⟩
  · simp [none_, nil]
  · simp [found, some_]

section Value
variable {k : Key} {batches : List (List Item)} {value : Value}
  (found : (addBatches rules PyDict.empty batches).get k = some value)
include found

/-- The rule of `get_addBatches_induction` for a key that is there. -/
theorem holds_of_get (valid : Item → Prop) (all : ∀ item ∈ batches.flatten, valid item)
    (holds : List Item → Value → Prop)
    (first : ∀ item, valid item → holds [item] (rules.update none false item))
    (next : ∀ items value seen item, valid item → holds items value →
      holds (items ++ [item]) (rules.update (some value) seen item)) :
    holds (itemsOf rules k batches.flatten) value := by
  rcases get_addBatches_induction valid holds (fun item valid_ _ => first item valid_)
    (fun items value seen item valid_ _ held => next items value seen item valid_ held) batches all with ⟨none_, -⟩ | ⟨other, is, held⟩
  · rw [found] at none_
    cases none_
  · rw [found] at is
    obtain rfl := Option.some.inj is
    exact held

/-- Every item puts its own elements into a set. -/
theorem mem_of_union {Element : Type x} (mem : Element → Value → Prop) (own : Element → Item → Prop)
    (union : ∀ element before seen item,
      mem element (rules.update before seen item) ↔ before.elim False (mem element) ∨ own element item)
    (element : Element) : mem element value ↔ ∃ item ∈ itemsOf rules k batches.flatten, own element item := by
  refine holds_of_get found (fun _ => True) (fun _ _ => trivial)
    (fun items value => mem element value ↔ ∃ item ∈ items, own element item) ?_ ?_
  · intro item _
    simp [union]
  · intro items value seen item _ held
    simp [union, held, or_and_right, exists_or]

/-- Every item offers a candidate, and the better one is kept. -/
theorem best_of_candidates {Candidate : Type x} (valid : Item → Prop) (all : ∀ item ∈ batches.flatten, valid item)
    (kept : Value → Candidate) (offer : Item → Candidate)
    (better : Candidate → Candidate → Prop) (refl : ∀ a, better a a)
    (trans : ∀ a b c, better a b → better b c → better a c)
    (first : ∀ seen item, kept (rules.update none seen item) = offer item)
    (next : ∀ value seen item prior, valid item → valid prior → kept value = offer prior →
      kept (rules.update (some value) seen item) = kept value ∧ better (kept value) (offer item) ∨
        kept (rules.update (some value) seen item) = offer item ∧ better (offer item) (kept value)) :
    (∃ item ∈ itemsOf rules k batches.flatten, kept value = offer item) ∧
      ∀ item ∈ itemsOf rules k batches.flatten, better (kept value) (offer item) := by
  have reached := holds_of_get found valid all
    (fun items value => (∃ item ∈ items, valid item ∧ kept value = offer item) ∧
      ∀ item ∈ items, better (kept value) (offer item)) ?_ ?_
  · obtain ⟨⟨item, member, -, is⟩, bound⟩ := reached
    exact ⟨⟨item, member, is⟩, bound⟩
  · intro item valid_
    simp [first, refl, valid_]
  · rintro items value seen item valid_ ⟨⟨best, member, bestValid, is⟩, bound⟩
    rcases next value seen item best valid_ bestValid is with ⟨same, wins⟩ | ⟨changed, wins⟩
    · rw [same]
      refine ⟨⟨best, List.mem_append_left _ member, bestValid, is⟩, ?_⟩
      intro other present
      rcases List.mem_append.mp present with before | own
      · exact bound other before
      · obtain rfl := List.mem_singleton.mp own
        exact wins
    · rw [changed]
      refine ⟨⟨item, by simp, valid_, rfl⟩, ?_⟩
      intro other present
      rcases List.mem_append.mp present with before | own
      · exact trans _ _ _ wins (bound other before)
      · obtain rfl := List.mem_singleton.mp own
        exact refl _

/-- Only the first item is looked at. -/
theorem first_of_created {Part : Type x} (part : Value → Part) (own : Item → Part)
    (first : ∀ seen item, part (rules.update none seen item) = own item)
    (next : ∀ value seen item, part (rules.update (some value) seen item) = part value) :
    ((itemsOf rules k batches.flatten).head?).map own = some (part value) := by
  refine holds_of_get found (fun _ => True) (fun _ _ => trivial)
    (fun items value => (items.head?).map own = some (part value)) ?_ ?_
  · intro item _
    simp [first]
  · intro items value seen item _ held
    cases items with
    | nil => simp at held
    | cons head rest =>
      rw [next]
      exact held

omit found in
/-- The first item of a key is that of the first batch that has one. -/
theorem head?_itemsOf_flatten : (itemsOf rules k batches.flatten).head? =
    batches.findSome? fun batch => (itemsOf rules k batch).head? := by
  rw [itemsOf, List.filter_flatten, List.head?_flatten, List.findSome?_map]
  rfl

/-! Two fillings with the same items give the same sets and the same best candidates. -/

section Same
variable {batches' : List (List Item)} {value' : Value}
  (found' : (addBatches rules PyDict.empty batches').get k = some value')
  (same : ∀ item, item ∈ batches.flatten ↔ item ∈ batches'.flatten)
include found' same

omit found found' in
theorem mem_itemsOf_same (item : Item) :
    item ∈ itemsOf rules k batches.flatten ↔ item ∈ itemsOf rules k batches'.flatten := by
  rw [mem_itemsOf, mem_itemsOf, same]

theorem mem_union_same {Element : Type x} (mem : Element → Value → Prop) (own : Element → Item → Prop)
    (union : ∀ element before seen item,
      mem element (rules.update before seen item) ↔ before.elim False (mem element) ∨ own element item)
    (element : Element) : mem element value ↔ mem element value' := by
  rw [mem_of_union found mem own union, mem_of_union found' mem own union]
  simp only [mem_itemsOf_same same]

theorem best_same {Candidate : Type x} (valid : Item → Prop) (all : ∀ item ∈ batches.flatten, valid item)
    (kept : Value → Candidate) (offer : Item → Candidate)
    (better : Candidate → Candidate → Prop) (refl : ∀ a, better a a)
    (trans : ∀ a b c, better a b → better b c → better a c)
    (antisymm : ∀ item ∈ batches.flatten, ∀ other ∈ batches.flatten,
      better (offer item) (offer other) → better (offer other) (offer item) → offer item = offer other)
    (first : ∀ seen item, kept (rules.update none seen item) = offer item)
    (next : ∀ value seen item prior, valid item → valid prior → kept value = offer prior →
      kept (rules.update (some value) seen item) = kept value ∧ better (kept value) (offer item) ∨
        kept (rules.update (some value) seen item) = offer item ∧ better (offer item) (kept value)) :
    kept value = kept value' := by
  obtain ⟨⟨item, member, is⟩, bound⟩ :=
    best_of_candidates found valid all kept offer better refl trans first next
  obtain ⟨⟨item', member', is'⟩, bound'⟩ :=
    best_of_candidates found' valid (fun item member => all item ((same item).mpr member)) kept offer better refl
      trans first next
  have here := (mem_itemsOf_same same item').mpr member'
  have there := (mem_itemsOf_same same item).mp member
  rw [is, is']
  refine antisymm item (mem_itemsOf.mp member).1 item' (mem_itemsOf.mp here).1 ?_ ?_
  · rw [← is]
    exact bound item' here
  · rw [← is']
    exact bound' item there

end Same

/-- What the first item decides is the same for two fillings from the same batches, where
    the batches agree on it. -/
theorem created_same {Part : Type x} {batches' : List (List Item)} {value' : Value}
    (found' : (addBatches rules PyDict.empty batches').get k = some value')
    (same : ∀ batch ∈ batches', batch ∈ batches) (part : Value → Part) (own : Item → Part)
    (first : ∀ seen item, part (rules.update none seen item) = own item)
    (next : ∀ value seen item, part (rules.update (some value) seen item) = part value)
    (agree : ∀ batch ∈ batches, ∀ other ∈ batches, ∀ item ∈ (itemsOf rules k batch).head?,
      ∀ otherItem ∈ (itemsOf rules k other).head?, own item = own otherItem) : part value = part value' := by
  have head := first_of_created found part own first next
  have head' := first_of_created found' part own first next
  rw [head?_itemsOf_flatten] at head head'
  obtain ⟨item, is, here⟩ := Option.map_eq_some_iff.mp head
  obtain ⟨item', is', there⟩ := Option.map_eq_some_iff.mp head'
  obtain ⟨batch, member, inBatch⟩ := List.exists_of_findSome?_eq_some is
  obtain ⟨batch', member', inBatch'⟩ := List.exists_of_findSome?_eq_some is'
  rw [← here, ← there]
  exact agree batch member batch' (same batch' member') item inBatch item' inBatch'

omit found in
/-- The first batch that has an item of the key decides. -/
theorem created_of_first_batch {Part : Type x} {batch : List Item} {item : Item}
    (found : (addBatches rules PyDict.empty (batch :: batches)).get k = some value)
    (head : (itemsOf rules k batch).head? = some item) (part : Value → Part) (own : Item → Part)
    (first : ∀ seen item, part (rules.update none seen item) = own item)
    (next : ∀ value seen item, part (rules.update (some value) seen item) = part value) : part value = own item := by
  have created := first_of_created found part own first next
  rw [head?_itemsOf_flatten, List.findSome?_cons, head] at created
  exact (Option.some.inj created).symm

end Value

/-! ### Counting batches -/

section Counts
variable (count : Value → Nat)
  (counted : ∀ before seen item,
    count (rules.update before seen item) = before.elim 0 count + if seen then 0 else 1)
include counted

omit [DecidableEq Key] in
theorem count_visits (items : List Item) (value : Option Value) :
    ((items.foldl (visit rules) (value, true)).1).elim 0 count = value.elim 0 count := by
  induction items generalizing value with
  | nil => rfl
  | cons item rest ih =>
    rw [List.foldl_cons, visit, ih]
    simp [counted]

/-- A value counts the batches that have touched its key. -/
theorem count_eq_countP (k : Key) (batches : List (List Item)) :
    ((addBatches rules PyDict.empty batches).get k).elim 0 count = batches.countP (touches rules k) := by
  induction batches using List.reverseRecOn with
  | nil => rfl
  | append_singleton batches batch ih =>
    rw [addBatches_append, List.countP_append, List.countP_singleton, ← ih]
    cases touched : touches rules k batch with
    | false => simp [get_addBatch_of_untouched touched]
    | true =>
      obtain ⟨item, rest, items⟩ := List.exists_cons_of_ne_nil (touches_iff.mp touched)
      rw [get_addBatch, items, List.foldl_cons, visit, count_visits count counted]
      simp [counted]

/-- The counts of all values grow with every key that a batch touches for the first time. -/
theorem sum_counts_add (groups : Groups Key Value) (item : Item) :
    ((add rules groups item).dict.items.map fun entry => count entry.2).sum =
      (groups.dict.items.map fun entry => count entry.2).sum +
        if rules.key item ∈ groups.seen then 0 else 1 := by
  have sum := PyDict.sum_set count groups.dict (rules.key item)
    (rules.update (groups.dict.get (rules.key item)) (decide (rules.key item ∈ groups.seen)) item)
  rw [counted] at sum
  simp only [decide_eq_true_eq] at sum
  simp only [add]
  omega

end Counts

/-! ### Counting items -/

omit [DecidableEq Key] in
theorem count_every (count : Value → Nat)
    (counted : ∀ before seen item, count (rules.update before seen item) = before.elim 0 count + 1)
    (items : List Item) (state : Option Value × Bool) :
    ((items.foldl (visit rules) state).1).elim 0 count = state.1.elim 0 count + items.length := by
  induction items generalizing state with
  | nil => rfl
  | cons item rest ih =>
    rw [List.foldl_cons, ih, visit, List.length_cons]
    simp only [Option.elim_some, counted]
    omega

/-- A value that counts every item has as many as its key. -/
theorem count_eq_length (count : Value → Nat)
    (counted : ∀ before seen item, count (rules.update before seen item) = before.elim 0 count + 1)
    (k : Key) (batches : List (List Item)) :
    ((addBatches rules PyDict.empty batches).get k).elim 0 count = (itemsOf rules k batches.flatten).length := by
  induction batches using List.reverseRecOn with
  | nil => rfl
  | append_singleton batches batch ih =>
    have flat : (batches ++ [batch]).flatten = batches.flatten ++ batch := by simp
    rw [addBatches_append, get_addBatch, count_every count counted, ih, flat, itemsOf_append, List.length_append]

/-- There are as many items as batches that have one exactly if no batch has two. -/
theorem length_itemsOf_eq_countP_iff (k : Key) (batches : List (List Item)) :
    (itemsOf rules k batches.flatten).length = batches.countP (touches rules k) ↔
      ∀ batch ∈ batches, (itemsOf rules k batch).length ≤ 1 := by
  have one (batch : List Item) : touches rules k batch = true ↔ 0 < (itemsOf rules k batch).length := by
    rw [touches_iff, List.length_pos_iff]
  have at_least (batches : List (List Item)) :
      batches.countP (touches rules k) ≤ (itemsOf rules k batches.flatten).length := by
    induction batches with
    | nil => exact Nat.le_refl 0
    | cons batch rest ih =>
      have own := one batch
      rw [List.flatten_cons, itemsOf_append, List.length_append, List.countP_cons]
      split_ifs with touched
      · have some_ := own.mp touched
        omega
      · omega
  induction batches with
  | nil => simp [itemsOf]
  | cons batch rest ih =>
    have own := one batch
    have others := at_least rest
    rw [List.flatten_cons, itemsOf_append, List.length_append, List.countP_cons, List.forall_mem_cons]
    refine Iff.trans ?_ (and_congr Iff.rfl ih)
    split_ifs with touched
    · have some_ := own.mp touched
      omega
    · have none_ : ¬ 0 < (itemsOf rules k batch).length := fun some_ => touched (own.mpr some_)
      omega

end Marlinspike.Grouping
