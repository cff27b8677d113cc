import Mathlib.Algebra.BigOperators.Group.List.Basic
import Mathlib.Data.List.Induction
import Mathlib.Order.Basic
import Marlinspike.Grouping

/-!
A value gathered from items one after the other, beginning with none. The laws of the
first item and of each further one say what the value has from all of them: a sum, a union,
a bound that one of them attains, or what only the first one gives.
-/
namespace Marlinspike.Gathering
universe u v w x
variable {Key : Type u} {Value : Type v} {Item : Type w}

/-- What the items are gathered to: the first starts a value, and each further one is added. -/
def gather (start : Item → Value) (add : Value → Item → Value) (items : List Item) : Option Value :=
  items.foldl (fun value item => some (value.elim (start item) (add · item))) none

variable {start : Item → Value} {add : Value → Item → Value}

theorem gather_concat (items : List Item) (item : Item) : gather start add (items ++ [item]) =
    some ((gather start add items).elim (start item) (add · item)) := by
  rw [gather, List.foldl_append]
  rfl

theorem gather_eq_none_iff {items : List Item} : gather start add items = none ↔ items = [] := by
  cases items using List.reverseRecOn with
  | nil => exact ⟨fun _ => rfl, fun _ => rfl⟩
  | append_singleton items item => simp [gather_concat]

/-- A view that follows every step is gathered from what the items look like. -/
theorem map_gather {View : Type x} {Seen : Type u} {view : Value → View} {seen : Item → Seen}
    {start' : Seen → View} {add' : View → Seen → View} (first : ∀ item, view (start item) = start' (seen item))
    (next : ∀ value item, view (add value item) = add' (view value) (seen item)) (items : List Item) :
    (gather start add items).map view = gather start' add' (items.map seen) := by
  induction items using List.reverseRecOn with
  | nil => rfl
  | append_singleton items item ih =>
    rw [List.map_append, List.map_singleton, gather_concat, gather_concat, ← ih]
    cases gather start add items with
    | none => exact congrArg some (first item)
    | some value => exact congrArg some (next value item)

section Gathered
variable {items : List Item} {value : Value} (gathered : gather start add items = some value)
include gathered

/-- The induction rule: what holds after the first item, and is kept by each of the others. -/
theorem gather_induction (holds : List Item → Value → Prop) (first : ∀ item, holds [item] (start item))
    (next : ∀ items value item, items ≠ [] → holds items value → holds (items ++ [item]) (add value item)) :
    holds items value := by
  induction items using List.reverseRecOn generalizing value with
  | nil => simp [gather] at gathered
  | append_singleton items item ih =>
    rw [gather_concat] at gathered
    obtain rfl := Option.some.inj gathered
    cases before : gather start add items with
    | none =>
      obtain rfl := gather_eq_none_iff.mp before
      exact first item
    | some value => exact next items value item (fun none_ => by simp [none_, gather] at before) (ih before)

/-- Every item adds its own amount. -/
theorem sum_of_gather (amount : Value → Nat) (own : Item → Nat) (first : ∀ item, amount (start item) = own item)
    (next : ∀ value item, amount (add value item) = amount value + own item) :
    amount value = (items.map own).sum := by
  refine gather_induction gathered (fun items value => amount value = (items.map own).sum) ?_ ?_
  · intro item
    simp [first]
  · intro items value item _ held
    simp [next, held]

/-- Every item puts its own elements into a set. -/
theorem mem_of_gather {Element : Type x} (mem : Element → Value → Prop) (own : Element → Item → Prop)
    (first : ∀ element item, mem element (start item) ↔ own element item)
    (next : ∀ element value item, mem element (add value item) ↔ mem element value ∨ own element item)
    (element : Element) : mem element value ↔ ∃ item ∈ items, own element item := by
  refine gather_induction gathered (fun items value => mem element value ↔ ∃ item ∈ items, own element item) ?_ ?_
  · intro item
    simp [first]
  · intro items value item _ held
    simp [next, held, or_and_right, exists_or]

/-- What bounds the value bounds every item. -/
theorem bounds_of_gather {Bound : Type x} (bounds : Bound → Value → Prop) (own : Bound → Item → Prop)
    (first : ∀ bound item, bounds bound (start item) ↔ own bound item)
    (next : ∀ bound value item, bounds bound (add value item) ↔ bounds bound value ∧ own bound item)
    (bound : Bound) : bounds bound value ↔ ∀ item ∈ items, own bound item := by
  refine gather_induction gathered (fun items value => bounds bound value ↔ ∀ item ∈ items, own bound item) ?_ ?_
  · intro item
    simp [first]
  · intro items value item _ held
    simp [next, held, or_imp, forall_and]

/-- A choice between the value and an item is the choice of an item. -/
theorem chosen_of_gather {Part : Type x} (part : Value → Part) (own : Item → Part)
    (first : ∀ item, part (start item) = own item)
    (next : ∀ value item, part (add value item) = part value ∨ part (add value item) = own item) :
    ∃ item ∈ items, part value = own item := by
  refine gather_induction gathered (fun items value => ∃ item ∈ items, part value = own item) ?_ ?_
  · intro item
    exact ⟨item, List.mem_singleton_self item, first item⟩
  · rintro items value item - ⟨chosen, member, is⟩
    rcases next value item with same | changed
    · exact ⟨chosen, List.mem_append_left _ member, same.trans is⟩
    · exact ⟨item, by simp, changed⟩

/-- What the items after the first do not change is the first one's. -/
theorem first_of_gather {Part : Type x} (part : Value → Part) (own : Item → Part) (kept : Part → Prop)
    (first : ∀ item, part (start item) = own item)
    (next : ∀ value item, kept (part value) → part (add value item) = part value) :
    ∃ item, items.head? = some item ∧ (kept (own item) → part value = own item) := by
  refine gather_induction gathered
    (fun items value => ∃ item, items.head? = some item ∧ (kept (own item) → part value = own item)) ?_ ?_
  · intro item
    exact ⟨item, rfl, fun _ => first item⟩
  · rintro items value item some_ ⟨head, is, held⟩
    refine ⟨head, by rw [List.head?_append_of_ne_nil _ some_, is], fun keeps => ?_⟩
    rw [next, held keeps]
    rw [held keeps]
    exact keeps

end Gathered

/-- The value of a key in a dictionary that is filled from batches. -/
theorem get_addBatches_eq_gather [DecidableEq Key] {rules : Grouping.Rules Key Value Item}
    (first : ∀ item, rules.update none false item = start item)
    (next : ∀ value seen item, rules.update (some value) seen item = add value item) (key : Key)
    (batches : List (List Item)) : (Grouping.addBatches rules PyDict.empty batches).get key =
      gather start add (Grouping.itemsOf rules key batches.flatten) := by
  have reached := @Grouping.get_addBatches_induction _ _ _ _ rules key (fun _ => True)
    (fun items value => gather start add items = some value)
    (fun item _ _ => congrArg some (first item).symm) ?_ batches (fun _ _ => trivial)
  · rcases reached with ⟨none_, nil⟩ | ⟨value, found, gathered⟩
    · rw [none_, nil]
      rfl
    · rw [found, gathered]
  · intro items value seen item _ _ held
    rw [gather_concat, held, Option.elim_some, next]

end Marlinspike.Gathering
