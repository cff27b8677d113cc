import Mathlib.Data.List.Induction
import Mathlib.Data.List.Nodup

/-!
The first item of every key: items are taken one after the other, and those whose key has been
seen already are left out.
-/
namespace Marlinspike.Firsts
universe u v
variable {Item : Type u} {Key : Type v} [DecidableEq Key] (key : Item → Key)

/-- The keys that have been seen, and the items that are kept. -/
structure Kept (Item : Type u) (Key : Type v) where
  seen : List Key := []
  items : List Item := []

def add (kept : Kept Item Key) (item : Item) : Kept Item Key :=
  if key item ∈ kept.seen then kept else ⟨kept.seen ++ [key item], kept.items ++ [item]⟩

def firsts (items : List Item) : List Item := (items.foldl (add key) {}).items

variable {key}

/-- What is seen is what the items that are kept have for keys. -/
theorem seen_foldl_add (items : List Item) (kept : Kept Item Key) (same : kept.seen = kept.items.map key) :
    (items.foldl (add key) kept).seen = (items.foldl (add key) kept).items.map key := by
  induction items generalizing kept with
  | nil => exact same
  | cons item rest ih =>
    rw [List.foldl_cons]
    refine ih _ ?_
    unfold add
    split_ifs
    · exact same
    · rw [List.map_append, same, List.map_singleton]

theorem firsts_concat (items : List Item) (item : Item) : firsts key (items ++ [item]) =
    if key item ∈ (firsts key items).map key then firsts key items else firsts key items ++ [item] := by
  have seen : (items.foldl (add key) {}).seen = (firsts key items).map key := seen_foldl_add items {} rfl
  rw [firsts, List.foldl_concat, add, seen, apply_ite Kept.items]
  rfl

theorem mem_of_mem_firsts {items : List Item} {item : Item} (member : item ∈ firsts key items) : item ∈ items := by
  induction items using List.reverseRecOn with
  | nil => exact member
  | append_singleton items last ih =>
    rw [firsts_concat] at member
    split_ifs at member
    · exact List.mem_append_left _ (ih member)
    · exact (List.mem_append.mp member).elim (fun old => List.mem_append_left _ (ih old))
        fun new => List.mem_append_right _ new

theorem nodup_firsts (items : List Item) : ((firsts key items).map key).Nodup := by
  induction items using List.reverseRecOn with
  | nil => exact List.nodup_nil
  | append_singleton items last ih =>
    rw [firsts_concat]
    split_ifs with seen
    · exact ih
    · rw [List.map_append, List.map_singleton]
      rw [← List.concat_eq_append]
      exact ih.concat seen

/-- Every key is kept. -/
theorem key_mem_firsts {items : List Item} {item : Item} (member : item ∈ items) : key item ∈ (firsts key items).map key := by
  induction items using List.reverseRecOn with
  | nil => cases member
  | append_singleton items last ih =>
    rw [firsts_concat]
    split_ifs with seen
    · obtain old | new := List.mem_append.mp member
      · exact ih old
      · rw [List.mem_singleton.mp new]; exact seen
    · rw [List.map_append]
      obtain old | new := List.mem_append.mp member
      · exact List.mem_append_left _ (ih old)
      · rw [List.mem_singleton.mp new]; exact List.mem_append_right _ (List.mem_singleton_self _)

/-- And it is the key of one item alone. -/
theorem countP_firsts {items : List Item} {item : Item} (member : item ∈ items) :
    (firsts key items).countP (fun other => key other = key item) = 1 := by
  have kept : key item ∈ (firsts key items).map key := key_mem_firsts member
  have one := List.count_eq_one_of_mem (nodup_firsts items) kept
  rw [List.count, List.countP_map] at one
  exact one

/-- Keys that tell the same items apart keep the same items. -/
theorem firsts_congr {Other : Type v} [DecidableEq Other] {other : Item → Other} {items : List Item}
    (same : ∀ item ∈ items, ∀ item' ∈ items, key item = key item' ↔ other item = other item') :
    firsts key items = firsts other items := by
  induction items using List.reverseRecOn with
  | nil => rfl
  | append_singleton items last ih =>
    have before := ih fun item member item' member' =>
      same item (List.mem_append_left _ member) item' (List.mem_append_left _ member')
    have seen : key last ∈ (firsts key items).map key ↔ other last ∈ (firsts other items).map other := by
      rw [← before]
      simp only [List.mem_map]
      refine exists_congr fun item => and_congr_right fun kept => ?_
      exact same item (List.mem_append_left _ (mem_of_mem_firsts kept)) last (List.mem_append_right _ (List.mem_singleton_self _))
    rw [firsts_concat, firsts_concat, before]
    exact if_congr (before ▸ seen) rfl rfl

theorem firsts_map {Source : Type u} (make : Source → Item) (sources : List Source) :
    firsts key (sources.map make) = (firsts (key ∘ make) sources).map make := by
  induction sources using List.reverseRecOn with
  | nil => rfl
  | append_singleton sources last ih =>
    rw [List.map_append, List.map_singleton, firsts_concat, firsts_concat, ih, List.map_map, Function.comp_apply]
    by_cases seen : key (make last) ∈ (firsts (key ∘ make) sources).map (key ∘ make)
    · rw [if_pos seen, if_pos seen]
    · rw [if_neg seen, if_neg seen, List.map_append, List.map_singleton]

end Marlinspike.Firsts
