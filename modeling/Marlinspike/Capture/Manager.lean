import Marlinspike.PyDict

/-!
`CaptureSessionManager`'s table of interface locks: an interface is held by at most one
session, and `any` never beside another interface.
-/
namespace Marlinspike.Capture.Manager
universe u

/-- `CaptureSession.status`. -/
inductive Status where
  | pending
  | running
  | stopping
  | stopped
  | failed
deriving DecidableEq, Repr

/-- `_iface_locks`: interface → session. -/
abbrev Locks (Uuid : Type u) := PyDict String Uuid

/-- Who holds `any` holds it alone. -/
def Exclusive {Uuid : Type u} (locks : Locks Uuid) : Prop :=
  ∀ interface holder, locks.get "any" ≠ none → locks.get interface = some holder → interface = "any"

theorem exclusive_empty {Uuid : Type u} : Exclusive (PyDict.empty : Locks Uuid) := by
  intro interface holder held
  exact absurd rfl held

variable {Uuid : Type u} [DecidableEq Uuid]

/-- `acquire_interface`: the holder in the way, if any, and the locks after. -/
def acquireInterface (locks : Locks Uuid) (interface : String) (sessionUuid : Uuid) : Option Uuid × Locks Uuid :=
  match (locks.get interface).filter (· ≠ sessionUuid) with
  | some holder => (some holder, locks)
  | none =>
    if interface = "any" then
      match locks.items.any (·.1 ≠ "any"), locks.items.head? with
      | true, some first => (some first.2, locks)
      | _, _ => (none, locks.set interface sessionUuid)
    else
      match locks.get "any" with
      | some holder => (some holder, locks)
      | none => (none, locks.set interface sessionUuid)

def releaseInterface (locks : Locks Uuid) (interface : String) (sessionUuid : Uuid) : Locks Uuid :=
  if locks.get interface = some sessionUuid then locks.pop interface else locks

variable {locks : Locks Uuid} {interface : String} {sessionUuid : Uuid}

/-- A refused session leaves the locks as they are. -/
theorem locks_of_refused {holder : Uuid} (refused : (acquireInterface locks interface sessionUuid).1 = some holder) :
    (acquireInterface locks interface sessionUuid).2 = locks := by
  revert refused
  unfold acquireInterface
  split
  · exact fun _ => rfl
  · split_ifs
    · split <;> simp
    · split <;> simp

/-- A session that has acquired an interface has found nobody in the way. -/
theorem acquired_spec (acquired : (acquireInterface locks interface sessionUuid).1 = none) :
    (acquireInterface locks interface sessionUuid).2 = locks.set interface sessionUuid ∧
      (∀ holder, locks.get interface = some holder → holder = sessionUuid) ∧
      ∀ other holder, locks.get other = some holder → (interface = "any" ∨ other = "any") → other = interface := by
  revert acquired
  unfold acquireInterface
  cases held : (locks.get interface).filter (· ≠ sessionUuid) with
  | some holder => simp
  | none =>
    have own (holder) (present : locks.get interface = some holder) : holder = sessionUuid := by
      simpa using Option.filter_eq_none_iff.mp held holder present
    simp only
    split_ifs with any_
    · subst any_
      split
      · simp
      · rename_i none_
        refine fun _ => ⟨rfl, own, fun other holder present _ => ?_⟩
        by_contra apart
        have member := PyDict.mem_items_iff.mpr present
        have some_ : locks.items.any (·.1 ≠ "any") = true :=
          List.any_eq_true.mpr ⟨_, member, decide_eq_true apart⟩
        cases first : locks.items.head? with
        | none => simp [List.head?_eq_none_iff.mp first] at member
        | some item => exact none_ item some_ first
    · cases blocked : locks.get "any" with
      | some holder => simp
      | none =>
        refine fun _ => ⟨rfl, own, fun other holder present kind => ?_⟩
        rcases kind with same | rfl
        · exact absurd same any_
        · simp [blocked] at present

theorem exclusive_acquire (acquired : (acquireInterface locks interface sessionUuid).1 = none) :
    Exclusive (acquireInterface locks interface sessionUuid).2 := by
  obtain ⟨set_, -, alone⟩ := acquired_spec acquired
  rw [set_]
  intro other holder any_ present
  rw [PyDict.get_set] at any_ present
  by_cases wide : interface = "any"
  · subst wide
    split_ifs at present with same
    · exact same.symm
    · exact alone other holder present (.inl rfl)
  · rw [if_neg wide] at any_
    obtain ⟨first, held⟩ := Option.ne_none_iff_exists'.mp any_
    exact absurd (alone "any" first held (.inr rfl)).symm wide

theorem get_release (other : String) : (releaseInterface locks interface sessionUuid).get other =
    if interface = other ∧ locks.get interface = some sessionUuid then none else locks.get other := by
  unfold releaseInterface
  by_cases held : locks.get interface = some sessionUuid
  · rw [if_pos held, PyDict.get_pop]
    simp [held]
  · simp [held]

theorem exclusive_release (exclusive : Exclusive locks) : Exclusive (releaseInterface locks interface sessionUuid) := by
  intro other holder any_ present
  rw [get_release] at any_ present
  refine exclusive other holder (fun none_ => any_ ?_) ?_
  · rw [none_]
    simp
  · split_ifs at present
    exact present

end Marlinspike.Capture.Manager
