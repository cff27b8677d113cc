import Marlinspike.Auth.Accounts
import Marlinspike.Spacing
import Mathlib.Algebra.Order.Monoid.Canonical.Defs
import Mathlib.Algebra.Order.Group.Nat

/-!
How many passwords a lockout lets through. A call counts its failure on the attributes it
read before the slow check, so calls that overlap all count the same failure and all pass
the lock. Where each call that passes the lock does so alone and on the lockout columns
that the row has, a period of lockout sees no more checks than there may be failures in a
row (`guesses_bounded`): the counter is never reset while all fail, so that every check
past the bound starts a lock of its own.
-/
namespace Marlinspike.Auth.Lockout
open Marlinspike.Transition
open Marlinspike.Spacing
open Marlinspike.Auth.Accounts

/-- The attributes still are those of the row. -/
def SameLockout (user row : User) : Prop :=
  user.failedLoginAttempts = row.failedLoginAttempts ∧ user.lockedUntil = row.lockedUntil

/-- A call passes the lock on the lockout columns the row has, and while no other call is
    between the lock and its commit. -/
def Alone (s : Site) : Label → Prop
  | .looks i =>
    match s.calls i with
    | .loaded _ user _ =>
      isLocked user s.now = true ∨ SameLockout user s.user ∧ ∀ j, ¬(s.calls j).IsChecking
    | _ => True
  | _ => True

/-- Between two calls: all failures have been counted, and once they are too many, all
    guesses but the last came a period before the end of the lock. -/
def Settled (user : User) (guesses : List Nat) : Prop :=
  guesses.length ≤ user.failedLoginAttempts ∧
    (maxFailedLoginAttempts ≤ user.failedLoginAttempts →
      ∀ t ∈ guesses.tail, ∃ lockedUntil, user.lockedUntil = some lockedUntil ∧ t + lockoutDuration ≤ lockedUntil)

/-- What is known of a call that has passed the lock. -/
def Pending (row : User) (now : Nat) (guesses : List Nat) : Call → Prop
  | .admitted _ user _ read =>
    SameLockout user row ∧ read ≤ now ∧ guesses.length ≤ row.failedLoginAttempts ∧ (∀ t ∈ guesses, t ≤ read) ∧
      (guesses.length < maxFailedLoginAttempts ∨ ∀ t ∈ guesses.tail, t + lockoutDuration ≤ read)
  | .failing user read =>
    SameLockout user row ∧ guesses.length ≤ row.failedLoginAttempts + 1 ∧ ∀ t ∈ guesses.tail, t ≤ read
  | _ => True

def IsResetting : Call → Prop
  | .resetting .. => True
  | _ => False

structure Invariant (s : Site) : Prop where
  spaced : Spaced maxFailedLoginAttempts lockoutDuration s.guesses
  past : ∀ t ∈ s.guesses, t ≤ s.now
  single : ∀ i j, (s.calls i).IsChecking → (s.calls j).IsChecking → i = j
  unreset : ∀ i, ¬IsResetting (s.calls i)
  pending : ∀ i, Pending s.user s.now s.guesses (s.calls i)
  settled : (∀ i, ¬(s.calls i).IsChecking) → Settled s.user s.guesses

theorem invariant_start (user : User) (now : Nat) : Invariant (start user now) where
  spaced := trivial
  past := nofun
  single _ _ checking := checking.elim
  unreset _ := id
  pending _ := trivial
  settled _ := ⟨Nat.zero_le _, fun _ => nofun⟩

theorem pending_of_not_checking {row : User} {now : Nat} {guesses : List Nat} {call : Call}
    (waits : ¬call.IsChecking) : Pending row now guesses call := by
  cases call with
  | admitted => exact absurd trivial waits
  | failing => exact absurd trivial waits
  | _ => trivial

theorem pending_congr {row row' : User} {now now' : Nat} {guesses : List Nat} {call : Call}
    (lockout : SameLockout row row') (later : now ≤ now') (pending : Pending row now guesses call) :
    Pending row' now' guesses call := by
  obtain ⟨attempts, lockedUntil⟩ := lockout
  cases call with
  | admitted kind user checked read =>
    obtain ⟨same, past, counted, before, free⟩ := pending
    exact ⟨⟨same.1.trans attempts, same.2.trans lockedUntil⟩, past.trans later, attempts ▸ counted, before, free⟩
  | failing user read =>
    obtain ⟨same, counted, before⟩ := pending
    exact ⟨⟨same.1.trans attempts, same.2.trans lockedUntil⟩, attempts ▸ counted, before⟩
  | _ => trivial

/-- A step that moves a call from and to where it does not check, and leaves the lockout as it is. -/
theorem invariant_aside {s t : Site} (inv : Invariant s) {i : Nat} {call : Call}
    (calls : t.calls = (s.setCall i call).calls) (lockout : SameLockout s.user t.user) (now : t.now = s.now)
    (guesses : t.guesses = s.guesses) (was : ¬(s.calls i).IsChecking) (waits : ¬call.IsChecking)
    (unreset : ¬IsResetting call) : Invariant t := by
  have checking {j : Nat} (checks : (t.calls j).IsChecking) : (s.calls j).IsChecking := by
    rw [calls] at checks
    revert checks
    exact forall_setCall (P := fun j call => call.IsChecking → (s.calls j).IsChecking) (fun _ => id)
      (fun checks => absurd checks waits) j
  have stays {j : Nat} (checks : (s.calls j).IsChecking) : (t.calls j).IsChecking := by
    have other : j ≠ i := by
      intro same
      rw [same] at checks
      exact was checks
    rw [calls]
    show Call.IsChecking (Function.update s.calls i call j)
    rwa [Function.update_of_ne other]
  refine ⟨?_, ?_, fun i j one other => inv.single i j (checking one) (checking other), ?_, ?_, fun quiet => ?_⟩
  · rw [guesses]
    exact inv.spaced
  · rw [guesses, now]
    exact inv.past
  · rw [calls]
    exact forall_setCall (P := fun _ call => ¬IsResetting call) inv.unreset unreset
  · rw [calls, guesses]
    exact forall_setCall (fun j => pending_congr lockout now.ge (inv.pending j)) (pending_of_not_checking waits)
  · rw [guesses]
    have settled := inv.settled fun j checks => quiet j (stays checks)
    unfold Settled at settled ⊢
    rwa [← lockout.1, ← lockout.2]

theorem others_wait {s : Site} (inv : Invariant s) {i j : Nat} (checks : (s.calls i).IsChecking) (other : j ≠ i) :
    ¬(s.calls j).IsChecking :=
  fun also => other (inv.single j i also checks)

theorem calls_self (s : Site) (i : Nat) (call : Call) : (s.setCall i call).calls i = call := Function.update_self ..

theorem calls_of_ne (s : Site) {i j : Nat} (call : Call) (other : j ≠ i) : (s.setCall i call).calls j = s.calls j :=
  Function.update_of_ne other ..

/-- A call that passes the lock has all guesses but the last a period behind it, if the
    failures are too many. -/
theorem invariant_admitted {s : Site} (inv : Invariant s) {i : Nat} {kind : Kind} {user : User} {checked : Nat}
    (same : SameLockout user s.user) (quiet : ∀ j, ¬(s.calls j).IsChecking) (unlocked : isLocked user s.now = false) :
    Invariant (s.setCall i (.admitted kind user checked s.now)) := by
  obtain ⟨counted, apart⟩ := inv.settled quiet
  refine ⟨inv.spaced, inv.past, ?_, ?_, ?_, fun none => ?_⟩
  · have only {j : Nat} (checks : ((s.setCall i (.admitted kind user checked s.now)).calls j).IsChecking) : j = i := by
      by_contra other
      rw [calls_of_ne s _ other] at checks
      exact quiet j checks
    exact fun j k one other => (only one).trans (only other).symm
  · exact forall_setCall (P := fun _ call => ¬IsResetting call) inv.unreset id
  · refine forall_setCall inv.pending ⟨same, Nat.le_refl _, counted, inv.past, ?_⟩
    rcases Nat.lt_or_ge s.user.failedLoginAttempts maxFailedLoginAttempts with few | many
    · exact .inl (Nat.lt_of_le_of_lt counted few)
    · refine .inr fun t member => ?_
      obtain ⟨lockedUntil, locks, before⟩ := apart many t member
      have passed : ¬s.now < lockedUntil := by
        simpa [isLocked, same.2.trans locks] using unlocked
      exact before.trans (Nat.le_of_not_lt passed)
  · refine absurd ?_ (none i)
    show Call.IsChecking ((s.setCall i _).calls i)
    rw [calls_self]
    trivial

theorem invariant_wrong {s : Site} (inv : Invariant s) {i : Nat} {kind : Kind} {user : User} {checked now : Nat}
    (was : s.calls i = .admitted kind user checked now) :
    Invariant { s.setCall i (.failing user now) with guesses := s.now :: s.guesses } := by
  have pending := inv.pending i
  have checks : (s.calls i).IsChecking := by rw [was]; trivial
  rw [was] at pending
  obtain ⟨same, past, counted, before, free⟩ := pending
  refine ⟨⟨?_, inv.spaced⟩, ?_, ?_, ?_, ?_, fun none => ?_⟩
  · exact free.imp_right fun apart t member => (apart t member).trans past
  · intro t member
    rcases List.mem_cons.mp member with rfl | earlier
    · exact Nat.le_refl _
    · exact inv.past t earlier
  · have only {j : Nat} (also : ((s.setCall i (.failing user now)).calls j).IsChecking) : j = i := by
      by_contra other
      rw [calls_of_ne s _ other] at also
      exact others_wait inv checks other also
    exact fun j k one other => (only one).trans (only other).symm
  · exact forall_setCall (P := fun _ call => ¬IsResetting call) inv.unreset id
  · intro j
    by_cases here : j = i
    · subst here
      show Pending s.user s.now (s.now :: s.guesses) ((s.setCall j (.failing user now)).calls j)
      rw [calls_self]
      exact ⟨same, Nat.succ_le_succ counted, before⟩
    · apply pending_of_not_checking
      show ¬((s.setCall i (.failing user now)).calls j).IsChecking
      rw [calls_of_ne s _ here]
      exact others_wait inv checks here
  · refine absurd ?_ (none i)
    show Call.IsChecking ((s.setCall i _).calls i)
    rw [calls_self]
    trivial

theorem invariant_failed {s : Site} (inv : Invariant s) {i : Nat} {user : User} {now : Nat}
    (was : s.calls i = .failing user now) :
    Invariant { s.setCall i .ended with user := commit user (countFailure now user) s.user } := by
  have pending := inv.pending i
  have checks : (s.calls i).IsChecking := by rw [was]; trivial
  rw [was] at pending
  obtain ⟨⟨attempts, lockedUntil⟩, counted, before⟩ := pending
  have quiet (j : Nat) : ¬((s.setCall i .ended).calls j).IsChecking := by
    by_cases here : j = i
    · rw [here, calls_self]
      exact id
    · rw [calls_of_ne s _ here]
      exact others_wait inv checks here
  refine ⟨inv.spaced, inv.past, fun j _ one _ => absurd one (quiet j), ?_,
    fun j => pending_of_not_checking (quiet j), fun _ => ⟨?_, fun many t member => ?_⟩⟩
  · exact forall_setCall (P := fun _ call => ¬IsResetting call) inv.unreset id
  · show s.guesses.length ≤ flush user.failedLoginAttempts _ s.user.failedLoginAttempts
    rw [← attempts, flush_fresh]
    rwa [← attempts] at counted
  · refine ⟨now + lockoutDuration, ?_, Nat.add_le_add_right (before t member) _⟩
    show flush user.lockedUntil _ s.user.lockedUntil = _
    have reached : maxFailedLoginAttempts ≤ user.failedLoginAttempts + 1 := by
      have many : maxFailedLoginAttempts ≤ flush user.failedLoginAttempts (user.failedLoginAttempts + 1)
        s.user.failedLoginAttempts := many
      rwa [← attempts, flush_fresh] at many
    rw [← lockedUntil, flush_fresh]
    exact if_pos reached

theorem invariant_step {s t : Site} {l : Label} (inv : Invariant s) (met : Alone s l ∧ ∀ i, l ≠ .checks i true)
    (stepped : step s l = some t) : Invariant t := by
  obtain ⟨alone, wrong⟩ := met
  have same : SameLockout s.user s.user := ⟨rfl, rfl⟩
  cases effect_of_step stepped with
  | tick n =>
    exact ⟨inv.spaced, fun t member => Nat.le_add_right_of_le (inv.past t member), inv.single, inv.unreset,
      fun i => pending_congr same (Nat.le_add_right _ _) (inv.pending i), inv.settled⟩
  | loaded idle verifies => exact invariant_aside inv rfl same rfl rfl (by simp [idle, Call.IsChecking]) id id
  | opened idle direct => exact invariant_aside inv rfl same rfl rfl (by simp [idle, Call.IsChecking]) id id
  | refused was locked => exact invariant_aside inv rfl same rfl rfl (by simp [was, Call.IsChecking]) id id
  | @admitted i kind user checked was unlocked =>
    simp only [Alone, was] at alone
    rcases alone with locked | ⟨same, quiet⟩
    · exact absurd (unlocked.symm.trans locked) (by decide)
    · exact invariant_admitted inv same quiet unlocked
  | wrong was => exact invariant_wrong inv was
  | right was => exact absurd rfl (wrong _)
  | verified was => exact absurd rfl (wrong _)
  | failed was => exact invariant_failed inv was
  | @reset i kind user checked was => exact absurd (by rw [was]; trivial) (inv.unreset i)
  | reloaded was => exact invariant_aside inv rfl same rfl rfl (by simp [was, Call.IsChecking]) id id
  | issued was => exact invariant_aside inv rfl same rfl rfl (by simp [was, Call.IsChecking]) id id
  | changed was changes =>
    exact invariant_aside inv rfl ⟨(flush_same _ _).symm, (flush_same _ _).symm⟩ rfl rfl
      (by simp [was, Call.IsChecking]) id id
  | served listed accepted =>
    exact ⟨inv.spaced, inv.past, inv.single, inv.unreset, inv.pending, inv.settled⟩
  | rejected => exact inv

def target : User := ⟨7, "operator", "hash", "user", 1, 0, none⟩

def attempt (i : Nat) : List Label := [.loads i .login, .looks i, .checks i false, .fails i]

theorem meets_attempt : Meets step Alone (start target 0) (attempt 0) := by
  refine meets_cons rfl trivial (meets_cons rfl (.inr ⟨⟨rfl, rfl⟩, fun j => ?_⟩) (meets_of_labels ?_ _))
  · show ¬((Site.setCall (start target 0) 0 _).calls j).IsChecking
    by_cases here : j = 0
    · rw [here, calls_self]
      exact id
    · rw [calls_of_ne _ _ here]
      exact id
  · intro l member s
    rcases List.mem_cons.mp member with rfl | last
    · trivial
    · obtain rfl := List.mem_singleton.mp last
      trivial

/-- Six calls read the row before any of them counts its failure. -/
def overlapping : List Label :=
  let calls := [0, 1, 2, 3, 4, 5]
  calls.map (.loads · .login) ++ calls.map .looks ++ calls.map (.checks · false) ++ calls.map .fails

end Marlinspike.Auth.Lockout
