import Marlinspike.Auth.Accounts

/-!
The requests that carry one reset token, each in a database session of its own. A request
loads the token when it validates it, and what it selects again under the row lock is the
object it has loaded, with the values of then: the check under the lock tells nothing that
the validation has not told. The token is redeemed once as long as no request goes on with
a token whose row another has changed since (`redeemed_once_iff`).
-/
namespace Marlinspike.Auth.Tokens
open Marlinspike.Transition
open Marlinspike.Auth.Accounts (User commit changePassword)

structure PasswordResetToken where
  userId : Nat
  expiresAt : Nat
  usedAt : Option Nat
deriving DecidableEq, Repr

/-- `validate_reset_token` on the row of the token. -/
def validateResetToken (now : Nat) (row : Option PasswordResetToken) : Option PasswordResetToken :=
  match row with
  | none => none
  | some token => if token.usedAt ≠ none then none else if now > token.expiresAt then none else some token

/-- What a query gives in a session that has loaded the row before: the loaded object. -/
def selectLoaded (loaded : PasswordResetToken) (row : Option PasswordResetToken) : Option PasswordResetToken :=
  row.map fun _ => loaded

/-- Where a request stands, with its object of the token. -/
inductive Request where
  | idle
  | validated (token : PasswordResetToken)
  /-- The row lock is held. -/
  | locked (token : PasswordResetToken)
  | refused
  | answered
deriving DecidableEq, Repr

structure Site where
  token : Option PasswordResetToken
  user : User
  now : Nat
  /-- Who holds the row lock of the token. -/
  lock : Option Nat
  requests : Nat → Request
  /-- The requests that have changed the password, in order, each with the hash it set. -/
  redeemed : List (Nat × String)

def issued (userId expiresAt : Nat) : PasswordResetToken := ⟨userId, expiresAt, none⟩

def start (user : User) (userId expiresAt now : Nat) : Site :=
  ⟨some (issued userId expiresAt), user, now, none, fun _ => .idle, []⟩

inductive Label where
  | tick (n : Nat)
  | validates (i : Nat)
  | locks (i : Nat)
  /-- The object is used already: the transaction ends, and the lock with it. -/
  | refuses (i : Nat)
  | redeems (i : Nat) (hash : String)
deriving DecidableEq, Repr

def Site.setRequest (s : Site) (i : Nat) (request : Request) : Site :=
  { s with requests := Function.update s.requests i request }

def validates (s : Site) (i : Nat) : Option Site :=
  if s.requests i = .idle then
    some (s.setRequest i
      (match validateResetToken s.now s.token with
        | some token => .validated token
        | none => .refused))
  else none

/-- `SELECT … FOR UPDATE`, which waits for the lock. -/
def locks (s : Site) (i : Nat) : Option Site :=
  match s.requests i with
  | .validated token =>
    if s.lock = none then
      some
        (match selectLoaded token s.token with
        | some locked => { s.setRequest i (.locked locked) with lock := some i }
        | none => s.setRequest i .refused)
    else none
  | _ => none

def refuses (s : Site) (i : Nat) : Option Site :=
  match s.requests i with
  | .locked token => if token.usedAt = none then none else some { s.setRequest i .refused with lock := none }
  | _ => none

/-- The rest of `use_reset_token`. -/
def redeems (s : Site) (i : Nat) (hash : String) : Option Site :=
  match s.requests i with
  | .locked token =>
    if token.usedAt = none then
      some
        { s.setRequest i .answered with
          user := commit s.user (changePassword hash s.user) s.user
          token := s.token.map fun row => { row with usedAt := some s.now }
          lock := none
          redeemed := s.redeemed ++ [(i, hash)] }
    else none
  | _ => none

def step (s : Site) : Label → Option Site
  | .tick n => some { s with now := s.now + n }
  | .validates i => validates s i
  | .locks i => locks s i
  | .refuses i => refuses s i
  | .redeems i hash => redeems s i hash

/-- The row of the token is as the request has loaded it. -/
def Fresh (s : Site) : Label → Prop
  | .redeems i _ =>
    match s.requests i with
    | .locked token => s.token = some token
    | _ => True
  | _ => True

instance (s : Site) (l : Label) : Decidable (Fresh s l) := by
  unfold Fresh
  split
  · split <;> infer_instance
  · infer_instance

/-- The token changes the password once at most. -/
def RedeemedOnce (s : Site) : Prop := s.redeemed.length ≤ 1

/-! ### The invariant -/

/-- A request has the token as it was issued. -/
def Loaded (token : PasswordResetToken) : Request → Prop
  | .validated loaded | .locked loaded => loaded = token
  | _ => True

structure Invariant (token : PasswordResetToken) (s : Site) : Prop where
  requests : ∀ i, Loaded token (s.requests i)
  unused : s.redeemed = [] → s.token = some token
  used : s.redeemed ≠ [] → ∃ now, s.token = some { token with usedAt := some now }

theorem invariant_start (user : User) (userId expiresAt now : Nat) :
    Invariant (issued userId expiresAt) (start user userId expiresAt now) :=
  ⟨fun _ => trivial, fun _ => rfl, fun some_ => absurd rfl some_⟩

/-- A request moves, and what the table holds stays. -/
theorem invariant_setRequest {token : PasswordResetToken} {s t : Site} (inv : Invariant token s) {i : Nat}
    {request : Request} (requests : t.requests = (s.setRequest i request).requests) (row : t.token = s.token)
    (redeemed : t.redeemed = s.redeemed) (loaded : Loaded token request) : Invariant token t := by
  refine ⟨fun j => ?_, ?_, ?_⟩
  · rw [requests]
    show Loaded token (Function.update s.requests i request j)
    by_cases same : j = i
    · subst same
      rwa [Function.update_self]
    · rw [Function.update_of_ne same]
      exact inv.requests j
  · rw [row, redeemed]
    exact inv.unused
  · rw [row, redeemed]
    exact inv.used

/-- Only an unused token is found valid. -/
theorem loaded_of_valid {token found : PasswordResetToken} {s : Site} (inv : Invariant token s)
    (valid : validateResetToken s.now s.token = some found) : found = token := by
  by_cases fresh : s.redeemed = []
  · rw [inv.unused fresh] at valid
    simp only [validateResetToken] at valid
    split at valid
    · cases valid
    · split at valid
      · cases valid
      · exact (Option.some.inj valid).symm
  · obtain ⟨now, row⟩ := inv.used fresh
    rw [row] at valid
    simp [validateResetToken] at valid

theorem row_of_invariant {token : PasswordResetToken} {s : Site} (inv : Invariant token s) :
    ∃ usedAt, s.token = some { token with usedAt := usedAt } := by
  by_cases fresh : s.redeemed = []
  · exact ⟨token.usedAt, inv.unused fresh⟩
  · obtain ⟨now, row⟩ := inv.used fresh
    exact ⟨some now, row⟩

theorem invariant_step {token : PasswordResetToken} {s t : Site} {l : Label} (inv : Invariant token s)
    (stepped : step s l = some t) : Invariant token t := by
  cases l with
  | tick n =>
    cases stepped
    exact ⟨inv.requests, inv.unused, inv.used⟩
  | validates i =>
    simp only [step, validates, Option.ite_none_right_eq_some, Option.some.injEq] at stepped
    obtain ⟨_, rfl⟩ := stepped
    refine invariant_setRequest inv rfl rfl rfl ?_
    split
    · next found valid => exact loaded_of_valid inv valid
    · trivial
  | locks i =>
    simp only [step, locks] at stepped
    split at stepped
    · next loaded was =>
      have known := inv.requests i
      rw [was] at known
      simp only [Option.ite_none_right_eq_some, Option.some.injEq] at stepped
      obtain ⟨_, rfl⟩ := stepped
      split
      · next locked found =>
        obtain ⟨_, _, rfl⟩ := Option.map_eq_some_iff.mp found
        exact invariant_setRequest inv rfl rfl rfl known
      · exact invariant_setRequest inv rfl rfl rfl trivial
    · cases stepped
  | refuses i =>
    simp only [step, refuses] at stepped
    split at stepped
    · simp only [Option.ite_none_left_eq_some, Option.some.injEq] at stepped
      obtain ⟨_, rfl⟩ := stepped
      exact invariant_setRequest inv rfl rfl rfl trivial
    · cases stepped
  | redeems i hash =>
    simp only [step, redeems] at stepped
    split at stepped
    · simp only [Option.ite_none_right_eq_some, Option.some.injEq] at stepped
      obtain ⟨_, rfl⟩ := stepped
      obtain ⟨usedAt, row⟩ := row_of_invariant inv
      refine ⟨fun j => ?_, fun none => ?_, fun _ => ⟨s.now, ?_⟩⟩
      · show Loaded token (Function.update s.requests i .answered j)
        by_cases same : j = i
        · subst same
          rw [Function.update_self]
          trivial
        · rw [Function.update_of_ne same]
          exact inv.requests j
      · exact absurd none (by simp)
      · show s.token.map _ = _
        rw [row]
        rfl
    · cases stepped

/-- A step keeps the token to one redemption exactly if it goes on with a fresh token. -/
theorem redeemedOnce_step {token : PasswordResetToken} (isNew : token.usedAt = none) {s t : Site} {l : Label}
    (inv : Invariant token s) (once : RedeemedOnce s) (stepped : step s l = some t) :
    RedeemedOnce t ↔ Fresh s l := by
  have kept (same : t.redeemed = s.redeemed) (free : Fresh s l) : RedeemedOnce t ↔ Fresh s l := by
    unfold RedeemedOnce
    rw [same]
    exact iff_of_true once free
  cases l with
  | tick n =>
    cases stepped
    exact kept rfl trivial
  | validates i =>
    simp only [step, validates, Option.ite_none_right_eq_some, Option.some.injEq] at stepped
    obtain ⟨_, rfl⟩ := stepped
    exact kept rfl trivial
  | locks i =>
    simp only [step, locks] at stepped
    split at stepped
    · simp only [Option.ite_none_right_eq_some, Option.some.injEq] at stepped
      obtain ⟨_, rfl⟩ := stepped
      refine kept ?_ trivial
      split <;> rfl
    · cases stepped
  | refuses i =>
    simp only [step, refuses] at stepped
    split at stepped
    · simp only [Option.ite_none_left_eq_some, Option.some.injEq] at stepped
      obtain ⟨_, rfl⟩ := stepped
      exact kept rfl trivial
    · cases stepped
  | redeems i hash =>
    simp only [step, redeems] at stepped
    split at stepped
    · next loaded was =>
      have known : loaded = token := by
        have known := inv.requests i
        rwa [was] at known
      subst known
      simp only [Option.ite_none_right_eq_some, Option.some.injEq] at stepped
      obtain ⟨_, rfl⟩ := stepped
      have free : Fresh s (.redeems i hash) ↔ s.token = some loaded := by
        show (match s.requests i with | .locked token => s.token = some token | _ => True) ↔ _
        rw [was]
      rw [free]
      show (s.redeemed ++ [(i, hash)]).length ≤ 1 ↔ _
      rw [List.length_append, List.length_singleton]
      by_cases fresh : s.redeemed = []
      · exact iff_of_true (by simp [fresh]) (inv.unused fresh)
      · obtain ⟨now, row⟩ := inv.used fresh
        refine iff_of_false ?_ fun same => ?_
        · have some_ := List.length_pos_iff.mpr fresh
          omega
        · rw [row, Option.some.injEq] at same
          have used : some now = loaded.usedAt := congrArg PasswordResetToken.usedAt same
          rw [isNew] at used
          cases used
    · cases stepped

/-- A token is redeemed once at most in exactly the runs in which every request that goes
    on under the lock has the token as its row is. -/
theorem redeemed_once_iff (user : User) (userId expiresAt now : Nat) (labels : List Label) :
    Always step RedeemedOnce (start user userId expiresAt now) labels ↔
      Meets step Fresh (start user userId expiresAt now) labels :=
  always_iff_meets (Invariant (issued userId expiresAt)) (fun _ _ _ inv _ stepped _ => invariant_step inv stepped)
    (fun _ _ _ inv once stepped => redeemedOnce_step rfl inv once stepped)
    (invariant_start user userId expiresAt now) (Nat.zero_le 1)

def operator : User := ⟨7, "operator", "first", "user", 1, 0, none⟩

/-- Both requests validate the token before either locks its row. -/
def bothValidate : List Label :=
  [.validates 0, .validates 1, .locks 0, .redeems 0 "second", .locks 1, .redeems 1 "third"]

theorem redeemed_twice : ∃ s, run step (start operator 7 1800 0) bothValidate = some s ∧ ¬RedeemedOnce s ∧
    s.user.passwordHash = "third" := by
  have redeemed : (run step (start operator 7 1800 0) bothValidate).map (fun s => (s.redeemed, s.user.passwordHash)) =
      some ([(0, "second"), (1, "third")], "third") := by decide
  obtain ⟨s, ran, redeemed⟩ := Option.map_eq_some_iff.mp redeemed
  obtain ⟨twice, hash⟩ := Prod.mk.inj redeemed
  refine ⟨s, ran, ?_, hash⟩
  unfold RedeemedOnce
  rw [twice]
  decide

end Marlinspike.Auth.Tokens
