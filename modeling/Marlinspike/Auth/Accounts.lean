import Mathlib.Logic.Function.Basic
import Marlinspike.Transition

/-!
One account: the calls that log in to it or change its password, each in a database session
of its own, and the requests that are made on the sessions it has given out. A call reads
the row, works on the attributes it has loaded, and its commit writes the columns whose
attributes have changed, whatever the row holds by then; a commit expires the attributes,
so that the next access reads the row again. Nothing locks the row.
-/
namespace Marlinspike.Auth.Accounts
open Marlinspike.Transition

/-! ### Rows -/

structure User where
  id : Nat
  username : String
  passwordHash : String
  role : String
  sessionVersion : Int
  failedLoginAttempts : Nat
  lockedUntil : Option Nat
deriving DecidableEq, Repr

/-- A column after a commit, which leaves out an attribute that is as it was loaded. -/
def flush {α : Type} [DecidableEq α] (loaded assigned stored : α) : α :=
  if assigned = loaded then stored else assigned

def commit (loaded assigned row : User) : User :=
  { row with
    passwordHash := flush loaded.passwordHash assigned.passwordHash row.passwordHash
    sessionVersion := flush loaded.sessionVersion assigned.sessionVersion row.sessionVersion
    failedLoginAttempts := flush loaded.failedLoginAttempts assigned.failedLoginAttempts row.failedLoginAttempts
    lockedUntil := flush loaded.lockedUntil assigned.lockedUntil row.lockedUntil }

@[simp] theorem flush_same {α : Type} [DecidableEq α] (loaded stored : α) : flush loaded loaded stored = stored :=
  if_pos rfl

/-- A column that the row still holds as it was loaded takes what is assigned. -/
@[simp] theorem flush_fresh {α : Type} [DecidableEq α] (loaded assigned : α) :
    flush loaded assigned loaded = assigned := by
  unfold flush
  split
  · next same => exact same.symm
  · rfl

/-! ### `verify_user` and `change_password` -/

def maxFailedLoginAttempts : Nat := 5

/-- `_LOCKOUT_DURATION_MINUTES`, in microseconds. -/
def lockoutDuration : Nat := 15 * 60 * 1000000

def isLocked (user : User) (now : Nat) : Bool :=
  match user.lockedUntil with
  | some lockedUntil => now < lockedUntil
  | none => false

/-- The lockout columns after a right password. -/
def clearFailures (user : User) : User := { user with failedLoginAttempts := 0, lockedUntil := none }

/-- The lockout columns after a wrong password, where `now` was read before the check. -/
def countFailure (now : Nat) (user : User) : User :=
  { user with
    failedLoginAttempts := user.failedLoginAttempts + 1
    lockedUntil :=
      if maxFailedLoginAttempts ≤ user.failedLoginAttempts + 1 then some (now + lockoutDuration)
      else user.lockedUntil }

/-- `session_version or 1`. -/
def orOne (version : Int) : Int := if version = 0 then 1 else version

/-- What `change_password` and `use_reset_token` assign. -/
def changePassword (hash : String) (user : User) : User :=
  { user with passwordHash := hash, sessionVersion := orOne user.sessionVersion + 1 }

/-! ### Requests -/

/-- The signed cookie. -/
structure Session where
  user : Option String
  userId : Option Nat
  role : Option String
  sessionVersion : Option Int
deriving DecidableEq, Repr

/-- What `login_submit` puts in it. -/
def sessionOf (user : User) : Session :=
  ⟨some user.username, some user.id, some user.role, some (orOne user.sessionVersion)⟩

/-- `_session_invalidated`, with the users by id. -/
def sessionInvalidated (users : Nat → Option User) (session : Session) : Bool :=
  match session.sessionVersion, session.userId with
  | some version, some userId =>
    match users userId with
    | none => true
    | some user => user.sessionVersion ≠ version
  | _, _ => false

inductive Answer where
  | accepted
  | loginPage
  | notAuthenticated
  | sessionExpired
  | adminRoleRequired
  | forbidden
deriving DecidableEq, Repr

def loginRequired (users : Nat → Option User) (session : Session) : Answer :=
  if session.user = none then .loginPage
  else if sessionInvalidated users session then .loginPage
  else .accepted

def adminRequired (users : Nat → Option User) (isApi : Bool) (session : Session) : Answer :=
  if session.user = none then if isApi then .notAuthenticated else .loginPage
  else if sessionInvalidated users session then if isApi then .sessionExpired else .loginPage
  else if session.role ≠ some "admin" then if isApi then .adminRoleRequired else .forbidden
  else .accepted

inductive Route where
  | login
  | admin (isApi : Bool)
deriving DecidableEq, Repr

def Route.answer (route : Route) (users : Nat → Option User) (session : Session) : Answer :=
  match route with
  | .login => loginRequired users session
  | .admin isApi => adminRequired users isApi session

/-- Both decorators reject a session that is invalidated. -/
theorem answer_of_invalidated {users : Nat → Option User} {session : Session} (route : Route)
    (invalidated : sessionInvalidated users session = true) : route.answer users session ≠ .accepted := by
  cases route with
  | login =>
    show loginRequired users session ≠ _
    unfold loginRequired
    by_cases anonymous : session.user = none
    · rw [if_pos anonymous]
      exact nofun
    · rw [if_neg anonymous, if_pos invalidated]
      exact nofun
  | admin isApi =>
    show adminRequired users isApi session ≠ _
    unfold adminRequired
    by_cases anonymous : session.user = none
    · rw [if_pos anonymous]
      cases isApi <;> exact nofun
    · rw [if_neg anonymous, if_pos invalidated]
      cases isApi <;> exact nofun

/-! ### Calls -/

inductive Kind where
  | login
  /-- `change_password` once `verify_user` has accepted the current password. -/
  | account (hash : String)
  /-- `change_password` by an administrator. -/
  | admin (hash : String)
  /-- `use_reset_token`. -/
  | reset (hash : String)
deriving DecidableEq, Repr

def Kind.verifies : Kind → Bool
  | .login | .account _ => true
  | .admin _ | .reset _ => false

def Kind.newHash : Kind → Option String
  | .login => none
  | .account hash | .admin hash | .reset hash => some hash

/-- Where a call stands, with the attributes it has loaded. Passwords are numbered by the
    changes before them: `checked` is the number of the one that a check is made against,
    `since` that of the one when the attributes were read. -/
inductive Call where
  | idle
  | loaded (kind : Kind) (user : User) (checked : Nat)
  /-- The account was not locked at `now`. -/
  | admitted (kind : Kind) (user : User) (checked : Nat) (now : Nat)
  | failing (user : User) (now : Nat)
  | resetting (kind : Kind) (user : User) (checked : Nat)
  /-- The lockout columns have been committed, and the attributes have expired. -/
  | expired (kind : Kind) (checked : Nat)
  | ready (kind : Kind) (user : User) (checked since : Nat)
  | ended
deriving DecidableEq, Repr

/-- The call has passed the lock and not yet counted its failure. -/
def Call.IsChecking : Call → Prop
  | .admitted .. | .failing .. => True
  | _ => False

instance (call : Call) : Decidable call.IsChecking := by
  cases call <;> unfold Call.IsChecking <;> infer_instance

structure Site where
  user : User
  /-- How many changes of the password have been committed. -/
  generation : Nat
  now : Nat
  calls : Nat → Call
  /-- The sessions given out, with the number of the password they were obtained with. -/
  issued : List (Session × Nat)
  /-- The requests accepted: the number of the session's password, and of the account's. -/
  served : List (Nat × Nat)
  /-- When passwords have been checked against the hash of the account, the latest first. -/
  guesses : List Nat

def start (user : User) (now : Nat) : Site := ⟨user, 0, now, fun _ => .idle, [], [], []⟩

def Site.setCall (s : Site) (i : Nat) (call : Call) : Site := { s with calls := Function.update s.calls i call }

def Site.users (s : Site) (id : Nat) : Option User := if id = s.user.id then some s.user else none

inductive Label where
  | tick (n : Nat)
  | loads (i : Nat) (kind : Kind)
  /-- `verify_user`: the lock, the check, and the commit after either outcome. -/
  | looks (i : Nat)
  | checks (i : Nat) (ok : Bool)
  | fails (i : Nat)
  | resets (i : Nat)
  | reloads (i : Nat)
  /-- The session is filled, or the new password is committed. -/
  | issues (i : Nat)
  | changes (i : Nat)
  | requests (k : Nat) (route : Route)
deriving DecidableEq, Repr

def loads (s : Site) (i : Nat) (kind : Kind) : Option Site :=
  if s.calls i = .idle then
    some (s.setCall i
      (if kind.verifies then .loaded kind s.user s.generation else .ready kind s.user s.generation s.generation))
  else none

def looks (s : Site) (i : Nat) : Option Site :=
  match s.calls i with
  | .loaded kind user checked =>
    some (s.setCall i (if isLocked user s.now then .ended else .admitted kind user checked s.now))
  | _ => none

def checks (s : Site) (i : Nat) (ok : Bool) : Option Site :=
  match s.calls i with
  | .admitted kind user checked now =>
    let next :=
      if ok then
        if user.failedLoginAttempts ≠ 0 ∨ user.lockedUntil ≠ none then .resetting kind user checked
        else .ready kind user checked checked
      else .failing user now
    some { s.setCall i next with guesses := s.now :: s.guesses }
  | _ => none

def fails (s : Site) (i : Nat) : Option Site :=
  match s.calls i with
  | .failing user now => some { s.setCall i .ended with user := commit user (countFailure now user) s.user }
  | _ => none

def resets (s : Site) (i : Nat) : Option Site :=
  match s.calls i with
  | .resetting kind user checked =>
    some { s.setCall i (.expired kind checked) with user := commit user (clearFailures user) s.user }
  | _ => none

def reloads (s : Site) (i : Nat) : Option Site :=
  match s.calls i with
  | .expired kind checked => some (s.setCall i (.ready kind s.user checked s.generation))
  | _ => none

def issues (s : Site) (i : Nat) : Option Site :=
  match s.calls i with
  | .ready .login user checked _ =>
    some { s.setCall i .ended with issued := s.issued ++ [(sessionOf user, checked)] }
  | _ => none

def changes (s : Site) (i : Nat) : Option Site :=
  match s.calls i with
  | .ready kind user _ _ =>
    kind.newHash.map fun hash =>
      { s.setCall i .ended with
        user := commit user (changePassword hash user) s.user
        generation := s.generation + 1 }
  | _ => none

def requests (s : Site) (k : Nat) (route : Route) : Option Site :=
  s.issued[k]?.map fun entry =>
    if route.answer s.users entry.1 = .accepted then { s with served := s.served ++ [(entry.2, s.generation)] } else s

def step (s : Site) : Label → Option Site
  | .tick n => some { s with now := s.now + n }
  | .loads i kind => loads s i kind
  | .looks i => looks s i
  | .checks i ok => checks s i ok
  | .fails i => fails s i
  | .resets i => resets s i
  | .reloads i => reloads s i
  | .issues i => issues s i
  | .changes i => changes s i
  | .requests k route => requests s k route

/-- All that a step can do, with what it has found. -/
inductive Effect (s : Site) : Label → Site → Prop where
  | tick (n : Nat) : Effect s (.tick n) { s with now := s.now + n }
  | loaded {i : Nat} {kind : Kind} (idle : s.calls i = .idle) (verifies : kind.verifies = true) :
      Effect s (.loads i kind) (s.setCall i (.loaded kind s.user s.generation))
  | opened {i : Nat} {kind : Kind} (idle : s.calls i = .idle) (direct : kind.verifies = false) :
      Effect s (.loads i kind) (s.setCall i (.ready kind s.user s.generation s.generation))
  | refused {i : Nat} {kind : Kind} {user : User} {checked : Nat} (was : s.calls i = .loaded kind user checked)
      (locked : isLocked user s.now = true) : Effect s (.looks i) (s.setCall i .ended)
  | admitted {i : Nat} {kind : Kind} {user : User} {checked : Nat} (was : s.calls i = .loaded kind user checked)
      (open_ : isLocked user s.now = false) : Effect s (.looks i) (s.setCall i (.admitted kind user checked s.now))
  | wrong {i : Nat} {kind : Kind} {user : User} {checked now : Nat}
      (was : s.calls i = .admitted kind user checked now) :
      Effect s (.checks i false) { s.setCall i (.failing user now) with guesses := s.now :: s.guesses }
  | right {i : Nat} {kind : Kind} {user : User} {checked now : Nat}
      (was : s.calls i = .admitted kind user checked now) :
      Effect s (.checks i true) { s.setCall i (.resetting kind user checked) with guesses := s.now :: s.guesses }
  | verified {i : Nat} {kind : Kind} {user : User} {checked now : Nat}
      (was : s.calls i = .admitted kind user checked now) :
      Effect s (.checks i true) { s.setCall i (.ready kind user checked checked) with guesses := s.now :: s.guesses }
  | failed {i : Nat} {user : User} {now : Nat} (was : s.calls i = .failing user now) :
      Effect s (.fails i) { s.setCall i .ended with user := commit user (countFailure now user) s.user }
  | reset {i : Nat} {kind : Kind} {user : User} {checked : Nat} (was : s.calls i = .resetting kind user checked) :
      Effect s (.resets i) { s.setCall i (.expired kind checked) with user := commit user (clearFailures user) s.user }
  | reloaded {i : Nat} {kind : Kind} {checked : Nat} (was : s.calls i = .expired kind checked) :
      Effect s (.reloads i) (s.setCall i (.ready kind s.user checked s.generation))
  | issued {i : Nat} {user : User} {checked since : Nat} (was : s.calls i = .ready .login user checked since) :
      Effect s (.issues i) { s.setCall i .ended with issued := s.issued ++ [(sessionOf user, checked)] }
  | changed {i : Nat} {kind : Kind} {hash : String} {user : User} {checked since : Nat}
      (was : s.calls i = .ready kind user checked since) (changes : kind.newHash = some hash) :
      Effect s (.changes i)
        { s.setCall i .ended with
          user := commit user (changePassword hash user) s.user
          generation := s.generation + 1 }
  | served {k : Nat} {route : Route} {entry : Session × Nat} (listed : entry ∈ s.issued)
      (accepted : route.answer s.users entry.1 = .accepted) :
      Effect s (.requests k route) { s with served := s.served ++ [(entry.2, s.generation)] }
  | rejected {k : Nat} {route : Route} : Effect s (.requests k route) s

theorem effect_of_step {s t : Site} {l : Label} (stepped : step s l = some t) : Effect s l t := by
  cases l with
  | tick n =>
    cases stepped
    exact .tick n
  | loads i kind =>
    simp only [step, loads, Option.ite_none_right_eq_some, Option.some.injEq] at stepped
    obtain ⟨idle, rfl⟩ := stepped
    cases verifies : kind.verifies with
    | true => exact .loaded idle verifies
    | false => exact .opened idle verifies
  | looks i =>
    simp only [step, looks] at stepped
    split at stepped
    · next kind user checked was =>
      cases stepped
      cases locked : isLocked user s.now with
      | true => exact .refused was locked
      | false => exact .admitted was locked
    · cases stepped
  | checks i ok =>
    simp only [step, checks] at stepped
    split at stepped
    · next kind user checked now was =>
      cases stepped
      cases ok with
      | false => exact .wrong was
      | true =>
        by_cases marked : user.failedLoginAttempts ≠ 0 ∨ user.lockedUntil ≠ none
        · simp only [if_pos marked]
          exact .right was
        · simp only [if_neg marked]
          exact .verified was
    · cases stepped
  | fails i =>
    simp only [step, fails] at stepped
    split at stepped
    · next was =>
      cases stepped
      exact .failed was
    · cases stepped
  | resets i =>
    simp only [step, resets] at stepped
    split at stepped
    · next was =>
      cases stepped
      exact .reset was
    · cases stepped
  | reloads i =>
    simp only [step, reloads] at stepped
    split at stepped
    · next was =>
      cases stepped
      exact .reloaded was
    · cases stepped
  | issues i =>
    simp only [step, issues] at stepped
    split at stepped
    · next was =>
      cases stepped
      exact .issued was
    · cases stepped
  | changes i =>
    simp only [step, changes] at stepped
    split at stepped
    · next was =>
      obtain ⟨hash, changes, rfl⟩ := Option.map_eq_some_iff.mp stepped
      exact .changed was changes
    · cases stepped
  | requests k route =>
    obtain ⟨entry, found, rfl⟩ := Option.map_eq_some_iff.mp stepped
    by_cases accepted : route.answer s.users entry.1 = .accepted
    · rw [if_pos accepted]
      exact .served (List.mem_of_getElem? found) accepted
    · rw [if_neg accepted]
      exact .rejected

/-- A property of every call holds of the calls after one of them has moved. -/
theorem forall_setCall {P : Nat → Call → Prop} {s : Site} {i : Nat} {call : Call} (others : ∀ j, P j (s.calls j))
    (moved : P i call) : ∀ j, P j ((s.setCall i call).calls j) := by
  intro j
  show P j (Function.update s.calls i call j)
  by_cases same : j = i
  · subst same
    rwa [Function.update_self]
  · rw [Function.update_of_ne same]
    exact others j

end Marlinspike.Auth.Accounts
