import Marlinspike.Auth.Accounts

/-!
Which sessions outlive their password. The version in the row tells the sessions of one
password from those of another only if it grows with every change and a session bears
the one that went with the password it was obtained with. The first fails when a change
commits on a version that another has replaced, the second when a login that has had
lockout columns to reset reads the version again after a change. In a run without
either no session is accepted once its password has been changed (`sessions_die`).
-/
namespace Marlinspike.Auth.Sessions
open Marlinspike.Transition
open Marlinspike.Auth.Accounts

/-! ### Versions -/

theorem le_orOne (version : Int) : version ≤ orOne version := by
  unfold orOne
  split <;> omega

theorem flush_version (version stored : Int) : flush version (orOne version + 1) stored = orOne version + 1 := by
  have grown : orOne version + 1 ≠ version := by
    have := le_orOne version
    omega
  exact if_neg grown

/-- What is known of the version in a session of the password numbered `obtained`, where the
    row has `version` and the account's password is numbered `generation`. -/
structure Fits (version : Int) (generation : Nat) (held : Int) (obtained : Nat) : Prop where
  past : obtained ≤ generation
  bounded : held ≤ orOne version
  outdated : obtained < generation → held < version

/-- What is known of attributes of the row `id` that were read under the password numbered
    `since`. -/
structure Known (id : Nat) (version : Int) (generation : Nat) (user : User) (since : Nat) : Prop where
  owner : user.id = id
  past : since ≤ generation
  fresh : since = generation → user.sessionVersion = version
  outdated : since < generation → orOne user.sessionVersion < version

theorem known_now (user : User) (generation : Nat) : Known user.id user.sessionVersion generation user generation :=
  ⟨rfl, Nat.le_refl _, fun _ => rfl, fun later => absurd later (Nat.lt_irrefl _)⟩

theorem Known.fits {id : Nat} {version : Int} {generation : Nat} {user : User} {since : Nat}
    (known : Known id version generation user since) :
    Fits version generation (orOne user.sessionVersion) since := by
  refine ⟨known.past, ?_, known.outdated⟩
  by_cases now : since = generation
  · exact Int.le_of_eq (by rw [known.fresh now])
  · have older := known.outdated (Nat.lt_of_le_of_ne known.past now)
    have := le_orOne version
    omega

/-- A change that has read the version of the row outdates what was held before. -/
theorem Fits.changed {version held : Int} {generation obtained : Nat} (fits : Fits version generation held obtained) :
    Fits (orOne version + 1) (generation + 1) held obtained := by
  have bounded := fits.bounded
  have := le_orOne (orOne version + 1)
  exact ⟨Nat.le_succ_of_le fits.past, by omega, fun _ => by omega⟩

theorem Known.changed {id : Nat} {version : Int} {generation since : Nat} {user : User}
    (known : Known id version generation user since) : Known id (orOne version + 1) (generation + 1) user since := by
  have fits := known.fits.changed
  have past := known.past
  exact ⟨known.owner, fits.past, fun now => absurd now (by omega), fits.outdated⟩

/-! ### The invariant -/

/-- What is known of a call. -/
def Sound (id : Nat) (version : Int) (generation : Nat) : Call → Prop
  | .loaded _ user checked | .admitted _ user checked _ | .resetting _ user checked =>
    Known id version generation user checked
  | .expired _ checked => checked ≤ generation
  | .ready kind user checked since =>
    user.id = id ∧ (since = generation → user.sessionVersion = version) ∧ since ≤ generation ∧
      (kind = .login → Fits version generation (orOne user.sessionVersion) checked)
  | .idle | .failing .. | .ended => True

theorem Sound.changed {id : Nat} {version : Int} {generation : Nat} {call : Call}
    (sound : Sound id version generation call) : Sound id (orOne version + 1) (generation + 1) call := by
  cases call with
  | loaded kind user checked => exact Known.changed sound
  | admitted kind user checked now => exact Known.changed sound
  | resetting kind user checked => exact Known.changed sound
  | expired kind checked => exact Nat.le_succ_of_le sound
  | ready kind user checked since =>
    obtain ⟨owner, _, past, login⟩ := sound
    exact ⟨owner, fun now => absurd now (by omega), by omega, fun is => (login is).changed⟩
  | idle => trivial
  | failing user now => trivial
  | ended => trivial

theorem sound_of_known {id : Nat} {version : Int} {generation : Nat} {kind : Kind} {user : User} {since : Nat}
    (known : Known id version generation user since) : Sound id version generation (.ready kind user since since) :=
  ⟨known.owner, known.fresh, known.past, fun _ => known.fits⟩

structure Invariant (s : Site) : Prop where
  calls : ∀ i, Sound s.user.id s.user.sessionVersion s.generation (s.calls i)
  issued : ∀ entry ∈ s.issued, entry.1.userId = some s.user.id ∧
    ∃ held, entry.1.sessionVersion = some held ∧ Fits s.user.sessionVersion s.generation held entry.2
  served : ∀ entry ∈ s.served, entry.1 = entry.2

theorem invariant_start (user : User) (now : Nat) : Invariant (start user now) where
  calls _ := trivial
  issued := nofun
  served := nofun

/-- No change has been committed since a call that is about to change the password read the
    row, or since a login whose attributes have expired did. -/
def IsCurrent (generation : Nat) : Call → Prop
  | .ready _ _ _ since => since = generation
  | .expired .login checked => checked = generation
  | _ => True

instance (generation : Nat) : ∀ call, Decidable (IsCurrent generation call)
  | .ready _ _ _ since => inferInstanceAs (Decidable (since = generation))
  | .expired .login checked => inferInstanceAs (Decidable (checked = generation))
  | .expired (.account _) _ | .expired (.admin _) _ | .expired (.reset _) _ => inferInstanceAs (Decidable True)
  | .idle | .loaded .. | .admitted .. | .failing .. | .resetting .. | .ended => inferInstanceAs (Decidable True)

def Orderly (s : Site) : Label → Prop
  | .changes i | .reloads i => IsCurrent s.generation (s.calls i)
  | _ => True

instance (s : Site) (l : Label) : Decidable (Orderly s l) := by
  unfold Orderly
  split <;> infer_instance

/-- A step that moves one call and leaves the versions as they are. -/
theorem invariant_setCall {s t : Site} (inv : Invariant s) {i : Nat} {call : Call}
    (calls : t.calls = (s.setCall i call).calls) (id : t.user.id = s.user.id)
    (version : t.user.sessionVersion = s.user.sessionVersion) (generation : t.generation = s.generation)
    (issued : t.issued = s.issued) (served : t.served = s.served)
    (sound : Sound s.user.id s.user.sessionVersion s.generation call) : Invariant t where
  calls := by
    rw [calls, id, version, generation]
    exact forall_setCall inv.calls sound
  issued := by
    rw [id, version, generation, issued]
    exact inv.issued
  served := by
    rw [served]
    exact inv.served

/-- A session of an earlier password is invalidated. -/
theorem invalidated_of_fits {s : Site} {session : Session} {held : Int} {obtained : Nat}
    (owner : session.userId = some s.user.id) (bears : session.sessionVersion = some held)
    (fits : Fits s.user.sessionVersion s.generation held obtained) (earlier : obtained < s.generation) :
    sessionInvalidated s.users session = true := by
  have older := fits.outdated earlier
  have differs : s.user.sessionVersion ≠ held := by omega
  simp [sessionInvalidated, bears, owner, Site.users, differs]

theorem invariant_step {s t : Site} {l : Label} (inv : Invariant s) (orderly : Orderly s l)
    (stepped : step s l = some t) : Invariant t := by
  cases effect_of_step stepped with
  | tick n => exact ⟨inv.calls, inv.issued, inv.served⟩
  | loaded idle verifies => exact invariant_setCall inv rfl rfl rfl rfl rfl rfl (known_now _ _)
  | opened idle direct => exact invariant_setCall inv rfl rfl rfl rfl rfl rfl (sound_of_known (known_now _ _))
  | refused was locked => exact invariant_setCall inv rfl rfl rfl rfl rfl rfl trivial
  | @admitted i kind user checked was open_ =>
    have known := inv.calls i
    rw [was] at known
    exact invariant_setCall inv rfl rfl rfl rfl rfl rfl known
  | wrong was => exact invariant_setCall inv rfl rfl rfl rfl rfl rfl trivial
  | @right i kind user checked now was =>
    have known := inv.calls i
    rw [was] at known
    exact invariant_setCall inv rfl rfl rfl rfl rfl rfl known
  | @verified i kind user checked now was =>
    have known := inv.calls i
    rw [was] at known
    exact invariant_setCall inv rfl rfl rfl rfl rfl rfl (sound_of_known known)
  | failed was => exact invariant_setCall inv rfl rfl (flush_same _ _) rfl rfl rfl trivial
  | @reset i kind user checked was =>
    have known := inv.calls i
    rw [was] at known
    exact invariant_setCall inv rfl rfl (flush_same _ _) rfl rfl rfl known.past
  | @reloaded i kind checked was =>
    have past := inv.calls i
    rw [was] at past
    refine invariant_setCall inv rfl rfl rfl rfl rfl rfl ⟨rfl, fun _ => rfl, Nat.le_refl _, fun login => ?_⟩
    subst login
    have current : IsCurrent s.generation (s.calls i) := orderly
    rw [was] at current
    obtain rfl : checked = s.generation := current
    exact (known_now _ _).fits
  | @issued i user checked since was =>
    have ready := inv.calls i
    rw [was] at ready
    refine ⟨forall_setCall inv.calls trivial, ?_, inv.served⟩
    intro entry member
    rcases List.mem_append.mp member with before | new
    · exact inv.issued entry before
    · obtain rfl := List.mem_singleton.mp new
      exact ⟨congrArg some ready.1, _, rfl, ready.2.2.2 rfl⟩
  | @changed i kind hash user checked since was changes =>
    have ready := inv.calls i
    rw [was] at ready
    have current : IsCurrent s.generation (s.calls i) := orderly
    rw [was] at current
    have read : user.sessionVersion = s.user.sessionVersion := ready.2.1 current
    have version : flush user.sessionVersion (orOne user.sessionVersion + 1) s.user.sessionVersion =
        orOne s.user.sessionVersion + 1 := by
      rw [flush_version, read]
    refine ⟨?_, ?_, inv.served⟩
    · show ∀ j, Sound s.user.id (flush user.sessionVersion (orOne user.sessionVersion + 1) s.user.sessionVersion)
        (s.generation + 1) ((s.setCall i .ended).calls j)
      rw [version]
      exact forall_setCall (fun j => (inv.calls j).changed) trivial
    · intro entry member
      obtain ⟨owner, held, bears, fits⟩ := inv.issued entry member
      refine ⟨owner, held, bears, ?_⟩
      show Fits (flush user.sessionVersion (orOne user.sessionVersion + 1) s.user.sessionVersion) (s.generation + 1)
        held entry.2
      rw [version]
      exact fits.changed
  | @served k route entry listed accepted =>
    refine ⟨inv.calls, inv.issued, ?_⟩
    intro other member
    rcases List.mem_append.mp member with before | new
    · exact inv.served other before
    · obtain rfl := List.mem_singleton.mp new
      obtain ⟨owner, held, bears, fits⟩ := inv.issued entry listed
      by_contra differs
      have earlier : entry.2 < s.generation := Nat.lt_of_le_of_ne fits.past differs
      exact answer_of_invalidated route (invalidated_of_fits owner bears fits earlier) accepted
  | rejected => exact inv

/-- In a run in which every change commits on the version it has read, and no login reads
    the row again after a change, a request is accepted only on a session that was obtained
    with the password the account has at the time. -/
theorem sessions_die {user : User} {now : Nat} {labels : List Label} {s : Site}
    (orderly : Meets step Orderly (start user now) labels) (ran : run step (start user now) labels = some s) :
    ∀ entry ∈ s.served, entry.1 = entry.2 :=
  (meeting_invariant Invariant (fun _ _ _ inv met stepped => invariant_step inv met stepped)
    (invariant_start user now) orderly ran).served

def operator : User := ⟨7, "operator", "first", "user", 1, 0, none⟩

/-- A login, a change of the password, and a request on the session of before it. -/
def changedOnce : List Label :=
  [.loads 0 .login, .looks 0, .checks 0 true, .issues 0, .requests 0 .login, .loads 1 (.account "second"), .looks 1,
   .checks 1 true, .changes 1, .requests 0 .login, .requests 0 (.admin true)]

theorem operator_session_dies : ∃ s, Meets step Orderly (start operator 0) changedOnce ∧
    run step (start operator 0) changedOnce = some s ∧ s.served = [(0, 0)] ∧
    ∀ entry ∈ s.served, entry.1 = entry.2 := by
  have orderly : Meets step Orderly (start operator 0) changedOnce := by decide
  have served : (run step (start operator 0) changedOnce).map (·.served) = some [(0, 0)] := by decide
  obtain ⟨s, ran, served⟩ := Option.map_eq_some_iff.mp served
  exact ⟨s, orderly, ran, served, sessions_die orderly ran⟩

/-- Two changes read the row before either commits, and a login comes between their commits. -/
def lostIncrement : List Label :=
  [.loads 0 (.admin "second"), .loads 1 (.reset "third"), .changes 0, .loads 2 .login, .looks 2, .checks 2 true,
   .issues 2, .changes 1, .requests 0 .login]

/-- A login with a failure to forget checks the first password, and reads the version after
    the change of it. -/
def lateCopy : List Label :=
  [.loads 0 .login, .looks 0, .checks 0 true, .resets 0, .loads 1 (.admin "second"), .changes 1, .reloads 0, .issues 0,
   .requests 0 .login]

theorem sessions_survive :
    (∃ s, run step (start operator 0) lostIncrement = some s ∧ ∃ entry ∈ s.served, entry.1 < entry.2) ∧
    ∃ s, run step (start { operator with failedLoginAttempts := 1 } 0) lateCopy = some s ∧
      ∃ entry ∈ s.served, entry.1 < entry.2 := by
  have lost : (run step (start operator 0) lostIncrement).map (·.served) = some [(1, 2)] := by decide
  have late : (run step (start { operator with failedLoginAttempts := 1 } 0) lateCopy).map (·.served) =
      some [(0, 1)] := by decide
  obtain ⟨s, ran, served⟩ := Option.map_eq_some_iff.mp lost
  obtain ⟨t, ran', served'⟩ := Option.map_eq_some_iff.mp late
  refine ⟨⟨s, ran, (1, 2), ?_, by decide⟩, t, ran', (0, 1), ?_, by decide⟩
  · simp [served]
  · simp [served']

end Marlinspike.Auth.Sessions
