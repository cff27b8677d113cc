import Marlinspike.Gateway.Revocation
import Marlinspike.Numbered

/-!
What enrollment tokens are worth. `enroll_agent` locks the row of its token before it looks at
it, and its commit marks a one-time token as used together with the credential that it mints;
a call that fails rolls both back. The transactions are those of `Gateway.Revocation`, in any
interleaving, with a ledger of the tokens that were issued and of the enrollments that were
committed (`spent_once`).
-/
namespace Marlinspike.Gateway.Enrollment
open Marlinspike.Transition
open Marlinspike.Gateway.Revocation

/-- A committed enrollment, with its token's row at the commit. -/
structure Redemption where
  tokenHash : String
  token : Token
  keyHash : String
  agentId : Nat
  now : Nat
deriving DecidableEq, Repr

structure Ledger where
  database : Database
  /-- The hashes of all tokens that were drawn. -/
  issued : List String
  redeemed : List Redemption

def Ledger.init : Ledger := ⟨Database.init, [], []⟩

/-- The enrollment that a commit completes, if it is one and writes at all. -/
def redemption (s : Database) (txn : Transaction) : Option Redemption :=
  match txn.call with
  | .enrollAgent tokenHash _ _ _ keyHash _ _ => do
    let token ← s.tokens tokenHash
    match txn.agentId with
    | none => some ⟨tokenHash, token, keyHash, s.nextId, txn.now⟩
    | some agentId => if (s.agents agentId).isSome then some ⟨tokenHash, token, keyHash, agentId, txn.now⟩ else none
  | _ => none

/-- The token that a call draws. -/
def Call.issues : Call → Option String
  | .rotateAgentCredential _ tokenHash => some tokenHash
  | _ => none

def Label.issues : Label → Option String
  | .begin call => Call.issues call
  | .mintStandingToken _ tokenHash => some tokenHash
  | _ => none

/-- The step of the database; a token is drawn at random, and never twice. -/
def step (s : Ledger) (l : Label) : Option Ledger := do
  guard ((Label.issues l).all fun tokenHash => tokenHash ∉ s.issued)
  let database ← Revocation.step s.database l
  let redeemed := match l with
    | .commit k => ((s.database.transactions[k]?).bind (redemption s.database)).toList
    | _ => []
  return ⟨database, s.issued ++ (Label.issues l).toList, s.redeemed ++ redeemed⟩

/-- What a token is good for. -/
structure SpentOnce (s : Ledger) : Prop where
  /-- No two enrollments on one one-time token. -/
  once : ((s.redeemed.filter fun r => !r.token.isStanding).map Redemption.tokenHash).Nodup
  /-- A one-time token is unused and has not expired, and a standing one is not revoked. -/
  redeemable : ∀ r ∈ s.redeemed, redeemable r.now r.token = .ok ()
  /-- A rotation token gives a credential to its own agent only. -/
  own : ∀ r ∈ s.redeemed, ∀ agentId, r.token.agentId = some agentId → r.agentId = agentId
  /-- No agent has a credential but by an enrollment. -/
  earned : ∀ keyHash cred, s.database.credentials keyHash = some cred →
    ∃ r ∈ s.redeemed, r.keyHash = keyHash ∧ r.agentId = cred.agentId

/-! ### The invariant -/

/-- An open enrollment: its token's row is as it was read. -/
def Holds (tokens : String → Option Token) (txn : Transaction) (tokenHash : String) : Prop :=
  ∃ token, tokens tokenHash = some token ∧ Revocation.redeemable txn.now token = .ok () ∧ txn.agentId = token.agentId

structure Invariant (s : Ledger) : Prop where
  known : ∀ tokenHash token, s.database.tokens tokenHash = some token → tokenHash ∈ s.issued
  /-- An open enrollment holds its token. -/
  held : ∀ txn ∈ s.database.transactions, ∀ tokenHash, txn.call.locks = some tokenHash →
    Holds s.database.tokens txn tokenHash
  locks : (s.database.transactions.filterMap fun txn => txn.call.locks).Nodup
  /-- An open rotation has drawn a token that nobody has seen. -/
  drawn : ∀ txn ∈ s.database.transactions, ∀ tokenHash, Call.issues txn.call = some tokenHash →
    tokenHash ∈ s.issued ∧ s.database.tokens tokenHash = none ∧ ∀ r ∈ s.redeemed, r.tokenHash ≠ tokenHash
  draws : (s.database.transactions.filterMap fun txn => Call.issues txn.call).Nodup
  deletes : ∀ txn ∈ s.database.transactions, ∀ agentId, txn.call = .deleteAgent agentId → txn.agentId = some agentId
  /-- The row of a one-time token that was redeemed says so, as long as it is there. -/
  used : ∀ r ∈ s.redeemed, r.tokenHash ∈ s.issued ∧ (r.token.isStanding = false →
    ∀ token, s.database.tokens r.tokenHash = some token → token.isStanding = false ∧ token.usedAt.isSome = true)
  spent : SpentOnce s

theorem invariant_init : Invariant Ledger.init := by
  constructor
  case spent => constructor <;> simp [Ledger.init, Database.init]
  all_goals simp [Ledger.init, Database.init]

variable {s t : Ledger} {l : Label}

/-! ### What a call has read -/

theorem call_reads {s : Database} {call : Call} {txn : Transaction} (opened : reads s call = .ok txn) :
    txn.call = call ∧ ∀ agentId, call = .deleteAgent agentId → txn.agentId = some agentId := by
  cases call with
  | enrollAgent hash name agentVersion osInfo keyHash agentName certFingerprint =>
    simp only [reads] at opened
    split at opened
    · cases opened
    · next token _ =>
      cases checked : Revocation.redeemable s.now token with
      | error text => simp [checked, bind, Except.bind] at opened
      | ok =>
        simp only [checked, bind, Except.bind] at opened
        split at opened
        · cases opened
          exact ⟨rfl, by simp⟩
        · split at opened
          · cases opened
          · cases opened
            exact ⟨rfl, by simp⟩
  | authenticateAgent agentId keyHash peerCertFingerprint =>
    simp only [reads] at opened
    split at opened
    · split_ifs at opened
      cases opened
      exact ⟨rfl, by simp⟩
    · cases opened
  | recordHeartbeat agentId | markOffline agentId =>
    simp only [reads] at opened
    split at opened
    · split_ifs at opened
      cases opened
      exact ⟨rfl, by simp⟩
    · cases opened
  | rotateAgentCredential agentId tokenHash =>
    simp only [reads] at opened
    split at opened
    · cases opened
    · split_ifs at opened
      cases opened
      exact ⟨rfl, by simp⟩
  | revokeAgent agentId =>
    simp only [reads] at opened
    split at opened
    · cases opened
    · cases opened
      exact ⟨rfl, by simp⟩
  | deleteAgent agentId =>
    simp only [reads] at opened
    split at opened
    · cases opened
    · split_ifs at opened
      cases opened
      exact ⟨rfl, by simp⟩

/-- An enrollment that goes on has found its token good. -/
theorem holds_of_reads {s : Database} {call : Call} {txn : Transaction} (opened : reads s call = .ok txn)
    {tokenHash : String} (locks : call.locks = some tokenHash) : Holds s.tokens txn tokenHash := by
  cases call with
  | enrollAgent hash name agentVersion osInfo keyHash agentName certFingerprint =>
    obtain rfl : hash = tokenHash := Option.some.inj locks
    simp only [reads] at opened
    split at opened
    · cases opened
    · next token found =>
      cases checked : Revocation.redeemable s.now token with
      | error text => simp [checked, bind, Except.bind] at opened
      | ok =>
        simp only [checked, bind, Except.bind] at opened
        split at opened
        · next free =>
          cases opened
          exact ⟨token, found, checked, free.symm⟩
        · next agentId bound =>
          split at opened
          · cases opened
          · cases opened
            exact ⟨token, found, checked, bound.symm⟩
  | _ => cases locks

/-! ### What a commit writes -/

/-- What a commit makes of a token's row. -/
inductive Rewrites (s : Database) (txn : Transaction) (tokenHash : String) (after : Option Token) : Prop where
  | kept (same : after = s.tokens tokenHash)
  | used (locks : txn.call.locks = some tokenHash) (marked : after = (s.tokens tokenHash).map (useToken txn.now))
  | drawn (issues : Call.issues txn.call = some tokenHash)
  | deleted (agentId : Nat) (call : ∃ a, txn.call = .deleteAgent a) (owner : txn.agentId = some agentId)
      (own : ∀ token, s.tokens tokenHash = some token → token.agentId = some agentId) (gone : after = none)

theorem rewrites_writes {s : Database} {txn : Transaction} {agentId : Nat} (owner : txn.agentId = some agentId)
    (tokenHash : String) : Rewrites s txn tokenHash ((writes s txn agentId).tokens tokenHash) := by
  unfold writes
  cases call : txn.call with
  | enrollAgent hash name agentVersion osInfo keyHash agentName certFingerprint =>
    by_cases same : hash = tokenHash
    · subst same
      exact .used (by rw [call]; rfl) (Function.update_self _ _ _)
    · exact .kept (Function.update_of_ne (Ne.symm same) _ _)
  | rotateAgentCredential a hash =>
    by_cases same : hash = tokenHash
    · subst same
      exact .drawn (by rw [call]; rfl)
    · exact .kept (Function.update_of_ne (Ne.symm same) _ _)
  | deleteAgent a =>
    simp only
    cases row : s.tokens tokenHash with
    | none => exact .kept (by rw [row, Option.filter_none])
    | some token =>
      by_cases own : token.agentId = some agentId
      · exact .deleted agentId ⟨a, call⟩ owner (by simpa [row] using own) (Option.filter_some_neg (by simpa using own))
      · exact .kept (by rw [row, Option.filter_some_pos (by simpa using own)])
  | _ => exact .kept rfl

theorem rewrites_commits (s : Database) (txn : Transaction) (tokenHash : String) :
    Rewrites s txn tokenHash ((commits s txn).tokens tokenHash) := by
  unfold commits
  cases owner : txn.agentId with
  | some agentId =>
    simp only
    split_ifs
    · exact rewrites_writes owner tokenHash
    · exact .kept rfl
  | none =>
    simp only [inserts]
    split
    · next hash _ _ _ _ _ _ call =>
      by_cases same : hash = tokenHash
      · subst same
        exact .used (by rw [call]; rfl) (Function.update_self _ _ _)
      · exact .kept (Function.update_of_ne (Ne.symm same) _ _)
    · exact .kept rfl

/-- What a committed enrollment has used, and for whom. -/
structure Redeems (s : Database) (txn : Transaction) (r : Redemption) : Prop where
  locks : txn.call.locks = some r.tokenHash
  row : s.tokens r.tokenHash = some r.token
  now : r.now = txn.now
  agent : ∀ agentId, txn.agentId = some agentId → r.agentId = agentId
  used : (commits s txn).tokens r.tokenHash = some (useToken txn.now r.token)

theorem redeems_of_redemption {s : Database} {txn : Transaction} {r : Redemption}
    (redeemed : redemption s txn = some r) : Redeems s txn r := by
  unfold redemption at redeemed
  split at redeemed
  · next tokenHash _ _ _ keyHash _ _ call =>
    obtain ⟨token, row, rest⟩ := Option.bind_eq_some_iff.mp redeemed
    split at rest
    · next free =>
      cases rest
      refine ⟨by rw [call]; rfl, row, rfl, by simp [free], ?_⟩
      simp [commits, free, inserts, call, row]
    · next agentId bound =>
      split_ifs at rest with there
      cases rest
      refine ⟨by rw [call]; rfl, row, rfl, by simp [bound], ?_⟩
      simp [commits, bound, there, writes, call, row]
  · cases redeemed

/-- A credential is an old one, or the one of the enrollment. -/
theorem credentials_commits {s : Database} {txn : Transaction}
    (held : ∀ tokenHash, txn.call.locks = some tokenHash → Holds s.tokens txn tokenHash) {keyHash : String}
    {cred : Credential} (found : (commits s txn).credentials keyHash = some cred) :
    (∃ old, s.credentials keyHash = some old ∧ old.agentId = cred.agentId) ∨
      ∃ r, redemption s txn = some r ∧ r.keyHash = keyHash ∧ r.agentId = cred.agentId := by
  have same : ∀ {found' : Option Credential}, s.credentials keyHash = found' → found' = some cred →
      ∃ old, s.credentials keyHash = some old ∧ old.agentId = cred.agentId :=
    fun was is => ⟨cred, was.trans is, rfl⟩
  have revoked : ∀ agentId, txn.revokeCredentials agentId s.credentials keyHash = some cred →
      ∃ old, s.credentials keyHash = some old ∧ old.agentId = cred.agentId := by
    intro agentId is
    unfold Transaction.revokeCredentials at is
    split_ifs at is
    · obtain ⟨old, was, rfl⟩ := Option.map_eq_some_iff.mp is
      exact ⟨old, was, rfl⟩
    · exact same rfl is
  unfold commits at found
  cases is : txn.agentId with
  | none =>
    simp only [is, inserts] at found
    split at found
    · next tokenHash _ _ _ key _ _ call =>
      obtain ⟨token, row, -, -⟩ := held tokenHash (by rw [call]; rfl)
      by_cases mine : keyHash = key
      · subst mine
        simp only [Function.update_self] at found
        cases found
        exact .inr ⟨⟨tokenHash, token, keyHash, s.nextId, txn.now⟩, by simp [redemption, call, row, is], rfl, rfl⟩
      · simp only [Function.update_of_ne mine] at found
        exact .inl (same rfl found)
    · exact .inl (same rfl found)
  | some agentId =>
    simp only [is] at found
    split_ifs at found with there
    · unfold writes at found
      cases call : txn.call with
      | enrollAgent tokenHash name agentVersion osInfo key agentName certFingerprint =>
        obtain ⟨token, row, -, -⟩ := held tokenHash (by rw [call]; rfl)
        simp only [call] at found
        by_cases mine : keyHash = key
        · subst mine
          simp only [Function.update_self] at found
          cases found
          exact .inr ⟨⟨tokenHash, token, keyHash, agentId, txn.now⟩, by simp [redemption, call, row, is, there], rfl, rfl⟩
        · simp only [Function.update_of_ne mine] at found
          exact .inl (same rfl found)
      | rotateAgentCredential a hash =>
        simp only [call] at found
        exact .inl (revoked agentId found)
      | revokeAgent a =>
        simp only [call] at found
        exact .inl (revoked agentId found)
      | deleteAgent a =>
        simp only [call] at found
        exact .inl (same rfl (Option.filter_eq_some_iff.mp found).1)
      | authenticateAgent | recordHeartbeat | markOffline =>
        simp only [call] at found
        exact .inl (same rfl found)
    · exact .inl (same rfl found)

/-! ### Steps -/

theorem used_of_redeemed {token : Token} {now : Nat} (good : Revocation.redeemable now token = .ok ())
    (oneTime : token.isStanding = false) : token.usedAt = none := by
  unfold Revocation.redeemable at good
  rw [if_neg (by simp [oneTime])] at good
  split_ifs at good with used
  simpa using used

theorem unlocked_of_startable {s : Database} {call : Call} (start : startable s call = true) {tokenHash : String}
    (locks : call.locks = some tokenHash) : locked s tokenHash = false := by
  cases call with
  | enrollAgent hash =>
    obtain rfl : hash = tokenHash := Option.some.inj locks
    simp only [startable, Bool.and_eq_true, Bool.not_eq_true'] at start
    exact start.2
  | _ => cases locks

theorem invariant_begin (inv : Invariant s) {call : Call} {txn : Transaction}
    (start : startable s.database call = true) (opened : reads s.database call = .ok txn)
    (drawn : ∀ tokenHash, Call.issues call = some tokenHash → tokenHash ∉ s.issued) :
    Invariant ⟨{ s.database with transactions := s.database.transactions ++ [txn] },
      s.issued ++ (Call.issues call).toList, s.redeemed⟩ := by
  obtain ⟨is, deletes⟩ := call_reads opened
  refine ⟨fun tokenHash token row => List.mem_append_left _ (inv.known tokenHash token row), ?_, ?_, ?_, ?_, ?_,
    fun r member => ⟨List.mem_append_left _ (inv.used r member).1, (inv.used r member).2⟩, ?_⟩
  · intro other member tokenHash locks
    rcases List.mem_append.mp member with old | new
    · exact inv.held other old tokenHash locks
    · obtain rfl := List.mem_singleton.mp new
      exact holds_of_reads opened (is ▸ locks)
  · refine Numbered.nodup_filterMap_concat inv.locks fun tokenHash locks other member also => ?_
    -- the row is free, or the call would wait
    have free := unlocked_of_startable start (is ▸ locks)
    simp only [locked, List.any_eq_false, beq_iff_eq] at free
    exact free other member also
  · intro other member tokenHash issues
    rcases List.mem_append.mp member with old | new
    · obtain ⟨known, rest⟩ := inv.drawn other old tokenHash issues
      exact ⟨List.mem_append_left _ known, rest⟩
    · obtain rfl := List.mem_singleton.mp new
      have fresh := drawn tokenHash (is ▸ issues)
      refine ⟨List.mem_append_right _ (by rw [← is, issues]; simp), ?_, ?_⟩
      · by_contra there
        obtain ⟨token, row⟩ := Option.ne_none_iff_exists'.mp there
        exact fresh (inv.known tokenHash token row)
      · rintro r member rfl
        exact fresh (inv.used r member).1
  · refine Numbered.nodup_filterMap_concat inv.draws fun tokenHash issues other member also => ?_
    exact drawn tokenHash (is ▸ issues) (inv.drawn other member tokenHash also).1
  · intro other member agentId label
    rcases List.mem_append.mp member with old | new
    · exact inv.deletes other old agentId label
    · obtain rfl := List.mem_singleton.mp new
      exact deletes agentId (is ▸ label)
  · exact ⟨inv.spent.once, inv.spent.redeemable, inv.spent.own, inv.spent.earned⟩

/-- A call that is refused may have drawn a token. -/
theorem invariant_refused (inv : Invariant s) (call : Call) : Invariant
    ⟨s.database, s.issued ++ (Call.issues call).toList, s.redeemed⟩ := by
  refine ⟨fun tokenHash token row => List.mem_append_left _ (inv.known tokenHash token row), inv.held, inv.locks,
    fun txn member tokenHash issues => ?_, inv.draws, inv.deletes,
    fun r member => ⟨List.mem_append_left _ (inv.used r member).1, (inv.used r member).2⟩,
    ⟨inv.spent.once, inv.spent.redeemable, inv.spent.own, inv.spent.earned⟩⟩
  obtain ⟨known, rest⟩ := inv.drawn txn member tokenHash issues
  exact ⟨List.mem_append_left _ known, rest⟩

/-- Closing a transaction without a trace. -/
theorem invariant_abort (inv : Invariant s) (k : Nat) : Invariant ⟨{ s.database with
    transactions := s.database.transactions.eraseIdx k }, s.issued, s.redeemed⟩ := by
  have fewer := List.eraseIdx_sublist s.database.transactions k
  exact ⟨inv.known, fun txn member => inv.held txn (fewer.subset member), inv.locks.sublist (fewer.filterMap _),
    fun txn member => inv.drawn txn (fewer.subset member), inv.draws.sublist (fewer.filterMap _),
    fun txn member => inv.deletes txn (fewer.subset member), inv.used,
    ⟨inv.spent.once, inv.spent.redeemable, inv.spent.own, inv.spent.earned⟩⟩

theorem useToken_isStanding (now : Nat) (token : Token) : (useToken now token).isStanding = token.isStanding := by
  unfold useToken
  split_ifs <;> rfl

theorem useToken_usedAt {now : Nat} {token : Token} (oneTime : token.isStanding = false) :
    (useToken now token).usedAt = some now := by
  rw [useToken, if_neg (by simp [oneTime])]

/-- The row of a token that another transaction holds is left alone. -/
theorem holds_commits (inv : Invariant s) {k : Nat} {txn other : Transaction}
    (found : s.database.transactions[k]? = some txn) (free : committable s.database txn.call = true)
    (member : other ∈ s.database.transactions.eraseIdx k) {tokenHash : String}
    (locks : other.call.locks = some tokenHash) :
    (commits s.database txn).tokens tokenHash = s.database.tokens tokenHash := by
  have there := (List.eraseIdx_sublist s.database.transactions k).subset member
  obtain ⟨token, row, -, -⟩ := inv.held other there tokenHash locks
  have is := List.mem_of_getElem? found
  cases rewrites_commits s.database txn tokenHash with
  | kept same => exact same
  | used mine _ =>
    exact absurd locks (Numbered.ne_of_mem_eraseIdx (f := fun txn => txn.call.locks) inv.locks found mine member)
  | drawn issues =>
    rw [(inv.drawn txn is tokenHash issues).2.1] at row
    cases row
  | deleted agentId label owner own _ =>
    obtain ⟨a, call⟩ := label
    obtain rfl := Option.some.inj (owner.symm.trans (inv.deletes txn is a call))
    -- a deletion waits for this row
    have waits : lockedToken s.database (fun token => token.agentId = some agentId) = true := by
      simp only [lockedToken, List.any_eq_true]
      exact ⟨other, there, by simp [locks, row, own token row]⟩
    simp [call, committable, waits] at free

theorem invariant_commit (inv : Invariant s) {k : Nat} {txn : Transaction}
    (found : s.database.transactions[k]? = some txn) (free : committable s.database txn.call = true) :
    Invariant ⟨{ commits s.database txn with transactions := s.database.transactions.eraseIdx k }, s.issued,
      s.redeemed ++ (redemption s.database txn).toList⟩ := by
  have fewer := List.eraseIdx_sublist s.database.transactions k
  have is := List.mem_of_getElem? found
  have rewrites := rewrites_commits s.database txn
  have held := inv.held txn is
  -- a token that is redeemed now was not redeemed before
  have first : ∀ r, redemption s.database txn = some r → r.token.isStanding = false →
      ∀ old ∈ s.redeemed, old.token.isStanding = false → old.tokenHash ≠ r.tokenHash := by
    intro r now oneTime old member standing same
    obtain ⟨locks, row, -, -, -⟩ := redeems_of_redemption now
    obtain ⟨token, row', good, -⟩ := held r.tokenHash locks
    cases row.symm.trans row'
    have used := ((inv.used old member).2 standing r.token (same ▸ row)).2
    rw [used_of_redeemed good oneTime] at used
    cases used
  refine ⟨fun tokenHash token row => ?_, fun other member tokenHash locks => ?_, inv.locks.sublist (fewer.filterMap _),
    fun other member tokenHash issues => ?_, inv.draws.sublist (fewer.filterMap _),
    fun other member => inv.deletes other (fewer.subset member), fun r member => ?_, ?_⟩
  · cases rewrites tokenHash with
    | kept same => exact inv.known tokenHash token (same.symm.trans row)
    | used _ marked =>
      obtain ⟨before, row', -⟩ := Option.map_eq_some_iff.mp (marked.symm.trans row)
      exact inv.known tokenHash before row'
    | drawn issues => exact (inv.drawn txn is tokenHash issues).1
    | deleted _ _ _ _ gone => cases gone.symm.trans row
  · obtain ⟨token, row, rest⟩ := inv.held other (fewer.subset member) tokenHash locks
    exact ⟨token, (holds_commits inv found free member locks).trans row, rest⟩
  · obtain ⟨known, unseen, unspent⟩ := inv.drawn other (fewer.subset member) tokenHash issues
    refine ⟨known, ?_, fun r member' => ?_⟩
    · cases rewrites tokenHash with
      | kept same => exact same.trans unseen
      | used _ marked => rw [marked, unseen, Option.map_none]
      | drawn also =>
        exact absurd issues
          (Numbered.ne_of_mem_eraseIdx (f := fun txn => Call.issues txn.call) inv.draws found also member)
      | deleted _ _ _ _ gone => exact gone
    · rcases List.mem_append.mp member' with old | new
      · exact unspent r old
      · rintro rfl
        have row := (redeems_of_redemption (Option.mem_toList.mp new)).row
        rw [unseen] at row
        cases row
  · rcases List.mem_append.mp member with old | new
    · obtain ⟨known, used⟩ := inv.used r old
      refine ⟨known, fun oneTime token row => ?_⟩
      cases rewrites r.tokenHash with
      | kept same => exact used oneTime token (same.symm.trans row)
      | used _ marked =>
        obtain ⟨before, row', rfl⟩ := Option.map_eq_some_iff.mp (marked.symm.trans row)
        have standing := (used oneTime before row').1
        exact ⟨(useToken_isStanding _ _).trans standing, by rw [useToken_usedAt standing]; rfl⟩
      | drawn issues => exact absurd rfl ((inv.drawn txn is r.tokenHash issues).2.2 r old)
      | deleted _ _ _ _ gone => cases gone.symm.trans row
    · have redeems := redeems_of_redemption (Option.mem_toList.mp new)
      refine ⟨inv.known r.tokenHash r.token redeems.row, fun oneTime token row => ?_⟩
      cases redeems.used.symm.trans row
      exact ⟨(useToken_isStanding _ _).trans oneTime, by rw [useToken_usedAt oneTime]; rfl⟩
  · refine ⟨?_, fun r member => ?_, fun r member agentId bound => ?_, fun keyHash cred minted => ?_⟩
    · cases now : redemption s.database txn with
      | none =>
        rw [Option.toList_none, List.append_nil]
        exact inv.spent.once
      | some r =>
        rw [Option.toList_some, List.filter_append, List.map_append]
        cases standing : r.token.isStanding with
        | true =>
          rw [List.filter_singleton, standing, Bool.not_true, cond_false, List.map_nil, List.append_nil]
          exact inv.spent.once
        | false =>
          rw [List.filter_singleton, standing, Bool.not_false, cond_true, List.map_singleton, ← List.concat_eq_append]
          refine inv.spent.once.concat fun there => ?_
          obtain ⟨old, member, same⟩ := List.mem_map.mp there
          obtain ⟨member, oneTime⟩ := List.mem_filter.mp member
          exact first r now standing old member (by simpa using oneTime) same
    · rcases List.mem_append.mp member with old | new
      · exact inv.spent.redeemable r old
      · obtain ⟨locks, row, now, -, -⟩ := redeems_of_redemption (Option.mem_toList.mp new)
        obtain ⟨token, row', good, -⟩ := held r.tokenHash locks
        cases row.symm.trans row'
        exact now ▸ good
    · rcases List.mem_append.mp member with old | new
      · exact inv.spent.own r old agentId bound
      · obtain ⟨locks, row, -, agent, -⟩ := redeems_of_redemption (Option.mem_toList.mp new)
        obtain ⟨token, row', -, same⟩ := held r.tokenHash locks
        cases row.symm.trans row'
        exact agent agentId (same.trans bound)
    · rcases credentials_commits held minted with ⟨old, was, same⟩ | ⟨r, now, key, agent⟩
      · obtain ⟨r, member, key, agent⟩ := inv.spent.earned keyHash old was
        exact ⟨r, List.mem_append_left _ member, key, agent.trans same⟩
      · exact ⟨r, List.mem_append_right _ (Option.mem_toList.mpr now), key, agent⟩

/-- The rows after a standing token was minted: those of the old ones are revoked. -/
def minted (s : Database) (projectId : Nat) (other : String) : Option Token :=
  (s.tokens other).map fun token => if liveStanding projectId token then { token with revokedAt := some s.now } else token

theorem invariant_mint (inv : Invariant s) {projectId : Nat} {tokenHash : String} {token : Token}
    (fresh : tokenHash ∉ s.issued) (free : lockedToken s.database (liveStanding projectId) = false) :
    Invariant ⟨{ s.database with
      tokens := Function.update (minted s.database projectId) tokenHash (some token) }, s.issued ++ [tokenHash],
      s.redeemed⟩ := by
  have elsewhere : ∀ other, other ∈ s.issued → other ≠ tokenHash := fun other there same => fresh (same ▸ there)
  refine ⟨fun other row there => ?_, fun txn member other locks => ?_, inv.locks, fun txn member other issues => ?_,
    inv.draws, inv.deletes, fun r member => ?_, ⟨inv.spent.once, inv.spent.redeemable, inv.spent.own, inv.spent.earned⟩⟩
  · by_cases same : other = tokenHash
    · exact List.mem_append_right _ (List.mem_singleton.mpr same)
    · simp only [Function.update_of_ne same] at there
      obtain ⟨before, row', -⟩ := Option.map_eq_some_iff.mp there
      exact List.mem_append_left _ (inv.known other before row')
  · obtain ⟨row, there, rest⟩ := inv.held txn member other locks
    have same := elsewhere other (inv.known other row there)
    -- a live standing token that is held makes the mint wait
    have stays : liveStanding projectId row = false := by
      by_contra live
      simp only [lockedToken, List.any_eq_false] at free
      exact free txn member (by simp [locks, there, live])
    refine ⟨row, ?_, rest⟩
    simp only [Function.update_of_ne same]
    rw [minted, there, Option.map_some, stays]
    rfl
  · obtain ⟨known, unseen, unspent⟩ := inv.drawn txn member other issues
    refine ⟨List.mem_append_left _ known, ?_, unspent⟩
    simp only [Function.update_of_ne (elsewhere other known)]
    rw [minted, unseen, Option.map_none]
  · obtain ⟨known, used⟩ := inv.used r member
    refine ⟨List.mem_append_left _ known, fun oneTime row there => ?_⟩
    simp only [Function.update_of_ne (elsewhere _ known)] at there
    obtain ⟨before, row', rfl⟩ := Option.map_eq_some_iff.mp there
    split_ifs
    · exact used oneTime before row'
    · exact used oneTime before row'

theorem invariant_step (inv : Invariant s) (stepped : step s l = some t) : Invariant t := by
  simp only [step, Option.bind_eq_bind, Option.bind_eq_some_iff, Option.guard_eq_some', Option.pure_def,
    Option.some.injEq] at stepped
  obtain ⟨-, fresh, database, moved, rfl⟩ := stepped
  cases l with
  | begin call =>
    simp only [Revocation.step, Option.bind_eq_bind, Option.bind_eq_some_iff, Option.guard_eq_some', Option.pure_def]
      at moved
    obtain ⟨-, start, moved⟩ := moved
    have drawn : ∀ tokenHash, Call.issues call = some tokenHash → tokenHash ∉ s.issued := by
      simpa [Label.issues, Option.all_eq_true] using fresh
    rw [List.append_nil]
    split at moved
    · cases moved
      exact invariant_refused inv call
    · next opened =>
      cases moved
      exact invariant_begin inv start opened drawn
  | commit k =>
    simp only [Revocation.step, Option.bind_eq_bind, Option.bind_eq_some_iff, Option.guard_eq_some', Option.pure_def,
      Option.some.injEq] at moved
    obtain ⟨txn, found, -, free, rfl⟩ := moved
    simp only [Label.issues, Option.toList_none, List.append_nil, found, Option.bind_some]
    exact invariant_commit inv found free
  | abort k =>
    simp only [Revocation.step, Option.bind_eq_bind, Option.bind_eq_some_iff, Option.pure_def, Option.some.injEq] at moved
    obtain ⟨-, -, rfl⟩ := moved
    simp only [Label.issues, Option.toList_none, List.append_nil]
    exact invariant_abort inv k
  | mintStandingToken projectId tokenHash =>
    simp only [Revocation.step, Option.bind_eq_bind, Option.bind_eq_some_iff, Option.guard_eq_some', Option.pure_def,
      Option.some.injEq, Bool.and_eq_true, Bool.not_eq_true'] at moved
    obtain ⟨-, ⟨-, free⟩, rfl⟩ := moved
    rw [List.append_nil]
    exact invariant_mint inv (by simpa [Label.issues] using fresh) free
  | tick =>
    cases moved
    simp only [Label.issues, Option.toList_none, List.append_nil]
    exact ⟨inv.known, inv.held, inv.locks, inv.drawn, inv.draws, inv.deletes, inv.used,
      ⟨inv.spent.once, inv.spent.redeemable, inv.spent.own, inv.spent.earned⟩⟩

/-- One-time tokens are spent once, in every interleaving of calls, commits and rollbacks. -/
theorem spent_once (labels : List Label) : Always step SpentOnce Ledger.init labels :=
  have met : Meets step (fun _ _ => True) Ledger.init labels := meets_of_labels (fun _ _ _ => trivial) Ledger.init
  always_of_meets Invariant (fun _ _ _ inv _ stepped => invariant_step inv stepped)
    (fun _ inv => inv.spent) invariant_init met

/-- A rotation token that is tried twice. -/
example : ((run step Ledger.init [.mintStandingToken 1 "s", .begin (.enrollAgent "s" none none none "k0" "a" none),
    .commit 0, .begin (.rotateAgentCredential 0 "t"), .commit 0, .begin (.enrollAgent "t" none none none "k1" "a" none),
    .commit 0, .begin (.enrollAgent "t" none none none "k2" "a" none)]).map fun s =>
      s.redeemed.map Redemption.keyHash) = some ["k0", "k1"] := by decide

end Marlinspike.Gateway.Enrollment
