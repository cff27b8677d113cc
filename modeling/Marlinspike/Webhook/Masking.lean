import Marlinspike.Webhook.Settings

/-!
What shows of the secret of a webhook. Over whole runs the answers depend on the secrets that are
saved through their masks only: with other secrets that have the same masks, every request is
answered the same.
-/
namespace Marlinspike.Webhook.Masking
open Marlinspike.Projects.Membership (Users Response strip)
open Marlinspike.Transition
open Marlinspike.Noninterference
open Marlinspike.Webhook.Settings

/-! ### What shows of a secret -/

/-- What an answer may show of a secret. -/
def shown (secret : String) : String := if secret = "" then "" else mask secret

/-- What shows of a secret, and whether it can go into a header. -/
def seenSecret : Json → Json × Bool
  | .str s => (.str (shown s), headerSafe s)
  | other => (other, true)

def seen (key : String) (value : Json) : Json × Bool := if key = "secret" then seenSecret value else (value, true)

def view (cfg : PyDict String Json) : PyDict String (Json × Bool) := cfg.mapItems seen

/-- Two requests that differ at most in the secret that one project is to have, both with one mask. -/
inductive Alike : Request → Request → Prop where
  | same (r : Request) : Alike r r
  | secret (actor pid : Nat) (before after : List (String × Json)) (allowed : String → Bool) {a b : String}
      (mask : shown (strip a) = shown (strip b)) (safe : headerSafe (strip a) = headerSafe (strip b)) :
      Alike (.put actor pid (some (.obj (before ++ ("secret", .str a) :: after))) allowed)
        (.put actor pid (some (.obj (before ++ ("secret", .str b) :: after))) allowed)

section Views
variable {d e : PyDict String Json} {key : String}

theorem mask_ne_empty (secret : String) : mask secret ≠ "" := by
  intro empty
  have none_ := congrArg String.toList empty
  unfold mask at none_
  dsimp only at none_
  split at none_
  next hidden =>
    rw [String.toList_ofList] at none_
    have few := congrArg List.length none_
    simp at few
    omega
  next => simp at none_

theorem shown_eq_empty {secret : String} : shown secret = "" ↔ secret = "" := by
  unfold shown
  split
  next empty => simp [empty]
  next some_ => simp [mask_ne_empty, some_]

theorem get_view (d : PyDict String Json) (key : String) : (view d).get key = (d.get key).map (seen key) :=
  PyDict.get_mapItems d seen key

theorem seen_get (same : view d = view e) (key : String) : (d.get key).map (seen key) = (e.get key).map (seen key) := by
  rw [← get_view, ← get_view, same]

theorem keys_of_view (same : view d = view e) : d.items.map Prod.fst = e.items.map Prod.fst := by
  have keys := congrArg (fun c : PyDict String (Json × Bool) => c.items.map Prod.fst) same
  simpa [view, PyDict.mapItems, Function.comp_def] using keys

/-- All but the secret shows as it is. -/
theorem get_of_view (same : view d = view e) (other : key ≠ "secret") : d.get key = e.get key := by
  have injective : Function.Injective (seen key) := by
    intro v w equal
    simp only [seen, if_neg other] at equal
    exact (Prod.mk.inj equal).1
  exact Option.map_injective injective (seen_get same key)

/-- Values that show alike are one, or two texts with one mask. -/
theorem eq_or_alike {v w : Json} (same : seenSecret v = seenSecret w) : v = w ∨
    ∃ a b, v = .str a ∧ w = .str b ∧ shown a = shown b ∧ headerSafe a = headerSafe b := by
  cases v with
  | str a =>
    cases w with
    | str b =>
      obtain ⟨masks, safe⟩ := Prod.mk.inj same
      exact Or.inr ⟨a, b, rfl, rfl, Json.str.inj masks, safe⟩
    | _ => cases (Prod.mk.inj same).1
  | _ =>
    cases w with
    | str b => cases (Prod.mk.inj same).1
    | _ => exact Or.inl (Prod.mk.inj same).1

theorem secret_of_view (same : view d = view e) : d.get "secret" = e.get "secret" ∨
    ∃ a b, d.get "secret" = some (.str a) ∧ e.get "secret" = some (.str b) ∧ shown a = shown b ∧
      headerSafe a = headerSafe b := by
  have alike := seen_get same "secret"
  cases first : d.get "secret" with
  | none =>
    rw [first, Option.map_none, eq_comm, Option.map_eq_none_iff] at alike
    exact Or.inl alike.symm
  | some v =>
    rw [first, Option.map_some, eq_comm, Option.map_eq_some_iff] at alike
    obtain ⟨w, second, alike⟩ := alike
    obtain rfl | ⟨a, b, rfl, rfl, same⟩ := eq_or_alike alike.symm
    · exact Or.inl second.symm
    · exact Or.inr ⟨a, b, rfl, second, same⟩

/-- What shows alike holds alike. -/
theorem holds_of_view (same : view d = view e) (key : String) : holds d key = holds e key := by
  unfold holds
  by_cases secret : key = "secret"
  · subst secret
    obtain equal | ⟨a, b, first, second, masks, -⟩ := secret_of_view same
    · rw [equal]
    · have empty : a = "" ↔ b = "" := by rw [← shown_eq_empty, masks, shown_eq_empty]
      simp [first, second, Json.truthy, empty]
  · rw [get_of_view same secret]

theorem platformOf_of_view (same : view d = view e) : platformOf d = platformOf e := by
  rw [platformOf, platformOf, textOf, textOf, get_of_view same (by decide)]

theorem effective_of_view (same : view d = view e) : validateEffectiveConfig d = validateEffectiveConfig e := by
  simp only [validateEffectiveConfig, missing, holds_of_view same, platformOf_of_view same]

theorem eq_of_view (same : view d = view e) (secret : d.get "secret" = e.get "secret") : d = e := by
  refine PyDict.eq_of_get (keys_of_view same) fun key => ?_
  by_cases is : key = "secret"
  · rw [is, secret]
  · exact get_of_view same is

theorem set_of_view (same : view d = view e) (present : d.get "secret" ≠ none) (value : Json) :
    d.set "secret" value = e.set "secret" value := by
  have present_ : e.get "secret" ≠ none := by
    rw [← PyDict.mem_keys_iff] at present ⊢
    rwa [← keys_of_view same]
  refine PyDict.eq_of_get ?_ fun key => ?_
  · rw [PyDict.keys_set, PyDict.keys_set, if_neg present, if_neg present_, keys_of_view same]
  · rw [PyDict.get_set, PyDict.get_set]
    split_ifs with is
    · rfl
    · exact get_of_view same (Ne.symm is)

theorem maskWebhookSecret_text {secret : String} (got : d.get "secret" = some (.str secret)) (some_ : secret ≠ "") :
    maskWebhookSecret d = some (d.set "secret" (.str (shown secret))) := by
  simp [maskWebhookSecret, got, Json.truthy, some_, maskOf, shown]

/-- Settings that show alike are masked to one. -/
theorem maskWebhookSecret_of_view (same : view d = view e) : maskWebhookSecret d = maskWebhookSecret e := by
  obtain equal | ⟨a, b, first, second, masks, -⟩ := secret_of_view same
  · rw [eq_of_view same equal]
  · by_cases empty : a = ""
    · have empty_ : b = "" := shown_eq_empty.mp (masks ▸ shown_eq_empty.mpr empty)
      rw [eq_of_view same (by rw [first, second, empty, empty_])]
    · have some_ : b ≠ "" := fun none => empty (shown_eq_empty.mp (masks ▸ shown_eq_empty.mpr none))
      rw [maskWebhookSecret_text first empty, maskWebhookSecret_text second some_, masks,
        set_of_view same (by rw [first]; nofun)]

theorem answer_of_view (same : view d = view e) (pid : Nat) (more : List (String × Json)) :
    answer pid d more = answer pid e more := by
  rw [answer, answer, maskWebhookSecret_of_view same]

theorem view_update (d b : PyDict String Json) : view (d.update b.items) = (view d).update (view b).items :=
  PyDict.mapItems_update d b.items seen

/-! ### The checks see no more -/

theorem checkSecret_of_seen {v w : Json} (same : seenSecret v = seenSecret w) :
    orNull checkSecret v = orNull checkSecret w := by
  obtain rfl | ⟨a, b, rfl, rfl, -, safe⟩ := eq_or_alike same
  · rfl
  · simp only [orNull, checkSecret, checkText, safe]

theorem checkKey_of_view {allowed : String → Bool} {check : String × (Json → Except Failure Unit)}
    (member : check ∈ checks allowed) (same : view d = view e) : checkKey d check = checkKey e check := by
  unfold checkKey
  by_cases secret : check.1 = "secret"
  · obtain rfl : check = ("secret", orNull checkSecret) := by
      simp only [checks, List.mem_cons, List.not_mem_nil, or_false] at member
      rcases member with rfl | rfl | rfl | rfl | rfl | rfl | rfl | rfl | rfl | rfl
      all_goals first | rfl | simp at secret
    have alike := seen_get same "secret"
    cases first : d.get "secret" with
    | none =>
      rw [first, Option.map_none, eq_comm, Option.map_eq_none_iff] at alike
      rw [alike]
    | some v =>
      rw [first, Option.map_some, eq_comm, Option.map_eq_some_iff] at alike
      obtain ⟨w, second, alike⟩ := alike
      rw [second]
      exact checkSecret_of_seen alike.symm
  · rw [get_of_view same secret]

theorem forM_congr {α : Type} {f g : α → Except Failure Unit} {l : List α} (same : ∀ a ∈ l, f a = g a) :
    l.forM f = l.forM g := by
  induction l with
  | nil => rfl
  | cons a rest ih =>
    obtain ⟨first, later⟩ := List.forall_mem_cons.mp same
    rw [List.forM, List.forM, first, ih later]

/-- Requests that show alike when they are trimmed pass the same checks, and leave what shows alike. -/
theorem validateConfig_of_view (allowed : String → Bool)
    (same : view (d.mapItems stripField) = view (e.mapItems stripField)) :
    (∃ failure, validateConfig allowed d = .error failure ∧ validateConfig allowed e = .error failure) ∨
      ∃ body body', validateConfig allowed d = .ok body ∧ validateConfig allowed e = .ok body' ∧
        view body = view body' := by
  have passed : (checks allowed).forM (checkKey (d.mapItems stripField)) =
      (checks allowed).forM (checkKey (e.mapItems stripField)) :=
    forM_congr fun check member => checkKey_of_view member same
  unfold validateConfig
  dsimp only
  rw [keys_of_view same, passed]
  generalize ensure _ _ = known
  cases known with
  | error failure => exact Or.inl ⟨failure, rfl, rfl⟩
  | ok done =>
    generalize (checks allowed).forM (checkKey (e.mapItems stripField)) = checked
    cases checked with
    | error failure => exact Or.inl ⟨failure, rfl, rfl⟩
    | ok done => exact Or.inr ⟨_, _, rfl, rfl, same⟩

end Views

/-! ### Runs that show alike -/

section Runs
variable {users : Users} {allowed : String → Bool} {s t : Site} {x : Response} {r : Request} {uid pid : Nat}

/-- Sites that differ at most in the secrets, all with the same masks. -/
structure Agrees (s t : Site) : Prop where
  store : s.store = t.store
  configs : ∀ pid, view (s.configs pid) = view (t.configs pid)

theorem view_body (before after : List (String × Json)) {a b : String} (mask : shown (strip a) = shown (strip b))
    (safe : headerSafe (strip a) = headerSafe (strip b)) :
    view ((PyDict.empty.update (before ++ ("secret", .str a) :: after)).mapItems stripField) =
      view ((PyDict.empty.update (before ++ ("secret", .str b) :: after)).mapItems stripField) := by
  have bound : "secret" ∈ headerBound := by decide
  simp only [view, PyDict.mapItems_update, List.map_append, List.map_cons, stripField, if_pos bound, seen,
    if_pos, seenSecret, mask, safe]

theorem agrees_setConfig {cfg cfg' : PyDict String Json} {s' : Site} (agree : Agrees s s')
    (same : view cfg = view cfg') : Agrees (s.setConfig pid cfg) (s'.setConfig pid cfg') where
  store := agree.store
  configs := by
    intro other
    by_cases here : other = pid
    · subst here
      rw [configs_self, configs_self, same]
    · rw [configs_of_ne here, configs_of_ne here]
      exact agree.configs other

theorem getProjectWebhook_alike {s' : Site} (agree : Agrees s s') (uid pid : Nat) :
    getProjectWebhook s uid pid = getProjectWebhook s' uid pid := by
  have same := agree.configs pid
  unfold getProjectWebhook
  rw [agree.store, answer_of_view same, holds_of_view same]

/-- Requests to save that show alike are answered alike. -/
theorem setProjectWebhook_alike {s' : Site} (agree : Agrees s s') {items items' : List (String × Json)}
    (same : view ((PyDict.empty.update items).mapItems stripField) =
      view ((PyDict.empty.update items').mapItems stripField))
    (served : setProjectWebhook allowed s uid pid (some (.obj items)) = (t, x)) :
    ∃ t', setProjectWebhook allowed s' uid pid (some (.obj items')) = (t', x) ∧ Agrees t t' := by
  unfold setProjectWebhook at served ⊢
  rw [← agree.store]
  split at served
  next =>
    obtain ⟨rfl, rfl⟩ := Prod.mk.inj served
    exact ⟨s', rfl, agree⟩
  next =>
    obtain ⟨failure, first, second⟩ | ⟨body, body', first, second, alike⟩ := validateConfig_of_view allowed same
    · simp only [first, second] at served ⊢
      cases failure with
      | raised =>
        obtain ⟨rfl, rfl⟩ := Prod.mk.inj served
        exact ⟨s', rfl, agree⟩
      | invalid message =>
        obtain ⟨rfl, rfl⟩ := Prod.mk.inj served
        exact ⟨s', rfl, agree⟩
    · have merged : view ((s.configs pid).update body.items) = view ((s'.configs pid).update body'.items) := by
        rw [view_update, view_update, agree.configs pid, alike]
      simp only [first, second, ← effective_of_view merged] at served ⊢
      cases effective : validateEffectiveConfig ((s.configs pid).update body.items) with
      | some message =>
        simp only [effective] at served ⊢
        obtain ⟨rfl, rfl⟩ := Prod.mk.inj served
        exact ⟨s', rfl, agree⟩
      | none =>
        simp only [effective] at served ⊢
        obtain ⟨rfl, rfl⟩ := Prod.mk.inj served
        rw [answer_of_view merged]
        exact ⟨_, rfl, agrees_setConfig agree merged⟩

/-- The same request to sites that differ at most in the secrets. -/
theorem setProjectWebhook_same {s' : Site} (agree : Agrees s s') {json : Option Json}
    (served : setProjectWebhook allowed s uid pid json = (t, x)) :
    ∃ t', setProjectWebhook allowed s' uid pid json = (t', x) ∧ Agrees t t' := by
  by_cases object : ∃ items, json = some (.obj items)
  · obtain ⟨items, rfl⟩ := object
    exact setProjectWebhook_alike agree rfl served
  · unfold setProjectWebhook at served ⊢
    rw [← agree.store]
    split at served
    next =>
      obtain ⟨rfl, rfl⟩ := Prod.mk.inj served
      exact ⟨s', rfl, agree⟩
    next =>
      split at served
      next items => exact absurd ⟨items, rfl⟩ object
      next =>
        obtain ⟨rfl, rfl⟩ := Prod.mk.inj served
        exact ⟨s', rfl, agree⟩

theorem serve_alike {s' : Site} {r' : Request} (agree : Agrees s s') (alike : Alike r r')
    (served : serve users s r = some (t, x)) : ∃ t', serve users s' r' = some (t', x) ∧ Agrees t t' := by
  cases alike with
  | secret actor pid before after allowed mask safe =>
    have same := view_body before after mask safe
    obtain ⟨t', served', agree⟩ := setProjectWebhook_alike agree same (Option.some.inj served)
    exact ⟨t', congrArg some served', agree⟩
  | same =>
    cases r with
    | project r =>
      obtain ⟨⟨store, y⟩, kept, same⟩ := Option.map_eq_some_iff.mp served
      obtain ⟨rfl, rfl⟩ := Prod.mk.inj same
      refine ⟨{ s' with store := store }, ?_, rfl, agree.configs⟩
      rw [serve, ← agree.store, kept]
      rfl
    | get actor pid =>
      obtain ⟨rfl, rfl⟩ := Prod.mk.inj (Option.some.inj served)
      exact ⟨s', congrArg (fun y => some (s', y)) (getProjectWebhook_alike agree actor pid).symm, agree⟩
    | put actor pid json allowed =>
      obtain ⟨t', served', agree⟩ := setProjectWebhook_same agree (Option.some.inj served)
      exact ⟨t', congrArg some served', agree⟩

end Runs
end Marlinspike.Webhook.Masking
