import Marlinspike.Base64
import Marlinspike.Noninterference
import Marlinspike.Projects.Membership
import Marlinspike.Webhook.Tickets

/-!
The webhook settings of projects. Whatever requests are served, what is saved can be delivered as
it is: every value is one that a delivery can use, and a delivery that is switched on has all that
its platform asks for.
-/
namespace Marlinspike.Webhook.Settings
open Marlinspike.Projects (Membership.Response)
open Marlinspike.Projects.Membership (Users Response failed notOk getProjectForUser strip)
open Marlinspike.Transition
open Marlinspike.Noninterference

/-! ### The checks -/

def allowedKeys : List String :=
  ["enabled", "platform", "url", "secret", "min_severity", "zammad_group", "zammad_customer", "jira_email",
    "jira_project_key", "jira_issue_type"]

def platforms : List String := ["generic", "jira", "zammad"]

/-- The fields that end up in a header. -/
def headerBound : List String :=
  ["url", "secret", "zammad_group", "zammad_customer", "jira_email", "jira_project_key", "jira_issue_type"]

/-- `_header_safe`: the text can be encoded as latin-1. -/
def headerSafe (s : String) : Bool := s.toList.all (·.toNat < 256)

/-- `_strip_header_bound_fields`, at one field. -/
def stripField (key : String) (value : Json) : Json :=
  match value with
  | .str s => if key ∈ headerBound then .str (strip s) else .str s
  | other => other

/-- What a check says; a platform that cannot be hashed raises. -/
inductive Failure where
  | raised
  | invalid (message : String)

def ensure (holds : Bool) (message : String) : Except Failure Unit :=
  if holds then .ok () else .error (.invalid message)

/-- The check of a value that may be null. -/
def orNull (check : Json → Except Failure Unit) : Json → Except Failure Unit
  | .null => .ok ()
  | value => check value

def checkEnabled : Json → Except Failure Unit
  | .bool _ => .ok ()
  | _ => .error (.invalid "enabled must be a boolean")

def checkPlatform : Json → Except Failure Unit
  | .str s => ensure (platforms.contains s) "platform must be one of ['generic', 'jira', 'zammad']"
  | .arr _ | .obj _ => .error .raised
  | _ => .error (.invalid "platform must be one of ['generic', 'jira', 'zammad']")

def isHttp (url : String) : Bool :=
  "http://".toList.isPrefixOf url.toList || "https://".toList.isPrefixOf url.toList

/-- The check of the URL, with the addresses that the server allows when it is asked. -/
def checkUrl (allowed : String → Bool) : Json → Except Failure Unit
  | .str url => do
    ensure (isHttp url) "url must be an http(s) URL string"
    ensure (headerSafe url) ("url contains a character that isn't valid in an HTTP request " ++
      "(e.g. a curly quote, em-dash, or '…' picked up by copy-paste) — retype it")
    ensure (allowed url) ("url resolves to a private/loopback/reserved address; set " ++
      "MARLINSPIKE_WEBHOOK_ALLOW_PRIVATE_TARGETS=true on the server " ++
      "to allow internal receivers (e.g. a self-hosted Zammad instance)")
  | _ => .error (.invalid "url must be an http(s) URL string")

def checkText (key garbled : String) : Json → Except Failure Unit
  | .str s => ensure (headerSafe s) garbled
  | _ => .error (.invalid (key ++ " must be a string"))

def checkSecret : Json → Except Failure Unit :=
  checkText "secret" ("secret/API token contains a character that isn't valid in an HTTP header " ++
    "— if you copy-pasted it from a page that displays it truncated (e.g. " ++
    "'abc123…xyz789'), that '…' is a real character, not three dots; copy the " ++
    "full untruncated value instead")

def checkSeverity : Json → Except Failure Unit
  | .str s =>
    ensure (Tickets.severityOrder.contains s)
      "min_severity must be one of ['INFO', 'LOW', 'MEDIUM', 'HIGH', 'CRITICAL']"
  | _ => .error (.invalid "min_severity must be one of ['INFO', 'LOW', 'MEDIUM', 'HIGH', 'CRITICAL']")

def checkField (key : String) : Json → Except Failure Unit :=
  checkText key (key ++ " contains a character that isn't valid in an HTTP header — retype it")

/-- The checks of `validate_config` in their order. -/
def checks (allowed : String → Bool) : List (String × (Json → Except Failure Unit)) :=
  [("enabled", checkEnabled), ("platform", orNull checkPlatform), ("url", orNull (checkUrl allowed)),
    ("secret", orNull checkSecret), ("min_severity", orNull checkSeverity),
    ("zammad_group", orNull (checkField "zammad_group")), ("zammad_customer", orNull (checkField "zammad_customer")),
    ("jira_email", orNull (checkField "jira_email")), ("jira_project_key", orNull (checkField "jira_project_key")),
    ("jira_issue_type", orNull (checkField "jira_issue_type"))]

/-- The check of a key that may be missing. -/
def checkKey (body : PyDict String Json) (check : String × (Json → Except Failure Unit)) : Except Failure Unit :=
  match body.get check.1 with
  | none => .ok ()
  | some value => check.2 value

def unknownKeys (keys : List String) : List String :=
  (keys.filter fun key => !allowedKeys.contains key).mergeSort fun a b => decide (a ≤ b)

/-- `validate_config`, with the body as it leaves it. -/
def validateConfig (allowed : String → Bool) (body : PyDict String Json) :
    Except Failure (PyDict String Json) := do
  let body := body.mapItems stripField
  let unknown := unknownKeys (body.items.map Prod.fst)
  ensure unknown.isEmpty ("unknown keys: " ++ ", ".intercalate unknown)
  (checks allowed).forM (checkKey body)
  return body

/-! ### What is saved -/

/-- `bool(cfg.get(key))`. -/
def holds (cfg : PyDict String Json) (key : String) : Bool := (cfg.get key).elim false Json.truthy

/-- A text of the settings, empty if it is not set. -/
def textOf (cfg : PyDict String Json) (key : String) : String := ((cfg.get key).bind Json.asStr).getD ""

/-- `cfg.get("platform") or "generic"`; what is no text is no platform of its own. -/
def platformOf (cfg : PyDict String Json) : String :=
  if textOf cfg "platform" = "" then "generic" else textOf cfg "platform"

def missing (cfg : PyDict String Json) (platform : String) (required : List (String × String)) : Option String :=
  let missing := (required.filter fun item => !holds cfg item.1).map Prod.snd
  if missing.isEmpty then none
  else some (platform ++ " delivery is enabled but missing: " ++ ", ".intercalate missing)

def requiredByZammad : List (String × String) :=
  [("url", "Zammad base URL"), ("secret", "Zammad API token"), ("zammad_group", "Zammad group"),
    ("zammad_customer", "Zammad customer email")]

def requiredByJira : List (String × String) :=
  [("url", "Jira base URL"), ("secret", "Jira API token / personal access token"),
    ("jira_project_key", "Jira project key")]

def validateEffectiveConfig (cfg : PyDict String Json) : Option String :=
  if holds cfg "enabled" = false then none
  else if platformOf cfg = "zammad" then missing cfg "zammad" requiredByZammad
  else if platformOf cfg = "jira" then missing cfg "jira" requiredByJira
  else if holds cfg "url" then none
  else some "webhook is enabled but no URL is configured"

def mask (secret : String) : String :=
  let hidden := secret.length - 4
  if 0 < hidden then String.ofList (List.replicate hidden '*' ++ secret.toList.drop hidden) else "****"

/-- The mask of a secret; of what is no text, some cannot be cut. -/
def maskOf : Json → Option Json
  | .str s => some (.str (mask s))
  | .arr items => if items.length ≤ 4 then some (.str "****") else none
  | .obj items => if items.length ≤ 4 then some (.str "****") else none
  | _ => none

/-- `_mask_webhook_secret`. -/
def maskWebhookSecret (cfg : PyDict String Json) : Option (PyDict String Json) :=
  match cfg.get "secret" with
  | none => some cfg
  | some secret => if secret.truthy then (maskOf secret).map (cfg.set "secret") else some cfg

/-! ### Requests -/

/-- The projects and the settings of each. An id is not given out again, so that what a project
    leaves behind is not read. -/
structure Site where
  store : Projects.Membership.State
  configs : Nat → PyDict String Json

def start : Site := ⟨⟨.empty, []⟩, fun _ => .empty⟩

def Site.setConfig (s : Site) (pid : Nat) (cfg : PyDict String Json) : Site :=
  { s with configs := Function.update s.configs pid cfg }

def answer (pid : Nat) (cfg : PyDict String Json) (more : List (String × Json)) : Response :=
  match maskWebhookSecret cfg with
  | none => failed
  | some masked => ⟨200, .obj ([("ok", .bool true), ("project_id", .int pid), ("config", .obj masked.items)] ++ more)⟩

def getProjectWebhook (s : Site) (uid pid : Nat) : Response :=
  match getProjectForUser s.store pid uid .owner with
  | none => notOk 404 "Project not found"
  | some _ => answer pid (s.configs pid) [("configured", .bool (holds (s.configs pid) "url"))]

def setProjectWebhook (allowed : String → Bool) (s : Site) (uid pid : Nat) (json : Option Json) : Site × Response :=
  match getProjectForUser s.store pid uid .owner with
  | none => (s, notOk 404 "Project not found")
  | some _ =>
    match json with
    | some (.obj items) =>
      match validateConfig allowed (PyDict.empty.update items) with
      | .error .raised => (s, failed)
      | .error (.invalid message) => (s, notOk 400 ("invalid webhook config: " ++ message))
      | .ok body =>
        let merged := (s.configs pid).update body.items
        match validateEffectiveConfig merged with
        | some message => (s, notOk 400 message)
        | none => (s.setConfig pid merged, answer pid merged [])
    | _ => (s, notOk 400 "JSON body required")

inductive Request where
  | project (r : Projects.Membership.Request)
  | get (actor pid : Nat)
  /-- A request to save, and the addresses that are allowed when it is served. -/
  | put (actor pid : Nat) (json : Option Json) (allowed : String → Bool)

def serve (users : Users) (s : Site) : Request → Option (Site × Response)
  | .project r => (Projects.Membership.serve users s.store r).map fun (store, x) => ({ s with store := store }, x)
  | .get actor pid => some (s, getProjectWebhook s actor pid)
  | .put actor pid json allowed => some (setProjectWebhook allowed s actor pid json)

/-! ### What a delivery is given -/

/-- The tracker that tickets are created in, if any. -/
def ticketing (cfg : PyDict String Json) : Option Tickets.Platform :=
  if platformOf cfg = "zammad" then some .zammad else if platformOf cfg = "jira" then some .jira else none

def configOf (cfg : PyDict String Json) (platform : Tickets.Platform) : Tickets.Config :=
  { enabled := holds cfg "enabled"
    platform := platform
    url := textOf cfg "url"
    secret := textOf cfg "secret"
    minSeverity := textOf cfg "min_severity"
    zammadGroup := textOf cfg "zammad_group"
    zammadCustomer := textOf cfg "zammad_customer"
    jiraProjectKey := textOf cfg "jira_project_key" }

def jiraAuthHeader (secret email : String) : String :=
  if email = "" then "Bearer " ++ secret
  else "Basic " ++ String.ofList (Base64.encode (email ++ ":" ++ secret).toUTF8.data.toList)

/-- The `Authorization` header of a request to a tracker. -/
def authorization (cfg : PyDict String Json) : Tickets.Platform → String
  | .zammad => "Token token=" ++ textOf cfg "secret"
  | .jira => jiraAuthHeader (textOf cfg "secret") (textOf cfg "jira_email")

/-- What `validate_config` lets into the settings. -/
def Fits (key : String) : Json → Prop
  | .null => key ∈ allowedKeys ∧ key ≠ "enabled"
  | .bool _ => key = "enabled"
  | .str s =>
    key = "platform" ∧ s ∈ platforms ∨ key = "min_severity" ∧ s ∈ Tickets.severityOrder ∨
      key ∈ headerBound ∧ headerSafe s = true ∧ strip s = s ∧ (key = "url" → isHttp s = true)
  | _ => False

def Fit (cfg : PyDict String Json) : Prop := ∀ key value, cfg.get key = some value → Fits key value

/-- Settings that a delivery works with as they are. -/
structure Deliverable (cfg : PyDict String Json) : Prop where
  fit : Fit cfg
  complete : holds cfg "enabled" = true → ∀ platform, ticketing cfg = some platform →
    (configOf cfg platform).isComplete = true
  addressed : holds cfg "enabled" = true → textOf cfg "url" ≠ ""
  sendable : ∀ platform, headerSafe (authorization cfg platform) = true

/-! ### What passes the checks -/

section Checks
variable {allowed : String → Bool} {body checked cfg d e : PyDict String Json} {key s : String} {value : Json}

theorem ensure_eq_ok {b : Bool} {message : String} : ensure b message = .ok () ↔ b = true := by
  cases b <;> simp [ensure]

theorem andThen_eq_ok {α : Type} {x : Except Failure Unit} {f : Unit → Except Failure α} {b : α} :
    x >>= f = .ok b ↔ x = .ok () ∧ f () = .ok b := by
  cases x with
  | error failure => simp [bind, Except.bind]
  | ok done => simp [bind, Except.bind]

theorem forM_eq_ok {α : Type} {f : α → Except Failure Unit} {l : List α} :
    l.forM f = .ok () ↔ ∀ a ∈ l, f a = .ok () := by
  induction l with
  | nil => simp [pure, Except.pure]
  | cons a rest ih => rw [List.forall_mem_cons, ← ih, List.forM, andThen_eq_ok]

theorem strip_strip (s : String) : strip (strip s) = strip s := by
  simp only [strip, String.toList_ofList]
  rw [Assignments.strip_eq_self (Assignments.strip_trimmed _)]

theorem stripField_stripField (key : String) (value : Json) :
    stripField key (stripField key value) = stripField key value := by
  cases value with
  | str s =>
    by_cases bound : key ∈ headerBound
    · simp [stripField, bound, strip_strip]
    · simp [stripField, bound]
  | _ => rfl

theorem strip_of_stripField (bound : key ∈ headerBound) (same : stripField key (.str s) = .str s) : strip s = s := by
  simpa [stripField, bound] using same

/-- A text that is checked for a header, or null. -/
theorem fits_text {garbled : String} (bound : key ∈ headerBound) (other : key ≠ "url")
    (trimmed : stripField key value = value) (passed : orNull (checkText key garbled) value = .ok ()) :
    Fits key value := by
  have known : key ∈ allowedKeys ∧ key ≠ "enabled" := by
    constructor
    · exact List.subset_def.mp (by decide : headerBound ⊆ allowedKeys) bound
    · rintro rfl
      exact absurd bound (by decide)
  cases value with
  | null => exact known
  | str s =>
    have same := strip_of_stripField bound trimmed
    exact Or.inr (Or.inr ⟨bound, ensure_eq_ok.mp passed, same, fun is => absurd is other⟩)
  | _ => cases passed

theorem fits_url (trimmed : stripField "url" value = value) (passed : orNull (checkUrl allowed) value = .ok ()) :
    Fits "url" value := by
  cases value with
  | null => exact ⟨by decide, by decide⟩
  | str s =>
    obtain ⟨http, passed⟩ := andThen_eq_ok.mp (show checkUrl allowed (.str s) = .ok () from passed)
    obtain ⟨safe, -⟩ := andThen_eq_ok.mp passed
    have bound : "url" ∈ headerBound := by decide
    have same := strip_of_stripField bound trimmed
    exact Or.inr (Or.inr ⟨bound, ensure_eq_ok.mp safe, same, fun _ => ensure_eq_ok.mp http⟩)
  | _ => cases passed

/-- A text that is one of some, or null. -/
theorem str_of_choice {choices : List String} {message : String} {check : Json → Except Failure Unit}
    (texts : ∀ s, check (.str s) = ensure (choices.contains s) message)
    (others : ∀ value, value.asStr = none → check value ≠ .ok ()) (passed : orNull check value = .ok ()) :
    value = .null ∨ ∃ s ∈ choices, value = .str s := by
  cases value with
  | null => exact Or.inl rfl
  | str s => exact Or.inr ⟨s, List.contains_iff_mem.mp (ensure_eq_ok.mp ((texts s).symm.trans passed)), rfl⟩
  | _ => exact absurd passed (others _ rfl)

theorem checkPlatform_other (other : value.asStr = none) : checkPlatform value ≠ .ok () := by
  intro passed
  cases value with
  | str s => cases other
  | _ => cases passed

theorem checkSeverity_other (other : value.asStr = none) : checkSeverity value ≠ .ok () := by
  intro passed
  cases value with
  | str s => cases other
  | _ => cases passed

theorem fits_of_checks (known : key ∈ allowedKeys) (trimmed : stripField key value = value)
    (passes : ∀ check ∈ checks allowed, check.1 = key → check.2 value = .ok ()) : Fits key value := by
  have passed (check : Json → Except Failure Unit) (member : (key, check) ∈ checks allowed) : check value = .ok () :=
    passes _ member rfl
  simp only [allowedKeys, List.mem_cons, List.not_mem_nil, or_false] at known
  rcases known with rfl | rfl | rfl | rfl | rfl | rfl | rfl | rfl | rfl | rfl
  · have checked : checkEnabled value = .ok () := passed _ (by simp [checks])
    cases value with
    | bool b => rfl
    | _ => cases checked
  · have checked : orNull checkPlatform value = .ok () := passed _ (by simp [checks])
    obtain rfl | ⟨s, member, rfl⟩ := str_of_choice (fun s => rfl) (fun _ => checkPlatform_other) checked
    · exact ⟨by decide, by decide⟩
    · exact Or.inl ⟨rfl, member⟩
  · exact fits_url trimmed (passed (orNull (checkUrl allowed)) (by simp [checks]))
  · exact fits_text (by decide) (by decide) trimmed (passed (orNull checkSecret) (by simp [checks]))
  · have checked : orNull checkSeverity value = .ok () := passed _ (by simp [checks])
    obtain rfl | ⟨s, member, rfl⟩ := str_of_choice (fun s => rfl) (fun _ => checkSeverity_other) checked
    · exact ⟨by decide, by decide⟩
    · exact Or.inr (Or.inl ⟨rfl, member⟩)
  all_goals exact fits_text (by decide) (by decide) trimmed (passed (orNull (checkField _)) (by simp [checks]))

/-- What `validate_config` lets through. -/
theorem validateConfig_ok (validated : validateConfig allowed body = .ok checked) :
    checked = body.mapItems stripField ∧ Fit checked := by
  obtain ⟨unknown, validated⟩ := andThen_eq_ok.mp validated
  obtain ⟨passes, validated⟩ := andThen_eq_ok.mp validated
  obtain rfl := Except.ok.inj validated
  refine ⟨rfl, fun key value got => ?_⟩
  have passes : ∀ check ∈ checks allowed, check.1 = key → check.2 value = .ok () := by
    rintro check member rfl
    have checked := forM_eq_ok.mp passes check member
    rwa [checkKey, got] at checked
  refine fits_of_checks ?_ ?_ passes
  · have sorted := List.isEmpty_iff.mp (ensure_eq_ok.mp unknown)
    have none_ := (List.mergeSort_perm _ _).symm.trans (.of_eq sorted)
    have listed : key ∈ (body.mapItems stripField).items.map Prod.fst :=
      PyDict.mem_keys_iff.mpr fun absent => by rw [absent] at got; cases got
    simpa using List.filter_eq_nil_iff.mp none_.eq_nil key listed
  · rw [PyDict.get_mapItems, Option.map_eq_some_iff] at got
    obtain ⟨given, -, rfl⟩ := got
    exact stripField_stripField key given

/-! ### What the settings are complete for -/

theorem fit_update (first : Fit d) (second : Fit e) : Fit (d.update e.items) := by
  intro key value got
  rw [PyDict.get_update] at got
  cases given : e.get key with
  | some other => exact second key value (by rwa [given, Option.some_or, ← given] at got)
  | none => exact first key value (by rwa [given, Option.none_or] at got)

/-- A setting that holds is a text that is not empty. -/
theorem holds_iff (fit : Fit cfg) (other : key ≠ "enabled") : holds cfg key = true ↔ textOf cfg key ≠ "" := by
  unfold holds textOf
  cases got : cfg.get key with
  | none => simp
  | some value =>
    have fits := fit key value got
    cases value with
    | null => simp [Json.truthy, Json.asStr]
    | bool b => exact absurd fits other
    | str s => simp [Json.truthy, Json.asStr]
    | _ => cases fits

theorem missing_eq_none {platform : String} {required : List (String × String)} :
    missing cfg platform required = none ↔ ∀ key ∈ required.map Prod.fst, holds cfg key = true := by
  simp [missing, List.filter_eq_nil_iff]

theorem complete_of_effective (fit : Fit cfg) (effective : validateEffectiveConfig cfg = none)
    (enabled : holds cfg "enabled" = true) : textOf cfg "url" ≠ "" ∧
      ∀ platform, ticketing cfg = some platform → (configOf cfg platform).isComplete = true := by
  have set {key : String} (other : key ≠ "enabled") (set : holds cfg key = true) : textOf cfg key ≠ "" :=
    (holds_iff fit other).mp set
  unfold validateEffectiveConfig at effective
  rw [if_neg (by simp [enabled])] at effective
  unfold ticketing
  split at effective
  next zammad =>
    have all := missing_eq_none.mp effective
    have url := set (by decide) (all "url" (by decide))
    have secret := set (by decide) (all "secret" (by decide))
    have group := set (by decide) (all "zammad_group" (by decide))
    have customer := set (by decide) (all "zammad_customer" (by decide))
    rw [if_pos zammad]
    refine ⟨url, ?_⟩
    rintro _ ⟨⟩
    simp [configOf, Tickets.Config.isComplete, url, secret, group, customer]
  next zammad =>
    rw [if_neg zammad]
    split at effective
    next jira =>
      have all := missing_eq_none.mp effective
      have url := set (by decide) (all "url" (by decide))
      have secret := set (by decide) (all "secret" (by decide))
      have project := set (by decide) (all "jira_project_key" (by decide))
      rw [if_pos jira]
      refine ⟨url, ?_⟩
      rintro _ ⟨⟩
      simp [configOf, Tickets.Config.isComplete, url, secret, project]
    next jira =>
      rw [if_neg jira]
      split at effective
      next url => exact ⟨set (by decide) url, nofun⟩
      next => cases effective

theorem headerSafe_append {s t : String} : headerSafe (s ++ t) = (headerSafe s && headerSafe t) := by
  simp [headerSafe, List.all_append]

theorem headerSafe_textOf (fit : Fit cfg) (bound : key ∈ headerBound) : headerSafe (textOf cfg key) = true := by
  unfold textOf
  cases got : cfg.get key with
  | none => rfl
  | some value =>
    have fits := fit key value got
    cases value with
    | str s =>
      rcases fits with ⟨rfl, -⟩ | ⟨rfl, -⟩ | ⟨-, safe, -⟩
      · exact absurd bound (by decide)
      · exact absurd bound (by decide)
      · exact safe
    | _ => rfl

theorem symbol_safe (n : Nat) : (Base64.symbol n).toNat < 256 := by
  unfold Base64.symbol
  rw [List.getD_eq_getElem?_getD]
  cases at_ : Base64.alphabet[n]? with
  | none => decide
  | some c =>
    have all : (Base64.alphabet.all (·.toNat < 256)) = true := rfl
    exact of_decide_eq_true (List.all_eq_true.mp all c (List.mem_of_getElem? at_))

theorem encode_safe (bytes : Base64.Bytes) : headerSafe (String.ofList (Base64.encode bytes)) = true := by
  rw [headerSafe, String.toList_ofList]
  induction bytes using Base64.encode.induct with
  | case1 => rfl
  | case2 a => simp [Base64.encode, symbol_safe]
  | case3 a b => simp [Base64.encode, symbol_safe]
  | case4 a b c rest ih => simpa [Base64.encode, symbol_safe] using ih

theorem sendable (fit : Fit cfg) (platform : Tickets.Platform) : headerSafe (authorization cfg platform) = true := by
  have bound : "secret" ∈ headerBound := by decide
  have secret := headerSafe_textOf fit bound
  cases platform with
  | zammad =>
    rw [authorization, headerSafe_append, secret]
    rfl
  | jira =>
    rw [authorization, jiraAuthHeader]
    split
    next =>
      rw [headerSafe_append, secret]
      rfl
    next =>
      rw [headerSafe_append, encode_safe]
      rfl

end Checks

section Runs
variable {users : Users} {allowed : String → Bool} {s t : Site} {x : Response} {r : Request} {uid pid : Nat}

theorem configs_self (cfg : PyDict String Json) : (s.setConfig pid cfg).configs pid = cfg := Function.update_self ..

theorem configs_of_ne {other : Nat} (apart : other ≠ pid) (cfg : PyDict String Json) :
    (s.setConfig pid cfg).configs other = s.configs other := Function.update_of_ne apart ..

theorem deliverable_empty : Deliverable .empty where
  fit := nofun
  complete := nofun
  addressed := nofun
  sendable := sendable nofun

/-- What a request to save does. -/
theorem setProjectWebhook_cases {json : Option Json} (served : setProjectWebhook allowed s uid pid json = (t, x)) :
    t = s ∨ ∃ items body, json = some (.obj items) ∧ validateConfig allowed (PyDict.empty.update items) = .ok body ∧
      validateEffectiveConfig ((s.configs pid).update body.items) = none ∧
      t = s.setConfig pid ((s.configs pid).update body.items) := by
  unfold setProjectWebhook at served
  split at served
  next => exact Or.inl (Prod.mk.inj served).1.symm
  next =>
    split at served
    next items =>
      split at served
      next => exact Or.inl (Prod.mk.inj served).1.symm
      next => exact Or.inl (Prod.mk.inj served).1.symm
      next body validated =>
        dsimp only at served
        split at served
        next => exact Or.inl (Prod.mk.inj served).1.symm
        next effective => exact Or.inr ⟨items, body, rfl, validated, effective, (Prod.mk.inj served).1.symm⟩
    next => exact Or.inl (Prod.mk.inj served).1.symm

theorem deliverable_step (before : ∀ pid, Deliverable (s.configs pid)) (served : serve users s r = some (t, x)) :
    ∀ pid, Deliverable (t.configs pid) := by
  cases r with
  | project r =>
    obtain ⟨⟨store, y⟩, -, same⟩ := Option.map_eq_some_iff.mp served
    obtain ⟨rfl, -⟩ := Prod.mk.inj same
    exact before
  | get actor pid =>
    obtain ⟨rfl, -⟩ := Prod.mk.inj (Option.some.inj served)
    exact before
  | put actor target json allowed =>
    obtain rfl | ⟨items, body, -, validated, effective, rfl⟩ := setProjectWebhook_cases (Option.some.inj served)
    · exact before
    · intro pid
      by_cases here : pid = target
      · subst here
        have fit := fit_update (before pid).fit (validateConfig_ok validated).2
        have complete := complete_of_effective fit effective
        rw [configs_self]
        exact ⟨fit, fun enabled => (complete enabled).2, fun enabled => (complete enabled).1, sendable fit⟩
      · rw [configs_of_ne here]
        exact before pid

/-- A project is made, and its findings go to a tracker. -/
def tracked (secret : String) : List Request :=
  [.project ⟨7, "noon", .create 1 (some (.obj [("name", .str "Plant")]))⟩,
    .put 7 1 (some (.obj ([("enabled", .bool true), ("platform", .str "jira"), ("url", .str " https://tracker ")] ++
      ("secret", .str secret) :: [("jira_project_key", .str "OT")]))) fun _ => true,
    .get 7 1]

def nobody : Users := ⟨fun _ => none, fun _ => none⟩

end Runs
end Marlinspike.Webhook.Settings
