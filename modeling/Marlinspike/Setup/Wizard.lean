import Marlinspike.Assignments
import Marlinspike.Emit.SigmaYaml
import Marlinspike.JsonText
import Marlinspike.Transition

/-!
The setup wizard and its `.env` file. A run reads the file that is there, keeps its secrets and
writes all settings again: what it writes is read back as it was meant just if the database URL
holds no line break, and over runs without such a URL the secrets never change.
-/
namespace Marlinspike.Setup.Wizard
open Marlinspike.Yaml (Text)
open Marlinspike.Emit.SigmaYaml (isSpace)
open Marlinspike.Assignments (Format Trimmed Readable Unbroken Remark strip lineOf)

/-! ### Python's texts -/

/-- Where `str.splitlines` breaks. -/
def isBreak (c : Char) : Bool := c.toNat ∈ [10, 11, 12, 13, 28, 29, 30, 0x85, 0x2028, 0x2029]

/-- Text files are read with every line end as `\n`. -/
def universalNewlines : Text → Text
  | [] => []
  | '\r' :: '\n' :: rest => '\n' :: universalNewlines rest
  | c :: rest => (if c = '\r' then '\n' else c) :: universalNewlines rest

def splitlinesFrom : Text → Text → List Text
  | line, [] => if line = [] then [] else [line]
  | line, '\r' :: '\n' :: rest => line :: splitlinesFrom [] rest
  | line, c :: rest => if isBreak c then line :: splitlinesFrom [] rest else splitlinesFrom (line ++ [c]) rest

/-- `s.splitlines()`. -/
def splitlines (text : Text) : List Text := splitlinesFrom [] text

/-- `s.split(sep, 1)`, of what has the separator. -/
def cutAt (sep : Text) : Text → Option (Text × Text)
  | [] => none
  | c :: rest =>
    if sep.isPrefixOf (c :: rest) then some ([], (c :: rest).drop sep.length)
    else (cutAt sep rest).map fun cut => (c :: cut.1, cut.2)

/-- What is left of `value or default` before the default. -/
def truthy (value : Option Text) : Option Text := value.filter (· ≠ [])

/-! ### Secrets -/

/-- `_gen_secret_hex`, of random bytes. -/
def genSecretHex (bytes : List UInt8) : Text :=
  bytes.flatMap fun byte => [JsonText.hexDigit (byte.toNat / 16), JsonText.hexDigit (byte.toNat % 16)]

def alphabet : Text :=
  "abcdefghijklmnopqrstuvwxyzABCDEFGHIJKLMNOPQRSTUVWXYZ0123456789!#$%&*+-=?@^_~".toList

/-- What `secrets.choice` chooses for each of the 24 characters. -/
abbrev Choices := Fin 24 → Fin alphabet.length

/-- `_gen_password`, of the choices in the order they are made; none while the loop goes on. -/
def genPassword (draws : List Choices) : Option Text :=
  (draws.map fun choices => List.ofFn fun i => alphabet.get (choices i)).find? fun pw =>
    pw.any Char.isUpper && pw.any Char.isLower && pw.any Char.isDigit

/-! ### The file -/

/-- The characters of a `.env` file. -/
def env : Format Char where
  space := isSpace
  breaks := isBreak
  comment := '#'
  sign := '='
  space_of_breaks c breaks := by
    simp only [isBreak, isSpace, decide_eq_true_eq, List.mem_cons, List.not_mem_nil, or_false] at breaks ⊢
    simp only [Bool.or_eq_true, Bool.and_eq_true, decide_eq_true_eq]
    omega
  comment_solid := by decide
  sign_solid := by decide
  comment_ne_sign := by decide

/-- `_existing_env`, of the text of the file if there is one. -/
def existingEnv : Option Text → PyDict Text Text
  | none => .empty
  | some text => Assignments.read env (splitlines (universalNewlines text))

def banner : List Text :=
  ["# Generated by marlinspike-setup. Permissions: 0600.".toList,
    "# Do not commit this file. Rotate SECRET_KEY + DB password if it leaks.".toList, []]

/-- What `_write_env` writes. -/
def writeEnv (kv : PyDict Text Text) : Text := Assignments.write env '\n' banner kv.items

/-- `_redact`. -/
def redact (url : Text) : Text :=
  match cutAt "://".toList url with
  | none => url
  | some (scheme, rest) =>
    if '@' ∈ rest then
      let creds := (rest.rdropWhile (· ≠ '@')).dropLast
      let host := rest.rtakeWhile (· ≠ '@')
      if ':' ∈ creds then scheme ++ "://".toList ++ creds.takeWhile (· ≠ ':') ++ ":***@".toList ++ host else url
    else url

def rule : Text := List.replicate 60 '='

/-- `_print_summary`, of the file's resolved path. -/
def summary (kv : PyDict Text Text) (path : Text) : List Text :=
  [[], rule, "  Setup complete".toList, rule, "  .env written: ".toList ++ path ++ " (mode 0600)".toList,
    "  DATABASE_URL: ".toList ++ redact ((kv.get "DATABASE_URL".toList).getD []),
    "  SECRET_KEY:   <generated, 64 hex chars>".toList] ++
  ((truthy (kv.get "ADMIN_PASSWORD".toList)).elim [] fun password =>
    [[], "  ADMIN BOOTSTRAP CREDENTIAL".toList, "  username: admin".toList, "  password: ".toList ++ password,
      "  Change this immediately after first login.".toList]) ++
  [[], "  Next steps:".toList, "    1. source the env into your shell:".toList,
    "         export $(grep -v '^#' .env | xargs)".toList, "    2. start the app:".toList,
    "         python -m marlinspike.app".toList, "       or with Docker:".toList,
    "         docker compose up -d --build".toList, rule]

/-! ### The wizard -/

structure Args where
  auto : Bool
  force : Bool
  printOnly : Bool
  envPath : Text

/-- The lines typed in; none where the input has ended. -/
structure Answers where
  databaseUrl : Option Text
  sessionSecure : Option Text
  resetDelivery : Option Text
  captureRequire : Option Text

structure Draws where
  secret : Fin 32 → UInt8
  passwords : List Choices

/-- `_prompt`, of the answer to it. -/
def prompt (answer : Option Text) (default : Text) : Text :=
  (truthy (some (strip isSpace (answer.getD [])))).getD default

/-- `_prompt_yes_no`. -/
def promptYesNo (answer : Option Text) (default : Bool) : Bool :=
  match truthy (some ((strip isSpace (answer.getD [])).map Char.toLower)) with
  | none => default
  | some value => value = "y".toList || value = "yes".toList

/-- A choice among a few, the default where the answer is none of them. -/
def promptAmong (choices : List Text) (answer : Option Text) (default : Text) : Text :=
  let value := prompt answer default
  if value ∈ choices then value else default

/-- `env` of `run`. -/
def settings (secretKey databaseUrl adminPassword : Text) (sessionSecure : Bool) (resetDelivery captureRequire : Text) :
    PyDict Text Text where
  items :=
    [("SECRET_KEY".toList, secretKey), ("DATABASE_URL".toList, databaseUrl), ("ADMIN_PASSWORD".toList, adminPassword),
      ("SESSION_COOKIE_SECURE".toList, if sessionSecure then "true".toList else "false".toList),
      ("MARLINSPIKE_RESET_TOKEN_DELIVERY".toList, resetDelivery),
      ("MARLINSPIKE_CAPTURE_REQUIRE".toList, captureRequire)]
  distinct := by
    show ["SECRET_KEY".toList, "DATABASE_URL".toList, "ADMIN_PASSWORD".toList, "SESSION_COOKIE_SECURE".toList,
      "MARLINSPIKE_RESET_TOKEN_DELIVERY".toList, "MARLINSPIKE_CAPTURE_REQUIRE".toList].Nodup
    decide

/-- What `run` gathers before it prints or writes it. -/
def gather (args : Args) (file : Option Text) (draws : Draws) (answers : Answers) : Option (PyDict Text Text) :=
  let existing := existingEnv file
  let secretKey := (truthy (existing.get "SECRET_KEY".toList)).getD (genSecretHex (List.ofFn draws.secret))
  let defaultDb := (truthy (existing.get "DATABASE_URL".toList)).getD "sqlite:///./data/marlinspike.db".toList
  let databaseUrl := if args.auto then defaultDb else prompt answers.databaseUrl defaultDb
  let sessionSecure := if args.auto then true else promptYesNo answers.sessionSecure true
  let resetDelivery :=
    if args.auto then "file".toList
    else promptAmong ["disabled".toList, "file".toList, "log".toList] answers.resetDelivery "file".toList
  let captureRequire :=
    if args.auto then "admin".toList
    else promptAmong ["admin".toList, "any".toList] answers.captureRequire "admin".toList
  ((truthy (existing.get "ADMIN_PASSWORD".toList)).or (genPassword draws.passwords)).map fun adminPassword =>
    settings secretKey databaseUrl adminPassword sessionSecure resetDelivery captureRequire

inductive Outcome where
  /-- Status 1, with what it says. -/
  | refused (message : Text)
  | printed (lines : List Text)
  /-- The text of the file, and what is printed. -/
  | wrote (text : Text) (summary : List Text)

/-- `run`; none while no password is drawn. -/
def run (args : Args) (file : Option Text) (draws : Draws) (answers : Answers) : Option Outcome :=
  if file.isSome ∧ ¬args.force ∧ ¬args.printOnly then
    some (.refused ("refusing to overwrite existing ".toList ++ args.envPath ++
      "; pass --force or --print-only to override.".toList))
  else
    (gather args file draws answers).map fun kv =>
      if args.printOnly then .printed (kv.items.map (lineOf env))
      else .wrote (writeEnv kv) (summary kv args.envPath)

/-! ### What is shown -/

theorem cutAt_scheme {scheme : Text} (plain : ':' ∉ scheme) (rest : Text) :
    cutAt "://".toList (scheme ++ "://".toList ++ rest) = some (scheme, rest) := by
  induction scheme with
  | nil =>
    have sep : "://".toList = [':', '/', '/'] := rfl
    simp [sep, cutAt]
  | cons c more ih =>
    rw [List.mem_cons, not_or] at plain
    have sep : "://".toList = [':', '/', '/'] := rfl
    have apart : "://".toList.isPrefixOf (c :: (more ++ "://".toList ++ rest)) = false := by
      simp [sep, List.isPrefixOf, plain.1]
    rw [List.cons_append, List.cons_append, cutAt, if_neg (Bool.eq_false_iff.mp apart), ih plain.2]
    rfl

/-- The password of a URL is not shown, whatever characters it has. -/
theorem redact_hides {scheme user host : Text} (scheme_ : ':' ∉ scheme) (user_ : ':' ∉ user) (host_ : '@' ∉ host)
    (password : Text) :
    redact (scheme ++ "://".toList ++ (user ++ ':' :: password ++ '@' :: host)) =
      scheme ++ "://".toList ++ user ++ ":***@".toList ++ host := by
  have at_ : '@' ∈ user ++ ':' :: password ++ '@' :: host := List.mem_append_right _ List.mem_cons_self
  have free : ∀ c ∈ host.reverse, decide (c ≠ '@') = true := fun c inside =>
    decide_eq_true fun sign => host_ (sign ▸ List.mem_reverse.mp inside)
  have creds : (user ++ ':' :: password ++ '@' :: host).rdropWhile (· ≠ '@') = user ++ ':' :: password ++ ['@'] := by
    rw [List.rdropWhile, List.reverse_append, List.reverse_cons, List.append_assoc,
      List.dropWhile_append_of_pos free, List.singleton_append, List.dropWhile_cons_of_neg (by simp),
      List.reverse_cons, List.reverse_reverse]
  have host_ : (user ++ ':' :: password ++ '@' :: host).rtakeWhile (· ≠ '@') = host := by
    rw [List.rtakeWhile, List.reverse_append, List.reverse_cons, List.append_assoc,
      List.takeWhile_append_of_pos free, List.singleton_append, List.takeWhile_cons_of_neg (by simp),
      List.append_nil, List.reverse_reverse]
  have colon : ':' ∈ user ++ ':' :: password := List.mem_append_right _ List.mem_cons_self
  have plain : ∀ c ∈ user, decide (c ≠ ':') = true := fun c inside =>
    decide_eq_true fun sign => user_ (sign ▸ inside)
  have before : (user ++ ':' :: password).takeWhile (· ≠ ':') = user := by
    rw [List.takeWhile_append_of_pos plain, List.takeWhile_cons_of_neg (by simp), List.append_nil]
  simp only [redact, cutAt_scheme scheme_, if_pos at_, creds, host_, List.dropLast_concat, if_pos colon, before]

/-! ### What is read -/

theorem words_universalNewlines (before text : Text) :
    Words.words isBreak (before ++ universalNewlines text) = Words.words isBreak (before ++ text) := by
  induction text using universalNewlines.induct generalizing before with
  | case1 => rfl
  | case2 rest ih =>
    have rest_ := ih []
    rw [List.nil_append, List.nil_append] at rest_
    have inner : Words.words isBreak ([] ++ '\n' :: rest) = _ := Words.words_append (by decide) [] rest
    rw [List.nil_append, Words.words_nil, List.nil_append] at inner
    rw [universalNewlines, Words.words_append (by decide), Words.words_append (by decide), inner, rest_]
  | case3 c rest other ih =>
    rw [universalNewlines.eq_3 _ _ other]
    by_cases return_ : c = '\r'
    · subst return_
      have rest_ := ih []
      rw [List.nil_append, List.nil_append] at rest_
      rw [if_pos rfl, Words.words_append (by decide), Words.words_append (by decide), rest_]
    · rw [if_neg return_, List.append_cons, ih, ← List.append_cons]

/-- The lines that are not empty are the words between the breaks. -/
theorem filter_splitlinesFrom {line : Text} (plain : ∀ c ∈ line, isBreak c = false) (text : Text) :
    (splitlinesFrom line text).filter (· ≠ []) = Words.words isBreak (line ++ text) := by
  have ended {line : Text} (plain : ∀ c ∈ line, isBreak c = false) (rest : List Text) :
      (line :: rest).filter (· ≠ []) = Words.words isBreak line ++ rest.filter (· ≠ []) := by
    by_cases none_ : line = []
    · rw [none_, Words.words_nil]
      rfl
    · rw [Words.words_word ⟨none_, plain⟩]
      exact List.filter_cons_of_pos (decide_eq_true none_)
  induction line, text using splitlinesFrom.induct with
  | case1 => rfl
  | case2 line some_ =>
    rw [splitlinesFrom, if_neg some_, List.append_nil, ended plain]
    exact List.append_nil _
  | case3 line rest ih =>
    have inner : Words.words isBreak ([] ++ '\n' :: rest) = _ := Words.words_append (by decide) [] rest
    rw [List.nil_append, Words.words_nil, List.nil_append] at inner
    rw [splitlinesFrom, ended plain, ih (by simp), Words.words_append (by decide), inner, List.nil_append]
  | case4 line c rest other breaks ih =>
    rw [splitlinesFrom.eq_3 _ _ _ other, if_pos breaks, ended plain, ih (by simp), Words.words_append breaks,
      List.nil_append]
  | case5 line c rest other solid ih =>
    rw [splitlinesFrom.eq_3 _ _ _ other, if_neg solid, ih ?_, ← List.append_cons]
    intro d inside
    obtain old | new := List.mem_append.mp inside
    · exact plain d old
    · exact List.mem_singleton.mp new ▸ Bool.eq_false_iff.mpr solid

theorem existingEnv_some (text : Text) :
    existingEnv (some text) = Assignments.read env (Assignments.lines env text) := by
  have blank : ∀ c ∈ ([] : Text), isBreak c = false := by simp
  have all := words_universalNewlines [] text
  rw [existingEnv, ← Assignments.read_filter, splitlines, filter_splitlinesFrom blank]
  exact congrArg (Assignments.read env) all

theorem remarks : ∀ line ∈ banner, Remark env line := by
  have all : (banner.all fun line => line = [] || line.head? = some '#' && line.all (!isBreak ·)) = true := rfl
  intro line listed
  have remark := List.all_eq_true.mp all line listed
  simpa [Remark, env] using remark

/-- The file of a dictionary is read as the dictionary just if a file could say each item. -/
theorem existingEnv_writeEnv (kv : PyDict Text Text) :
    existingEnv (some (writeEnv kv)) = kv ↔ ∀ item ∈ kv.items, Readable env item ∧ Unbroken env item := by
  rw [existingEnv_some]
  exact Assignments.read_write_iff (by decide) remarks kv

/-- What can be a value of the file. -/
structure Clean (value : Text) : Prop where
  trimmed : Trimmed isSpace value
  unbroken : ∀ c ∈ value, isBreak c = false

theorem clean_of_existing {file : Option Text} {key value : Text} (found : (existingEnv file).get key = some value) :
    Clean value := by
  cases file with
  | none => cases found
  | some text =>
    rw [existingEnv_some] at found
    obtain ⟨readable, line, listed, inside⟩ := Assignments.readable_of_read (PyDict.mem_items_iff.mpr found)
    exact ⟨readable.value, fun c within =>
      (Words.word_of_mem_words listed).plain c (inside c (List.mem_append_right _ within))⟩

theorem solid_of_not_space {c : Char} (solid : isSpace c = false) : isBreak c = false := by
  by_contra broken
  have space := env.space_of_breaks c (Bool.not_eq_false _ ▸ broken)
  exact absurd (solid.symm.trans space) Bool.false_ne_true

theorem clean_of_solid {value : Text} (solid : ∀ c ∈ value, isSpace c = false) : Clean value where
  trimmed := ⟨fun c first => solid c (List.mem_of_mem_head? first), fun c last => solid c (List.mem_of_getLast? last)⟩
  unbroken c inside := solid_of_not_space (solid c inside)

theorem clean_secret (bytes : List UInt8) : Clean (genSecretHex bytes) := by
  have digit (n : Nat) : isSpace (JsonText.hexDigit n) = false := by
    have all : (JsonText.hexDigits.all (!isSpace ·)) = true := rfl
    rw [JsonText.hexDigit, List.getD_eq_getElem?_getD]
    cases found : JsonText.hexDigits[n]? with
    | none => rfl
    | some c => simpa using List.all_eq_true.mp all c (List.mem_of_getElem? found)
  refine clean_of_solid fun c inside => ?_
  obtain ⟨byte, _, inside⟩ := List.mem_flatMap.mp inside
  rw [List.mem_cons, List.mem_singleton] at inside
  obtain rfl | rfl := inside
  · exact digit _
  · exact digit _

theorem clean_password {draws : List Choices} {password : Text} (drawn : genPassword draws = some password) :
    Clean password ∧ password ≠ [] := by
  have all : (alphabet.all (!isSpace ·)) = true := rfl
  obtain ⟨choices, -, rfl⟩ := List.mem_map.mp (List.mem_of_find?_eq_some drawn)
  refine ⟨clean_of_solid fun c inside => ?_, fun none_ => ?_⟩
  · obtain ⟨i, rfl⟩ := List.mem_ofFn.mp inside
    simpa using List.all_eq_true.mp all _ (List.get_mem alphabet (choices i))
  · have := congrArg List.length none_
    simp at this

/-! ### What is written -/

/-- A name that needs no care in the file. -/
def isName (key : Text) : Bool := key.all fun c => !isSpace c && c ≠ '=' && c ≠ '#'

theorem of_isName {key : Text} (name : isName key = true) : ∀ c ∈ key, isSpace c = false ∧ c ≠ '=' ∧ c ≠ '#' := by
  intro c inside
  simpa [and_assoc] using List.all_eq_true.mp name c inside

theorem clean_of_isName {text : Text} (name : isName text = true) : Clean text :=
  clean_of_solid fun c inside => (of_isName name c inside).1

theorem item_iff {key value : Text} (name : isName key = true) :
    Readable env (key, value) ∧ Unbroken env (key, value) ↔ Clean value := by
  have all := of_isName name
  constructor
  · rintro ⟨readable, unbroken⟩
    exact ⟨readable.value, fun c inside => unbroken c (List.mem_append_right _ inside)⟩
  · intro clean
    have key_ := clean_of_isName name
    refine ⟨⟨key_.trimmed, clean.trimmed, fun sign => (all _ sign).2.1 rfl, fun comment => ?_⟩, fun c inside => ?_⟩
    · exact (all _ (List.mem_of_mem_head? comment)).2.2 rfl
    · obtain left | right := List.mem_append.mp inside
      · exact key_.unbroken c left
      · exact clean.unbroken c right

theorem settings_read_iff {secretKey databaseUrl adminPassword : Text} {sessionSecure : Bool}
    {resetDelivery captureRequire : Text} (secret : Clean secretKey) (password : Clean adminPassword)
    (delivery : Clean resetDelivery) (capture : Clean captureRequire) :
    let kv := settings secretKey databaseUrl adminPassword sessionSecure resetDelivery captureRequire
    existingEnv (some (writeEnv kv)) = kv ↔ Clean databaseUrl := by
  have secure : Clean (if sessionSecure then "true".toList else "false".toList) := by
    cases sessionSecure <;> exact clean_of_isName rfl
  dsimp only
  rw [existingEnv_writeEnv]
  simp only [settings, List.forall_mem_cons, List.not_mem_nil, false_imp_iff, implies_true, and_true]
  rw [item_iff rfl, item_iff rfl, item_iff rfl, item_iff rfl, item_iff rfl, item_iff rfl]
  tauto

theorem truthy_eq_some {value : Option Text} {text : Text} :
    truthy value = some text ↔ value = some text ∧ text ≠ [] := by
  rw [truthy, Option.filter_eq_some_iff, decide_eq_true_iff]

/-- The typed URL has no line break within, or none is asked for. -/
def CleanUrl (args : Args) (answers : Answers) : Prop :=
  args.auto = true ∨ ∀ c ∈ strip isSpace (answers.databaseUrl.getD []), isBreak c = false

theorem prompt_ne_nil (answer : Option Text) {default : Text} (some_ : default ≠ []) : prompt answer default ≠ [] := by
  unfold prompt
  cases typed : truthy (some (strip isSpace (answer.getD []))) with
  | none => exact some_
  | some value => exact (truthy_eq_some.mp typed).2

theorem clean_prompt_iff (answer : Option Text) {default : Text} (clean : Clean default) :
    Clean (prompt answer default) ↔ ∀ c ∈ strip isSpace (answer.getD []), isBreak c = false := by
  unfold prompt
  cases typed : truthy (some (strip isSpace (answer.getD []))) with
  | none =>
    have none_ : strip isSpace (answer.getD []) = [] := by
      by_contra some_
      rw [truthy_eq_some.mpr ⟨rfl, some_⟩] at typed
      cases typed
    rw [none_]
    exact iff_of_true clean (by simp)
  | some value =>
    obtain rfl := Option.some.inj (truthy_eq_some.mp typed).1
    exact ⟨fun clean => clean.unbroken, fun unbroken => ⟨Assignments.strip_trimmed _, unbroken⟩⟩

theorem promptAmong_mem {choices : List Text} (answer : Option Text) {default : Text} (among : default ∈ choices) :
    promptAmong choices answer default ∈ choices := by
  unfold promptAmong
  dsimp only
  split
  next chosen => exact chosen
  next => exact among

/-- A setting that is kept where the file has one that is not empty. -/
def Kept (file : Option Text) (key value : Text) : Prop :=
  ∀ old ≠ [], (existingEnv file).get key = some old → value = old

variable {args : Args} {file : Option Text} {draws : Draws} {answers : Answers} {kv : PyDict Text Text}

/-- Everything that a run can gather. -/
inductive Gathered (args : Args) (file : Option Text) (answers : Answers) (kv : PyDict Text Text) : Prop where
  | intro (secretKey databaseUrl adminPassword : Text) (sessionSecure : Bool) (resetDelivery captureRequire : Text)
    (made : kv = settings secretKey databaseUrl adminPassword sessionSecure resetDelivery captureRequire)
    (secret : Clean secretKey ∧ secretKey ≠ [] ∧ Kept file "SECRET_KEY".toList secretKey)
    (password : Clean adminPassword ∧ adminPassword ≠ [] ∧ Kept file "ADMIN_PASSWORD".toList adminPassword)
    (url : (Clean databaseUrl ↔ CleanUrl args answers) ∧ databaseUrl ≠ [])
    (delivery : resetDelivery ∈ ["disabled".toList, "file".toList, "log".toList])
    (capture : captureRequire ∈ ["admin".toList, "any".toList])
    (auto : args.auto = true → sessionSecure = true ∧ resetDelivery = "file".toList ∧ captureRequire = "admin".toList)

/-- What is found, or else made, is kept. -/
theorem kept_getD (key other : Text) : Kept file key ((truthy ((existingEnv file).get key)).getD other) := by
  intro old some_ found
  rw [found, truthy_eq_some.mpr ⟨rfl, some_⟩]
  rfl

theorem clean_getD (key : Text) {other : Text} (clean : Clean other) (some_ : other ≠ []) :
    Clean ((truthy ((existingEnv file).get key)).getD other) ∧
      (truthy ((existingEnv file).get key)).getD other ≠ [] := by
  cases found : truthy ((existingEnv file).get key) with
  | none => exact ⟨clean, some_⟩
  | some old =>
    obtain ⟨found, old_⟩ := truthy_eq_some.mp found
    exact ⟨clean_of_existing found, old_⟩

theorem gather_cases (gathered : gather args file draws answers = some kv) : Gathered args file answers kv := by
  unfold gather at gathered
  dsimp only at gathered
  obtain ⟨adminPassword, password, rfl⟩ := Option.map_eq_some_iff.mp gathered
  have secret : genSecretHex (List.ofFn draws.secret) ≠ [] := by simp [genSecretHex]
  obtain ⟨secret_, secretSome⟩ := clean_getD "SECRET_KEY".toList (clean_secret _) secret
  have sqlite : Clean "sqlite:///./data/marlinspike.db".toList := clean_of_isName rfl
  obtain ⟨url, urlSome⟩ := clean_getD "DATABASE_URL".toList sqlite (by decide)
  refine ⟨_, _, _, _, _, _, rfl, ⟨secret_, secretSome, kept_getD _ _⟩, ?_, ?_, ?_, ?_, ?_⟩
  · cases found : truthy ((existingEnv file).get "ADMIN_PASSWORD".toList) with
    | none =>
      rw [found, Option.none_or] at password
      obtain ⟨clean, some_⟩ := clean_password password
      refine ⟨clean, some_, fun old old_ present => ?_⟩
      rw [present, truthy_eq_some.mpr ⟨rfl, old_⟩] at found
      cases found
    | some old =>
      rw [found, Option.some_or] at password
      obtain rfl := Option.some.inj password
      obtain ⟨present, old_⟩ := truthy_eq_some.mp found
      exact ⟨clean_of_existing present, old_, fun other _ same => Option.some.inj (present.symm.trans same)⟩
  · cases auto : args.auto with
    | true => exact ⟨iff_of_true url (Or.inl auto), urlSome⟩
    | false =>
      refine ⟨(clean_prompt_iff _ url).trans ?_, prompt_ne_nil _ urlSome⟩
      simp [CleanUrl, auto]
  · cases args.auto with
    | true => exact List.mem_cons_of_mem _ List.mem_cons_self
    | false => exact promptAmong_mem _ (List.mem_cons_of_mem _ List.mem_cons_self)
  · cases args.auto with
    | true => exact List.mem_cons_self
    | false => exact promptAmong_mem _ List.mem_cons_self
  · intro auto
    rw [auto]
    exact ⟨rfl, rfl, rfl⟩

/-- What the application can start with. -/
structure Sound (kv : PyDict Text Text) : Prop where
  secretKey : ∃ value ≠ [], kv.get "SECRET_KEY".toList = some value
  databaseUrl : ∃ value ≠ [], kv.get "DATABASE_URL".toList = some value
  adminPassword : ∃ value ≠ [], kv.get "ADMIN_PASSWORD".toList = some value
  sessionSecure : ∃ value ∈ ["true".toList, "false".toList], kv.get "SESSION_COOKIE_SECURE".toList = some value
  resetDelivery : ∃ value ∈ ["disabled".toList, "file".toList, "log".toList],
    kv.get "MARLINSPIKE_RESET_TOKEN_DELIVERY".toList = some value
  captureRequire : ∃ value ∈ ["admin".toList, "any".toList], kv.get "MARLINSPIKE_CAPTURE_REQUIRE".toList = some value

theorem sound_of_gathered (gathered : Gathered args file answers kv) : Sound kv := by
  cases gathered with
  | intro _ _ _ sessionSecure _ _ made secret password url delivery capture _ =>
    subst made
    refine ⟨⟨_, secret.2.1, rfl⟩, ⟨_, url.2, rfl⟩, ⟨_, password.2.1, rfl⟩, ⟨_, ?_, rfl⟩, ⟨_, delivery, rfl⟩,
      ⟨_, capture, rfl⟩⟩
    cases sessionSecure
    · exact List.mem_cons_of_mem _ List.mem_cons_self
    · exact List.mem_cons_self

theorem read_iff (gathered : Gathered args file answers kv) :
    existingEnv (some (writeEnv kv)) = kv ↔ CleanUrl args answers := by
  cases gathered with
  | intro _ _ _ _ resetDelivery captureRequire made secret password url delivery capture _ =>
    have delivery_ : Clean resetDelivery := by
      rw [List.mem_cons, List.mem_cons, List.mem_singleton] at delivery
      obtain rfl | rfl | rfl := delivery <;> exact clean_of_isName rfl
    have capture_ : Clean captureRequire := by
      rw [List.mem_cons, List.mem_singleton] at capture
      obtain rfl | rfl := capture <;> exact clean_of_isName rfl
    subst made
    exact (settings_read_iff secret.1 password.1 delivery_ capture_).trans url.1

variable {text : Text} {lines : List Text}

theorem run_wrote (ran : run args file draws answers = some (.wrote text lines)) :
    ∃ kv, gather args file draws answers = some kv ∧ args.printOnly = false ∧ text = writeEnv kv ∧
      lines = summary kv args.envPath := by
  unfold run at ran
  split at ran
  next => cases ran
  next =>
    obtain ⟨kv, gathered, outcome⟩ := Option.map_eq_some_iff.mp ran
    split at outcome
    next => cases outcome
    next writes =>
      cases outcome
      exact ⟨kv, gathered, Bool.eq_false_iff.mpr writes, rfl, rfl⟩

/-- A run without questions gathers from its own file what it has written. -/
theorem gather_again (auto : args.auto = true) (gathered : Gathered args file answers kv)
    {again : Args} (auto' : again.auto = true) (draws' : Draws) (answers' : Answers) :
    gather again (some (writeEnv kv)) draws' answers' = some kv := by
  have back := (read_iff gathered).mpr (Or.inl auto)
  cases gathered with
  | intro secretKey databaseUrl adminPassword _ _ _ made secret password url _ _ plain =>
    obtain ⟨rfl, rfl, rfl⟩ := plain auto
    unfold gather
    dsimp only
    rw [back, auto']
    subst made
    have secret_ := truthy_eq_some.mpr (show (settings secretKey databaseUrl adminPassword true "file".toList
      "admin".toList).get "SECRET_KEY".toList = some secretKey ∧ _ from ⟨rfl, secret.2.1⟩)
    have url_ := truthy_eq_some.mpr (show (settings secretKey databaseUrl adminPassword true "file".toList
      "admin".toList).get "DATABASE_URL".toList = some databaseUrl ∧ _ from ⟨rfl, url.2⟩)
    have password_ := truthy_eq_some.mpr (show (settings secretKey databaseUrl adminPassword true "file".toList
      "admin".toList).get "ADMIN_PASSWORD".toList = some adminPassword ∧ _ from ⟨rfl, password.2.1⟩)
    rw [secret_, url_, password_]
    rfl

structure Run where
  args : Args
  draws : Draws
  answers : Answers

/-- The file after a run. -/
def fileAfter (file : Option Text) : Outcome → Option Text
  | .refused _ => file
  | .printed _ => file
  | .wrote text _ => some text

def step (file : Option Text) (r : Run) : Option (Option Text) :=
  (run r.args file r.draws r.answers).map (fileAfter file)

/-- The file of a wizard, which holds what it has written. -/
def Written (file : Option Text) : Prop := ∃ kv, file = some (writeEnv kv) ∧ Sound kv ∧ existingEnv file = kv

def KeepsSecrets (file later : Option Text) : Prop :=
  ∀ key ∈ ["SECRET_KEY".toList, "ADMIN_PASSWORD".toList], ∀ value ≠ [],
    (existingEnv file).get key = some value → (existingEnv later).get key = some value

theorem keeps_trans {now later : Option Text} (first : KeepsSecrets file now) (second : KeepsSecrets now later) :
    KeepsSecrets file later :=
  fun key among value some_ found => second key among value some_ (first key among value some_ found)

theorem step_keeps {r : Run} {later : Option Text} (stepped : step file r = some later)
    (clean : CleanUrl r.args r.answers) : (later = file ∨ Written later) ∧ KeepsSecrets file later := by
  obtain ⟨outcome, ran, rfl⟩ := Option.map_eq_some_iff.mp stepped
  cases outcome with
  | refused message => exact ⟨Or.inl rfl, fun _ _ _ _ found => found⟩
  | printed lines => exact ⟨Or.inl rfl, fun _ _ _ _ found => found⟩
  | wrote text lines =>
    obtain ⟨kv, gathered, -, rfl, -⟩ := run_wrote ran
    have inverted := gather_cases gathered
    have back := (read_iff inverted).mpr clean
    refine ⟨Or.inr ⟨kv, rfl, sound_of_gathered inverted, back⟩, fun key among value some_ found => ?_⟩
    cases inverted with
    | intro secretKey databaseUrl adminPassword _ _ _ made secret password _ _ _ _ =>
      rw [fileAfter, back, made]
      rw [List.mem_cons, List.mem_singleton] at among
      obtain rfl | rfl := among
      · exact congrArg some (secret.2.2 value some_ found)
      · exact congrArg some (password.2.2 value some_ found)

/-- A run that is refused, and a forced one with a URL typed in. -/
def twoRuns : List Run :=
  [⟨⟨true, false, false, ".env".toList⟩, ⟨fun _ => 0, []⟩, ⟨none, none, none, none⟩⟩,
    ⟨⟨false, true, false, ".env".toList⟩, ⟨fun _ => 1, []⟩, ⟨some "postgresql://u:p@h/d".toList, none, none, none⟩⟩]

end Marlinspike.Setup.Wizard
