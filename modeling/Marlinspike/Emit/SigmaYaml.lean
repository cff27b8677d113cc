import Marlinspike.Emit.Sigma
import Marlinspike.Yaml.Blocks

/-!
Sigma rules as YAML. The writer decides by a text's characters whether it puts it in quotes, and
escapes backslashes and quotes only: when every text of a rule is read back, and with it the rule,
is `rules_roundTrip_iff`.
-/
namespace Marlinspike.Emit.SigmaYaml
open Marlinspike.Yaml
open Marlinspike.Selecting (Test Search Condition Detection)
open Marlinspike.Emit.Sigma hiding Services
open Marlinspike.Plugins (Report)

/-! ### Rules as dictionaries -/

def str (s : String) : Value := .str s.toList

def strs (items : List String) : Value := .list (items.map str)

/-- The key and the value of a test. -/
def testEntry : Test → Text × Value
  | .oneOf field values => (field.toList ++ "|in".toList, strs values)
  | .oneOfPorts field ports => (field.toList ++ "|in".toList, .list (ports.map fun port => .int port))
  | .startsWith field beginnings => (field.toList ++ "|startswith".toList, strs beginnings)
  | .contains field parts => (field.toList ++ "|contains".toList, strs parts)
  | .present field => (field.toList ++ "|exists".toList, .bool true)
  | .is field value => (field.toList, str value)
  | .isAny field values => (field.toList, strs values)

def searchEntry (search : Search) : Text × Value := (search.name.toList, .dict (search.tests.map testEntry))

def detectionValue (detection : Detection) : Value :=
  .dict (detection.first.map searchEntry ++
    ("condition".toList, str detection.condition.text) :: detection.later.map searchEntry)

def ruleEntries (rule : Rule) : List (Text × Value) :=
  [("title".toList, str rule.title), ("id".toList, str rule.id), ("status".toList, str rule.status),
    ("description".toList, str rule.description), ("author".toList, str rule.author), ("date".toList, str rule.date),
    ("references".toList, strs rule.references), ("tags".toList, strs rule.tags), ("level".toList, str rule.level),
    ("logsource".toList, .dict [("product".toList, str "zeek"), ("service".toList, str rule.service)]),
    ("detection".toList, detectionValue rule.detection)] ++
  (if rule.fields = [] then [] else [("fields".toList, strs rule.fields)]) ++
  [("falsepositives".toList, strs rule.falsepositives)]

/-- A rule as the builders return it. -/
def ruleValue (rule : Rule) : Value := .dict (ruleEntries rule)

/-! ### The writer -/

/-- `str.isspace`, of one character. -/
def isSpace (c : Char) : Bool :=
  let n := c.toNat
  (9 ≤ n && n ≤ 13) || (28 ≤ n && n ≤ 32) || n ∈ [0x85, 0xA0, 0x1680] || (0x2000 ≤ n && n ≤ 0x200A) ||
    n ∈ [0x2028, 0x2029, 0x202F, 0x205F, 0x3000]

/-- `s.strip()`. -/
def strip (s : Text) : Text := (s.dropWhile isSpace).rdropWhile isSpace

def specials : Text := ":\x7b\x7d[],&*#?|<>=!%@`'\"".toList

/-- The text has special characters, or could be mistaken for something else. -/
def needsQuotes (s : Text) : Bool :=
  s.isEmpty || s.any (specials.contains ·) ||
    ["true".toList, "false".toList, "null".toList, "yes".toList, "no".toList].contains (s.map Char.toLower) ||
    "- ".toList.isPrefixOf s || "  ".toList.isPrefixOf s || strip s ≠ s

def quotedIfNeeded (s : Text) : Text := if needsQuotes s then inQuotes s else s

/-- `_yaml_scalar`, of what is no collection. -/
def yamlScalar : Value → Text
  | .null => "null".toList
  | .bool b => if b then "true".toList else "false".toList
  | .int i => intText i
  | .float written => written
  | .str s => quotedIfNeeded s
  | .list _ | .dict _ => []

mutual
/-- `_emit_yaml`. -/
def emitYaml : Nat → Value → Text
  | indent, .dict entries => joined ['\n'] (emitEntries indent entries)
  | indent, .list items => joined ['\n'] (emitItems indent items)
  | indent, .null => pad indent ++ yamlScalar .null
  | indent, .bool b => pad indent ++ yamlScalar (.bool b)
  | indent, .int i => pad indent ++ yamlScalar (.int i)
  | indent, .float written => pad indent ++ yamlScalar (.float written)
  | indent, .str s => pad indent ++ yamlScalar (.str s)

/-- `out` of a dictionary. -/
def emitEntries : Nat → List (Text × Value) → List Text
  | _, [] => []
  | indent, (k, v) :: rest =>
    let pair := pad indent ++ (k ++ [':'])
    match v with
    | .dict (entry :: entries) => pair :: emitYaml (indent + 2) (.dict (entry :: entries)) :: emitEntries indent rest
    | .list (item :: items) => pair :: emitYaml (indent + 2) (.list (item :: items)) :: emitEntries indent rest
    | .list [] => (pair ++ " []".toList) :: emitEntries indent rest
    | .dict [] => (pair ++ " \x7b\x7d".toList) :: emitEntries indent rest
    | scalar => (pair ++ ' ' :: yamlScalar scalar) :: emitEntries indent rest

/-- `out` of a list. -/
def emitItems : Nat → List Value → List Text
  | _, [] => []
  | indent, item :: rest =>
    match item with
    | .dict entries => (pad indent ++ ['-']) :: emitYaml (indent + 2) (.dict entries) :: emitItems indent rest
    | .list items => (pad indent ++ ['-']) :: emitYaml (indent + 2) (.list items) :: emitItems indent rest
    | scalar => (pad indent ++ '-' :: ' ' :: yamlScalar scalar) :: emitItems indent rest
end

/-- `_yaml_dump`. -/
def yamlDump (rule : Value) : Text := emitYaml 0 rule

/-- `render_yaml_concat`. -/
def renderYamlConcat (services : Sigma.Services) (report : Report) (captureId : Option String) : Text :=
  joined "\n---\n".toList ((renderRules services report captureId).map fun rule => yamlDump (ruleValue rule.2))

/-! ### Texts -/

section Texts
variable {s : Text} {c : Char}

theorem isSpace_of_white (white : isWhite c = true) : isSpace c = true := by
  rcases isWhite_iff.mp white with rfl | rfl <;> rfl

theorem isSpace_of_break (breaks : isBreak c = true) : isSpace c = true := by
  rcases isBreak_iff.mp breaks with rfl | rfl <;> rfl

/-- A stripped text neither begins nor ends with a blank. -/
theorem ends_of_strip (stripped : strip s = s) :
    (∀ c ∈ s.head?, isSpace c = false) ∧ ∀ c ∈ s.getLast?, isSpace c = false := by
  have kept : s.dropWhile isSpace = s := by
    refine (List.dropWhile_sublist _).eq_of_length_le ?_
    have short := (List.rdropWhile_prefix isSpace (s.dropWhile isSpace)).length_le
    rwa [← strip, stripped] at short
  rw [strip, kept] at stripped
  constructor
  · rw [List.dropWhile_eq_self_iff] at kept
    intro c head
    cases s with
    | nil => cases head
    | cons d rest =>
      obtain rfl := Option.some.inj head
      exact Bool.eq_false_iff.mpr (kept (Nat.succ_pos _))
  · rw [List.rdropWhile_eq_self_iff] at stripped
    intro c last
    have some_ : s ≠ [] := by
      rintro rfl
      cases last
    rw [List.getLast?_eq_some_getLast some_, Option.mem_some_iff] at last
    exact last ▸ Bool.eq_false_iff.mpr (stripped some_)

/-- What is known of a text that is written without quotes. -/
structure Bare (s : Text) : Prop where
  some_ : s ≠ []
  free : ∀ c ∈ s, c ∉ specials
  dash : ¬ "- ".toList <+: s
  first : ∀ c ∈ s.head?, isSpace c = false
  last : ∀ c ∈ s.getLast?, isSpace c = false

theorem bare_of_plain (plain : needsQuotes s = false) : Bare s := by
  simp only [needsQuotes, Bool.or_eq_false_iff, decide_eq_false_iff_not, not_not, List.isEmpty_eq_false_iff,
    List.any_eq_false, List.contains_iff_mem] at plain
  obtain ⟨⟨⟨⟨⟨some_, free⟩, -⟩, dash⟩, -⟩, stripped⟩ := plain
  obtain ⟨first, last⟩ := ends_of_strip stripped
  refine ⟨some_, free, fun starts => ?_, first, last⟩
  rw [List.isPrefixOf_iff_prefix.mpr starts] at dash
  cases dash

namespace Bare
variable (bare : Bare s)
include bare

theorem head_ne {d : Char} (special : d ∈ specials) : s.head? ≠ some d := fun head =>
  bare.free d (List.mem_of_head? head) special

theorem shape : ∃ c rest, s = c :: rest ∧ isWhite c = false ∧ isBreak c = false := by
  obtain ⟨c, rest, rfl⟩ := List.exists_cons_of_ne_nil bare.some_
  have solid := bare.first c rfl
  refine ⟨c, rest, rfl, Bool.eq_false_iff.mpr fun white => ?_, Bool.eq_false_iff.mpr fun breaks => ?_⟩
  · rw [isSpace_of_white white] at solid
    cases solid
  · rw [isSpace_of_break breaks] at solid
    cases solid

theorem trimmed : trim s = s := by
  obtain ⟨c, rest, rfl, white, -⟩ := bare.shape
  have start : trimStart (c :: rest) = c :: rest := List.dropWhile_cons_of_neg (Bool.eq_false_iff.mp white)
  rw [trim, start, trimEnd, List.rdropWhile_eq_self_iff]
  intro some_ white
  have solid := bare.last _ (List.getLast?_eq_some_getLast some_)
  rw [isSpace_of_white white] at solid
  cases solid

theorem readScalar_eq (more : List Text) : readScalar s more = readPlain s more :=
  readScalar_plain (bare.head_ne (by decide)) (bare.head_ne (by decide)) (bare.head_ne (by decide))

/-- Of what begins no plain scalar only a dash is left. -/
theorem startsPlain_iff : startsPlain s = true ↔ s ≠ ['-'] ∧ ¬ "-\t".toList <+: s := by
  obtain ⟨c, rest, rfl⟩ := List.exists_cons_of_ne_nil bare.some_
  by_cases isDash : c = '-'
  · subst isDash
    have begins : startsPlain ('-' :: rest) = rest.head?.any (!isWhite ·) := rfl
    rw [begins]
    cases rest with
    | nil => simp
    | cons d rest =>
      have space : d ≠ ' ' := by
        rintro rfl
        exact bare.dash (List.cons_prefix_cons.mpr ⟨rfl, List.cons_prefix_cons.mpr ⟨rfl, List.nil_prefix⟩⟩)
      have tab : "-\t".toList <+: '-' :: d :: rest ↔ d = '\t' := by
        rw [show "-\t".toList = ['-', '\t'] from rfl, List.cons_prefix_cons, List.cons_prefix_cons]
        simp [eq_comm]
      rw [tab]
      simp [isWhite, space]
  · have other : isIndicator c = false := by
      refine Bool.eq_false_iff.mpr fun listed => ?_
      have known := List.all_eq_true.mp (show "-?:,[]\x7b\x7d#&*!|>'\"%@`".toList.all (fun d => d = '-' ∨ d ∈ specials) = true
        from by decide)
      rcases of_decide_eq_true (known c (of_decide_eq_true listed)) with dash | special
      · exact isDash dash
      · exact bare.free c List.mem_cons_self special
    have tab : ¬ "-\t".toList <+: c :: rest := fun starts => isDash (List.cons_prefix_cons.mp starts).1.symm
    exact iff_of_true (startsPlain_of_other other rest) ⟨by simp [isDash], tab⟩

theorem isPlainLine_eq : isPlainLine s = s.all isPrintable := by
  have colon : ∀ c ∈ s, c ≠ ':' := fun c inside is => bare.free c inside (is ▸ by decide)
  have hash : ∀ c ∈ s, c ≠ '#' := fun c inside is => bare.free c inside (is ▸ by decide)
  clear bare
  induction s with
  | nil => rfl
  | cons c rest ih =>
    have next : rest.head? ≠ some '#' := fun head => hash '#' (List.mem_cons_of_mem c (List.mem_of_head? head)) rfl
    have later := ih (fun d inside => colon d (List.mem_cons_of_mem c inside)) fun d inside =>
      hash d (List.mem_cons_of_mem c inside)
    rw [isPlainLine, List.all_cons, later]
    simp [colon c List.mem_cons_self, next]

/-- Over several lines it is not read back. -/
theorem broken {more : List Text} (broken : ∃ c ∈ s, isBreak c = true) (more_ : more <+: (lines s).2) :
    readScalar (lines s).1 more ≠ some (.str s) := by
  obtain ⟨c, rest, rfl, -, unbroken⟩ := bare.shape
  have head : (lines (c :: rest)).1.head? = (c :: rest).head? := by rw [lines_cons unbroken]; rfl
  rw [readScalar_plain (head ▸ bare.head_ne (by decide)) (head ▸ bare.head_ne (by decide))
    (head ▸ bare.head_ne (by decide))]
  exact readPlain_broken broken more_

end Bare

/-- How the rules' texts are written. -/
def yamlStyle : Style where
  write := quotedIfNeeded
  starts t := by
    unfold quotedIfNeeded
    split_ifs with quotes
    · exact ⟨'"', _, rfl, rfl, rfl⟩
    · exact (bare_of_plain (Bool.eq_false_iff.mpr quotes)).shape
  ends t := by
    unfold quotedIfNeeded
    split_ifs with quotes
    · rw [inQuotes, ← List.cons_append, List.getLast?_concat]
      decide
    · intro last
      have solid := (bare_of_plain (Bool.eq_false_iff.mpr quotes)).last _ last
      cases solid
  broken t more broken more_ := by
    unfold quotedIfNeeded at *
    split_ifs at * with quotes
    · obtain ⟨c, inside, breaks⟩ := broken
      have slash : c ≠ '\\' := fun is => absurd (is ▸ breaks) (by decide)
      have quote : c ≠ '"' := fun is => absurd (is ▸ breaks) (by decide)
      have own : c ∈ t := by
        rw [inQuotes, List.mem_cons, List.mem_append, mem_escape slash quote, List.mem_singleton] at inside
        tauto
      rw [lines_inQuotes] at more_ ⊢
      exact readQuoted_broken ⟨c, own, breaks⟩ more_
    · exact (bare_of_plain (Bool.eq_false_iff.mpr quotes)).broken broken more_

/-- What is read back: in quotes every text without control characters; without quotes what is
    printable, does not begin as an item does, and is not resolved to something else. -/
def Readable (s : Text) : Bool :=
  if needsQuotes s then s.all isJson
  else s.all isPrintable && s ≠ ['-'] && !"-\t".toList.isPrefixOf s && isText s

/-- A text is read back if and only if it is readable. -/
theorem legible_iff : Legible yamlStyle s ↔ Readable s = true := by
  unfold Readable
  split_ifs with quotes
  · have written : yamlStyle.write s = inQuotes s := if_pos quotes
    constructor
    · intro legible
      have read := legible.read
      rw [written, readScalar_inQuotes] at read
      by_contra json
      rw [if_neg json] at read
      cases read
    · intro json
      refine ⟨fun c inside => ?_, by rw [written, readScalar_inQuotes, if_pos json]⟩
      rw [List.all_eq_true] at json
      by_cases slash : c = '\\'
      · exact slash ▸ rfl
      · by_cases quote : c = '"'
        · exact quote ▸ rfl
        · rw [written, inQuotes, List.mem_cons, List.mem_append, mem_escape slash quote, List.mem_singleton] at inside
          exact not_break_of (p := isJson) rfl rfl (json c (by tauto))
  · have written : yamlStyle.write s = s := if_neg quotes
    have bare := bare_of_plain (Bool.eq_false_iff.mpr quotes)
    have read : readScalar s [] = some (.str s) ↔
        s.all isPrintable = true ∧ (s ≠ ['-'] ∧ ¬ "-\t".toList <+: s) ∧ isText s = true := by
      rw [bare.readScalar_eq, readPlain_single bare.trimmed, bare.isPlainLine_eq, ← bare.startsPlain_iff,
        ← resolve_eq_str_iff]
      split_ifs with both
      · rw [Bool.and_eq_true] at both
        simp [both]
      · refine iff_of_false (by simp) fun all => both ?_
        rw [Bool.and_eq_true]
        exact ⟨all.2.1, all.1⟩
    have readable : (s.all isPrintable && decide (s ≠ ['-']) && !"-\t".toList.isPrefixOf s && isText s) = true ↔
        readScalar s [] = some (.str s) := by
      rw [read]
      simp only [Bool.and_eq_true, decide_eq_true_eq, Bool.not_eq_true', ← Bool.not_eq_true,
        List.isPrefixOf_iff_prefix, and_assoc]
    rw [readable]
    constructor
    · intro legible
      have back := legible.read
      rwa [written] at back
    · intro back
      refine ⟨fun c inside => ?_, by rwa [written]⟩
      have printable := List.all_eq_true.mp (read.mp back).1
      exact not_break_of (p := isPrintable) rfl rfl (printable c (written ▸ inside))

end Texts

/-! ### Dictionaries -/

def isScalar : Value → Bool
  | .list _ | .dict _ => false
  | _ => true

mutual
/-- The lists hold scalars only. -/
def isFlat : Value → Bool
  | .list items => items.all isScalar
  | .dict entries => areFlat entries
  | _ => true

def areFlat : List (Text × Value) → Bool
  | [] => true
  | (_, v) :: rest => isFlat v && areFlat rest
end

theorem inline_scalar {v : Value} (scalar : isScalar v = true) : inline yamlStyle v = ' ' :: yamlScalar v := by
  cases v with
  | null | int | float | str => rfl
  | bool b => cases b <;> rfl
  | list | dict => cases scalar

theorem below_scalar {v : Value} (scalar : isScalar v = true) (k : Nat) : below yamlStyle k v = [] := by
  cases v with
  | null | int | float | str | bool => rfl
  | list | dict => cases scalar

theorem emitItems_eq {items : List Value} (scalars : items.all isScalar = true) (k : Nat) :
    emitItems k items = writeItems yamlStyle k items := by
  induction items with
  | nil => rfl
  | cons v rest ih =>
    rw [List.all_cons, Bool.and_eq_true] at scalars
    rw [writeItems, inline_scalar scalars.1, below_scalar scalars.1, List.nil_append, ← ih scalars.2]
    cases v with
    | null | int | float | str | bool => rfl
    | list | dict => cases scalars.1

/-- Parts that are joined before the others. -/
theorem joined_nested (sep : Text) (first : Text) {inner : List Text} (some_ : inner ≠ []) (rest : List Text) :
    joined sep (first :: joined sep inner :: rest) = joined sep (first :: (inner ++ rest)) := by
  obtain ⟨part, more, rfl⟩ := List.exists_cons_of_ne_nil some_
  cases rest with
  | nil => rw [List.append_nil, joined, joined, joined]
  | cons other rest =>
    have split := joined_append sep (List.cons_ne_nil part more) (List.cons_ne_nil other rest)
    rw [List.cons_append, joined, joined, joined, ← List.cons_append, split]

theorem joined_cons_congr {sep first : Text} {left right : List Text} (same : joined sep left = joined sep right)
    (nil_iff : left = [] ↔ right = []) : joined sep (first :: left) = joined sep (first :: right) := by
  cases left with
  | nil => rw [nil_iff.mp rfl]
  | cons l left =>
    cases right with
    | nil => exact absurd (nil_iff.mpr rfl) (List.cons_ne_nil _ _)
    | cons r right => rw [joined, joined, same]

theorem emitEntries_eq_nil_iff {entries : List (Text × Value)} {k : Nat} :
    emitEntries k entries = [] ↔ entries = [] := by
  match entries with
  | [] => exact iff_of_true rfl rfl
  | (_, .list []) :: _ | (_, .dict []) :: _ | (_, .list (_ :: _)) :: _ | (_, .dict (_ :: _)) :: _ | (_, .null) :: _
  | (_, .bool _) :: _ | (_, .int _) :: _ | (_, .float _) :: _ | (_, .str _) :: _ =>
    exact iff_of_false (List.cons_ne_nil _ _) (List.cons_ne_nil _ _)

theorem nil_iff (entries : List (Text × Value)) (k : Nat) :
    emitEntries k entries = [] ↔ writeEntries yamlStyle k entries = [] := by
  rw [emitEntries_eq_nil_iff]
  cases entries with
  | nil => exact iff_of_true rfl rfl
  | cons entry rest => exact iff_of_false (List.cons_ne_nil _ _) (List.cons_ne_nil _ _)

/-- An entry whose value stands beside its key. -/
theorem joined_beside {key : Text} {v : Value} {k : Nat} {rest : List (Text × Value)}
    (line : emitEntries k ((key, v) :: rest) = (pad k ++ (key ++ [':']) ++ inline yamlStyle v) :: emitEntries k rest)
    (beside : below yamlStyle k v = [])
    (ih : joined ['\n'] (emitEntries k rest) = joined ['\n'] (writeEntries yamlStyle k rest)) :
    joined ['\n'] (emitEntries k ((key, v) :: rest)) = joined ['\n'] (writeEntries yamlStyle k ((key, v) :: rest)) := by
  rw [line, writeEntries, beside, List.nil_append, List.append_assoc, List.append_assoc, List.singleton_append]
  exact joined_cons_congr ih (nil_iff rest k)

/-- An entry whose value stands below its key. -/
theorem joined_below {key : Text} {v : Value} {k : Nat} {rest : List (Text × Value)}
    (lines_ : emitEntries k ((key, v) :: rest) = (pad k ++ (key ++ [':'])) :: emitYaml (k + 2) v :: emitEntries k rest)
    (none_ : inline yamlStyle v = []) (own : emitYaml (k + 2) v = joined ['\n'] (below yamlStyle k v))
    (some_ : below yamlStyle k v ≠ [])
    (ih : joined ['\n'] (emitEntries k rest) = joined ['\n'] (writeEntries yamlStyle k rest)) :
    joined ['\n'] (emitEntries k ((key, v) :: rest)) = joined ['\n'] (writeEntries yamlStyle k ((key, v) :: rest)) := by
  rw [lines_, own, joined_nested _ _ some_, writeEntries, none_]
  refine joined_cons_congr ?_ (by simp [nil_iff])
  by_cases empty : rest = []
  · rw [empty]
    rfl
  · have written := (nil_iff rest k).not.mp (emitEntries_eq_nil_iff.not.mpr empty)
    rw [joined_append _ some_ (emitEntries_eq_nil_iff.not.mpr empty), joined_append _ some_ written, ih]

mutual
/-- A collection is written as in the blocks of a document. -/
theorem emitYaml_below (v : Value) (flat : isFlat v = true) (collection : isScalar v = false) (k : Nat) :
    emitYaml (k + 2) v = joined ['\n'] (below yamlStyle k v) := by
  match v with
  | .list items => exact congrArg (joined ['\n']) (emitItems_eq flat (k + 2))
  | .dict entries => exact joined_emitEntries entries flat (k + 2)
  | .null | .bool _ | .int _ | .float _ | .str _ => cases collection

theorem joined_emitEntries (entries : List (Text × Value)) (flat : areFlat entries = true) (k : Nat) :
    joined ['\n'] (emitEntries k entries) = joined ['\n'] (writeEntries yamlStyle k entries) := by
  match entries with
  | [] => rfl
  | (key, .list (item :: items)) :: rest =>
    rw [areFlat, Bool.and_eq_true] at flat
    exact joined_below rfl rfl (emitYaml_below (.list (item :: items)) flat.1 rfl k) (List.cons_ne_nil _ _)
      (joined_emitEntries rest flat.2 k)
  | (key, .dict (entry :: entries)) :: rest =>
    rw [areFlat, Bool.and_eq_true] at flat
    exact joined_below rfl rfl (emitYaml_below (.dict (entry :: entries)) flat.1 rfl k) (List.cons_ne_nil _ _)
      (joined_emitEntries rest flat.2 k)
  | (key, .list []) :: rest | (key, .dict []) :: rest | (key, .null) :: rest | (key, .int _) :: rest
  | (key, .float _) :: rest | (key, .str _) :: rest | (key, .bool true) :: rest | (key, .bool false) :: rest =>
    rw [areFlat, Bool.and_eq_true] at flat
    exact joined_beside rfl rfl (joined_emitEntries rest flat.2 k)
end

/-- The text of a rule is made of the lines of a document. -/
theorem yamlDump_eq {entries : List (Text × Value)} (flat : areFlat entries = true) :
    yamlDump (.dict entries) = joined ['\n'] (document yamlStyle (.dict entries)) :=
  joined_emitEntries entries flat 0

/-- The texts of the rules, with markers between them, are made of the lines of a stream. -/
theorem joined_documents {docs : List Value} (filled : ∀ v ∈ docs, document yamlStyle v ≠ []) :
    joined "\n---\n".toList (docs.map fun v => joined ['\n'] (document yamlStyle v)) =
      joined ['\n'] (stream yamlStyle docs) := by
  induction docs with
  | nil => rfl
  | cons v rest ih =>
    have later := ih fun w listed => filled w (List.mem_cons_of_mem _ listed)
    cases rest with
    | nil => rfl
    | cons w rest =>
      have more : stream yamlStyle (w :: rest) ≠ [] := by
        have some_ := filled w (List.mem_cons_of_mem _ List.mem_cons_self)
        cases rest with
        | nil => exact some_
        | cons => exact List.append_ne_nil_of_left_ne_nil some_ _
      have split := joined_append ['\n'] (filled v List.mem_cons_self)
        (List.cons_ne_nil "---".toList (stream yamlStyle (w :: rest)))
      obtain ⟨line, lines, shape⟩ := List.exists_cons_of_ne_nil more
      rw [stream, split, shape, joined, ← shape, ← later]
      rfl

/-! ### Rules -/

section Rules

/-- The keys need no quotes, and each is there once. -/
def areKeys (keys : List Text) : Bool := keys.all isKey && keys.Nodup

/-- The keys of a detection, then those of its searches. -/
def keysOf (detection : Detection) : List (List Text) :=
  (detection.first.map (fun search => (searchEntry search).1) ++
    "condition".toList :: detection.later.map fun search => (searchEntry search).1) ::
  detection.searches.map fun search => search.tests.map fun test => (testEntry test).1

def isKeyed (detection : Detection) : Bool := (keysOf detection).all areKeys

/-- A value that is written as in the blocks of a document. -/
structure Written (v : Value) : Prop where
  block : isBlock v = true
  flat : isFlat v = true

theorem written_dict {entries : List (Text × Value)} (keys : areKeys (entries.map Prod.fst) = true)
    (values : ∀ entry ∈ entries, Written entry.2) : Written (.dict entries) := by
  rw [areKeys, Bool.and_eq_true] at keys
  have blocks : areEntries entries = true ∧ areFlat entries = true := by
    have valid := List.all_eq_true.mp keys.1
    clear keys
    induction entries with
    | nil => exact ⟨rfl, rfl⟩
    | cons entry rest ih =>
      obtain ⟨entries, flat⟩ := ih (fun e listed => values e (List.mem_cons_of_mem _ listed)) fun key listed =>
        valid key (List.mem_cons_of_mem _ listed)
      obtain ⟨own, ownFlat⟩ := values entry List.mem_cons_self
      rw [areEntries, areFlat, valid entry.1 List.mem_cons_self, own, ownFlat, entries, flat]
      exact ⟨rfl, rfl⟩
  exact ⟨by rw [isBlock, blocks.1, keys.2]; rfl, blocks.2⟩

theorem written_list {items : List Value} (scalars : ∀ v ∈ items, isScalar v = true ∧ isBlock v = true) :
    Written (.list items) := by
  refine ⟨?_, List.all_eq_true.mpr fun v listed => (scalars v listed).1⟩
  rw [isBlock]
  induction items with
  | nil => rfl
  | cons v rest ih =>
    rw [areBlocks, (scalars v List.mem_cons_self).2, ih fun w listed => scalars w (List.mem_cons_of_mem _ listed)]
    rfl

theorem written_str (s : String) : Written (str s) := ⟨rfl, rfl⟩

theorem written_strs (items : List String) : Written (strs items) := written_list fun v listed => by
  obtain ⟨s, -, rfl⟩ := List.mem_map.mp listed
  exact ⟨rfl, rfl⟩

theorem written_testEntry (test : Test) : Written (testEntry test).2 := by
  cases test with
  | oneOfPorts field ports =>
    refine written_list fun v listed => ?_
    obtain ⟨port, -, rfl⟩ := List.mem_map.mp listed
    exact ⟨rfl, rfl⟩
  | oneOf | startsWith | contains | isAny => exact written_strs _
  | present => exact ⟨rfl, rfl⟩
  | is => exact written_str _

theorem written_detection {detection : Detection} (keyed : isKeyed detection = true) :
    Written (detectionValue detection) := by
  rw [isKeyed, keysOf, List.all_cons, Bool.and_eq_true, List.all_map, List.all_eq_true] at keyed
  have searches : ∀ search ∈ detection.searches, Written (searchEntry search).2 := fun search listed => by
    refine written_dict (by rw [List.map_map]; exact keyed.2 search listed) fun entry inside => ?_
    obtain ⟨test, -, rfl⟩ := List.mem_map.mp inside
    exact written_testEntry test
  refine written_dict ?_ fun entry inside => ?_
  · rw [List.map_append, List.map_cons, List.map_map, List.map_map]
    exact keyed.1
  · rcases List.mem_append.mp inside with first | rest
    · obtain ⟨search, listed, rfl⟩ := List.mem_map.mp first
      exact searches search (List.mem_append_left _ listed)
    · rcases List.mem_cons.mp rest with rfl | later
      · exact written_str _
      · obtain ⟨search, listed, rfl⟩ := List.mem_map.mp later
        exact searches search (List.mem_append_right _ listed)

def ruleKeys : List String :=
  ["title", "id", "status", "description", "author", "date", "references", "tags", "level", "logsource", "detection"]

theorem areKeys_ruleKeys : areKeys ((ruleKeys ++ ["falsepositives"]).map String.toList) = true ∧
    areKeys ((ruleKeys ++ ["fields", "falsepositives"]).map String.toList) = true := by
  constructor <;> decide

theorem written_rule {rule : Rule} (keyed : isKeyed rule.detection = true) : Written (ruleValue rule) := by
  have source : Written (.dict [("product".toList, str "zeek"), ("service".toList, str rule.service)]) :=
    have keys : areKeys ["product".toList, "service".toList] = true := by decide
    written_dict keys fun entry listed => by
      simp only [List.mem_cons, List.not_mem_nil, or_false] at listed
      rcases listed with rfl | rfl <;> exact written_str _
  have keys : areKeys ((ruleEntries rule).map Prod.fst) = true := by
    unfold ruleEntries
    by_cases none_ : rule.fields = []
    · rw [if_pos none_]
      exact areKeys_ruleKeys.1
    · rw [if_neg none_]
      exact areKeys_ruleKeys.2
  refine written_dict keys ?_
  rw [ruleEntries, List.forall_mem_append, List.forall_mem_append]
  refine ⟨⟨?_, fun entry listed => ?_⟩, fun entry listed => List.mem_singleton.mp listed ▸ written_strs _⟩
  · simp only [List.forall_mem_cons, List.not_mem_nil, false_implies, implies_true, and_true]
    exact ⟨written_str _, written_str _, written_str _, written_str _, written_str _, written_str _, written_strs _,
      written_strs _, written_str _, source, written_detection keyed⟩
  · split_ifs at listed
    · cases listed
    · exact List.mem_singleton.mp listed ▸ written_strs _

/-- It is enough to look at a detection of the same keys. -/
theorem isKeyed_of_keys {detection keyed : Detection} (same : keysOf detection = keysOf keyed)
    (valid : isKeyed keyed = true) : isKeyed detection = true := by
  rw [isKeyed, same]
  exact valid

/-- Every builder makes detections of which the keys need no quotes. -/
theorem keyed_of_build {services : Sigma.Services} {category : String} {finding : Json} {captureId : String}
    {rule : Rule} (built : build services category finding captureId = some rule) : isKeyed rule.detection = true := by
  unfold build at built
  split at built
  · unfold ruleCrossPurdue at built
    dsimp only at built
    split_ifs at built
    obtain rfl := Option.some.inj built
    exact @isKeyed_of_keys _ ⟨[⟨"selection", [.oneOf "id.orig_h" [], .oneOf "id.resp_h" []]⟩], .search "", []⟩ rfl
      (by decide)
  · obtain rfl := Option.some.inj built
    exact @isKeyed_of_keys _ ⟨[⟨"selection_ot", [.oneOf "id.orig_h" []]⟩,
      ⟨"filter_private", [.startsWith "id.resp_h" []]⟩], .search "", []⟩ rfl (by decide)
  · obtain rfl := Option.some.inj built
    exact @isKeyed_of_keys _ ⟨[⟨"selection", [.oneOfPorts "id.resp_p" [], .is "proto" "", .isAny "service" []]⟩],
      .search "", []⟩ rfl (by decide)
  · obtain rfl := Option.some.inj built
    exact @isKeyed_of_keys _ ⟨[⟨"selection", [.oneOf "service" []]⟩], .search "", []⟩ rfl (by decide)
  · obtain rfl := Option.some.inj built
    unfold ruleModbusWriteAnon
    dsimp only
    split_ifs
    · exact @isKeyed_of_keys _ ⟨[⟨"selection", [.contains "func" []]⟩], .search "", []⟩ rfl (by decide)
    · exact @isKeyed_of_keys _ ⟨[⟨"selection", [.contains "func" []]⟩], .search "",
        [⟨"filter_known", [.oneOf "id.orig_h" []]⟩]⟩ rfl (by decide)
  · obtain rfl := Option.some.inj built
    unfold ruleC2Beaconing hostTest
    dsimp only
    split_ifs
    · exact @isKeyed_of_keys _ ⟨[⟨"selection", [.present "id.resp_h"]⟩], .search "", []⟩ rfl (by decide)
    · exact @isKeyed_of_keys _ ⟨[⟨"selection", [.oneOf "id.resp_h" []]⟩], .search "", []⟩ rfl (by decide)
  · obtain rfl := Option.some.inj built
    unfold ruleMalwareIocMatch hostTest
    dsimp only
    split_ifs
    · exact @isKeyed_of_keys _ ⟨[⟨"selection_dst", [.present "id.resp_h"]⟩,
        ⟨"selection_src", [.present "id.orig_h"]⟩], .search "", []⟩ rfl (by decide)
    · exact @isKeyed_of_keys _ ⟨[⟨"selection_dst", [.oneOf "id.resp_h" []]⟩,
        ⟨"selection_src", [.oneOf "id.orig_h" []]⟩], .search "", []⟩ rfl (by decide)
  · cases built

/-- The rules that are emitted are those of builders. -/
theorem keyed_of_emitted {services : Sigma.Services} {report : Report} {captureId : Option String}
    {emitted : String × Rule} (listed : emitted ∈ renderRules services report captureId) : isKeyed emitted.2.detection = true := by
  obtain ⟨made, member, is⟩ := List.mem_map.mp (renderRules_spec.1 emitted listed)
  rw [← is]
  rcases List.mem_append.mp member with member | malware
  · rcases List.mem_append.mp member with risk | indicator
    · obtain ⟨finding, -, rule⟩ := List.mem_filterMap.mp risk
      obtain ⟨built, builds, rfl⟩ := Option.map_eq_some_iff.mp rule
      exact keyed_of_build builds
    · obtain ⟨finding, -, rfl⟩ := List.mem_map.mp indicator
      exact @keyed_of_build services "C2_BEACONING" _ _ _ rfl
  · obtain ⟨finding, -, rfl⟩ := List.mem_map.mp malware
    exact @keyed_of_build services "MALWARE_IOC_MATCH" _ _ _ rfl

theorem isRoot_rule {rule : Rule} (keyed : isKeyed rule.detection = true) : isRoot (ruleValue rule) = true :=
  (Bool.and_eq_true _ _).mpr ⟨(written_rule keyed).block, rfl⟩

/-- Of rules of which the keys need no quotes the stream is read back exactly if their texts are readable. -/
theorem readStream_rules {rules : List Rule} (keyed : ∀ rule ∈ rules, isKeyed rule.detection = true) :
    readStream (joined "\n---\n".toList (rules.map fun rule => yamlDump (ruleValue rule))) =
        some (rules.map ruleValue) ↔
      ∀ rule ∈ rules, ∀ t ∈ texts (ruleValue rule), Readable t = true := by
  have roots : ∀ v ∈ rules.map ruleValue, isRoot v = true := by
    rw [List.forall_mem_map]
    exact fun rule listed => isRoot_rule (keyed rule listed)
  have filled : ∀ v ∈ rules.map ruleValue, document yamlStyle v ≠ [] := fun v listed => by
    obtain ⟨first, rest, shape, -⟩ := @document_head yamlStyle v (roots v listed)
    rw [shape]
    exact List.cons_ne_nil first rest
  have dumps : (rules.map fun rule => yamlDump (ruleValue rule)) =
      (rules.map ruleValue).map fun v => joined ['\n'] (document yamlStyle v) := by
    rw [List.map_map]
    exact List.map_congr_left fun rule listed => yamlDump_eq (written_rule (keyed rule listed)).flat
  rw [dumps, joined_documents filled, readStream_written roots, List.forall_mem_map]
  simp only [legible_iff]

end Rules

/-- A rule is read back from its text exactly if all of its texts are readable, and the rules of
    a report from their stream exactly if all of theirs are. -/
theorem rules_roundTrip_iff (services : Sigma.Services) :
    (∀ category finding captureId rule, build services category finding captureId = some rule →
      (readStream (yamlDump (ruleValue rule)) = some [ruleValue rule] ↔
        ∀ t ∈ texts (ruleValue rule), Readable t = true)) ∧
      ∀ report captureId,
        (readStream (renderYamlConcat services report captureId) =
            some ((renderRules services report captureId).map fun emitted => ruleValue emitted.2) ↔
          ∀ emitted ∈ renderRules services report captureId, ∀ t ∈ texts (ruleValue emitted.2), Readable t = true) := by
  constructor
  · intro category finding captureId rule built
    have single := @readStream_rules [rule] (List.forall_mem_singleton.mpr (keyed_of_build built))
    rw [List.forall_mem_singleton] at single
    exact single
  · intro report captureId
    have whole := @readStream_rules ((renderRules services report captureId).map Prod.snd)
      (List.forall_mem_map.mpr fun emitted listed => keyed_of_emitted listed)
    rw [List.map_map, List.map_map, List.forall_mem_map] at whole
    exact whole

/-! ### Two nodes -/

/-- With the hash of the one text that is hashed. -/
def hashing (digest : String) : Sigma.Services where
  library :=
    { lower := fun s => String.ofList (s.toList.map Char.toLower)
      upper := fun s => String.ofList (s.toList.map Char.toUpper)
      strip := fun s => String.ofList (strip s.toList)
      ipAddress := some
      str := fun _ => "None" }
  sha1 _ := digest
  nowIsoDate := "2026/01/31"
  upper_emittable := by decide

/-- Traffic of a node across levels. -/
def crossing (node : String) : Json :=
  .obj [("category", .str "CROSS_PURDUE"), ("affected_nodes", .arr [.str node])]

/-- The rule of a controller is read back. -/
theorem rule_of_address : ∃ rule,
    build (hashing "c3fdc342639cfac9ec592115fe35339c401af606") "CROSS_PURDUE" (crossing "10.0.3.5") "capture" =
        some rule ∧
      readStream (yamlDump (ruleValue rule)) = some [ruleValue rule] := by
  have rules := (rules_roundTrip_iff (hashing "c3fdc342639cfac9ec592115fe35339c401af606")).1
  exact ⟨_, rfl, (rules "CROSS_PURDUE" (crossing "10.0.3.5") "capture" _ rfl).mpr (by decide +kernel)⟩

/-- The rule of a node whose name is a number is not: the number is read. -/
theorem rule_of_number : ¬∀ services category finding captureId rule,
    build services category finding captureId = some rule →
      readStream (yamlDump (ruleValue rule)) = some [ruleValue rule] := by
  intro roundTrips
  let services := hashing "8bb4f9acff643a5dd5b78945e3e6f5c1f4f6913c"
  have read := roundTrips services "CROSS_PURDUE" (crossing "123") "capture" _ rfl
  have keyed := @keyed_of_build services "CROSS_PURDUE" (crossing "123") "capture" _ rfl
  have single := @readStream_rules [_] (List.forall_mem_singleton.mpr keyed)
  rw [List.forall_mem_singleton] at single
  exact absurd (single.mp read "123".toList (by decide +kernel)) (by decide)

end Marlinspike.Emit.SigmaYaml
