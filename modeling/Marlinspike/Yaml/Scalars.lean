import Mathlib.Data.List.Count
import Mathlib.Data.List.DropRight
import Mathlib.Data.List.TakeWhile
import Mathlib.Tactic.SplitIfs
import Marlinspike.PyDict

/-!
Scalars of YAML 1.2 in block style: plain ones, which the core schema resolves, and double-quoted
ones, both over any number of lines. Comments beside a scalar are not read.

A scalar over several lines is folded, and then has fewer line feeds than it had breaks
(`count_fold_lt`); so a text with a break in it is never read back when it is written as it is,
or in quotes with only its backslashes and quotes escaped (`readScalar_broken`).
-/
namespace Marlinspike.Yaml

abbrev Text := List Char

inductive Value where
  | null
  | bool (b : Bool)
  | int (i : Int)
  /-- A float, as it is written. -/
  | float (written : Text)
  | str (text : Text)
  | list (items : List Value)
  | dict (entries : List (Text × Value))

/-! ### Characters and lines -/

/-- `s-white`. -/
def isWhite (c : Char) : Bool := c = ' ' || c = '\t'

/-- `b-char`. -/
def isBreak (c : Char) : Bool := c = '\n' || c = '\r'

/-- `nb-char`. -/
def isPrintable (c : Char) : Bool :=
  c = '\t' || (32 ≤ c.toNat && c.toNat ≤ 126) || c.toNat = 0x85 ||
    (0xA0 ≤ c.toNat && c.toNat ≠ 0xFEFF && c.toNat ≠ 0xFFFE && c.toNat ≠ 0xFFFF)

/-- `nb-json`. -/
def isJson (c : Char) : Bool := c = '\t' || 32 ≤ c.toNat

theorem isWhite_iff {c : Char} : isWhite c = true ↔ c = ' ' ∨ c = '\t' := by simp [isWhite]

theorem isBreak_iff {c : Char} : isBreak c = true ↔ c = '\n' ∨ c = '\r' := by simp [isBreak]

/-- What neither blank is, is no blank. -/
theorem not_white_of {p : Char → Bool} (space : p ' ' = false) (tab : p '\t' = false) {c : Char} (holds : p c = true) :
    isWhite c = false := by
  by_contra white
  rcases isWhite_iff.mp (Bool.not_eq_false _ ▸ white) with rfl | rfl
  · exact absurd holds (by simp [space])
  · exact absurd holds (by simp [tab])

/-- What neither break is, is no break. -/
theorem not_break_of {p : Char → Bool} (feed : p '\n' = false) (carriage : p '\r' = false) {c : Char} (holds : p c = true) :
    isBreak c = false := by
  by_contra breaks
  rcases isBreak_iff.mp (Bool.not_eq_false _ ▸ breaks) with rfl | rfl
  · exact absurd holds (by simp [feed])
  · exact absurd holds (by simp [carriage])

theorem none_of_all {p : Char → Bool} {text : Text} (all : text.all (!p ·) = true) : ∀ c ∈ text, p c = false := by
  simpa using List.all_eq_true.mp all

/-- The first line and the others; a carriage return and a line feed are one break. -/
def lines : Text → Text × List Text
  | [] => ([], [])
  | c :: rest =>
    if c = '\n' then ([], (lines rest).1 :: (lines rest).2)
    else if c = '\r' then if rest.head? = some '\n' then lines rest else ([], (lines rest).1 :: (lines rest).2)
    else (c :: (lines rest).1, (lines rest).2)

def trimStart (text : Text) : Text := text.dropWhile isWhite

def trimEnd (text : Text) : Text := text.rdropWhile isWhite

def trim (text : Text) : Text := trimEnd (trimStart text)

def isBlank (line : Text) : Bool := line.all isWhite

/-- What the breaks between two lines become. -/
def glue : Nat → Text
  | 0 => []
  | 1 => [' ']
  | n + 2 => List.replicate (n + 1) '\n'

/-- The lines after the first, with the empty ones before them. -/
def foldRest : Nat → List Text → Text
  | _, [] => []
  | empty, line :: rest =>
    if line = [] ∧ rest ≠ [] then foldRest (empty + 1) rest else glue (empty + 1) ++ (line ++ foldRest 0 rest)

/-- Line folding. -/
def fold (first : Text) (more : List Text) : Text := first ++ foldRest 0 more

/-! ### The core schema -/

def areDigits (text : Text) : Bool := !text.isEmpty && text.all Char.isDigit

def unsigned : Text → Text
  | '+' :: rest | '-' :: rest => rest
  | text => text

def isNull (text : Text) : Bool := text ∈ ["null".toList, "Null".toList, "NULL".toList, "~".toList]

def isTrue (text : Text) : Bool := text ∈ ["true".toList, "True".toList, "TRUE".toList]

def isFalse (text : Text) : Bool := text ∈ ["false".toList, "False".toList, "FALSE".toList]

def isDecimal (text : Text) : Bool := areDigits (unsigned text)

def isOctalDigit (c : Char) : Bool := '0' ≤ c && c ≤ '7'

def isHexDigit (c : Char) : Bool := c.isDigit || ('a' ≤ c && c ≤ 'f') || ('A' ≤ c && c ≤ 'F')

def digitValue (c : Char) : Nat :=
  if c.isDigit then c.toNat - '0'.toNat
  else if 'a' ≤ c then c.toNat - 'a'.toNat + 10 else c.toNat - 'A'.toNat + 10

def valueOf (base : Nat) (digits : Text) : Nat := digits.foldl (fun n c => base * n + digitValue c) 0

/-- `[0-9]+ ( \. [0-9]* )?` or `\. [0-9]+`. -/
def isMantissa (text : Text) : Bool :=
  let whole := text.takeWhile Char.isDigit
  match text.dropWhile Char.isDigit with
  | [] => !whole.isEmpty
  | '.' :: fraction => fraction.all Char.isDigit && (!whole.isEmpty || !fraction.isEmpty)
  | _ => false

def isNumber (text : Text) : Bool :=
  let isE := fun c => c = 'e' || c = 'E'
  let exponent := text.dropWhile fun c => !isE c
  isMantissa (text.takeWhile fun c => !isE c) && (exponent.isEmpty || areDigits (unsigned exponent.tail))

def isFloat (text : Text) : Bool :=
  text ∈ [".nan".toList, ".NaN".toList, ".NAN".toList] ||
    unsigned text ∈ [".inf".toList, ".Inf".toList, ".INF".toList] || isNumber (unsigned text)

/-- An integer to another base. -/
def based : Text → Option Nat
  | '0' :: 'o' :: digits => if !digits.isEmpty && digits.all isOctalDigit then some (valueOf 8 digits) else none
  | '0' :: 'x' :: digits => if !digits.isEmpty && digits.all isHexDigit then some (valueOf 16 digits) else none
  | _ => none

/-- The value of a plain scalar that is not empty. -/
def resolve (text : Text) : Value :=
  if isNull text then .null
  else if isTrue text then .bool true
  else if isFalse text then .bool false
  else if isDecimal text then .int (if text.head? = some '-' then -valueOf 10 (unsigned text) else valueOf 10 (unsigned text))
  else match based text with
    | some n => .int n
    | none => if isFloat text then .float text else .str text

/-! ### Reading -/

/-- `c-indicator`. -/
def isIndicator (c : Char) : Bool := c ∈ "-?:,[]\x7b\x7d#&*!|>'\"%@`".toList

/-- `ns-plain-first`, of a scalar's first line. -/
def startsPlain : Text → Bool
  | [] => false
  | c :: rest => !isIndicator c || (c ∈ "-?:".toList && rest.head?.any (!isWhite ·))

/-- Printable characters, without what ends a plain scalar: a colon before a blank, `#` after one. -/
def isPlainLine : Text → Bool
  | [] => true
  | c :: rest =>
    isPrintable c && !(c = ':' && (rest.head?.all isWhite)) && !(isWhite c && rest.head? = some '#') && isPlainLine rest

/-- A line further down does not begin a comment. -/
def continuesPlain (line : Text) : Bool := line.head? ≠ some '#' && isPlainLine line

def readPlain (first : Text) (more : List Text) : Option Value :=
  let first := trim first
  let more := (more.rdropWhile isBlank).map trim
  if startsPlain first && isPlainLine first && more.all continuesPlain then some (resolve (fold first more)) else none

/-- What one character after a backslash stands for. -/
def shortEscape (c : Char) : Option Char :=
  ("0abt\tnvfre \"/\\N_LP".toList.zip
    ([0, 7, 8, 9, 9, 10, 11, 12, 13, 27, 32, 34, 47, 92, 0x85, 0xA0, 0x2028, 0x2029].map Char.ofNat)).lookup c

/-- How many digits follow. -/
def hexLength (c : Char) : Option Nat := [('x', 2), ('u', 4), ('U', 8)].lookup c

inductive Scan where
  | plain
  | escape
  | hex (left value : Nat)

/-- A line of a quoted scalar: what it says up to the closing quote or its end, and what follows the quote. -/
def scan : Scan → Text → Option (Text × Option Text)
  | .plain, [] => some ([], none)
  | .plain, c :: rest =>
    if c = '"' then some ([], some rest)
    else if c = '\\' then scan .escape rest
    else if isJson c then (scan .plain rest).map fun read => (c :: read.1, read.2)
    else none
  | .escape, [] => none
  | .escape, c :: rest =>
    match shortEscape c, hexLength c with
    | some d, _ => (scan .plain rest).map fun read => (d :: read.1, read.2)
    | none, some n => scan (.hex n 0) rest
    | none, none => none
  | .hex _ _, [] => none
  | .hex left value, c :: rest =>
    if isHexDigit c then
      let value := 16 * value + digitValue c
      if left ≤ 1 then
        if value.isValidChar then (scan .plain rest).map fun read => (Char.ofNat value :: read.1, read.2) else none
      else scan (.hex (left - 1) value) rest
    else none

/-- The lines of a quoted scalar, up to the one with the closing quote. -/
def readLines : List Text → Option (List Text)
  | [] => none
  | line :: rest =>
    match scan .plain line with
    | some (text, none) => (readLines rest).map (text :: ·)
    | some (text, some after) => if isBlank after && rest.all isBlank then some [text] else none
    | none => none

def readQuoted (first : Text) (more : List Text) : Option Value :=
  match readLines (trimEnd first :: more.map trim) with
  | some (first :: more) => some (.str (fold first more))
  | _ => none

/-- A scalar or an empty collection, with the lines that continue it. -/
def readScalar (first : Text) (more : List Text) : Option Value :=
  match first with
  | '"' :: first => readQuoted first more
  | first =>
    if trimEnd first = "[]".toList then if more.all isBlank then some (.list []) else none
    else if trimEnd first = "\x7b\x7d".toList then if more.all isBlank then some (.dict []) else none
    else readPlain first more

example : readScalar "\"a b".toList ["  c ".toList, [], "d\" ".toList] matches some (.str ['a', ' ', 'b', ' ', 'c', '\n', 'd']) := by
  decide

/-! ### Lines of a text -/

section Lines
variable {text : Text}

theorem lines_cons {c : Char} (unbroken : isBreak c = false) :
    lines (c :: text) = (c :: (lines text).1, (lines text).2) := by
  simp only [isBreak, Bool.or_eq_false_iff, decide_eq_false_iff_not] at unbroken
  rw [lines, if_neg unbroken.1, if_neg unbroken.2]

theorem lines_unbroken (unbroken : ∀ c ∈ text, isBreak c = false) : lines text = (text, []) := by
  induction text with
  | nil => rfl
  | cons c rest ih =>
    rw [lines_cons (unbroken c List.mem_cons_self), ih fun d inside => unbroken d (List.mem_cons_of_mem _ inside)]

/-- A line feed ends a line, if it is not the second half of a break. -/
theorem lines_append {before : Text} (after : Text) (whole : before.getLast? ≠ some '\r') :
    lines (before ++ '\n' :: after) = ((lines before).1, (lines before).2 ++ (lines after).1 :: (lines after).2) := by
  induction before with
  | nil => rfl
  | cons c rest ih =>
    have later : rest.getLast? ≠ some '\r' := by
      cases rest with
      | nil => simp
      | cons d rest => simpa [List.getLast?_cons_cons] using whole
    have head : (rest ++ '\n' :: after).head? = some '\n' ↔ rest = [] ∨ rest.head? = some '\n' := by
      cases rest <;> simp
    rw [List.cons_append, lines, lines, ih later]
    by_cases feed : c = '\n'
    · rw [if_pos feed, if_pos feed, List.cons_append]
    · rw [if_neg feed, if_neg feed]
      by_cases ret : c = '\r'
      · rw [if_pos ret, if_pos ret]
        have some_ : rest ≠ [] := by
          rintro rfl
          exact whole (ret ▸ rfl)
        by_cases next : rest.head? = some '\n'
        · rw [if_pos next, if_pos (head.mpr (Or.inr next))]
        · rw [if_neg next, if_neg fun feeds => (head.mp feeds).elim some_ next, List.cons_append]
      · rw [if_neg ret, if_neg ret]

/-- The characters of the lines are those between the breaks. -/
theorem mem_lines {line : Text} (listed : line ∈ (lines text).1 :: (lines text).2) {c : Char} (inside : c ∈ line) :
    c ∈ text ∧ isBreak c = false := by
  induction text generalizing line with
  | nil =>
    obtain rfl := List.mem_singleton.mp listed
    cases inside
  | cons d rest ih =>
    have later : line ∈ (lines rest).1 :: (lines rest).2 → c ∈ d :: rest ∧ isBreak c = false := fun listed =>
      ⟨List.mem_cons_of_mem d (ih listed inside).1, (ih listed inside).2⟩
    have ended : line ∈ [] :: (lines rest).1 :: (lines rest).2 → c ∈ d :: rest ∧ isBreak c = false := fun listed => by
      rcases List.mem_cons.mp listed with rfl | listed
      · cases inside
      · exact later listed
    rw [lines] at listed
    split_ifs at listed with feed ret next
    · exact ended listed
    · exact later listed
    · exact ended listed
    · rcases List.mem_cons.mp listed with rfl | listed
      · rcases List.mem_cons.mp inside with rfl | inside
        · exact ⟨List.mem_cons_self, by simp [isBreak, feed, ret]⟩
        · exact ⟨List.mem_cons_of_mem d (ih List.mem_cons_self inside).1, (ih List.mem_cons_self inside).2⟩
      · exact later (List.mem_cons_of_mem _ listed)

theorem length_lines (noReturn : '\r' ∉ text) : (lines text).2.length = text.count '\n' := by
  induction text with
  | nil => rfl
  | cons c rest ih =>
    rw [List.mem_cons, not_or] at noReturn
    rw [lines, List.count_cons]
    by_cases feed : c = '\n'
    · rw [if_pos feed, List.length_cons, ih noReturn.2]
      simp [feed]
    · rw [if_neg feed, if_neg (Ne.symm noReturn.1), ih noReturn.2]
      simp [feed]

/-- A text with breaks has line feeds, if it has no returns. -/
theorem count_of_broken (broken : ∃ c ∈ text, isBreak c = true) (noReturn : '\r' ∉ text) : text.count '\n' ≠ 0 := by
  obtain ⟨c, inside, breaks⟩ := broken
  have feed : c = '\n' := by
    simp only [isBreak, Bool.or_eq_true, decide_eq_true_eq] at breaks
    exact breaks.resolve_right fun ret => noReturn (ret ▸ inside)
  exact Nat.ne_of_gt (List.count_pos_iff.mpr (feed ▸ inside))

end Lines

/-! ### Folding -/

section Folding
variable {first : Text} {more : List Text}

@[simp] theorem fold_nil : fold first [] = first := List.append_nil first

theorem count_glue (n : Nat) : (glue n).count '\n' = n - 1 := by
  match n with
  | 0 | 1 => rfl
  | n + 2 => simp [glue]

theorem count_foldRest (noFeed : ∀ line ∈ more, '\n' ∉ line) (some_ : more ≠ []) (empty : Nat) :
    (foldRest empty more).count '\n' < empty + more.length := by
  induction more generalizing empty with
  | nil => exact absurd rfl some_
  | cons line rest ih =>
    have later : ∀ line ∈ rest, '\n' ∉ line := fun l listed => noFeed l (List.mem_cons_of_mem _ listed)
    rw [foldRest, List.length_cons]
    split_ifs with skips
    · exact Nat.lt_of_lt_of_eq (ih later skips.2 (empty + 1)) (by omega)
    · rw [List.count_append, List.count_append, count_glue, List.count_eq_zero.mpr (noFeed line List.mem_cons_self)]
      by_cases last : rest = []
      · subst last
        simp [foldRest]
      · have := ih later last 0
        omega

/-- A text of several lines has fewer line feeds than breaks when it is folded. -/
theorem count_fold_lt (noFeed : ∀ line ∈ first :: more, '\n' ∉ line) {breaks : Nat} (some_ : breaks ≠ 0)
    (le : more.length ≤ breaks) : (fold first more).count '\n' < breaks := by
  rw [fold, List.count_append, List.count_eq_zero.mpr (noFeed first List.mem_cons_self), Nat.zero_add]
  by_cases none_ : more = []
  · subst none_
    exact Nat.pos_iff_ne_zero.mpr some_
  · have := count_foldRest (fun line listed => noFeed line (List.mem_cons_of_mem _ listed)) none_ 0
    omega

theorem not_mem_fold (noReturn : ∀ line ∈ first :: more, '\r' ∉ line) : '\r' ∉ fold first more := by
  have glued : ∀ n, '\r' ∉ glue n := by
    intro n
    match n with
    | 0 | 1 => decide
    | n + 2 => exact fun inside => absurd (List.eq_of_mem_replicate inside) (by decide)
  have rest : ∀ (lines : List Text), (∀ line ∈ lines, '\r' ∉ line) → ∀ n, '\r' ∉ foldRest n lines := by
    intro lines
    induction lines with
    | nil => exact fun _ _ => List.not_mem_nil
    | cons line rest ih =>
      intro none_ n
      have later := ih fun l listed => none_ l (List.mem_cons_of_mem _ listed)
      rw [foldRest]
      split_ifs
      · exact later (n + 1)
      · simp only [List.mem_append, not_or]
        exact ⟨glued _, none_ line List.mem_cons_self, later 0⟩
  rw [fold, List.mem_append, not_or]
  exact ⟨noReturn first List.mem_cons_self, rest more (fun l listed => noReturn l (List.mem_cons_of_mem _ listed)) 0⟩

end Folding

/-! ### Plain scalars -/

section Plain
variable {first text : Text} {more : List Text}

/-- Whether the core schema takes a plain scalar for a text. -/
def isText (text : Text) : Bool := match resolve text with
  | .str _ => true
  | _ => false

/-- A text stays what it is. -/
theorem resolve_str {t : Text} (resolved : resolve text = .str t) : t = text := by
  unfold resolve at resolved
  cases based_ : based text with
  | some n =>
    simp only [based_] at resolved
    split_ifs at resolved
  | none =>
    simp only [based_] at resolved
    split_ifs at resolved
    exact (Value.str.inj resolved).symm

theorem resolve_eq_str_iff : resolve text = .str text ↔ isText text = true := by
  unfold isText
  constructor
  · intro resolved
    rw [resolved]
  · intro texts
    split at texts
    case h_1 t resolved => rw [resolved, resolve_str resolved]
    case h_2 => cases texts

theorem mem_trim {c : Char} (inside : c ∈ trim text) : c ∈ text :=
  (List.dropWhile_sublist _).subset ((List.rdropWhile_prefix _ _).subset inside)

theorem readPlain_str {t : Text} (read : readPlain first more = some (.str t)) :
    t = fold (trim first) ((more.rdropWhile isBlank).map trim) := by
  unfold readPlain at read
  dsimp only at read
  split_ifs at read
  exact resolve_str (Option.some.inj read)

/-- On one line. -/
theorem readPlain_single (trimmed : trim text = text) :
    readPlain text [] = if startsPlain text && isPlainLine text then some (resolve text) else none := by
  simp [readPlain, trimmed]

/-- A scalar that begins with no quote or bracket is plain. -/
theorem readScalar_plain (quote : first.head? ≠ some '"') (bracket : first.head? ≠ some '[')
    (brace : first.head? ≠ some '\x7b') : readScalar first more = readPlain first more := by
  have empty : ∀ t : Text, t ≠ [] → first.head? ≠ t.head? → trimEnd first ≠ t := by
    rintro t some_ other rfl
    obtain ⟨c, rest, shape⟩ := List.exists_cons_of_ne_nil some_
    obtain ⟨after, whole⟩ := List.rdropWhile_prefix isWhite first
    rw [← trimEnd, shape, List.cons_append] at whole
    exact other (by rw [shape, ← whole]; rfl)
  unfold readScalar
  split
  · exact absurd rfl quote
  · rw [if_neg (empty "[]".toList (by decide) bracket), if_neg (empty "\x7b\x7d".toList (by decide) brace)]

theorem trim_of_solid (solid : ∀ c ∈ text, isWhite c = false) : trim text = text := by
  have start : trimStart text = text := by
    cases text with
    | nil => rfl
    | cons c rest => exact List.dropWhile_cons_of_neg (Bool.eq_false_iff.mp (solid c List.mem_cons_self))
  rw [trim, start, trimEnd, List.rdropWhile_eq_self_iff]
  exact fun some_ => Bool.eq_false_iff.mp (solid _ (List.getLast_mem some_))

theorem isPlainLine_of_solid (solid : ∀ c ∈ text, isPrintable c = true ∧ c ≠ ':' ∧ isWhite c = false) :
    isPlainLine text = true := by
  induction text with
  | nil => rfl
  | cons c rest ih =>
    obtain ⟨printable, colon, white⟩ := solid c List.mem_cons_self
    rw [isPlainLine, ih fun d inside => solid d (List.mem_cons_of_mem c inside)]
    simp [printable, colon, white]

theorem startsPlain_of_other {c : Char} (other : isIndicator c = false) (rest : Text) : startsPlain (c :: rest) = true := by
  rw [startsPlain, other]
  rfl

/-- A text with a break in it is not read back. -/
theorem readPlain_broken (broken : ∃ c ∈ text, isBreak c = true) (more_ : more <+: (lines text).2) :
    readPlain (lines text).1 more ≠ some (.str text) := by
  intro read
  have same := readPlain_str read
  have unbroken : ∀ line ∈ trim (lines text).1 :: (more.rdropWhile isBlank).map trim, ∀ c ∈ line, isBreak c = false := by
    intro line listed c inside
    rcases List.mem_cons.mp listed with rfl | listed
    · exact (mem_lines List.mem_cons_self (mem_trim inside)).2
    · obtain ⟨whole, listed', rfl⟩ := List.mem_map.mp listed
      have among := more_.subset ((List.rdropWhile_prefix _ _).subset listed')
      exact (mem_lines (List.mem_cons_of_mem _ among) (mem_trim inside)).2
  have noReturn : '\r' ∉ text := fun inside =>
    not_mem_fold (fun line listed ret => absurd (unbroken line listed _ ret) (by decide)) (same ▸ inside)
  have shorter : (fold (trim (lines text).1) ((more.rdropWhile isBlank).map trim)).count '\n' < text.count '\n' := by
    refine count_fold_lt (fun line listed feed => absurd (unbroken line listed _ feed) (by decide)) ?_ ?_
    · exact count_of_broken broken noReturn
    · rw [List.length_map, ← length_lines noReturn]
      exact (List.rdropWhile_prefix _ _).length_le.trans more_.length_le
  exact absurd (congrArg (List.count '\n') same) (Nat.ne_of_gt shorter)

end Plain

/-! ### Quoted scalars -/

def escapeChar (c : Char) : Text := if c = '\\' then ['\\', '\\'] else if c = '"' then ['\\', '"'] else [c]

def escape (text : Text) : Text := text.flatMap escapeChar

/-- A text in double quotes. -/
def inQuotes (text : Text) : Text := '"' :: (escape text ++ ['"'])

section Quoted
variable {text : Text} {c : Char}

theorem escapeChar_other (slash : c ≠ '\\') (quote : c ≠ '"') : escapeChar c = [c] := by
  rw [escapeChar, if_neg slash, if_neg quote]

theorem escape_cons (c : Char) (text : Text) : escape (c :: text) = escapeChar c ++ escape text := List.flatMap_cons

theorem scan_escapeChar (c : Char) (rest : Text) : scan .plain (escapeChar c ++ rest) =
    if isJson c then (scan .plain rest).map fun read => (c :: read.1, read.2) else none := by
  by_cases slash : c = '\\'
  · subst slash
    rfl
  by_cases quote : c = '"'
  · subst quote
    rfl
  rw [escapeChar_other slash quote, List.singleton_append, scan, if_neg quote, if_neg slash]

theorem scan_escape (text rest : Text) : scan .plain (escape text ++ rest) =
    if text.all isJson then (scan .plain rest).map fun read => (text ++ read.1, read.2) else none := by
  induction text with
  | nil => simp [escape]
  | cons c text ih =>
    rw [escape_cons, List.append_assoc, scan_escapeChar, ih, List.all_cons]
    by_cases json : isJson c = true
    · rw [if_pos json, json, Bool.true_and]
      split_ifs
      · rw [Option.map_map]
        rfl
      · rfl
    · rw [if_neg json, Bool.not_eq_true] at *
      simp [json]

/-- On one line. -/
theorem readScalar_inQuotes (text : Text) :
    readScalar (inQuotes text) [] = if text.all isJson then some (.str text) else none := by
  have ended : trimEnd (escape text ++ ['"']) = escape text ++ ['"'] := List.rdropWhile_concat_neg _ _ _ (by decide)
  have closed : scan .plain ['"'] = some ([], some []) := rfl
  rw [inQuotes, readScalar, readQuoted, ended, readLines, scan_escape, closed]
  by_cases json : text.all isJson = true
  · rw [if_pos json, if_pos json]
    simp [isBlank]
  · rw [if_neg json, if_neg json]

/-- A line of an escaped text, with or without the closing quote. -/
def IsEscaped (line : Text) : Prop :=
  ∃ text tail, line = escape text ++ tail ∧ (tail = [] ∨ tail = ['"']) ∧ ∀ c ∈ text, isBreak c = false

theorem isEscaped_trimStart {line : Text} (escaped : IsEscaped line) : IsEscaped (trimStart line) := by
  obtain ⟨text, tail, rfl, closes, unbroken⟩ := escaped
  refine ⟨trimStart text, tail, ?_, closes, fun c inside => unbroken c ((List.dropWhile_sublist _).subset inside)⟩
  induction text with
  | nil => rcases closes with rfl | rfl <;> rfl
  | cons c text ih =>
    by_cases white : isWhite c = true
    · have slash : c ≠ '\\' := fun is => absurd (is ▸ white) (by decide)
      have quote : c ≠ '"' := fun is => absurd (is ▸ white) (by decide)
      rw [escape_cons, escapeChar_other slash quote, List.append_assoc, List.singleton_append, trimStart, trimStart,
        List.dropWhile_cons_of_pos white, List.dropWhile_cons_of_pos white]
      exact ih fun d inside => unbroken d (List.mem_cons_of_mem c inside)
    · have kept : trimStart (c :: text) = c :: text := List.dropWhile_cons_of_neg white
      obtain ⟨first, rest, shape, solid⟩ : ∃ first rest, escapeChar c = first :: rest ∧ isWhite first = false := by
        unfold escapeChar
        split_ifs
        · exact ⟨_, _, rfl, rfl⟩
        · exact ⟨_, _, rfl, rfl⟩
        · exact ⟨_, _, rfl, Bool.not_eq_true _ ▸ white⟩
      rw [kept, escape_cons, shape, List.cons_append, List.cons_append, trimStart,
        List.dropWhile_cons_of_neg (Bool.eq_false_iff.mp solid)]

theorem isEscaped_trimEnd {line : Text} (escaped : IsEscaped line) : IsEscaped (trimEnd line) := by
  obtain ⟨text, tail, rfl, closes, unbroken⟩ := escaped
  rcases closes with rfl | rfl
  · refine ⟨trimEnd text, [], ?_, Or.inl rfl, fun c inside => unbroken c ((List.rdropWhile_prefix _ _).subset inside)⟩
    rw [List.append_nil, List.append_nil]
    induction text using List.reverseRecOn with
    | nil => rfl
    | append_singleton text c ih =>
      have cut : escape (text ++ [c]) = escape text ++ escapeChar c := by simp [escape]
      by_cases white : isWhite c = true
      · have slash : c ≠ '\\' := fun is => absurd (is ▸ white) (by decide)
        have quote : c ≠ '"' := fun is => absurd (is ▸ white) (by decide)
        rw [cut, escapeChar_other slash quote, trimEnd, trimEnd, List.rdropWhile_concat_pos _ _ _ white,
          List.rdropWhile_concat_pos _ _ _ white]
        exact ih fun d inside => unbroken d (List.mem_append_left _ inside)
      · have kept : trimEnd (text ++ [c]) = text ++ [c] := List.rdropWhile_concat_neg _ _ _ white
        obtain ⟨front, last, shape, solid⟩ : ∃ front last, escapeChar c = front ++ [last] ∧ isWhite last = false := by
          unfold escapeChar
          split_ifs
          · exact ⟨['\\'], _, rfl, rfl⟩
          · exact ⟨['\\'], _, rfl, rfl⟩
          · exact ⟨[], _, rfl, Bool.not_eq_true _ ▸ white⟩
        rw [kept, cut, shape, ← List.append_assoc, trimEnd,
          List.rdropWhile_concat_neg _ _ _ (Bool.eq_false_iff.mp solid)]
  · refine ⟨text, ['"'], ?_, Or.inr rfl, unbroken⟩
    exact List.rdropWhile_concat_neg _ _ _ (by decide)

/-- What such a line says has no break in it. -/
theorem scan_isEscaped {line said : Text} {after : Option Text} (escaped : IsEscaped line)
    (read : scan .plain line = some (said, after)) : ∀ c ∈ said, isBreak c = false := by
  obtain ⟨text, tail, rfl, closes, unbroken⟩ := escaped
  have ends : ∃ after, scan .plain tail = some ([], after) := by
    rcases closes with rfl | rfl
    · exact ⟨none, rfl⟩
    · exact ⟨some [], rfl⟩
  obtain ⟨after', ends⟩ := ends
  rw [scan_escape, ends] at read
  split_ifs at read
  rw [Option.map_some, List.append_nil] at read
  exact (Prod.mk.inj (Option.some.inj read)).1 ▸ unbroken

theorem readLines_isEscaped {escaped said : List Text} (all : ∀ line ∈ escaped, IsEscaped line)
    (read : readLines escaped = some said) : said.length ≤ escaped.length ∧ ∀ line ∈ said, ∀ c ∈ line, isBreak c = false := by
  induction escaped generalizing said with
  | nil => cases read
  | cons line rest ih =>
    rw [readLines] at read
    cases scanned : scan .plain line with
    | none =>
      rw [scanned] at read
      cases read
    | some found =>
      obtain ⟨text, after⟩ := found
      have unbroken := scan_isEscaped (all line List.mem_cons_self) scanned
      rw [scanned] at read
      cases after with
      | some after =>
        simp only at read
        split_ifs at read
        obtain rfl := Option.some.inj read
        exact ⟨Nat.succ_le_succ (Nat.zero_le _), fun l listed => List.mem_singleton.mp listed ▸ unbroken⟩
      | none =>
        obtain ⟨more, others, rfl⟩ := Option.map_eq_some_iff.mp read
        obtain ⟨fewer, later⟩ := ih (fun l listed => all l (List.mem_cons_of_mem _ listed)) others
        refine ⟨Nat.succ_le_succ fewer, fun l listed => ?_⟩
        rcases List.mem_cons.mp listed with rfl | listed
        · exact unbroken
        · exact later l listed

theorem lines_escapeChar (unbroken : isBreak c = false) (rest : Text) :
    lines (escapeChar c ++ rest) = (escapeChar c ++ (lines rest).1, (lines rest).2) := by
  unfold escapeChar
  split_ifs
  · rfl
  · rfl
  · exact lines_cons unbroken

/-- The lines of a quoted text after its first quote. -/
theorem lines_isEscaped (text : Text) :
    ∀ line ∈ (lines (escape text ++ ['"'])).1 :: (lines (escape text ++ ['"'])).2, IsEscaped line := by
  induction text with
  | nil =>
    intro line listed
    obtain rfl := List.mem_singleton.mp listed
    exact ⟨[], ['"'], rfl, Or.inr rfl, fun _ inside => nomatch inside⟩
  | cons c text ih =>
    intro line listed
    have blank : IsEscaped [] := ⟨[], [], rfl, Or.inl rfl, fun _ inside => nomatch inside⟩
    rw [escape_cons, List.append_assoc] at listed
    cases breaks : isBreak c with
    | false =>
      rw [lines_escapeChar breaks] at listed
      rcases List.mem_cons.mp listed with rfl | listed
      · obtain ⟨t, tail, split, closes, unbroken⟩ := ih _ List.mem_cons_self
        refine ⟨c :: t, tail, ?_, closes, fun d inside => ?_⟩
        · rw [split, escape_cons, List.append_assoc]
        · rcases List.mem_cons.mp inside with rfl | inside
          · exact breaks
          · exact unbroken d inside
      · exact ih line (List.mem_cons_of_mem _ listed)
    | true =>
      have slash : c ≠ '\\' := fun is => absurd (is ▸ breaks) (by decide)
      have quote : c ≠ '"' := fun is => absurd (is ▸ breaks) (by decide)
      rw [escapeChar_other slash quote, List.singleton_append, lines] at listed
      have ended : line ∈ [] :: (lines (escape text ++ ['"'])).1 :: (lines (escape text ++ ['"'])).2 → IsEscaped line := by
        intro listed
        rcases List.mem_cons.mp listed with rfl | listed
        · exact blank
        · exact ih line listed
      split_ifs at listed with feed ret next
      · exact ended listed
      · exact ih line listed
      · exact ended listed
      · simp [isBreak, feed, ret] at breaks

theorem lines_inQuotes (text : Text) :
    lines (inQuotes text) = ('"' :: (lines (escape text ++ ['"'])).1, (lines (escape text ++ ['"'])).2) :=
  lines_cons rfl

theorem mem_escape {d : Char} (slash : d ≠ '\\') (quote : d ≠ '"') : d ∈ escape text ↔ d ∈ text := by
  rw [escape, List.mem_flatMap]
  have only : ∀ c, d ∈ escapeChar c ↔ d = c := by
    intro c
    unfold escapeChar
    split_ifs with isSlash isQuote
    · simp [slash, isSlash]
    · simp [slash, quote, isQuote]
    · exact List.mem_singleton
  simp only [only, exists_eq_right']

theorem count_escape (text : Text) : (escape text).count '\n' = text.count '\n' := by
  induction text with
  | nil => rfl
  | cons c text ih =>
    have one : (escapeChar c).count '\n' = [c].count '\n' := by
      unfold escapeChar
      split_ifs with slash quote
      · subst slash
        rfl
      · subst quote
        rfl
      · rfl
    rw [escape_cons, List.count_append, one, ih, ← List.count_append, List.singleton_append]

/-- A text with a break in it is not read back in quotes either. -/
theorem readQuoted_broken {more : List Text} (broken : ∃ c ∈ text, isBreak c = true)
    (more_ : more <+: (lines (escape text ++ ['"'])).2) :
    readQuoted (lines (escape text ++ ['"'])).1 more ≠ some (.str text) := by
  intro read
  have escaped : ∀ line ∈ trimEnd (lines (escape text ++ ['"'])).1 :: more.map trim, IsEscaped line := by
    intro line listed
    rcases List.mem_cons.mp listed with rfl | listed
    · exact isEscaped_trimEnd (lines_isEscaped text _ List.mem_cons_self)
    · obtain ⟨whole, listed', rfl⟩ := List.mem_map.mp listed
      have among := lines_isEscaped text whole (List.mem_cons_of_mem _ (more_.subset listed'))
      exact isEscaped_trimEnd (isEscaped_trimStart among)
  unfold readQuoted at read
  cases said : readLines (trimEnd (lines (escape text ++ ['"'])).1 :: more.map trim) with
  | none => simp [said] at read
  | some said_ =>
    obtain ⟨le, unbroken⟩ := readLines_isEscaped escaped said
    rw [said] at read
    cases said_ with
    | nil => cases read
    | cons first others =>
      have same : fold first others = text := Value.str.inj (Option.some.inj read)
      have noReturn : '\r' ∉ text := fun inside =>
        not_mem_fold (fun line listed ret => absurd (unbroken line listed _ ret) (by decide)) (same ▸ inside)
      have noReturn' : '\r' ∉ escape text ++ ['"'] := by
        rw [List.mem_append, mem_escape (by decide) (by decide), not_or]
        exact ⟨noReturn, by decide⟩
      have counted : (lines (escape text ++ ['"'])).2.length = text.count '\n' := by
        rw [length_lines noReturn', List.count_append, count_escape]
        rfl
      have shorter : (fold first others).count '\n' < text.count '\n' := by
        refine count_fold_lt (fun line listed feed => absurd (unbroken line listed _ feed) (by decide))
          (count_of_broken broken noReturn) ?_
        rw [← counted]
        rw [List.length_cons, List.length_cons, List.length_map] at le
        exact (Nat.le_of_succ_le_succ le).trans more_.length_le
      exact absurd (congrArg (List.count '\n') same) (Nat.ne_of_lt shorter)

end Quoted

end Marlinspike.Yaml
