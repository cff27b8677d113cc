import Marlinspike.Decimal
import Marlinspike.Yaml.Scalars

/-!
Streams of YAML 1.2 documents in block style: mappings and sequences by indentation, with scalars
on one line or more. What is not read here (flow collections with something in them, block scalars,
anchors, tags, directives, comments, and collections that begin on the line of a `-`) is refused.

A value that is written in this style, each collection two columns further in, is read back if and
only if each of its texts is that is written in it (`readStream_written`).
-/
namespace Marlinspike.Yaml

/-! ### Reading -/

def indent (line : Text) : Nat := (line.takeWhile (· = ' ')).length

def content (line : Text) : Text := line.dropWhile (· = ' ')

/-- The line of a document's end, or of the next one's beginning. -/
def isMarker (line : Text) : Bool :=
  (line.take 3 = "---".toList || line.take 3 = "...".toList) && (line.drop 3).head?.all isWhite

/-- What follows the indentation is an item of a sequence. -/
def isItem (text : Text) : Bool := text.head? = some '-' && text.tail.head?.all isWhite

/-- The key of an entry, and what follows the colon. -/
def splitKey : Text → Option (Text × Text)
  | [] => none
  | c :: rest =>
    if c = ':' && rest.head?.all isWhite then some ([], rest)
    else (splitKey rest).map fun split => (c :: split.1, split.2)

/-- Keys are texts. -/
def readKey (key : Text) : Option Text :=
  match readPlain key [] with
  | some (.str text) => some text
  | _ => none

/-- The line belongs to a scalar that is indented by more than `k`. -/
def continues (k : Nat) (line : Text) : Bool := isBlank line || k < indent line

mutual
/-- A node on lines of its own, in something that is indented by `k`. -/
def readNode : Nat → Nat → List Text → Option (Value × List Text)
  | 0, _, _ => none
  | _ + 1, _, [] => none
  | fuel + 1, k, line :: rest =>
    if isItem (content line) then
      (readItems fuel (indent line) (line :: rest)).map fun read => (.list read.1, read.2)
    else if (splitKey (content line)).isSome then
      (readEntries fuel (indent line) (line :: rest)).map fun read => (.dict read.1, read.2)
    else
      (readScalar (content line) (rest.takeWhile (continues k))).map fun v => (v, rest.dropWhile (continues k))
termination_by structural fuel => fuel

/-- The value of an item or entry that is indented by `k`, with the text that stands beside it. The
    items of a sequence may be indented as the entry that they belong to. -/
def readValue : Nat → Nat → Bool → Text → List Text → Option (Value × List Text)
  | 0, _, _, _, _ => none
  | fuel + 1, k, inEntry, [], rest =>
    match rest.dropWhile isBlank with
    | [] => some (.null, [])
    | next :: rest =>
      if k < indent next || (inEntry && indent next = k && isItem (content next)) then readNode fuel k (next :: rest)
      else some (.null, next :: rest)
  | _ + 1, k, _, c :: text, rest =>
    (readScalar (c :: text) (rest.takeWhile (continues k))).map fun v => (v, rest.dropWhile (continues k))
termination_by structural fuel => fuel

/-- The items of a sequence that is indented by `k`. -/
def readItems : Nat → Nat → List Text → Option (List Value × List Text)
  | 0, _, _ => none
  | _ + 1, _, [] => some ([], [])
  | fuel + 1, k, line :: rest =>
    if isBlank line then readItems fuel k rest
    else if isMarker line || indent line ≠ k || !isItem (content line) then some ([], line :: rest)
    else
      (readValue fuel k false (trimStart (content line).tail) rest).bind fun item =>
        (readItems fuel k item.2).map fun more => (item.1 :: more.1, more.2)
termination_by structural fuel => fuel

/-- The entries of a mapping that is indented by `k`; no key is there twice. -/
def readEntries : Nat → Nat → List Text → Option (List (Text × Value) × List Text)
  | 0, _, _ => none
  | _ + 1, _, [] => some ([], [])
  | fuel + 1, k, line :: rest =>
    if isBlank line then readEntries fuel k rest
    else if isMarker line || indent line ≠ k then some ([], line :: rest)
    else
      match splitKey (content line) with
      | none => some ([], line :: rest)
      | some (key, text) =>
        (readKey key).bind fun key =>
          (readValue fuel k true (trimStart text) rest).bind fun entry =>
            (readEntries fuel k entry.2).bind fun more =>
              if key ∈ more.1.map Prod.fst then none else some ((key, entry.1) :: more.1, more.2)
termination_by structural fuel => fuel
end

/-- Documents with a `---` between them. -/
def readDocuments : Nat → List Text → Option (List Value)
  | 0, _ => none
  | fuel + 1, lines =>
    match lines.dropWhile isBlank with
    | [] => none
    | first :: others =>
      if isMarker first then none
      else
        (readNode fuel 0 (first :: others)).bind fun node =>
          match node.2.dropWhile isBlank with
          | [] => some [node.1]
          | line :: rest => if trimEnd line = "---".toList then (readDocuments fuel rest).map (node.1 :: ·) else none

/-- The documents of a stream; the first may have its `---` too. -/
def readStream (text : Text) : Option (List Value) :=
  let all := (lines text).1 :: (lines text).2
  let fuel := 4 * all.length + 4
  match all.dropWhile isBlank with
  | [] => some []
  | line :: rest =>
    if trimEnd line = "---".toList then readDocuments fuel rest else readDocuments fuel (line :: rest)

/-! ### Writing -/

/-- `str.join`. -/
def joined (sep : Text) : List Text → Text
  | [] => []
  | [part] => part
  | part :: other :: rest => part ++ (sep ++ joined sep (other :: rest))

theorem joined_append (sep : Text) {left right : List Text} (left_ : left ≠ []) (right_ : right ≠ []) :
    joined sep (left ++ right) = joined sep left ++ (sep ++ joined sep right) := by
  induction left with
  | nil => exact absurd rfl left_
  | cons part rest ih =>
    cases rest with
    | nil =>
      obtain ⟨other, more, rfl⟩ := List.exists_cons_of_ne_nil right_
      rfl
    | cons other rest =>
      rw [List.cons_append, List.cons_append, joined, joined, ← List.cons_append, ih (List.cons_ne_nil _ _)]
      simp

/-- A way to write texts. What is written over several lines is not read back from them. -/
structure Style where
  write : Text → Text
  starts : ∀ t, ∃ c rest, write t = c :: rest ∧ isWhite c = false ∧ isBreak c = false
  ends : ∀ t, (write t).getLast? ≠ some '\r'
  broken : ∀ t more, (∃ c ∈ write t, isBreak c = true) → more <+: (lines (write t)).2 →
    readScalar (lines (write t)).1 more ≠ some (.str t)

/-- A text that is read back. -/
structure Legible (style : Style) (t : Text) : Prop where
  unbroken : ∀ c ∈ style.write t, isBreak c = false
  read : readScalar (style.write t) [] = some (.str t)

def pad (k : Nat) : Text := List.replicate k ' '

def natText (n : Nat) : Text := Decimal.decimal (Decimal.width n) n

def intText : Int → Text
  | .ofNat n => natText n
  | .negSucc n => '-' :: natText (n + 1)

section Writing
variable (style : Style)

/-- What is written of a value beside its key or dash. -/
def inline : Value → Text
  | .null => " null".toList
  | .bool true => " true".toList
  | .bool false => " false".toList
  | .int i => ' ' :: intText i
  | .float written => ' ' :: written
  | .str t => ' ' :: style.write t
  | .list [] => " []".toList
  | .dict [] => " \x7b\x7d".toList
  | .list (_ :: _) | .dict (_ :: _) => []

mutual
/-- What is written of a value below its key or dash. -/
def below : Nat → Value → List Text
  | k, .list items => writeItems (k + 2) items
  | k, .dict entries => writeEntries (k + 2) entries
  | _, _ => []

def writeItems : Nat → List Value → List Text
  | _, [] => []
  | k, v :: rest => (pad k ++ '-' :: inline style v) :: (below k v ++ writeItems k rest)

def writeEntries : Nat → List (Text × Value) → List Text
  | _, [] => []
  | k, (key, v) :: rest => (pad k ++ (key ++ ':' :: inline style v)) :: (below k v ++ writeEntries k rest)
end

end Writing

mutual
/-- The texts of a value; its keys are not among them. -/
def texts : Value → List Text
  | .str t => [t]
  | .list items => textsOfItems items
  | .dict entries => textsOfEntries entries
  | _ => []

def textsOfItems : List Value → List Text
  | [] => []
  | v :: rest => texts v ++ textsOfItems rest

def textsOfEntries : List (Text × Value) → List Text
  | [] => []
  | (_, v) :: rest => texts v ++ textsOfEntries rest
end

def isKeyChar (c : Char) : Bool := c.isAlphanum || c = '_' || c = '.' || c = '|'

/-- A key that needs no quotes. -/
def isKey (key : Text) : Bool := key.head?.any Char.isAlpha && key.all isKeyChar && isText key

mutual
/-- There are no floats, and the keys need no quotes. -/
def isBlock : Value → Bool
  | .float _ => false
  | .list items => areBlocks items
  | .dict entries => areEntries entries && (entries.map Prod.fst).Nodup
  | _ => true

def areBlocks : List Value → Bool
  | [] => true
  | v :: rest => isBlock v && areBlocks rest

def areEntries : List (Text × Value) → Bool
  | [] => true
  | (key, v) :: rest => isKey key && isBlock v && areEntries rest
end

mutual
/-- How often the reader turns for a value. -/
def size : Value → Nat
  | .list items => 2 + sizeOfItems items
  | .dict entries => 2 + sizeOfEntries entries
  | _ => 1

def sizeOfItems : List Value → Nat
  | [] => 1
  | v :: rest => 1 + size v + sizeOfItems rest

def sizeOfEntries : List (Text × Value) → Nat
  | [] => 1
  | (_, v) :: rest => 1 + size v + sizeOfEntries rest
end

/-! ### Integers -/

section Integers

theorem digits_natText (n : Nat) : ∀ c ∈ natText n, c.isDigit = true := fun _ inside => Decimal.isDigit_of_mem_decimal inside

theorem valueOf_natText (n : Nat) : valueOf 10 (natText n) = n := by
  have value := Decimal.value_decimal (Decimal.lt_pow_width n)
  rw [Decimal.value] at value
  refine Eq.trans (List.foldl_ext _ _ _ fun m c inside => ?_) value
  rw [digitValue, if_pos (digits_natText n c inside)]
  rfl

theorem natText_ne_nil (n : Nat) : natText n ≠ [] := by
  intro none_
  have length := Decimal.length_decimal (Decimal.width n) n
  rw [← natText, none_] at length
  exact absurd length (by simp [Decimal.width])

section Digits
variable {digits : Text} (all : ∀ c ∈ digits, c.isDigit = true)
include all

theorem solid_of_digits : ∀ c ∈ digits, isWhite c = false := by
  exact fun c inside => not_white_of rfl rfl (all c inside)

theorem isPlainLine_of_digits : isPlainLine digits = true := by
  refine isPlainLine_of_solid fun c inside => ⟨?_, ?_, solid_of_digits all c inside⟩
  · have bounds := Char.isDigit_iff_toNat.mp (all c inside)
    have low : 32 ≤ c.toNat := le_trans (by decide) bounds.1
    have high : c.toNat ≤ 126 := le_trans bounds.2 (by decide)
    simp [isPrintable, low, high]
  · rintro rfl
    exact absurd (all ':' inside) (by decide)

/-- Digits, with a sign or without, are read as an integer. -/
theorem resolve_of_digits (some_ : digits ≠ []) : resolve digits = .int (valueOf 10 digits) ∧
    resolve ('-' :: digits) = .int (-valueOf 10 digits) := by
  obtain ⟨c, rest, rfl⟩ := List.exists_cons_of_ne_nil some_
  have digit := all c List.mem_cons_self
  have other : ∀ letter, letter.isDigit = false → c ≠ letter := fun letter no is => by
    rw [← is, digit] at no
    cases no
  have same : unsigned (c :: rest) = c :: rest := by
    unfold unsigned
    split
    · next is => exact absurd (List.cons.inj is).1 (other '+' rfl)
    · next is => exact absurd (List.cons.inj is).1 (other '-' rfl)
    · rfl
  have decimal : areDigits (c :: rest) = true := by
    rw [areDigits, List.all_eq_true.mpr all]
    rfl
  constructor
  · simp [resolve, isNull, isTrue, isFalse, isDecimal, same, decimal, other]
  · simp [resolve, isNull, isTrue, isFalse, isDecimal, unsigned, decimal]

end Digits

theorem unbroken_natText (n : Nat) : ∀ c ∈ natText n, isBreak c = false := fun c inside =>
  not_break_of rfl rfl (digits_natText n c inside)

theorem readScalar_intText (i : Int) : readScalar (intText i) [] = some (.int i) := by
  have digits (n : Nat) := digits_natText n
  have number (n : Nat) := resolve_of_digits (digits n) (natText_ne_nil n)
  have head (n : Nat) : ∃ c rest, natText n = c :: rest ∧ c.isDigit = true := by
    obtain ⟨c, rest, shape⟩ := List.exists_cons_of_ne_nil (natText_ne_nil n)
    exact ⟨c, rest, shape, digits n c (shape ▸ List.mem_cons_self)⟩
  cases i with
  | ofNat n =>
    obtain ⟨c, rest, shape, digit⟩ := head n
    have other : ∀ d, d.isDigit = false → (natText n).head? ≠ some d := fun d no is => by
      rw [shape, List.head?_cons, Option.some.injEq] at is
      rw [← is, digit] at no
      cases no
    have starts : startsPlain (natText n) = true := by
      have no : isIndicator c = false := by
        refine Bool.eq_false_iff.mpr fun listed => ?_
        have letters : ∀ d ∈ "-?:,[]\x7b\x7d#&*!|>'\"%@`".toList, d.isDigit = false := none_of_all (by decide)
        exact absurd digit (by simp [letters c (of_decide_eq_true listed)])
      exact shape ▸ startsPlain_of_other no rest
    rw [intText, readScalar_plain (other _ rfl) (other _ rfl) (other _ rfl),
      readPlain_single (trim_of_solid (solid_of_digits (digits n))), starts, isPlainLine_of_digits (digits n),
      (number n).1, valueOf_natText]
    rfl
  | negSucc n =>
    obtain ⟨c, rest, shape, digit⟩ := head (n + 1)
    have solid : ∀ d ∈ '-' :: natText (n + 1), isWhite d = false := by
      intro d inside
      rcases List.mem_cons.mp inside with rfl | inside
      · rfl
      · exact solid_of_digits (digits _) d inside
    have starts : startsPlain ('-' :: natText (n + 1)) = true := by
      have white := solid c (List.mem_cons_of_mem _ (shape ▸ List.mem_cons_self))
      rw [shape]
      simp [startsPlain, white]
    have line : isPlainLine ('-' :: natText (n + 1)) = true := by
      rw [isPlainLine, isPlainLine_of_digits (digits _)]
      rfl
    rw [intText, readScalar_plain (by simp) (by simp) (by simp), readPlain_single (trim_of_solid solid), starts, line,
      (number (n + 1)).2, valueOf_natText]
    rfl

end Integers

/-! ### Single lines -/

theorem isPrintable_of_keyChar {c : Char} (shown : isKeyChar c = true) : isPrintable c = true := by
  have ascii : 32 ≤ c.toNat ∧ c.toNat ≤ 126 := by
    have alpha : c.isAlpha = (c.isUpper || c.isLower) := rfl
    have upper : c.isUpper = decide ('A'.val ≤ c.val ∧ c.val ≤ 'Z'.val) := rfl
    have lower : c.isLower = (decide ('a'.val ≤ c.val) && decide (c.val ≤ 'z'.val)) := rfl
    simp only [isKeyChar, Char.isAlphanum, alpha, upper, lower, Bool.or_eq_true, Bool.and_eq_true,
      decide_eq_true_eq, UInt32.le_iff_toNat_le, Char.isDigit_iff_toNat] at shown
    have value : c.val.toNat = c.toNat := rfl
    rw [value] at shown
    rcases shown with ((((⟨low, high⟩ | ⟨low, high⟩) | ⟨low, high⟩) | rfl) | rfl) | rfl
    all_goals first | exact ⟨le_trans (by decide) low, le_trans high (by decide)⟩ | decide
  simp [isPrintable, ascii.1, ascii.2]

section Layout
variable {k : Nat} {x : Text}

theorem content_pad (solid : x.head? ≠ some ' ') : content (pad k ++ x) = x := by
  have none_ : x.dropWhile (· = ' ') = x := by
    cases x with
    | nil => rfl
    | cons c rest => exact List.dropWhile_cons_of_neg (by simpa using solid)
  rw [content, pad, List.dropWhile_append_of_pos (by simp), none_]

theorem indent_pad (solid : x.head? ≠ some ' ') : indent (pad k ++ x) = k := by
  have none_ : x.takeWhile (· = ' ') = [] := by
    cases x with
    | nil => rfl
    | cons c rest => exact List.takeWhile_cons_of_neg (by simpa using solid)
  rw [indent, pad, List.takeWhile_append_of_pos (by simp), none_, List.append_nil, List.length_replicate]

theorem isBlank_pad {c : Char} (solid : isWhite c = false) (rest : Text) : isBlank (pad k ++ c :: rest) = false := by
  simp [isBlank, solid]

/-- Markers are not indented. -/
theorem indent_of_marker {line : Text} (marker : isMarker line = true) : indent line = 0 := by
  cases line with
  | nil => rfl
  | cons c rest =>
    have solid : c ≠ ' ' := by
      rintro rfl
      simp [isMarker] at marker
    rw [indent, List.takeWhile_cons_of_neg (by simpa using solid)]
    rfl

/-- What stands beside a dash or a colon. -/
def Beside (x : Text) : Prop := x.head?.all isWhite = true

theorem isItem_dash (beside : Beside x) : isItem ('-' :: x) = true := by
  simpa [isItem, Beside] using beside

theorem not_marker_dash (beside : Beside x) : isMarker (pad k ++ '-' :: x) = false := by
  by_contra marker
  rw [Bool.not_eq_false] at marker
  have none_ : k = 0 := (indent_pad (by simp)).symm.trans (indent_of_marker marker)
  subst none_
  cases x with
  | nil => simp [isMarker, pad] at marker
  | cons c rest =>
    have solid : c ≠ '-' := by
      rintro rfl
      simp [Beside, isWhite] at beside
    simp [isMarker, pad, solid] at marker

section Keys
variable {key : Text} (valid : isKey key = true)
include valid

theorem isKeyChar_of_mem {c : Char} (inside : c ∈ key) : isKeyChar c = true := by
  rw [isKey, Bool.and_eq_true, Bool.and_eq_true, List.all_eq_true] at valid
  exact valid.1.2 c inside

theorem ne_of_keyChar {c d : Char} (inside : c ∈ key) (other : isKeyChar d = false) : c ≠ d := by
  rintro rfl
  rw [isKeyChar_of_mem valid inside] at other
  cases other

theorem head_of_key : ∃ c rest, key = c :: rest ∧ c.isAlpha = true := by
  rw [isKey, Bool.and_eq_true, Bool.and_eq_true] at valid
  cases key with
  | nil => exact absurd valid.1.1 (by decide)
  | cons c rest => exact ⟨c, rest, rfl, by simpa using valid.1.1⟩

theorem splitKey_of_key (beside : Beside x) : splitKey (key ++ ':' :: x) = some (key, x) := by
  have colon : ∀ c ∈ key, c ≠ ':' := fun c inside => ne_of_keyChar valid inside (by decide)
  clear valid
  induction key with
  | nil =>
    have ends : (decide (':' = ':') && x.head?.all isWhite) = true := by simpa [Beside] using beside
    rw [List.nil_append, splitKey, if_pos ends]
  | cons c rest ih =>
    have other : ¬ (decide (c = ':') && (rest ++ ':' :: x).head?.all isWhite) = true := by
      simp [colon c List.mem_cons_self]
    rw [List.cons_append, splitKey, if_neg other, ih fun d inside => colon d (List.mem_cons_of_mem c inside)]
    rfl

theorem readKey_of_key : readKey key = some key := by
  obtain ⟨c, rest, shape, letter⟩ := head_of_key valid
  have solid : ∀ d ∈ key, isPrintable d = true ∧ d ≠ ':' ∧ isWhite d = false := by
    intro d inside
    refine ⟨isPrintable_of_keyChar (isKeyChar_of_mem valid inside), ne_of_keyChar valid inside (by decide), ?_⟩
    simp [isWhite, ne_of_keyChar valid inside (rfl : isKeyChar ' ' = false),
      ne_of_keyChar valid inside (rfl : isKeyChar '\t' = false)]
  have starts : startsPlain key = true := by
    have no : isIndicator c = false := by
      refine Bool.eq_false_iff.mpr fun listed => ?_
      have others : ∀ d ∈ "-?:,[]\x7b\x7d#&*!|>'\"%@`".toList, d.isAlpha = false := none_of_all (by decide)
      exact absurd letter (by simp [others c (of_decide_eq_true listed)])
    exact shape ▸ startsPlain_of_other no rest
  have text : isText key = true := by
    rw [isKey, Bool.and_eq_true] at valid
    exact valid.2
  rw [readKey, readPlain_single (trim_of_solid fun d inside => (solid d inside).2.2), starts, isPlainLine_of_solid solid,
    resolve_eq_str_iff.mpr text]
  rfl

/-- A key's line begins with a letter. -/
theorem entry_head (k : Nat) (x : Text) : isBlank (pad k ++ (key ++ ':' :: x)) = false ∧
    isMarker (pad k ++ (key ++ ':' :: x)) = false ∧ indent (pad k ++ (key ++ ':' :: x)) = k ∧
    content (pad k ++ (key ++ ':' :: x)) = key ++ ':' :: x ∧ isItem (key ++ ':' :: x) = false := by
  obtain ⟨c, rest, rfl, letter⟩ := head_of_key valid
  have other : ∀ d, d.isAlpha = false → c ≠ d := fun d no is => by
    rw [← is, letter] at no
    cases no
  have space : (c :: (rest ++ ':' :: x)).head? ≠ some ' ' := by simpa using other ' ' rfl
  have white : isWhite c = false := by simp [isWhite, other ' ' rfl, other '\t' rfl]
  refine ⟨isBlank_pad white _, ?_, indent_pad space, content_pad space, by simp [isItem, other '-' rfl]⟩
  by_contra marker
  rw [Bool.not_eq_false] at marker
  have none_ : k = 0 := (indent_pad space).symm.trans (indent_of_marker marker)
  subst none_
  simp [isMarker, pad, other '-' rfl, other '.' rfl] at marker

end Keys

/-! ### Single steps -/

variable {fuel : Nat} {rest after : List Text}

/-- What follows is indented by no more than `k`, so that it belongs to no scalar. -/
def Ends (k : Nat) (after : List Text) : Prop := ∀ line ∈ after.head?, isBlank line = false ∧ indent line ≤ k

/-- What follows is a marker, or indented by less than `k`. -/
def Stops (k : Nat) (after : List Text) : Prop :=
  ∀ line ∈ after.head?, isBlank line = false ∧ (isMarker line = true ∨ indent line < k)

theorem ends_of_stops (stops : Stops k after) : Ends k after := by
  intro line head
  obtain ⟨text, marker | less⟩ := stops line head
  · exact ⟨text, indent_of_marker marker ▸ Nat.zero_le k⟩
  · exact ⟨text, less.le⟩

theorem stops_of_ends (ends : Ends k after) : Stops (k + 2) after := fun line head =>
  ⟨(ends line head).1, Or.inr (Nat.lt_of_le_of_lt (ends line head).2 (by omega))⟩

/-- The lines that continue a scalar are its own. -/
theorem takeWhile_continues (ends : Ends k after) (own : List Text) :
    (own ++ after).takeWhile (continues k) <+: own := by
  induction own with
  | nil =>
    cases after with
    | nil => exact List.nil_prefix
    | cons line rest =>
      obtain ⟨text, le⟩ := ends line rfl
      have stop : ¬ continues k line = true := by simp [continues, text, le]
      exact ⟨[], congrArg (· ++ []) (List.takeWhile_cons_of_neg stop)⟩
  | cons line own ih =>
    rw [List.cons_append, List.takeWhile_cons]
    cases continues k line with
    | true => exact List.cons_prefix_cons.mpr ⟨rfl, ih⟩
    | false => exact List.nil_prefix

theorem dropWhile_continues (ends : Ends k after) : after.dropWhile (continues k) = after := by
  cases after with
  | nil => rfl
  | cons line rest =>
    obtain ⟨text, le⟩ := ends line rfl
    exact List.dropWhile_cons_of_neg (by simp [continues, text, le])

theorem readItems_stops (stops : Stops k after) : readItems (fuel + 1) k after = some ([], after) := by
  cases after with
  | nil => rfl
  | cons line rest =>
    obtain ⟨text, other⟩ := stops line rfl
    have stop : (isMarker line || indent line ≠ k || !isItem (content line)) = true := by
      rcases other with marker | less
      · simp [marker]
      · simp [less.ne]
    rw [readItems, text, if_neg Bool.false_ne_true, if_pos stop]

theorem readEntries_stops (stops : Stops k after) : readEntries (fuel + 1) k after = some ([], after) := by
  cases after with
  | nil => rfl
  | cons line rest =>
    obtain ⟨text, other⟩ := stops line rfl
    have stop : (isMarker line || indent line ≠ k) = true := by
      rcases other with marker | less
      · simp [marker]
      · simp [less.ne]
    rw [readEntries, text, if_neg Bool.false_ne_true, if_pos stop]

theorem readItems_item (beside : Beside x) : readItems (fuel + 1) k ((pad k ++ '-' :: x) :: rest) =
    (readValue fuel k false (trimStart x) rest).bind fun item =>
      (readItems fuel k item.2).map fun more => (item.1 :: more.1, more.2) := by
  have dash : ('-' :: x).head? ≠ some ' ' := by simp
  have item : isItem (content (pad k ++ '-' :: x)) = true := (content_pad dash).symm ▸ isItem_dash beside
  have goes : ¬ (isMarker (pad k ++ '-' :: x) || indent (pad k ++ '-' :: x) ≠ k ||
      !isItem (content (pad k ++ '-' :: x))) = true := by
    simp [not_marker_dash beside, indent_pad dash, item]
  rw [readItems, isBlank_pad rfl, if_neg Bool.false_ne_true, if_neg goes, content_pad dash, List.tail_cons]

theorem readEntries_entry {key : Text} (valid : isKey key = true) (beside : Beside x) :
    readEntries (fuel + 1) k ((pad k ++ (key ++ ':' :: x)) :: rest) =
      (readValue fuel k true (trimStart x) rest).bind fun entry =>
        (readEntries fuel k entry.2).bind fun more =>
          if key ∈ more.1.map Prod.fst then none else some ((key, entry.1) :: more.1, more.2) := by
  obtain ⟨text, other, indent_, content_, -⟩ := entry_head valid k x
  have goes : ¬ (isMarker (pad k ++ (key ++ ':' :: x)) || indent (pad k ++ (key ++ ':' :: x)) ≠ k) = true := by
    simp [other, indent_]
  rw [readEntries, text, if_neg Bool.false_ne_true, if_neg goes, content_, splitKey_of_key valid beside]
  simp only [readKey_of_key valid, Option.bind_some]

theorem readNode_items (beside : Beside x) (own : Nat) : readNode (fuel + 1) k ((pad own ++ '-' :: x) :: rest) =
    (readItems fuel own ((pad own ++ '-' :: x) :: rest)).map fun read => (.list read.1, read.2) := by
  have dash : ('-' :: x).head? ≠ some ' ' := by simp
  rw [readNode, content_pad dash, if_pos (isItem_dash beside), indent_pad dash]

theorem readNode_entries {key : Text} (valid : isKey key = true) (beside : Beside x) (own : Nat) :
    readNode (fuel + 1) k ((pad own ++ (key ++ ':' :: x)) :: rest) =
      (readEntries fuel own ((pad own ++ (key ++ ':' :: x)) :: rest)).map fun read => (.dict read.1, read.2) := by
  obtain ⟨-, -, indent_, content_, item⟩ := entry_head valid own x
  rw [readNode, content_, item, if_neg Bool.false_ne_true, splitKey_of_key valid beside, indent_]
  rfl

/-- A sequence on the lines below. -/
theorem readValue_items (beside : Beside x) {deeper : Nat} (deep : k < deeper) (inEntry : Bool) :
    readValue (fuel + 2) k inEntry [] ((pad deeper ++ '-' :: x) :: rest) =
      (readItems fuel deeper ((pad deeper ++ '-' :: x) :: rest)).map fun read => (.list read.1, read.2) := by
  have text : isBlank (pad deeper ++ '-' :: x) = false := isBlank_pad rfl x
  have indent_ : indent (pad deeper ++ '-' :: x) = deeper := indent_pad (by simp)
  rw [readValue, List.dropWhile_cons_of_neg (Bool.eq_false_iff.mp text)]
  simp only [indent_, decide_eq_true deep, Bool.true_or, if_true]
  exact readNode_items beside deeper

/-- A mapping on the lines below. -/
theorem readValue_entries {key : Text} (valid : isKey key = true) (beside : Beside x) {deeper : Nat} (deep : k < deeper)
    (inEntry : Bool) : readValue (fuel + 2) k inEntry [] ((pad deeper ++ (key ++ ':' :: x)) :: rest) =
      (readEntries fuel deeper ((pad deeper ++ (key ++ ':' :: x)) :: rest)).map fun read => (.dict read.1, read.2) := by
  obtain ⟨text, -, indent_, -, -⟩ := entry_head valid deeper x
  rw [readValue, List.dropWhile_cons_of_neg (Bool.eq_false_iff.mp text)]
  simp only [indent_, decide_eq_true deep, Bool.true_or, if_true]
  exact readNode_entries valid beside deeper

/-- A scalar with the lines that may continue it. -/
theorem readValue_scalar {c : Char} {text : Text} (inEntry : Bool) : readValue (fuel + 1) k inEntry (c :: text) rest =
    (readScalar (c :: text) (rest.takeWhile (continues k))).map fun v => (v, rest.dropWhile (continues k)) := by
  rw [readValue]

end Layout

/-! ### What is written is read back -/

section Written
variable {style : Style}

/-- What stands beside a key or a dash: nothing, or a scalar or empty collection. -/
theorem inline_cases {v : Value} (block : isBlock v = true) : inline style v = [] ∨
    ∃ c rest, inline style v = ' ' :: c :: rest ∧ isWhite c = false ∧ isBreak c = false := by
  cases v with
  | null => exact Or.inr ⟨_, _, rfl, rfl, rfl⟩
  | bool b => cases b <;> exact Or.inr ⟨_, _, rfl, rfl, rfl⟩
  | int i =>
    refine Or.inr ?_
    cases i with
    | ofNat n =>
      obtain ⟨c, rest, shape⟩ := List.exists_cons_of_ne_nil (natText_ne_nil n)
      have first : c ∈ natText n := shape ▸ List.mem_cons_self
      exact ⟨c, rest, congrArg (' ' :: ·) shape, solid_of_digits (digits_natText n) c first, unbroken_natText n c first⟩
    | negSucc n => exact ⟨_, _, rfl, rfl, rfl⟩
  | float written => cases block
  | str t =>
    obtain ⟨c, rest, shape, white, breaks⟩ := style.starts t
    exact Or.inr ⟨c, rest, congrArg (' ' :: ·) shape, white, breaks⟩
  | list items =>
    cases items with
    | nil => exact Or.inr ⟨_, _, rfl, rfl, rfl⟩
    | cons v rest => exact Or.inl rfl
  | dict entries =>
    cases entries with
    | nil => exact Or.inr ⟨_, _, rfl, rfl, rfl⟩
    | cons entry rest => exact Or.inl rfl

theorem beside_inline {v : Value} (block : isBlock v = true) : Beside (inline style v) := by
  rcases @inline_cases style v block with none_ | ⟨c, rest, shape, -, -⟩
  · rw [none_]
    rfl
  · rw [shape]
    rfl

theorem trimStart_inline {c : Char} (white : isWhite c = false) (rest : Text) : trimStart (' ' :: c :: rest) = c :: rest := by
  rw [trimStart, List.dropWhile_cons_of_pos (by decide), List.dropWhile_cons_of_neg (Bool.eq_false_iff.mp white)]

variable {k : Nat} {after : List Text}

theorem ends_writeItems (stops : Stops k after) (items : List Value) : Ends k (writeItems style k items ++ after) := by
  cases items with
  | nil => exact ends_of_stops stops
  | cons v rest =>
    intro line head
    obtain rfl : pad k ++ '-' :: inline style v = line := by simpa [writeItems] using head
    exact ⟨isBlank_pad rfl _, (indent_pad (by simp)).le⟩

theorem ends_writeEntries (stops : Stops k after) {entries : List (Text × Value)} (valid : areEntries entries = true) :
    Ends k (writeEntries style k entries ++ after) := by
  cases entries with
  | nil => exact ends_of_stops stops
  | cons entry rest =>
    obtain ⟨key, v⟩ := entry
    simp only [areEntries, Bool.and_eq_true] at valid
    intro line head
    obtain rfl : pad k ++ (key ++ ':' :: inline style v) = line := by simpa [writeEntries] using head
    obtain ⟨text, -, indent_, -, -⟩ := entry_head valid.1.1 k (inline style v)
    exact ⟨text, indent_.le⟩

/-- A scalar on the line. -/
theorem readValue_single {v : Value} {c : Char} {rest : Text} (shape : inline style v = ' ' :: c :: rest)
    (white : isWhite c = false) (read : readScalar (c :: rest) [] = some v) {fuel : Nat} (enough : 1 ≤ fuel)
    (ends : Ends k after) (inEntry : Bool) :
    readValue fuel k inEntry (trimStart (inline style v)) after = some (v, after) := by
  obtain ⟨fuel, rfl⟩ := Nat.exists_eq_add_of_le' enough
  have none_ : after.takeWhile (continues k) = [] := List.prefix_nil.mp (takeWhile_continues ends [])
  rw [shape, trimStart_inline white, readValue_scalar, none_, read, dropWhile_continues ends]
  rfl

mutual
theorem readValue_written (v : Value) (block : isBlock v = true) (legible : ∀ t ∈ texts v, Legible style t) {fuel k : Nat}
    {after : List Text} (enough : size v ≤ fuel) (ends : Ends k after) (inEntry : Bool) :
    readValue fuel k inEntry (trimStart (inline style v)) (below style k v ++ after) = some (v, after) := by
  match v with
  | .null => exact readValue_single rfl rfl rfl enough ends inEntry
  | .bool true => exact readValue_single rfl rfl rfl enough ends inEntry
  | .bool false => exact readValue_single rfl rfl rfl enough ends inEntry
  | .int i =>
    obtain none_ | ⟨c, rest, shape, white, -⟩ := @inline_cases style _ block
    · cases none_
    · have text : intText i = c :: rest := (List.cons.inj shape).2
      exact readValue_single shape white (text ▸ readScalar_intText i) enough ends inEntry
  | .float written => cases block
  | .str t =>
    obtain ⟨c, rest, shape, white, -⟩ := style.starts t
    have read := (legible t List.mem_cons_self).read
    have beside : inline style (.str t) = ' ' :: c :: rest := congrArg (' ' :: ·) shape
    exact readValue_single beside white (shape ▸ read) enough ends inEntry
  | .list [] => exact readValue_single rfl rfl rfl (le_trans (by decide) enough) ends inEntry
  | .dict [] => exact readValue_single rfl rfl rfl (le_trans (by decide) enough) ends inEntry
  | .list (item :: rest) =>
    obtain ⟨fuel, rfl⟩ := Nat.exists_eq_add_of_le' (le_trans (Nat.le_add_right 2 _) enough)
    have items := readItems_written (item :: rest) block legible (Nat.le_of_add_le_add_left (Nat.add_comm fuel 2 ▸ enough))
      (stops_of_ends ends)
    simp only [areBlocks, isBlock, Bool.and_eq_true] at block
    rw [below, writeItems, List.cons_append] at *
    exact (readValue_items (beside_inline block.1) (by omega) inEntry).trans (by rw [items]; rfl)
  | .dict ((key, v) :: rest) =>
    obtain ⟨fuel, rfl⟩ := Nat.exists_eq_add_of_le' (le_trans (Nat.le_add_right 2 _) enough)
    rw [isBlock, Bool.and_eq_true, decide_eq_true_eq] at block
    have entries := readEntries_written ((key, v) :: rest) block.1 block.2 legible
      (Nat.le_of_add_le_add_left (Nat.add_comm fuel 2 ▸ enough)) (stops_of_ends ends)
    simp only [areEntries, Bool.and_eq_true] at block
    rw [below, writeEntries, List.cons_append] at *
    exact (readValue_entries block.1.1.1 (beside_inline block.1.1.2) (by omega) inEntry).trans (by rw [entries]; rfl)

theorem readItems_written (items : List Value) (blocks : areBlocks items = true)
    (legible : ∀ t ∈ textsOfItems items, Legible style t) {fuel k : Nat} {after : List Text}
    (enough : sizeOfItems items ≤ fuel) (stops : Stops k after) :
    readItems fuel k (writeItems style k items ++ after) = some (items, after) := by
  match items with
  | [] =>
    obtain ⟨fuel, rfl⟩ := Nat.exists_eq_add_of_le' enough
    exact readItems_stops stops
  | v :: rest =>
    rw [areBlocks, Bool.and_eq_true] at blocks
    rw [sizeOfItems] at enough
    obtain ⟨fuel, rfl⟩ := Nat.exists_eq_add_of_le' (show 1 ≤ fuel by omega)
    have first := readValue_written v blocks.1 (fun t inside => legible t (List.mem_append_left _ inside))
      (show size v ≤ fuel by omega) (@ends_writeItems style _ _ stops rest) false
    have later := readItems_written rest blocks.2 (fun t inside => legible t (List.mem_append_right _ inside))
      (show sizeOfItems rest ≤ fuel by omega) stops
    rw [writeItems, List.cons_append, List.append_assoc, readItems_item (beside_inline blocks.1), first, Option.bind_some,
      later]
    rfl

theorem readEntries_written (entries : List (Text × Value)) (blocks : areEntries entries = true)
    (nodup : (entries.map Prod.fst).Nodup) (legible : ∀ t ∈ textsOfEntries entries, Legible style t) {fuel k : Nat}
    {after : List Text} (enough : sizeOfEntries entries ≤ fuel) (stops : Stops k after) :
    readEntries fuel k (writeEntries style k entries ++ after) = some (entries, after) := by
  match entries with
  | [] =>
    obtain ⟨fuel, rfl⟩ := Nat.exists_eq_add_of_le' enough
    exact readEntries_stops stops
  | (key, v) :: rest =>
    rw [areEntries, Bool.and_eq_true, Bool.and_eq_true] at blocks
    rw [sizeOfEntries] at enough
    rw [List.map_cons, List.nodup_cons] at nodup
    obtain ⟨fuel, rfl⟩ := Nat.exists_eq_add_of_le' (show 1 ≤ fuel by omega)
    have first := readValue_written v blocks.1.2 (fun t inside => legible t (List.mem_append_left _ inside))
      (show size v ≤ fuel by omega) (@ends_writeEntries style _ _ stops _ blocks.2) true
    have later := readEntries_written rest blocks.2 nodup.2 (fun t inside => legible t (List.mem_append_right _ inside))
      (show sizeOfEntries rest ≤ fuel by omega) stops
    rw [writeEntries, List.cons_append, List.append_assoc, readEntries_entry blocks.1.1 (beside_inline blocks.1.2), first,
      Option.bind_some, later, Option.bind_some, if_neg nodup.1]
end

/-! ### What is read back is legible -/

/-- Written lines that may have breaks in them, as the lines that are read. -/
def linesOf (written : List Text) : List Text := written.flatMap fun line => (lines line).1 :: (lines line).2

theorem lines_unbroken_append {front : Text} (unbroken : ∀ c ∈ front, isBreak c = false) (text : Text) :
    lines (front ++ text) = (front ++ (lines text).1, (lines text).2) := by
  induction front with
  | nil => rfl
  | cons c front ih =>
    rw [List.cons_append, lines_cons (unbroken c List.mem_cons_self),
      ih fun d inside => unbroken d (List.mem_cons_of_mem c inside), List.cons_append]

theorem unbroken_pad (k : Nat) : ∀ c ∈ pad k, isBreak c = false := fun _ inside => List.eq_of_mem_replicate inside ▸ rfl

theorem unbroken_key {key : Text} (valid : isKey key = true) : ∀ c ∈ key, isBreak c = false := fun _ inside => by
  simp [isBreak, ne_of_keyChar valid inside (rfl : isKeyChar '\n' = false),
    ne_of_keyChar valid inside (rfl : isKeyChar '\r' = false)]

theorem lines_item (k : Nat) (x : Text) : lines (pad k ++ '-' :: x) = (pad k ++ '-' :: (lines x).1, (lines x).2) := by
  rw [lines_unbroken_append (unbroken_pad k), lines_cons rfl]

theorem lines_entry {key : Text} (valid : isKey key = true) (k : Nat) (x : Text) :
    lines (pad k ++ (key ++ ':' :: x)) = (pad k ++ (key ++ ':' :: (lines x).1), (lines x).2) := by
  rw [lines_unbroken_append (unbroken_pad k), lines_unbroken_append (unbroken_key valid), lines_cons rfl]

theorem beside_lines {v : Value} (block : isBlock v = true) : Beside (lines (inline style v)).1 := by
  rcases @inline_cases style v block with none_ | ⟨c, rest, shape, -, -⟩
  · rw [none_]
    rfl
  · rw [shape, lines_cons rfl]
    rfl

theorem linesOf_writeItems (v : Value) (rest : List Value) (after : List Text) :
    linesOf (writeItems style k (v :: rest)) ++ after = (pad k ++ '-' :: (lines (inline style v)).1) ::
      ((lines (inline style v)).2 ++ (linesOf (below style k v) ++ (linesOf (writeItems style k rest) ++ after))) := by
  simp [linesOf, writeItems, lines_item]

theorem linesOf_writeEntries {key : Text} (valid : isKey key = true) (v : Value) (rest : List (Text × Value))
    (after : List Text) :
    linesOf (writeEntries style k ((key, v) :: rest)) ++ after = (pad k ++ (key ++ ':' :: (lines (inline style v)).1)) ::
      ((lines (inline style v)).2 ++ (linesOf (below style k v) ++ (linesOf (writeEntries style k rest) ++ after))) := by
  simp [linesOf, writeEntries, lines_entry valid]

theorem ends_linesOf_writeItems (stops : Stops k after) (items : List Value) :
    Ends k (linesOf (writeItems style k items) ++ after) := by
  cases items with
  | nil => exact ends_of_stops stops
  | cons v rest =>
    rw [linesOf_writeItems]
    intro line head
    obtain rfl := Option.some.inj head
    exact ⟨isBlank_pad rfl _, (indent_pad (by simp)).le⟩

theorem ends_linesOf_writeEntries (stops : Stops k after) {entries : List (Text × Value)}
    (valid : areEntries entries = true) : Ends k (linesOf (writeEntries style k entries) ++ after) := by
  cases entries with
  | nil => exact ends_of_stops stops
  | cons entry rest =>
    obtain ⟨key, v⟩ := entry
    simp only [areEntries, Bool.and_eq_true] at valid
    rw [linesOf_writeEntries valid.1.1]
    intro line head
    obtain rfl := Option.some.inj head
    obtain ⟨text, -, indent_, -, -⟩ := entry_head valid.1.1 k (lines (inline style v)).1
    exact ⟨text, indent_.le⟩

/-- A value whose texts are legible is written without breaks. -/
theorem unbroken_inline {v : Value} (block : isBlock v = true) (legible : ∀ t ∈ texts v, Legible style t) :
    ∀ c ∈ inline style v, isBreak c = false := by
  match v with
  | .null => exact none_of_all rfl
  | .bool true => exact none_of_all rfl
  | .bool false => exact none_of_all rfl
  | .int (.ofNat n) => exact List.forall_mem_cons.mpr ⟨rfl, unbroken_natText n⟩
  | .int (.negSucc n) => exact List.forall_mem_cons.mpr ⟨rfl, List.forall_mem_cons.mpr ⟨rfl, unbroken_natText (n + 1)⟩⟩
  | .float _ => cases block
  | .str t => exact List.forall_mem_cons.mpr ⟨rfl, (legible t List.mem_cons_self).unbroken⟩
  | .list [] => exact none_of_all rfl
  | .dict [] => exact none_of_all rfl
  | .list (_ :: _) => exact fun _ inside => nomatch inside
  | .dict (_ :: _) => exact fun _ inside => nomatch inside

mutual
theorem linesOf_below (v : Value) (block : isBlock v = true) (legible : ∀ t ∈ texts v, Legible style t) (k : Nat) :
    linesOf (below style k v) = below style k v := by
  match v with
  | .null | .bool _ | .int _ | .float _ | .str _ => rfl
  | .list items => exact linesOf_items items block legible (k + 2)
  | .dict entries =>
    rw [isBlock, Bool.and_eq_true] at block
    exact linesOf_entries entries block.1 legible (k + 2)

theorem linesOf_items (items : List Value) (blocks : areBlocks items = true)
    (legible : ∀ t ∈ textsOfItems items, Legible style t) (k : Nat) :
    linesOf (writeItems style k items) = writeItems style k items := by
  match items with
  | [] => rfl
  | v :: rest =>
    rw [areBlocks, Bool.and_eq_true] at blocks
    have own : ∀ t ∈ texts v, Legible style t := fun t inside => legible t (List.mem_append_left _ inside)
    have whole := @linesOf_writeItems style k v rest []
    rw [List.append_nil, List.append_nil, lines_unbroken (unbroken_inline blocks.1 own), linesOf_below v blocks.1 own,
      linesOf_items rest blocks.2 (fun t inside => legible t (List.mem_append_right _ inside))] at whole
    exact whole

theorem linesOf_entries (entries : List (Text × Value)) (blocks : areEntries entries = true)
    (legible : ∀ t ∈ textsOfEntries entries, Legible style t) (k : Nat) :
    linesOf (writeEntries style k entries) = writeEntries style k entries := by
  match entries with
  | [] => rfl
  | (key, v) :: rest =>
    rw [areEntries, Bool.and_eq_true, Bool.and_eq_true] at blocks
    have own : ∀ t ∈ texts v, Legible style t := fun t inside => legible t (List.mem_append_left _ inside)
    have whole := @linesOf_writeEntries style k _ blocks.1.1 v rest []
    rw [List.append_nil, List.append_nil, lines_unbroken (unbroken_inline blocks.1.2 own), linesOf_below v blocks.1.2 own,
      linesOf_entries rest blocks.2 (fun t inside => legible t (List.mem_append_right _ inside))] at whole
    exact whole
end

/-- A text beside its key or dash. -/
theorem legible_of_read {t : Text} {fuel : Nat} {inEntry : Bool} {r : List Text} (enough : 1 ≤ fuel) (ends : Ends k after)
    (read : readValue fuel k inEntry (trimStart (lines (inline style (.str t))).1) ((lines (inline style (.str t))).2 ++ after) =
      some (.str t, r)) : Legible style t := by
  obtain ⟨fuel, rfl⟩ := Nat.exists_eq_add_of_le' enough
  obtain ⟨c, rest, shape, white, breaks⟩ := style.starts t
  have written : lines (style.write t) = (c :: (lines rest).1, (lines rest).2) := shape ▸ lines_cons breaks
  have beside : lines (inline style (.str t)) = (' ' :: c :: (lines rest).1, (lines rest).2) := by
    exact (lines_cons rfl).trans (by rw [written])
  rw [beside, trimStart_inline white, readValue_scalar] at read
  obtain ⟨v, scalar, same⟩ := Option.map_eq_some_iff.mp read
  obtain rfl : v = .str t := (Prod.mk.inj same).1
  by_cases broken : ∃ c ∈ style.write t, isBreak c = true
  · have own : ((lines rest).2 ++ after).takeWhile (continues k) <+: (lines (style.write t)).2 := by
      rw [written]
      exact takeWhile_continues ends _
    have never := style.broken t _ broken own
    rw [written] at never
    exact absurd scalar never
  · have unbroken : ∀ d ∈ style.write t, isBreak d = false := fun d inside =>
      Bool.eq_false_iff.mpr fun breaks => broken ⟨d, inside, breaks⟩
    have whole := written.symm.trans (lines_unbroken unbroken)
    obtain ⟨first, none_⟩ := Prod.mk.inj whole
    have own : ((lines rest).2 ++ after).takeWhile (continues k) = [] := by
      rw [none_]
      exact List.prefix_nil.mp (takeWhile_continues ends [])
    rw [first, own] at scalar
    exact ⟨unbroken, scalar⟩

mutual
theorem legible_of_readValue (v : Value) (block : isBlock v = true) {fuel k : Nat} {after r : List Text} {inEntry : Bool}
    (enough : size v ≤ fuel) (ends : Ends k after)
    (read : readValue fuel k inEntry (trimStart (lines (inline style v)).1)
      ((lines (inline style v)).2 ++ (linesOf (below style k v) ++ after)) = some (v, r)) :
    ∀ t ∈ texts v, Legible style t := by
  match v with
  | .null | .bool _ | .int _ | .float _ => exact fun _ inside => nomatch inside
  | .str t => exact fun _ inside => List.mem_singleton.mp inside ▸ legible_of_read enough ends read
  | .list [] => exact fun _ inside => nomatch inside
  | .dict [] => exact fun _ inside => nomatch inside
  | .list (item :: rest) =>
    obtain ⟨fuel, rfl⟩ := Nat.exists_eq_add_of_le' (le_trans (Nat.le_add_right 2 _) enough)
    have first : isBlock item = true := by
      rw [isBlock, areBlocks, Bool.and_eq_true] at block
      exact block.1
    rw [below, linesOf_writeItems] at read
    have node := (readValue_items (beside_lines first) (by omega) inEntry).symm.trans read
    rw [← linesOf_writeItems] at node
    obtain ⟨⟨items, r'⟩, read, same⟩ := Option.map_eq_some_iff.mp node
    obtain rfl : items = item :: rest := Value.list.inj (Prod.mk.inj same).1
    exact legible_of_readItems (item :: rest) block (Nat.le_of_add_le_add_left (Nat.add_comm fuel 2 ▸ enough))
      (stops_of_ends ends) read
  | .dict ((key, v) :: rest) =>
    obtain ⟨fuel, rfl⟩ := Nat.exists_eq_add_of_le' (le_trans (Nat.le_add_right 2 _) enough)
    rw [isBlock, Bool.and_eq_true] at block
    have first : isKey key = true ∧ isBlock v = true := by
      rw [areEntries, Bool.and_eq_true, Bool.and_eq_true] at block
      exact block.1.1
    rw [below, linesOf_writeEntries first.1] at read
    have node := (readValue_entries first.1 (beside_lines first.2) (by omega) inEntry).symm.trans read
    rw [← linesOf_writeEntries first.1] at node
    obtain ⟨⟨entries, r'⟩, read, same⟩ := Option.map_eq_some_iff.mp node
    obtain rfl : entries = (key, v) :: rest := Value.dict.inj (Prod.mk.inj same).1
    exact legible_of_readEntries ((key, v) :: rest) block.1 (Nat.le_of_add_le_add_left (Nat.add_comm fuel 2 ▸ enough))
      (stops_of_ends ends) read

theorem legible_of_readItems (items : List Value) (blocks : areBlocks items = true) {fuel k : Nat} {after r : List Text}
    (enough : sizeOfItems items ≤ fuel) (stops : Stops k after)
    (read : readItems fuel k (linesOf (writeItems style k items) ++ after) = some (items, r)) :
    ∀ t ∈ textsOfItems items, Legible style t := by
  match items with
  | [] => exact fun _ inside => nomatch inside
  | v :: rest =>
    rw [areBlocks, Bool.and_eq_true] at blocks
    rw [sizeOfItems] at enough
    obtain ⟨fuel, rfl⟩ := Nat.exists_eq_add_of_le' (show 1 ≤ fuel by omega)
    have ends := @ends_linesOf_writeItems style _ _ stops rest
    rw [linesOf_writeItems, readItems_item (beside_lines blocks.1), Option.bind_eq_some_iff] at read
    obtain ⟨⟨v', r'⟩, first, read⟩ := read
    obtain ⟨⟨rest', r''⟩, later, same⟩ := Option.map_eq_some_iff.mp read
    obtain ⟨rfl, rfl⟩ : v = v' ∧ rest = rest' := List.cons.inj (Prod.mk.inj same).1.symm
    have own := legible_of_readValue v blocks.1 (show size v ≤ fuel by omega) ends first
    have written := readValue_written v blocks.1 own (show size v ≤ fuel by omega) ends false
    rw [lines_unbroken (unbroken_inline blocks.1 own), linesOf_below v blocks.1 own, List.nil_append, written] at first
    obtain rfl := (Prod.mk.inj (Option.some.inj first)).2
    have others := legible_of_readItems rest blocks.2 (show sizeOfItems rest ≤ fuel by omega) stops later
    exact fun t inside => (List.mem_append.mp inside).elim (own t) (others t)

theorem legible_of_readEntries (entries : List (Text × Value)) (blocks : areEntries entries = true) {fuel k : Nat}
    {after r : List Text} (enough : sizeOfEntries entries ≤ fuel) (stops : Stops k after)
    (read : readEntries fuel k (linesOf (writeEntries style k entries) ++ after) = some (entries, r)) :
    ∀ t ∈ textsOfEntries entries, Legible style t := by
  match entries with
  | [] => exact fun _ inside => nomatch inside
  | (key, v) :: rest =>
    rw [areEntries, Bool.and_eq_true, Bool.and_eq_true] at blocks
    rw [sizeOfEntries] at enough
    obtain ⟨fuel, rfl⟩ := Nat.exists_eq_add_of_le' (show 1 ≤ fuel by omega)
    have ends := @ends_linesOf_writeEntries style _ _ stops _ blocks.2
    rw [linesOf_writeEntries blocks.1.1, readEntries_entry blocks.1.1 (beside_lines blocks.1.2),
      Option.bind_eq_some_iff] at read
    obtain ⟨⟨v', r'⟩, first, read⟩ := read
    obtain ⟨⟨rest', r''⟩, later, same⟩ := Option.bind_eq_some_iff.mp read
    split_ifs at same
    obtain ⟨entry, rfl⟩ : (key, v) = (key, v') ∧ rest = rest' :=
      List.cons.inj (Prod.mk.inj (Option.some.inj same)).1.symm
    obtain rfl : v = v' := (Prod.mk.inj entry).2
    have own := legible_of_readValue v blocks.1.2 (show size v ≤ fuel by omega) ends first
    have written := readValue_written v blocks.1.2 own (show size v ≤ fuel by omega) ends true
    rw [lines_unbroken (unbroken_inline blocks.1.2 own), linesOf_below v blocks.1.2 own, List.nil_append, written] at first
    obtain rfl := (Prod.mk.inj (Option.some.inj first)).2
    have others := legible_of_readEntries rest blocks.2 (show sizeOfEntries rest ≤ fuel by omega) stops later
    exact fun t inside => (List.mem_append.mp inside).elim (own t) (others t)
end

end Written

/-! ### Documents -/

section Documents
variable (style : Style)

/-- The lines of a document. -/
def document : Value → List Text
  | .list items => writeItems style 0 items
  | .dict entries => writeEntries style 0 entries
  | _ => []

/-- The lines of a stream. -/
def stream : List Value → List Text
  | [] => []
  | [v] => document style v
  | v :: w :: rest => document style v ++ "---".toList :: stream (w :: rest)

def isFilled : Value → Bool
  | .list items => !items.isEmpty
  | .dict entries => !entries.isEmpty
  | _ => false

/-- A value that a document can hold. -/
def isRoot (v : Value) : Bool := isBlock v && isFilled v

variable {style}

/-- The first line of a document. -/
theorem document_head {v : Value} (root : isRoot v = true) : ∃ first rest, document style v = first :: rest ∧
    isBlank (lines first).1 = false ∧ isMarker (lines first).1 = false := by
  rw [isRoot, Bool.and_eq_true] at root
  match v with
  | .list (item :: rest) =>
    have block := root.1
    rw [isBlock, areBlocks, Bool.and_eq_true] at block
    refine ⟨_, _, rfl, ?_⟩
    rw [lines_item]
    exact ⟨isBlank_pad rfl _, not_marker_dash (beside_lines block.1)⟩
  | .dict ((key, v) :: rest) =>
    have block := root.1
    rw [isBlock, areEntries, Bool.and_eq_true, Bool.and_eq_true, Bool.and_eq_true] at block
    refine ⟨_, _, rfl, ?_⟩
    rw [lines_entry block.1.1.1]
    obtain ⟨text, marker, -⟩ := entry_head block.1.1.1 0 (lines (inline style v)).1
    exact ⟨text, marker⟩
  | .list [] | .dict [] | .null | .bool _ | .int _ | .float _ | .str _ => exact absurd root.2 Bool.false_ne_true

theorem linesOf_document {v : Value} (block : isBlock v = true) (legible : ∀ t ∈ texts v, Legible style t) :
    linesOf (document style v) = document style v := by
  match v with
  | .list items => exact linesOf_items items block legible 0
  | .dict entries =>
    rw [isBlock, Bool.and_eq_true] at block
    exact linesOf_entries entries block.1 legible 0
  | .null | .bool _ | .int _ | .float _ | .str _ => rfl

theorem readNode_document {v : Value} (root : isRoot v = true) (legible : ∀ t ∈ texts v, Legible style t) {fuel : Nat}
    {after : List Text} (enough : size v ≤ fuel) (stops : Stops 0 after) :
    readNode fuel 0 (document style v ++ after) = some (v, after) := by
  rw [isRoot, Bool.and_eq_true] at root
  match v with
  | .list (item :: rest) =>
    obtain ⟨fuel, rfl⟩ := Nat.exists_eq_add_of_le' (le_trans (by decide) (le_trans (Nat.le_add_right 2 _) enough) : 1 ≤ fuel)
    have block := root.1
    have items := @readItems_written style (item :: rest) block legible fuel 0 after
      (by rw [size] at enough; omega) stops
    rw [isBlock, areBlocks, Bool.and_eq_true] at block
    rw [document, writeItems, List.cons_append] at *
    exact (readNode_items (beside_inline block.1) 0).trans (by rw [items]; rfl)
  | .dict ((key, v) :: rest) =>
    obtain ⟨fuel, rfl⟩ := Nat.exists_eq_add_of_le' (le_trans (by decide) (le_trans (Nat.le_add_right 2 _) enough) : 1 ≤ fuel)
    have block := root.1
    rw [isBlock, Bool.and_eq_true, decide_eq_true_eq] at block
    have entries := @readEntries_written style ((key, v) :: rest) block.1 block.2 legible fuel 0 after
      (by rw [size] at enough; omega) stops
    rw [areEntries, Bool.and_eq_true, Bool.and_eq_true] at block
    rw [document, writeEntries, List.cons_append] at *
    exact (readNode_entries block.1.1.1 (beside_inline block.1.1.2) 0).trans (by rw [entries]; rfl)
  | .list [] | .dict [] | .null | .bool _ | .int _ | .float _ | .str _ => exact absurd root.2 Bool.false_ne_true

theorem legible_of_readNode {v : Value} (root : isRoot v = true) {fuel : Nat} {after r : List Text} (enough : size v ≤ fuel)
    (stops : Stops 0 after) (read : readNode fuel 0 (linesOf (document style v) ++ after) = some (v, r)) :
    ∀ t ∈ texts v, Legible style t := by
  rw [isRoot, Bool.and_eq_true] at root
  match v with
  | .list (item :: rest) =>
    obtain ⟨fuel, rfl⟩ := Nat.exists_eq_add_of_le' (le_trans (by decide) (le_trans (Nat.le_add_right 2 _) enough) : 1 ≤ fuel)
    have block := root.1
    rw [isBlock, areBlocks, Bool.and_eq_true] at block
    rw [document, linesOf_writeItems] at read
    have node := (readNode_items (beside_lines block.1) 0).symm.trans read
    rw [← linesOf_writeItems] at node
    obtain ⟨⟨items, r'⟩, read, same⟩ := Option.map_eq_some_iff.mp node
    obtain rfl : items = item :: rest := Value.list.inj (Prod.mk.inj same).1
    exact legible_of_readItems (item :: rest) root.1 (by rw [size] at enough; omega) stops read
  | .dict ((key, v) :: rest) =>
    obtain ⟨fuel, rfl⟩ := Nat.exists_eq_add_of_le' (le_trans (by decide) (le_trans (Nat.le_add_right 2 _) enough) : 1 ≤ fuel)
    have block := root.1
    rw [isBlock, Bool.and_eq_true] at block
    have first : isKey key = true ∧ isBlock v = true := by
      rw [areEntries, Bool.and_eq_true, Bool.and_eq_true] at block
      exact block.1.1
    rw [document, linesOf_writeEntries first.1] at read
    have node := (readNode_entries first.1 (beside_lines first.2) 0).symm.trans read
    rw [← linesOf_writeEntries first.1] at node
    obtain ⟨⟨entries, r'⟩, read, same⟩ := Option.map_eq_some_iff.mp node
    obtain rfl : entries = (key, v) :: rest := Value.dict.inj (Prod.mk.inj same).1
    exact legible_of_readEntries ((key, v) :: rest) block.1 (by rw [size] at enough; omega) stops read
  | .list [] | .dict [] | .null | .bool _ | .int _ | .float _ | .str _ => exact absurd root.2 Bool.false_ne_true

mutual
theorem size_le (style : Style) (v : Value) (k : Nat) : size v ≤ 4 * (below style k v).length + 3 := by
  match v with
  | .null | .bool _ | .int _ | .float _ | .str _ => exact Nat.succ_le_succ (Nat.zero_le _)
  | .list items =>
    have := sizeOfItems_le style items (k + 2)
    rw [size, below]
    omega
  | .dict entries =>
    have := sizeOfEntries_le style entries (k + 2)
    rw [size, below]
    omega

theorem sizeOfItems_le (style : Style) (items : List Value) (k : Nat) :
    sizeOfItems items ≤ 4 * (writeItems style k items).length + 1 := by
  match items with
  | [] => exact Nat.le_add_left 1 _
  | v :: rest =>
    have own := size_le style v k
    have others := sizeOfItems_le style rest k
    rw [sizeOfItems, writeItems, List.length_cons, List.length_append]
    omega

theorem sizeOfEntries_le (style : Style) (entries : List (Text × Value)) (k : Nat) :
    sizeOfEntries entries ≤ 4 * (writeEntries style k entries).length + 1 := by
  match entries with
  | [] => exact Nat.le_add_left 1 _
  | (key, v) :: rest =>
    have own := size_le style v k
    have others := sizeOfEntries_le style rest k
    rw [sizeOfEntries, writeEntries, List.length_cons, List.length_append]
    omega
end

/-- How long the reader takes for a document. -/
theorem size_le_document (v : Value) : size v ≤ 4 * (document style v).length + 3 := by
  match v with
  | .null | .bool _ | .int _ | .float _ | .str _ => exact Nat.succ_le_succ (Nat.zero_le _)
  | .list items =>
    have := sizeOfItems_le style items 0
    rw [size, document]
    omega
  | .dict entries =>
    have := sizeOfEntries_le style entries 0
    rw [size, document]
    omega

theorem stops_nil : Stops 0 [] := fun _ head => nomatch head

theorem stops_marker (rest : List Text) : Stops 0 ("---".toList :: rest) := fun _ head =>
  Option.some.inj head ▸ ⟨by decide, Or.inl (by decide)⟩

/-- One document of a stream, and what is read after it. -/
theorem readDocuments_first {lines : List Text} {fuel : Nat} {v : Value} (root : isRoot v = true) {after : List Text}
    (shape : lines = linesOf (document style v) ++ after) : readDocuments (fuel + 1) lines =
      (readNode fuel 0 lines).bind fun node =>
        match node.2.dropWhile isBlank with
        | [] => some [node.1]
        | line :: rest => if trimEnd line = "---".toList then (readDocuments fuel rest).map (node.1 :: ·) else none := by
  obtain ⟨first, rest, document_, text, marker⟩ := @document_head style v root
  have head : lines = (Yaml.lines first).1 :: ((Yaml.lines first).2 ++ (linesOf rest ++ after)) := by
    rw [shape, document_]
    simp [linesOf]
  rw [readDocuments, head, List.dropWhile_cons_of_neg (Bool.eq_false_iff.mp text)]
  simp only [marker, Bool.false_eq_true, if_false]

theorem readDocuments_written {docs : List Value} (some_ : docs ≠ []) (roots : ∀ v ∈ docs, isRoot v = true)
    (legible : ∀ v ∈ docs, ∀ t ∈ texts v, Legible style t) {fuel : Nat} (enough : ∀ v ∈ docs, size v + docs.length ≤ fuel) :
    readDocuments fuel (linesOf (stream style docs)) = some docs := by
  induction docs generalizing fuel with
  | nil => exact absurd rfl some_
  | cons v rest ih =>
    have root := roots v List.mem_cons_self
    have own := legible v List.mem_cons_self
    have size_ := enough v List.mem_cons_self
    rw [List.length_cons] at size_
    obtain ⟨fuel, rfl⟩ := Nat.exists_eq_add_of_le' (show 1 ≤ fuel by omega)
    have block : isBlock v = true := ((Bool.and_eq_true _ _).mp root).1
    cases rest with
    | nil =>
      have shape : linesOf (stream style [v]) = linesOf (document style v) ++ [] := (List.append_nil _).symm
      have node := readNode_document root own (show size v ≤ fuel by omega) stops_nil
      rw [readDocuments_first root shape, shape, linesOf_document block own, node]
      rfl
    | cons w rest =>
      have shape : linesOf (stream style (v :: w :: rest)) =
          linesOf (document style v) ++ ("---".toList :: linesOf (stream style (w :: rest))) := by
        rw [stream, linesOf, List.flatMap_append, List.flatMap_cons]
        rfl
      have node := readNode_document root own (show size v ≤ fuel by omega)
        (stops_marker (linesOf (stream style (w :: rest))))
      have enough' : ∀ u ∈ w :: rest, size u + (w :: rest).length ≤ fuel := fun u listed => by
        have := enough u (List.mem_cons_of_mem _ listed)
        rw [List.length_cons] at this
        omega
      have others := ih (List.cons_ne_nil _ _) (fun u listed => roots u (List.mem_cons_of_mem _ listed))
        (fun u listed => legible u (List.mem_cons_of_mem _ listed)) enough'
      rw [readDocuments_first root shape, shape, linesOf_document block own, node, Option.bind_some]
      have marker : ("---".toList :: linesOf (stream style (w :: rest))).dropWhile isBlank =
        "---".toList :: linesOf (stream style (w :: rest)) := List.dropWhile_cons_of_neg (by decide)
      simp only [marker]
      rw [if_pos (by decide), others]
      rfl

/-- The first document that is read is the first node. -/
theorem first_of_read {node : Value × List Text} {fuel : Nat} {v : Value} {rest : List Value}
    (read : (match node.2.dropWhile isBlank with
      | [] => some [node.1]
      | line :: rest => if trimEnd line = "---".toList then (readDocuments fuel rest).map (node.1 :: ·) else none) =
        some (v :: rest)) : v = node.1 := by
  split at read
  · exact (List.cons.inj (Option.some.inj read)).1.symm
  · split_ifs at read
    obtain ⟨_, -, same⟩ := Option.map_eq_some_iff.mp read
    exact (List.cons.inj same).1.symm

theorem legible_of_readDocuments {docs : List Value} (roots : ∀ v ∈ docs, isRoot v = true) {fuel : Nat}
    (enough : ∀ v ∈ docs, size v + docs.length ≤ fuel)
    (read : readDocuments fuel (linesOf (stream style docs)) = some docs) :
    ∀ v ∈ docs, ∀ t ∈ texts v, Legible style t := by
  induction docs generalizing fuel with
  | nil => exact fun _ listed => nomatch listed
  | cons v rest ih =>
    have root := roots v List.mem_cons_self
    have size_ := enough v List.mem_cons_self
    rw [List.length_cons] at size_
    obtain ⟨fuel, rfl⟩ := Nat.exists_eq_add_of_le' (show 1 ≤ fuel by omega)
    have block : isBlock v = true := ((Bool.and_eq_true _ _).mp root).1
    cases rest with
    | nil =>
      have shape : linesOf (stream style [v]) = linesOf (document style v) ++ [] := (List.append_nil _).symm
      rw [readDocuments_first root shape, shape, Option.bind_eq_some_iff] at read
      obtain ⟨⟨v', r⟩, node, read⟩ := read
      obtain rfl : v = v' := first_of_read read
      exact fun u listed => List.mem_singleton.mp listed ▸ legible_of_readNode root (by omega) stops_nil node
    | cons w rest =>
      have shape : linesOf (stream style (v :: w :: rest)) =
          linesOf (document style v) ++ ("---".toList :: linesOf (stream style (w :: rest))) := by
        rw [stream, linesOf, List.flatMap_append, List.flatMap_cons]
        rfl
      have marks := stops_marker (linesOf (stream style (w :: rest)))
      rw [readDocuments_first root shape, shape, Option.bind_eq_some_iff] at read
      obtain ⟨⟨v', r⟩, node, read⟩ := read
      obtain rfl : v = v' := first_of_read read
      have own := legible_of_readNode root (show size v ≤ fuel by omega) marks node
      rw [linesOf_document block own, readNode_document root own (show size v ≤ fuel by omega) marks] at node
      obtain rfl := (Prod.mk.inj (Option.some.inj node)).2
      have marker : ("---".toList :: linesOf (stream style (w :: rest))).dropWhile isBlank =
        "---".toList :: linesOf (stream style (w :: rest)) := List.dropWhile_cons_of_neg (by decide)
      simp only [marker] at read
      rw [if_pos (by decide)] at read
      obtain ⟨others, later, same⟩ := Option.map_eq_some_iff.mp read
      obtain rfl := (List.cons.inj same).2
      have rest_ := ih (fun u listed => roots u (List.mem_cons_of_mem _ listed)) (fun u listed => by
        have := enough u (List.mem_cons_of_mem _ listed)
        rw [List.length_cons] at this
        omega) later
      exact List.forall_mem_cons.mpr ⟨own, rest_⟩

/-! ### Streams -/

theorem last_append {c : Char} {left right : Text} (some_ : right ≠ []) :
    (left ++ right).getLast? = some c ↔ right.getLast? = some c := by
  rw [List.getLast?_append]
  cases last : right.getLast? with
  | none => exact absurd (List.getLast?_eq_none_iff.mp last) some_
  | some d => rfl

theorem last_unbroken {text : Text} (unbroken : ∀ c ∈ text, isBreak c = false) : text.getLast? ≠ some '\r' :=
  fun last => absurd (unbroken _ (List.mem_of_getLast? last)) (by decide)

theorem ends_inline {v : Value} (block : isBlock v = true) : (inline style v).getLast? ≠ some '\r' := by
  by_cases text : ∃ t, v = .str t
  · obtain ⟨t, rfl⟩ := text
    obtain ⟨c, rest, shape, -⟩ := style.starts t
    have some_ : style.write t ≠ [] := shape ▸ List.cons_ne_nil c rest
    exact fun last => style.ends t ((@last_append _ [' '] _ some_).mp last)
  · refine last_unbroken ?_
    match v with
    | .str t => exact absurd ⟨t, rfl⟩ text
    | .null | .bool _ | .int _ | .float _ => exact @unbroken_inline style _ block fun _ inside => nomatch inside
    | .list [] | .dict [] => exact @unbroken_inline style _ block fun _ inside => nomatch inside
    | .list (_ :: _) | .dict (_ :: _) => exact fun _ inside => nomatch inside

/-- No written line ends in a carriage return. -/
theorem ends_line (k : Nat) {front x : Text} (dash : front.getLast? ≠ some '\r') (some_ : front ≠ [])
    (ends : x.getLast? ≠ some '\r') : (pad k ++ (front ++ x)).getLast? ≠ some '\r' := by
  intro last
  have inner := (last_append (by simp [some_])).mp last
  by_cases none_ : x = []
  · subst none_
    exact dash (List.append_nil front ▸ inner)
  · exact ends ((last_append none_).mp inner)

mutual
theorem ends_below (v : Value) (block : isBlock v = true) (k : Nat) :
    ∀ line ∈ below style k v, line.getLast? ≠ some '\r' := by
  match v with
  | .null | .bool _ | .int _ | .float _ | .str _ => exact fun _ listed => nomatch listed
  | .list items => exact ends_items items block (k + 2)
  | .dict entries =>
    rw [isBlock, Bool.and_eq_true] at block
    exact ends_entries entries block.1 (k + 2)

theorem ends_items (items : List Value) (blocks : areBlocks items = true) (k : Nat) :
    ∀ line ∈ writeItems style k items, line.getLast? ≠ some '\r' := by
  match items with
  | [] => exact fun _ listed => nomatch listed
  | v :: rest =>
    rw [areBlocks, Bool.and_eq_true] at blocks
    have own : (pad k ++ (['-'] ++ inline style v)).getLast? ≠ some '\r' :=
      ends_line k (by simp) (List.cons_ne_nil _ _) (ends_inline blocks.1)
    rw [writeItems]
    exact List.forall_mem_cons.mpr ⟨own, List.forall_mem_append.mpr
      ⟨ends_below v blocks.1 k, ends_items rest blocks.2 k⟩⟩

theorem ends_entries (entries : List (Text × Value)) (blocks : areEntries entries = true) (k : Nat) :
    ∀ line ∈ writeEntries style k entries, line.getLast? ≠ some '\r' := by
  match entries with
  | [] => exact fun _ listed => nomatch listed
  | (key, v) :: rest =>
    rw [areEntries, Bool.and_eq_true, Bool.and_eq_true] at blocks
    have own : (pad k ++ ((key ++ [':']) ++ inline style v)).getLast? ≠ some '\r' :=
      ends_line k (by simp) (by simp) (ends_inline blocks.1.2)
    rw [List.append_assoc, List.singleton_append] at own
    rw [writeEntries]
    exact List.forall_mem_cons.mpr ⟨own, List.forall_mem_append.mpr
      ⟨ends_below v blocks.1.2 k, ends_entries rest blocks.2 k⟩⟩
end

theorem ends_document {v : Value} (block : isBlock v = true) : ∀ line ∈ document style v, line.getLast? ≠ some '\r' := by
  match v with
  | .null | .bool _ | .int _ | .float _ | .str _ => exact fun _ listed => nomatch listed
  | .list items => exact ends_items items block 0
  | .dict entries =>
    rw [isBlock, Bool.and_eq_true] at block
    exact ends_entries entries block.1 0

theorem ends_stream {docs : List Value} (blocks : ∀ v ∈ docs, isBlock v = true) :
    ∀ line ∈ stream style docs, line.getLast? ≠ some '\r' := by
  induction docs with
  | nil => exact fun _ listed => nomatch listed
  | cons v rest ih =>
    have own := @ends_document style v (blocks v List.mem_cons_self)
    cases rest with
    | nil => exact own
    | cons w rest =>
      have later := ih fun u listed => blocks u (List.mem_cons_of_mem _ listed)
      rw [stream]
      exact List.forall_mem_append.mpr ⟨own, List.forall_mem_cons.mpr ⟨by decide, later⟩⟩

theorem lines_joined {written : List Text} (some_ : written ≠ []) (ends : ∀ line ∈ written, line.getLast? ≠ some '\r') :
    (lines (joined ['\n'] written)).1 :: (lines (joined ['\n'] written)).2 = linesOf written := by
  induction written with
  | nil => exact absurd rfl some_
  | cons line rest ih =>
    cases rest with
    | nil => simp [joined, linesOf]
    | cons other rest =>
      have later := ih (List.cons_ne_nil _ _) fun l listed => ends l (List.mem_cons_of_mem _ listed)
      have whole : linesOf (line :: other :: rest) = (lines line).1 :: ((lines line).2 ++ linesOf (other :: rest)) := rfl
      rw [joined, List.singleton_append, lines_append _ (ends line List.mem_cons_self), whole, ← later]

theorem length_le_linesOf (written : List Text) : written.length ≤ (linesOf written).length := by
  induction written with
  | nil => exact Nat.zero_le _
  | cons line rest ih =>
    have whole : linesOf (line :: rest) = (lines line).1 :: ((lines line).2 ++ linesOf rest) := rfl
    rw [whole, List.length_cons, List.length_cons, List.length_append]
    omega

theorem length_stream {docs : List Value} {v : Value} (listed : v ∈ docs) :
    (document style v).length + docs.length ≤ (stream style docs).length + 1 := by
  induction docs generalizing v with
  | nil => cases listed
  | cons first rest ih =>
    cases rest with
    | nil =>
      obtain rfl := List.mem_singleton.mp listed
      exact le_rfl
    | cons w rest =>
      have whole : (stream style (first :: w :: rest)).length =
          (document style first).length + ((stream style (w :: rest)).length + 1) := by
        rw [stream, List.length_append, List.length_cons]
      rw [whole, List.length_cons]
      rcases List.mem_cons.mp listed with rfl | listed
      · have := @ih w List.mem_cons_self
        omega
      · have := ih listed
        omega

/-- A line that is taken for a separator is a marker. -/
theorem marker_of_trimEnd {line : Text} (separates : trimEnd line = "---".toList) : isMarker line = true := by
  have split := congrArg List.reverse (@List.takeWhile_append_dropWhile _ isWhite line.reverse)
  rw [List.reverse_append, List.reverse_reverse] at split
  change trimEnd line ++ _ = line at split
  rw [separates] at split
  have white : ∀ c ∈ (line.reverse.takeWhile isWhite).reverse, isWhite c = true := fun c inside =>
    List.mem_takeWhile_imp (List.mem_reverse.mp inside)
  generalize (line.reverse.takeWhile isWhite).reverse = after at split white
  subst split
  cases after with
  | nil => decide
  | cons c after => simp [isMarker, white c List.mem_cons_self]

/-- A stream of documents is read back if and only if all of their texts are. -/
theorem readStream_written {docs : List Value} (roots : ∀ v ∈ docs, isRoot v = true) :
    readStream (joined ['\n'] (stream style docs)) = some docs ↔ ∀ v ∈ docs, ∀ t ∈ texts v, Legible style t := by
  cases docs with
  | nil => exact ⟨fun _ _ listed => (nomatch listed), fun _ => rfl⟩
  | cons v rest =>
    have blocks : ∀ u ∈ v :: rest, isBlock u = true := fun u listed => ((Bool.and_eq_true _ _).mp (roots u listed)).1
    obtain ⟨first, others, document_, text, marker⟩ := @document_head style v (roots v List.mem_cons_self)
    obtain ⟨more, shape⟩ : ∃ more, stream style (v :: rest) = first :: more := by
      cases rest with
      | nil => exact ⟨others, document_⟩
      | cons w rest => exact ⟨others ++ "---".toList :: stream style (w :: rest), by rw [stream, document_]; rfl⟩
    have whole := lines_joined (shape ▸ List.cons_ne_nil first more) (@ends_stream style _ blocks)
    have head : linesOf (stream style (v :: rest)) = (lines first).1 :: ((lines first).2 ++ linesOf more) := by
      rw [shape]
      rfl
    have enough : ∀ u ∈ v :: rest, size u + (v :: rest).length ≤ 4 * (linesOf (stream style (v :: rest))).length + 4 := by
      intro u listed
      have : 1 ≤ (v :: rest).length := Nat.le_add_left 1 _
      have := @size_le_document style u
      have := @length_stream style _ u listed
      have := length_le_linesOf (stream style (v :: rest))
      omega
    have read : readStream (joined ['\n'] (stream style (v :: rest))) =
        readDocuments (4 * (linesOf (stream style (v :: rest))).length + 4) (linesOf (stream style (v :: rest))) := by
      have notSeparator : trimEnd (lines first).1 ≠ "---".toList := fun separates => by
        rw [marker_of_trimEnd separates] at marker
        cases marker
      rw [readStream, whole, head, List.dropWhile_cons_of_neg (Bool.eq_false_iff.mp text)]
      simp only [if_neg notSeparator]
    rw [read]
    exact ⟨legible_of_readDocuments roots enough,
      fun legible => readDocuments_written (List.cons_ne_nil v rest) roots legible enough⟩

end Documents

end Marlinspike.Yaml
