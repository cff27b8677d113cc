import Mathlib.Data.List.Basic
import Mathlib.Data.Char

/-!
JSON texts as `json.dumps` writes them by default, for objects whose values are strings,
lists of strings or `null`: every character outside printable ASCII is escaped. A way to
write values is `Readable` if the value can be read off the front of any text that begins
with it, so that whatever is put together of readable parts is injective.
-/
namespace Marlinspike.JsonText

/-- What is written can be read off the front of a text. -/
def Readable {α : Type} (write : α → List Char) : Prop :=
  ∀ a b rest rest', write a ++ rest = write b ++ rest' → a = b ∧ rest = rest'

/-! ### Characters -/

def hexDigits : List Char := "0123456789abcdef".toList

def hexDigit (n : Nat) : Char := hexDigits.getD n '0'

def hexValue (c : Char) : Nat := hexDigits.findIdx (· = c)

/-- `\uXXXX`. -/
def escapeUnit (unit : Nat) : List Char :=
  ['\\', 'u', hexDigit (unit / 4096), hexDigit (unit / 256 % 16), hexDigit (unit / 16 % 16), hexDigit (unit % 16)]

def unitValue (a b c d : Char) : Nat := ((hexValue a * 16 + hexValue b) * 16 + hexValue c) * 16 + hexValue d

def quote : Char := Char.ofNat 34

/-- The characters that have an escape of one letter. -/
def shortEscape (c : Char) : Option Char :=
  if c = quote then some quote
  else if c = '\\' then some '\\'
  else if c = '\n' then some 'n'
  else if c = '\r' then some 'r'
  else if c = '\t' then some 't'
  else if c = Char.ofNat 8 then some 'b'
  else if c = Char.ofNat 12 then some 'f'
  else none

/-- Characters past the basic plane are written as a surrogate pair. -/
def escape (c : Char) : List Char :=
  match shortEscape c with
  | some letter => ['\\', letter]
  | none =>
    if 32 ≤ c.toNat ∧ c.toNat < 127 then [c]
    else if c.toNat < 65536 then escapeUnit c.toNat
    else
      escapeUnit (0xD800 + (c.toNat - 65536) / 1024) ++ escapeUnit (0xDC00 + (c.toNat - 65536) % 1024)

def shortMeaning (letter : Char) : Char :=
  if letter = 'n' then '\n'
  else if letter = 'r' then '\r'
  else if letter = 't' then '\t'
  else if letter = 'b' then Char.ofNat 8
  else if letter = 'f' then Char.ofNat 12
  else letter

/-- The unit that a text begins with, if it is one in four digits, and what follows it. -/
def readUnit : List Char → Option (Nat × List Char)
  | '\\' :: 'u' :: a :: b :: c :: d :: rest => some (unitValue a b c d, rest)
  | _ => none

/-- The first character of an escaped text, and what follows it. -/
def unescape (text : List Char) : Option (Char × List Char) :=
  match readUnit text with
  | some (unit, rest) =>
    if 0xD800 ≤ unit ∧ unit < 0xDC00 then
      (readUnit rest).map fun low => (Char.ofNat (65536 + (unit - 0xD800) * 1024 + (low.1 - 0xDC00)), low.2)
    else some (Char.ofNat unit, rest)
  | none =>
    match text with
    | [] => none
    | c :: rest =>
      if c = '\\' then
        match rest with
        | [] => none
        | letter :: rest => some (shortMeaning letter, rest)
      else some (c, rest)

theorem hexValue_hexDigit {n : Nat} (small : n < 16) : hexValue (hexDigit n) = n := by
  have all : ∀ i : Fin 16, hexValue (hexDigit i) = i := by decide
  exact all ⟨n, small⟩

theorem unitValue_escapeUnit {unit : Nat} (small : unit < 65536) :
    unitValue (hexDigit (unit / 4096)) (hexDigit (unit / 256 % 16)) (hexDigit (unit / 16 % 16)) (hexDigit (unit % 16)) =
      unit := by
  unfold unitValue
  rw [hexValue_hexDigit (by omega), hexValue_hexDigit (by omega), hexValue_hexDigit (by omega),
    hexValue_hexDigit (by omega)]
  omega

/-- An escaped letter stands for its character, and is no `u`. -/
theorem shortMeaning_of_escape {c letter : Char} (short : shortEscape c = some letter) :
    shortMeaning letter = c ∧ letter ≠ 'u' := by
  unfold shortEscape at short
  split at short
  · next is => cases short; subst is; decide
  split at short
  · next is => cases short; subst is; decide
  split at short
  · next is => cases short; subst is; decide
  split at short
  · next is => cases short; subst is; decide
  split at short
  · next is => cases short; subst is; decide
  split at short
  · next is => cases short; subst is; decide
  split at short
  · next is => cases short; subst is; decide
  · cases short

theorem plain_of_not_short {c : Char} (plain : shortEscape c = none) : c ≠ '\\' ∧ c ≠ quote := by
  constructor
  · rintro rfl
    exact absurd plain (by decide)
  · rintro rfl
    exact absurd plain (by decide)

theorem readUnit_escapeUnit {unit : Nat} (small : unit < 65536) (rest : List Char) :
    readUnit (escapeUnit unit ++ rest) = some (unit, rest) := by
  show some (unitValue _ _ _ _, rest) = _
  rw [unitValue_escapeUnit small]

theorem readUnit_eq_none {first second : Char} (other : first ≠ '\\' ∨ second ≠ 'u') (rest : List Char) :
    readUnit (first :: second :: rest) = none := by
  unfold readUnit
  split
  · next same =>
    obtain ⟨is, same⟩ := List.cons.inj same
    rcases other with other | other
    · exact absurd is other
    · exact absurd (List.cons.inj same).1 other
  · rfl

theorem readUnit_of_ne {first : Char} (other : first ≠ '\\') (rest : List Char) : readUnit (first :: rest) = none := by
  unfold readUnit
  split
  · next same => exact absurd (List.cons.inj same).1 other
  · rfl

theorem unescape_escape (c : Char) (rest : List Char) : unescape (escape c ++ rest) = some (c, rest) := by
  unfold escape
  cases short : shortEscape c with
  | some letter =>
    obtain ⟨meaning, other⟩ := shortMeaning_of_escape short
    show unescape ('\\' :: letter :: rest) = _
    unfold unescape
    rw [readUnit_eq_none (.inr other)]
    simp only [↓reduceIte, meaning]
  | none =>
    obtain ⟨noEscape, -⟩ := plain_of_not_short short
    have valid := c.valid
    by_cases printable : 32 ≤ c.toNat ∧ c.toNat < 127
    · simp only [if_pos printable]
      show unescape (c :: rest) = _
      unfold unescape
      rw [readUnit_of_ne noEscape]
      simp only [if_neg noEscape]
    · by_cases small : c.toNat < 65536
      · have single : ¬(0xD800 ≤ c.toNat ∧ c.toNat < 0xDC00) := by
          rcases valid with low | ⟨high, -⟩
          · have : c.toNat < 0xD800 := low
            omega
          · have : 0xDFFF < c.toNat := high
            omega
        simp only [if_neg printable, if_pos small]
        unfold unescape
        rw [readUnit_escapeUnit small]
        simp only [if_neg single, Char.ofNat_toNat]
      · have bound : c.toNat < 0x110000 := by
          rcases valid with low | ⟨-, high⟩
          · have : c.toNat < 0xD800 := low
            omega
          · exact high
        have isHigh : 0xD800 ≤ 0xD800 + (c.toNat - 65536) / 1024 ∧ 0xD800 + (c.toNat - 65536) / 1024 < 0xDC00 := by
          omega
        have whole : 65536 + (0xD800 + (c.toNat - 65536) / 1024 - 0xD800) * 1024 +
            (0xDC00 + (c.toNat - 65536) % 1024 - 0xDC00) = c.toNat := by
          omega
        simp only [if_neg printable, if_neg small]
        unfold unescape
        rw [List.append_assoc, readUnit_escapeUnit (by omega)]
        simp only [if_pos isHigh]
        rw [readUnit_escapeUnit (by omega), Option.map_some]
        simp only [whole, Char.ofNat_toNat]

theorem readable_escape : Readable escape := by
  intro c d rest rest' same
  have read := congrArg unescape same
  rw [unescape_escape, unescape_escape] at read
  exact Prod.mk.inj (Option.some.inj read)

/-- No escape begins with a quote. -/
theorem escape_eq_cons (c : Char) : ∃ first rest, escape c = first :: rest ∧ first ≠ quote := by
  unfold escape
  cases short : shortEscape c with
  | some letter => exact ⟨'\\', [letter], rfl, by decide⟩
  | none =>
    by_cases printable : 32 ≤ c.toNat ∧ c.toNat < 127
    · exact ⟨c, [], if_pos printable, (plain_of_not_short short).2⟩
    · by_cases small : c.toNat < 65536
      · refine ⟨'\\', (escapeUnit c.toNat).tail, ?_, by decide⟩
        simp only [if_neg printable, if_pos small]
        rfl
      · refine ⟨'\\', (escapeUnit (0xD800 + (c.toNat - 65536) / 1024)).tail ++
          escapeUnit (0xDC00 + (c.toNat - 65536) % 1024), ?_, by decide⟩
        simp only [if_neg printable, if_neg small]
        rfl

/-! ### Strings, lists and objects -/

def quotedTail : List Char → List Char
  | [] => [quote]
  | c :: rest => escape c ++ quotedTail rest

def quoted (s : String) : List Char := quote :: quotedTail s.toList

def orNull : Option String → List Char
  | some s => quoted s
  | none => "null".toList

def arrayTail : List String → List Char
  | [] => [']']
  | s :: rest => ", ".toList ++ (quoted s ++ arrayTail rest)

def array : List String → List Char
  | [] => "[]".toList
  | s :: rest => '[' :: (quoted s ++ arrayTail rest)

theorem readable_quotedTail : Readable quotedTail := by
  intro cs ds rest rest' same
  induction cs generalizing ds with
  | nil =>
    cases ds with
    | nil => exact ⟨rfl, (List.cons.inj same).2⟩
    | cons d ds =>
      obtain ⟨first, more, is, other⟩ := escape_eq_cons d
      rw [quotedTail, quotedTail, is] at same
      exact absurd (List.cons.inj same).1.symm other
  | cons c cs ih =>
    cases ds with
    | nil =>
      obtain ⟨first, more, is, other⟩ := escape_eq_cons c
      rw [quotedTail, quotedTail, is] at same
      exact absurd (List.cons.inj same).1 other
    | cons d ds =>
      rw [quotedTail, quotedTail, List.append_assoc, List.append_assoc] at same
      obtain ⟨rfl, tails⟩ := readable_escape c d _ _ same
      obtain ⟨rfl, rests⟩ := ih ds tails
      exact ⟨rfl, rests⟩

theorem readable_quoted : Readable quoted := by
  intro s t rest rest' same
  obtain ⟨same, rest⟩ := readable_quotedTail _ _ _ _ (List.cons.inj same).2
  exact ⟨String.toList_injective same, rest⟩

theorem readable_orNull : Readable orNull := by
  intro a b rest rest' same
  cases a with
  | none =>
    cases b with
    | none => exact ⟨rfl, List.append_cancel_left same⟩
    | some t => exact absurd (List.cons.inj same).1 (by decide)
  | some s =>
    cases b with
    | none => exact absurd (List.cons.inj same).1 (by decide)
    | some t =>
      obtain ⟨rfl, rest⟩ := readable_quoted s t _ _ same
      exact ⟨rfl, rest⟩

theorem readable_arrayTail : Readable arrayTail := by
  intro a b rest rest' same
  induction a generalizing b with
  | nil =>
    cases b with
    | nil => exact ⟨rfl, (List.cons.inj same).2⟩
    | cons t b => exact absurd (List.cons.inj same).1 (by decide)
  | cons s a ih =>
    cases b with
    | nil => exact absurd (List.cons.inj same).1 (by decide)
    | cons t b =>
      rw [arrayTail, arrayTail, List.append_assoc, List.append_assoc, List.append_assoc, List.append_assoc] at same
      obtain ⟨rfl, tails⟩ := readable_quoted s t _ _ (List.append_cancel_left same)
      obtain ⟨rfl, rests⟩ := ih b tails
      exact ⟨rfl, rests⟩

theorem readable_array : Readable array := by
  intro a b rest rest' same
  cases a with
  | nil =>
    cases b with
    | nil => exact ⟨rfl, List.append_cancel_left same⟩
    | cons t b =>
      have second := (List.cons.inj (List.cons.inj same).2).1
      exact absurd second (by decide)
  | cons s a =>
    cases b with
    | nil =>
      have second := (List.cons.inj (List.cons.inj same).2).1
      exact absurd second (by decide)
    | cons t b =>
      have items : quoted s ++ arrayTail a ++ rest = quoted t ++ arrayTail b ++ rest' := (List.cons.inj same).2
      rw [List.append_assoc, List.append_assoc] at items
      obtain ⟨rfl, tails⟩ := readable_quoted s t _ _ items
      obtain ⟨rfl, rests⟩ := readable_arrayTail a b _ _ tails
      exact ⟨rfl, rests⟩

/-- A name with the text of its value, and what follows it. -/
def member (item : String × List Char) (rest : List Char) : List Char :=
  quoted item.1 ++ (": ".toList ++ (item.2 ++ rest))

def objectTail : List (String × List Char) → List Char
  | [] => ['\x7d']
  | item :: rest => ", ".toList ++ member item (objectTail rest)

def object : List (String × List Char) → List Char
  | [] => ['\x7b', '\x7d']
  | item :: rest => '\x7b' :: member item (objectTail rest)

section Objects
variable {α : Type} {write : α → List Char} (readable : Readable write) {name : String} {a b : α}
include readable

theorem member_inj {rest rest' : List Char} (same : member (name, write a) rest = member (name, write b) rest') :
    a = b ∧ rest = rest' :=
  readable a b rest rest' (List.append_cancel_left (List.append_cancel_left same))

theorem objectTail_inj {items items' : List (String × List Char)}
    (same : objectTail ((name, write a) :: items) = objectTail ((name, write b) :: items')) :
    a = b ∧ objectTail items = objectTail items' :=
  member_inj readable (List.append_cancel_left same)

theorem object_inj {items items' : List (String × List Char)}
    (same : object ((name, write a) :: items) = object ((name, write b) :: items')) :
    a = b ∧ objectTail items = objectTail items' :=
  member_inj readable (List.cons.inj same).2

end Objects

end Marlinspike.JsonText
