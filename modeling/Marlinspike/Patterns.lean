import Mathlib.Data.List.TakeWhile

/-!
STIX patterns of one observation: comparisons of an object path with a literal, between
brackets, joined by OR and AND, of which AND binds more tightly. A text stands between
single quotes, and a backslash stands before a quote or backslash in it. What is written of
texts without such characters is read back (`read_write`).
-/
namespace Marlinspike.Patterns

inductive Literal where
  | text (chars : List Char)
  | integer (digits : List Char)
deriving DecidableEq, Repr

structure Comparison where
  path : List Char
  value : Literal
deriving DecidableEq, Repr

/-- One of these holds, of each of which all comparisons hold. -/
abbrev Alternatives := List (List Comparison)

/-! ### Reading -/

def isPathChar (c : Char) : Bool := c.isAlphanum || "-_:.*[]'".toList.contains c

/-- The type of an object, a colon and a property of it. -/
def isPath (path : List Char) : Bool :=
  (path.head?.any fun c => c ≠ ':') && ((path.dropWhile (· ≠ ':')).drop 1 ≠ [])

/-- The text up to a quote, and what follows it. -/
def readQuoted : List Char → Option (List Char × List Char)
  | [] => none
  | '\'' :: rest => some ([], rest)
  | '\\' :: '\'' :: rest => (readQuoted rest).map fun (text, rest) => ('\'' :: text, rest)
  | '\\' :: '\\' :: rest => (readQuoted rest).map fun (text, rest) => ('\\' :: text, rest)
  | '\\' :: _ => none
  | c :: rest => (readQuoted rest).map fun (text, rest) => (c :: text, rest)

def readLiteral (chars : List Char) : Option (Literal × List Char) :=
  match chars with
  | '\'' :: rest => (readQuoted rest).map fun (text, rest) => (.text text, rest)
  | _ =>
    if chars.takeWhile Char.isDigit = [] then none
    else some (.integer (chars.takeWhile Char.isDigit), chars.dropWhile Char.isDigit)

def readComparison (chars : List Char) : Option (Comparison × List Char) :=
  let path := chars.takeWhile isPathChar
  if isPath path then
    match chars.dropWhile isPathChar with
    | ' ' :: '=' :: ' ' :: literal => (readLiteral literal).map fun (value, rest) => (⟨path, value⟩, rest)
    | _ => none
  else none

inductive Operator where
  | or
  | and
deriving DecidableEq, Repr

def readOperator : List Char → Option (Operator × List Char)
  | ' ' :: 'O' :: 'R' :: ' ' :: rest => some (.or, rest)
  | ' ' :: 'A' :: 'N' :: 'D' :: ' ' :: rest => some (.and, rest)
  | _ => none

/-- A comparison before the others: an AND binds it to the first of them. -/
def Operator.cons (first : Comparison) : Operator → Alternatives → Alternatives
  | .and, conjunction :: others => (first :: conjunction) :: others
  | _, others => [first] :: others

/-- The comparisons up to the closing bracket, which ends the pattern. -/
def readComparisons : Nat → List Char → Option Alternatives
  | 0, _ => none
  | fuel + 1, chars => do
    let (first, rest) ← readComparison chars
    if rest = [']'] then some [[first]]
    else do
      let (operator, more) ← readOperator rest
      (readComparisons fuel more).map (operator.cons first)

def read (pattern : List Char) : Option Alternatives :=
  match pattern with
  | '[' :: chars => readComparisons chars.length chars
  | _ => none

/-! ### Writing -/

def Literal.write : Literal → List Char
  | .text chars => '\'' :: chars ++ ['\'']
  | .integer digits => digits

def Comparison.write (comparison : Comparison) : List Char := comparison.path ++ " = ".toList ++ comparison.value.write

/-- What reads as it is written. -/
def Literal.Plain : Literal → Prop
  | .text chars => ∀ c ∈ chars, c ≠ '\'' ∧ c ≠ '\\'
  | .integer digits => digits ≠ [] ∧ ∀ c ∈ digits, c.isDigit = true

structure Comparison.Plain (comparison : Comparison) : Prop where
  path : isPath comparison.path = true
  chars : ∀ c ∈ comparison.path, isPathChar c = true
  value : comparison.value.Plain

def Operator.write : Operator → List Char
  | .or => " OR ".toList
  | .and => " AND ".toList

/-- Any, or all, of some comparisons. -/
def Operator.join (comparisons : List Comparison) : Operator → Alternatives
  | .or => comparisons.map fun c => [c]
  | .and => [comparisons]

def write (operator : Operator) (comparisons : List Comparison) : List Char :=
  '[' :: (operator.write.intercalate (comparisons.map Comparison.write) ++ [']'])

theorem readQuoted_plain {text : List Char} (plain : ∀ c ∈ text, c ≠ '\'' ∧ c ≠ '\\') (rest : List Char) :
    readQuoted (text ++ '\'' :: rest) = some (text, rest) := by
  induction text with
  | nil => rfl
  | cons c text ih =>
    obtain ⟨noQuote, noBackslash⟩ := plain c List.mem_cons_self
    have later := ih fun d member => plain d (List.mem_cons_of_mem _ member)
    rw [List.cons_append, readQuoted, later]
    · rfl
    · exact noQuote
    · rintro rest is -
      exact noBackslash is
    · rintro rest is -
      exact noBackslash is
    · exact noBackslash

theorem takeWhile_stop {p : Char → Bool} {chars : List Char} (all : ∀ c ∈ chars, p c = true) {stop : Char} (stops : p stop = false)
    (rest : List Char) : (chars ++ stop :: rest).takeWhile p = chars := by
  rw [List.takeWhile_append_of_pos all, List.takeWhile_cons_of_neg (by simp [stops]), List.append_nil]

theorem dropWhile_stop {p : Char → Bool} {chars : List Char} (all : ∀ c ∈ chars, p c = true) {stop : Char} (stops : p stop = false)
    (rest : List Char) : (chars ++ stop :: rest).dropWhile p = stop :: rest := by
  rw [List.dropWhile_append_of_pos all, List.dropWhile_cons_of_neg (by simp [stops])]

theorem readLiteral_write {value : Literal} (plain : value.Plain) {stop : Char} (stops : stop.isDigit = false) (rest : List Char) :
    readLiteral (value.write ++ stop :: rest) = some (value, stop :: rest) := by
  cases value with
  | text chars =>
    have open_ : (Literal.text chars).write ++ stop :: rest = '\'' :: (chars ++ '\'' :: stop :: rest) := by
      simp [Literal.write]
    rw [open_, readLiteral, readQuoted_plain plain]
    rfl
  | integer digits =>
    obtain ⟨some_, all⟩ := plain
    cases digits with
    | nil => exact absurd rfl some_
    | cons d digits =>
      have noQuote : d ≠ '\'' := by
        rintro rfl
        exact absurd (all _ List.mem_cons_self) (by decide)
      have read_ : readLiteral (d :: digits ++ stop :: rest) =
          if (d :: digits ++ stop :: rest).takeWhile Char.isDigit = [] then none
          else some (.integer ((d :: digits ++ stop :: rest).takeWhile Char.isDigit),
            (d :: digits ++ stop :: rest).dropWhile Char.isDigit) := by
        rw [List.cons_append, readLiteral]
        intro _ is
        exact noQuote (List.cons.inj is).1
      rw [Literal.write, read_, takeWhile_stop all stops, dropWhile_stop all stops, if_neg some_]

theorem readComparison_write {comparison : Comparison} (plain : comparison.Plain) {stop : Char} (stops : stop.isDigit = false)
    (rest : List Char) : readComparison (comparison.write ++ stop :: rest) = some (comparison, stop :: rest) := by
  have split : comparison.write ++ stop :: rest =
      comparison.path ++ ' ' :: ('=' :: ' ' :: (comparison.value.write ++ stop :: rest)) := by
    simp [Comparison.write]
  rw [split, readComparison, takeWhile_stop plain.chars (by decide), dropWhile_stop plain.chars (by decide)]
  simp [plain.path, readLiteral_write plain.value stops]

/-! ### Several comparisons -/

theorem length_le_intercalate {sep : List Char} (some_ : sep ≠ []) (ws : List (List Char)) :
    ws.length ≤ (sep.intercalate ws).length + 1 := by
  induction ws with
  | nil => exact Nat.zero_le _
  | cons word rest ih =>
    by_cases last : rest = []
    · simp [last]
    · have wide := List.length_pos_iff.mpr some_
      rw [List.intercalate_cons_of_ne_nil last]
      simp only [List.length_cons, List.length_append]
      omega

theorem readOperator_write (operator : Operator) (rest : List Char) : readOperator (operator.write ++ rest) = some (operator, rest) := by
  cases operator <;> rfl

theorem join_cons (operator : Operator) (first : Comparison) {rest : List Comparison} (some_ : rest ≠ []) :
    operator.cons first (operator.join rest) = operator.join (first :: rest) := by
  cases operator with
  | or => rfl
  | and => cases rest with
    | nil => exact absurd rfl some_
    | cons second rest => rfl

theorem readComparisons_write (operator : Operator) {comparisons : List Comparison} (some_ : comparisons ≠ [])
    (plain : ∀ c ∈ comparisons, c.Plain) {fuel : Nat} (enough : comparisons.length ≤ fuel) :
    readComparisons fuel (operator.write.intercalate (comparisons.map Comparison.write) ++ [']']) =
      some (operator.join comparisons) := by
  induction comparisons generalizing fuel with
  | nil => exact absurd rfl some_
  | cons first rest ih =>
    obtain ⟨fuel, rfl⟩ : ∃ n, fuel = n + 1 := Nat.exists_eq_succ_of_ne_zero (by simp at enough; omega)
    have plainFirst := plain first List.mem_cons_self
    by_cases last : rest = []
    · subst last
      rw [List.map_singleton, List.intercalate_singleton, readComparisons, readComparison_write plainFirst (by decide)]
      cases operator <;> rfl
    · have more : readComparisons fuel (operator.write.intercalate (rest.map Comparison.write) ++ [']']) =
          some (operator.join rest) :=
        ih last (fun c member => plain c (List.mem_cons_of_mem _ member)) (by simp at enough; omega)
      obtain ⟨keyword, spaced, stops⟩ : ∃ keyword, operator.write = ' ' :: keyword ∧ ∀ rest, ' ' :: keyword ++ rest ≠ [']'] := by
        cases operator <;> exact ⟨_, rfl, fun rest => by simp⟩
      have split : operator.write.intercalate ((first :: rest).map Comparison.write) ++ [']'] =
          first.write ++ ' ' :: (keyword ++ (operator.write.intercalate (rest.map Comparison.write) ++ [']'])) := by
        rw [List.map_cons, List.intercalate_cons_of_ne_nil (by simpa using last), spaced]
        simp
      have operates := readOperator_write operator (operator.write.intercalate (rest.map Comparison.write) ++ [']'])
      rw [split, readComparisons, readComparison_write plainFirst (by decide)]
      simp only [Option.bind_eq_bind, Option.bind_some]
      rw [← List.cons_append, if_neg (stops _), ← spaced, operates]
      simp only [Option.bind_some, more, Option.map_some, join_cons operator first last]

/-- What is written of plain comparisons is read back. -/
theorem read_write (operator : Operator) {comparisons : List Comparison} (some_ : comparisons ≠ [])
    (plain : ∀ c ∈ comparisons, c.Plain) : read (write operator comparisons) = some (operator.join comparisons) := by
  refine readComparisons_write operator some_ plain ?_
  have wide : operator.write ≠ [] := by cases operator <;> decide
  have long := length_le_intercalate wide (comparisons.map Comparison.write)
  simpa using long

end Marlinspike.Patterns
