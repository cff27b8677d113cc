import Marlinspike.PyDict
import Marlinspike.Words
import Mathlib.Data.List.DropRight

/-!
Texts of assignments, one `key=value` a line, with blank lines and comments among them. What is
read of a text is a dictionary of items that are trimmed and hold no line break, and a dictionary
is read back from the text that states it just if each of its items could have been read of one.
-/
namespace Marlinspike.Assignments
universe u
variable {α : Type u}

/-! ### Trimming -/

section Trim
variable (space : α → Bool)

def strip (text : List α) : List α := (text.dropWhile space).rdropWhile space

/-- Neither end is blank. -/
structure Trimmed (text : List α) : Prop where
  first : ∀ c ∈ text.head?, space c = false
  last : ∀ c ∈ text.getLast?, space c = false

variable {space} {text : List α}

theorem mem_of_mem_strip {c : α} (inside : c ∈ strip space text) : c ∈ text :=
  (List.dropWhile_sublist _).subset ((List.rdropWhile_prefix _ _).subset inside)

theorem first_of_dropWhile (text : List α) : ∀ c ∈ (text.dropWhile space).head?, space c = false := by
  induction text with
  | nil => simp
  | cons d rest ih =>
    rw [List.dropWhile_cons]
    split
    next => exact ih
    next solid =>
      intro c first
      rw [List.head?_cons, Option.mem_some_iff] at first
      exact first ▸ Bool.eq_false_iff.mpr solid

theorem strip_trimmed (text : List α) : Trimmed space (strip space text) := by
  have dropped := List.rdropWhile_prefix space (text.dropWhile space)
  constructor
  · intro c first
    -- What is left of the end begins as the text did.
    obtain ⟨tail, whole⟩ := dropped
    refine first_of_dropWhile text c ?_
    rw [← whole, List.head?_append]
    exact Option.mem_def.mpr (by rw [strip] at first; rw [Option.mem_def.mp first]; rfl)
  · intro c last
    have some_ : strip space text ≠ [] := fun none => by simp [none] at last
    rw [Option.mem_def, List.getLast?_eq_some_getLast some_, Option.some.injEq] at last
    exact last ▸ Bool.eq_false_iff.mpr (List.rdropWhile_last_not _ _ some_)

theorem strip_eq_self (trimmed : Trimmed space text) : strip space text = text := by
  have kept : text.dropWhile space = text := by
    cases text with
    | nil => rfl
    | cons c rest => exact List.dropWhile_cons_of_neg (by simp [trimmed.first c rfl])
  rw [strip, kept, List.rdropWhile_eq_self_iff]
  intro some_
  exact Bool.eq_false_iff.mp (trimmed.last _ (List.getLast?_eq_some_getLast some_))

theorem strip_eq_self_iff : strip space text = text ↔ Trimmed space text :=
  ⟨fun same => same ▸ strip_trimmed text, strip_eq_self⟩

instance decidableTrimmed (text : List α) [DecidableEq α] : Decidable (Trimmed space text) :=
  decidable_of_iff _ strip_eq_self_iff

/-- A text that begins with no blank keeps its beginning. -/
theorem head?_strip (solid : ∀ c ∈ text.head?, space c = false) : (strip space text).head? = text.head? := by
  cases text with
  | nil => rfl
  | cons c rest =>
    have solid := solid c rfl
    have kept : (c :: rest).dropWhile space = c :: rest := List.dropWhile_cons_of_neg (by simp [solid])
    obtain ⟨tail, whole⟩ := List.rdropWhile_prefix space (c :: rest)
    rw [strip, kept]
    cases left : (c :: rest).rdropWhile space with
    | nil =>
      have blank := List.rdropWhile_eq_nil_iff.mp left c List.mem_cons_self
      exact absurd (solid.symm.trans blank) Bool.false_ne_true
    | cons d more =>
      rw [left, List.cons_append] at whole
      exact congrArg some (List.cons.inj whole).1

/-- Around what is not blank, the ends are those of both sides. -/
theorem trimmed_around {sep : α} (solid : space sep = false) {left right : List α} :
    Trimmed space (left ++ sep :: right) ↔
      (∀ c ∈ left.head?, space c = false) ∧ ∀ c ∈ right.getLast?, space c = false := by
  have first : (left ++ sep :: right).head? = some (left.head?.getD sep) := by cases left <;> rfl
  have last : (left ++ sep :: right).getLast? = some (right.getLast?.getD sep) := by
    rw [List.getLast?_append, List.getLast?_cons]
    rfl
  constructor
  · rintro ⟨begins, ends⟩
    rw [first] at begins
    rw [last] at ends
    exact ⟨fun c inside => begins c (by rw [Option.mem_def.mp inside]; rfl),
      fun c inside => ends c (by rw [Option.mem_def.mp inside]; rfl)⟩
  · rintro ⟨begins, ends⟩
    refine ⟨fun c inside => ?_, fun c inside => ?_⟩
    · rw [first, Option.mem_some_iff] at inside
      cases sought : left.head? with
      | none => rw [sought] at inside; exact inside ▸ solid
      | some d => rw [sought] at inside; exact inside ▸ begins d sought
    · rw [last, Option.mem_some_iff] at inside
      cases sought : right.getLast? with
      | none => rw [sought] at inside; exact inside ▸ solid
      | some d => rw [sought] at inside; exact inside ▸ ends d sought

end Trim

/-! ### Lines -/

/-- The characters of a format: blanks, line breaks among them, and the two marks. -/
structure Format (α : Type u) where
  space : α → Bool
  breaks : α → Bool
  comment : α
  sign : α
  space_of_breaks : ∀ c, breaks c = true → space c = true
  comment_solid : space comment = false
  sign_solid : space sign = false
  comment_ne_sign : comment ≠ sign

variable [DecidableEq α] (f : Format α)

/-- The item of a line: none of a blank line, of a comment and of what has no sign. -/
def parseLine (line : List α) : Option (List α × List α) :=
  let line := strip f.space line
  if line = [] ∨ line.head? = some f.comment then none
  else if f.sign ∈ line then
    some (strip f.space (line.takeWhile (· ≠ f.sign)), strip f.space (line.dropWhile (· ≠ f.sign)).tail)
  else none

def lineOf (item : List α × List α) : List α := item.1 ++ f.sign :: item.2

/-- What a line can say. -/
structure Readable (item : List α × List α) : Prop where
  key : Trimmed f.space item.1
  value : Trimmed f.space item.2
  unsigned : f.sign ∉ item.1
  uncommented : item.1.head? ≠ some f.comment

/-- No line break is in the key or in the value. -/
def Unbroken (item : List α × List α) : Prop := ∀ c ∈ item.1 ++ item.2, f.breaks c = false

instance decidableUnbroken (item : List α × List α) : Decidable (Unbroken f item) :=
  inferInstanceAs (Decidable (∀ c ∈ item.1 ++ item.2, f.breaks c = false))

variable {f} {item : List α × List α} {line : List α}

theorem parseLine_lineOf (readable : Readable f item) : parseLine f (lineOf f item) = some item := by
  have same : strip f.space (lineOf f item) = lineOf f item :=
    strip_eq_self ((trimmed_around f.sign_solid).mpr ⟨readable.key.first, readable.value.last⟩)
  have some_ : lineOf f item ≠ [] := by simp [lineOf]
  have uncommented : (lineOf f item).head? ≠ some f.comment := by
    rw [lineOf, List.head?_append]
    intro comment
    cases first : item.1.head? with
    | none =>
      rw [first] at comment
      exact f.comment_ne_sign (Option.some.inj comment).symm
    | some c =>
      rw [first] at comment
      exact readable.uncommented (first.trans comment)
  have unsigned : ∀ c ∈ item.1, decide (c ≠ f.sign) = true := fun c inside =>
    decide_eq_true fun sign => readable.unsigned (sign ▸ inside)
  have signed : f.sign ∈ lineOf f item := List.mem_append_right _ List.mem_cons_self
  have before : (lineOf f item).takeWhile (· ≠ f.sign) = item.1 := by
    rw [lineOf, List.takeWhile_append_of_pos unsigned, List.takeWhile_cons_of_neg (by simp), List.append_nil]
  have after : (lineOf f item).dropWhile (· ≠ f.sign) = f.sign :: item.2 := by
    rw [lineOf, List.dropWhile_append_of_pos unsigned, List.dropWhile_cons_of_neg (by simp)]
  simp only [parseLine, same, before, after, List.tail_cons]
  rw [if_neg (not_or.mpr ⟨some_, uncommented⟩), if_pos signed, strip_eq_self readable.key,
    strip_eq_self readable.value]

theorem of_parseLine (parsed : parseLine f line = some item) :
    Readable f item ∧ ∀ c ∈ item.1 ++ item.2, c ∈ line := by
  simp only [parseLine] at parsed
  split at parsed
  next => cases parsed
  next proper =>
    obtain ⟨some_, uncommented⟩ := not_or.mp proper
    split at parsed
    next signed =>
      obtain rfl := Option.some.inj parsed
      have inside (c : α) : c ∈ strip f.space line → c ∈ line := mem_of_mem_strip
      have solid := (strip_trimmed line : Trimmed f.space _).first
      -- The item lies around the first sign of the stripped line.
      obtain ⟨key, value, whole, unsigned⟩ := List.eq_append_cons_of_mem signed
      rw [whole] at uncommented inside solid ⊢
      have among : ∀ c ∈ key, decide (c ≠ f.sign) = true := fun c member =>
        decide_eq_true fun sign => unsigned (sign ▸ member)
      rw [List.takeWhile_append_of_pos among, List.takeWhile_cons_of_neg (by simp), List.append_nil,
        List.dropWhile_append_of_pos among, List.dropWhile_cons_of_neg (by simp), List.tail_cons]
      refine ⟨⟨strip_trimmed _, strip_trimmed _, fun sign => unsigned (mem_of_mem_strip sign), ?_⟩, ?_⟩
      · cases key with
        | nil => simp [strip]
        | cons c rest =>
          have kept : (strip f.space (c :: rest)).head? = some c := head?_strip fun d first => solid d first
          exact kept ▸ uncommented
      · intro c member
        refine inside c ?_
        obtain left | right := List.mem_append.mp member
        · exact List.mem_append_left _ (mem_of_mem_strip left)
        · exact List.mem_append_right _ (List.mem_cons_of_mem _ (mem_of_mem_strip right))
    next => cases parsed

/-! ### Texts -/

/-- The items of the lines, the later ones over the earlier ones. -/
def read (f : Format α) (lines : List (List α)) : PyDict (List α) (List α) :=
  lines.foldl
    (fun out line =>
      match parseLine f line with
      | some (key, value) => out.set key value
      | none => out)
    .empty

/-- A line each for what comes before, for each item and for the end. -/
def write (f : Format α) (newline : α) (before : List (List α)) (items : List (List α × List α)) : List α :=
  [newline].intercalate (before ++ items.map (lineOf f) ++ [[]])

theorem read_eq (lines : List (List α)) : read f lines = PyDict.empty.update (lines.filterMap (parseLine f)) := by
  unfold read
  generalize PyDict.empty = out
  induction lines generalizing out with
  | nil => rfl
  | cons line rest ih =>
    rw [List.foldl_cons, ih, List.filterMap_cons]
    cases parseLine f line with
    | none => rfl
    | some item => rfl

/-- What is read does not depend on the empty lines. -/
theorem read_filter (lines : List (List α)) : read f (lines.filter (· ≠ [])) = read f lines := by
  rw [read_eq, read_eq, List.filterMap_filter]
  congr 2
  funext line
  by_cases some_ : line = []
  · subst some_
    rfl
  · rw [if_pos (decide_eq_true some_)]

theorem readable_of_read {lines : List (List α)} (member : item ∈ (read f lines).items) :
    Readable f item ∧ ∃ line ∈ lines, ∀ c ∈ item.1 ++ item.2, c ∈ line := by
  rw [read_eq] at member
  obtain parsed | none := PyDict.mem_or_mem_of_update member
  · obtain ⟨line, listed, parsed⟩ := List.mem_filterMap.mp parsed
    obtain ⟨readable, inside⟩ := of_parseLine parsed
    exact ⟨readable, line, listed, inside⟩
  · cases none

/-- The lines of a text, the empty ones left out. -/
def lines (f : Format α) (text : List α) : List (List α) := Words.words f.breaks text

theorem parseLine_comment (comment : line.head? = some f.comment) : parseLine f line = none := by
  have solid : ∀ c ∈ line.head?, f.space c = false := fun c first =>
    Option.some.inj (comment.symm.trans first) ▸ f.comment_solid
  exact if_pos (Or.inr ((head?_strip solid).trans comment))

/-- A line that is there for the reader of the text only. -/
def Remark (f : Format α) (line : List α) : Prop :=
  line = [] ∨ line.head? = some f.comment ∧ ∀ c ∈ line, f.breaks c = false

theorem remark_skipped (remark : Remark f line) : (lines f line).filterMap (parseLine f) = [] := by
  obtain none_ | ⟨comment, plain⟩ := remark
  · rw [none_, lines, Words.words_nil]
    rfl
  · have some_ : line ≠ [] := fun none_ => by simp [none_] at comment
    rw [lines, Words.words_word ⟨some_, plain⟩]
    exact List.filterMap_cons_none (parseLine_comment comment)

theorem lineOf_parsed (readable : Readable f item) (unbroken : Unbroken f item) :
    (lines f (lineOf f item)).filterMap (parseLine f) = [item] := by
  have sign : f.breaks f.sign = false := by
    by_contra broken
    exact absurd (f.sign_solid.symm.trans (f.space_of_breaks _ (by simpa using broken))) (by simp)
  have plain : ∀ c ∈ lineOf f item, f.breaks c = false := by
    intro c inside
    obtain left | right := List.mem_append.mp inside
    · exact unbroken c (List.mem_append_left _ left)
    · obtain rfl | right := List.mem_cons.mp right
      · exact sign
      · exact unbroken c (List.mem_append_right _ right)
  rw [lines, Words.words_word ⟨by simp [lineOf], plain⟩]
  exact List.filterMap_cons_some (parseLine_lineOf readable)

variable {newline : α} {before : List (List α)}

/-- What a text states is read as it is, item by item. -/
theorem write_parsed (parts : f.breaks newline = true) (remarks : ∀ line ∈ before, Remark f line)
    {items : List (List α × List α)} (all : ∀ item ∈ items, Readable f item ∧ Unbroken f item) :
    (lines f (write f newline before items)).filterMap (parseLine f) = items := by
  have skipped : (before.flatMap fun line => (lines f line).filterMap (parseLine f)) = [] :=
    List.flatMap_eq_nil_iff.mpr fun line listed => remark_skipped (remarks line listed)
  have stated : ((items.map (lineOf f)).flatMap fun line => (lines f line).filterMap (parseLine f)) = items := by
    induction items with
    | nil => rfl
    | cons item rest ih =>
      obtain ⟨readable, unbroken⟩ := all item List.mem_cons_self
      rw [List.map_cons, List.flatMap_cons, lineOf_parsed readable unbroken,
        ih fun other listed => all other (List.mem_cons_of_mem _ listed), List.singleton_append]
  have ended : ([[]].flatMap fun line => (lines f line).filterMap (parseLine f)) = [] := by
    rw [List.flatMap_singleton, lines, Words.words_nil]
    rfl
  rw [lines, write, Words.words_join parts, List.filterMap_flatMap, List.flatMap_append, List.flatMap_append]
  unfold lines at skipped stated ended
  rw [skipped, stated, ended, List.nil_append, List.append_nil]

/-- A dictionary is read back just if each of its items is one that could be read. -/
theorem read_write_iff (parts : f.breaks newline = true) (remarks : ∀ line ∈ before, Remark f line)
    (d : PyDict (List α) (List α)) :
    read f (lines f (write f newline before d.items)) = d ↔ ∀ item ∈ d.items, Readable f item ∧ Unbroken f item := by
  constructor
  · intro back item member
    rw [← back] at member
    obtain ⟨readable, line, listed, inside⟩ := readable_of_read member
    exact ⟨readable, fun c within => (Words.word_of_mem_words listed).plain c (inside c within)⟩
  · intro all
    rw [read_eq, write_parsed parts remarks all]
    exact PyDict.empty_update d

end Marlinspike.Assignments
