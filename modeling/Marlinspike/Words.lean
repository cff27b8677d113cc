import Mathlib.Data.List.Basic

/-!
The words of a text, which some of its characters part, and the text in which single separators
part given words.
-/
namespace Marlinspike.Words
universe u
variable {α : Type u} (p : α → Bool)

def words (text : List α) : List (List α) := (text.splitOnP p).filter (· ≠ [])

/-- What can be a word. -/
structure Word (text : List α) : Prop where
  some_ : text ≠ []
  plain : ∀ c ∈ text, p c = false

variable {p}

theorem words_nil : words p ([] : List α) = [] := by
  rw [words, List.splitOnP_nil]
  rfl

theorem words_word {text : List α} (word : Word p text) : words p text = [text] := by
  rw [words, List.splitOnP_eq_singleton word.plain]
  exact List.filter_cons_of_pos (decide_eq_true word.some_)

theorem words_append {sep : α} (parts : p sep = true) (first second : List α) :
    words p (first ++ sep :: second) = words p first ++ words p second := by
  rw [words, List.splitOnP_append_cons first second parts, List.filter_append]
  rfl

/-- By the separators, from left to right. -/
theorem word_of_mem_words {text word : List α} (member : word ∈ words p text) : Word p word := by
  suffices all : ∀ (text before : List α), (∀ c ∈ before, p c = false) → ∀ word ∈ words p (before ++ text), Word p word from
    all text [] (fun _ inside => nomatch inside) word member
  intro text
  induction text with
  | nil =>
    intro before plain word member
    by_cases blank : before = []
    · rw [blank, List.append_nil, words_nil] at member
      cases member
    · rw [List.append_nil, words_word ⟨blank, plain⟩, List.mem_singleton] at member
      exact member ▸ ⟨blank, plain⟩
  | cons c rest ih =>
    intro before plain word member
    by_cases parts : p c = true
    · rw [words_append parts, List.mem_append] at member
      obtain earlier | later := member
      · by_cases blank : before = []
        · rw [blank, words_nil] at earlier
          cases earlier
        · rw [words_word ⟨blank, plain⟩, List.mem_singleton] at earlier
          exact earlier ▸ ⟨blank, plain⟩
      · exact ih [] (fun _ inside => nomatch inside) word later
    · refine ih (before ++ [c]) (fun d inside => ?_) word (by simpa using member)
      obtain old | new := List.mem_append.mp inside
      · exact plain d old
      · rw [List.mem_singleton.mp new]
        exact Bool.eq_false_iff.mpr parts

/-- Words that separators part are read back. -/
theorem words_intercalate {sep : α} (parts : p sep = true) {ws : List (List α)} (all : ∀ word ∈ ws, Word p word) :
    words p ([sep].intercalate ws) = ws := by
  induction ws with
  | nil => exact words_nil
  | cons word rest ih =>
    have rest_ := ih fun other member => all other (List.mem_cons_of_mem _ member)
    by_cases last : rest = []
    · rw [last, List.intercalate_singleton, words_word (all word List.mem_cons_self)]
    · rw [List.intercalate_cons_of_ne_nil last, List.append_assoc, List.singleton_append, words_append parts, rest_,
        words_word (all word List.mem_cons_self)]
      rfl

/-- A separated text has the words of its parts. -/
theorem words_join {sep : α} (parts : p sep = true) (texts : List (List α)) :
    words p ([sep].intercalate texts) = texts.flatMap (words p) := by
  induction texts with
  | nil => exact words_nil
  | cons text rest ih =>
    rw [List.flatMap_cons]
    by_cases last : rest = []
    · rw [last, List.intercalate_singleton, List.flatMap_nil, List.append_nil]
    · rw [List.intercalate_cons_of_ne_nil last, List.append_assoc, List.singleton_append, words_append parts, ih]

end Marlinspike.Words
