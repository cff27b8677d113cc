import Marlinspike.Plugins.CisaCoverage
import Marlinspike.Words

/-!
The search for what goes by several names. A whole term that is an alias stands for its group, but
where more text follows, every word of it is looked up by itself; so an alias of several words finds
what its group finds only as far as its words do (`invariant_iff`).
-/
namespace Marlinspike.Plugins.CisaAliases
open Marlinspike.Reports (Library)
open Marlinspike.Words
open Marlinspike.Plugins.Cisa

/-! ### Scores -/

section Scores
variable (library : Library) (isWord : Char → Bool) {advisory : Json}

/-- The term is somewhere in a searched field. -/
def Occurs (advisory : Json) (term : String) : Prop :=
  ∃ field ∈ searchFields, term.toList <:+: (fieldText library advisory field.1).toList

theorem occurrences_isEmpty (term : List Char) : ∀ (text : List Char) (before : Option Char),
    (occurrences term before text).isEmpty = false ↔ term <:+: text := by
  intro text
  induction text with
  | nil =>
    intro before
    rw [occurrences, List.infix_nil]
    by_cases blank : term = [] <;> simp [blank]
  | cons c rest ih =>
    intro before
    rw [occurrences, List.infix_cons_iff, ← ih (some c), ← List.isPrefixOf_iff_prefix]
    by_cases starts : term.isPrefixOf (c :: rest) = true <;> simp [starts]

theorem weight_pos {field : String × Nat} (member : field ∈ searchFields) : 0 < field.2 := by
  have all : searchFields.all (fun field => decide (0 < field.2)) = true := by decide
  exact of_decide_eq_true (List.all_eq_true.mp all field member)

theorem termScore_pos_iff {term : String} (some_ : term ≠ "") {field : String × Nat} (member : field ∈ searchFields) :
    0 < termScore library isWord advisory term field ↔ term.toList <:+: (fieldText library advisory field.1).toList := by
  rw [← occurrences_isEmpty term.toList _ none]
  have weight := weight_pos member
  unfold termScore
  dsimp only
  by_cases blank : fieldText library advisory field.1 = "" ∨
      (occurrences term.toList none (fieldText library advisory field.1).toList).isEmpty = true
  · rw [if_pos blank]
    refine ⟨fun scored => absurd scored (by omega), fun found => ?_⟩
    obtain empty | none_ := blank
    · rw [empty, occurrences_isEmpty, String.toList_empty, List.infix_nil, String.toList_eq_nil_iff] at found
      exact absurd found some_
    · rw [none_] at found
      exact absurd found (by decide)
  · rw [if_neg blank]
    rw [not_or, Bool.not_eq_true] at blank
    refine ⟨fun _ => blank.2, fun _ => ?_⟩
    split_ifs <;> omega

theorem foldl_max_pos_iff (scores : List Nat) (start : Nat) :
    0 < scores.foldl max start ↔ 0 < start ∨ ∃ score ∈ scores, 0 < score := by
  induction scores generalizing start with
  | nil => simp
  | cons score rest ih =>
    rw [List.foldl_cons, ih]
    simp only [lt_max_iff, List.mem_cons, exists_eq_or_imp, or_assoc]

theorem groupScore_pos_iff {group : List String} (some_ : ∀ term ∈ group, term ≠ "") :
    0 < groupScore library isWord advisory group ↔ ∃ term ∈ group, Occurs library advisory term := by
  rw [groupScore, foldl_max_pos_iff]
  simp only [Nat.lt_irrefl, false_or, List.mem_flatMap, List.mem_map]
  constructor
  · rintro ⟨score, ⟨term, member, field, searched, rfl⟩, scored⟩
    exact ⟨term, member, field, searched, (termScore_pos_iff library isWord (some_ term member) searched).mp scored⟩
  · rintro ⟨term, member, field, searched, inside⟩
    exact ⟨_, ⟨term, member, field, searched, rfl⟩,
      (termScore_pos_iff library isWord (some_ term member) searched).mpr inside⟩

/-- Every group has a term that occurs. -/
theorem scoreAdvisory_pos_iff {groups : List (List String)} (some_ : groups ≠ [])
    (all : ∀ group ∈ groups, ∀ term ∈ group, term ≠ "") :
    1 ≤ scoreAdvisory library isWord advisory groups ↔ ∀ group ∈ groups, ∃ term ∈ group, Occurs library advisory term := by
  have each : ∀ group ∈ groups, 0 < groupScore library isWord advisory group ↔
      ∃ term ∈ group, Occurs library advisory term :=
    fun group member => groupScore_pos_iff library isWord (all group member)
  unfold scoreAdvisory
  dsimp only
  by_cases zero : ((groups.map (groupScore library isWord advisory)).any (· = 0)) = true
  · rw [if_pos zero]
    obtain ⟨score, listed, none_⟩ := List.any_eq_true.mp zero
    obtain ⟨group, member, rfl⟩ := List.mem_map.mp listed
    refine ⟨fun scored => absurd scored (by omega), fun found => ?_⟩
    have positive := (each group member).mpr (found group member)
    have blank := of_decide_eq_true none_
    omega
  · rw [if_neg zero]
    have positive : ∀ group ∈ groups, 0 < groupScore library isWord advisory group := by
      intro group member
      refine Nat.pos_of_ne_zero fun none_ => zero (List.any_eq_true.mpr ⟨_, List.mem_map_of_mem member, ?_⟩)
      exact decide_eq_true none_
    refine ⟨fun _ group member => (each group member).mp (positive group member), fun _ => ?_⟩
    obtain ⟨group, rest, rfl⟩ := List.exists_cons_of_ne_nil some_
    have first := positive group List.mem_cons_self
    rw [List.map_cons, List.sum_cons]
    omega

end Scores

/-! ### Groups -/

/-- The name of a group and its aliases, as they are looked up. -/
def groupTerms (library : Library) (group : Group) : List String :=
  ((normalize library group.name) :: group.aliases.map (normalize library)).filter (· ≠ "")

/-- No two groups have a term in common. -/
def Apart (library : Library) (groups : List Group) : Prop :=
  groups.Pairwise fun group other => ∀ term ∈ groupTerms library group, term ∉ groupTerms library other

section Expansions
variable (library : Library)

theorem ne_of_mem_groupTerms {group : Group} {term : String} (member : term ∈ groupTerms library group) : term ≠ "" :=
  of_decide_eq_true (List.mem_filter.mp member).2

theorem get_foldl_set (terms meaning : List String) (expansions : PyDict String (List String)) (term : String) :
    (terms.foldl (fun expansions term => expansions.set term meaning) expansions).get term =
      if term ∈ terms then some meaning else expansions.get term := by
  induction terms generalizing expansions with
  | nil => simp
  | cons first rest ih =>
    rw [List.foldl_cons, ih, PyDict.get_set]
    by_cases later : term ∈ rest
    · simp [later]
    · by_cases same : first = term
      · simp [later, same]
      · have other : term ∉ first :: rest := by simp [later, Ne.symm same]
        rw [if_neg later, if_neg same, if_neg other]

theorem loadExpansions_concat (groups : List Group) (group : Group) (term : String) :
    (loadExpansions library (groups ++ [group])).get term =
      if term ∈ groupTerms library group then some (groupTerms library group)
      else (loadExpansions library groups).get term := by
  rw [loadExpansions, List.foldl_concat]
  exact get_foldl_set _ _ _ _

theorem get_loadExpansions_eq_none_iff {groups : List Group} {term : String} :
    (loadExpansions library groups).get term = none ↔ ∀ group ∈ groups, term ∉ groupTerms library group := by
  induction groups using List.reverseRecOn with
  | nil => simp [loadExpansions]
  | append_singleton groups last ih =>
    rw [loadExpansions_concat]
    by_cases inside : term ∈ groupTerms library last
    · simp [inside]
    · rw [if_neg inside, ih]
      simp only [List.mem_append, List.mem_singleton]
      exact ⟨fun all group member => member.elim (all group) fun same => same ▸ inside,
        fun all group member => all group (.inl member)⟩

/-- Every term stands for its group. -/
theorem get_loadExpansions {groups : List Group} (apart : Apart library groups) {group : Group} (member : group ∈ groups)
    {term : String} (inside : term ∈ groupTerms library group) :
    (loadExpansions library groups).get term = some (groupTerms library group) := by
  induction groups using List.reverseRecOn with
  | nil => cases member
  | append_singleton groups last ih =>
    rw [loadExpansions_concat]
    obtain ⟨before, -, across⟩ := List.pairwise_append.mp apart
    obtain old | new := List.mem_append.mp member
    · rw [if_neg (across group old last (List.mem_singleton_self _) term inside)]
      exact ih before old
    · rw [List.mem_singleton.mp new] at inside ⊢
      exact if_pos inside

theorem ne_of_get_loadExpansions {groups : List Group} {term : String} {terms : List String}
    (found : (loadExpansions library groups).get term = some terms) : ∀ other ∈ terms, other ≠ "" := by
  induction groups using List.reverseRecOn with
  | nil => cases found
  | append_singleton groups last ih =>
    rw [loadExpansions_concat] at found
    split_ifs at found with inside
    · obtain rfl := Option.some.inj found
      exact fun other member => ne_of_mem_groupTerms library member
    · exact ih found

/-! ### Texts -/

/-- The words that are looked up. -/
def wordsOf (text : String) : List String := (words isSpace (normalize library text).toList).map String.ofList

/-- What a word stands for, where it is looked up by itself. -/
def meanings (groups : List Group) (word : String) : List String := ((loadExpansions library groups).get word).getD [word]

theorem ne_of_mem_wordsOf {text word : String} (member : word ∈ wordsOf library text) : word ≠ "" := by
  obtain ⟨chars, inside, rfl⟩ := List.mem_map.mp member
  have some_ := (word_of_mem_words inside).some_
  simpa using some_

theorem ne_of_mem_meanings {groups : List Group} {word : String} (some_ : word ≠ "") :
    ∀ term ∈ meanings library groups word, term ≠ "" := by
  intro term member
  unfold meanings at member
  cases found : (loadExpansions library groups).get word with
  | none =>
    rw [found, Option.getD_none, List.mem_singleton] at member
    exact member ▸ some_
  | some terms =>
    rw [found, Option.getD_some] at member
    exact ne_of_get_loadExpansions library found term member

theorem buildTermGroups_of_none {groups : List Group} {text : String}
    (none_ : (loadExpansions library groups).get (normalize library text) = none) :
    buildTermGroups library text (loadExpansions library groups) = (wordsOf library text).map (meanings library groups) := by
  unfold buildTermGroups
  dsimp only
  rw [none_, wordsOf, List.map_map]
  rfl

end Expansions

/-! ### Normalized texts -/

/-- `str.lower`, as far as it goes word by word. -/
structure Lowering (lower : String → String) : Prop where
  empty : lower "" = ""
  spaced : ∀ first second, lower (first ++ " " ++ second) = lower first ++ " " ++ lower second
  word : ∀ text, Word isSpace text.toList → Word isSpace (lower text).toList

section Normalized
variable {library : Library}

/-- The words of a text, each in lower case. -/
def loweredWords (library : Library) (text : String) : List (List Char) :=
  (words isSpace text.toList).map fun word => (library.lower (String.ofList word)).toList

theorem word_of_mem_loweredWords (lowering : Lowering library.lower) {text : String} {word : List Char}
    (member : word ∈ loweredWords library text) : Word isSpace word := by
  obtain ⟨chars, inside, rfl⟩ := List.mem_map.mp member
  exact lowering.word _ (by simpa using word_of_mem_words inside)

theorem lower_intercalate (lowering : Lowering library.lower) (ws : List (List Char)) :
    (library.lower (String.ofList ([' '].intercalate ws))).toList =
      [' '].intercalate (ws.map fun word => (library.lower (String.ofList word)).toList) := by
  induction ws with
  | nil => simp [lowering.empty]
  | cons word rest ih =>
    by_cases last : rest = []
    · rw [last, List.intercalate_singleton, List.map_singleton, List.intercalate_singleton]
    · have texts : String.ofList (word ++ [' '] ++ [' '].intercalate rest) =
          String.ofList word ++ " " ++ String.ofList ([' '].intercalate rest) := by
        apply String.toList_injective
        simp
      rw [List.map_cons, List.intercalate_cons_of_ne_nil last, List.intercalate_cons_of_ne_nil (by simpa using last), ← ih,
        texts, lowering.spaced]
      simp

theorem normalize_toList (lowering : Lowering library.lower) (text : String) :
    (normalize library text).toList = [' '].intercalate (loweredWords library text) :=
  lower_intercalate lowering _

theorem wordsOf_eq (lowering : Lowering library.lower) (text : String) :
    wordsOf library text = (loweredWords library text).map String.ofList := by
  rw [wordsOf, normalize_toList lowering,
    words_intercalate (by decide) fun word member => word_of_mem_loweredWords lowering member]

theorem loweredWords_append (first second : String) :
    loweredWords library (first ++ " " ++ second) = loweredWords library first ++ loweredWords library second := by
  have texts : (first ++ " " ++ second).toList = first.toList ++ ' ' :: second.toList := by simp
  rw [loweredWords, texts, words_append (by decide), List.map_append]
  rfl

theorem wordsOf_append (lowering : Lowering library.lower) (first second : String) :
    wordsOf library (first ++ " " ++ second) = wordsOf library first ++ wordsOf library second := by
  rw [wordsOf_eq lowering, wordsOf_eq lowering, wordsOf_eq lowering, loweredWords_append, List.map_append]

/-- A text without words changes nothing. -/
theorem normalize_append_blank (lowering : Lowering library.lower) (first : String) {second : String}
    (blank : wordsOf library second = []) : normalize library (first ++ " " ++ second) = normalize library first := by
  rw [wordsOf_eq lowering, List.map_eq_nil_iff] at blank
  apply String.toList_injective
  rw [normalize_toList lowering, normalize_toList lowering, loweredWords_append, blank, List.append_nil]

end Normalized

/-! ### Searches for a term of a group and more -/

/-- A term of a group, and more text that has none. -/
structure Named (library : Library) (groups : List Group) (group : Group) (term more : String) : Prop where
  lowering : Lowering library.lower
  apart : Apart library groups
  member : group ∈ groups
  listed : normalize library term ∈ groupTerms library group
  plain : ∀ word ∈ wordsOf library more, ∀ group ∈ groups, word ∉ groupTerms library group
  unlisted : wordsOf library more ≠ [] → ∀ group ∈ groups, normalize library (term ++ " " ++ more) ∉ groupTerms library group

section Searches
variable (library : Library) (numbers : Numbers) (isWord : Char → Bool) (groups : List Group) (catalog : Catalog)
  (group : Group)

/-- Some term of the group occurs, and so does all of the other text. -/
def Meant (more : String) (advisory : Json) : Prop :=
  (∃ term ∈ groupTerms library group, Occurs library advisory term) ∧
    ∀ word ∈ wordsOf library more, Occurs library advisory word

def Finds (term more : String) : Prop := ∀ advisory,
  advisory ∈ search library numbers isWord groups catalog (term ++ " " ++ more) ↔
    advisory ∈ catalog.advisories ∧ Meant library group more advisory

/-- Both terms find what is meant. -/
def Invariant (first second more : String) : Prop :=
  Finds library numbers isWord groups catalog group first more ∧
    Finds library numbers isWord groups catalog group second more

/-- Where the other text occurs, the words of the term stand for the group. -/
def Apt (term more : String) : Prop := ∀ advisory ∈ catalog.advisories,
  (∀ word ∈ wordsOf library more, Occurs library advisory word) →
    ((∃ term ∈ groupTerms library group, Occurs library advisory term) ↔
      ∀ word ∈ wordsOf library term, ∃ meaning ∈ meanings library groups word, Occurs library advisory meaning)

variable {library numbers isWord groups catalog group} {term more : String} {advisory : Json}

theorem meanings_of_plain {word : String} (plain : ∀ group ∈ groups, word ∉ groupTerms library group) :
    meanings library groups word = [word] := by
  rw [meanings, (get_loadExpansions_eq_none_iff library).mpr plain]
  rfl

theorem mem_search_blank (named : Named library groups group term more) (blank : wordsOf library more = []) :
    advisory ∈ search library numbers isWord groups catalog (term ++ " " ++ more) ↔
      advisory ∈ catalog.advisories ∧ ∃ term ∈ groupTerms library group, Occurs library advisory term := by
  have built : buildTermGroups library (term ++ " " ++ more) (loadExpansions library groups) = [groupTerms library group] := by
    unfold buildTermGroups
    dsimp only
    rw [normalize_append_blank named.lowering term blank, get_loadExpansions library named.apart named.member named.listed]
  have some_ : ∀ terms ∈ [groupTerms library group], ∀ term ∈ terms, term ≠ "" := by
    intro terms listed term member
    rw [List.mem_singleton.mp listed] at member
    exact ne_of_mem_groupTerms library member
  rw [mem_search, built, scoreAdvisory_pos_iff library isWord (List.cons_ne_nil _ _) some_]
  simp

theorem mem_search_more (named : Named library groups group term more) (some_ : wordsOf library more ≠ []) :
    advisory ∈ search library numbers isWord groups catalog (term ++ " " ++ more) ↔ advisory ∈ catalog.advisories ∧
      (∀ word ∈ wordsOf library term, ∃ meaning ∈ meanings library groups word, Occurs library advisory meaning) ∧
        ∀ word ∈ wordsOf library more, Occurs library advisory word := by
  have built : buildTermGroups library (term ++ " " ++ more) (loadExpansions library groups) =
      (wordsOf library term ++ wordsOf library more).map (meanings library groups) := by
    rw [buildTermGroups_of_none library ((get_loadExpansions_eq_none_iff library).mpr (named.unlisted some_)),
      wordsOf_append named.lowering]
  have all : ∀ terms ∈ (wordsOf library term ++ wordsOf library more).map (meanings library groups),
      ∀ term ∈ terms, term ≠ "" := by
    intro terms listed
    obtain ⟨word, member, rfl⟩ := List.mem_map.mp listed
    refine ne_of_mem_meanings library ?_
    exact (List.mem_append.mp member).elim (ne_of_mem_wordsOf library) (ne_of_mem_wordsOf library)
  have groups_ : (wordsOf library term ++ wordsOf library more).map (meanings library groups) ≠ [] := by
    simp [some_]
  have plain : (∀ word ∈ wordsOf library more, ∃ meaning ∈ meanings library groups word, Occurs library advisory meaning) ↔
      ∀ word ∈ wordsOf library more, Occurs library advisory word := by
    refine forall₂_congr fun word member => ?_
    rw [meanings_of_plain (named.plain word member)]
    simp
  rw [mem_search, built, scoreAdvisory_pos_iff library isWord groups_ all, ← plain]
  simp only [ne_eq, groups_, not_false_eq_true, true_and, List.forall_mem_map, List.forall_mem_append]

theorem finds_iff (named : Named library groups group term more) :
    Finds library numbers isWord groups catalog group term more ↔
      wordsOf library more = [] ∨ Apt library groups catalog group term more := by
  unfold Finds Meant
  by_cases blank : wordsOf library more = []
  · simp [mem_search_blank named blank, blank]
  · simp only [mem_search_more named blank, blank, false_or]
    constructor
    · intro finds advisory listed more_
      have same := finds advisory
      exact ⟨fun found => (same.mpr ⟨listed, found, more_⟩).2.1, fun found => (same.mp ⟨listed, found, more_⟩).2.1⟩
    · intro apt advisory
      refine and_congr_right fun listed => ⟨fun found => ⟨?_, found.2⟩, fun found => ⟨?_, found.2⟩⟩
      · exact (apt advisory listed found.2).mpr found.1
      · exact (apt advisory listed found.2).mp found.1

theorem Occurs.within {term part : String} (occurs : Occurs library advisory term) (inside : part.toList <:+: term.toList) :
    Occurs library advisory part := by
  obtain ⟨field, member, found⟩ := occurs
  exact ⟨field, member, inside.trans found⟩

/-- In every catalog: all that one word of the term stands for contains a term of the group, and every term
of the group, or else the text that follows, contains something that each word of it stands for. -/
theorem apt_of_words {sound : String} (listed : sound ∈ wordsOf library term)
    (contains : ∀ meaning ∈ meanings library groups sound, ∃ own ∈ groupTerms library group, own.toList <:+: meaning.toList)
    (complete : ∀ own ∈ groupTerms library group, ∀ word ∈ wordsOf library term, ∃ meaning ∈ meanings library groups word,
      meaning.toList <:+: own.toList ∨ ∃ other ∈ wordsOf library more, meaning.toList <:+: other.toList) :
    Apt library groups catalog group term more := by
  intro advisory _ more_
  constructor
  · rintro ⟨own, member, occurs⟩ word inside
    obtain ⟨meaning, stands, part | ⟨other, follows, part⟩⟩ := complete own member word inside
    · exact ⟨meaning, stands, occurs.within part⟩
    · exact ⟨meaning, stands, (more_ other follows).within part⟩
  · intro found
    obtain ⟨meaning, stands, occurs⟩ := found sound listed
    obtain ⟨own, member, part⟩ := contains meaning stands
    exact ⟨own, member, occurs.within part⟩

/-- A term of one word stands for its group wherever it is. -/
theorem apt_of_word (named : Named library groups group term more) (word : wordsOf library term = [normalize library term]) :
    Apt library groups catalog group term more := by
  have same : meanings library groups (normalize library term) = groupTerms library group := by
    rw [meanings, get_loadExpansions library named.apart named.member named.listed]
    rfl
  refine apt_of_words (word ▸ List.mem_singleton_self _) (fun meaning stands => ?_) fun own member other inside => ?_
  · exact ⟨meaning, same ▸ stands, List.infix_rfl⟩
  · rw [word, List.mem_singleton] at inside
    exact ⟨own, by rw [inside, same]; exact member, .inl List.infix_rfl⟩

end Searches

/-- The search is invariant exactly if nothing follows the terms, or the words of both stand for
their group in the advisories with the text that follows. -/
theorem invariant_iff {library : Library} {groups : List Group} {group : Group} {first second more : String}
    (named : Named library groups group first more) (named' : Named library groups group second more) (numbers : Numbers)
    (isWord : Char → Bool) (catalog : Catalog) :
    Invariant library numbers isWord groups catalog group first second more ↔ wordsOf library more = [] ∨
      (Apt library groups catalog group first more ∧ Apt library groups catalog group second more) := by
  rw [Invariant, finds_iff named, finds_iff named', ← or_and_left]

/-! ### Two words for one vendor -/

open Marlinspike.Plugins.CisaCoverage (asciiLibrary noNumbers)

def rockwell : Group := ⟨"rockwell", ["allen-bradley", "allen bradley", "logix"]⟩

theorem isSpace_toLower {c : Char} (plain : isSpace c = false) : isSpace c.toLower = false := by
  have letters : ∀ n < 123, 97 ≤ n → spaceCodes.contains n = false := by decide
  unfold Char.toLower
  split
  · rename_i upper
    have first : 65 ≤ c.val.toNat := upper.1
    have last : c.val.toNat ≤ 90 := upper.2
    have lower : (c.val + ('a'.val - 'A'.val)).toNat = c.val.toNat + 32 := by
      have shift : ('a'.val - 'A'.val).toNat = 32 := by decide
      rw [UInt32.toNat_add, shift]
      exact Nat.mod_eq_of_lt (by omega)
    refine letters _ ?_ ?_
    · change (c.val + ('a'.val - 'A'.val)).toNat < 123
      omega
    · change 97 ≤ (c.val + ('a'.val - 'A'.val)).toNat
      omega
  · exact plain

theorem lowering_asciiLibrary : Lowering asciiLibrary.lower where
  empty := by decide +kernel
  spaced first second := by
    apply String.toList_injective
    change (String.ofList ((first ++ " " ++ second).toList.map Char.toLower)).toList =
      (String.ofList (first.toList.map Char.toLower) ++ " " ++ String.ofList (second.toList.map Char.toLower)).toList
    simp
  word text word := by
    change Word isSpace (String.ofList (text.toList.map Char.toLower)).toList
    rw [String.toList_ofList]
    refine ⟨by simpa using word.some_, fun c member => ?_⟩
    obtain ⟨d, inside, rfl⟩ := List.mem_map.mp member
    exact isSpace_toLower (word.plain d inside)

theorem named_rockwell {term : String} (listed : normalize asciiLibrary term ∈ groupTerms asciiLibrary rockwell)
    (unlisted : normalize asciiLibrary (term ++ " " ++ "Firmware") ∉ groupTerms asciiLibrary rockwell) :
    Named asciiLibrary [rockwell] rockwell term "Firmware" where
  lowering := lowering_asciiLibrary
  apart := List.pairwise_singleton _ _
  member := List.mem_singleton_self _
  listed := listed
  plain := by decide +kernel
  unlisted _ group member := by
    rw [List.mem_singleton.mp member]
    exact unlisted

/-- An advisory for Rockwell. -/
def firmwareAdvisory : Json := .obj
  [("id", .str "ICSA-21-056-03"), ("vendor", .str "Rockwell Automation"), ("product", .str "Logix Controllers"),
   ("title", .str "Firmware update")]

def firmwareCatalog : Catalog := ⟨[firmwareAdvisory], .obj [], .null⟩

theorem named_first : Named asciiLibrary [rockwell] rockwell "Allen Bradley" "Firmware" :=
  named_rockwell (by decide +kernel) (by decide +kernel)

theorem named_second : Named asciiLibrary [rockwell] rockwell "Rockwell" "Firmware" :=
  named_rockwell (by decide +kernel) (by decide +kernel)

theorem invariant_rockwell :
    Invariant asciiLibrary noNumbers Char.isAlphanum [rockwell] firmwareCatalog rockwell
        "Allen Bradley" "Rockwell" "Firmware" ↔
      wordsOf asciiLibrary "Firmware" = [] ∨
        (Apt asciiLibrary [rockwell] firmwareCatalog rockwell "Allen Bradley" "Firmware" ∧
          Apt asciiLibrary [rockwell] firmwareCatalog rockwell "Rockwell" "Firmware") :=
  invariant_iff named_first named_second noNumbers Char.isAlphanum firmwareCatalog

/-- One name finds the advisory, and the other one does not. -/
theorem allen_bradley_not_found : Named asciiLibrary [rockwell] rockwell "Allen Bradley" "Firmware" ∧
    Named asciiLibrary [rockwell] rockwell "Rockwell" "Firmware" ∧
    ¬Invariant asciiLibrary noNumbers Char.isAlphanum [rockwell] firmwareCatalog rockwell
      "Allen Bradley" "Rockwell" "Firmware" := by
  refine ⟨named_first, named_second, fun invariant => ?_⟩
  have lost : scoreAdvisory asciiLibrary Char.isAlphanum firmwareAdvisory (buildTermGroups asciiLibrary
      ("Allen Bradley" ++ " " ++ "Firmware") (loadExpansions asciiLibrary [rockwell])) = 0 := by decide +kernel
  have scored : 1 ≤ scoreAdvisory asciiLibrary Char.isAlphanum firmwareAdvisory (buildTermGroups asciiLibrary
      ("Rockwell" ++ " " ++ "Firmware") (loadExpansions asciiLibrary [rockwell])) := by decide +kernel
  have some_ : buildTermGroups asciiLibrary ("Rockwell" ++ " " ++ "Firmware")
      (loadExpansions asciiLibrary [rockwell]) ≠ [] := by
    decide +kernel
  have found : firmwareAdvisory ∈ search asciiLibrary noNumbers Char.isAlphanum [rockwell] firmwareCatalog
      ("Rockwell" ++ " " ++ "Firmware") :=
    (mem_search asciiLibrary noNumbers Char.isAlphanum).mpr ⟨List.mem_singleton_self _, some_, scored⟩
  have meant := (invariant.2 firmwareAdvisory).mp found
  obtain ⟨-, -, scored'⟩ := (mem_search asciiLibrary noNumbers Char.isAlphanum).mp ((invariant.1 firmwareAdvisory).mpr meant)
  rw [lost] at scored'
  exact absurd scored' (by decide)

end Marlinspike.Plugins.CisaAliases
