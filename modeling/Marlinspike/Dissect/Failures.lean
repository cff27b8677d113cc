import Marlinspike.Dissect.Files

/-!
What the header reader fails with. Whatever lengths a file declares, all that is raised is a
`ValueError`, but for one case: an interface block of which nothing more is read after the
four bytes that announce a resolution (`only_value_errors_iff`).
-/
namespace Marlinspike.Dissect.Failures
open Marlinspike.Struct
open Marlinspike.Dissect.Header
open Marlinspike.Dissect.Files

/-- Whether what is raised is a `ValueError`. -/
def isValueError : SummaryError → Bool
  | .optionIndex => false
  | _ => true

/-! ### Options -/

structure OptionHeader where
  pos : Nat
  code : Nat
  length : Nat
deriving DecidableEq, Repr

/-- The option headers from a position on, up to the end of the options or of the body. -/
def optionHeaders (endian : Endian) (body : Bytes) (optPos : Nat) : List OptionHeader :=
  if optPos + 4 ≤ body.length then
    let code := uintAt endian body optPos 2
    let length := uintAt endian body (optPos + 2) 2
    if code = 0 then [] else ⟨optPos, code, length⟩ :: optionHeaders endian body (optPos + 4 + (length + 3) / 4 * 4)
  else []
termination_by body.length - optPos

/-- A resolution is announced where the body ends. -/
def OptionHeader.Cut (header : OptionHeader) (body : Bytes) : Prop :=
  header.code = 9 ∧ 1 ≤ header.length ∧ header.pos + 4 = body.length

instance (header : OptionHeader) (body : Bytes) : Decidable (header.Cut body) := inferInstanceAs (Decidable (_ ∧ _))

section Walk
variable (endian : Endian) (body : Bytes)

theorem optionHeaders_past {optPos : Nat} (past : ¬optPos + 4 ≤ body.length) : optionHeaders endian body optPos = [] := by
  rw [optionHeaders, if_neg past]

theorem optionHeaders_end {optPos : Nat} (ended : uintAt endian body optPos 2 = 0) :
    optionHeaders endian body optPos = [] := by
  rw [optionHeaders]
  simp only [ended, if_true, ite_self]

theorem optionHeaders_next {optPos : Nat} (inside : optPos + 4 ≤ body.length)
    (going : uintAt endian body optPos 2 ≠ 0) :
    optionHeaders endian body optPos =
      ⟨optPos, uintAt endian body optPos 2, uintAt endian body (optPos + 2) 2⟩ ::
        optionHeaders endian body (optPos + 4 + (uintAt endian body (optPos + 2) 2 + 3) / 4 * 4) := by
  rw [optionHeaders, if_pos inside]
  simp only [going, if_false]

/-- The walk over the options fails at an announcement without a value, and nowhere else. -/
theorem scanOptions_error_iff (optPos resolution : Nat) (error : SummaryError) :
    scanOptions endian body optPos resolution = .error error ↔
      error = .optionIndex ∧ ∃ header ∈ optionHeaders endian body optPos, header.Cut body := by
  fun_induction scanOptions endian body optPos resolution with
  | case1 optPos resolution inside optCode ended =>
    rw [optionHeaders_end endian body ended]
    simp
  | case2 optPos resolution inside optCode optLen going announced none_ =>
    have short := List.getElem?_eq_none_iff.mp none_
    rw [optionHeaders_next endian body inside going]
    constructor
    · intro failed
      cases failed
      exact ⟨rfl, _, List.mem_cons_self, announced.1, announced.2, Nat.le_antisymm inside short⟩
    · rintro ⟨rfl, -⟩
      rfl
  | case3 optPos resolution inside optCode optLen next going announced tsresol found ih =>
    have long := (List.getElem?_eq_some_iff.mp found).1
    rw [optionHeaders_next endian body inside going, ih, List.exists_mem_cons_iff]
    refine and_congr_right fun _ => ⟨.inr, fun either => either.resolve_left ?_⟩
    rintro ⟨-, -, cut⟩
    exact absurd long (not_lt.mpr (le_of_eq cut.symm))
  | case4 optPos resolution inside optCode optLen next going other ih =>
    rw [optionHeaders_next endian body inside going, ih, List.exists_mem_cons_iff]
    refine and_congr_right fun _ => ⟨.inr, fun either => either.resolve_left ?_⟩
    rintro ⟨code, some_, -⟩
    exact other ⟨code, some_⟩
  | case5 optPos resolution past =>
    rw [optionHeaders_past endian body past]
    simp

end Walk

/-! ### Blocks -/

/-- The blocks that the walk takes up, with as much of their bodies as is inspected. -/
def walkedBlocks (endian : Endian) (rest : Bytes) : List (Nat × Bytes) :=
  if rest.length < 8 then []
  else
    let blockType := uintAt endian rest 0 4
    let blockLen := uintAt endian rest 4 4
    if blockLen < 12 ∨ blockLen % 4 ≠ 0 then []
    else
      let bodyLen := blockLen - 12
      let body := (rest.drop 8).take (readLength blockType bodyLen)
      if body.length < readLength blockType bodyLen then []
      else if ((rest.drop (8 + bodyLen)).take 4).length < 4 then []
      else (blockType, body) :: walkedBlocks endian (rest.drop (8 + bodyLen + 4))
termination_by rest.length
decreasing_by simp only [List.length_drop]; omega

/-- An interface block of which the walk over the options fails. -/
def CutShort (endian : Endian) (block : Nat × Bytes) : Prop :=
  block.1 = blockIdb ∧ 8 ≤ block.2.length ∧ ∃ header ∈ optionHeaders endian block.2 8, header.Cut block.2

section Blocks
variable (endian : Endian)

theorem inspect_error_iff (block : Nat × Bytes) (s : Section) (error : SummaryError) :
    inspect endian block.1 block.2 s = .error error ↔ error = .optionIndex ∧ CutShort endian block := by
  unfold inspect CutShort
  by_cases idb : block.1 = blockIdb
  · rw [if_pos idb, inspectInterface]
    by_cases long : 8 ≤ block.2.length
    · rw [if_pos long]
      simp only [idb, long, true_and]
      rw [← scanOptions_error_iff endian block.2 8 1000000 error]
      cases scanOptions endian block.2 8 1000000 <;> simp
    · simp [long]
  · rw [if_neg idb]
    simp only [idb, false_and, and_false, iff_false]
    split_ifs <;> simp

theorem readBlocks_error_iff (rest : Bytes) (s : Section) (error : SummaryError) :
    readBlocks endian rest s = .error error ↔
      error = .optionIndex ∧ ∃ block ∈ walkedBlocks endian rest, CutShort endian block := by
  fun_induction readBlocks endian rest s with
  | case1 rest s short =>
    rw [walkedBlocks, if_pos short]
    simp
  | case2 rest s long blockLen invalid =>
    rw [walkedBlocks, if_neg long, if_pos invalid]
    simp
  | case3 rest s long blockType blockLen valid bodyLen body partial_ =>
    rw [walkedBlocks, if_neg long, if_neg valid, if_pos partial_]
    simp
  | case4 rest s long blockType blockLen valid bodyLen body whole partial_ =>
    rw [walkedBlocks, if_neg long, if_neg valid, if_neg whole, if_pos partial_]
    simp
  | case5 rest s long blockType blockLen valid bodyLen body whole complete failure failed =>
    obtain ⟨rfl, cut⟩ := (inspect_error_iff endian (blockType, body) s failure).mp failed
    rw [walkedBlocks, if_neg long, if_neg valid, if_neg whole, if_neg complete, List.exists_mem_cons_iff, Except.error.injEq,
      eq_comm]
    exact ⟨fun same => ⟨same, .inl cut⟩, And.left⟩
  | case6 rest s long blockType blockLen valid bodyLen body whole complete next inspected ih =>
    have fine : ¬CutShort endian (blockType, body) := by
      intro cut
      have failed := (inspect_error_iff endian (blockType, body) s .optionIndex).mpr ⟨rfl, cut⟩
      rw [inspected] at failed
      cases failed
    rw [walkedBlocks, if_neg long, if_neg valid, if_neg whole, if_neg complete, List.exists_mem_cons_iff, ih]
    exact and_congr_right fun _ => ⟨.inr, fun either => either.resolve_left fine⟩

end Blocks

theorem readRecords_error {endian : Endian} {divisor snaplen : Nat} {rest : Bytes} {seen : Seen} {error : SummaryError}
    (failed : readRecords endian divisor snaplen rest seen = .error error) : ∃ inclLen, error = .absurdLength inclLen := by
  fun_induction readRecords endian divisor snaplen rest seen with
  | case1 => cases failed
  | case2 rest seen long inclLen absurd_ =>
    cases failed
    exact ⟨_, rfl⟩
  | case3 rest seen long tsSec tsSubsec inclLen fine ih => exact ih failed

/-! ### Files -/

/-- The byte order of a block capture and the length of its section header. -/
def sectionHeader (file : Bytes) : Option (Endian × Nat) :=
  let raw := file.take 12
  if raw.length < 12 ∨ value .big (file.take 4) ≠ blockShb ∨ uintAt .little raw 0 4 ≠ blockShb then none
  else
    let blockLen := uintAt .little raw 4 4
    let bom := uintAt .little raw 8 4
    if bom = shbBomLe then some (.little, blockLen)
    else if bom = shbBomBe then some (.big, value .big (pack .little 4 blockLen))
    else none

/-- A block capture with an interface block whose inspected part ends with the announcement of a
    resolution. -/
def EndsInResolution (file : Bytes) : Prop :=
  ∃ endian blockLen, sectionHeader file = some (endian, blockLen) ∧
    ∃ block ∈ walkedBlocks endian (file.drop blockLen), CutShort endian block

theorem readPcap_error {file : Bytes} {error : SummaryError} (failed : readPcap file = .error error) :
    isValueError error = true := by
  unfold readPcap at failed
  dsimp only at failed
  split_ifs at failed with short
  · cases failed
    rfl
  · split at failed
    · cases failed
      rfl
    · split at failed
      case h_1 read =>
        cases failed
        obtain ⟨inclLen, rfl⟩ := readRecords_error read
        rfl
      case h_2 => cases failed

/-- A block capture with a section header is read block by block. -/
theorem section_error_iff {file : Bytes} {endian : Endian} {blockLen : Nat}
    (header : sectionHeader file = some (endian, blockLen)) (error : SummaryError) :
    readCaptureSummary file = .error error ↔ readBlocks endian (file.drop blockLen) .empty = .error error := by
  unfold sectionHeader at header
  dsimp only at header
  split_ifs at header with missing little big
  all_goals
    obtain ⟨rfl, rfl⟩ := Prod.mk.inj (Option.some.inj header)
    simp only [not_or, not_lt, not_not] at missing
    obtain ⟨long, magic, type⟩ := missing
    have four : ¬(file.take 4).length < 4 := by
      rw [List.length_take] at long ⊢
      omega
    rw [readCaptureSummary, if_neg four, if_pos magic, readPcapng]
    simp only [not_lt.mpr long, type, ne_eq, not_true_eq_false, if_false]
  · rw [if_pos little]
    cases readBlocks .little (file.drop (uintAt .little (file.take 12) 4 4)) .empty <;> simp
  · rw [if_neg little, if_pos big]
    cases readBlocks .big (file.drop (value .big (pack .little 4 (uintAt .little (file.take 12) 4 4)))) .empty <;> simp

theorem other_error {file : Bytes} (other : sectionHeader file = none) {error : SummaryError}
    (failed : readCaptureSummary file = .error error) : isValueError error = true := by
  unfold readCaptureSummary at failed
  dsimp only at failed
  split_ifs at failed with short magic
  · cases failed
    rfl
  · unfold readPcapng at failed
    unfold sectionHeader at other
    dsimp only at failed other
    split_ifs at failed with short type little big
    · cases failed
      rfl
    · cases failed
      rfl
    · rw [if_neg (not_or.mpr ⟨short, not_or.mpr ⟨not_not.mpr magic, type⟩⟩), if_pos little] at other
      cases other
    · rw [if_neg (not_or.mpr ⟨short, not_or.mpr ⟨not_not.mpr magic, type⟩⟩), if_neg little, if_pos big] at other
      cases other
    · cases failed
      rfl
  · exact readPcap_error failed

/-- The reader fails with a `ValueError`, if it fails, exactly for the files that do not end an
    interface block with the announcement of a resolution. -/
theorem only_value_errors_iff (file : Bytes) :
    (∀ error, readCaptureSummary file = .error error → isValueError error = true) ↔ ¬EndsInResolution file := by
  constructor
  · rintro fine ⟨endian, blockLen, header, cut⟩
    have failed := (section_error_iff header .optionIndex).mpr
      ((readBlocks_error_iff endian (file.drop blockLen) .empty .optionIndex).mpr ⟨rfl, cut⟩)
    cases fine .optionIndex failed
  · intro whole error failed
    cases header : sectionHeader file with
    | none => exact other_error header failed
    | some found =>
      obtain ⟨endian, blockLen⟩ := found
      obtain ⟨-, cut⟩ := (readBlocks_error_iff endian (file.drop blockLen) .empty error).mp
        ((section_error_iff header error).mp failed)
      exact absurd ⟨endian, blockLen, header, cut⟩ whole

/-- An interface whose resolution is announced, and no more. -/
def announcedResolution : Pcapng where
  endian := .little
  header := [1, 0, 0, 0, 255, 255, 255, 255, 255, 255, 255, 255]
  versioned := by decide
  aligned := by decide
  fits := by decide
  blocks := [⟨1, [1, 0, 0, 0, 0, 0, 4, 0, 9, 0, 1, 0], by decide, by decide⟩]

theorem announced_resolution_escapes :
    ¬∀ error, readCaptureSummary announcedResolution.encode = .error error → isValueError error = true := by
  intro fine
  have failed : readCaptureSummary announcedResolution.encode = .error .optionIndex := by decide +kernel
  cases fine .optionIndex failed

end Marlinspike.Dissect.Failures
