import Mathlib.Data.Char
import Mathlib.Data.Nat.Log
import Mathlib.Tactic.Ring

/-!
Decimal numerals of a given width, as lists of characters, and their lexicographic
order. Numerals of one width compare as the numbers they stand for. Between widths
they do not: a run of nines, closed by a character beyond the digits, comes after
every longer numeral.
-/
namespace Marlinspike.Decimal

/-- The character of a digit. -/
def digit (d : Nat) : Char := Char.ofNat (48 + d)

/-- The last `width` decimal digits of a number, the most significant first. -/
def decimal : Nat → Nat → List Char
  | 0, _ => []
  | width + 1, n => digit (n / 10 ^ width % 10) :: decimal width n

/-- The number that a list of digits stands for. -/
def value (digits : List Char) : Nat := digits.foldl (fun n c => 10 * n + (c.toNat - 48)) 0

/-- How many digits a number has. -/
def width (n : Nat) : Nat := Nat.log 10 n + 1

@[simp] theorem length_decimal (w n : Nat) : (decimal w n).length = w := by
  induction w with
  | zero => rfl
  | succ w ih => simp [decimal, ih]

theorem digit_lt_digit {a b : Nat} (less : a < b) (inside : b < 10) : digit a < digit b := by
  have below : ∀ b < 10, ∀ a < b, digit a < digit b := by decide
  exact below b inside a less

theorem isDigit_digit {d : Nat} (inside : d < 10) : (digit d).isDigit = true := by
  have all : ∀ d < 10, (digit d).isDigit = true := by decide
  exact all d inside

theorem toNat_digit {d : Nat} (inside : d < 10) : (digit d).toNat - 48 = d := by
  have all : ∀ d < 10, (digit d).toNat - 48 = d := by decide
  exact all d inside

theorem isDigit_of_mem_decimal {w n : Nat} {c : Char} (member : c ∈ decimal w n) : c.isDigit = true := by
  induction w with
  | zero => cases member
  | succ w ih =>
    rcases List.mem_cons.mp member with rfl | later
    · exact isDigit_digit (Nat.mod_lt _ (by decide))
    · exact ih later

private theorem foldl_decimal (w n start : Nat) :
    (decimal w n).foldl (fun n c => 10 * n + (c.toNat - 48)) start = start * 10 ^ w + n % 10 ^ w := by
  induction w generalizing start with
  | zero => simp [decimal, Nat.mod_one]
  | succ w ih =>
    have top := toNat_digit (d := n / 10 ^ w % 10) (Nat.mod_lt _ (by decide))
    have split : n % 10 ^ (w + 1) = n / 10 ^ w % 10 * 10 ^ w + n % 10 ^ w := by
      rw [Nat.pow_succ, Nat.mod_mul, Nat.mul_comm, Nat.add_comm]
    rw [decimal, List.foldl_cons, ih, top, split, Nat.pow_succ]
    ring

theorem value_decimal {w n : Nat} (fits : n < 10 ^ w) : value (decimal w n) = n := by
  rw [value, foldl_decimal, Nat.mod_eq_of_lt fits, Nat.zero_mul, Nat.zero_add]

theorem lt_pow_width (n : Nat) : n < 10 ^ width n := Nat.lt_pow_succ_log_self (by decide) n

theorem width_mono {m n : Nat} (le : m ≤ n) : width m ≤ width n := Nat.succ_le_succ (Nat.log_mono_right le)

theorem lt_width_of_pow_le {w n : Nat} (large : 10 ^ w ≤ n) : w < width n :=
  Nat.lt_succ_of_le (Nat.le_log_of_pow_le (by decide) large)

/-! ### Lexicographic order -/

theorem append_lt_append_left (common a b : List Char) : common ++ a < common ++ b ↔ a < b := by
  induction common with
  | nil => rfl
  | cons c rest ih => simp [ih]

/-- What decides between lists of one length decides between any that begin with them. -/
theorem append_lt_append_of_lt {a b : List Char} (same : a.length = b.length) (less : a < b) (s t : List Char) :
    a ++ s < b ++ t := by
  induction a generalizing b with
  | nil =>
    obtain rfl := List.length_eq_zero_iff.mp same.symm
    exact absurd less (by simp)
  | cons x a ih =>
    cases b with
    | nil => cases same
    | cons y b =>
      simp only [List.cons_append, List.cons_lt_cons_iff] at less ⊢
      rcases less with less | ⟨equal, less⟩
      · exact .inl less
      · exact .inr ⟨equal, ih (Nat.succ.inj same) less⟩

private theorem decimal_lt_of_mod {w m n : Nat} (less : m % 10 ^ w < n % 10 ^ w) : decimal w m < decimal w n := by
  induction w with
  | zero => simp [Nat.mod_one] at less
  | succ w ih =>
    have split (k : Nat) : k % 10 ^ (w + 1) = 10 ^ w * (k / 10 ^ w % 10) + k % 10 ^ w := by
      rw [Nat.pow_succ, Nat.mod_mul, Nat.add_comm]
    simp only [decimal, List.cons_lt_cons_iff]
    rcases Nat.lt_trichotomy (m / 10 ^ w % 10) (n / 10 ^ w % 10) with first | same | later
    · exact .inl (digit_lt_digit first (Nat.mod_lt _ (by decide)))
    · rw [split, split, same] at less
      exact .inr ⟨by rw [same], ih (by omega)⟩
    · -- A larger leading digit outweighs all that follow it.
      exfalso
      rw [split, split] at less
      have rest := Nat.mod_lt n (Nat.pow_pos (n := w) (show 0 < 10 by decide))
      have step := Nat.mul_le_mul_left (10 ^ w) (Nat.succ_le_of_lt later)
      rw [Nat.mul_succ] at step
      omega

/-- Numerals of one width are ordered as their numbers. -/
theorem decimal_lt {w m n : Nat} (less : m < n) (fits : n < 10 ^ w) : decimal w m < decimal w n := by
  apply decimal_lt_of_mod
  rwa [Nat.mod_eq_of_lt fits, Nat.mod_eq_of_lt (Nat.lt_trans less fits)]

private theorem decimal_nines_add (w k : Nat) : decimal w (10 ^ w * k + (10 ^ w - 1)) = List.replicate w '9' := by
  induction w generalizing k with
  | zero => rfl
  | succ w ih =>
    have positive : 0 < 10 ^ w := Nat.pow_pos (by decide)
    have whole : 10 ^ (w + 1) * k + (10 ^ (w + 1) - 1) = 10 ^ w * (10 * k + 9) + (10 ^ w - 1) := by
      have expand : 10 ^ (w + 1) * k = 10 ^ w * (10 * k) := by rw [Nat.pow_succ, Nat.mul_assoc]
      rw [expand, Nat.mul_add, Nat.pow_succ]
      omega
    have top : (10 ^ w * (10 * k + 9) + (10 ^ w - 1)) / 10 ^ w % 10 = 9 := by
      rw [Nat.mul_add_div positive, Nat.div_eq_of_lt (Nat.sub_lt positive one_pos)]
      omega
    rw [whole, decimal, top, ih, List.replicate_succ]
    rfl

/-- The largest number of a width is all nines. -/
theorem decimal_nines (w : Nat) : decimal w (10 ^ w - 1) = List.replicate w '9' := by
  simpa using decimal_nines_add w 0

theorem le_nine_of_isDigit {c : Char} (isDigit : c.isDigit = true) : c ≤ '9' := by
  simp only [Char.isDigit, Bool.and_eq_true, decide_eq_true_eq] at isDigit
  exact isDigit.2

/-- A run of nines that ends in a character beyond the digits comes after every
    numeral with more digits. -/
theorem longer_lt_nines {digits : List Char} {w : Nat} {close : Char} (all : ∀ c ∈ digits, c.isDigit = true)
    (longer : w < digits.length) (beyond : '9' < close) (s t : List Char) :
    digits ++ s < List.replicate w '9' ++ close :: t := by
  induction w generalizing digits with
  | zero =>
    cases digits with
    | nil => cases longer
    | cons c rest =>
      simp only [List.cons_append, List.replicate_zero, List.nil_append, List.cons_lt_cons_iff]
      exact .inl (lt_of_le_of_lt (le_nine_of_isDigit (all c List.mem_cons_self)) beyond)
  | succ w ih =>
    cases digits with
    | nil => cases longer
    | cons c rest =>
      simp only [List.cons_append, List.replicate_succ, List.cons_lt_cons_iff]
      rcases lt_or_eq_of_le (le_nine_of_isDigit (all c List.mem_cons_self)) with less | same
      · exact .inl less
      · exact .inr ⟨same, ih (fun d member => all d (List.mem_cons_of_mem c member)) (Nat.lt_of_succ_lt_succ longer)⟩

end Marlinspike.Decimal
