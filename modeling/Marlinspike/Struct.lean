import Mathlib.Data.Nat.Digits.Defs

/-!
Unsigned integers of a fixed width in bytes, in either byte order, as `struct.pack` writes
and `struct.unpack` reads them.
-/
namespace Marlinspike.Struct

abbrev Bytes := List UInt8

inductive Endian where
  | little
  | big
deriving DecidableEq, Repr

/-- The bytes of a number, the least significant first. -/
def digits : Nat → Nat → Bytes
  | 0, _ => []
  | width + 1, n => UInt8.ofNat n :: digits width (n / 256)

def pack : Endian → Nat → Nat → Bytes
  | .little, width, n => digits width n
  | .big, width, n => (digits width n).reverse

def value : Endian → Bytes → Nat
  | .little, bytes => Nat.ofDigits 256 (bytes.map UInt8.toNat)
  | .big, bytes => Nat.ofDigits 256 (bytes.reverse.map UInt8.toNat)

/-- The number at a position. -/
def uintAt (endian : Endian) (bytes : Bytes) (pos width : Nat) : Nat := value endian ((bytes.drop pos).take width)

@[simp] theorem length_digits (width n : Nat) : (digits width n).length = width := by
  induction width generalizing n with
  | zero => rfl
  | succ width ih => simp [digits, ih]

@[simp] theorem length_pack (endian : Endian) (width n : Nat) : (pack endian width n).length = width := by
  cases endian <;> simp [pack]

theorem ofDigits_digits {width n : Nat} (fits : n < 256 ^ width) :
    Nat.ofDigits 256 ((digits width n).map UInt8.toNat) = n := by
  induction width generalizing n with
  | zero => simp at fits; simp [digits, fits]
  | succ width ih =>
    have rest : n / 256 < 256 ^ width := by
      rw [Nat.div_lt_iff_lt_mul (by norm_num), ← Nat.pow_succ]
      exact fits
    rw [digits, List.map_cons, Nat.ofDigits_cons, ih rest]
    simp only [UInt8.toNat_ofNat']
    omega

theorem digits_ofDigits (bytes : Bytes) :
    digits bytes.length (Nat.ofDigits 256 (bytes.map UInt8.toNat)) = bytes := by
  induction bytes with
  | nil => rfl
  | cons b rest ih =>
    have byte := b.toNat_lt
    rw [List.map_cons, Nat.ofDigits_cons, List.length_cons, digits]
    have low : UInt8.ofNat (b.toNat + 256 * Nat.ofDigits 256 (rest.map UInt8.toNat)) = b := by
      apply UInt8.toNat_inj.mp
      rw [UInt8.toNat_ofNat']
      omega
    have high : (b.toNat + 256 * Nat.ofDigits 256 (rest.map UInt8.toNat)) / 256 =
        Nat.ofDigits 256 (rest.map UInt8.toNat) := by omega
    simp only [low, high, ih]

theorem value_pack (endian : Endian) {width n : Nat} (fits : n < 256 ^ width) :
    value endian (pack endian width n) = n := by
  cases endian with
  | little => exact ofDigits_digits fits
  | big =>
    rw [pack, value, List.reverse_reverse]
    exact ofDigits_digits fits

theorem pack_value (endian : Endian) (bytes : Bytes) : pack endian bytes.length (value endian bytes) = bytes := by
  cases endian with
  | little => exact digits_ofDigits bytes
  | big =>
    have digits := digits_ofDigits bytes.reverse
    rw [List.length_reverse] at digits
    rw [pack, value, digits, List.reverse_reverse]

/-! ### Reading what has been written -/

section At
variable {endian : Endian} {width n : Nat} {rest : Bytes}

theorem uintAt_pack (fits : n < 256 ^ width) : uintAt endian (pack endian width n ++ rest) 0 width = n := by
  rw [uintAt, List.drop_zero, List.take_left' (length_pack ..), value_pack endian fits]

/-- A number read in either order. -/
theorem uintAt_front {other : Endian} :
    uintAt endian (pack other width n ++ rest) 0 width = value endian (pack other width n) := by
  rw [uintAt, List.drop_zero, List.take_left' (length_pack ..)]

theorem uintAt_append (first : Bytes) {pos : Nat} (beyond : first.length ≤ pos) :
    uintAt endian (first ++ rest) pos width = uintAt endian rest (pos - first.length) width := by
  rw [uintAt, List.drop_append, List.drop_eq_nil_of_le beyond, List.nil_append, uintAt]

/-- Past a number. -/
theorem uintAt_after {other : Endian} {size pos : Nat} (beyond : size ≤ pos) :
    uintAt endian (pack other size n ++ rest) pos width = uintAt endian rest (pos - size) width := by
  rw [uintAt_append _ (by rwa [length_pack]), length_pack]

theorem drop_after {size pos : Nat} (beyond : size ≤ pos) :
    (pack endian size n ++ rest).drop pos = rest.drop (pos - size) := by
  rw [List.drop_append, List.drop_eq_nil_of_le (by rwa [length_pack]), List.nil_append, length_pack]

theorem uintAt_take {bytes : Bytes} {pos length : Nat} (within : pos + width ≤ length) :
    uintAt endian (bytes.take length) pos width = uintAt endian bytes pos width := by
  rw [uintAt, List.drop_take, List.take_take, uintAt, min_eq_left (by omega)]

end At

end Marlinspike.Struct
