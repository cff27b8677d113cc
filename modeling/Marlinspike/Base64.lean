import Mathlib.Logic.Basic

/-!
Base64 with padding, as `b64encode` writes it and `b64decode(…, validate=True)` reads
it: any character outside the alphabet, and any padding but at the end, is an error.
-/
namespace Marlinspike.Base64

abbrev Bytes := List UInt8

def alphabet : List Char := "ABCDEFGHIJKLMNOPQRSTUVWXYZabcdefghijklmnopqrstuvwxyz0123456789+/".toList

/-- The character of a six-bit value. -/
def symbol (n : Nat) : Char := alphabet.getD n '='

def sextet (c : Char) : Option Nat := alphabet.findIdx? (· = c)

def encode : Bytes → List Char
  | [] => []
  | [a] => [symbol (a.toNat / 4), symbol (a.toNat % 4 * 16), '=', '=']
  | [a, b] => [symbol (a.toNat / 4), symbol (a.toNat % 4 * 16 + b.toNat / 16), symbol (b.toNat % 16 * 4), '=']
  | a :: b :: c :: rest =>
    symbol (a.toNat / 4) :: symbol (a.toNat % 4 * 16 + b.toNat / 16) ::
      symbol (b.toNat % 16 * 4 + c.toNat / 64) :: symbol (c.toNat % 64) :: encode rest

/-- The bytes of four characters. -/
def quantum (w x y z : Char) : Option Bytes := do
  let w ← sextet w
  let x ← sextet x
  if z = '=' then
    if y = '=' then return [UInt8.ofNat (w * 4 + x / 16)]
    let y ← sextet y
    return [UInt8.ofNat (w * 4 + x / 16), UInt8.ofNat (x * 16 + y / 4)]
  let y ← sextet y
  let z ← sextet z
  return [UInt8.ofNat (w * 4 + x / 16), UInt8.ofNat (x * 16 + y / 4), UInt8.ofNat (y * 64 + z)]

def decode : List Char → Option Bytes
  | [] => some []
  | w :: x :: y :: z :: rest =>
    if z = '=' ∧ rest ≠ [] then none
    else do
      let group ← quantum w x y z
      let others ← decode rest
      return group ++ others
  | _ => none

theorem sextet_symbol : ∀ n < 64, sextet (symbol n) = some n := by decide +kernel

theorem symbol_ne_pad : ∀ n < 64, symbol n ≠ '=' := by decide +kernel

private theorem byte_eq {a : UInt8} {n : Nat} (same : n % 256 = a.toNat) : UInt8.ofNat n = a := by
  apply UInt8.toNat_inj.mp
  rw [UInt8.toNat_ofNat']
  exact same

section
variable {w x y z : Nat}

theorem quantum_one (hw : w < 64) (hx : x < 64) :
    quantum (symbol w) (symbol x) '=' '=' = some [UInt8.ofNat (w * 4 + x / 16)] := by
  simp only [quantum, sextet_symbol w hw, sextet_symbol x hx, Option.bind_eq_bind, Option.bind_some, if_true,
    Option.pure_def]

theorem quantum_two (hw : w < 64) (hx : x < 64) (hy : y < 64) : quantum (symbol w) (symbol x) (symbol y) '=' =
    some [UInt8.ofNat (w * 4 + x / 16), UInt8.ofNat (x * 16 + y / 4)] := by
  simp only [quantum, sextet_symbol w hw, sextet_symbol x hx, sextet_symbol y hy, Option.bind_eq_bind,
    Option.bind_some, if_true, if_neg (symbol_ne_pad y hy), Option.pure_def]

theorem quantum_three (hw : w < 64) (hx : x < 64) (hy : y < 64) (hz : z < 64) :
    quantum (symbol w) (symbol x) (symbol y) (symbol z) =
      some [UInt8.ofNat (w * 4 + x / 16), UInt8.ofNat (x * 16 + y / 4), UInt8.ofNat (y * 64 + z)] := by
  simp only [quantum, sextet_symbol w hw, sextet_symbol x hx, sextet_symbol y hy, sextet_symbol z hz,
    Option.bind_eq_bind, Option.bind_some, if_neg (symbol_ne_pad z hz), Option.pure_def]

end

/-- What has been encoded decodes to itself. -/
theorem decode_encode (bytes : Bytes) : decode (encode bytes) = some bytes := by
  induction bytes using encode.induct with
  | case1 => rfl
  | case2 a =>
    have small : a.toNat < 256 := a.toNat_lt
    have first : UInt8.ofNat (a.toNat / 4 * 4 + a.toNat % 4 * 16 / 16) = a := byte_eq (by omega)
    rw [encode, decode, if_neg (by simp), quantum_one (by omega) (by omega), first]
    rfl
  | case3 a b =>
    have small : a.toNat < 256 := a.toNat_lt
    have small' : b.toNat < 256 := b.toNat_lt
    have first : UInt8.ofNat (a.toNat / 4 * 4 + (a.toNat % 4 * 16 + b.toNat / 16) / 16) = a := byte_eq (by omega)
    have second : UInt8.ofNat ((a.toNat % 4 * 16 + b.toNat / 16) * 16 + b.toNat % 16 * 4 / 4) = b :=
      byte_eq (by omega)
    rw [encode, decode, if_neg (by simp), quantum_two (by omega) (by omega) (by omega), first, second]
    rfl
  | case4 a b c rest ih =>
    have small : a.toNat < 256 := a.toNat_lt
    have small' : b.toNat < 256 := b.toNat_lt
    have small'' : c.toNat < 256 := c.toNat_lt
    have first : UInt8.ofNat (a.toNat / 4 * 4 + (a.toNat % 4 * 16 + b.toNat / 16) / 16) = a := byte_eq (by omega)
    have second : UInt8.ofNat ((a.toNat % 4 * 16 + b.toNat / 16) * 16 + (b.toNat % 16 * 4 + c.toNat / 64) / 4) = b :=
      byte_eq (by omega)
    have third : UInt8.ofNat ((b.toNat % 16 * 4 + c.toNat / 64) * 64 + c.toNat % 64) = c := byte_eq (by omega)
    rw [encode, decode, if_neg (fun padded => symbol_ne_pad _ (by omega) padded.1),
      quantum_three (by omega) (by omega) (by omega) (by omega), first, second, third, ih]
    rfl

end Marlinspike.Base64
