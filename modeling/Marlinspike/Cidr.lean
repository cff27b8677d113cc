import Mathlib.Algebra.GroupWithZero.Nat

/-!
IP addresses and networks: a network is the addresses of its version that begin with the
same bits.
-/
namespace Marlinspike.Cidr

inductive Version where
  | v4
  | v6
deriving DecidableEq

def Version.bits : Version → Nat
  | .v4 => 32
  | .v6 => 128

structure Address where
  version : Version
  value : Nat
deriving DecidableEq

/-- A network by its length and the number that its first bits make. -/
structure Network where
  version : Version
  prefixlen : Nat
  head : Nat
deriving DecidableEq

/-- The network of a length that an address lies in. -/
def Address.network (a : Address) (prefixlen : Nat) : Network :=
  ⟨a.version, prefixlen, a.value / 2 ^ (a.version.bits - prefixlen)⟩

/-- `address in network`. -/
def Network.contains (n : Network) (a : Address) : Bool := a.network n.prefixlen = n

/-- `is_multicast`: 224.0.0.0/4 and ff00::/8. -/
def Address.isMulticast (a : Address) : Bool :=
  match a.version with
  | .v4 => (⟨.v4, 4, 14⟩ : Network).contains a
  | .v6 => (⟨.v6, 8, 255⟩ : Network).contains a

/-- An IPv4 address that is written with 255 at its end. -/
def Address.endsIn255 (a : Address) : Bool := a.version = .v4 ∧ a.value % 256 = 255

/-- Networks of one length that have an address in common are the same. -/
theorem eq_of_contains {n m : Network} {a : Address} (inN : n.contains a) (inM : m.contains a)
    (same : n.prefixlen = m.prefixlen) : n = m := by
  have isN : a.network n.prefixlen = n := of_decide_eq_true inN
  have isM : a.network m.prefixlen = m := of_decide_eq_true inM
  rw [← isN, same, isM]

end Marlinspike.Cidr
