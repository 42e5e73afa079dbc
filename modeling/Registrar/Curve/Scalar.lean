import Registrar.Bytes.Octets
import Registrar.Curve.Power

/-!
# Scalars

Numbers modulo the prime order of the signature groups. A secret key is a scalar other than zero,
written in 32 bytes with the high byte first.
-/

namespace Registrar

/-- The order of the signature groups, a prime. -/
def groupOrder : Nat := 0x73eda753299d7d483339d80809a1d80553bda402fffe5bfeffffffff00000001

instance : @NeZero Nat Zero.ofOfNat0 groupOrder := ⟨Nat.ne_of_gt (Nat.le_of_ble_eq_true rfl)⟩

/-- A number modulo the group order. -/
abbrev Scalar := Fin groupOrder

namespace Scalar

instance : One Scalar := ⟨Fin.ofNat _ 1⟩

/-- The remainder of a number. -/
def ofNat (n : Nat) : Scalar := Fin.ofNat _ n

/-- The scalar in 32 bytes. -/
def toOctets (s : Scalar) : Octets 32 := Octets.ofNat 32 s.val

/-- The secret key that bytes spell: 32 of them, for a number other than zero below the group
order. -/
def secret? (bs : Bytes) : Option Scalar :=
  let n := Bytes.toNat bs
  if h : bs.length = 32 ∧ 0 < n ∧ n < groupOrder then some ⟨n, h.2.2⟩ else none

/-- The inverse of a scalar other than zero, its power to the group order less two. -/
def inverse (s : Scalar) : Scalar := Curve.power s (groupOrder - 2)

/-- The value at `x` of the polynomial with the given coefficients, the constant one first. -/
def evaluate (coefficients : List Scalar) (x : Scalar) : Scalar :=
  coefficients.foldr (fun c value => value * x + c) 0

/-- The factor of a point `x` in the value at zero of the polynomial through it and other points:
the product of `y / (y - x)` over the other points `y`. -/
def lagrange (x : Scalar) (others : List Scalar) : Scalar :=
  (others.foldl (fun n y => n * y) 1) * inverse (others.foldl (fun d y => d * (y - x)) 1)

end Scalar

end Registrar
