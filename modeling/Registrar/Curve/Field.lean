import Registrar.Curve.Power

/-!
# The fields under the curves

The prime field and its extension by a square root of minus one, with inverses, square roots, and
the two orders of signs that encodings and the map to the curve need.
-/

namespace Registrar.Curve

/-- The characteristic of the fields. -/
def fieldPrime : Nat :=
  0x1a0111ea397fe69a4b1ba7b6434bacd764774b84f38512bf6730d2a0f6b0f6241eabfffeb153ffffb9feffffffffaaab

instance : @NeZero Nat Zero.ofOfNat0 fieldPrime := ⟨Nat.ne_of_gt (Nat.le_of_ble_eq_true rfl)⟩

/-- What points are made of. -/
class PointField (F : Type) extends Add F, Sub F, Mul F, Neg F, Zero F, One F where
  decEq : DecidableEq F
  inverse : F → F
  root? : F → Option F

instance {F : Type} [PointField F] : DecidableEq F := PointField.decEq

/-! ## The prime field -/

/-- An element of the prime field. -/
abbrev Fp := Fin fieldPrime

namespace Fp

instance : One Fp := ⟨Fin.ofNat _ 1⟩

/-- An element from a number. -/
def ofNat (n : Nat) : Fp := Fin.ofNat _ n

/-- The inverse; zero for zero. -/
def inverse (a : Fp) : Fp := power a (fieldPrime - 2)

/-- A square root, if there is one. -/
def root? (a : Fp) : Option Fp :=
  let r := power a ((fieldPrime + 1) / 4)
  if r * r = a then some r else none

/-- Whether the element is greater than its negative. -/
def isLarge (a : Fp) : Bool := (fieldPrime - 1) / 2 < a.val

instance : PointField Fp where
  zero := ofNat 0
  decEq := instDecidableEqFin _
  inverse := inverse
  root? := root?

end Fp

/-! ## The quadratic extension -/

/-- `re + im * i` with `i * i = -1`. -/
structure Fp2 where
  re : Fp
  im : Fp
deriving DecidableEq

namespace Fp2

instance : Add Fp2 := ⟨fun a b => ⟨a.re + b.re, a.im + b.im⟩⟩
instance : Sub Fp2 := ⟨fun a b => ⟨a.re - b.re, a.im - b.im⟩⟩
instance : Neg Fp2 := ⟨fun a => ⟨-a.re, -a.im⟩⟩
instance : Mul Fp2 := ⟨fun a b => ⟨a.re * b.re - a.im * b.im, a.re * b.im + a.im * b.re⟩⟩
instance : Zero Fp2 := ⟨⟨0, 0⟩⟩
instance : One Fp2 := ⟨⟨1, 0⟩⟩

/-- The product with the conjugate. -/
def norm (a : Fp2) : Fp := a.re * a.re + a.im * a.im

/-- The inverse; zero for zero. -/
def inverse (a : Fp2) : Fp2 :=
  let n := a.norm.inverse
  ⟨a.re * n, -(a.im * n)⟩

/-- A square root, if there is one. That of an element with an imaginary part is found from the root
of its norm. -/
def root? (a : Fp2) : Option Fp2 :=
  if a.im = 0 then
    match a.re.root? with
    | some r => some ⟨r, 0⟩
    | none => (-a.re).root?.map fun r => ⟨0, r⟩
  else
    match a.norm.root? with
    | none => none
    | some n =>
      let half := (Fp.ofNat 2).inverse
      match (((a.re + n) * half).root?).or (((a.re - n) * half).root?) with
      | none => none
      | some re => some ⟨re, a.im * half * re.inverse⟩

/-- Whether the element is greater than its negative; the imaginary part decides first. -/
def isLarge (a : Fp2) : Bool := if a.im = 0 then a.re.isLarge else a.im.isLarge

/-- The parity of the first part that is not zero. -/
def isOdd (a : Fp2) : Bool := if a.re = 0 then a.im.val % 2 = 1 else a.re.val % 2 = 1

instance : PointField Fp2 where
  decEq := instDecidableEqFp2
  inverse := inverse
  root? := root?

end Fp2

end Registrar.Curve
