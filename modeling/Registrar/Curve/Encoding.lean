import Registrar.Bytes.Octets
import Registrar.Curve.Point

/-!
# Points as bytes

A point is written as its first coordinate, whose highest three bits are free: the first one marks
this form, the second one infinity, the third one the greater of the two points with that
coordinate.
-/

namespace Registrar.Curve

/-- An element of the prime field in 48 bytes. -/
def Fp.toBytes (a : Fp) : Bytes := Bytes.bigEndian 48 a.val

/-- The first byte with the marks of its form. -/
def mark (infinite large : Bool) : Bytes → Bytes
  | [] => []
  | b :: rest =>
    (b ||| 0x80 ||| (if infinite then 0x40 else 0) ||| (if large then 0x20 else 0)) :: rest

theorem length_mark (infinite large : Bool) (bs : Bytes) :
    (mark infinite large bs).length = bs.length := by
  cases bs <;> simp [mark]

/-- A point over the prime field in 48 bytes. -/
def encodeSmall : Point Fp → Octets 48
  | .infinity => ⟨mark true false (List.replicate 48 0), by simp [length_mark]⟩
  | .affine x y => ⟨mark false y.isLarge x.toBytes, by simp [length_mark, Fp.toBytes]⟩

/-- A point over the extension in 96 bytes, the imaginary part of its coordinate first. -/
def encodeLarge : Point Fp2 → Octets 96
  | .infinity => ⟨mark true false (List.replicate 96 0), by simp [length_mark]⟩
  | .affine x y =>
    ⟨mark false y.isLarge (x.im.toBytes ++ x.re.toBytes), by simp [length_mark, Fp.toBytes]⟩

/-- The constant of the curve over the extension. -/
def largeConstant : Fp2 := ⟨Fp.ofNat 4, Fp.ofNat 4⟩

/-- An element of the prime field from its bytes, unless the number is too large. -/
def Fp.ofBytes? (bs : Bytes) : Option Fp :=
  let n := Bytes.toNat bs
  if h : n < fieldPrime then some ⟨n, h⟩ else none

/-- The point over the extension that 96 bytes write. -/
def decodeLarge? (bs : Octets 96) : Option (Point Fp2) :=
  match bs.toList with
  | [] => none
  | b :: rest =>
    let large := b &&& 0x20 ≠ 0
    if b &&& 0x80 = 0 then none
    else if b &&& 0x40 ≠ 0 then
      if b = 0xC0 ∧ rest.all (· = 0) then some .infinity else none
    else
      let high := (b &&& 0x1F) :: rest.take 47
      match Fp.ofBytes? high, Fp.ofBytes? (rest.drop 47) with
      | some im, some re =>
        let x : Fp2 := ⟨re, im⟩
        match Fp2.root? (x * x * x + largeConstant) with
        | none => none
        | some y => some (.affine x (if y.isLarge = large then y else -y))
      | _, _ => none

end Registrar.Curve
