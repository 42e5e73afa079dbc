/-!
# Binary floating-point numbers of 64 bits

Finite numbers only, as exact data. A number is a sign and the 63 bits below it, read as a biased
exponent and a fraction; `ratio` is its exact magnitude. Magnitudes are rounded to the nearest
number, a tie to the even one.

## Contents

- `ofRatio?`: rounding of an exact quotient;
- `mul?`, `div?`: products and quotients;
- `shortest`: the fewest decimal digits that are nearer to a number than to any other;
- `text` and `plainText`: the two written forms.
-/

namespace Registrar

/-- The bits after those of the greatest finite number. -/
abbrev infinityBits : Nat := 0x7FF0000000000000

/-- What the whole part of a normal number adds to its fraction. -/
abbrev wholeBit : Nat := 0x10000000000000

/-- What the exponents of finite numbers are counted from: the smallest number is one divided by
this. -/
abbrev fineness : Nat := 1 <<< 1074

/-- A finite number: its sign and the bits of its magnitude. -/
structure Binary64 where
  negative : Bool
  bits : Nat
  finite : bits < infinityBits
deriving DecidableEq

namespace Binary64

/-- The number zero. -/
def zero : Binary64 := ⟨false, 0, by decide⟩

/-- The number with the other sign. -/
def neg (x : Binary64) : Binary64 := { x with negative := !x.negative }

/-! ## Exact magnitudes -/

/-- The magnitude as a whole multiple of a power of two: `m * 2 ^ (e - 1074)`. -/
def parts (bits : Nat) : Nat × Nat :=
  if bits < wholeBit then (bits, 0)
  else (bits % wholeBit + wholeBit, bits / wholeBit - 1)

/-- The magnitude as a quotient. -/
def ratio (bits : Nat) : Nat × Nat :=
  let (m, e) := parts bits
  (m <<< e, fineness)

/-- The whole number nearest to a quotient, a tie going to the even neighbour. -/
def roundDiv (num den : Nat) : Nat :=
  let q := num / den
  let r := num % den
  if 2 * r < den then q else if den < 2 * r then q + 1 else q + q % 2

/-- The number nearest to a quotient, if it is within range. -/
def ofRatio? (num den : Nat) : Option Binary64 :=
  let scaled := num * fineness
  let e := Nat.log2 (scaled / den) - 52
  let bits := e * wholeBit + roundDiv scaled (den <<< e)
  if h : bits < infinityBits then some ⟨false, bits, h⟩ else none

/-- The number nearest to a whole number. -/
def ofNat? (n : Nat) : Option Binary64 := ofRatio? n 1

/-- The rounded product of two magnitudes. -/
def mul? (x y : Binary64) : Option Binary64 :=
  let (a, b) := ratio x.bits
  let (c, d) := ratio y.bits
  ofRatio? (a * c) (b * d)

/-- The rounded quotient of two magnitudes. -/
def div? (x y : Binary64) : Option Binary64 :=
  let (a, b) := ratio x.bits
  let (c, d) := ratio y.bits
  ofRatio? (a * d) (b * c)

/-! ## Shortest digits -/

/-- Whether `d * 10 ^ k` is a decimal that reads back as this magnitude: it lies between the
midpoints to the two neighbours, the ends included if the magnitude is even. Both ends are scaled
by 4, because the neighbour below a power of two is only half as far away. -/
def readsBack (bits d : Nat) (k : Int) : Bool :=
  let (m, e) := parts bits
  let unit := Nat.pow 10 (-k).toNat <<< e
  let value := 4 * d * Nat.pow 10 k.toNat * fineness
  let high := (4 * m + 2) * unit
  let low := (if bits % wholeBit = 0 ∧ 2 * wholeBit ≤ bits then 4 * m - 1 else 4 * m - 2) * unit
  if m % 2 = 0 then decide (low ≤ value) && decide (value ≤ high)
  else decide (low < value) && decide (value < high)

/-- The multiple of `10 ^ k` nearest to a magnitude among those that read back. -/
def onGrid (bits : Nat) (k : Int) : Option Nat :=
  let (a, b) := ratio bits
  let num := a * Nat.pow 10 (-k).toNat
  let den := b * Nat.pow 10 k.toNat
  let below := num / den
  match readsBack bits below k, readsBack bits (below + 1) k with
  | true, true => some (roundDiv num den)
  | true, false => some below
  | false, true => some (below + 1)
  | false, false => none

/-- The digits and the exponent of ten of the shortest decimal that reads back. The coarsest grid
that has such a decimal wins, so that the digits do not end in a zero. -/
def shortest (bits : Nat) : Nat × Int :=
  if bits = 0 then (0, 0)
  else
    ((List.range 660).findSome? fun (i : Nat) =>
      let k : Int := 310 - i
      (onGrid bits k).map fun d => (d, k)).getD (0, 0)

/-! ## Written forms -/

/-- The decimal digits of a number. -/
def decimal (n : Nat) : List Char := Nat.toDigits 10 n

/-- `n` zeros. -/
def zeros (n : Nat) : List Char := List.replicate n '0'

/-- A sign, if the number is negative, before the text of its magnitude. -/
def signed (negative : Bool) (magnitude : List Char) : List Char :=
  if negative then '-' :: magnitude else magnitude

/-- Digits with the point after the first `n` of them. -/
def withPoint (digits : List Char) (n : Nat) : List Char :=
  digits.take n ++ '.' :: digits.drop n

/-- The text of a number: at least one digit on each side of a point, positional from `1e-5` up to
`1e16`, and with an exponent beyond. -/
def text (x : Binary64) : List Char :=
  let (d, k) := shortest x.bits
  let digits := decimal d
  let point : Int := digits.length + k
  signed x.negative <|
    if x.bits = 0 then ['0', '.', '0']
    else if 0 ≤ k ∧ point ≤ 16 then digits ++ zeros k.toNat ++ ['.', '0']
    else if 0 < point ∧ point ≤ 16 then withPoint digits point.toNat
    else if -5 < point ∧ point ≤ 0 then ['0', '.'] ++ zeros (-point).toNat ++ digits
    else
      let exponent := signed (decide (point - 1 < 0)) (decimal (point - 1).natAbs)
      (if digits.length = 1 then digits else withPoint digits 1) ++ 'e' :: exponent

/-- The text of a number without an exponent, and without a point if it is whole. -/
def plainText (x : Binary64) : List Char :=
  let (d, k) := shortest x.bits
  let digits := decimal d
  let point : Int := digits.length + k
  signed x.negative <|
    if 0 ≤ k then digits ++ zeros k.toNat
    else if 0 < point then withPoint digits point.toNat
    else ['0', '.'] ++ zeros (-point).toNat ++ digits

/-! ## Whole numbers -/

/-- The whole part of the magnitude after rounding, a half going away from zero. -/
def roundHalfUp (x : Binary64) : Nat :=
  let (a, b) := ratio x.bits
  (2 * a + b) / (2 * b)

end Binary64

end Registrar
