import Registrar.Number.Binary64

/-!
# Numbers in JSON

A `Numeral` is a number as it is spelled; a `Number` is what it stands for. Whole numbers keep their
value if it fits 64 bits, the non-negative ones without and the negative ones with a sign; every
other numeral stands for a floating-point number, which `Numeral.real?` computes from as many digits
as fit 64 bits and one rounded multiplication or division by a power of ten.
-/

namespace Registrar.Json

/-- A number as it is spelled: digits before the point, after it, and in the exponent. -/
structure Numeral where
  negative : Bool
  whole : List Nat
  fraction : List Nat
  exponent : Option (Bool × List Nat)
deriving DecidableEq

/-- What a numeral stands for. `negative n` is `-(n + 1)`. -/
inductive Number where
  | natural (n : UInt64)
  | negative (n : Fin 0x8000000000000000)
  | real (x : Binary64)
deriving DecidableEq

namespace Numeral

/-- The number that digits spell. -/
def ofDigits (ds : List Nat) : Nat := ds.foldl (fun n d => 10 * n + d) 0

/-- Appends digits to a number as long as it fits 64 bits; also the digits left over. -/
def takeDigits (n : Nat) : List Nat → Nat × List Nat
  | [] => (n, [])
  | d :: ds => if 10 * n + d < UInt64.size then takeDigits (10 * n + d) ds else (n, d :: ds)

/-- The power of ten nearest to `10 ^ k`. -/
def power? (k : Nat) : Option Binary64 := Binary64.ofNat? (Nat.pow 10 k)

/-- `x` divided `steps` times by `10 ^ 308`, each quotient rounded. -/
def shrink : (steps : Nat) → (x : Binary64) → Option Binary64
  | 0, x => some x
  | steps + 1, x =>
    if x.bits = 0 then some x else ((power? 308).bind x.div?).bind (shrink steps)

/-- `n * 10 ^ k`, the number `n` and the power being rounded first. A division by more than
`10 ^ 308` is done in steps. -/
def scale (n : Nat) (k : Int) : Option Binary64 :=
  match Binary64.ofNat? n with
  | none => none
  | some x =>
    if 308 < k then if n = 0 then some x else none
    else if 0 ≤ k then (power? k.toNat).bind x.mul?
    else
      let places := (-k).toNat
      let steps := (places - 1) / 308
      (shrink steps x).bind fun y => (power? (places - 308 * steps)).bind y.div?

/-- The floating-point number that a numeral stands for, if it is within range. Digits that do not
fit 64 bits are dropped; those before the point still count for its place. -/
def real? (s : Numeral) : Option Binary64 :=
  let (n, dropped) := takeDigits 0 s.whole
  let (m, unused) := takeDigits n s.fraction
  let place : Int := dropped.length - (s.fraction.length - unused.length : Nat)
  let shift : Int := match s.exponent with
    | none => 0
    | some (minus, ds) => if minus then - (ofDigits ds : Int) else ofDigits ds
  (scale m (place + shift)).map fun x => if s.negative then x.neg else x

/-- The number that a numeral stands for, if it is within range. A negative zero is no whole
number. -/
def number? (s : Numeral) : Option Number :=
  let n := ofDigits s.whole
  if s.fraction = [] ∧ s.exponent = none then
    if s.negative then
      if h : 0 < n ∧ n ≤ 0x8000000000000000 then some (.negative ⟨n - 1, by omega⟩)
      else s.real?.map .real
    else if n < UInt64.size then some (.natural (UInt64.ofNat n)) else s.real?.map .real
  else s.real?.map .real

end Numeral

namespace Number

/-- The written form. -/
def text : Number → List Char
  | .natural n => Binary64.decimal n.toNat
  | .negative n => '-' :: Binary64.decimal (n.val + 1)
  | .real x => x.text

end Number

end Registrar.Json
