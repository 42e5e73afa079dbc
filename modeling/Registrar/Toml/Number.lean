import Registrar.Bytes.Hex
import Registrar.Toml.Value

/-!
# Numbers of a settings file

How numbers are spelled. Underscores may stand between digits; decimal numbers do not start with a
superfluous zero.

## Contents

- `digits?`, a run of digits with underscores;
- `integer?`, `real?`, and `number?`, which is either.
-/

namespace Registrar.Toml

/-- The digits of a run: at least one, in which underscores stand between digits only. -/
def digits? (isDigit : Char → Bool) : List Char → Option (List Char)
  | [] => none
  | [c] => if isDigit c then some [c] else none
  | c :: '_' :: rest =>
    if isDigit c then (digits? isDigit rest).map (c :: ·) else none
  | c :: rest => if isDigit c then (digits? isDigit rest).map (c :: ·) else none

/-- The number that digits of a base spell. -/
def ofDigits (base : Nat) (cs : List Char) : Nat :=
  cs.foldl (fun n c => n * base + (Hex.digit? c).getD 0) 0

/-- Whether a character is a digit of a base. -/
def isDigitOf (base : Nat) (c : Char) : Bool := (Hex.digit? c).any fun d => decide (d < base)

/-- Decimal digits without a superfluous zero in front. -/
def wholeDigits? (cs : List Char) : Option (List Char) :=
  match cs with
  | '0' :: _ :: _ => none
  | cs => digits? Char.isDigit cs

/-- The sign of a text, and the text after it. -/
def splitSign : List Char → Bool × List Char
  | '-' :: rest => (true, rest)
  | '+' :: rest => (false, rest)
  | cs => (false, cs)

/-- A whole number that fits 64 bits with a sign. -/
def integer? (cs : List Char) : Option Int :=
  let inRange (n : Int) : Option Int := 
    if -0x8000000000000000 ≤ n ∧ n < 0x8000000000000000 then some n else none
  let inBase (base : Nat) (rest : List Char) : Option Int :=
    (digits? (isDigitOf base) rest).bind fun ds => inRange (ofDigits base ds)
  match cs with
  | '0' :: 'x' :: rest => inBase 16 rest
  | '0' :: 'o' :: rest => inBase 8 rest
  | '0' :: 'b' :: rest => inBase 2 rest
  | cs =>
    let (negative, rest) := splitSign cs
    (wholeDigits? rest).bind fun ds =>
      let n : Int := ofDigits 10 ds
      inRange (if negative then -n else n)

/-- The number `n * 10 ^ k` rounded; far from one, `digits` being the length of `n`, it is not
computed but known to be too large or too small. -/
def scaled (negative : Bool) (n digits : Nat) (k : Int) : Real :=
  let signed (x : Binary64) : Real := .finite (if negative then x.neg else x)
  if n = 0 ∨ (digits : Int) + k < -400 then signed .zero
  else if 400 < k then .infinite negative
  else
    match Binary64.ofRatio? (n * Nat.pow 10 k.toNat) (Nat.pow 10 (-k).toNat) with
    | some x => signed x
    | none => .infinite negative

/-- The exponent of a floating-point number. -/
def exponent? (cs : List Char) : Option Int :=
  let (negative, rest) := splitSign cs
  (digits? Char.isDigit rest).map fun ds =>
    let n : Int := ofDigits 10 ds
    if negative then -n else n

/-- A finite floating-point number: with a point, an exponent, or both. A positive one may not be
too large. -/
def finiteReal? (cs : List Char) : Option Real :=
  let (negative, rest) := splitSign cs
  let isMark (c : Char) : Bool := c = 'e' || c = 'E'
  let mantissa := rest.takeWhile fun c => !isMark c
  let power := rest.dropWhile fun c => !isMark c
  let whole := mantissa.takeWhile (· ≠ '.')
  let fraction := mantissa.dropWhile (· ≠ '.')
  let places : Option (List Char) :=
    match fraction with
    | [] => some []
    | _ :: ds => digits? Char.isDigit ds
  let shift : Option Int :=
    match power with
    | [] => some 0
    | _ :: cs => exponent? cs
  if fraction = [] ∧ power = [] then none
  else
    match wholeDigits? whole, places, shift with
    | some ds, some fs, some k =>
      match scaled negative (ofDigits 10 (ds ++ fs)) (ds ++ fs).length (k - fs.length) with
      | .infinite false => none
      | x => some x
    | _, _, _ => none

/-- A floating-point number. -/
def real? (cs : List Char) : Option Real :=
  let (negative, rest) := splitSign cs
  if rest = "inf".toList then some (.infinite negative)
  else if rest = "nan".toList then some .undefined
  else finiteReal? cs

/-- A number. -/
def number? (cs : List Char) : Option Value :=
  match integer? cs with
  | some n => some (.integer n)
  | none => (real? cs).map .real

end Registrar.Toml
