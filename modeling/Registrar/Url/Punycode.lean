/-!
# Punycode

How the label of a domain is spelled in ASCII: its ASCII characters, a hyphen, and digits that tell
which other characters stand where. `decode?` reads such a spelling.
-/

namespace Registrar.Url.Punycode

/-- The value of a digit: letters first, then the ten figures. -/
def digit? (c : Char) : Option Nat :=
  if 'a' ≤ c ∧ c ≤ 'z' then some (c.toNat - 97)
  else if '0' ≤ c ∧ c ≤ '9' then some (c.toNat - 22)
  else none

/-- The digit value at place `k` below which a number ends. -/
def threshold (bias k : Nat) : Nat :=
  if k ≤ bias then 1 else if bias + 26 ≤ k then 26 else k - bias

/-- A number: its digits, the lowest first, count the more the further they stand behind. Also the
text after it. -/
def number? (bias : Nat) : (k weight sum : Nat) → List Char → Option (Nat × List Char)
  | _, _, _, [] => none
  | k, weight, sum, c :: rest =>
    match digit? c with
    | none => none
    | some d =>
      let t := threshold bias k
      if d < t then some (sum + d * weight, rest)
      else number? bias (k + 36) (weight * (36 - t)) (sum + d * weight) rest

/-- The bias that a step of a given size leads to. -/
def biasOf (k delta : Nat) : Nat :=
  if 455 < delta then biasOf (k + 36) (delta / 35) else k + 36 * delta / (delta + 38)
termination_by delta

/-- The bias after a character has been put in, `points` of them being there now. -/
def adapt (delta points : Nat) (first : Bool) : Nat :=
  let delta := if first then delta / 700 else delta / 2
  biasOf 0 (delta + delta / points)

/-- Puts in characters as long as there are numbers: each moves the place on and, after each round
trip, the code point. -/
def insertAll? : (fuel : Nat) → (point place bias : Nat) → (found : List Char) → List Char →
    Option (List Char)
  | _, _, _, _, found, [] => some found
  | 0, _, _, _, _, _ :: _ => none
  | fuel + 1, point, place, bias, found, input =>
    match number? bias 36 1 0 input with
    | none => none
    | some (delta, rest) =>
      let points := found.length + 1
      let point := point + (place + delta) / points
      let here := (place + delta) % points
      if point.isValidChar then
        insertAll? fuel point (here + 1) (adapt delta points (place == 0))
          (found.take here ++ Char.ofNat point :: found.drop here) rest
      else none

/-- The text before the last hyphen, and the text after it. -/
def splitAtHyphen (cs : List Char) : List Char × List Char :=
  let after := (cs.reverse.takeWhile (· ≠ '-')).reverse
  (cs.take (cs.length - after.length - 1), after)

/-- The label that a spelling in lower case stands for. -/
def decode? (cs : List Char) : Option (List Char) :=
  let (plain, numbers) := splitAtHyphen cs
  insertAll? numbers.length 128 0 72 plain numbers

end Registrar.Url.Punycode
