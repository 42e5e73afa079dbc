/-!
# Repeated operations

`fold` combines an element with itself a given number of times, in as many doublings as the number
has binary digits. It serves for powers as well as for multiples of points.
-/

namespace Registrar.Curve

/-- The binary digits of a number, the highest one first. -/
def binaryDigits (n : Nat) : List Bool :=
  if n = 0 then [] else binaryDigits (n / 2) ++ [decide (n % 2 = 1)]
termination_by n

/-- `x` combined with itself `n` times, starting from the neutral element `unit`. -/
def fold {α : Type} (unit : α) (double : α → α) (combine : α → α → α) (x : α) (n : Nat) : α :=
  (binaryDigits n).foldl (fun acc b => if b then combine (double acc) x else double acc) unit

/-- `x` to the power of `n`. -/
def power {α : Type} [One α] [Mul α] (x : α) (n : Nat) : α := fold 1 (fun a => a * a) (· * ·) x n

end Registrar.Curve
