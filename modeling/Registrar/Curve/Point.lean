import Registrar.Curve.Field

/-!
# Points

Points of a curve `y * y = x * x * x + b`. A `Point` has one form only, and equality of points is
equality of forms; sums and multiples are computed on `Projective` forms, which need no inverses,
and brought back at the end.
-/

namespace Registrar.Curve

/-- A point of a curve over `F`. -/
inductive Point (F : Type) where
  | infinity
  | affine (x y : F)
deriving DecidableEq

/-- A point as `(x / z ^ 2, y / z ^ 3)`; infinity if `z` is zero. -/
structure Projective (F : Type) where
  x : F
  y : F
  z : F

namespace Projective

variable {F : Type} [PointField F]

/-- The neutral point. -/
def infinity : Projective F := ⟨1, 1, 0⟩

/-- Twice a point. -/
def double (p : Projective F) : Projective F :=
  let xx := p.x * p.x
  let yy := p.y * p.y
  let yyyy := yy * yy
  let s := p.x * yy + p.x * yy
  let s := s + s
  let m := xx + xx + xx
  let x := m * m - (s + s)
  let eight := yyyy + yyyy
  let eight := eight + eight
  let eight := eight + eight
  let yz := p.y * p.z
  ⟨x, m * (s - x) - eight, yz + yz⟩

/-- The sum of two points. -/
def add (p q : Projective F) : Projective F :=
  if p.z = 0 then q
  else if q.z = 0 then p
  else
    let pzz := p.z * p.z
    let qzz := q.z * q.z
    let u1 := p.x * qzz
    let u2 := q.x * pzz
    let s1 := p.y * (q.z * qzz)
    let s2 := q.y * (p.z * pzz)
    if u1 = u2 then
      if s1 = s2 then p.double else infinity
    else
      let h := u2 - u1
      let r := s2 - s1
      let hh := h * h
      let hhh := h * hh
      let v := u1 * hh
      let x := r * r - hhh - (v + v)
      ⟨x, r * (v - x) - s1 * hhh, p.z * q.z * h⟩

/-- The point in its only form. -/
def toPoint (p : Projective F) : Point F :=
  if p.z = 0 then .infinity
  else
    let i := PointField.inverse p.z
    let ii := i * i
    .affine (p.x * ii) (p.y * (ii * i))

end Projective

namespace Point

variable {F : Type} [PointField F]

/-- The point for computing. -/
def toProjective : Point F → Projective F
  | .infinity => .infinity
  | .affine x y => ⟨x, y, 1⟩

/-- The sum of two points. -/
def add (p q : Point F) : Point F := (p.toProjective.add q.toProjective).toPoint

/-- The `n`-fold of a point. -/
def multiple (n : Nat) (p : Point F) : Point F :=
  (fold .infinity .double .add p.toProjective n).toPoint

end Point

end Registrar.Curve
