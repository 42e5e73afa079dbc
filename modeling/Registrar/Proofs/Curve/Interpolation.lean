import Registrar.Proofs.Curve.Scalar

/-!
# Lagrange factors of integers

The factors that interpolate at zero, for the points of a list of integers. They are scalars other than
zero. Words of 256 bits are enough to compute them: every product and every sum is reduced at once, the
differences are taken from the group order, which is larger than any of the points, and what is inverted
is a product of differences, none of which is zero.

## Contents

- `Word.lagrange?`, the factor in words, with nothing where a difference would wrap or zero would be
  inverted;
- `Word.mulMod_ofScalar`, `Word.powMod_ofScalar` and `Word.sub?_order`: what the operations on words do to
  scalars;
- `denominator_ne_zero` and `lagrange_ne_zero`;
- `coefficient`, the factor of one of several integers, with `lagrange_interpolates`.
-/

namespace Registrar.Scalar

/-! ## Words -/

/-- A word of 256 bits. -/
abbrev Word := BitVec 256

namespace Word

/-- The group order. -/
def order : Word := .ofNat 256 groupOrder

/-- The word of a scalar. -/
def ofScalar (s : Scalar) : Word := .ofNat 256 s.val

/-- A product, reduced. -/
def mulMod (a b : Word) : Word := .ofNat 256 (a.toNat * b.toNat % groupOrder)

/-- A sum, reduced. -/
def addMod (a b : Word) : Word := .ofNat 256 ((a.toNat + b.toNat) % groupOrder)

/-- A power, reduced. -/
def powMod (a e : Word) : Word := .ofNat 256 (a.toNat ^ e.toNat % groupOrder)

/-- A difference, unless it wraps. -/
def sub? (a b : Word) : Option Word := if a.usubOverflow b then none else some (a - b)

/-- The inverse modulo the group order, a power, unless zero is to be inverted. -/
def inverse? (a : Word) : Option Word := if a = 0 then none else (sub? order 2).map (powMod a)

/-- The factor of the point at a position among all points. -/
def lagrange? (xs : List Word) (position : Nat) : Option Word :=
  (xs[position]?.bind (sub? order)).bind fun opposite =>
    let others := xs.eraseIdx position
    let denominator := others.foldl (fun d y => mulMod d (addMod y opposite)) 1
    (inverse? denominator).map (mulMod (others.foldl mulMod 1))

/-! ### Scalars in words -/

variable {a b : Scalar}

theorem groupOrder_lt : groupOrder < 2 ^ 255 := by norm_num [groupOrder]

/-- Numbers up to the group order fit a word. -/
theorem toNat_ofNat_of_le {n : Nat} (h : n ≤ groupOrder) : (BitVec.ofNat 256 n).toNat = n := by
  have hlt : n < 2 ^ 256 := by
    have horder := groupOrder_lt
    omega
  rw [BitVec.toNat_ofNat, Nat.mod_eq_of_lt hlt]

theorem toNat_order : order.toNat = groupOrder := toNat_ofNat_of_le (Nat.le_refl _)

theorem toNat_ofScalar (s : Scalar) : (ofScalar s).toNat = s.val :=
  toNat_ofNat_of_le (Nat.le_of_lt s.isLt)

theorem ofScalar_eq_zero_iff : ofScalar a = 0 ↔ a = 0 := by
  constructor
  · intro h
    have hval := congrArg BitVec.toNat h
    rw [toNat_ofScalar] at hval
    exact Fin.ext hval
  · rintro rfl
    rfl

theorem mulMod_ofScalar (a b : Scalar) : mulMod (ofScalar a) (ofScalar b) = ofScalar (a * b) := by
  rw [mulMod, toNat_ofScalar, toNat_ofScalar]
  rfl

theorem powMod_ofScalar (a : Scalar) (e : Word) :
    powMod (ofScalar a) e = ofScalar (Curve.power a e.toNat) := by
  have hpower : Curve.power a e.toNat = ofNat (a.val ^ e.toNat) := by
    apply toField_injective
    rw [toField_power, toField_ofNat, Nat.cast_pow, toField]
  rw [powMod, toNat_ofScalar, hpower]
  rfl

/-- **A scalar is taken from the group order without wrapping.** -/
theorem sub?_order (a : Scalar) : sub? order (ofScalar a) = some (.ofNat 256 (groupOrder - a.val)) := by
  have hle : (ofScalar a).toNat ≤ order.toNat := by
    rw [toNat_ofScalar, toNat_order]
    exact Nat.le_of_lt a.isLt
  have hwrap : order.usubOverflow (ofScalar a) = false := decide_eq_false (Nat.not_lt.mpr hle)
  have hdifference : order - ofScalar a = .ofNat 256 (groupOrder - a.val) := by
    apply BitVec.eq_of_toNat_eq
    rw [BitVec.toNat_sub_of_le hle, toNat_ofScalar, toNat_order,
      toNat_ofNat_of_le (Nat.sub_le _ _)]
  rw [sub?, hwrap, hdifference]
  rfl

/-- What is left of the group order is added to subtract. -/
theorem addMod_opposite (a b : Scalar) :
    addMod (ofScalar b) (.ofNat 256 (groupOrder - a.val)) = ofScalar (b - a) := by
  rw [addMod, toNat_ofScalar, toNat_ofNat_of_le (Nat.sub_le _ _), Nat.add_comm]
  rfl

/-- **A scalar other than zero is inverted.** -/
theorem inverse?_ofScalar (h : a ≠ 0) : inverse? (ofScalar a) = some (ofScalar a.inverse) := by
  have hexponent : sub? order 2 = some (.ofNat 256 (groupOrder - 2)) := sub?_order (ofNat 2)
  rw [inverse?, if_neg (mt ofScalar_eq_zero_iff.mp h), hexponent, Option.map_some, powMod_ofScalar,
    toNat_ofNat_of_le (Nat.sub_le _ _)]
  rfl

theorem foldl_mulMod (f : Scalar → Scalar) (g : Word → Word)
    (hg : ∀ y, g (ofScalar y) = ofScalar (f y)) (ys : List Scalar) (start : Scalar) :
    (ys.map ofScalar).foldl (fun d y => mulMod d (g y)) (ofScalar start)
      = ofScalar (ys.foldl (fun d y => d * f y) start) := by
  rw [List.foldl_map]
  apply List.foldl_hom
  intro d y
  rw [hg, mulMod_ofScalar]

end Word

/-! ## Factors other than zero -/

section Factors

variable {x : Scalar} {others : List Scalar}

/-- **No difference of two points is zero**, so that their product is not. -/
theorem denominator_ne_zero (h : x ∉ others) : others.foldl (fun d y => d * (y - x)) 1 ≠ 0 := by
  intro hzero
  have hproduct : (others.map fun y => (y - x).toField).prod = 0 := by
    have hfield := toField_foldl_mul (fun y => y - x) others 1
    rw [hzero, toField_zero, toField_one, one_mul] at hfield
    exact hfield.symm
  obtain ⟨y, hy, hdifference⟩ := List.mem_map.mp (List.prod_eq_zero_iff.mp hproduct)
  rw [toField_sub, sub_eq_zero] at hdifference
  exact h (toField_injective hdifference ▸ hy)

/-- The factor of a point is not zero if no other point is. -/
theorem lagrange_ne_zero (hx : x ∉ others) (hzero : 0 ∉ others) : lagrange x others ≠ 0 := by
  intro h
  have hproduct : (others.map fun y => y.toField * (y.toField - x.toField)⁻¹).prod = 0 := by
    rw [← toField_lagrange, h, toField_zero]
  obtain ⟨y, hy, hquotient⟩ := List.mem_map.mp (List.prod_eq_zero_iff.mp hproduct)
  rcases mul_eq_zero.mp hquotient with hnumerator | hdenominator
  · rw [← toField_zero] at hnumerator
    exact hzero (toField_injective hnumerator ▸ hy)
  · rw [inv_eq_zero, sub_eq_zero] at hdenominator
    exact hx (toField_injective hdenominator ▸ hy)

theorem getElem_not_mem_eraseIdx {xs : List Scalar} (hnodup : xs.Nodup) {i : Nat}
    (hi : i < xs.length) : xs[i] ∉ xs.eraseIdx i := by
  rw [← hnodup.erase_getElem]
  exact hnodup.not_mem_erase

/-- **Words are enough** to compute the factor of a point. -/
theorem Word.lagrange?_eq_some {xs : List Scalar} (hnodup : xs.Nodup) {i : Nat} (hi : i < xs.length) :
    lagrange? (xs.map ofScalar) i = some (ofScalar (lagrange xs[i] (xs.eraseIdx i))) := by
  have hpoint : (xs.map ofScalar)[i]? = some (ofScalar xs[i]) := by
    rw [List.getElem?_map, List.getElem?_eq_getElem hi, Option.map_some]
  have hnumerator : ((xs.eraseIdx i).map ofScalar).foldl mulMod 1
      = ofScalar ((xs.eraseIdx i).foldl (fun n y => n * y) 1) :=
    foldl_mulMod id id (fun _ => rfl) _ 1
  have hdenominator : ((xs.eraseIdx i).map ofScalar).foldl
      (fun d y => mulMod d (addMod y (.ofNat 256 (groupOrder - xs[i].val)))) 1
        = ofScalar ((xs.eraseIdx i).foldl (fun d y => d * (y - xs[i])) 1) :=
    foldl_mulMod (· - xs[i]) _ (addMod_opposite xs[i]) _ 1
  have hne := denominator_ne_zero (getElem_not_mem_eraseIdx hnodup hi)
  rw [lagrange?, hpoint, Option.bind_some, sub?_order, Option.bind_some, List.eraseIdx_map]
  dsimp only
  rw [hdenominator, inverse?_ofScalar hne, Option.map_some, hnumerator, mulMod_ofScalar]
  rfl

end Factors

/-! ## Integers -/

section Integers

variable {xs : List Nat}

/-- The factor of the integer at a position among all integers of a list. -/
def coefficient (xs : List Nat) (i : Fin xs.length) : Scalar :=
  lagrange (ofNat xs[i]) ((xs.eraseIdx i).map ofNat)

theorem val_ofNat_of_word {x : Nat} (h : x < 2 ^ 64) : (ofNat x).val = x :=
  Nat.mod_eq_of_lt (h.trans (by norm_num [groupOrder]))

/-- Different integers that fit 64 bits are different scalars. -/
theorem nodup_map_ofNat (hnodup : xs.Nodup) (hwords : ∀ x ∈ xs, x < 2 ^ 64) :
    (xs.map ofNat).Nodup := by
  apply hnodup.map_on
  intro x hx y hy heq
  rw [← val_ofNat_of_word (hwords x hx), heq, val_ofNat_of_word (hwords y hy)]

/-- The factor is that of a scalar among scalars. -/
theorem coefficient_eq (i : Fin xs.length) (hi : i.val < (xs.map ofNat).length) :
    coefficient xs i = lagrange (xs.map ofNat)[i.val] ((xs.map ofNat).eraseIdx i) := by
  rw [coefficient, List.eraseIdx_map, List.getElem_map]
  rfl

/-- The values of a polynomial, each with the factor of its point, add up to the value at zero. -/
theorem sum_coefficient (hnodup : (xs.map ofNat).Nodup) {q : Polynomial (ZMod groupOrder)}
    (hdegree : q.degree < xs.length) :
    ∑ i : Fin xs.length, (coefficient xs i).toField * q.eval (xs[i] : ZMod groupOrder) = q.eval 0 := by
  rw [← List.length_map (f := ofNat)] at hdegree
  rw [← sum_lagrange hnodup hdegree, List.map_map, ← Fin.sum_univ_fun_getElem]
  apply Finset.sum_congr rfl
  intro i _
  have hi : i.val < (xs.map ofNat).length := by simp
  have herase := hnodup.erase_getElem i hi
  rw [List.getElem_map] at herase
  rw [coefficient_eq i hi, List.getElem_map, ← herase, Function.comp_apply, toField_ofNat]
  rfl

/-- No factor is zero if none of the integers is. -/
theorem coefficient_ne_zero (hnodup : (xs.map ofNat).Nodup) (hzero : 0 ∉ xs.map ofNat)
    (i : Fin xs.length) : coefficient xs i ≠ 0 := by
  have hi : i.val < (xs.map ofNat).length := by simp
  rw [coefficient_eq i hi]
  apply lagrange_ne_zero
  · exact getElem_not_mem_eraseIdx hnodup hi
  · intro hmem
    exact hzero (List.mem_of_mem_eraseIdx hmem)

/-- **The factors of different integers interpolate at zero.** For all integers from `1` on that fit 64
    bits and every polynomial with fewer coefficients than there are integers, its values at them, each
    with its factor, add up to its value at zero. Every factor is a scalar other than zero, so that it
    fits 255 bits; and words of 256 bits are enough to compute it: no difference wraps, and zero is
    never inverted. -/
theorem lagrange_interpolates (hnodup : xs.Nodup) (hrange : ∀ x ∈ xs, 1 ≤ x ∧ x < 2 ^ 64) :
    (∀ q : Polynomial (ZMod groupOrder), q.degree < xs.length →
      ∑ i : Fin xs.length, (coefficient xs i).toField * q.eval (xs[i] : ZMod groupOrder)
        = q.eval 0) ∧
    ∀ i : Fin xs.length,
      1 ≤ (coefficient xs i).val ∧ (coefficient xs i).val ≤ groupOrder - 1 ∧
      (coefficient xs i).val < 2 ^ 255 ∧
      Word.lagrange? (xs.map (.ofNat 256)) i = some (Word.ofScalar (coefficient xs i)) := by
  have hscalars : (xs.map ofNat).Nodup := nodup_map_ofNat hnodup fun x hx => (hrange x hx).2
  have hzero : 0 ∉ xs.map ofNat := by
    intro hmem
    obtain ⟨x, hx, heq⟩ := List.mem_map.mp hmem
    have hval := congrArg Fin.val heq
    rw [val_ofNat_of_word (hrange x hx).2] at hval
    exact absurd hval (Nat.ne_of_gt (hrange x hx).1)
  have hwords : xs.map (.ofNat 256) = (xs.map ofNat).map Word.ofScalar := by
    rw [List.map_map]
    apply List.map_congr_left
    intro x hx
    rw [Function.comp_apply, Word.ofScalar, val_ofNat_of_word (hrange x hx).2]
  refine ⟨fun q hdegree => sum_coefficient hscalars hdegree, ?_⟩
  intro i
  have hne : (coefficient xs i).val ≠ 0 := by
    intro h
    exact coefficient_ne_zero hscalars hzero i (Fin.ext h)
  have hlt := (coefficient xs i).isLt
  have hi : i.val < (xs.map ofNat).length := by simp
  refine ⟨by omega, by omega, hlt.trans Word.groupOrder_lt, ?_⟩
  rw [hwords, Word.lagrange?_eq_some hscalars hi, coefficient_eq i hi]

/-- The least and the greatest of the integers and one between them, in no order; the values are those of
    `X ^ 2 + 9`. -/
theorem lagrange_interpolates_spread :
    let xs : List Nat := [7, 2 ^ 64 - 1, 1]
    let q : Polynomial (ZMod groupOrder) := .X ^ 2 + .C 9
    xs.Nodup ∧ (∀ x ∈ xs, 1 ≤ x ∧ x < 2 ^ 64) ∧ q.degree < xs.length ∧
    (∑ i : Fin xs.length, (coefficient xs i).toField * q.eval (xs[i] : ZMod groupOrder) = 9) ∧
    ∀ i : Fin xs.length,
      1 ≤ (coefficient xs i).val ∧ (coefficient xs i).val ≤ groupOrder - 1 ∧
      (coefficient xs i).val < 2 ^ 255 ∧
      Word.lagrange? (xs.map (.ofNat 256)) i = some (Word.ofScalar (coefficient xs i)) := by
  intro xs q
  have hnodup : xs.Nodup := by decide
  have hrange : ∀ x ∈ xs, 1 ≤ x ∧ x < 2 ^ 64 := by decide
  have hdegree : q.degree < xs.length := by
    have htwo : q.degree = (2 : Nat) := Polynomial.degree_X_pow_add_C (by decide) 9
    rw [htwo]
    exact_mod_cast (show 2 < xs.length by decide)
  obtain ⟨hsum, hfactors⟩ := lagrange_interpolates hnodup hrange
  have hzero : q.eval 0 = 9 := by simp [q]
  exact ⟨hnodup, hrange, hdegree, (hsum q hdegree).trans hzero, hfactors⟩

end Integers

end Registrar.Scalar
