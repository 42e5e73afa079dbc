import Mathlib.Algebra.BigOperators.Group.List.Basic
import Mathlib.FieldTheory.Finite.Basic
import Mathlib.LinearAlgebra.Lagrange
import Registrar.Bytes.Lemmas
import Registrar.Proofs.Curve.Order

/-!
# Scalars as a field

Scalars are computed as remainders. Read as elements of the field with `groupOrder` elements, their
operations are those of the field: powers are powers, the Fermat inverse is the inverse, the value
of a list of coefficients is the value of a polynomial, and the Lagrange factors interpolate.

## Contents

- `Curve.map_fold`: what doubling and adding computes;
- `Scalar.toField` with a law for every operation;
- `Scalar.secret?_toOctets` and `Scalar.eq_of_secret?_eq_some`: how secret keys are spelled;
- `Scalar.polynomial` and `Scalar.toField_evaluate`;
- `Scalar.toField_lagrange` and `Scalar.sum_lagrange`.
-/

namespace Registrar

/-! ## Powers -/

namespace Curve

theorem binaryDigits_of_pos {n : Nat} (h : 0 < n) :
    binaryDigits n = binaryDigits (n / 2) ++ [decide (n % 2 = 1)] := by
  rw [binaryDigits, if_neg (Nat.ne_of_gt h)]

/-- **Doubling and adding computes powers**, in any monoid in which the operations have their
    meaning. -/
theorem map_fold {α : Type} {M : Type*} [Monoid M] (f : α → M) {unit : α} {double : α → α}
    {combine : α → α → α} (hunit : f unit = 1) (hdouble : ∀ a, f (double a) = f a * f a)
    (hcombine : ∀ a b, f (combine a b) = f a * f b) (x : α) (n : Nat) :
    f (fold unit double combine x n) = f x ^ n := by
  induction n using Nat.strong_induction_on with
  | _ n ih =>
    rcases Nat.eq_zero_or_pos n with rfl | hpos
    · rw [pow_zero, ← hunit, fold, binaryDigits]
      rfl
    · -- The lowest digit comes last: double what the others give, then add it.
      have hhalf := ih (n / 2) (Nat.div_lt_self hpos (by omega))
      rw [fold] at hhalf ⊢
      rw [binaryDigits_of_pos hpos, List.foldl_concat]
      rcases Nat.mod_two_eq_zero_or_one n with heven | hodd
      · have hn : n = n / 2 + n / 2 := by omega
        rw [heven, decide_eq_false (by omega), if_neg (by simp), hdouble, hhalf, ← pow_add, ← hn]
      · have hn : n = n / 2 + n / 2 + 1 := by omega
        rw [hodd, decide_eq_true rfl, if_pos rfl, hcombine, hdouble, hhalf, ← pow_add, ← pow_succ,
          ← hn]

end Curve

/-! ## The field of scalars -/

namespace Scalar

/-- A scalar as an element of the field. -/
def toField (s : Scalar) : ZMod groupOrder := (s.val : ZMod groupOrder)

theorem toField_injective : Function.Injective toField := by
  intro s s' h
  have hval := congrArg ZMod.val h
  rw [toField, toField, ZMod.val_natCast_of_lt s.isLt, ZMod.val_natCast_of_lt s'.isLt] at hval
  exact Fin.ext hval

@[simp] theorem toField_ofNat (n : Nat) : (ofNat n).toField = (n : ZMod groupOrder) := by
  rw [toField, ofNat, Fin.val_ofNat, ZMod.natCast_mod]

@[simp] theorem toField_zero : (0 : Scalar).toField = 0 := Nat.cast_zero

@[simp] theorem toField_one : (1 : Scalar).toField = 1 := by
  rw [show (1 : Scalar) = ofNat 1 from rfl, toField_ofNat, Nat.cast_one]

@[simp] theorem toField_add (a b : Scalar) : (a + b).toField = a.toField + b.toField := by
  rw [toField, Fin.val_add, ZMod.natCast_mod, Nat.cast_add, toField, toField]

@[simp] theorem toField_mul (a b : Scalar) : (a * b).toField = a.toField * b.toField := by
  rw [toField, Fin.val_mul, ZMod.natCast_mod, Nat.cast_mul, toField, toField]

@[simp] theorem toField_sub (a b : Scalar) : (a - b).toField = a.toField - b.toField := by
  rw [toField, Fin.sub_def, ZMod.natCast_mod, Nat.cast_add, Nat.cast_sub b.isLt.le,
    ZMod.natCast_self, zero_sub, toField, toField, neg_add_eq_sub]

@[simp] theorem toField_power (a : Scalar) (n : Nat) :
    (Curve.power a n).toField = a.toField ^ n :=
  Curve.map_fold toField toField_one (fun a => toField_mul a a) toField_mul a n

/-- **The Fermat inverse is the inverse.** -/
@[simp] theorem toField_inverse (a : Scalar) : a.inverse.toField = a.toField⁻¹ := by
  rw [inverse, toField_power]
  -- Zero is its own inverse on both sides.
  rcases eq_or_ne a.toField 0 with hzero | hne
  · rw [hzero, inv_zero, zero_pow]
    norm_num [groupOrder]
  · refine eq_inv_of_mul_eq_one_left ?_
    rw [← pow_succ, show groupOrder - 2 + 1 = groupOrder - 1 by norm_num [groupOrder]]
    exact ZMod.pow_card_sub_one_eq_one hne

/-! ## Secret keys -/

theorem toNat_toOctets (s : Scalar) : Bytes.toNat s.toOctets.toList = s.val := by
  have hlt : s.val < 256 ^ 32 := s.isLt.trans (by norm_num [groupOrder])
  exact (Bytes.toNat_bigEndian 32 s.val).trans (Nat.mod_eq_of_lt hlt)

theorem secret?_eq_some {bs : Bytes} {s : Scalar} (h : secret? bs = some s) :
    bs.length = 32 ∧ Bytes.toNat bs = s.val := by
  simp only [secret?] at h
  split at h
  · next hvalid =>
    cases h
    exact ⟨hvalid.1, rfl⟩
  · cases h

/-- A secret key is not zero. -/
theorem pos_of_secret? {bs : Bytes} {s : Scalar} (h : secret? bs = some s) : 0 < s.val := by
  simp only [secret?] at h
  split at h
  · next hvalid =>
    cases h
    exact hvalid.2.1
  · cases h

/-- The bytes of a scalar spell it as a secret key, unless it is zero. -/
theorem eq_of_secret?_toOctets {s s' : Scalar} (h : secret? s.toOctets.toList = some s') :
    s' = s := by
  obtain ⟨-, hvalue⟩ := secret?_eq_some h
  exact Fin.ext (hvalue.symm.trans (toNat_toOctets s))

/-- The bytes of a scalar other than zero spell it. -/
theorem secret?_toOctets {s : Scalar} (h : 0 < s.val) : secret? s.toOctets.toList = some s := by
  simp only [secret?, toNat_toOctets]
  rw [dif_pos ⟨s.toOctets.length_toList, h, s.isLt⟩]

/-- **A secret key has one spelling.** -/
theorem eq_of_secret?_eq_some {bs bs' : Bytes} {s : Scalar} (h : secret? bs = some s)
    (h' : secret? bs' = some s) : bs = bs' := by
  obtain ⟨hlength, hvalue⟩ := secret?_eq_some h
  obtain ⟨hlength', hvalue'⟩ := secret?_eq_some h'
  exact Bytes.toNat_inj (hlength.trans hlength'.symm) (hvalue.trans hvalue'.symm)

/-! ## Polynomials -/

open Polynomial in
/-- The polynomial with the given coefficients, the constant one first. -/
noncomputable def polynomial (coefficients : List Scalar) : (ZMod groupOrder)[X] :=
  coefficients.foldr (fun c p => p * X + C c.toField) 0

theorem toField_evaluate (coefficients : List Scalar) (x : Scalar) :
    (evaluate coefficients x).toField = (polynomial coefficients).eval x.toField := by
  induction coefficients with
  | nil => simp [evaluate, polynomial]
  | cons c coefficients ih =>
    simp only [evaluate, polynomial] at ih
    simp [evaluate, polynomial, ih]

theorem eval_zero_polynomial (c : Scalar) (coefficients : List Scalar) :
    (polynomial (c :: coefficients)).eval 0 = c.toField := by
  simp [polynomial]

open Polynomial in
theorem degree_polynomial_lt (coefficients : List Scalar) :
    (polynomial coefficients).degree < coefficients.length := by
  induction coefficients with
  | nil =>
    rw [polynomial, List.foldr_nil, degree_zero]
    exact WithBot.bot_lt_coe _
  | cons c coefficients ih =>
    rw [degree_lt_iff_coeff_zero] at ih ⊢
    intro m hm
    cases m with
    | zero => exact absurd hm (by simp)
    | succ m =>
      rw [List.length_cons] at hm
      rw [polynomial, List.foldr_cons, coeff_add, coeff_mul_X, coeff_C_succ, add_zero]
      exact ih m (by omega)

/-! ## Interpolation -/

theorem toField_foldl_mul (f : Scalar → Scalar) (xs : List Scalar) (start : Scalar) :
    (xs.foldl (fun n y => n * f y) start).toField
      = start.toField * (xs.map fun y => (f y).toField).prod := by
  induction xs generalizing start with
  | nil => simp
  | cons y xs ih =>
    rw [List.foldl_cons, ih, toField_mul, List.map_cons, List.prod_cons, mul_assoc]

/-- The factor of a point, as a product of quotients. -/
theorem toField_lagrange (x : Scalar) (others : List Scalar) :
    (lagrange x others).toField
      = (others.map fun y => y.toField * (y.toField - x.toField)⁻¹).prod := by
  have hnumerator : (others.foldl (fun n y => n * y) 1).toField
      = (others.map fun y => y.toField).prod := by
    rw [toField_foldl_mul fun y => y, toField_one, one_mul]
  have hdenominator : (others.foldl (fun d y => d * (y - x)) 1).toField
      = (others.map fun y => y.toField - x.toField).prod := by
    rw [toField_foldl_mul fun y => y - x, toField_one, one_mul]
    simp only [toField_sub]
  rw [lagrange, toField_mul, toField_inverse, hnumerator, hdenominator, List.prod_map_mul]
  congr 1
  have hinverse := map_list_prod (invMonoidWithZeroHom : ZMod groupOrder →*₀ ZMod groupOrder)
    (others.map fun y => y.toField - x.toField)
  rw [List.map_map] at hinverse
  exact hinverse

theorem eval_zero_basisDivisor (x y : ZMod groupOrder) :
    (Lagrange.basisDivisor x y).eval 0 = y * (y - x)⁻¹ := by
  rw [Lagrange.basisDivisor, Polynomial.eval_mul, Polynomial.eval_C, Polynomial.eval_sub,
    Polynomial.eval_X, Polynomial.eval_C, ← neg_sub y x, inv_neg]
  ring

/-- **The Lagrange factors interpolate at zero.** -/
theorem sum_lagrange {xs : List Scalar} (hnodup : xs.Nodup) {p : Polynomial (ZMod groupOrder)}
    (hdegree : p.degree < xs.length) :
    (xs.map fun x => (lagrange x (xs.erase x)).toField * p.eval x.toField).sum = p.eval 0 := by
  have hcard : xs.toFinset.card = xs.length := List.toFinset_card_of_nodup hnodup
  have hinterpolate := Lagrange.eq_interpolate (f := p) (s := xs.toFinset) (v := toField)
    toField_injective.injOn (hcard ▸ hdegree)
  have hbasis : ∀ x, (Lagrange.basis xs.toFinset toField x).eval 0
      = (lagrange x (xs.erase x)).toField := by
    intro x
    have herase : (xs.erase x).toFinset = xs.toFinset.erase x := by
      ext y
      rw [List.mem_toFinset, hnodup.mem_erase_iff, Finset.mem_erase, List.mem_toFinset]
    rw [Lagrange.basis, Polynomial.eval_prod, toField_lagrange, ← herase,
      List.prod_toFinset _ (hnodup.erase x)]
    simp only [eval_zero_basisDivisor]
  -- The polynomial is the sum of its values times the Lagrange polynomials, also at zero.
  rw [← List.sum_toFinset _ hnodup]
  conv_rhs => rw [hinterpolate, Lagrange.interpolate_apply, Polynomial.eval_finsetSum]
  refine Finset.sum_congr rfl fun x _ => ?_
  rw [Polynomial.eval_mul, Polynomial.eval_C, hbasis, mul_comm]

end Scalar

end Registrar
