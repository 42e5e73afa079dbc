import Mathlib.Probability.Distributions.Uniform
import Registrar.Proofs.Exit.Recombination

/-!
# Shares below the threshold

A polynomial is determined by its value at zero and its values at as many other points as it has
further coefficients. So whoever holds one share less than the threshold can choose any key: exactly
one choice of the other coefficients explains what they hold, and with coefficients drawn evenly what
they hold is the same for every key.

## Contents

- `Scalar.polynomial_injective` and `Scalar.coefficients_eq_of_evaluate_eq`: a polynomial with a given
  constant is determined by its values;
- `Exit.abscissas`, the points at which the shares of some indices are taken;
- `Exit.seen`, the shares of some indices, with `Exit.seen_bijective`;
- `Exit.existsUnique_coefficients`.
-/

namespace Registrar

/-! ## Polynomials and their values -/

namespace Scalar

/-- Of lists of one length, each gives a polynomial of its own. -/
theorem polynomial_injective {cs ds : List Scalar} (hlength : cs.length = ds.length)
    (h : polynomial cs = polynomial ds) : cs = ds := by
  induction cs generalizing ds with
  | nil => exact (List.length_eq_zero_iff.mp hlength.symm).symm
  | cons c cs ih =>
    cases ds with
    | nil => cases hlength
    | cons d ds =>
      rw [polynomial, polynomial, List.foldr_cons, List.foldr_cons] at h
      have hconstant : c = d := by
        have hcoeff := congrArg (Polynomial.coeff · 0) h
        simp only [Polynomial.coeff_add, Polynomial.mul_coeff_zero, Polynomial.coeff_X_zero,
          mul_zero, Polynomial.coeff_C_zero, zero_add] at hcoeff
        exact toField_injective hcoeff
      subst hconstant
      have hrest : polynomial cs = polynomial ds :=
        mul_right_cancel₀ Polynomial.X_ne_zero (add_right_cancel h)
      rw [ih (Nat.succ.inj hlength) hrest]

/-- **The constant and the values at other points determine the coefficients**, if there are as many
    points as coefficients. Zero is one more point at which the two polynomials agree. -/
theorem coefficients_eq_of_evaluate_eq {s : Scalar} {cs ds : List Scalar} {points : Finset Scalar}
    (hzero : 0 ∉ points) (hcs : cs.length = points.card) (hds : ds.length = points.card)
    (h : ∀ x ∈ points, evaluate (s :: cs) x = evaluate (s :: ds) x) : cs = ds := by
  have hcard : (insert 0 points).card = points.card + 1 := Finset.card_insert_of_notMem hzero
  have hdegree : ∀ es : List Scalar, es.length = points.card →
      (polynomial (s :: es)).degree < (insert 0 points).card := by
    intro es hes
    have hlt := degree_polynomial_lt (s :: es)
    rw [List.length_cons, hes] at hlt
    rw [hcard]
    exact hlt
  have heval : ∀ x ∈ insert 0 points,
      (polynomial (s :: cs)).eval x.toField = (polynomial (s :: ds)).eval x.toField := by
    intro x hx
    rcases Finset.mem_insert.mp hx with rfl | hx
    · rw [toField_zero, eval_zero_polynomial, eval_zero_polynomial]
    · rw [← toField_evaluate, ← toField_evaluate, h x hx]
  have hsame : polynomial (s :: cs) = polynomial (s :: ds) :=
    Polynomial.eq_of_degrees_lt_of_eval_index_eq (insert 0 points) toField_injective.injOn
      (hdegree cs hcs) (hdegree ds hds) heval
  have hlists : s :: cs = s :: ds := by
    apply polynomial_injective _ hsame
    rw [List.length_cons, List.length_cons, hcs, hds]
  exact (List.cons.inj hlists).2

end Scalar

/-! ## Even choices -/

/-- A choice that is even stays so when it is named otherwise. -/
theorem map_uniformOfFintype {α β : Type} [Fintype α] [Nonempty α] [Fintype β] [Nonempty β]
    {f : α → β} (hf : Function.Bijective f) :
    (PMF.uniformOfFintype α).map f = PMF.uniformOfFintype β := by
  ext b
  obtain ⟨a, rfl⟩ := hf.2 b
  rw [PMF.map_apply, tsum_eq_single a]
  · rw [if_pos rfl, PMF.uniformOfFintype_apply, PMF.uniformOfFintype_apply,
      Fintype.card_of_bijective hf]
  · intro a' hne
    exact if_neg fun heq => hne (hf.1 heq.symm)

namespace Exit

/-! ## Points of shares -/

section Shares

variable {total : UInt64} (J : Finset (Fin total.toNat))

/-- The points at which the shares of some indices are taken. -/
def abscissas : Finset Scalar := J.image fun j => abscissa j.val

/-- An index is a machine word, which is far below the group order. -/
theorem succ_lt_groupOrder (j : Fin total.toNat) : j.val + 1 < groupOrder := by
  have hword : j.val < 2 ^ 64 := j.isLt.trans total.toNat_lt
  exact Nat.lt_of_le_of_lt hword (by norm_num [groupOrder])

theorem val_abscissa (j : Fin total.toNat) : (abscissa j.val).val = j.val + 1 :=
  Nat.mod_eq_of_lt (succ_lt_groupOrder j)

/-- Shares of different indices are taken at different points. -/
theorem card_abscissas : (abscissas J).card = J.card := by
  apply Finset.card_image_of_injective
  intro i j h
  have hval := congrArg Fin.val h
  rw [val_abscissa, val_abscissa] at hval
  exact Fin.ext (Nat.succ.inj hval)

/-- No share is the key itself. -/
theorem zero_not_mem_abscissas : 0 ∉ abscissas J := by
  intro h
  obtain ⟨j, -, hj⟩ := Finset.mem_image.mp h
  have hval := congrArg Fin.val hj
  rw [val_abscissa] at hval
  exact Nat.succ_ne_zero _ hval

/-! ## What is seen -/

variable {n : Nat} (s : Scalar)

/-- The shares of some indices, when a key is split with some coefficients. -/
def seen (coefficients : List.Vector Scalar n) (j : J) : Scalar :=
  (sharesOf (s :: coefficients.toList) total.toNat).getD j.val.val 0

theorem seen_eq_evaluate (coefficients : List.Vector Scalar n) (j : J) :
    seen J s coefficients j
      = Scalar.evaluate (s :: coefficients.toList) (abscissa j.val.val) := by
  rw [seen, sharesOf, List.getD_eq_getElem?_getD, List.getElem?_map,
    List.getElem?_range j.val.isLt]
  rfl

/-- What is seen twice is the same just if all values at the points of the indices are. -/
theorem seen_eq_iff {s s' : Scalar} {cs ds : List.Vector Scalar n} :
    seen J s cs = seen J s' ds ↔ ∀ j ∈ J, Scalar.evaluate (s :: cs.toList) (abscissa j.val)
      = Scalar.evaluate (s' :: ds.toList) (abscissa j.val) := by
  constructor
  · intro h j hj
    rw [← seen_eq_evaluate J s cs ⟨j, hj⟩, ← seen_eq_evaluate J s' ds ⟨j, hj⟩, h]
  · intro h
    funext j
    rw [seen_eq_evaluate, seen_eq_evaluate, h j.val j.property]

/-- **As many shares as there are coefficients besides the key can be anything**, and determine the
    coefficients. There are as many lists of coefficients as lists of shares, so one half is enough. -/
theorem seen_bijective (hJ : J.card = n) :
    Function.Bijective (seen J s : List.Vector Scalar n → J → Scalar) := by
  apply (Fintype.bijective_iff_injective_and_card _).mpr
  constructor
  · intro cs ds h
    apply List.Vector.toList_injective
    have hcard : (abscissas J).card = n := (card_abscissas J).trans hJ
    refine Scalar.coefficients_eq_of_evaluate_eq (s := s) (zero_not_mem_abscissas J)
      (cs.toList_length.trans hcard.symm) (ds.toList_length.trans hcard.symm) ?_
    intro x hx
    obtain ⟨j, hj, rfl⟩ := Finset.mem_image.mp hx
    exact (seen_eq_iff J).mp h j hj
  · rw [card_vector, Fintype.card_fun, Fintype.card_coe, hJ]

end Shares

/-- **Fewer shares than the threshold say nothing about the key.** Let some indices be one less than the
    threshold, and a key be split with some coefficients. Then there is, for every other key, exactly
    one list of coefficients with which it has the same shares at these indices; and if coefficients
    are chosen evenly, the shares at these indices are distributed in the same way for both keys. -/
theorem existsUnique_coefficients {threshold : Nat} {total : UInt64} {J : Finset (Fin total.toNat)}
    (hJ : J.card + 1 = threshold) (s s' : Scalar) {coefficients : List Scalar}
    (hlength : coefficients.length + 1 = threshold) :
    (∃! coefficients' : List Scalar, coefficients'.length + 1 = threshold ∧
      ∀ j ∈ J, Scalar.evaluate (s' :: coefficients') (abscissa j)
        = Scalar.evaluate (s :: coefficients) (abscissa j)) ∧
    (PMF.uniformOfFintype (List.Vector Scalar (threshold - 1))).map (seen J s)
      = (PMF.uniformOfFintype (List.Vector Scalar (threshold - 1))).map (seen J s') := by
  have hcard : J.card = threshold - 1 := by omega
  constructor
  · obtain ⟨cs, rfl⟩ : ∃ cs : List.Vector Scalar (threshold - 1), cs.toList = coefficients :=
      ⟨⟨coefficients, by omega⟩, rfl⟩
    -- What is seen of the one key is seen of the other with one list of coefficients.
    obtain ⟨found, hfound, hunique⟩ := (seen_bijective J s' hcard).existsUnique (seen J s cs)
    refine ⟨found.toList, ⟨?_, (seen_eq_iff J).mp hfound⟩, ?_⟩
    · rw [found.toList_length]
      omega
    · rintro other ⟨hother, hsame⟩
      obtain ⟨ds, rfl⟩ : ∃ ds : List.Vector Scalar (threshold - 1), ds.toList = other :=
        ⟨⟨other, by omega⟩, rfl⟩
      rw [hunique ds ((seen_eq_iff J).mpr hsame)]
  · rw [map_uniformOfFintype (seen_bijective J s hcard),
      map_uniformOfFintype (seen_bijective J s' hcard)]

/-- Of three shares of the key 5 two are needed; with the second share alone it might as well be 6. -/
theorem existsUnique_coefficients_second :
    let J : Finset (Fin (3 : UInt64).toNat) := {⟨1, by decide⟩}
    J.card + 1 = 2 ∧ [Scalar.ofNat 7].length + 1 = 2 ∧
    (∃! coefficients' : List Scalar, coefficients'.length + 1 = 2 ∧
      ∀ j ∈ J, Scalar.evaluate (Scalar.ofNat 6 :: coefficients') (abscissa j)
        = Scalar.evaluate [Scalar.ofNat 5, Scalar.ofNat 7] (abscissa j)) ∧
    (PMF.uniformOfFintype (List.Vector Scalar (2 - 1))).map (seen J (Scalar.ofNat 5))
      = (PMF.uniformOfFintype (List.Vector Scalar (2 - 1))).map (seen J (Scalar.ofNat 6)) := by
  intro J
  have hJ : J.card + 1 = 2 := rfl
  exact ⟨hJ, rfl, existsUnique_coefficients hJ (Scalar.ofNat 5) (Scalar.ofNat 6) rfl⟩

end Exit

end Registrar
