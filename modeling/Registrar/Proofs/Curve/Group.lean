import Mathlib.Algebra.Group.MinimalAxioms
import Mathlib.Algebra.Module.ZMod
import Mathlib.GroupTheory.SpecificGroups.Cyclic
import Registrar.Curve.Scheme
import Registrar.Proofs.Curve.Scalar

/-!
# The group of signatures

What is taken for granted of the group in which signatures lie: its order is the group order,
multiples are repeated sums, and a point is read back from its bytes. A group of prime order is
cyclic, so it is a vector space over the field of scalars.

## Contents

- `SignatureScheme.Laws`, what is taken for granted;
- `Laws.addCommGroup` and `Laws.exists_module`.
-/

namespace Registrar.SignatureScheme

/-- A group of prime order, its multiples, and its points as bytes. -/
structure Laws (G : Type) [SignatureScheme G] : Prop where
  add_assoc : ∀ p q r : G, add (add p q) r = add p (add q r)
  zero_add : ∀ p : G, add zero p = p
  exists_neg : ∀ p : G, ∃ q, add q p = zero
  card_eq : Nat.card G = groupOrder
  multiple_eq : ∀ (s : Scalar) (p : G), multiple s p = (add p)^[s.val] zero
  decode?_encode : ∀ p : G, decode? (encode p) = some p

namespace Laws

variable {G : Type} [SignatureScheme G]

/-- The group. -/
noncomputable abbrev addGroup (h : Laws G) : AddGroup G :=
  letI : Add G := ⟨add⟩
  letI : Zero G := ⟨zero⟩
  letI : Neg G := ⟨fun p => (h.exists_neg p).choose⟩
  AddGroup.ofLeftAxioms h.add_assoc h.zero_add fun p => (h.exists_neg p).choose_spec

/-- The group with its order of summands, which does not matter, since the group is cyclic. -/
noncomputable abbrev addCommGroup (h : Laws G) : AddCommGroup G :=
  letI := h.addGroup
  haveI : IsAddCyclic G := isAddCyclic_of_prime_card h.card_eq
  IsAddCyclic.addCommGroup

/-- **The group is a vector space over the field of scalars.** -/
theorem exists_module (h : Laws G) :
    ∃ (_ : AddCommGroup G) (_ : Module (ZMod groupOrder) G),
      (zero : G) = 0 ∧ (∀ p q : G, add p q = p + q) ∧
        ∀ (s : Scalar) (p : G), multiple s p = s.toField • p := by
  let _ := h.addCommGroup
  have horder : ∀ p : G, groupOrder • p = 0 := by
    intro p
    rw [← h.card_eq]
    exact card_nsmul_eq_zero'
  refine ⟨h.addCommGroup, AddCommGroup.zmodModule horder, rfl, fun _ _ => rfl, fun s p => ?_⟩
  have hrepeat : (add p)^[s.val] zero = s.val • p + (0 : G) := add_left_iterate_apply ..
  rw [h.multiple_eq, hrepeat, add_zero, Scalar.toField]
  let _ := AddCommGroup.zmodModule horder
  exact (Nat.cast_smul_eq_nsmul _ _ _).symm

/-- Summands change places. -/
theorem add_comm (h : Laws G) (p q : G) : add p q = add q p := by
  obtain ⟨_, _, -, hadd, -⟩ := h.exists_module
  rw [hadd, hadd, AddCommMagma.add_comm]

end Laws

end Registrar.SignatureScheme
