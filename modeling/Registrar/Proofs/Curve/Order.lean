import Mathlib.Data.List.Prime
import Mathlib.NumberTheory.LucasPrimality
import Mathlib.Tactic.NormNum.Prime
import Mathlib.Tactic.ReduceModChar
import Registrar.Curve.Scalar

/-!
# The group order is prime

Lucas's test with the base seven: it has the order `groupOrder - 1`, since its powers to that number
over each of its prime factors are not one.

## Contents

- `orderFactors`, the factors of `groupOrder - 1`;
- `prime_groupOrder`.
-/

namespace Registrar

/-- The prime factors of `groupOrder - 1`, with their exponents. -/
def orderFactors : List (Nat × Nat) :=
  [(2, 32), (3, 1), (11, 1), (19, 1), (10177, 1), (125527, 1), (859267, 1), (906349, 2), (2508409, 1),
    (2529403, 1), (52437899, 1), (254760293, 2)]

theorem prod_orderFactors : (orderFactors.map fun f => f.1 ^ f.2).prod = groupOrder - 1 := by
  norm_num [orderFactors, groupOrder]

theorem prime_of_mem_orderFactors : ∀ f ∈ orderFactors, f.1.Prime := by
  simp only [orderFactors, List.forall_mem_cons, List.not_mem_nil, false_implies, implies_true,
    and_true]
  norm_num

theorem seven_pow_groupOrder : (7 : ZMod groupOrder) ^ (groupOrder - 1) = 1 := by
  unfold groupOrder
  norm_num
  reduce_mod_char

theorem seven_pow_ne_one :
    ∀ f ∈ orderFactors, (7 : ZMod groupOrder) ^ ((groupOrder - 1) / f.1) ≠ 1 := by
  simp only [orderFactors, List.forall_mem_cons, List.not_mem_nil, false_implies, implies_true,
    and_true]
  unfold groupOrder
  norm_num only
  refine ⟨?_, ?_, ?_, ?_, ?_, ?_, ?_, ?_, ?_, ?_, ?_, ?_⟩
  all_goals
    reduce_mod_char
    decide +kernel

theorem exists_orderFactor {q : Nat} (hq : q.Prime) (hdvd : q ∣ groupOrder - 1) :
    ∃ f ∈ orderFactors, q = f.1 := by
  rw [← prod_orderFactors, Prime.dvd_prod_iff hq.prime] at hdvd
  obtain ⟨power, hpower, hdivides⟩ := hdvd
  rw [List.mem_map] at hpower
  obtain ⟨f, hf, rfl⟩ := hpower
  exact ⟨f, hf, (Nat.prime_dvd_prime_iff_eq hq (prime_of_mem_orderFactors f hf)).mp
    (hq.dvd_of_dvd_pow hdivides)⟩

/-- **The group order is prime.** -/
theorem prime_groupOrder : groupOrder.Prime := by
  refine lucas_primality groupOrder 7 seven_pow_groupOrder fun q hq hdvd => ?_
  obtain ⟨f, hf, rfl⟩ := exists_orderFactor hq hdvd
  exact seven_pow_ne_one f hf

instance : Fact groupOrder.Prime := ⟨prime_groupOrder⟩

end Registrar
