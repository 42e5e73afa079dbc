import Registrar.Proofs.Merkle.Branching

/-!
# The shape of a tree

In a tree of `inner + 1` leaves the places before `inner` have the children `2 * i + 1` and
`2 * i + 2`, and the places from `inner` to `2 * inner` are its tips.

## Contents

- `under`, the branching under a place, with `tips_under_zero`;
- `root_under` and `mem_hashed_under`: what a numbering of hashes that follows the children gives.
-/

namespace Registrar.Merkle.Branching

/-- The places from place `i` on downwards. -/
def under (inner i : Nat) : Branching Nat :=
  if i < inner then fork (under inner (2 * i + 1)) (under inner (2 * i + 2)) else tip i
termination_by inner - i

variable {inner : Nat}

theorem under_of_lt {i : Nat} (h : i < inner) :
    under inner i = fork (under inner (2 * i + 1)) (under inner (2 * i + 2)) := by
  rw [under, if_pos h]

theorem under_of_le {i : Nat} (h : inner ≤ i) : under inner i = tip i := by
  rw [under, if_neg (by omega)]

/-- The rows `k, …, 2 * k` all have the same tips under them: going on from `k` replaces the first
    place of a row by its two children at the end. -/
theorem tips_row {k : Nat} (h : k ≤ inner) :
    ((List.range' k (k + 1)).flatMap fun i => (under inner i).tips).Perm (under inner 0).tips := by
  induction k with
  | zero => simp
  | succ k ih =>
    refine List.Perm.trans ?_ (ih (by omega))
    have hnext : List.range' (k + 1) (k + 1 + 1) = List.range' (k + 1) k ++ [2 * k + 1, 2 * k + 2] := by
      rw [List.range'_concat, List.range'_concat, List.append_assoc]
      have hfirst : k + 1 + 1 * k = 2 * k + 1 := by omega
      have hsecond : k + 1 + 1 * (k + 1) = 2 * k + 2 := by omega
      rw [hfirst, hsecond]
      rfl
    have hself : (under inner k).tips
        = (under inner (2 * k + 1)).tips ++ (under inner (2 * k + 2)).tips := by
      rw [under_of_lt (by omega)]
      rfl
    -- The children stand at the end of the row, their parent at its front.
    rw [hnext, List.range'_succ]
    simp only [List.flatMap_append, List.flatMap_cons, List.flatMap_nil, List.append_nil, hself]
    exact List.perm_append_comm

/-- **The tips of the whole tree are the last `inner + 1` places.** -/
theorem tips_under_zero (inner : Nat) : (under inner 0).tips.Perm (List.range' inner (inner + 1)) := by
  refine (tips_row (Nat.le_refl inner)).symm.trans ?_
  have hself : ∀ i ∈ List.range' inner (inner + 1), (under inner i).tips = [i] := by
    intro i hi
    rw [under_of_le (List.mem_range'_1.mp hi).1]
    rfl
  rw [List.flatMap_congr hself, List.flatMap_singleton']

/-! ## Hashes at the places -/

variable (label : Nat → Tip) (node : Nat → Hash)

/-- **A numbering that agrees with the tips and pairs children gives the root of every place.** -/
theorem root_under (htip : ∀ i, inner ≤ i → i ≤ 2 * inner → (label i).hash = node i)
    (hpair : ∀ i < inner, node i = pair (node (2 * i + 1)) (node (2 * i + 2)))
    {i : Nat} (hi : i ≤ 2 * inner) : ((under inner i).map label).root = node i := by
  fun_induction under inner i with
  | case1 i hlt ihl ihr =>
    rw [map, root, ihl (by omega), ihr (by omega)]
    exact (hpair i hlt).symm
  | case2 i hge => exact htip i (by omega) hi

/-- What is hashed under a place: pairs of children, and what is hashed for the tips. -/
theorem mem_hashed_under (htip : ∀ i, inner ≤ i → i ≤ 2 * inner → (label i).hash = node i)
    (hpair : ∀ i < inner, node i = pair (node (2 * i + 1)) (node (2 * i + 2)))
    {i : Nat} (hi : i ≤ 2 * inner) {b : Bytes} (hb : b ∈ ((under inner i).map label).hashed) :
    (∃ j < inner, b = pairInput (node (2 * j + 1)) (node (2 * j + 2))) ∨
      ∃ j, inner ≤ j ∧ j ≤ 2 * inner ∧ b ∈ (label j).hashed := by
  fun_induction under inner i with
  | case1 i hlt ihl ihr =>
    rw [map, hashed, List.mem_cons, List.mem_append, root_under label node htip hpair (by omega),
      root_under label node htip hpair (by omega)] at hb
    rcases hb with hb | hb | hb
    · exact .inl ⟨i, hlt, hb⟩
    · exact ihl (by omega) hb
    · exact ihr (by omega) hb
  | case2 i hge => exact .inr ⟨i, by omega, hi, hb⟩

end Registrar.Merkle.Branching
