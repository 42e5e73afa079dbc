import Registrar.Proofs.Merkle.Climbing
import Registrar.Proofs.Merkle.Counting

/-!
# Proofs of one leaf among proofs of many

The proof of one leaf is the proof of many leaves with clear flags only, for whoever checks it and for the
tree that gives it: a queue of one hash or place is followed up by its sibling at every step.

## Contents

- `rootOf_singleton`: clear flags lead from one hash where its siblings lead;
- `Position.ascend_singleton`: the way up from one place asks for its siblings;
- `Tree.multiProof_singleton`, and `single_eq_multi` for both sides.
-/

namespace Registrar.Merkle

/-! ## Checking -/

/-- The queue holds one hash all the way. -/
theorem foldFlags_replicate_false (node : Hash) (siblings : List Hash) :
    foldFlags (List.replicate siblings.length false) [node] siblings = .ok (climb node siblings) := by
  induction siblings generalizing node with
  | nil => rfl
  | cons s siblings ih => exact ih (pair node s)

/-- **Clear flags lead from one hash where its siblings lead.** -/
theorem rootOf_singleton (node : Hash) (siblings : List Hash) :
    rootOf [node] siblings (List.replicate siblings.length false) = .ok (climb node siblings) := by
  have hcount : (List.replicate siblings.length false).count false = siblings.length :=
    List.count_replicate_self
  have hlength : (List.replicate siblings.length false).length = siblings.length :=
    List.length_replicate
  rw [rootOf_eq_foldFlags (Nat.le_of_eq hcount), foldFlags_replicate_false]
  rw [hlength, List.length_singleton, Nat.add_comm]

/-! ## Proving -/

namespace Position

/-- **The way up from one place asks for its siblings**, one at every step. -/
theorem ascend_singleton (i : Nat) : ascend [i] = (siblings i).map (false, ·) := by
  fun_induction siblings i with
  | case1 => exact ascend_zero
  | case2 i hi ih =>
    have hhead : ([] : List Nat).head? ≠ some (sibling i) := (Option.some_ne_none _).symm
    rw [ascend_single hi hhead, List.nil_append, ih]
    rfl

theorem flags_ascend_singleton (i : Nat) :
    flags (ascend [i]) = List.replicate (siblings i).length false := by
  rw [ascend_singleton, flags, List.map_map]
  exact List.map_const'

theorem given_ascend_singleton (i : Nat) : given (ascend [i]) = siblings i := by
  rw [ascend_singleton]
  induction siblings i with
  | nil => rfl
  | cons j places ih => rw [List.map_cons, given_cons_false, ih]

end Position

namespace Tree

variable {t : Tree} {i : Nat} {v : Leaf}

theorem byPlace_singleton (t : Tree) (i : Nat) : t.byPlace [i] = [i] := List.mergeSort_singleton i

/-- **The proof of one index is that of its leaf**, with a clear flag for each sibling. -/
theorem multiProof_singleton (hv : t.leaves[i]? = some v) :
    ∃ siblings, t.proof? i = .ok siblings ∧
      t.multiProof [i] = .ok ⟨[v], [i], siblings, List.replicate siblings.length false⟩ := by
  have hi : i < t.size := (List.getElem?_eq_some_iff.mp hv).1
  have hnodes : t.nodesAt (Position.siblings (t.place i))
      = (Position.siblings (t.place i)).map t.nodeD :=
    nodesAt_eq (Position.le_of_mem_siblings (place_bounds hi).2)
  have hproof : t.proofOf [i] = ⟨[v], [i], (Position.siblings (t.place i)).map t.nodeD,
      List.replicate (Position.siblings (t.place i)).length false⟩ := by
    rw [proofOf, List.map_singleton, Position.flags_ascend_singleton,
      Position.given_ascend_singleton, hnodes, if_neg (List.cons_ne_nil _ _),
      List.filterMap_cons_some hv, List.filterMap_nil]
  refine ⟨_, proof?_eq_ok hi, ?_⟩
  rw [multiProof_eq_ok (by simpa using hi) (List.pairwise_singleton ..), byPlace_singleton, hproof,
    List.length_map]

end Tree

/-- **Proofs of one leaf and proofs of many leaves agree** where both exist. Whatever hash and siblings are
    checked, clear flags lead to the same root; and in every tree the proof of the many leaves at one index
    has that leaf, the siblings of its own proof and clear flags. -/
theorem single_eq_multi :
    (∀ (node : Hash) (siblings : List Hash),
      rootOf [node] siblings (List.replicate siblings.length false) = .ok (climb node siblings)) ∧
    ∀ (t : Tree) (i : Nat) (v : Leaf), t.leaves[i]? = some v →
      ∃ siblings, t.proof? i = .ok siblings ∧
        t.multiProof [i] = .ok ⟨[v], [i], siblings, List.replicate siblings.length false⟩ :=
  ⟨rootOf_singleton, fun _ _ _ => Tree.multiProof_singleton⟩

/-- The last of three leaves, which do not all stand at the same depth. -/
theorem single_eq_multi_last :
    ∃ t, Tree.ofLeaves? [⟨[1], 0⟩, ⟨[1], 0⟩, ⟨[2], 1⟩] = .ok t ∧ t.leaves[2]? = some ⟨[2], 1⟩ ∧
      ∃ siblings, t.proof? 2 = .ok siblings ∧
        t.multiProof [2]
          = .ok ⟨[⟨[2], 1⟩], [2], siblings, List.replicate siblings.length false⟩ ∧
        rootOf [Leaf.hash ⟨[2], 1⟩] siblings (List.replicate siblings.length false)
          = .ok (climb (Leaf.hash ⟨[2], 1⟩) siblings) := by
  have hne : ([⟨[1], 0⟩, ⟨[1], 0⟩, ⟨[2], 1⟩] : List Leaf) ≠ [] := List.cons_ne_nil _ _
  obtain ⟨t, ht⟩ := Tree.exists_ofLeaves? hne
  have hv : t.leaves[2]? = some ⟨[2], 1⟩ := by
    rw [(Tree.ofLeaves?_eq_ok ht).1]
    rfl
  obtain ⟨siblings, hproof, hmulti⟩ := single_eq_multi.2 t 2 ⟨[2], 1⟩ hv
  exact ⟨t, ht, hv, siblings, hproof, hmulti, single_eq_multi.1 _ siblings⟩

end Registrar.Merkle
