import Registrar.Proofs.Merkle.Folding
import Registrar.Proofs.Merkle.Growth

/-!
# What a root binds

A root stands for the leaves of its tree, unless two byte strings that were hashed collide.

## Contents

- `Grown.leaves_perm_of_root_eq`: two trees with one root have the same leaves;
- `Grown.subperm_of_rootOf` and `count_le_of_verifyMulti`: whatever leaves, nodes and flags a proof
  consists of, if it leads to the root of a tree, its leaves are leaves of the tree, none of them more
  often than it is there.
-/

namespace Registrar.Merkle

namespace Tree

/-- **Two trees with the same root have the same leaves**, in whatever order they were given. -/
theorem Grown.leaves_perm_of_root_eq {t u : Tree} (ht : t.Grown) (hu : u.Grown)
    (hroot : t.root = u.root) (hno : ¬ Collides keccak256 (t.hashed ++ u.hashed)) :
    t.leaves.Perm u.leaves := by
  have htsub : t.branching.hashed ⊆ t.hashed ++ u.hashed :=
    fun b hb => List.mem_append_left _ (ht.hashed_branching hb)
  have husub : u.branching.hashed ⊆ t.hashed ++ u.hashed :=
    fun b hb => List.mem_append_right _ (hu.hashed_branching hb)
  have hbranching : t.branching.root = u.branching.root := by
    rw [ht.root_branching, hu.root_branching, hroot]
  have hvalues : t.branching.values.Perm u.branching.values :=
    List.Subperm.antisymm
      (Branching.values_subperm_of_root_eq hno u.known_branching htsub husub hbranching)
      (Branching.values_subperm_of_root_eq hno t.known_branching husub htsub hbranching.symm)
  exact t.values_branching_perm.symm.trans (hvalues.trans u.values_branching_perm)

/-- **Leaves that a proof leads from to the root are in the tree.** -/
theorem Grown.subperm_of_rootOf {t : Tree} (ht : t.Grown) {claimed : List Leaf} {proof : List Hash}
    {flags : List Bool} (h : rootOf (claimed.map Leaf.hash) proof flags = .ok t.root)
    (hno : ¬ Collides keccak256 (t.hashed ++ checkHashed claimed proof flags)) :
    claimed.Subperm t.leaves := by
  obtain ⟨x, hroot, hvalues, hhashed⟩ := exists_branching_of_rootOf h
  have hsub : x.values.Subperm t.branching.values := by
    refine Branching.values_subperm_of_root_eq hno t.known_branching ?_ ?_ ?_
    · exact fun b hb => List.mem_append_right _ (hhashed hb)
    · exact fun b hb => List.mem_append_left _ (ht.hashed_branching hb)
    · rw [hroot, ht.root_branching]
  exact hvalues.symm.subperm.trans (hsub.trans t.values_branching_perm.subperm)

theorem verifyMulti_eq_true {t : Tree} {p : MultiProof} (h : t.verifyMulti p = .ok true) :
    p.root = .ok t.root := by
  unfold verifyMulti at h
  split at h
  · next root hroot =>
    have heq : root = t.root := by simpa using h
    rw [hroot, heq]
  · cases h

/-- **An accepted proof of many leaves proves each leaf at most as often as it is in the tree.** There
    is a tree over every list of leaves but the empty one, and this holds of its check on every proof,
    unless two byte strings collide that were hashed for the tree or the proof. -/
theorem count_le_of_verifyMulti {leaves : List Leaf} (hne : leaves ≠ []) :
    ∃ t, ofLeaves? leaves = .ok t ∧ ∀ p : MultiProof, t.verifyMulti p = .ok true →
      (∀ v, p.leaves.count v ≤ leaves.count v) ∨
        Collides keccak256 (t.hashed ++ checkHashed p.leaves p.proof p.flags) := by
  obtain ⟨t, ht⟩ := exists_ofLeaves? hne
  refine ⟨t, ht, fun p hp => ?_⟩
  by_cases hno : Collides keccak256 (t.hashed ++ checkHashed p.leaves p.proof p.flags)
  · exact .inr hno
  · left
    intro v
    have hsub := (grown_of_ofLeaves? ht).subperm_of_rootOf (verifyMulti_eq_true hp) hno
    rw [(ofLeaves?_eq_ok ht).1] at hsub
    exact hsub.count_le v

/-- A leaf that is in the tree twice is proved twice by the proof that pairs it with itself. -/
theorem count_le_of_verifyMulti_twice :
    ∃ t, ofLeaves? [⟨[0xab], 7⟩, ⟨[0xab], 7⟩] = .ok t ∧
      t.verifyMulti ⟨[⟨[0xab], 7⟩, ⟨[0xab], 7⟩], [0, 1], [], [true]⟩ = .ok true ∧
      ((∀ v, [⟨[0xab], 7⟩, ⟨[0xab], 7⟩].count v
          ≤ [(⟨[0xab], 7⟩ : Leaf), ⟨[0xab], 7⟩].count v) ∨
        Collides keccak256
          (t.hashed ++ checkHashed [⟨[0xab], 7⟩, ⟨[0xab], 7⟩] [] [true])) := by
  obtain ⟨t, ht, hall⟩ := count_le_of_verifyMulti
    (show [(⟨[0xab], 7⟩ : Leaf), ⟨[0xab], 7⟩] ≠ [] from List.cons_ne_nil _ _)
  have hleaves := (ofLeaves?_eq_ok ht).1
  have hsize : t.size = 2 := by rw [size, hleaves]; rfl
  have hgrown := grown_of_ofLeaves? ht
  have hleaf : ∀ i, 1 ≤ i → i ≤ 2 → t.leafAt i = ⟨[0xab], 7⟩ := by
    intro i hge hle
    have hmem : t.leafAt i ∈ t.leaves := t.leafAt_mem (by omega) (by omega)
    rw [hleaves] at hmem
    simpa using hmem
  have hroot : t.root = pair (Leaf.hash ⟨[0xab], 7⟩) (Leaf.hash ⟨[0xab], 7⟩) := by
    rw [t.root_eq, hgrown.inner 0 (by omega), hgrown.leaf 1 (by omega) (by omega),
      hgrown.leaf 2 (by omega) (by omega), hleaf 1 (by omega) (by omega),
      hleaf 2 (by omega) (by omega)]
  have haccepted : t.verifyMulti ⟨[⟨[0xab], 7⟩, ⟨[0xab], 7⟩], [0, 1], [], [true]⟩ = .ok true := by
    simp [verifyMulti, MultiProof.root, rootOf, foldFlags, hroot]
  exact ⟨t, ht, haccepted, hall _ haccepted⟩

end Tree

end Registrar.Merkle
