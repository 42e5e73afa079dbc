import Mathlib.Data.Bool.Count
import Registrar.Proofs.Merkle.Folding

/-!
# Which proofs lead to a root

A verifier compares two counts first and then asks for nodes, flag by flag, where none may be left. All of
this comes down to one condition: there is a proof node for each clear flag, and one leaf more than there
are set flags. A proof without flags is a single hash.

## Contents

- `WellShaped`, the condition on the counts;
- `exists_foldFlags_eq_ok` and `foldFlags_eq_exhausted`, by induction on the flags: with these counts no
  node is missing, and with fewer nodes in the queue one is;
- `exists_branching_of_rootOf_hashes`: what is reached is the root of a tree that has every leaf and every
  proof node at one tip;
- `rootOf_eq_ok_iff_wellShaped`.
-/

namespace Registrar.Merkle

open Branching

/-- The counts of a proof that leads to a root. -/
def WellShaped (leaves proof : List Hash) (flags : List Bool) : Prop :=
  (flags = [] ∧ leaves.length + proof.length = 1) ∨
    (flags ≠ [] ∧ proof.length = flags.count false ∧ leaves.length = flags.count true + 1)

variable {flags : List Bool} {queue leaves proof : List Hash}

/-! ## Working through the flags -/

/-- **One node more than set flags is enough.** Every flag takes one node off the count that belongs to it
    and leaves the other count alone, so that the last flag leaves one node. -/
theorem exists_foldFlags_eq_ok (hproof : proof.length = flags.count false)
    (hqueue : queue.length = flags.count true + 1) :
    ∃ root, foldFlags flags queue proof = .ok root := by
  induction flags generalizing queue proof with
  | nil =>
    obtain ⟨root, rfl⟩ := List.length_eq_one_iff.mp hqueue
    exact ⟨root, rfl⟩
  | cons flag flags ih =>
    cases flag with
    | false =>
      -- A node of the queue and a proof node make a node of the queue.
      rw [List.count_cons_self] at hproof
      rw [List.count_cons_of_ne (by decide)] at hqueue
      obtain ⟨a, queue, rfl⟩ := List.exists_cons_of_length_eq_add_one hqueue
      obtain ⟨b, proof, rfl⟩ := List.exists_cons_of_length_eq_add_one hproof
      apply ih
      · exact Nat.succ.inj hproof
      · rw [List.length_append, List.length_singleton]
        exact hqueue
    | true =>
      -- Two nodes of the queue make one.
      rw [List.count_cons_of_ne (by decide)] at hproof
      rw [List.count_cons_self] at hqueue
      obtain ⟨a, queue, rfl⟩ := List.exists_cons_of_length_eq_add_one hqueue
      obtain ⟨b, queue, rfl⟩ := List.exists_cons_of_length_eq_add_one (Nat.succ.inj hqueue)
      apply ih
      · exact hproof
      · rw [List.length_append, List.length_singleton]
        exact Nat.succ.inj hqueue

/-- **No more nodes than set flags are too few.** Whatever proof nodes there are, the queue runs empty before
    the flags do. -/
theorem foldFlags_eq_exhausted (hne : flags ≠ []) (hqueue : queue.length ≤ flags.count true) :
    foldFlags flags queue proof = .error .exhausted := by
  induction flags generalizing queue proof with
  | nil => exact absurd rfl hne
  | cons flag flags ih =>
    cases flag with
    | false =>
      rw [List.count_cons_of_ne (by decide)] at hqueue
      rcases queue with _ | ⟨a, queue⟩
      · rfl
      rcases proof with _ | ⟨b, proof⟩
      · rfl
      apply ih
      · -- A set flag is still to come, for the node in the queue.
        rintro rfl
        exact Nat.not_succ_le_zero _ hqueue
      · rw [List.length_append, List.length_singleton]
        exact hqueue
    | true =>
      rw [List.count_cons_self] at hqueue
      rcases queue with _ | ⟨a, _ | ⟨b, queue⟩⟩
      · rfl
      · rfl
      have hrest : queue.length + 1 ≤ flags.count true := Nat.le_of_succ_le_succ hqueue
      apply ih
      · -- One set flag would leave room for one node only.
        rintro rfl
        exact Nat.not_succ_le_zero _ hrest
      · rw [List.length_append, List.length_singleton]
        exact hrest

/-! ## The whole check -/

/-- Past the two counts the flags decide. -/
theorem rootOf_eq_foldFlags (hproof : flags.count false ≤ proof.length)
    (hsum : leaves.length + proof.length = flags.length + 1) :
    rootOf leaves proof flags = foldFlags flags leaves proof := by
  rw [rootOf, if_neg (Nat.not_lt.mpr hproof), if_neg (not_not_intro hsum)]

theorem exists_rootOf_of_wellShaped (h : WellShaped leaves proof flags) :
    ∃ root, rootOf leaves proof flags = .ok root := by
  rcases h with ⟨rfl, hone⟩ | ⟨-, hproof, hleaves⟩
  · rw [rootOf_eq_foldFlags (Nat.zero_le _) hone]
    -- The one hash is a leaf or a proof node, and it is the root.
    rcases leaves with _ | ⟨a, leaves⟩
    · rw [List.length_nil, Nat.zero_add] at hone
      obtain ⟨root, rfl⟩ := List.length_eq_one_iff.mp hone
      exact ⟨root, rfl⟩
    · rw [List.length_cons] at hone
      have hleaves : leaves = [] := List.length_eq_zero_iff.mp (by omega)
      subst hleaves
      exact ⟨a, rfl⟩
  · have hcount := List.count_true_add_count_false flags
    rw [rootOf_eq_foldFlags (by omega) (by omega)]
    exact exists_foldFlags_eq_ok hproof hleaves

/-- A proof whose counts add up but which has more nodes than clear flags runs out of leaves. -/
theorem rootOf_eq_exhausted (hne : flags ≠ []) (hsum : leaves.length + proof.length = flags.length + 1)
    (hproof : flags.count false < proof.length) : rootOf leaves proof flags = .error .exhausted := by
  have hcount := List.count_true_add_count_false flags
  rw [rootOf_eq_foldFlags (Nat.le_of_lt hproof) hsum]
  apply foldFlags_eq_exhausted hne
  omega

example (a b : Hash) : rootOf [] [a, b] [true] = .error .exhausted := rfl

/-- A proof of another shape is refused by one of the two counts or on the way. -/
theorem rootOf_of_not_wellShaped (h : ¬ WellShaped leaves proof flags) :
    ∃ fault, rootOf leaves proof flags = .error fault ∧ fault ≠ .noRoot := by
  have hcount := List.count_true_add_count_false flags
  by_cases hfew : proof.length < flags.count false
  · exact ⟨.tooFewNodes, if_pos hfew, by decide⟩
  by_cases hsum : leaves.length + proof.length = flags.length + 1
  · have hne : flags ≠ [] := by
      rintro rfl
      exact h (.inl ⟨rfl, hsum⟩)
    have hmore : flags.count false < proof.length := by
      apply Nat.lt_of_le_of_ne (Nat.le_of_not_lt hfew)
      -- With as many nodes as clear flags the leaves would fit, too.
      intro heq
      exact h (.inr ⟨hne, heq.symm, by omega⟩)
    exact ⟨.exhausted, rootOf_eq_exhausted hne hsum hmore, by decide⟩
  · refine ⟨.countMismatch, ?_, by decide⟩
    rw [rootOf, if_neg hfew, if_pos hsum]

/-- **What is reached is the root of a tree with every leaf and every proof node at one tip**, with nothing
    else at its tips and with no pair in it that was not formed. -/
theorem exists_branching_of_rootOf_hashes {root : Hash} (h : rootOf leaves proof flags = .ok root) :
    ∃ x : Branching Tip, x.root = root ∧ x.tips.Perm ((leaves ++ proof).map .node) ∧
      x.hashed ⊆ foldHashed flags leaves proof := by
  obtain ⟨hsum, hfold⟩ := rootOf_eq_ok h
  -- The queue starts with a tree for each leaf, which is a tip.
  have hqueue : (leaves.map fun a => tip (.node a)).map Branching.root = leaves := by
    rw [List.map_map]
    exact List.map_id leaves
  rw [← hqueue] at hfold
  obtain ⟨x, hroot, htips, hhashed⟩ := exists_branching_of_foldFlags (by simpa using hsum) hfold
  refine ⟨x, hroot, ?_, ?_⟩
  · rw [List.flatMap_map] at htips
    rw [List.map_append, List.map_eq_flatMap (l := leaves)]
    exact htips
  · -- Nothing is hashed for the leaves themselves, which are hashes here.
    have hnone : (leaves.flatMap fun a => (tip (.node a)).hashed) = [] :=
      List.flatMap_eq_nil_iff.mpr fun _ _ => rfl
    rw [hqueue, List.flatMap_map, hnone, List.nil_append] at hhashed
    exact hhashed

/-- **A proof leads to a root exactly if its counts fit, and then it uses every hash once.** The root is that
    of a binary tree of pairs with each leaf and each proof node at one of its tips. Every other proof is
    refused, and never for want of a root at the end. -/
theorem rootOf_eq_ok_iff_wellShaped (leaves proof : List Hash) (flags : List Bool) :
    ((∃ root, rootOf leaves proof flags = .ok root) ↔ WellShaped leaves proof flags) ∧
      (∀ root, rootOf leaves proof flags = .ok root →
        ∃ x : Branching Tip, x.root = root ∧ x.tips.Perm ((leaves ++ proof).map .node) ∧
          x.hashed ⊆ foldHashed flags leaves proof) ∧
      (¬ WellShaped leaves proof flags →
        ∃ fault, rootOf leaves proof flags = .error fault ∧ fault ≠ .noRoot) := by
  refine ⟨⟨?_, exists_rootOf_of_wellShaped⟩, ?_, rootOf_of_not_wellShaped⟩
  · rintro ⟨root, hroot⟩
    by_contra hshape
    obtain ⟨fault, hfault, -⟩ := rootOf_of_not_wellShaped hshape
    rw [hroot] at hfault
    cases hfault
  · intro root hroot
    exact exists_branching_of_rootOf_hashes hroot

end Registrar.Merkle
