import Registrar.Proofs.Merkle.Branching

/-!
# What a proof claims

A proof's flags rebuild a binary tree over its leaves and nodes: each pair that is formed is a fork of
two trees that stand in the queue, or of one of them and a proof node.

## Contents

- `foldHashed` and `checkHashed`, the byte strings hashed while a proof is checked;
- `exists_branching_of_foldFlags`, by induction on the flags;
- `exists_branching_of_rootOf`: what a proof leads to is the root of a tree over exactly its leaves and
  nodes.
-/

namespace Registrar.Merkle

open Branching

/-- The byte strings that are hashed while flags are worked through. -/
def foldHashed : List Bool → List Hash → List Hash → List Bytes
  | true :: flags, a :: b :: queue, proof =>
    pairInput a b :: foldHashed flags (queue ++ [pair a b]) proof
  | false :: flags, a :: queue, b :: proof =>
    pairInput a b :: foldHashed flags (queue ++ [pair a b]) proof
  | _, _, _ => []

/-- The byte strings that are hashed while leaves are checked with proof nodes and flags. -/
def checkHashed (leaves : List Leaf) (proof : List Hash) (flags : List Bool) : List Bytes :=
  leaves.flatMap Leaf.hashed ++ foldHashed flags (leaves.map Leaf.hash) proof

/-- The queue after a fork has joined it. -/
theorem map_root_append_fork (queue : List (Branching Tip)) (a b : Branching Tip) :
    queue.map root ++ [pair a.root b.root] = (queue ++ [fork a b]).map root := by
  simp [root]

/-- **The flags rebuild a tree from the trees in the queue and the proof nodes.** The counts say that
    one of them is left when the flags are used up, so that each ends up in the tree once. -/
theorem exists_branching_of_foldFlags {flags : List Bool} {queue : List (Branching Tip)}
    {proof : List Hash} {r : Hash} (hcount : queue.length + proof.length = flags.length + 1)
    (h : foldFlags flags (queue.map root) proof = .ok r) :
    ∃ x : Branching Tip, x.root = r ∧
      x.tips.Perm (queue.flatMap tips ++ proof.map Tip.node) ∧
      x.hashed ⊆ queue.flatMap hashed ++ foldHashed flags (queue.map root) proof := by
  induction flags generalizing queue proof with
  | nil =>
    rcases queue with _ | ⟨a, _ | ⟨b, queue⟩⟩
    · obtain ⟨g, rfl⟩ := List.length_eq_one_iff.mp (by simpa using hcount)
      refine ⟨tip (.node g), ?_, List.Perm.refl _, fun _ hb => absurd hb List.not_mem_nil⟩
      simpa [foldFlags, root, Tip.hash] using h
    · have hproof : proof = [] := List.length_eq_zero_iff.mp (by simpa using hcount)
      subst hproof
      refine ⟨a, by simpa [foldFlags] using h, by simp, by simp⟩
    · simp at hcount
      omega
  | cons flag flags ih =>
    rcases flag with _ | _
    · -- A proof node is the right one of the pair.
      rcases queue with _ | ⟨a, queue⟩
      · simp [foldFlags] at h
      rcases proof with _ | ⟨g, proof⟩
      · simp [foldFlags] at h
      have hjoin : queue.map root ++ [pair a.root g] = (queue ++ [fork a (tip (.node g))]).map root :=
        map_root_append_fork queue a (tip (.node g))
      simp only [List.map_cons, foldFlags, hjoin] at h
      obtain ⟨x, hroot, htips, hhashed⟩ := ih (by simp at hcount ⊢; omega) h
      refine ⟨x, hroot, htips.trans ?_, fun b hb => ?_⟩
      · simp only [List.flatMap_append, List.flatMap_cons, List.flatMap_nil, tips, List.map_cons]
        grind
      · have hmem := hhashed hb
        simp only [List.map_cons, foldHashed, hjoin]
        simp only [List.flatMap_append, List.flatMap_cons, List.flatMap_nil, hashed, Tip.hashed,
          root, Tip.hash, List.mem_append, List.mem_cons, List.not_mem_nil] at hmem ⊢
        tauto
    · -- Both nodes come from the queue.
      rcases queue with _ | ⟨a, _ | ⟨b, queue⟩⟩
      · simp [foldFlags] at h
      · simp [foldFlags] at h
      simp only [List.map_cons, foldFlags, map_root_append_fork] at h
      obtain ⟨x, hroot, htips, hhashed⟩ := ih (by simp at hcount ⊢; omega) h
      refine ⟨x, hroot, htips.trans ?_, fun c hc => ?_⟩
      · simp only [List.flatMap_append, List.flatMap_cons, List.flatMap_nil, tips]
        grind
      · have hmem := hhashed hc
        simp only [List.map_cons, foldHashed, map_root_append_fork]
        simp only [List.flatMap_append, List.flatMap_cons, List.flatMap_nil, hashed,
          List.mem_append, List.mem_cons, List.not_mem_nil] at hmem ⊢
        tauto

theorem rootOf_eq_ok {leaves proof : List Hash} {flags : List Bool} {r : Hash}
    (h : rootOf leaves proof flags = .ok r) :
    leaves.length + proof.length = flags.length + 1 ∧ foldFlags flags leaves proof = .ok r := by
  unfold rootOf at h
  split at h
  · cases h
  split at h
  · cases h
  · exact ⟨by omega, h⟩

/-- **What a proof leads to is the root of a tree over exactly its leaves and nodes.** -/
theorem exists_branching_of_rootOf {leaves : List Leaf} {proof : List Hash} {flags : List Bool}
    {r : Hash} (h : rootOf (leaves.map Leaf.hash) proof flags = .ok r) :
    ∃ x : Branching Tip, x.root = r ∧ x.values.Perm leaves ∧
      x.hashed ⊆ checkHashed leaves proof flags := by
  obtain ⟨hcount, hfold⟩ := rootOf_eq_ok h
  have hqueue : leaves.map Leaf.hash = (leaves.map fun v => tip (.value v)).map root := by
    simp [root, Tip.hash]
  rw [hqueue] at hfold
  obtain ⟨x, hroot, htips, hhashed⟩ :=
    exists_branching_of_foldFlags (by simpa using hcount) hfold
  refine ⟨x, hroot, ?_, ?_⟩
  · have htipsOfQueue : (leaves.map fun v => tip (.value v)).flatMap tips = leaves.map Tip.value := by
      rw [List.flatMap_map, List.map_eq_flatMap]
      rfl
    have hvalues := htips.filterMap Tip.value?
    rw [htipsOfQueue, List.filterMap_append, Tip.filterMap_value?_map_node, List.append_nil,
      Tip.filterMap_value?_map_value, List.map_id'] at hvalues
    exact hvalues
  · rw [← hqueue] at hhashed
    simpa [checkHashed, List.flatMap_map, hashed, Tip.hashed] using hhashed

end Registrar.Merkle
