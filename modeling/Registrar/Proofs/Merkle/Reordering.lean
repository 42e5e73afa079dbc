import Mathlib.Data.List.Nodup
import Registrar.Proofs.Crypto.Keccak
import Registrar.Proofs.Merkle.Snapshot

/-!
# Leaves in another order

A tree sorts its leaves, so the order of the input is lost in the nodes: trees over the same leaves have
the same nodes, even where leaves are equal. Equal leaves could still change places. Where the hashes
differ, every leaf stands at one place whatever its position in the input was, and what is proved of it is
the same.

## Contents

- `map_fst_ranked_of_perm`, the hashes in the order of the tree;
- `Reordered`, trees over the same leaves, with `reordered_of_perm` and what such trees share;
- `Grown.place_unique`, and from it `Reordered.place_eq` and `Reordered.leafAt_eq`;
- `Alike`, trees that answer alike, with `Reordered.alike` and `ofLeaves?_of_perm`.
-/

namespace Registrar.Merkle.Tree

variable {leaves other : List Leaf} {t t' : Tree}

/-! ## The same nodes -/

theorem map_fst_ranked_perm (leaves : List Leaf) :
    ((ranked leaves).map (·.1)).Perm (leaves.map Leaf.hash) := by
  have hsorted : (ranked leaves).Perm (leaves.zipIdx.map fun leaf => (leaf.1.hash, leaf.2)) :=
    List.mergeSort_perm _ _
  -- The indices beside the hashes are all that the order of the input leaves behind.
  have hhashes : (leaves.zipIdx.map fun leaf => (leaf.1.hash, leaf.2)).map (·.1)
      = leaves.map Leaf.hash := by
    conv_rhs => rw [← List.zipIdx_map_fst 0 leaves, List.map_map]
    rw [List.map_map]
    rfl
  exact hhashes ▸ hsorted.map (·.1)

/-- **The sorted hashes do not depend on the order of the leaves.** -/
theorem map_fst_ranked_of_perm (h : leaves.Perm other) :
    (ranked other).map (·.1) = (ranked leaves).map (·.1) := by
  have hascending : ∀ leaves : List Leaf, ((ranked leaves).map (·.1)).Pairwise (· ≤ ·) :=
    fun leaves => List.pairwise_map.mpr ((ranked_pairwise leaves).imp And.left)
  have hperm : ((ranked other).map (·.1)).Perm ((ranked leaves).map (·.1)) :=
    (map_fst_ranked_perm other).trans
      ((h.symm.map Leaf.hash).trans (map_fst_ranked_perm leaves).symm)
  exact hperm.eq_of_pairwise (fun _ _ _ _ => Octets.le_antisymm) (hascending other)
    (hascending leaves)

/-- Trees over the same leaves, which may stand in different orders. -/
structure Reordered (t t' : Tree) : Prop where
  perm : t.leaves.Perm t'.leaves
  upward_eq : t'.upward = t.upward
  grown : t.Grown
  grown' : t'.Grown

theorem reordered_of_perm (h : leaves.Perm other) (ht : ofLeaves? leaves = .ok t)
    (ht' : ofLeaves? other = .ok t') : t.Reordered t' := by
  have hgrown := grown_of_ofLeaves? ht
  have hgrown' := grown_of_ofLeaves? ht'
  obtain ⟨rfl, -, hupward⟩ := ofLeaves?_eq_ok ht
  obtain ⟨rfl, -, hupward'⟩ := ofLeaves?_eq_ok ht'
  refine ⟨h, ?_, hgrown, hgrown'⟩
  rw [hupward, hupward', map_fst_ranked_of_perm h, h.length_eq]

namespace Reordered

theorem size_eq (h : t.Reordered t') : t'.size = t.size := h.perm.length_eq.symm

theorem nodes_eq (h : t.Reordered t') : t'.nodes = t.nodes := by
  rw [nodes, nodes, h.upward_eq]

theorem nodeD_eq (h : t.Reordered t') (i : Nat) : t'.nodeD i = t.nodeD i := by
  rw [nodeD, nodeD, nodeCount, nodeCount, h.upward_eq]

theorem root_eq (h : t.Reordered t') : t'.root = t.root := by
  rw [Tree.root_eq, Tree.root_eq, h.nodeD_eq]

theorem nodesAt_eq (h : t.Reordered t') (places : List Nat) : t'.nodesAt places = t.nodesAt places := by
  have hnode : t'.node? = t.node? := by
    funext i
    rw [← nodes_getElem?, ← nodes_getElem?, h.nodes_eq]
  rw [nodesAt, nodesAt, hnode]

end Reordered

/-! ## The same places -/

/-- Leaves of different hashes can be told apart by the nodes at their places. -/
theorem Grown.place_unique (h : t.Grown) (hnodup : (t.leaves.map Leaf.hash).Nodup) {k k' : Nat}
    (hk : t.size - 1 ≤ k ∧ k ≤ 2 * (t.size - 1)) (hk' : t.size - 1 ≤ k' ∧ k' ≤ 2 * (t.size - 1))
    (heq : t.nodeD k = t.nodeD k') : k = k' := by
  have hpos := t.size_pos
  have hhashes : ((List.range' (t.size - 1) t.size).map fun k => (t.leafAt k).hash).Nodup := by
    have hperm := t.map_leafAt_perm.map Leaf.hash
    rw [List.map_map] at hperm
    exact hperm.nodup_iff.mpr hnodup
  have hin : k ∈ List.range' (t.size - 1) t.size := by
    rw [List.mem_range'_1]
    omega
  have hin' : k' ∈ List.range' (t.size - 1) t.size := by
    rw [List.mem_range'_1]
    omega
  rw [h.leaf k hk.1 hk.2, h.leaf k' hk'.1 hk'.2] at heq
  exact List.inj_on_of_nodup_map hhashes hin hin' heq

namespace Reordered

variable {i j : Nat} {v : Leaf}

/-- **A leaf stands at the same place**, wherever it was in the input. -/
theorem place_eq (h : t.Reordered t') (hnodup : (t.leaves.map Leaf.hash).Nodup)
    (hi : t.leaves[i]? = some v) (hj : t'.leaves[j]? = some v) : t'.place j = t.place i := by
  have hbounds := place_bounds (List.getElem?_eq_some_iff.mp hi).1
  have hbounds' := place_bounds (List.getElem?_eq_some_iff.mp hj).1
  have hnode := hash_at_place h.grown hi
  have hnode' := hash_at_place h.grown' hj
  rw [nodes_getElem?_eq hbounds.2] at hnode
  rw [nodes_getElem?_eq hbounds'.2, h.nodeD_eq] at hnode'
  rw [h.size_eq] at hbounds'
  exact h.grown.place_unique hnodup hbounds' hbounds (Option.some.inj (hnode'.trans hnode.symm))

/-- The same leaf stands at every place. -/
theorem leafAt_eq (h : t.Reordered t') (hnodup : (t.leaves.map Leaf.hash).Nodup) {k : Nat}
    (hge : t.size - 1 ≤ k) (hle : k ≤ 2 * (t.size - 1)) : t'.leafAt k = t.leafAt k := by
  have hge' : t'.size - 1 ≤ k := h.size_eq.symm ▸ hge
  have hle' : k ≤ 2 * (t'.size - 1) := h.size_eq.symm ▸ hle
  have hhash : (t'.leafAt k).hash = (t.leafAt k).hash := by
    rw [← h.grown.leaf k hge hle, ← h.grown'.leaf k hge' hle', h.nodeD_eq]
  exact List.inj_on_of_nodup_map hnodup (h.perm.mem_iff.mpr (t'.leafAt_mem hge' hle'))
    (t.leafAt_mem hge hle) hhash

end Reordered

/-! ## The same answers -/

/-- Two trees answer alike: each leaf has its place and its proof in both, whatever its indices are, and the
    leaves at some indices of the first tree have their proof in both, in whatever order the indices that
    they have in the second tree are asked for. -/
structure Alike (t t' : Tree) : Prop where
  place : ∀ i j v, t.leaves[i]? = some v → t'.leaves[j]? = some v → t'.place j = t.place i
  proof : ∀ i j v, t.leaves[i]? = some v → t'.leaves[j]? = some v →
    ∃ siblings, t.proof? i = .ok siblings ∧ t'.proof? j = .ok siblings
  multiProof : ∀ indices images : List Nat, (∀ i ∈ indices, i < t.size) → indices.Nodup →
    (images.map (t'.leaves[·]?)).Perm (indices.map (t.leaves[·]?)) →
    ∃ p p', t.multiProof indices = .ok p ∧ t'.multiProof images = .ok p' ∧
      p'.leaves = p.leaves ∧ p'.proof = p.proof ∧ p'.flags = p.flags

variable {indices images : List Nat}

/-- Indices at which a second tree has the leaves of the first one are in range and do not repeat. -/
theorem images_valid (hnodup : t.leaves.Nodup)
    (hlt : ∀ i ∈ indices, i < t.size) (hindices : indices.Nodup)
    (himages : (images.map (t'.leaves[·]?)).Perm (indices.map (t.leaves[·]?))) :
    (∀ j ∈ images, j < t'.size) ∧ images.Nodup := by
  constructor
  · intro j hj
    obtain ⟨i, hi, heq⟩ := List.mem_map.mp (himages.mem_iff.mp (List.mem_map_of_mem hj))
    rw [List.getElem?_eq_getElem (hlt i hi)] at heq
    exact (List.getElem?_eq_some_iff.mp heq.symm).1
  · have hleaves : (indices.map (t.leaves[·]?)).Nodup := by
      refine List.Nodup.map_on (fun i hi j _ heq => ?_) hindices
      exact (List.getElem?_inj (hlt i hi) hnodup).mp heq
    exact List.Nodup.of_map _ (himages.nodup_iff.mpr hleaves)

/-- **The leaves are proved in the same order of places.** -/
theorem map_place_byPlace_eq (hlt : ∀ i ∈ indices, i < t.size) (hindices : indices.Nodup)
    (hlt' : ∀ j ∈ images, j < t'.size) (himages : images.Nodup)
    (hplaces : (images.map t'.place).Perm (indices.map t.place)) :
    (t'.byPlace images).map t'.place = (t.byPlace indices).map t.place := by
  have hdescending : ((t.byPlace indices).map t.place).Pairwise (· > ·) :=
    List.pairwise_map.mpr (strict_byPlace hlt hindices)
  have hdescending' : ((t'.byPlace images).map t'.place).Pairwise (· > ·) :=
    List.pairwise_map.mpr (strict_byPlace hlt' himages)
  -- Two strictly descending lists of the same places.
  have hperm : ((t'.byPlace images).map t'.place).Perm ((t.byPlace indices).map t.place) :=
    ((t'.byPlace_perm images).map t'.place).trans
      (hplaces.trans ((t.byPlace_perm indices).map t.place).symm)
  exact hperm.eq_of_pairwise (fun k k' _ _ hgt hlt => absurd hgt (Nat.lt_asymm hlt)) hdescending'
    hdescending

namespace Reordered

variable {i j : Nat} {v : Leaf}

theorem proof?_eq (h : t.Reordered t') (hnodup : (t.leaves.map Leaf.hash).Nodup)
    (hi : t.leaves[i]? = some v) (hj : t'.leaves[j]? = some v) :
    ∃ siblings, t.proof? i = .ok siblings ∧ t'.proof? j = .ok siblings := by
  have hlt : i < t.size := (List.getElem?_eq_some_iff.mp hi).1
  have hlt' : j < t'.size := (List.getElem?_eq_some_iff.mp hj).1
  refine ⟨t.nodesAt (Position.siblings (t.place i)), if_pos hlt, ?_⟩
  rw [proof?, if_pos hlt', h.place_eq hnodup hi hj, h.nodesAt_eq]

/-- The leaves that are asked for stand at the same places. -/
theorem map_place_images_perm (h : t.Reordered t') (hnodup : (t.leaves.map Leaf.hash).Nodup)
    (hlt : ∀ i ∈ indices, i < t.size) (hindices : indices.Nodup)
    (himages : (images.map (t'.leaves[·]?)).Perm (indices.map (t.leaves[·]?))) :
    (images.map t'.place).Perm (indices.map t.place) := by
  obtain ⟨hlt', himagesNodup⟩ := images_valid (.of_map _ hnodup) hlt hindices himages
  have hplaces : (indices.map t.place).Nodup :=
    List.Nodup.map_on (fun i hi j hj => place_inj (hlt i hi) (hlt j hj)) hindices
  have hplaces' : (images.map t'.place).Nodup :=
    List.Nodup.map_on (fun i hi j hj => place_inj (hlt' i hi) (hlt' j hj)) himagesNodup
  -- No place occurs twice on either side, so it is enough to find each of them on the other one.
  refine (List.perm_ext_iff_of_nodup hplaces' hplaces).mpr fun k => ?_
  constructor <;> intro hk <;> obtain ⟨i, hi, rfl⟩ := List.mem_map.mp hk
  · obtain ⟨j, hj, heq⟩ := List.mem_map.mp (himages.mem_iff.mp (List.mem_map_of_mem hi))
    have hv := List.getElem?_eq_getElem (hlt j hj)
    rw [h.place_eq hnodup hv (heq.symm.trans hv)]
    exact List.mem_map_of_mem hj
  · obtain ⟨j, hj, heq⟩ := List.mem_map.mp (himages.mem_iff.mpr (List.mem_map_of_mem hi))
    have hv := List.getElem?_eq_getElem (hlt i hi)
    rw [← h.place_eq hnodup hv (heq.trans hv)]
    exact List.mem_map_of_mem hj

/-- Proofs that are put together in the same order of places are the same, the indices apart. -/
theorem proofOf_eq (h : t.Reordered t') (hnodup : (t.leaves.map Leaf.hash).Nodup)
    (hlt : ∀ i ∈ indices, i < t.size) (hlt' : ∀ j ∈ images, j < t'.size)
    (hplaces : images.map t'.place = indices.map t.place) :
    (t'.proofOf images).leaves = (t.proofOf indices).leaves ∧
      (t'.proofOf images).proof = (t.proofOf indices).proof ∧
      (t'.proofOf images).flags = (t.proofOf indices).flags := by
  have hempty : images = [] ↔ indices = [] := by
    rw [← List.map_eq_nil_iff (f := t'.place), hplaces, List.map_eq_nil_iff]
  simp only [proofOf, hplaces, hempty, h.root_eq, h.nodesAt_eq, and_true]
  -- The nodes and flags are read off the places; the leaves are those that stand there.
  rw [filterMap_leaves hlt, filterMap_leaves hlt', ← Function.comp_def t'.leafAt,
    ← Function.comp_def t.leafAt, ← List.map_map, ← List.map_map, hplaces]
  refine List.map_congr_left fun k hk => ?_
  obtain ⟨hge, hle⟩ := bounds_of_mem_places hlt k hk
  exact h.leafAt_eq hnodup hge hle

/-- **Trees over the same leaves of different hashes answer alike.** -/
theorem alike (h : t.Reordered t') (hnodup : (t.leaves.map Leaf.hash).Nodup) : t.Alike t' where
  place _ _ _ := h.place_eq hnodup
  proof _ _ _ := h.proof?_eq hnodup
  multiProof indices images hlt hindices himages := by
    obtain ⟨hlt', himagesNodup⟩ := images_valid (.of_map _ hnodup) hlt hindices himages
    have hplaces := h.map_place_images_perm hnodup hlt hindices himages
    refine ⟨_, _, multiProof_eq_ok hlt hindices, multiProof_eq_ok hlt' himagesNodup, ?_⟩
    refine h.proofOf_eq hnodup (fun i hi => ?_) (fun j hj => ?_)
      (map_place_byPlace_eq hlt hindices hlt' himagesNodup hplaces)
    · exact hlt i ((t.byPlace_perm indices).mem_iff.mp hi)
    · exact hlt' j ((t'.byPlace_perm images).mem_iff.mp hj)

end Reordered

/-- **The order of the input does not decide what a tree is.** Over leaves in two orders there are trees
    with the same nodes, the root among them, and if the hashes of the leaves differ, they answer alike. -/
theorem ofLeaves?_of_perm (hne : leaves ≠ []) (hperm : leaves.Perm other) :
    ∃ t t', ofLeaves? leaves = .ok t ∧ ofLeaves? other = .ok t' ∧
      t.leaves = leaves ∧ t'.leaves = other ∧ t'.nodes = t.nodes ∧ t'.root = t.root ∧
      ((leaves.map Leaf.hash).Nodup → t.Alike t') := by
  have hne' : other ≠ [] := fun hnil => hne (hnil ▸ hperm).eq_nil
  obtain ⟨t, ht⟩ := exists_ofLeaves? hne
  obtain ⟨t', ht'⟩ := exists_ofLeaves? hne'
  have h := reordered_of_perm hperm ht ht'
  obtain ⟨rfl, -, -⟩ := ofLeaves?_eq_ok ht
  obtain ⟨rfl, -, -⟩ := ofLeaves?_eq_ok ht'
  exact ⟨t, t', ht, ht', rfl, rfl, h.nodes_eq, h.root_eq, h.alike⟩

/-- Of three leaves with different hashes, the last two change places: the proof of the first two is the
    proof of the first and the last. -/
theorem ofLeaves?_of_perm_swapped :
    let leaves : List Leaf := [⟨[], 0⟩, ⟨[], 1⟩, ⟨[], 2⟩]
    let other : List Leaf := [⟨[], 0⟩, ⟨[], 2⟩, ⟨[], 1⟩]
    ∃ t t', ofLeaves? leaves = .ok t ∧ ofLeaves? other = .ok t' ∧ t'.nodes = t.nodes ∧
      t.Alike t' ∧ ∃ p p', t.multiProof [0, 1] = .ok p ∧ t'.multiProof [0, 2] = .ok p' ∧
        p'.leaves = p.leaves ∧ p'.proof = p.proof ∧ p'.flags = p.flags := by
  intro leaves other
  have hperm : leaves.Perm other := .cons _ (.swap _ _ _)
  have hnodup : (leaves.map Leaf.hash).Nodup := by
    simp only [leaves, List.map_cons, List.map_nil, Leaf.hash, Keccak.keccak256_eq]
    decide +kernel
  obtain ⟨t, t', ht, ht', hleaves, hleaves', hnodes, -, halike⟩ :=
    ofLeaves?_of_perm (List.cons_ne_nil _ _ : leaves ≠ []) hperm
  have hsame := halike hnodup
  refine ⟨t, t', ht, ht', hnodes, hsame, hsame.multiProof [0, 1] [0, 2] ?_ (by decide) ?_⟩
  · rw [size, hleaves]
    decide
  · rw [hleaves, hleaves']
    exact .refl _

end Registrar.Merkle.Tree
