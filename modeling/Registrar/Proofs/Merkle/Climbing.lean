import Mathlib.Data.List.Induction
import Registrar.Proofs.Merkle.Completeness

/-!
# Proofs of one leaf

What `Tree.proof?` gives for every index, and which siblings `Tree.verify` accepts: those that lead from
a leaf of the tree to the root, and no others, unless two byte strings that were hashed collide.

## Contents

- `climbHashed`, the byte strings hashed on the way up;
- `Position.climb_siblings`: from every place the siblings lead to the root;
- `Tree.exists_place_eq`: at each of the last places stands the leaf of some index;
- `Tree.Grown.exists_place_of_climb`, what siblings that lead to a node of the tree must be, from that
  node downwards;
- `Tree.proof?_complete_sound`.
-/

namespace Registrar.Merkle

/-! ## Climbing -/

/-- The byte strings that are hashed on the way up from a node. -/
def climbHashed (node : Hash) : List Hash → List Bytes
  | [] => []
  | s :: siblings => pairInput node s :: climbHashed (pair node s) siblings

theorem climb_concat (node : Hash) (siblings : List Hash) (s : Hash) :
    climb node (siblings ++ [s]) = pair (climb node siblings) s := by
  rw [climb, List.foldl_concat]
  rfl

/-- The last pair of the way up is formed from what the siblings before lead to. -/
theorem climbHashed_concat (node : Hash) (siblings : List Hash) (s : Hash) :
    climbHashed node (siblings ++ [s])
      = climbHashed node siblings ++ [pairInput (climb node siblings) s] := by
  induction siblings generalizing node with
  | nil => rfl
  | cons first siblings ih => exact congrArg (pairInput node first :: ·) (ih (pair node first))

namespace Position

theorem siblings_zero : siblings 0 = [] := by
  rw [siblings, if_pos rfl]

theorem siblings_of_ne_zero {i : Nat} (hi : i ≠ 0) :
    siblings i = sibling i :: siblings (parent i) := by
  rw [siblings, if_neg hi]

/-- The siblings of a left child start with the right one. -/
theorem siblings_left (i : Nat) : siblings (2 * i + 1) = (2 * i + 2) :: siblings i := by
  have hsibling := sibling_cases (2 * i + 1)
  have hparent : parent (2 * i + 1) = i := by
    unfold parent
    omega
  rw [siblings_of_ne_zero (by omega), hparent]
  congr 1
  omega

/-- The siblings of a right child start with the left one. -/
theorem siblings_right (i : Nat) : siblings (2 * i + 2) = (2 * i + 1) :: siblings i := by
  have hsibling := sibling_cases (2 * i + 2)
  have hparent : parent (2 * i + 2) = i := by
    unfold parent
    omega
  rw [siblings_of_ne_zero (by omega), hparent]
  congr 1
  omega

/-- The siblings on the way from a place of a tree are places of the tree. -/
theorem le_of_mem_siblings {inner i : Nat} (hi : i ≤ 2 * inner) :
    ∀ j ∈ siblings i, j ≤ 2 * inner := by
  fun_induction siblings i with
  | case1 => exact fun j hj => absurd hj List.not_mem_nil
  | case2 i hzero ih =>
    intro j hj
    rcases List.mem_cons.mp hj with rfl | hj
    · have hsibling := sibling_cases i
      omega
    · have hlt := parent_lt hzero
      exact ih (by omega) j hj

/-- **From every place the siblings lead to the root.** -/
theorem climb_siblings {inner : Nat} {node : Nat → Hash}
    (hpair : ∀ i < inner, node i = pair (node (2 * i + 1)) (node (2 * i + 2))) {i : Nat}
    (hi : i ≤ 2 * inner) : climb (node i) ((siblings i).map node) = node 0 := by
  fun_induction siblings i with
  | case1 => rfl
  | case2 i hzero ih =>
    have hlt := parent_lt hzero
    rw [List.map_cons, ← ih (by omega), ← pair_node_sibling hpair hzero hi]
    rfl

end Position

namespace Tree

variable {t : Tree}

/-! ## Indices of places -/

theorem nodup_order (t : Tree) : t.order.Nodup := t.order_perm.nodup_iff.mpr List.nodup_range

/-- **At each of the last places stands the leaf of some index.** -/
theorem exists_place_eq {i : Nat} (hge : t.size - 1 ≤ i) (hle : i ≤ 2 * (t.size - 1)) :
    ∃ k < t.size, t.place k = i := by
  have hcount := t.nodeCount_add_one
  have hpos := t.size_pos
  have hrank : t.nodeCount - 1 - i < t.order.length := by
    rw [t.length_order]
    show _ < t.size
    omega
  refine ⟨t.order[t.nodeCount - 1 - i], ?_, ?_⟩
  · exact (t.mem_order _).mp (List.getElem_mem hrank)
  · rw [place, t.nodup_order.idxOf_getElem]
    omega

/-! ## Siblings that lead to a node -/

/-- **Siblings that lead from a leaf to a node of the tree** are those of a place below that node, and
    the leaf stands there. The induction is on the siblings from the last one on, which takes the node
    down by one level: a leaf has no siblings left exactly when the node is that of a leaf. -/
theorem Grown.exists_place_of_climb (ht : t.Grown) {inputs : List Bytes}
    (hno : ¬ Collides keccak256 inputs) (htree : t.hashed ⊆ inputs) {v : Leaf}
    (hleaf : v.hashed ⊆ inputs) {siblings : List Hash}
    (hclimb : climbHashed v.hash siblings ⊆ inputs) {i : Nat} (hi : i ≤ 2 * (t.size - 1))
    (h : climb v.hash siblings = t.nodeD i) :
    ∃ j, t.size - 1 ≤ j ∧ j ≤ 2 * (t.size - 1) ∧ t.leafAt j = v ∧
      (Position.siblings j).map t.nodeD = siblings ++ (Position.siblings i).map t.nodeD := by
  induction siblings using List.reverseRecOn generalizing i with
  | nil =>
    have hhash : v.hash = t.nodeD i := h
    by_cases hinner : i < t.size - 1
    · rw [ht.inner i hinner] at hhash
      exact absurd hhash (leaf_hash_ne_pair hno hleaf (htree (t.pairInput_mem_hashed hinner)))
    · have hge : t.size - 1 ≤ i := by omega
      rw [ht.leaf i hge hi] at hhash
      have hsub : (t.leafAt i).hashed ⊆ inputs :=
        fun b hb => htree (t.hashed_leafAt_subset hge hi hb)
      have hsame : v = t.leafAt i := Leaf.eq_of_hash_eq hno hleaf hsub hhash
      exact ⟨i, hge, hi, hsame.symm, rfl⟩
  | append_singleton siblings s ih =>
    rw [climb_concat] at h
    rw [climbHashed_concat] at hclimb
    have hbefore : climbHashed v.hash siblings ⊆ inputs :=
      fun b hb => hclimb (List.mem_append_left _ hb)
    have hlast : pairInput (climb v.hash siblings) s ∈ inputs :=
      hclimb (List.mem_append_right _ (List.mem_singleton_self _))
    by_cases hinner : i < t.size - 1
    · have hchildren := htree (t.pairInput_mem_hashed hinner)
      have hsame : pairInput (climb v.hash siblings) s
          = pairInput (t.nodeD (2 * i + 1)) (t.nodeD (2 * i + 2)) := by
        apply Collides.eq_of_not hno hlast hchildren
        rw [← pair_eq, ← pair_eq, h, ht.inner i hinner]
      -- The pair does not say which of the two children the siblings lead to.
      rcases eq_or_swap_of_pairInput_eq hsame with ⟨hdown, rfl⟩ | ⟨hdown, rfl⟩
      · obtain ⟨j, hge, hle, hat, hsiblings⟩ := ih hbefore (by omega) hdown
        refine ⟨j, hge, hle, hat, ?_⟩
        rw [hsiblings, Position.siblings_left, List.append_assoc]
        rfl
      · obtain ⟨j, hge, hle, hat, hsiblings⟩ := ih hbefore (by omega) hdown
        refine ⟨j, hge, hle, hat, ?_⟩
        rw [hsiblings, Position.siblings_right, List.append_assoc]
        rfl
    · have hge : t.size - 1 ≤ i := by omega
      rw [ht.leaf i hge hi] at h
      have hsub : (t.leafAt i).hashed ⊆ inputs :=
        fun b hb => htree (t.hashed_leafAt_subset hge hi hb)
      exact absurd h.symm (leaf_hash_ne_pair hno hsub hlast)

/-! ## Proofs -/

theorem proof?_eq_ok {i : Nat} (hi : i < t.size) :
    t.proof? i = .ok ((Position.siblings (t.place i)).map t.nodeD) := by
  rw [proof?, if_pos hi, nodesAt_eq (Position.le_of_mem_siblings (place_bounds hi).2)]

/-- The proof of a leaf is accepted. -/
theorem Grown.verify_siblings (ht : t.Grown) {i : Nat} (hi : i < t.size) {v : Leaf}
    (hv : t.leaves[i]? = some v) :
    t.verify v ((Position.siblings (t.place i)).map t.nodeD) = true := by
  obtain ⟨hge, hle⟩ := place_bounds hi
  have hat : t.leafAt (t.place i) = v := by
    rw [leaves_getElem?_eq hi] at hv
    exact Option.some.inj hv
  have hhash : v.hash = t.nodeD (t.place i) := by
    rw [ht.leaf _ hge hle, hat]
  rw [verify, hhash, Position.climb_siblings ht.inner hle, t.root_eq]
  exact decide_eq_true rfl

/-- **What is accepted is the proof of a leaf.** -/
theorem Grown.exists_proof?_of_verify (ht : t.Grown) {v : Leaf} {siblings : List Hash}
    (hno : ¬ Collides keccak256 (t.hashed ++ (v.hashed ++ climbHashed v.hash siblings)))
    (h : t.verify v siblings = true) : ∃ i, t.leaves[i]? = some v ∧ t.proof? i = .ok siblings := by
  have hroot : climb v.hash siblings = t.nodeD 0 := by
    rw [← t.root_eq]
    exact of_decide_eq_true h
  obtain ⟨j, hge, hle, hat, hsiblings⟩ := ht.exists_place_of_climb hno
    (fun b hb => List.mem_append_left _ hb)
    (fun b hb => List.mem_append_right _ (List.mem_append_left _ hb))
    (fun b hb => List.mem_append_right _ (List.mem_append_right _ hb)) (Nat.zero_le _) hroot
  obtain ⟨i, hi, rfl⟩ := exists_place_eq hge hle
  refine ⟨i, ?_, ?_⟩
  · rw [leaves_getElem?_eq hi, hat]
  · rw [Position.siblings_zero, List.map_nil, List.append_nil] at hsiblings
    rw [proof?_eq_ok hi, hsiblings]

/-- **Every leaf has its proof, and nothing else has one.** There is a tree over every list of leaves but
    the empty one. An index without a leaf is refused; every other one has a proof made of the nodes
    beside the way to the root, and it is accepted; and whatever leaf and siblings are accepted, the
    leaf is in the list and the siblings are its proof, unless two byte strings collide that were
    hashed for the tree or on the way up. -/
theorem proof?_complete_sound {leaves : List Leaf} (hne : leaves ≠ []) :
    ∃ t, ofLeaves? leaves = .ok t ∧
      (∀ i, leaves.length ≤ i → t.proof? i = .error (.outOfBounds i)) ∧
      (∀ i v, leaves[i]? = some v → ∃ p, t.proof? i = .ok p ∧
        p.map some = (Position.siblings (t.place i)).map t.node? ∧ t.verify v p = true) ∧
      ∀ v p, t.verify v p = true →
        (∃ i, leaves[i]? = some v ∧ t.proof? i = .ok p) ∨
          Collides keccak256 (t.hashed ++ (v.hashed ++ climbHashed v.hash p)) := by
  obtain ⟨t, ht⟩ := exists_ofLeaves? hne
  obtain ⟨rfl, -, -⟩ := ofLeaves?_eq_ok ht
  have hgrown := grown_of_ofLeaves? ht
  refine ⟨t, ht, ?_, ?_, ?_⟩
  · intro i hi
    exact if_neg (Nat.not_lt.mpr hi)
  · intro i v hv
    have hi : i < t.size := (List.getElem?_eq_some_iff.mp hv).1
    refine ⟨_, proof?_eq_ok hi, ?_, hgrown.verify_siblings hi hv⟩
    rw [List.map_map]
    apply List.map_congr_left
    intro j hj
    exact (node?_eq (Position.le_of_mem_siblings (place_bounds hi).2 j hj)).symm
  · intro v p hp
    by_cases hno : Collides keccak256 (t.hashed ++ (v.hashed ++ climbHashed v.hash p))
    · exact .inr hno
    · exact .inl (hgrown.exists_proof?_of_verify hno hp)

/-- Of three leaves, two of which are equal, each has a proof, and what is accepted for the first is the
    proof of one of the equal ones. -/
theorem proof?_complete_sound_equal :
    ([⟨[1], 0⟩, ⟨[1], 0⟩, ⟨[2], 1⟩] : List Leaf) ≠ [] ∧
    ∃ t p, ofLeaves? [⟨[1], 0⟩, ⟨[1], 0⟩, ⟨[2], 1⟩] = .ok t ∧
      t.proof? 3 = .error (.outOfBounds 3) ∧
      t.proof? 1 = .ok p ∧ p.map some = (Position.siblings (t.place 1)).map t.node? ∧
      t.verify ⟨[1], 0⟩ p = true ∧
      ((∃ i, ([⟨[1], 0⟩, ⟨[1], 0⟩, ⟨[2], 1⟩] : List Leaf)[i]? = some ⟨[1], 0⟩ ∧
          t.proof? i = .ok p) ∨
        Collides keccak256
          (t.hashed ++ (Leaf.hashed ⟨[1], 0⟩ ++ climbHashed (Leaf.hash ⟨[1], 0⟩) p))) := by
  have hne : ([⟨[1], 0⟩, ⟨[1], 0⟩, ⟨[2], 1⟩] : List Leaf) ≠ [] := List.cons_ne_nil _ _
  obtain ⟨t, ht, houtside, hinside, hsound⟩ := proof?_complete_sound hne
  obtain ⟨p, hp, hnodes, hverify⟩ := hinside 1 ⟨[1], 0⟩ rfl
  exact ⟨hne, t, p, ht, houtside 3 (by decide), hp, hnodes, hverify, hsound _ p hverify⟩

end Tree

end Registrar.Merkle
