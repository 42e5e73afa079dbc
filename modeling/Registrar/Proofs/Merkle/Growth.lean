import Registrar.Merkle.Tree
import Registrar.Proofs.Merkle.Shape

/-!
# The nodes of a tree

What `Tree.ofLeaves?` builds: the hashes of the leaves at the last places and, before them, the pair
of the two children at each place.

## Contents

- `grow`: `getElem?_grow_of_lt`, `getElem?_grow_pair`;
- `Tree.nodeD` and `Tree.leafAt`, a node and the leaf at a place, with `map_leafAt_perm`;
- `Tree.Grown`, what holds of every node, and `grown_of_ofLeaves?`;
- `Tree.branching`, the tree as a `Branching`: its root, its leaves and what was hashed for it.
-/

namespace Registrar.Merkle

namespace Tree

/-! ## Growing -/

/-- Nodes that are there stay as they are. -/
theorem getElem?_grow_of_lt {count done : Nat} {nodes : Array Hash} {k : Nat} (h : k < nodes.size) :
    (grow count done nodes)[k]? = nodes[k]? := by
  induction count generalizing done nodes with
  | zero => rfl
  | succ count ih =>
    rw [grow, ih (by simp; omega), Array.getElem?_push_lt h, Array.getElem?_eq_getElem h]

/-- Pair `j` is appended after the leaves and the `j` pairs before it, and is formed from two nodes
    that are there by then. -/
theorem getElem?_grow_pair {count done n : Nat} {nodes : Array Hash} (hsize : nodes.size = n + done)
    (hcount : done + count + 1 = n) {j : Nat} (hfrom : done ≤ j) (hto : j < done + count) :
    (grow count done nodes)[n + j]?
      = some (pair ((grow count done nodes).getD (2 * j + 1) default)
          ((grow count done nodes).getD (2 * j) default)) := by
  induction count generalizing done nodes with
  | zero => omega
  | succ count ih =>
    rw [grow]
    by_cases hj : j = done
    · -- The pair that is appended now; what comes later leaves it and its nodes alone.
      subst hj
      rw [getElem?_grow_of_lt (by simp; omega), ← hsize, Array.getElem?_push_size]
      simp only [Array.getD_eq_getD_getElem?]
      rw [getElem?_grow_of_lt (by simp; omega), getElem?_grow_of_lt (by simp; omega),
        Array.getElem?_push_lt (by omega), Array.getElem?_push_lt (by omega),
        Array.getElem?_eq_getElem (by omega), Array.getElem?_eq_getElem (by omega)]
    · exact ih (by simp; omega) (by omega) (by omega) (by omega)

/-! ## Nodes and leaves by place -/

instance : Inhabited Leaf := ⟨⟨[], 0⟩⟩

variable (t : Tree)

/-- Node `i`, where there is one. -/
def nodeD (i : Nat) : Hash := t.upward.getD (t.nodeCount - 1 - i) default

/-- The leaf whose hash is the node at a place, where there is one. -/
def leafAt (place : Nat) : Leaf :=
  t.leaves.getD (t.order.getD (t.nodeCount - 1 - place) 0) default

/-- The byte strings that are hashed while the tree is built. -/
def hashed : List Bytes :=
  t.leaves.flatMap Leaf.hashed
    ++ (List.range (t.size - 1)).map fun i => pairInput (t.nodeD (2 * i + 1)) (t.nodeD (2 * i + 2))

theorem hashed_of_leaves_eq {t : Tree} {leaf : Leaf} (h : t.leaves = [leaf]) :
    t.hashed = leaf.hashed := by
  simp [hashed, size, h]

theorem root_eq : t.root = t.nodeD 0 := by
  have hcount := t.nodeCount_add_one
  have hpos := t.size_pos
  have hlast : t.upward.size - 1 < t.upward.size := by unfold nodeCount at hcount; omega
  simp only [root, nodeD, nodeCount, Nat.sub_zero, Array.getD_eq_getD_getElem?,
    Array.getElem?_eq_getElem hlast, Option.getD_some]

/-- The order of the leaves lists every index once. -/
theorem order_perm : t.order.Perm (List.range t.size) := by
  have hsub : List.Subperm (List.range t.size) t.order := by
    refine List.nodup_range.subperm fun i hi => ?_
    exact (t.mem_order i).mpr (List.mem_range.mp hi)
  refine (hsub.perm_of_length_le ?_).symm
  rw [t.length_order, List.length_range]
  exact Nat.le_refl _

/-- **The leaves at the last places are the leaves of the tree.** -/
theorem map_leafAt_perm :
    ((List.range' (t.size - 1) t.size).map t.leafAt).Perm t.leaves := by
  have hcount := t.nodeCount_add_one
  have hplaces : (List.range' (t.size - 1) t.size).map t.leafAt
      = t.order.reverse.map fun i => t.leaves.getD i default := by
    apply List.ext_getElem
    · simp [t.length_order, size]
    · intro k hk _
      have hlt : k < t.size := by simpa using hk
      have hplace : t.nodeCount - 1 - (t.size - 1 + 1 * k) = t.order.length - 1 - k := by
        rw [t.length_order]
        unfold size at hlt hcount ⊢
        omega
      have hin : t.order.length - 1 - k < t.order.length := by
        rw [t.length_order]
        unfold size at hlt
        omega
      simp only [List.getElem_map, List.getElem_range', leafAt, hplace, List.getElem_reverse,
        List.getD_eq_getElem?_getD, List.getElem?_eq_getElem hin, Option.getD_some]
  have hall : (List.range t.size).map (fun i => t.leaves.getD i default) = t.leaves := by
    apply List.ext_getElem
    · simp [size]
    · intro k hk hlt
      simp [List.getElem?_eq_getElem hlt]
  rw [hplaces]
  refine ((t.order.reverse_perm.trans t.order_perm).map _).trans ?_
  rw [hall]

theorem leafAt_mem {place : Nat} (hge : t.size - 1 ≤ place) (hle : place ≤ 2 * (t.size - 1)) :
    t.leafAt place ∈ t.leaves := by
  have hpos := t.size_pos
  refine t.map_leafAt_perm.mem_iff.mp (List.mem_map_of_mem ?_)
  rw [List.mem_range'_1]
  omega

theorem pairInput_mem_hashed {i : Nat} (hi : i < t.size - 1) :
    pairInput (t.nodeD (2 * i + 1)) (t.nodeD (2 * i + 2)) ∈ t.hashed :=
  List.mem_append_right _ (List.mem_map.mpr ⟨i, List.mem_range.mpr hi, rfl⟩)

theorem hashed_leafAt_subset {place : Nat} (hge : t.size - 1 ≤ place)
    (hle : place ≤ 2 * (t.size - 1)) : (t.leafAt place).hashed ⊆ t.hashed := fun _ hb =>
  List.mem_append_left _ (List.mem_flatMap.mpr ⟨t.leafAt place, t.leafAt_mem hge hle, hb⟩)

/-! ## What is built -/

/-- Every node is the hash that its place calls for. -/
structure Grown (t : Tree) : Prop where
  leaf : ∀ i, t.size - 1 ≤ i → i ≤ 2 * (t.size - 1) → t.nodeD i = (t.leafAt i).hash
  inner : ∀ i < t.size - 1, t.nodeD i = pair (t.nodeD (2 * i + 1)) (t.nodeD (2 * i + 2))

variable {t} {leaves : List Leaf}

/-- There is a tree over every list of leaves but the empty one. -/
theorem exists_ofLeaves? (h : leaves ≠ []) : ∃ t, ofLeaves? leaves = .ok t := by
  rw [ofLeaves?, dif_neg h]
  exact ⟨_, rfl⟩

theorem ofLeaves?_eq_ok (h : ofLeaves? leaves = .ok t) :
    t.leaves = leaves ∧ t.order = (ranked leaves).map (·.2) ∧
      t.upward = grow (leaves.length - 1) 0 ((ranked leaves).map (·.1)).toArray := by
  unfold ofLeaves? at h
  split at h
  · cases h
  · cases h
    exact ⟨rfl, rfl, rfl⟩

/-- A ranked hash is that of the leaf beside it. -/
theorem hash_of_mem_ranked {g : Hash} {i : Nat} (h : (g, i) ∈ ranked leaves) :
    ∃ v, leaves[i]? = some v ∧ v.hash = g := by
  simp only [ranked, List.mem_mergeSort, List.mem_map] at h
  obtain ⟨⟨v, j⟩, hmem, heq⟩ := h
  obtain ⟨rfl, rfl⟩ := Prod.mk.inj heq
  exact ⟨v, List.mem_zipIdx_iff_getElem?.mp hmem, rfl⟩

/-- **Every node of a tree that was built is the hash that its place calls for.** -/
theorem grown_of_ofLeaves? (h : ofLeaves? leaves = .ok t) : t.Grown := by
  obtain ⟨hleaves, horder, hupward⟩ := ofLeaves?_eq_ok h
  have hcount := t.nodeCount_add_one
  have hpos := t.size_pos
  have hsize : t.size = leaves.length := by rw [size, hleaves]
  have hranked := length_ranked leaves
  -- The leaves come first in `upward`, and last among the places.
  refine ⟨fun i hge hle => ?_, fun i hlt => ?_⟩
  · have hk : t.nodeCount - 1 - i < (ranked leaves).length := by omega
    have hnode : t.nodeD i = (ranked leaves)[t.nodeCount - 1 - i].1 := by
      rw [nodeD, hupward, Array.getD_eq_getD_getElem?, getElem?_grow_of_lt (by simpa using hk)]
      simp [List.getElem?_eq_getElem hk]
    obtain ⟨v, hv, hhash⟩ :=
      hash_of_mem_ranked (g := (ranked leaves)[t.nodeCount - 1 - i].1)
        (i := (ranked leaves)[t.nodeCount - 1 - i].2) (List.getElem_mem hk)
    have hleaf : t.leafAt i = v := by
      rw [leafAt, hleaves, horder, List.getD_eq_getElem?_getD, List.getD_eq_getElem?_getD,
        List.getElem?_map, List.getElem?_eq_getElem hk, Option.map_some, Option.getD_some, hv,
        Option.getD_some]
    rw [hnode, hleaf, hhash]
  · have hat : t.nodeCount - 1 - i = leaves.length + (leaves.length - 2 - i) := by omega
    have hleft : t.nodeCount - 1 - (2 * i + 1) = 2 * (leaves.length - 2 - i) + 1 := by omega
    have hright : t.nodeCount - 1 - (2 * i + 2) = 2 * (leaves.length - 2 - i) := by omega
    simp only [nodeD, hat, hleft, hright, hupward]
    rw [Array.getD_eq_getD_getElem?,
      getElem?_grow_pair (by simp) (by omega) (by omega) (by omega), Option.getD_some]

/-! ## The tree as a branching -/

/-- The places of a tree with their leaves. -/
def branching (t : Tree) : Branching Tip :=
  (Branching.under (t.size - 1) 0).map fun i => .value (t.leafAt i)

theorem known_branching (t : Tree) : t.branching.Known := Branching.known_map_value _ _

theorem values_branching_perm (t : Tree) : t.branching.values.Perm t.leaves := by
  have hvalues : t.branching.values = (Branching.under (t.size - 1) 0).tips.map t.leafAt := by
    rw [Branching.values, branching, Branching.tips_map, Tip.filterMap_value?_map_value]
  have hsize : t.size - 1 + 1 = t.size := by have := t.size_pos; omega
  have htips := (Branching.tips_under_zero (t.size - 1)).map t.leafAt
  rw [hsize] at htips
  rw [hvalues]
  exact htips.trans t.map_leafAt_perm

theorem Grown.root_branching (h : t.Grown) : t.branching.root = t.root := by
  rw [t.root_eq]
  exact Branching.root_under (fun i => .value (t.leafAt i)) t.nodeD
    (fun i hge hle => (h.leaf i hge hle).symm) h.inner (Nat.zero_le _)

theorem Grown.hashed_branching (h : t.Grown) : t.branching.hashed ⊆ t.hashed := by
  intro b hb
  have hplaces := Branching.mem_hashed_under (fun i => .value (t.leafAt i)) t.nodeD
    (fun i hge hle => (h.leaf i hge hle).symm) h.inner (Nat.zero_le _) hb
  rcases hplaces with ⟨j, hj, rfl⟩ | ⟨j, hge, hle, hb⟩
  · exact t.pairInput_mem_hashed hj
  · exact t.hashed_leafAt_subset hge hle hb

end Tree

end Registrar.Merkle
