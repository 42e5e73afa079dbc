import Registrar.Proofs.Merkle.Ascent
import Registrar.Proofs.Merkle.Growth

/-!
# Proofs of many leaves

What `Tree.multiProof` gives for every list of indices: a fault that names an index which is out of
range or repeated, or else the one proof that this tree accepts for these leaves, without a node that a
verifier could compute.

## Contents

- `Tree.place`, where a leaf stands, with its bounds, `place_inj` and the way back, `indexAt?_place`;
- `byPlace`, the order of a proof, with `places_eq` and `lookUp_map_place`, and `proofOf`, what is put
  together in that order;
- `Tree.Exact`, what a proof of some leaves is, with `exact_proofOf`;
- `multiProof_eq_ok` and `multiProof_eq_duplicated`, from which `multiProof_complete` is assembled.
-/

namespace Registrar.Merkle

namespace Tree

variable {t : Tree} {indices : List Nat} {i j : Nat}

/-! ## Places of leaves -/

theorem idxOf_lt (hi : i < t.size) : t.order.idxOf i < t.size := by
  have hmem : i ∈ t.order := (t.mem_order i).mpr hi
  have hlt := List.idxOf_lt_length_of_mem hmem
  rw [t.length_order] at hlt
  exact hlt

/-- Leaves stand at the last places. -/
theorem place_bounds (hi : i < t.size) :
    t.size - 1 ≤ t.place i ∧ t.place i ≤ 2 * (t.size - 1) := by
  have hcount := t.nodeCount_add_one
  have hlt := idxOf_lt hi
  unfold place
  omega

/-- No two leaves stand at one place. -/
theorem place_inj (hi : i < t.size) (hj : j < t.size) (h : t.place i = t.place j) : i = j := by
  have hcount := t.nodeCount_add_one
  have hlti := idxOf_lt hi
  have hltj := idxOf_lt hj
  have hidx : t.order.idxOf i = t.order.idxOf j := by
    unfold place at h
    omega
  exact (List.idxOf_inj ((t.mem_order i).mpr hi)).mp hidx

theorem leaves_getElem?_eq (hi : i < t.size) : t.leaves[i]? = some (t.leafAt (t.place i)) := by
  have hcount := t.nodeCount_add_one
  have hlt := idxOf_lt hi
  have hback : t.nodeCount - 1 - t.place i = t.order.idxOf i := by
    unfold place
    omega
  have hmem : i ∈ t.order := (t.mem_order i).mpr hi
  have horder : t.order[t.order.idxOf i]? = some i := by
    rw [List.getElem?_eq_getElem (List.idxOf_lt_length_of_mem hmem), List.getElem_idxOf]
  unfold size at hi
  rw [leafAt, hback, List.getD_eq_getElem?_getD, List.getD_eq_getElem?_getD, horder,
    Option.getD_some, List.getElem?_eq_getElem hi, Option.getD_some]

theorem node?_eq (hi : i ≤ 2 * (t.size - 1)) : t.node? i = some (t.nodeD i) := by
  have hcount := t.nodeCount_add_one
  have hpos := t.size_pos
  have hlt : i < t.nodeCount := by omega
  have hin : t.nodeCount - 1 - i < t.upward.size := by
    unfold nodeCount at hlt ⊢
    omega
  rw [node?, if_pos hlt, nodeD, Array.getD_eq_getD_getElem?, Array.getElem?_eq_getElem hin,
    Option.getD_some]

theorem nodesAt_eq {places : List Nat} (h : ∀ i ∈ places, i ≤ 2 * (t.size - 1)) :
    t.nodesAt places = places.map t.nodeD := by
  rw [nodesAt, ← List.filterMap_eq_map]
  exact List.filterMap_congr fun i hi => node?_eq (h i hi)

/-- The look-up finds every leaf at its place. -/
theorem indexAt?_place (hi : i < t.size) : t.indexAt? (t.place i) = some i := by
  unfold indexAt?
  cases hfound : (List.range t.size).find? fun j => decide (t.place j = t.place i) with
  | none =>
    have hnone := List.find?_eq_none.mp hfound i (List.mem_range.mpr hi)
    exact absurd (decide_eq_true rfl) hnone
  | some j =>
    have hplace := List.find?_some hfound
    rw [decide_eq_true_eq] at hplace
    have hj : j < t.size := List.mem_range.mp (List.mem_of_find?_eq_some hfound)
    rw [place_inj hj hi hplace]

/-! ## The order of a proof -/

/-- Indices by descending place. -/
def byPlace (t : Tree) (indices : List Nat) : List Nat :=
  indices.mergeSort fun i j => decide (t.place j ≤ t.place i)

theorem byPlace_perm (t : Tree) (indices : List Nat) : (t.byPlace indices).Perm indices :=
  List.mergeSort_perm _ _

theorem pairwise_byPlace (t : Tree) (indices : List Nat) :
    (t.byPlace indices).Pairwise fun i j => t.place j ≤ t.place i := by
  have htrans : ∀ i j k, decide (t.place j ≤ t.place i) = true →
      decide (t.place k ≤ t.place j) = true → decide (t.place k ≤ t.place i) = true := by
    simp only [decide_eq_true_eq]
    omega
  have htotal : ∀ i j, (decide (t.place j ≤ t.place i) || decide (t.place i ≤ t.place j)) = true := by
    simp only [Bool.or_eq_true, decide_eq_true_eq]
    omega
  exact (List.pairwise_mergeSort htrans htotal indices).imp of_decide_eq_true

/-- The places of a proof are those of the indices in this order. -/
theorem places_eq (t : Tree) (indices : List Nat) : t.places indices = (t.byPlace indices).map t.place := by
  rw [places, byPlace, List.map_mergeSort]
  exact fun _ _ _ _ => rfl

theorem firstRepeated_map_place (hlt : ∀ i ∈ indices, i < t.size) :
    firstRepeated (indices.map t.place) = (firstRepeated indices).map t.place := by
  fun_induction firstRepeated indices with
  | case1 => rfl
  | case2 => rfl
  | case3 a rest => simp only [List.map_cons, firstRepeated, if_true, Option.map_some]
  | case4 a b rest hne ih =>
    have hb := hlt b (List.mem_cons_of_mem _ List.mem_cons_self)
    have hplace : t.place a ≠ t.place b := fun h => hne (place_inj (hlt a List.mem_cons_self) hb h)
    rw [← ih fun i hi => hlt i (List.mem_cons_of_mem _ hi)]
    simp only [List.map_cons, firstRepeated, if_neg hplace]

/-- **The look-up finds the indices** at their places. -/
theorem lookUp_map_place (hlt : ∀ i ∈ indices, i < t.size) :
    t.lookUp (indices.map t.place) = .ok indices := by
  induction indices with
  | nil => rfl
  | cons i rest ih =>
    obtain ⟨hi, hrest⟩ := List.forall_mem_cons.mp hlt
    simp only [List.map_cons, lookUp, indexAt?_place hi, ih hrest]

/-- Indices in the order of a proof repeat side by side only. -/
theorem pairwise_of_firstRepeated_eq_none (hlt : ∀ i ∈ indices, i < t.size)
    (hsorted : indices.Pairwise fun i j => t.place j ≤ t.place i)
    (h : firstRepeated indices = none) : indices.Pairwise fun i j => t.place j < t.place i := by
  fun_induction firstRepeated indices with
  | case1 => exact .nil
  | case2 => exact List.pairwise_singleton ..
  | case3 => cases h
  | case4 a b rest hne ih =>
    obtain ⟨ha, hrest⟩ := List.pairwise_cons.mp hsorted
    have hdescending := ih (fun i hi => hlt i (List.mem_cons_of_mem _ hi)) hrest h
    have hab : t.place b < t.place a := by
      refine Nat.lt_of_le_of_ne (ha b List.mem_cons_self) fun heq => ?_
      have hb := hlt b (List.mem_cons_of_mem _ List.mem_cons_self)
      exact hne (place_inj (hlt a List.mem_cons_self) hb heq.symm)
    refine List.pairwise_cons.mpr ⟨fun j hj => ?_, hdescending⟩
    rcases List.mem_cons.mp hj with rfl | hj
    · exact hab
    · exact Nat.lt_trans ((List.pairwise_cons.mp hdescending).1 j hj) hab

theorem one_lt_count_of_firstRepeated (h : firstRepeated indices = some i) :
    1 < indices.count i := by
  fun_induction firstRepeated indices with
  | case1 => cases h
  | case2 => cases h
  | case3 b rest =>
    cases h
    rw [List.count_cons_self, List.count_cons_self]
    omega
  | case4 a b rest hne ih => exact Nat.lt_of_lt_of_le (ih h) (List.count_le_count_cons ..)

theorem firstRepeated_eq_none_of_nodup (h : indices.Nodup) : firstRepeated indices = none := by
  cases hfirst : firstRepeated indices with
  | none => rfl
  | some i =>
    have hcount := one_lt_count_of_firstRepeated hfirst
    have hle := List.nodup_iff_count.mp h i
    omega

/-- Without repetition the order is strict. -/
theorem strict_byPlace (hlt : ∀ i ∈ indices, i < t.size) (hnodup : indices.Nodup) :
    (t.byPlace indices).Pairwise fun i j => t.place j < t.place i := by
  refine pairwise_of_firstRepeated_eq_none ?_ (t.pairwise_byPlace indices) ?_
  · intro i hi
    exact hlt i ((t.byPlace_perm indices).mem_iff.mp hi)
  · exact firstRepeated_eq_none_of_nodup ((t.byPlace_perm indices).nodup_iff.mpr hnodup)

/-- **The order in which indices are asked for does not matter.** -/
theorem byPlace_eq_of_perm {other : List Nat} (hlt : ∀ i ∈ indices, i < t.size)
    (hnodup : indices.Nodup) (hperm : other.Perm indices) : t.byPlace other = t.byPlace indices := by
  have hother := strict_byPlace (fun i hi => hlt i (hperm.mem_iff.mp hi)) (hperm.nodup_iff.mpr hnodup)
  have hsame : (t.byPlace other).Perm (t.byPlace indices) :=
    ((t.byPlace_perm other).trans hperm).trans (t.byPlace_perm indices).symm
  refine hsame.eq_of_pairwise ?_ hother (strict_byPlace hlt hnodup)
  intro i j _ _ hij hji
  omega

/-! ## The proof -/

/-- The proof that is put together for indices in the order of a proof. -/
def proofOf (t : Tree) (sorted : List Nat) : MultiProof where
  leaves := sorted.filterMap (t.leaves[·]?)
  indices := sorted
  proof :=
    if sorted = [] then [t.root]
    else t.nodesAt (Position.given (Position.ascend (sorted.map t.place)))
  flags := Position.flags (Position.ascend (sorted.map t.place))

/-- A proof of exactly the leaves at some indices of a tree: the leaves by descending place, each found at
    its place, and the nodes that a verifier needs besides them, by descending place and no others. -/
structure Exact (t : Tree) (indices : List Nat) (p : MultiProof) : Prop where
  perm : p.indices.Perm indices
  descending : (p.indices.map t.place).Pairwise (· > ·)
  found : (p.indices.map t.place).map t.indexAt? = p.indices.map some
  leaves_eq : p.leaves.map some = p.indices.map (t.leaves[·]?)
  length_flags : p.flags.length + 1 = p.leaves.length + p.proof.length
  accepted : t.verifyMulti p = .ok true
  proof_eq : indices ≠ [] → ∃ places : List Nat,
    places.Pairwise (· > ·) ∧ p.proof.map some = places.map t.node? ∧
      ∀ g, g ∈ places ↔
        Position.Covered (indices.map t.place) (Position.sibling g) ∧
          ¬ Position.Covered (indices.map t.place) g
  proof_eq_root : indices = [] → p.proof = [t.root]

section Assembly

variable {sorted : List Nat}

theorem bounds_of_mem_places (hlt : ∀ i ∈ sorted, i < t.size) :
    ∀ place ∈ sorted.map t.place, t.size - 1 ≤ place ∧ place ≤ 2 * (t.size - 1) := by
  intro place hplace
  obtain ⟨i, hi, rfl⟩ := List.mem_map.mp hplace
  exact place_bounds (hlt i hi)

theorem front_of_strict (hne : sorted ≠ []) (hlt : ∀ i ∈ sorted, i < t.size)
    (hstrict : sorted.Pairwise fun i j => t.place j < t.place i) :
    Position.Front (sorted.map t.place) := by
  have hbounds := bounds_of_mem_places hlt
  exact .of_row (fun hnil => hne (List.map_eq_nil_iff.mp hnil)) (List.pairwise_map.mpr hstrict)
    (fun place hplace => (hbounds place hplace).1) (fun place hplace => (hbounds place hplace).2)

theorem filterMap_leaves (hlt : ∀ i ∈ sorted, i < t.size) :
    sorted.filterMap (t.leaves[·]?) = sorted.map fun i => t.leafAt (t.place i) := by
  rw [← List.filterMap_eq_map]
  exact List.filterMap_congr fun i hi => leaves_getElem?_eq (hlt i hi)

/-- The siblings that are asked for are nodes of the tree. -/
theorem given_le (hlt : ∀ i ∈ sorted, i < t.size) (hfront : Position.Front (sorted.map t.place))
    {g : Nat} (hg : g ∈ Position.given (Position.ascend (sorted.map t.place))) :
    g ≤ 2 * (t.size - 1) := by
  obtain ⟨⟨place, hplace, habove⟩, hnot⟩ := (Position.mem_given_ascend hfront g).mp hg
  have hbound := (bounds_of_mem_places hlt place hplace).2
  have hle := habove.le
  have hsibling := Position.sibling_cases g
  omega

theorem proofOf_proof (hne : sorted ≠ []) (hlt : ∀ i ∈ sorted, i < t.size)
    (hfront : Position.Front (sorted.map t.place)) :
    (t.proofOf sorted).proof
      = (Position.given (Position.ascend (sorted.map t.place))).map t.nodeD := by
  have hgiven := nodesAt_eq fun g hg => given_le hlt hfront (g := g) hg
  rw [← hgiven]
  exact if_neg hne

theorem proofOf_hashes (ht : t.Grown) (hlt : ∀ i ∈ sorted, i < t.size) :
    (t.proofOf sorted).leaves.map Leaf.hash = (sorted.map t.place).map t.nodeD := by
  show (sorted.filterMap (t.leaves[·]?)).map Leaf.hash = _
  rw [filterMap_leaves hlt, List.map_map, List.map_map]
  refine List.map_congr_left fun i hi => ?_
  obtain ⟨hge, hle⟩ := place_bounds (hlt i hi)
  exact (ht.leaf _ hge hle).symm

/-- **The counts that every proof has to meet.** -/
theorem length_proofOf (hlt : ∀ i ∈ sorted, i < t.size)
    (hstrict : sorted.Pairwise fun i j => t.place j < t.place i) :
    (t.proofOf sorted).flags.length + 1
      = (t.proofOf sorted).leaves.length + (t.proofOf sorted).proof.length := by
  have hflags : (t.proofOf sorted).flags.length = (Position.ascend (sorted.map t.place)).length :=
    List.length_map ..
  have hleaves : (t.proofOf sorted).leaves.length = sorted.length := by
    show (sorted.filterMap (t.leaves[·]?)).length = _
    rw [filterMap_leaves hlt, List.length_map]
  by_cases hne : sorted = []
  · subst hne
    rw [hflags, List.map_nil, Position.ascend]
    rfl
  · have hfront := front_of_strict hne hlt hstrict
    have hlength := Position.length_ascend hfront
    rw [List.length_map] at hlength
    rw [hflags, hleaves, proofOf_proof hne hlt hfront, List.length_map, hlength]

/-- **The tree accepts the proof.** -/
theorem verifyMulti_proofOf (ht : t.Grown) (hlt : ∀ i ∈ sorted, i < t.size)
    (hstrict : sorted.Pairwise fun i j => t.place j < t.place i) :
    t.verifyMulti (t.proofOf sorted) = .ok true := by
  have hlength := length_proofOf hlt hstrict
  have hroot : (t.proofOf sorted).root = .ok t.root := by
    by_cases hne : sorted = []
    · subst hne
      -- No leaves: the root itself is the proof.
      have hflags : (t.proofOf []).flags = [] := by
        show Position.flags (Position.ascend []) = []
        rw [Position.ascend]
        rfl
      rw [MultiProof.root, hflags]
      rfl
    · have hfront := front_of_strict hne hlt hstrict
      have hproof := proofOf_proof hne hlt hfront
      have hcount : (t.proofOf sorted).flags.count false = (t.proofOf sorted).proof.length := by
        rw [hproof, List.length_map]
        exact Position.count_false_flags _
      have hbounds := bounds_of_mem_places hlt
      rw [MultiProof.root, rootOf, if_neg (by omega), List.length_map, if_neg (by omega),
        proofOf_hashes ht hlt, hproof, t.root_eq]
      exact Position.foldFlags_ascend ht.inner hfront fun place hplace => (hbounds place hplace).2
  rw [verifyMulti, hroot]
  simp

end Assembly

/-- **What is put together is a proof of exactly the leaves that were asked for.** -/
theorem exact_proofOf (ht : t.Grown) (hlt : ∀ i ∈ indices, i < t.size) (hnodup : indices.Nodup) :
    t.Exact indices (t.proofOf (t.byPlace indices)) := by
  have hperm := t.byPlace_perm indices
  have hlt' : ∀ i ∈ t.byPlace indices, i < t.size := fun i hi => hlt i (hperm.mem_iff.mp hi)
  have hstrict := strict_byPlace hlt hnodup
  have hcovered : ∀ g, Position.Covered ((t.byPlace indices).map t.place) g ↔
      Position.Covered (indices.map t.place) g := by
    intro g
    unfold Position.Covered
    simp only [(hperm.map t.place).mem_iff]
  exact {
    perm := hperm
    descending := List.pairwise_map.mpr hstrict
    found := by
      rw [List.map_map]
      exact List.map_congr_left fun i hi => indexAt?_place (hlt' i hi)
    leaves_eq := by
      show ((t.byPlace indices).filterMap (t.leaves[·]?)).map some = _
      rw [filterMap_leaves hlt', List.map_map]
      exact List.map_congr_left fun i hi => (leaves_getElem?_eq (hlt' i hi)).symm
    length_flags := length_proofOf hlt' hstrict
    accepted := verifyMulti_proofOf ht hlt' hstrict
    proof_eq := by
      intro hne
      have hne' : t.byPlace indices ≠ [] := by
        intro hnil
        rw [hnil] at hperm
        exact hne hperm.nil_eq.symm
      have hfront := front_of_strict hne' hlt' hstrict
      refine ⟨_, Position.pairwise_given_ascend hfront, ?_, fun g => ?_⟩
      · rw [proofOf_proof hne' hlt' hfront, List.map_map]
        exact List.map_congr_left fun g hg => (node?_eq (given_le hlt' hfront hg)).symm
      · rw [Position.mem_given_ascend hfront, hcovered, hcovered]
    proof_eq_root := by
      rintro rfl
      exact if_pos hperm.eq_nil }

/-! ## What a tree answers -/

theorem multiProof_of_find?_eq_none (h : ∀ i ∈ indices, i < t.size) :
    t.multiProof indices = match firstRepeated (t.byPlace indices) with
      | some i => .error (.duplicated i)
      | none => .ok (t.proofOf (t.byPlace indices)) := by
  have hperm := t.byPlace_perm indices
  have hlt : ∀ i ∈ t.byPlace indices, i < t.size := fun i hi => h i (hperm.mem_iff.mp hi)
  have hrepeated := firstRepeated_map_place hlt
  have hlookUp := lookUp_map_place hlt
  have hempty : t.byPlace indices = [] ↔ indices = [] := by
    rw [← List.length_eq_zero_iff, ← List.length_eq_zero_iff, hperm.length_eq]
  rw [← places_eq] at hrepeated hlookUp
  unfold multiProof
  split
  · next i hi =>
    have hle : t.size ≤ i := by simpa using List.find?_some hi
    exact absurd (h i (List.mem_of_find?_eq_some hi)) (Nat.not_lt.mpr hle)
  next hbounds =>
  cases hfirst : firstRepeated (t.byPlace indices) with
  | some i =>
    rw [hfirst] at hrepeated
    have hcount := one_lt_count_of_firstRepeated hfirst
    have hi : i < t.size := hlt i (List.count_pos_iff.mp (by omega))
    rw [hrepeated]
    simp only [Option.map_some, indexAt?_place hi, Option.getD_some]
  | none =>
    rw [hfirst] at hrepeated
    rw [hrepeated]
    dsimp only [Option.map_none]
    split
    · next fault hfound => exact absurd hfound (t.lookUp_places_ne_error hbounds fault)
    · next found hfound =>
      obtain rfl := Except.ok.inj (hlookUp.symm.trans hfound)
      simp only [proofOf, places_eq, hempty]

/-- Indices of leaves without repetition have a proof. -/
theorem multiProof_eq_ok (hlt : ∀ i ∈ indices, i < t.size) (hnodup : indices.Nodup) :
    t.multiProof indices = .ok (t.proofOf (t.byPlace indices)) := by
  have hfirst : firstRepeated (t.byPlace indices) = none :=
    firstRepeated_eq_none_of_nodup ((t.byPlace_perm indices).nodup_iff.mpr hnodup)
  rw [multiProof_of_find?_eq_none hlt, hfirst]

/-- The index that is named as repeated is so. -/
theorem multiProof_eq_duplicated (hlt : ∀ i ∈ indices, i < t.size) (hrepeated : ¬ indices.Nodup) :
    ∃ i, 1 < indices.count i ∧ t.multiProof indices = .error (.duplicated i) := by
  have hperm := t.byPlace_perm indices
  cases hfirst : firstRepeated (t.byPlace indices) with
  | none =>
    have hstrict := pairwise_of_firstRepeated_eq_none (fun i hi => hlt i (hperm.mem_iff.mp hi))
      (t.pairwise_byPlace indices) hfirst
    have hnodup : (t.byPlace indices).Nodup := by
      refine hstrict.imp fun hlt heq => ?_
      rw [heq] at hlt
      exact Nat.lt_irrefl _ hlt
    exact absurd (hperm.nodup_iff.mp hnodup) hrepeated
  | some i =>
    refine ⟨i, ?_, ?_⟩
    · rw [← hperm.count_eq]
      exact one_lt_count_of_firstRepeated hfirst
    · rw [multiProof_of_find?_eq_none hlt, hfirst]

/-- The first index without a leaf is named, whatever comes after it. -/
theorem multiProof_eq_outOfBounds {before after : List Nat} (hbefore : ∀ j ∈ before, j < t.size)
    (hi : t.size ≤ i) : t.multiProof (before ++ i :: after) = .error (.outOfBounds i) := by
  have hfind : (before ++ i :: after).find? (t.size ≤ ·) = some i := by
    rw [List.find?_append, List.find?_eq_none.mpr, Option.none_or,
      List.find?_cons_of_pos (by simpa using hi)]
    intro j hj
    have hlt := hbefore j hj
    rw [decide_eq_true_eq]
    omega
  unfold multiProof
  split
  · next j hj =>
    cases hfind.symm.trans hj
    rfl
  · next hnone => cases hfind.symm.trans hnone

/-- **Every list of indices has its answer.** The first index without a leaf is named, or else an index
    that repeats; all others have one and the same exact proof in whatever order they are asked for. -/
theorem multiProof_complete {leaves : List Leaf} (hne : leaves ≠ []) :
    ∃ t, ofLeaves? leaves = .ok t ∧ t.leaves = leaves ∧
      (∀ before i after, (∀ j ∈ before, j < leaves.length) → leaves.length ≤ i →
        t.multiProof (before ++ i :: after) = .error (.outOfBounds i)) ∧
      ∀ indices : List Nat, (∀ i ∈ indices, i < leaves.length) →
        (¬ indices.Nodup →
          ∃ i, 1 < indices.count i ∧ t.multiProof indices = .error (.duplicated i)) ∧
        (indices.Nodup → ∃ p, t.Exact indices p ∧
          ∀ other : List Nat, other.Perm indices → t.multiProof other = .ok p) := by
  obtain ⟨t, ht⟩ := exists_ofLeaves? hne
  obtain ⟨rfl, -, -⟩ := ofLeaves?_eq_ok ht
  refine ⟨t, ht, rfl, ?_, fun indices hlt => ⟨?_, fun hnodup => ?_⟩⟩
  · intro before i after hbefore hi
    exact multiProof_eq_outOfBounds hbefore hi
  · exact multiProof_eq_duplicated hlt
  · refine ⟨_, exact_proofOf (grown_of_ofLeaves? ht) hlt hnodup, fun other hperm => ?_⟩
    rw [← byPlace_eq_of_perm hlt hnodup hperm]
    exact multiProof_eq_ok (fun i hi => hlt i (hperm.mem_iff.mp hi)) (hperm.nodup_iff.mpr hnodup)

/-- Of three leaves, two of which are equal, the first and the last are proved in either order. -/
theorem multiProof_complete_equal :
    ∃ t p, ofLeaves? [⟨[1], 0⟩, ⟨[1], 0⟩, ⟨[2], 1⟩] = .ok t ∧ t.Exact [0, 2] p ∧
      t.multiProof [0, 2] = .ok p ∧ t.multiProof [2, 0] = .ok p ∧
      t.multiProof [1, 5, 7, 1] = .error (.outOfBounds 5) ∧
      t.multiProof [1, 0, 1] = .error (.duplicated 1) := by
  obtain ⟨t, ht, -, houtside, hinside⟩ :=
    multiProof_complete (show ([⟨[1], 0⟩, ⟨[1], 0⟩, ⟨[2], 1⟩] : List Leaf) ≠ [] by decide)
  obtain ⟨p, hexact, hp⟩ := (hinside [0, 2] (by decide)).2 (by decide)
  obtain ⟨i, hcount, hi⟩ := (hinside [1, 0, 1] (by decide)).1 (by decide)
  have hone : i = 1 := by
    by_contra hne
    have hle : [1, 0, 1].count i ≤ 1 := by
      simp only [List.count_cons, List.count_nil]
      grind
    omega
  subst hone
  refine ⟨t, p, ht, hexact, hp _ (by decide), hp _ (by decide), ?_, hi⟩
  exact houtside [1] 5 [7, 1] (by decide) (by decide)

end Tree

end Registrar.Merkle
