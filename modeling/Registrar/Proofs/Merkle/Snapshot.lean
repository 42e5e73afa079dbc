import Registrar.Bytes.Lemmas
import Registrar.Merkle.Dump
import Registrar.Proofs.Merkle.Completeness

/-!
# Dumps are snapshots

A dump says everything about the tree it was made from: its nodes, each of which is the pair of its
children, and its leaves in the order of the input, each with the node that holds its hash. Nothing is
lost in the text, so that a tree can be built again from the leaves of its dump.

## Contents

- `nodeOfText?_ofOctets` and `Leaf.ofMembers?_members`: what is written is read back;
- `Tree.ranked_pairwise`, the order in which the leaves stand, with `Tree.nodeD_le` and
  `Tree.place_lt_place`;
- `Tree.nodes_getElem?` and `Tree.map_place_perm`: the nodes of the list and the places of the leaves;
- `Dump.restore?`, the way back, with `Tree.restore?_dump`;
- `Dump.Snapshot`, all that a dump says, and `Tree.dump_snapshot`.
-/

namespace Registrar.Merkle

/-! ## Reading text -/

/-- **A node is read back from its digits.** -/
theorem nodeOfText?_ofOctets (h : Hash) : nodeOfText? (Hex.ofOctets h) = .ok h := by
  have htext : (Hex.ofOctets h).toList = '0' :: 'x' :: Hex.encode h.toList := String.toList_ofList
  unfold nodeOfText?
  simp only [htext, Hex.decode_encode, Octets.ofList?_toList]

namespace Leaf

/-- The bytes whose digits stand after the marker. -/
def readData? (s : String) : Option Bytes :=
  match s.toList with
  | '0' :: 'x' :: digits => (Hex.decode digits).toOption
  | _ => none

/-- The number below `2 ^ 256` that decimal digits spell. -/
def readIndex? (s : String) : Option (BitVec 256) :=
  let n := Nat.ofDigitChars 10 s.toList 0
  if s.toList ≠ [] ∧ s.toList.all Char.isDigit ∧ n < 2 ^ 256 then some (.ofNat 256 n) else none

/-- The leaf with these members. -/
def ofMembers? : List String → Option Leaf
  | [data, index] =>
    match readData? data, readIndex? index with
    | some data, some index => some ⟨data, index⟩
    | _, _ => none
  | _ => none

theorem readIndex?_toString (index : BitVec 256) :
    readIndex? (toString index.toNat) = some index := by
  have htext : (toString index.toNat).toList = Nat.toDigits 10 index.toNat := by
    simp [Nat.toString_eq_repr]
  have hne : Nat.toDigits 10 index.toNat ≠ [] := Nat.toDigits_ne_nil
  have hdigits : (Nat.toDigits 10 index.toNat).all Char.isDigit = true := by
    refine List.all_eq_true.mpr fun c hc => ?_
    exact Nat.isDigit_of_mem_toDigits (by omega) (by omega) hc
  unfold readIndex?
  simp only [htext, Nat.ofDigitChars_ten_toDigits]
  rw [if_pos ⟨hne, hdigits, index.isLt⟩, BitVec.ofNat_toNat, BitVec.setWidth_eq]

/-- **A leaf is read back from its members.** -/
theorem ofMembers?_members (v : Leaf) : ofMembers? v.members = some v := by
  have htext : (Hex.encode0x v.data).toList = '0' :: 'x' :: Hex.encode v.data :=
    String.toList_ofList
  have hdata : readData? (Hex.encode0x v.data) = some v.data := by
    unfold readData?
    simp only [htext, Hex.decode_encode]
    rfl
  simp only [members, ofMembers?, hdata, readIndex?_toString]

end Leaf

namespace Tree

/-! ## The order of the leaves -/

/-- **Leaves stand in ascending order of their hashes**, and those of one hash in the order of the
    input. -/
theorem ranked_pairwise (leaves : List Leaf) :
    (ranked leaves).Pairwise fun a b => a.1 ≤ b.1 ∧ (b.1 ≤ a.1 → a.2 ≤ b.2) := by
  let le : Hash × Nat → Hash × Nat → Bool := fun a b => decide (a.1 ≤ b.1)
  let hashes : List (Hash × Nat) := leaves.zipIdx.map fun leaf => (leaf.1.hash, leaf.2)
  -- The sort is stable: it sorts as if every hash had its number beside it.
  have hstable : ranked leaves = (hashes.zipIdx.mergeSort (List.zipIdxLE le)).map (·.1) :=
    List.mergeSort_zipIdx.symm
  have hnumber : ∀ x ∈ hashes.zipIdx.mergeSort (List.zipIdxLE le), x.1.2 = x.2 := by
    intro x hx
    have hx' := List.mem_zipIdx_iff_getElem?.mp (List.mem_mergeSort.mp hx)
    simp only [hashes, List.getElem?_map, List.getElem?_zipIdx, Nat.zero_add, Option.map_map,
      Option.map_eq_some_iff] at hx'
    obtain ⟨v, -, hv⟩ := hx'
    rw [← hv]
    rfl
  rw [hstable, List.pairwise_map]
  have hsorted := List.pairwise_mergeSort (List.zipIdxLE_trans (Octets.ascends_trans Prod.fst))
    (List.zipIdxLE_total (Octets.ascends_total Prod.fst)) hashes.zipIdx
  refine hsorted.imp_of_mem fun {a b} ha hb hab => ?_
  unfold List.zipIdxLE at hab
  split at hab
  · next hle =>
    refine ⟨of_decide_eq_true hle, fun hge => ?_⟩
    rw [if_pos (decide_eq_true hge)] at hab
    rw [hnumber a ha, hnumber b hb]
    exact of_decide_eq_true hab
  · cases hab

variable {t : Tree} {leaves : List Leaf}

/-- The hash of the leaf with an index. -/
def hashAt (leaves : List Leaf) (i : Nat) : Hash := (leaves.getD i default).hash

theorem order_pairwise (h : ofLeaves? leaves = .ok t) :
    t.order.Pairwise fun i j =>
      hashAt leaves i ≤ hashAt leaves j ∧ (hashAt leaves j ≤ hashAt leaves i → i ≤ j) := by
  obtain ⟨-, horder, -⟩ := ofLeaves?_eq_ok h
  rw [horder, List.pairwise_map]
  refine (ranked_pairwise leaves).imp_of_mem fun {a b} ha hb hab => ?_
  have hhash : ∀ x ∈ ranked leaves, hashAt leaves x.2 = x.1 := by
    intro x hx
    obtain ⟨v, hv, hxv⟩ := hash_of_mem_ranked hx
    rw [hashAt, List.getD_eq_getElem?_getD, hv]
    exact hxv
  rw [hhash a ha, hhash b hb]
  exact hab

/-- Of two leaves with one hash the earlier one stands at the higher place. -/
theorem place_lt_place (h : ofLeaves? leaves = .ok t) {i j : Nat} (hij : i < j) (hj : j < t.size)
    (hhash : hashAt leaves i = hashAt leaves j) : t.place j < t.place i := by
  have hi : i < t.size := Nat.lt_trans hij hj
  have hcount := t.nodeCount_add_one
  have hranki := idxOf_lt hi
  have hrankj := idxOf_lt hj
  have hiorder : i ∈ t.order := (t.mem_order i).mpr hi
  have hjorder : j ∈ t.order := (t.mem_order j).mpr hj
  suffices hrank : t.order.idxOf i < t.order.idxOf j by
    unfold place
    omega
  apply Nat.lt_of_not_le
  intro hle
  have hne : t.order.idxOf j ≠ t.order.idxOf i := fun heq =>
    absurd ((List.idxOf_inj hjorder).mp heq) (Nat.ne_of_gt hij)
  -- If the later one came first, the sort would not have kept the order of the input.
  have hpair := List.pairwise_iff_getElem.mp (order_pairwise h) _ _
    (List.idxOf_lt_length_of_mem hjorder) (List.idxOf_lt_length_of_mem hiorder)
    (Nat.lt_of_le_of_ne hle hne)
  rw [List.getElem_idxOf, List.getElem_idxOf, hhash] at hpair
  have hback : j ≤ i := hpair.2 hpair.1
  omega

/-! ## Nodes -/

/-- The list of the nodes has each node at its place. -/
theorem nodes_getElem? (t : Tree) (i : Nat) : t.nodes[i]? = t.node? i := by
  unfold nodes node?
  split
  · next hlt =>
    have hin : i < t.upward.toList.length := by simpa [nodeCount] using hlt
    rw [List.getElem?_reverse hin, Array.getElem?_toList]
    rfl
  · next hge =>
    refine List.getElem?_eq_none ?_
    rw [List.length_reverse, Array.length_toList]
    exact Nat.le_of_not_lt hge

theorem nodes_getElem?_eq {i : Nat} (hi : i ≤ 2 * (t.size - 1)) : t.nodes[i]? = some (t.nodeD i) := by
  rw [nodes_getElem?, node?_eq hi]

theorem length_nodes (t : Tree) : t.nodes.length = 2 * t.size - 1 := by
  have hcount := t.nodeCount_add_one
  unfold nodes
  rw [List.length_reverse, Array.length_toList]
  unfold nodeCount at hcount
  omega

/-- **The hashes of the leaves do not ascend from place to place.** -/
theorem nodeD_le (h : ofLeaves? leaves = .ok t) {i j : Nat} (hi : t.size - 1 ≤ i) (hij : i < j)
    (hj : j ≤ 2 * (t.size - 1)) : t.nodeD j ≤ t.nodeD i := by
  have hcount := t.nodeCount_add_one
  have hpos := t.size_pos
  have hgrown := grown_of_ofLeaves? h
  obtain ⟨hleaves, -, -⟩ := ofLeaves?_eq_ok h
  have hlength : t.order.length = t.size := t.length_order
  have hhash : ∀ k, (hk : t.nodeCount - 1 - k < t.order.length) →
      (t.leafAt k).hash = hashAt leaves t.order[t.nodeCount - 1 - k] := by
    intro k hk
    have hrank : t.order.getD (t.nodeCount - 1 - k) 0 = t.order[t.nodeCount - 1 - k] := by
      rw [List.getD_eq_getElem?_getD, List.getElem?_eq_getElem hk, Option.getD_some]
    rw [leafAt, hleaves, hashAt, hrank]
  have hranki : t.nodeCount - 1 - i < t.order.length := by omega
  have hrankj : t.nodeCount - 1 - j < t.order.length := by omega
  rw [hgrown.leaf i hi (by omega), hgrown.leaf j (by omega) hj, hhash i hranki, hhash j hrankj]
  exact (List.pairwise_iff_getElem.mp (order_pairwise h) _ _ hrankj hranki (by omega)).1

/-! ## Places -/

/-- **The leaves stand at the last places, one at each.** -/
theorem map_place_perm (t : Tree) :
    ((List.range t.size).map t.place).Perm (List.range' (t.size - 1) t.size) := by
  have hpos := t.size_pos
  have hnodup : ((List.range t.size).map t.place).Nodup := by
    refine List.pairwise_map.mpr (List.pairwise_lt_range.imp_of_mem fun {i j} hi hj hlt hplace => ?_)
    exact absurd (place_inj (List.mem_range.mp hi) (List.mem_range.mp hj) hplace) (Nat.ne_of_lt hlt)
  refine (hnodup.subperm fun k hk => ?_).perm_of_length_le (by simp)
  obtain ⟨i, hi, rfl⟩ := List.mem_map.mp hk
  have hbounds := place_bounds (List.mem_range.mp hi)
  rw [List.mem_range'_1]
  omega

theorem hash_at_place (h : t.Grown) {i : Nat} {v : Leaf} (hv : t.leaves[i]? = some v) :
    t.nodes[t.place i]? = some v.hash := by
  have hi : i < t.size := (List.getElem?_eq_some_iff.mp hv).1
  obtain ⟨hge, hle⟩ := place_bounds hi
  rw [leaves_getElem?_eq hi] at hv
  rw [nodes_getElem?_eq hle, h.leaf _ hge hle, Option.some.inj hv]

end Tree

/-! ## Snapshots -/

namespace Dump

/-- The leaves that are read from a dump, if each of them can be. -/
def readLeaves? : List DumpedLeaf → Option (List Leaf)
  | [] => some []
  | l :: rest =>
    match Leaf.ofMembers? l.members, readLeaves? rest with
    | some v, some leaves => some (v :: leaves)
    | _, _ => none

theorem readLeaves?_eq_some {dumped : List DumpedLeaf} {leaves : List Leaf}
    (h : dumped.map (fun l => Leaf.ofMembers? l.members) = leaves.map some) :
    readLeaves? dumped = some leaves := by
  induction dumped generalizing leaves with
  | nil =>
    rw [List.map_eq_nil_iff.mp h.symm]
    rfl
  | cons l rest ih =>
    cases leaves with
    | nil => cases h
    | cons v leaves =>
      obtain ⟨hv, hrest⟩ := List.cons.inj h
      simp only [readLeaves?, hv, ih hrest]

/-- The tree over the leaves of a dump. -/
def restore? (d : Dump) : Option Tree :=
  (readLeaves? d.leaves).bind fun leaves => (Tree.ofLeaves? leaves).toOption

/-- What a dump of a tree over some leaves says. -/
structure Snapshot (leaves : List Leaf) (nodes : List Hash) (d : Dump) : Prop where
  length_nodes : d.nodes.length = 2 * leaves.length - 1
  read_nodes : d.nodes.map nodeOfText? = nodes.map .ok
  /-- Each node before the leaves is the pair of its children. -/
  pairs : ∀ i < leaves.length - 1, ∃ left right, nodes[2 * i + 1]? = some left ∧
    nodes[2 * i + 2]? = some right ∧ nodes[i]? = some (pair left right)
  read_leaves : d.leaves.map (fun v => Leaf.ofMembers? v.members) = leaves.map some
  places_perm : (d.leaves.map (·.node)).Perm (List.range' (leaves.length - 1) leaves.length)
  /-- Each leaf has its hash at its place. -/
  hashes : List.Forall₂ (fun v l => nodes[l.node]? = some v.hash) leaves d.leaves
  descending : ∀ i j a b, leaves.length - 1 ≤ i → i < j → nodes[i]? = some a → nodes[j]? = some b →
    b ≤ a
  /-- Of leaves with one hash the earlier one stands higher. -/
  ties : (leaves.zip d.leaves).Pairwise fun x y => x.1.hash = y.1.hash → y.2.node < x.2.node
  restored : d.restore?.map Tree.dump = some d

end Dump

namespace Tree

variable {t : Tree} {leaves : List Leaf}

theorem dump_getElem? (t : Tree) {i : Nat} {v : Leaf} (hv : t.leaves[i]? = some v) :
    t.dump.leaves[i]? = some ⟨v.members, t.place i⟩ := by
  rw [dump, List.getElem?_map, List.getElem?_zipIdx, hv]
  simp

theorem length_dump_leaves (t : Tree) : t.dump.leaves.length = t.leaves.length := by
  simp [dump]

/-- **The leaves are read back from a dump** in the order of the input. -/
theorem map_ofMembers?_dump (t : Tree) :
    t.dump.leaves.map (fun l => Leaf.ofMembers? l.members) = t.leaves.map some := by
  rw [dump, List.map_map]
  conv_rhs => rw [← List.zipIdx_map_fst 0 t.leaves, List.map_map]
  exact List.map_congr_left fun x _ => Leaf.ofMembers?_members x.1

theorem map_node_dump (t : Tree) : t.dump.leaves.map (·.node) = (List.range t.size).map t.place := by
  rw [dump, List.map_map, size, List.range_eq_range', ← List.zipIdx_map_snd 0 t.leaves, List.map_map]
  rfl

/-- **A tree is built again from the leaves of its dump.** -/
theorem restore?_dump (h : ofLeaves? leaves = .ok t) : t.dump.restore? = some t := by
  obtain ⟨hleaves, -, -⟩ := ofLeaves?_eq_ok h
  have hread := Dump.readLeaves?_eq_some t.map_ofMembers?_dump
  rw [Dump.restore?, hread, hleaves, Option.bind_some, h]
  rfl

/-- Every node before the leaves is the pair of its children. -/
theorem Grown.exists_children (h : t.Grown) {i : Nat} (hi : i < t.size - 1) :
    ∃ left right, t.nodes[2 * i + 1]? = some left ∧ t.nodes[2 * i + 2]? = some right ∧
      t.nodes[i]? = some (pair left right) := by
  refine ⟨_, _, nodes_getElem?_eq (by omega), nodes_getElem?_eq (by omega), ?_⟩
  rw [nodes_getElem?_eq (by omega), h.inner i hi]

/-- Every leaf has its hash at its place. -/
theorem Grown.hashes_dump (h : t.Grown) :
    List.Forall₂ (fun v l => t.nodes[l.node]? = some v.hash) t.leaves t.dump.leaves := by
  refine List.forall₂_iff_get.mpr ⟨t.length_dump_leaves.symm, fun i hi hi' => ?_⟩
  have hdumped := t.dump_getElem? (List.getElem?_eq_getElem hi)
  rw [List.getElem?_eq_getElem hi'] at hdumped
  simp only [List.get_eq_getElem, Option.some.inj hdumped]
  exact hash_at_place h (List.getElem?_eq_getElem hi)

theorem descending_nodes (h : ofLeaves? leaves = .ok t) {i j : Nat} {a b : Hash}
    (hi : t.size - 1 ≤ i) (hij : i < j) (ha : t.nodes[i]? = some a) (hb : t.nodes[j]? = some b) :
    b ≤ a := by
  have hpos := t.size_pos
  have hj : j ≤ 2 * (t.size - 1) := by
    have hlt := (List.getElem?_eq_some_iff.mp hb).1
    rw [t.length_nodes] at hlt
    omega
  rw [nodes_getElem?_eq (by omega)] at ha
  rw [nodes_getElem?_eq hj] at hb
  rw [← Option.some.inj ha, ← Option.some.inj hb]
  exact nodeD_le h hi hij hj

/-- Of leaves with one hash the earlier one stands higher in the dump. -/
theorem ties_dump (h : ofLeaves? leaves = .ok t) :
    (leaves.zip t.dump.leaves).Pairwise fun x y => x.1.hash = y.1.hash → y.2.node < x.2.node := by
  obtain ⟨rfl, -, -⟩ := ofLeaves?_eq_ok h
  refine List.pairwise_iff_getElem.mpr fun i j hi hj hij => ?_
  rw [List.length_zip, t.length_dump_leaves, Nat.min_self] at hi hj
  have hdumpedi := t.dump_getElem? (List.getElem?_eq_getElem hi)
  have hdumpedj := t.dump_getElem? (List.getElem?_eq_getElem hj)
  rw [List.getElem?_eq_getElem (by rwa [t.length_dump_leaves])] at hdumpedi hdumpedj
  simp only [List.getElem_zip, Option.some.inj hdumpedi, Option.some.inj hdumpedj]
  intro hhash
  refine place_lt_place h hij hj ?_
  simp only [hashAt, List.getD_eq_getElem?_getD, List.getElem?_eq_getElem hi,
    List.getElem?_eq_getElem hj, Option.getD_some]
  exact hhash

/-- **The dump of a tree is a snapshot of it**, for every list of leaves but the empty one. -/
theorem dump_snapshot (h : leaves ≠ []) :
    ∃ t, ofLeaves? leaves = .ok t ∧ t.dump.Snapshot leaves t.nodes := by
  obtain ⟨t, ht⟩ := exists_ofLeaves? h
  refine ⟨t, ht, ?_⟩
  have hgrown := grown_of_ofLeaves? ht
  have hties := ties_dump ht
  have hrestored := restore?_dump ht
  have hdescending {i j : Nat} {a b : Hash} := descending_nodes (i := i) (j := j) (a := a) (b := b) ht
  obtain ⟨rfl, -, -⟩ := ofLeaves?_eq_ok ht
  refine ⟨?_, ?_, fun i => hgrown.exists_children, t.map_ofMembers?_dump, ?_, hgrown.hashes_dump,
    fun i j a b => hdescending, hties, ?_⟩
  · show (t.nodes.map Hex.ofOctets).length = _
    rw [List.length_map, t.length_nodes]
    rfl
  · show (t.nodes.map Hex.ofOctets).map nodeOfText? = _
    rw [List.map_map]
    exact List.map_congr_left fun node _ => nodeOfText?_ofOctets node
  · rw [t.map_node_dump]
    exact t.map_place_perm
  · rw [hrestored]
    rfl

/-- Two equal leaves, before and after another one. -/
theorem dump_snapshot_equal :
    let leaves : List Leaf := [⟨[0x01], 0⟩, ⟨[], 7⟩, ⟨[0x01], 0⟩]
    leaves ≠ [] ∧ ∃ t, ofLeaves? leaves = .ok t ∧ t.dump.Snapshot leaves t.nodes := by
  intro leaves
  have hne : leaves ≠ [] := List.cons_ne_nil _ _
  exact ⟨hne, dump_snapshot hne⟩

end Tree

end Registrar.Merkle
