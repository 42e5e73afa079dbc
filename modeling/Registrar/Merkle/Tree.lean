import Registrar.Merkle.Position
import Registrar.Merkle.Proof

/-!
# Trees

A tree is built once from a non-empty list of leaves. The hashes of the leaves, in ascending order,
fill the node list from its end; each node before them is the pair of its two children, so that node
0 is the root. Leaves keep their position in the input as their index.

## Contents

- `Tree.ofLeaves?`, `Tree.root`, `Tree.size`, `Tree.node`;
- `Tree.proof?` and `Tree.multiProof`, the proofs of one and of many leaves, with `Tree.lookUp`, the way
  back from places to leaves;
- `Tree.verify` and `Tree.verifyMulti`, the checks against the root.
-/

namespace Registrar.Merkle

/-- Why a request to a tree fails. -/
inductive TreeFault where
  /-- There is no tree without leaves. -/
  | noLeaves
  /-- There is no leaf with this index. -/
  | outOfBounds (index : Nat)
  /-- A leaf was asked for twice. -/
  | duplicated (index : Nat)
  /-- Nodes and flags make no proof. -/
  | badProof (fault : ProofFault)
deriving DecidableEq

/-- The wording of a fault. -/
def TreeFault.message : TreeFault → String
  | .noLeaves => "Expected non-zero number of leaves"
  | .outOfBounds index => "Value index out of bounds: " ++ toString index
  | .duplicated index => "Cannot prove duplicated index: " ++ toString index
  | .badProof fault => "Invalid multiproof: " ++ fault.message

/-- A place at which no leaf stands. -/
structure LeafNotFound where
  place : Nat
deriving DecidableEq

/-- The wording of the fault. -/
def LeafNotFound.message (fault : LeafNotFound) : String :=
  "Leaf not found: " ++ toString fault.place

/-- A tree. `order` lists the leaves' indices by ascending hash; `upward` lists the nodes from the
last one to the root, so that its first part holds the leaves' hashes. -/
structure Tree where
  leaves : List Leaf
  order : List Nat
  upward : Array Hash
  nonempty : leaves ≠ []
  length_order : order.length = leaves.length
  mem_order : ∀ i, i ∈ order ↔ i < leaves.length
  size_upward : upward.size + 1 = 2 * leaves.length

namespace Tree

/-! ## Building -/

/-- Leaf hashes are compared as byte strings; of equal ones the earlier leaf comes first. -/
def ranked (leaves : List Leaf) : List (Hash × Nat) :=
  (leaves.zipIdx.map fun (v, i) => (v.hash, i)).mergeSort fun a b => decide (a.1 ≤ b.1)

/-- Appends `count` pairs, the first of which is formed from the two nodes after the first `done`
pairs of nodes. A node that is missing is never read, as `size_grow` and its use show. -/
def grow : (count done : Nat) → (nodes : Array Hash) → Array Hash
  | 0, _, nodes => nodes
  | count + 1, done, nodes =>
    grow count (done + 1)
      (nodes.push (pair (nodes.getD (2 * done + 1) default) (nodes.getD (2 * done) default)))

theorem size_grow (count done : Nat) (nodes : Array Hash) :
    (grow count done nodes).size = nodes.size + count := by
  induction count generalizing done nodes with
  | zero => rfl
  | succ count ih => rw [grow, ih]; simp; omega

@[simp] theorem length_ranked (leaves : List Leaf) : (ranked leaves).length = leaves.length := by
  simp [ranked]

theorem mem_ranked_snd (leaves : List Leaf) (i : Nat) :
    i ∈ (ranked leaves).map (·.2) ↔ i < leaves.length := by
  simp only [ranked, List.mem_map, List.mem_mergeSort]
  constructor
  · rintro ⟨_, ⟨⟨v, j⟩, member, rfl⟩, rfl⟩
    exact (List.mem_zipIdx' member).1
  · intro h
    have member : (leaves[i], i) ∈ leaves.zipIdx := by simp [List.mem_zipIdx_iff_getElem?, h]
    exact ⟨(leaves[i].hash, i), ⟨(leaves[i], i), member, rfl⟩, rfl⟩

/-- The tree over a list of leaves, unless the list is empty. -/
def ofLeaves? (leaves : List Leaf) : Except TreeFault Tree :=
  if h : leaves = [] then .error .noLeaves
  else .ok {
    leaves
    order := (ranked leaves).map (·.2)
    upward := grow (leaves.length - 1) 0 ((ranked leaves).map (·.1)).toArray
    nonempty := h
    length_order := by simp
    mem_order := mem_ranked_snd leaves
    size_upward := by
      have := List.length_pos_iff.2 h
      simp [size_grow]; omega }

/-! ## Reading -/

variable (t : Tree)

/-- The number of leaves. -/
def size : Nat := t.leaves.length

theorem size_pos : 0 < t.size := List.length_pos_iff.2 t.nonempty

/-- The number of nodes. -/
def nodeCount : Nat := t.upward.size

theorem nodeCount_add_one : t.nodeCount + 1 = 2 * t.size := t.size_upward

/-- Node `i`, counted from the root. -/
def node? (i : Nat) : Option Hash :=
  if i < t.nodeCount then t.upward[t.nodeCount - 1 - i]? else none

/-- All nodes from the root on. -/
def nodes : List Hash := t.upward.toList.reverse

/-- The root. -/
def root : Hash :=
  have last : t.upward.size - 1 < t.upward.size := by
    have := t.size_pos
    have := t.nodeCount_add_one
    unfold nodeCount at *
    omega
  t.upward[t.upward.size - 1]

/-- The node that holds the hash of leaf `i`. -/
def place (i : Nat) : Nat := t.nodeCount - 1 - t.order.idxOf i

/-! ## Proving -/

/-- The nodes at given places; a place without a node is left out. -/
def nodesAt (places : List Nat) : List Hash := places.filterMap t.node?

/-- The siblings on the way from leaf `i` to the root. -/
def proof? (i : Nat) : Except TreeFault (List Hash) :=
  if i < t.size then .ok (t.nodesAt (Position.siblings (t.place i))) else .error (.outOfBounds i)

/-- The first element of a list that is followed by an equal one. -/
def firstRepeated : List Nat → Option Nat
  | [] => none
  | [_] => none
  | a :: b :: rest => if a = b then some a else firstRepeated (b :: rest)

/-- The places of leaves, in descending order. -/
def places (indices : List Nat) : List Nat :=
  (indices.map t.place).mergeSort fun p q => decide (q ≤ p)

/-- The index of the leaf that stands at a place, looked up among all leaves. -/
def indexAt? (place : Nat) : Option Nat :=
  (List.range t.size).find? fun i => t.place i = place

/-- The indices of the leaves that stand at these places. -/
def lookUp : List Nat → Except LeafNotFound (List Nat)
  | [] => .ok []
  | place :: rest =>
    match t.indexAt? place with
    | none => .error ⟨place⟩
    | some i =>
      match lookUp rest with
      | .error fault => .error fault
      | .ok found => .ok (i :: found)

theorem exists_lookUp {places : List Nat} (h : ∀ place ∈ places, ∃ i < t.size, t.place i = place) :
    ∃ found, t.lookUp places = .ok found := by
  induction places with
  | nil => exact ⟨[], rfl⟩
  | cons place rest ih =>
    obtain ⟨⟨i, hi, hplace⟩, hrest⟩ := List.forall_mem_cons.mp h
    obtain ⟨found, hfound⟩ := ih hrest
    cases hindex : t.indexAt? place with
    | none =>
      have hnone := List.find?_eq_none.mp hindex i (List.mem_range.mpr hi)
      exact absurd (decide_eq_true hplace) hnone
    | some j => exact ⟨j :: found, by simp only [lookUp, hindex, hfound]⟩

/-- **Every leaf is found again** at its place. -/
theorem lookUp_places_ne_error {indices : List Nat} (h : indices.find? (t.size ≤ ·) = none)
    (fault : LeafNotFound) : t.lookUp (t.places indices) ≠ .error fault := by
  have hplaces : ∀ place ∈ t.places indices, ∃ i < t.size, t.place i = place := by
    intro place hplace
    obtain ⟨i, hi, rfl⟩ := List.mem_map.mp (List.mem_mergeSort.mp hplace)
    have hlt := List.find?_eq_none.mp h i hi
    exact ⟨i, by simpa using hlt, rfl⟩
  obtain ⟨found, hfound⟩ := t.exists_lookUp hplaces
  simp [hfound]

/-- The proof for a set of leaves, by descending place. -/
def multiProof (indices : List Nat) : Except TreeFault MultiProof :=
  match hbounds : indices.find? (t.size ≤ ·) with
  | some i => .error (.outOfBounds i)
  | none =>
    match firstRepeated (t.places indices) with
    | some place => .error (.duplicated ((t.indexAt? place).getD place))
    | none =>
      let walk := Position.ascend (t.places indices)
      match hfound : t.lookUp (t.places indices) with
      -- The places are those of leaves, so this fault does not occur.
      | .error fault => absurd hfound (t.lookUp_places_ne_error hbounds fault)
      | .ok found => .ok {
          leaves := found.filterMap (t.leaves[·]?)
          indices := found
          proof := if indices = [] then [t.root] else t.nodesAt (Position.given walk)
          flags := Position.flags walk }

/-! ## Checking -/

/-- Whether the siblings lead from the leaf to this tree's root. -/
def verify (v : Leaf) (siblings : List Hash) : Bool := climb v.hash siblings = t.root

/-- Whether the proof leads to this tree's root. -/
def verifyMulti (p : MultiProof) : Except TreeFault Bool :=
  match p.root with
  | .ok root => .ok (root = t.root)
  | .error fault => .error (.badProof fault)

end Tree

end Registrar.Merkle
