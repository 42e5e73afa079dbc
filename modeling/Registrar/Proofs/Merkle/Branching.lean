import Mathlib.Data.List.Perm.Subperm
import Registrar.Proofs.Merkle.Preimage

/-!
# Binary trees of hashes

What a root was computed from, as a tree: a `Tip` is a leaf that is known, or a node of which only the
hash is. The tree that was built has leaves at all its tips; what a proof claims has the proof's nodes
at some of them, and any shape at all.

## Contents

- `Branching` with `tips` and `map`;
- `Tip`, and for a branching of them `root`, `hashed` (the byte strings hashed for the root) and
  `values` (the leaves at its tips);
- `values_subperm_of_root_eq`: what is claimed under the root of a tree is in the tree.
-/

namespace Registrar.Merkle

/-- A binary tree with something at every tip. -/
inductive Branching (α : Type) where
  | tip (a : α)
  | fork (left right : Branching α)

namespace Branching

variable {α β : Type}

/-- What is at the tips, from left to right. -/
def tips : Branching α → List α
  | tip a => [a]
  | fork l r => l.tips ++ r.tips

/-- The same shape with other things at the tips. -/
def map (f : α → β) : Branching α → Branching β
  | tip a => tip (f a)
  | fork l r => fork (l.map f) (r.map f)

@[simp] theorem tips_map (f : α → β) (x : Branching α) : (x.map f).tips = x.tips.map f := by
  induction x with
  | tip a => rfl
  | fork l r ihl ihr => simp [map, tips, ihl, ihr]

end Branching

/-! ## Tips -/

/-- A leaf, or the hash of a node that stands for all that is below it. -/
inductive Tip where
  | value (v : Leaf)
  | node (h : Hash)
deriving DecidableEq

namespace Tip

/-- The hash of the leaf or node. -/
def hash : Tip → Hash
  | value v => v.hash
  | node h => h

/-- The leaf, if it is one. -/
def value? : Tip → Option Leaf
  | value v => some v
  | node _ => none

/-- The byte strings that are hashed for a leaf; nothing is for a node. -/
def hashed : Tip → List Bytes
  | value v => v.hashed
  | node _ => []

theorem filterMap_value?_map_value {α : Type} (f : α → Leaf) (xs : List α) :
    (xs.map fun a => value (f a)).filterMap value? = xs.map f := by
  simp [List.filterMap_map, Function.comp_def, value?]

theorem filterMap_value?_map_node (hs : List Hash) : (hs.map node).filterMap value? = [] := by
  simp [List.filterMap_map, Function.comp_def, value?]

end Tip

/-! ## Roots -/

namespace Branching

/-- The hash at the root. -/
def root : Branching Tip → Hash
  | tip a => a.hash
  | fork l r => pair l.root r.root

/-- The byte strings that are hashed for the root. -/
def hashed : Branching Tip → List Bytes
  | tip a => a.hashed
  | fork l r => pairInput l.root r.root :: (l.hashed ++ r.hashed)

/-- The leaves at the tips. -/
def values (x : Branching Tip) : List Leaf := x.tips.filterMap Tip.value?

@[simp] theorem values_fork (l r : Branching Tip) :
    (fork l r).values = l.values ++ r.values := by
  simp [values, tips]

/-- All tips are leaves. -/
def Known : Branching Tip → Prop
  | tip (.value _) => True
  | tip (.node _) => False
  | fork l r => l.Known ∧ r.Known

theorem known_map_value {α : Type} (x : Branching α) (f : α → Leaf) :
    (x.map fun a => Tip.value (f a)).Known := by
  induction x with
  | tip a => exact trivial
  | fork l r ihl ihr => exact ⟨ihl, ihr⟩

/-- **What is claimed under the root of a tree is in the tree**, each leaf at most as often as it is
    there, unless there is a collision. The claimed tree is walked down beside the tree: where one has
    a leaf the other cannot have a pair, and the two nodes of a pair are those of the other one in one
    of the two orders. -/
theorem values_subperm_of_root_eq {inputs : List Bytes} (hno : ¬ Collides keccak256 inputs)
    {x y : Branching Tip} (hknown : y.Known) (hx : x.hashed ⊆ inputs) (hy : y.hashed ⊆ inputs)
    (h : x.root = y.root) : x.values.Subperm y.values := by
  induction x generalizing y with
  | tip a =>
    cases a with
    | node g =>
      -- Nothing is claimed below a node of the proof.
      exact List.nil_subperm
    | value v =>
      cases y with
      | tip b =>
        cases b with
        | node g => exact absurd hknown (by simp [Known])
        | value w =>
          have heq : v = w := Leaf.eq_of_hash_eq hno hx hy h
          rw [heq]
      | fork l r => exact absurd h (leaf_hash_ne_pair hno hx (hy List.mem_cons_self))
  | fork l r ihl ihr =>
    have hpair := hx List.mem_cons_self
    have hl : l.hashed ⊆ inputs := fun b hb => hx (by simp [hashed, hb])
    have hr : r.hashed ⊆ inputs := fun b hb => hx (by simp [hashed, hb])
    cases y with
    | tip b =>
      cases b with
      | node g => exact absurd hknown (by simp [Known])
      | value w => exact absurd h.symm (leaf_hash_ne_pair hno hy hpair)
    | fork l' r' =>
      have hl' : l'.hashed ⊆ inputs := fun b hb => hy (by simp [hashed, hb])
      have hr' : r'.hashed ⊆ inputs := fun b hb => hy (by simp [hashed, hb])
      have hsame : pairInput l.root r.root = pairInput l'.root r'.root := by
        refine Collides.eq_of_not hno hpair (hy List.mem_cons_self) ?_
        rw [← pair_eq, ← pair_eq]
        exact h
      rw [values_fork, values_fork]
      -- The pair does not say which node was left.
      rcases eq_or_swap_of_pairInput_eq hsame with ⟨hleft, hright⟩ | ⟨hleft, hright⟩
      · exact (ihl hknown.1 hl hl' hleft).append (ihr hknown.2 hr hr' hright)
      · have hswapped := (ihl hknown.2 hl hr' hleft).append (ihr hknown.1 hr hl' hright)
        exact hswapped.trans List.perm_append_comm.subperm

end Branching

end Registrar.Merkle
