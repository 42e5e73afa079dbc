import Registrar.Merkle.Leaf

/-!
# Checking membership

How a verifier recomputes a root, without the tree.

## Contents

- `pair`: the hash of two nodes, the smaller one first, so that no side needs to be told;
- `climb`: the root above one leaf, given the siblings on the way up;
- `MultiProof.fold`: the root above many leaves, given nodes and flags; `rootOf` puts the two counts
  in front of it that every proof has to meet.
-/

namespace Registrar.Merkle

/-- The hash of two nodes, the smaller one first. -/
def pair (a b : Hash) : Hash :=
  if a ≤ b then keccak256 (a.toList ++ b.toList) else keccak256 (b.toList ++ a.toList)

/-- The root above a node whose siblings, from the bottom up, are given. -/
def climb (node : Hash) (siblings : List Hash) : Hash := siblings.foldl pair node

/-! ## Many leaves at once -/

/-- Why nodes and flags make no proof. -/
inductive ProofFault where
  /-- More flags ask for a proof node than there are proof nodes. -/
  | tooFewNodes
  /-- Leaves and proof nodes are not one more than the flags. -/
  | countMismatch
  /-- A node was asked for where none was left. -/
  | exhausted
  /-- No node was left at the end. -/
  | noRoot
deriving DecidableEq

/-- The wording of a fault. -/
def ProofFault.message : ProofFault → String
  | .tooFewNodes => "not enough proof nodes for the given flags"
  | .countMismatch => "provided leaves and proof do not match flags"
  | .exhausted => "stack exhausted"
  | .noRoot => "no root produced"

/-- Works through the flags with a queue of nodes. A set flag pairs the first two nodes of the
queue, a clear one the first of them with the next proof node; the pair joins the end of the queue.
The last node of the queue is the root. -/
def foldFlags : List Bool → List Hash → List Hash → Except ProofFault Hash
  | [], queue, proof =>
    match queue.getLast?.or proof.head? with
    | some root => .ok root
    | none => .error .noRoot
  | true :: flags, a :: b :: queue, proof => foldFlags flags (queue ++ [pair a b]) proof
  | false :: flags, a :: queue, b :: proof => foldFlags flags (queue ++ [pair a b]) proof
  | _ :: _, _, _ => .error .exhausted

/-- The root above the leaves, recomputed from proof nodes and flags. -/
def rootOf (leaves proof : List Hash) (flags : List Bool) : Except ProofFault Hash :=
  if proof.length < flags.count false then .error .tooFewNodes
  else if leaves.length + proof.length ≠ flags.length + 1 then .error .countMismatch
  else foldFlags flags leaves proof

/-- A proof for many values: the values themselves in proof order with their positions in the input,
the proof nodes, and a flag for each pair that is formed. -/
structure MultiProof where
  leaves : List Leaf
  indices : List Nat
  proof : List Hash
  flags : List Bool
deriving DecidableEq

/-- The root that a proof leads to. -/
def MultiProof.root (p : MultiProof) : Except ProofFault Hash :=
  rootOf (p.leaves.map Leaf.hash) p.proof p.flags

end Registrar.Merkle
