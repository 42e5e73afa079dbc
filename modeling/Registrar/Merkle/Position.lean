/-!
# Positions in a tree

The nodes of a tree are numbered from the root, which is 0; the children of node `i` are `2 * i + 1`
and `2 * i + 2`. `ascend` walks a set of nodes up to the root all at once and tells which siblings
it had to be given on the way.
-/

namespace Registrar.Merkle.Position

/-- The other child of the parent of a node other than the root. -/
def sibling (i : Nat) : Nat := if i % 2 = 1 then i + 1 else i - 1

/-- The parent of a node other than the root. -/
def parent (i : Nat) : Nat := (i - 1) / 2

theorem parent_lt {i : Nat} (h : i ≠ 0) : parent i < i := by
  unfold parent; omega

/-- The siblings on the way from a node to the root. -/
def siblings (i : Nat) : List Nat :=
  if i = 0 then [] else sibling i :: siblings (parent i)
termination_by i
decreasing_by exact parent_lt ‹_›

/-- How far a queue of nodes is from the root, all in all. -/
def distance : List Nat → Nat
  | [] => 0
  | i :: queue => i + distance queue

theorem distance_append (p q : List Nat) : distance (p ++ q) = distance p + distance q := by
  induction p with
  | nil => simp [distance]
  | cons i p ih => simp only [List.cons_append, distance, ih]; omega

theorem distance_tail_le (queue : List Nat) : distance queue.tail ≤ distance queue := by
  cases queue with
  | nil => exact Nat.le_refl _
  | cons i queue => exact Nat.le_add_left _ _

/-- The pairs formed on the way up from a queue of nodes: a set flag stands for a pair of two nodes
of the queue, a clear one for a pair with the node beside it. -/
def ascend : List Nat → List (Bool × Nat)
  | [] => []
  | i :: queue =>
    if i = 0 then []
    else if queue.head? = some (sibling i) then
      (true, sibling i) :: ascend (queue.tail ++ [parent i])
    else (false, sibling i) :: ascend (queue ++ [parent i])
termination_by queue => distance queue
decreasing_by
  · have up := parent_lt ‹¬i = 0›
    have less := distance_tail_le queue
    simp only [distance_append, distance]
    omega
  · have up := parent_lt ‹¬i = 0›
    simp only [distance_append, distance]
    omega

/-- The flags of a walk. -/
def flags (walk : List (Bool × Nat)) : List Bool := walk.map (·.1)

/-- The nodes that a walk had to be given. -/
def given (walk : List (Bool × Nat)) : List Nat := (walk.filter (!·.1)).map (·.2)

end Registrar.Merkle.Position
