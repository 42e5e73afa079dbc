/-!
# Tables by code point

A table lists runs of consecutive code points with what each of them stands for.
-/

namespace Registrar.Text.Decomposition

/-- Runs of code points: the first one, the last one, and an entry for each. -/
abbrev Table (α : Type) := List (Nat × Nat × List α)

/-- The entry of a code point. -/
def Table.find? {α : Type} (table : Table α) (n : Nat) : Option α :=
  match table with
  | [] => none
  | (first, last, entries) :: rest =>
    if first ≤ n ∧ n ≤ last then entries[n - first]? else Table.find? rest n

end Registrar.Text.Decomposition
