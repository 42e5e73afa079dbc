/-!
# Values by key

A list of values by key, in ascending order of the keys, holds one value for each key.
-/

namespace Registrar.Keyed

variable {α : Type}

/-- Puts a value in its place; one with the same key is replaced. -/
def insert (key : String) (a : α) : List (String × α) → List (String × α)
  | [] => [(key, a)]
  | (k, old) :: rest =>
    if key < k then (key, a) :: (k, old) :: rest
    else if key = k then (key, a) :: rest
    else (k, old) :: insert key a rest

end Registrar.Keyed
