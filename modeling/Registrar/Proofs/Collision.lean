import Registrar.Bytes.Octets

/-!
# Collisions

A statement about hashes holds unless two byte strings that were hashed collide. `Collides` says that
a list of hashed strings has such a pair; without one, equal hashes come from equal strings.
-/

namespace Registrar

/-- Two different strings of a list have the same hash. -/
def Collides (hash : Bytes → Hash) (hashed : List Bytes) : Prop :=
  ∃ x ∈ hashed, ∃ y ∈ hashed, x ≠ y ∧ hash x = hash y

namespace Collides

variable {hash : Bytes → Hash} {hashed : List Bytes}

/-- **Without a collision hashing loses nothing.** -/
theorem eq_of_not (hno : ¬ Collides hash hashed) {x y : Bytes} (hx : x ∈ hashed) (hy : y ∈ hashed)
    (h : hash x = hash y) : x = y := by
  apply Classical.byContradiction
  intro hne
  exact hno ⟨x, hx, y, hy, hne, h⟩

end Collides

end Registrar
