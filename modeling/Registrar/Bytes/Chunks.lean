import Registrar.Bytes.Octets

/-!
# Byte strings cut into pieces

`chunksOf n bs` cuts a byte string into pieces of `n + 1` bytes, the last of which may be shorter;
`flatten_chunksOf` says that the pieces put together are the string again. `xor` combines two byte
strings position by position.
-/

namespace Registrar.Bytes

/-- At most `k` pieces of `n + 1` elements. -/
def chunksUpTo {α : Type} (n : Nat) : Nat → List α → List (List α)
  | 0, _ => []
  | _ + 1, [] => []
  | k + 1, b :: bs => (b :: bs.take n) :: chunksUpTo n k (bs.drop n)

/-- The pieces of `n + 1` elements of a list, the last of which may be shorter. -/
def chunksOf {α : Type} (n : Nat) (bs : List α) : List (List α) := chunksUpTo n bs.length bs

theorem flatten_chunksUpTo {α : Type} (n k : Nat) (bs : List α) (h : bs.length ≤ k) :
    (chunksUpTo n k bs).flatten = bs := by
  fun_induction chunksUpTo n k bs with
  | case1 bs => simp at h; simp [h]
  | case2 => rfl
  | case3 k b bs ih =>
    have rest := ih (by simp at *; omega)
    simp [rest]

/-- The pieces put together are the whole. -/
theorem flatten_chunksOf {α : Type} (n : Nat) (bs : List α) : (chunksOf n bs).flatten = bs :=
  flatten_chunksUpTo n bs.length bs (Nat.le_refl _)

/-- The exclusive or of two byte strings, as long as the shorter one. -/
def xor (a b : Bytes) : Bytes := a.zipWith (· ^^^ ·) b

theorem length_xor (a b : Bytes) : (xor a b).length = min a.length b.length := by
  simp [xor]

/-- Combining twice with the same string gives the first one back. -/
theorem xor_xor {a b : Bytes} (h : a.length ≤ b.length) : xor (xor a b) b = a := by
  induction a generalizing b with
  | nil => rfl
  | cons x a ih =>
    cases b with
    | nil => simp at h
    | cons y b =>
      have rest := ih (b := b) (by simpa using h)
      simp only [xor] at rest
      simp only [xor, List.zipWith_cons_cons, rest, UInt8.xor_assoc, UInt8.xor_self, UInt8.xor_zero]

end Registrar.Bytes
