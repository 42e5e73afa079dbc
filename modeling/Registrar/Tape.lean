import Registrar.Bytes.Octets

/-!
# Tapes of random bytes

A tape is a finite stream of bytes and a position on it. Every random choice takes the next bytes of
a tape and hands on the rest; at the end of the tape there is no choice. So the same tape always
leads to the same choices.

## Contents

- `Tape.take?`, which takes bytes; `Tape.word32?`;
- `Tape.below?`, an even choice among the first few numbers, and `Tape.shuffle?`.
-/

namespace Registrar

/-- Random bytes: `size` of them, the first `next` of which are used up. -/
structure Tape where
  byte : Nat → UInt8
  next : Nat
  size : Nat

namespace Tape

/-- The next `n` bytes. -/
def take? (n : Nat) (t : Tape) : Option (Bytes × Tape) :=
  if t.next + n ≤ t.size then
    some ((List.range n).map fun i => t.byte (t.next + i), { t with next := t.next + n })
  else none

theorem length_of_take? {n : Nat} {t rest : Tape} {bs : Bytes} (h : t.take? n = some (bs, rest)) :
    bs.length = n := by
  unfold take? at h
  split at h
  · cases h; simp
  · cases h

/-- The next `n` bytes as a string of that length. -/
def octets? (n : Nat) (t : Tape) : Option (Octets n × Tape) :=
  match h : t.take? n with
  | some (bs, rest) => some (⟨bs, length_of_take? h⟩, rest)
  | none => none

/-- The next four bytes as a number, low byte first. -/
def word32? (t : Tape) : Option (Nat × Tape) :=
  (t.take? 4).map fun (bs, rest) => (Bytes.natOfLittleEndian bs, rest)

/-- The number of bytes left. -/
def left (t : Tape) : Nat := t.size - t.next

theorem left_of_take? {n : Nat} {t rest : Tape} {bs : Bytes} (h : t.take? n = some (bs, rest)) :
    rest.left + n = t.left := by
  unfold take? at h
  split at h
  · cases h; simp only [left]; omega
  · cases h

theorem left_of_word32? {t rest : Tape} {w : Nat} (h : t.word32? = some (w, rest)) :
    rest.left + 4 = t.left := by
  unfold word32? at h
  cases taken : t.take? 4 with
  | none => simp [taken] at h
  | some pair =>
    obtain ⟨bs, after⟩ := pair
    simp only [taken, Option.map_some, Option.some.injEq, Prod.mk.injEq] at h
    obtain ⟨_, rfl⟩ := h
    exact left_of_take? taken

/-- The largest remainder, modulo `2 ^ 32`, at which a product with `n` is accepted: the highest
multiple of `n` by a power of two that fits, less one. -/
def zone (n : Nat) : Nat := n <<< (31 - Nat.log2 n) - 1

/-- An even choice among the numbers below `n`. A word is multiplied by `n`, and the high half of
the product is the choice, unless the low half is above the zone; then the next word is tried. -/
def below? (n : Nat) (t : Tape) : Option (Nat × Tape) :=
  match _h : t.word32? with
  | none => none
  | some (w, rest) =>
    if w * n % UInt32.size ≤ zone n then some (w * n / UInt32.size, rest) else below? n rest
termination_by t.left
decreasing_by have := left_of_word32? _h; omega

/-- A list with two of its elements exchanged. -/
def swap {α : Type} (i j : Nat) (xs : List α) : List α :=
  match xs[i]?, xs[j]? with
  | some a, some b => (xs.set i b).set j a
  | _, _ => xs

/-- Exchanges each of the elements up to `i`, the last one first, with one chosen before it or with
itself. -/
def shuffleUpTo? {α : Type} : (i : Nat) → List α → Tape → Option (List α × Tape)
  | 0, xs, t => some (xs, t)
  | i + 1, xs, t =>
    match t.below? (i + 2) with
    | none => none
    | some (j, t) => shuffleUpTo? i (swap (i + 1) j xs) t

/-- A list in random order. -/
def shuffle? {α : Type} (xs : List α) (t : Tape) : Option (List α × Tape) :=
  shuffleUpTo? (xs.length - 1) xs t

end Tape

end Registrar
