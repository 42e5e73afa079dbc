import Registrar.Tape

/-!
# Random strings and shuffles

Whether a string of random bytes can be taken depends on the number of bytes left alone. A shuffle
exchanges elements, so it keeps all of them, and it does not look at them, so the order that comes out
depends on the tape and the number of elements alone. A tape of zeros never runs into the rejected
words, so on a long enough one every shuffle succeeds.

## Contents

- `left_of_octets?` and `exists_octets?_iff`;
- `swap_perm` and `perm_of_shuffle?`;
- `swap_map` and `shuffle?_map`;
- `Tape.zeros`, `below?_zeros` and `exists_shuffle?_zeros`.
-/

namespace Registrar.Tape

variable {α : Type} {xs ys : List α} {t t' : Tape}

/-! ## Random strings -/

section

variable {n : Nat} {a : Octets n} {rest : Tape}

theorem left_of_octets? (h : t.octets? n = some (a, rest)) : rest.left + n = t.left := by
  unfold octets? at h
  split at h
  · next bs after taken =>
    cases h
    exact left_of_take? taken
  · cases h

/-- **A string can be taken just if so many bytes are left.** -/
theorem exists_octets?_iff (hn : 0 < n) :
    (∃ (a : Octets n) (rest : Tape), t.octets? n = some (a, rest)) ↔ n ≤ t.left := by
  constructor
  · rintro ⟨a, rest, h⟩
    have hleft := left_of_octets? h
    omega
  · intro hroom
    have hfits : t.next + n ≤ t.size := by
      unfold left at hroom
      omega
    unfold octets?
    split
    · exact ⟨_, _, rfl⟩
    · next hnone =>
      rw [take?, if_pos hfits] at hnone
      cases hnone

end

/-! ## What a shuffle keeps -/

theorem swap_perm (i j : Nat) (xs : List α) : (swap i j xs).Perm xs := by
  unfold swap
  split
  · next a b ha hb =>
    obtain ⟨hi, rfl⟩ := List.getElem?_eq_some_iff.mp ha
    obtain ⟨hj, rfl⟩ := List.getElem?_eq_some_iff.mp hb
    exact List.set_set_perm hi hj
  · exact List.Perm.refl xs

theorem perm_of_shuffleUpTo? {i : Nat} (h : shuffleUpTo? i xs t = some (ys, t')) : ys.Perm xs := by
  induction i generalizing xs t with
  | zero =>
    cases h
    exact List.Perm.refl _
  | succ i ih =>
    rw [shuffleUpTo?] at h
    split at h
    · cases h
    · exact (ih h).trans (swap_perm _ _ xs)

/-- **A shuffle keeps the elements.** -/
theorem perm_of_shuffle? (h : shuffle? xs t = some (ys, t')) : ys.Perm xs := perm_of_shuffleUpTo? h

/-! ## What a shuffle does not look at -/

theorem swap_map {β : Type} (f : α → β) (i j : Nat) (xs : List α) :
    swap i j (xs.map f) = (swap i j xs).map f := by
  unfold swap
  rw [List.getElem?_map, List.getElem?_map]
  cases xs[i]? with
  | none => rfl
  | some a =>
    cases xs[j]? with
    | none => rfl
    | some b => rw [Option.map_some, Option.map_some, List.map_set, List.map_set]

theorem shuffleUpTo?_map {β : Type} (f : α → β) (i : Nat) (xs : List α) (t : Tape) :
    shuffleUpTo? i (xs.map f) t = (shuffleUpTo? i xs t).map (Prod.map (List.map f) id) := by
  induction i generalizing xs t with
  | zero => rfl
  | succ i ih =>
    rw [shuffleUpTo?, shuffleUpTo?]
    cases t.below? (i + 2) with
    | none => rfl
    | some choice =>
      dsimp only
      rw [swap_map, ih]

/-- **A shuffle does not look at the elements.** -/
theorem shuffle?_map {β : Type} (f : α → β) (xs : List α) (t : Tape) :
    shuffle? (xs.map f) t = (shuffle? xs t).map (Prod.map (List.map f) id) := by
  rw [shuffle?, List.length_map, shuffleUpTo?_map]
  rfl

/-! ## Tapes of zeros -/

/-- A tape of zeros. -/
def zeros (next size : Nat) : Tape := ⟨fun _ => 0, next, size⟩

theorem word32?_zeros {next size : Nat} (h : next + 4 ≤ size) :
    (zeros next size).word32? = some (0, zeros (next + 4) size) := by
  unfold word32? take?
  rw [if_pos (show (zeros next size).next + 4 ≤ (zeros next size).size from h)]
  rfl

theorem below?_zeros {n next size : Nat} (h : next + 4 ≤ size) :
    (zeros next size).below? n = some (0, zeros (next + 4) size) := by
  rw [below?]
  split
  · next hword =>
    rw [word32?_zeros h] at hword
    cases hword
  · next w rest hword =>
    rw [word32?_zeros h] at hword
    cases hword
    simp

theorem exists_shuffleUpTo?_zeros {next size : Nat} (i : Nat) (xs : List α)
    (h : next + 4 * i ≤ size) :
    ∃ ys, shuffleUpTo? i xs (zeros next size) = some (ys, zeros (next + 4 * i) size) := by
  induction i generalizing xs next with
  | zero => exact ⟨xs, rfl⟩
  | succ i ih =>
    obtain ⟨ys, hys⟩ := ih (swap (i + 1) 0 xs) (show next + 4 + 4 * i ≤ size by omega)
    refine ⟨ys, ?_⟩
    rw [shuffleUpTo?, below?_zeros (by omega)]
    rw [show next + 4 * (i + 1) = next + 4 + 4 * i by omega]
    exact hys

/-- On a tape with enough zeros a shuffle succeeds. -/
theorem exists_shuffle?_zeros {next size : Nat} (xs : List α) (h : next + 4 * xs.length ≤ size) :
    ∃ ys used, used ≤ 4 * xs.length ∧
      shuffle? xs (zeros next size) = some (ys, zeros (next + used) size) := by
  obtain ⟨ys, hys⟩ := exists_shuffleUpTo?_zeros (xs.length - 1) xs
    (show next + 4 * (xs.length - 1) ≤ size by omega)
  exact ⟨ys, 4 * (xs.length - 1), by omega, hys⟩

end Registrar.Tape
