import Registrar.Proofs.Curve.Group

/-!
# Multiples of one point

A group of prime order consists of the multiples of any of its points. So the scalars are such a
group: each stands for that multiple of the point of one message. A table says how some of the
multiples are written; the others are written as numbers.

## Contents

- `Listing`, the table, and `Listing.Faithful`;
- `Multiples`, the scalars as a signature scheme, with `Multiples.laws`.
-/

namespace Registrar

/-- How some multiples of a point are written, and some public keys. -/
structure Listing where
  signatures : List (Scalar × Octets 96)
  publicKeys : List (Scalar × Octets 48)

/-- No two multiples are written alike, and none as a number below the group order. -/
structure Listing.Faithful (l : Listing) : Prop where
  nodup : (l.signatures.map (·.2)).Nodup
  large : ∀ x ∈ l.signatures, groupOrder ≤ x.2.toNat

/-- The scalars, each for that multiple of the point of a message. -/
def Multiples (_l : Listing) : Type := Scalar

namespace Multiples

variable {l : Listing}

/-- A multiple as it is listed, or as a number. -/
def write (l : Listing) (s : Scalar) : Octets 96 :=
  match l.signatures.find? (·.1 = s) with
  | some x => x.2
  | none => Octets.ofNat 96 s.val

/-- The multiple that is written so. -/
def read? (l : Listing) (bs : Octets 96) : Option Scalar :=
  match l.signatures.find? (·.2 = bs) with
  | some x => some x.1
  | none => if bs.toNat < groupOrder then some (Scalar.ofNat bs.toNat) else none

instance : SignatureScheme (Multiples l) where
  zero := (0 : Scalar)
  add := fun (p q : Scalar) => p + q
  multiple := fun (s p : Scalar) => s * p
  decode? := read? l
  encode := write l
  pointOf _ := (1 : Scalar)
  publicKey s :=
    match l.publicKeys.find? (·.1 = s) with
    | some x => x.2
    | none => Octets.ofNat 48 s.val

theorem toNat_ofNat (s : Scalar) : (Octets.ofNat 96 s.val).toNat = s.val := by
  have hlt : s.val < 256 ^ 96 := s.isLt.trans (by norm_num [groupOrder])
  exact (Bytes.toNat_bigEndian 96 s.val).trans (Nat.mod_eq_of_lt hlt)

theorem read?_write (hl : l.Faithful) (s : Scalar) : read? l (write l s) = some s := by
  unfold write
  split
  · next x hx =>
    have hin := List.mem_of_find?_eq_some hx
    have hscalar : x.1 = s := by simpa using List.find?_some hx
    unfold read?
    split
    · next y hy =>
      have hsame : y.2 = x.2 := by simpa using List.find?_some hy
      rw [List.inj_on_of_nodup_map hl.nodup (List.mem_of_find?_eq_some hy) hin hsame, hscalar]
    · next hnone =>
      exact absurd (List.find?_eq_none.mp hnone x hin) (by simp)
  · -- A number below the group order is not in the table.
    have hnone : l.signatures.find? (·.2 = Octets.ofNat 96 s.val) = none := by
      refine List.find?_eq_none.mpr fun x hx hsame => ?_
      have hlarge := hl.large x hx
      rw [of_decide_eq_true hsame, toNat_ofNat] at hlarge
      exact absurd s.isLt (Nat.not_lt.mpr hlarge)
    unfold read?
    rw [hnone, toNat_ofNat, if_pos s.isLt]
    exact congrArg some (Fin.ext (Nat.mod_eq_of_lt s.isLt))

theorem toField_iterate (p : Scalar) (n : Nat) :
    ((fun q => p + q)^[n] 0).toField = n * p.toField := by
  induction n with
  | zero => simp
  | succ n ih =>
    rw [Function.iterate_succ_apply', Scalar.toField_add, ih, Nat.cast_succ]
    ring

/-- **The multiples of a point are a group of prime order.** -/
theorem laws (hl : l.Faithful) : SignatureScheme.Laws (Multiples l) where
  add_assoc := fun (p q r : Scalar) => Scalar.toField_injective (by
    show (p + q + r).toField = (p + (q + r)).toField
    simp only [Scalar.toField_add, add_assoc])
  zero_add := fun (p : Scalar) => Scalar.toField_injective (by
    show (0 + p).toField = p.toField
    rw [Scalar.toField_add, Scalar.toField_zero, zero_add])
  exists_neg := fun (p : Scalar) => ⟨(0 - p : Scalar), Scalar.toField_injective (by
    show (0 - p + p).toField = (0 : Scalar).toField
    rw [Scalar.toField_add, Scalar.toField_sub, sub_add_cancel])⟩
  card_eq := Nat.card_fin groupOrder
  multiple_eq := fun (s p : Scalar) => Scalar.toField_injective (by
    show (s * p).toField = ((fun q => p + q)^[s.val] 0).toField
    rw [Scalar.toField_mul, toField_iterate, Scalar.toField])
  decode?_encode p := read?_write hl p

end Multiples

end Registrar
