import Registrar.Bytes.Lemmas
import Registrar.Merkle.Proof
import Registrar.Proofs.Collision

/-!
# What is hashed

The byte strings behind leaf hashes and behind pairs of nodes. A leaf is hashed through a string of
its encoding's length and one of 32 bytes, a pair through one of 64 bytes, so that the two are never
the same string.

## Contents

- `Leaf.encode_injective`: the encoding determines the leaf;
- `Leaf.hashed`, `Leaf.eq_of_hash_eq`;
- `pairInput` and `eq_or_swap_of_pairInput_eq`: a pair determines its two nodes up to their order;
- `leaf_hash_ne_pair`.
-/

namespace Registrar

namespace Bytes

theorem bigEndian_inj {n j k : Nat} (h : bigEndian n j = bigEndian n k) :
    j % 256 ^ n = k % 256 ^ n := by
  rw [← toNat_bigEndian, ← toNat_bigEndian, h]

end Bytes

namespace Merkle

/-! ## Leaves -/

namespace Leaf

theorem length_word (n : Nat) : (word n).length = 32 := by simp [word]

/-- Byte strings padded to whole words are equal if their padded forms and the words that hold their
    lengths are. The padded form bounds the difference of the lengths by a word. -/
theorem data_eq_of_padded {a b : Bytes} (hlen : word a.length = word b.length)
    (h : a ++ fill a.length = b ++ fill b.length) : a = b := by
  have hmod : a.length % 256 ^ 32 = b.length % 256 ^ 32 := Bytes.bigEndian_inj hlen
  have htotal := congrArg List.length h
  simp only [List.length_append, fill, List.length_replicate] at htotal
  have heq : a.length = b.length := by omega
  exact (List.append_inj h heq).1

/-- **The encoding determines the leaf.** -/
theorem encode_injective {v w : Leaf} (h : v.encode = w.encode) : v = w := by
  simp only [encode, List.append_assoc] at h
  have hoffset := (List.append_inj h (by simp only [length_word])).2
  have hindex := List.append_inj hoffset (by simp only [length_word])
  have hlength := List.append_inj hindex.2 (by simp only [length_word])
  have hdata : v.data = w.data := data_eq_of_padded hlength.1 hlength.2
  have hnumber : v.index = w.index := by
    have hmod := Bytes.bigEndian_inj hindex.1
    have hv := v.index.isLt
    have hw := w.index.isLt
    apply BitVec.eq_of_toNat_eq
    omega
  cases v; cases w
  simp_all

/-- The byte strings that are hashed for a leaf. -/
def hashed (v : Leaf) : List Bytes := [v.encode, (keccak256 v.encode).toList]

/-- A leaf whose two hashes differ has no collision of its own. -/
theorem not_collides_hashed {v : Leaf} (h : v.hash ≠ keccak256 v.encode) :
    ¬ Collides keccak256 v.hashed := by
  rintro ⟨x, hx, y, hy, hne, heq⟩
  simp only [hashed, List.mem_cons, List.not_mem_nil, or_false] at hx hy
  rcases hx with rfl | rfl <;> rcases hy with rfl | rfl
  · exact hne rfl
  · exact h heq.symm
  · exact h heq
  · exact hne rfl

/-- **Without a collision the hash determines the leaf.** -/
theorem eq_of_hash_eq {inputs : List Bytes} (hno : ¬ Collides keccak256 inputs) {v w : Leaf}
    (hv : v.hashed ⊆ inputs) (hw : w.hashed ⊆ inputs) (h : v.hash = w.hash) : v = w := by
  have hinner := Collides.eq_of_not hno (hv (by simp [hashed])) (hw (by simp [hashed])) h
  have houter := Collides.eq_of_not hno (hv (by simp [hashed])) (hw (by simp [hashed]))
    (Octets.ext hinner)
  exact encode_injective houter

end Leaf

/-! ## Pairs -/

/-- The byte string that is hashed for a pair. -/
def pairInput (a b : Hash) : Bytes := if a ≤ b then a.toList ++ b.toList else b.toList ++ a.toList

theorem pair_eq (a b : Hash) : pair a b = keccak256 (pairInput a b) := by
  unfold pair pairInput
  split <;> rfl

theorem length_pairInput (a b : Hash) : (pairInput a b).length = 64 := by
  unfold pairInput
  split <;> simp [Octets.length_toList]

/-- Hashes put in a row can be told apart. -/
theorem toList_append_inj {a b c d : Hash} (h : a.toList ++ b.toList = c.toList ++ d.toList) :
    a = c ∧ b = d := by
  have hparts := List.append_inj h (by rw [a.length_toList, c.length_toList])
  exact ⟨Octets.ext hparts.1, Octets.ext hparts.2⟩

/-- **A pair determines its two nodes up to their order.** -/
theorem eq_or_swap_of_pairInput_eq {a b c d : Hash} (h : pairInput a b = pairInput c d) :
    (a = c ∧ b = d) ∨ (a = d ∧ b = c) := by
  unfold pairInput at h
  split at h <;> split at h
  · exact .inl (toList_append_inj h)
  · exact .inr (toList_append_inj h)
  · exact .inr (toList_append_inj h).symm
  · exact .inl (toList_append_inj h).symm

/-- **No leaf has the hash of a pair**, unless there is a collision: what is hashed last has 32 bytes
    for a leaf and 64 for a pair. -/
theorem leaf_hash_ne_pair {inputs : List Bytes} (hno : ¬ Collides keccak256 inputs) {v : Leaf}
    {a b : Hash} (hv : v.hashed ⊆ inputs) (hab : pairInput a b ∈ inputs) : v.hash ≠ pair a b := by
  intro h
  rw [pair_eq] at h
  have heq := Collides.eq_of_not hno (hv (by simp [Leaf.hashed])) hab h
  have hlen := congrArg List.length heq
  rw [length_pairInput, Octets.length_toList] at hlen
  omega

end Merkle

end Registrar
