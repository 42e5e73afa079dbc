import Registrar.Ssz
import Registrar.Proofs.Merkle.Preimage

/-!
# What a chunk holds

A chunk determines the bytes at its front, as far as their number is known, and so the number that it
stands for. `Sha256.pair_inj` takes a pair of chunks apart.
-/

namespace Registrar

namespace Ssz

/-- A chunk starts with the bytes that it is made of. -/
theorem take_chunk {bs : Bytes} (h : bs.length ≤ 32) : (chunk bs).toList.take bs.length = bs := by
  rw [chunk, List.take_take, Nat.min_eq_left h, List.take_left]

/-- **Byte strings of one length that fit a chunk have chunks of their own.** -/
theorem chunk_inj {a b : Bytes} (hlength : a.length = b.length) (ha : a.length ≤ 32)
    (h : chunk a = chunk b) : a = b :=
  calc a = (chunk a).toList.take a.length := (take_chunk ha).symm
    _ = (chunk b).toList.take b.length := by rw [h, hlength]
    _ = b := take_chunk (hlength ▸ ha)

theorem number_injective {a b : UInt64} (h : number a = number b) : a = b := by
  have hbytes : Bytes.littleEndian 8 a.toNat = Bytes.littleEndian 8 b.toNat :=
    chunk_inj (by simp) (by simp) h
  have hnat := congrArg Bytes.natOfLittleEndian hbytes
  rw [Bytes.natOfLittleEndian_littleEndian, Bytes.natOfLittleEndian_littleEndian] at hnat
  have ha := a.toNat_lt
  have hb := b.toNat_lt
  apply UInt64.toNat_inj.mp
  omega

end Ssz

/-- Without a collision a pair of hashes determines both. -/
theorem Sha256.pair_inj {inputs : List Bytes} (hno : ¬ Collides sha256 inputs) {a b c d : Hash}
    (hab : a.toList ++ b.toList ∈ inputs) (hcd : c.toList ++ d.toList ∈ inputs)
    (h : Sha256.pair a b = Sha256.pair c d) : a = c ∧ b = d :=
  Merkle.toList_append_inj (Collides.eq_of_not hno hab hcd h)

end Registrar
