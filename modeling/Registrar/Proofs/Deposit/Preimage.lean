import Registrar.Deposit.Validator
import Registrar.Proofs.Ssz.Chunk

/-!
# What a deposit root is hashed from

The root of a deposit is a small tree of hashes over the key, the credentials, the amount and the
signature.

## Contents

- `withdrawalCredentials_injective`;
- `depositHashed`, the byte strings hashed for a deposit root;
- `depositRoot_inj`: a deposit root determines credentials and amount.
-/

namespace Registrar

namespace Deposit

theorem withdrawalCredentials_injective {v w : Address}
    (h : withdrawalCredentials v = withdrawalCredentials w) : v = w := by
  have hlist := congrArg Octets.toList h
  simp only [withdrawalCredentials, List.cons.injEq, true_and, List.append_cancel_left_eq] at hlist
  exact Octets.ext hlist

/-! ## Roots -/

/-- Bytes of a key or signature from a place on, as a chunk. -/
def chunkAt (place : Nat) (bs : Bytes) : Hash := Ssz.chunk ((bs.drop place).take 32)

/-- The root of a key. -/
def keyRoot (key : Octets 48) : Hash := Sha256.pair (chunkAt 0 key.toList) (chunkAt 32 key.toList)

/-- The root of a signature. -/
def signatureRoot (signature : Octets 96) : Hash :=
  Sha256.pair (Sha256.pair (chunkAt 0 signature.toList) (chunkAt 32 signature.toList))
    (Sha256.pair (chunkAt 64 signature.toList) (Octets.zero 32))

variable {key key' : Octets 48} {credentials credentials' : Hash} {amount amount' : UInt64}
  {signature signature' : Octets 96}

theorem depositRoot_eq : depositRoot key credentials amount signature
    = Sha256.pair (Sha256.pair (keyRoot key) credentials)
        (Sha256.pair (Ssz.number amount) (signatureRoot signature)) := rfl

/-- The byte strings that are hashed for the root of a deposit. -/
def depositHashed (key : Octets 48) (credentials : Hash) (amount : UInt64)
    (signature : Octets 96) : List Bytes :=
  let pairs : List (Hash × Hash) := [
    (chunkAt 0 key.toList, chunkAt 32 key.toList),
    (chunkAt 0 signature.toList, chunkAt 32 signature.toList),
    (chunkAt 64 signature.toList, Octets.zero 32),
    (Sha256.pair (chunkAt 0 signature.toList) (chunkAt 32 signature.toList),
      Sha256.pair (chunkAt 64 signature.toList) (Octets.zero 32)),
    (keyRoot key, credentials),
    (Ssz.number amount, signatureRoot signature),
    (Sha256.pair (keyRoot key) credentials,
      Sha256.pair (Ssz.number amount) (signatureRoot signature))]
  pairs.map fun (a, b) => a.toList ++ b.toList

/-- **The root of a deposit determines credentials and amount**, unless there is a collision. -/
theorem depositRoot_inj {inputs : List Bytes} (hno : ¬ Collides sha256 inputs)
    (hin : depositHashed key credentials amount signature ⊆ inputs)
    (hin' : depositHashed key' credentials' amount' signature' ⊆ inputs)
    (h : depositRoot key credentials amount signature
      = depositRoot key' credentials' amount' signature') :
    credentials = credentials' ∧ amount = amount' := by
  rw [depositRoot_eq, depositRoot_eq] at h
  have htop := Sha256.pair_inj hno (hin (by simp [depositHashed])) (hin' (by simp [depositHashed])) h
  have hleft := Sha256.pair_inj hno (hin (by simp [depositHashed])) (hin' (by simp [depositHashed]))
    htop.1
  have hright := Sha256.pair_inj hno (hin (by simp [depositHashed])) (hin' (by simp [depositHashed]))
    htop.2
  exact ⟨hleft.2, Ssz.number_injective hright.1⟩

end Deposit

end Registrar
