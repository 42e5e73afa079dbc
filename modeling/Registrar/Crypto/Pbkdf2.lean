import Registrar.Crypto.Sha256

/-!
# Key derivation by repeated hashing

`hmac` is the keyed hash over SHA-256; `pbkdf2 password salt len` derives `len` bytes with a single
iteration, the form that `scrypt` needs at its start and end. `length_pbkdf2` gives the length.
-/

namespace Registrar

/-- The keyed hash of a message. -/
def hmac (key message : Bytes) : Hash :=
  let short := if key.length ≤ 64 then key else (sha256 key).toList
  let full := short ++ List.replicate (64 - short.length) 0
  let inner := sha256 (full.map (· ^^^ 0x36) ++ message)
  sha256 (full.map (· ^^^ 0x5C) ++ inner.toList)

/-- `len` bytes derived from a password and a salt with one iteration. -/
def pbkdf2 (password salt : Bytes) (len : Nat) : Bytes :=
  let block (i : Nat) : Bytes := (hmac password (salt ++ Bytes.bigEndian 4 (i + 1))).toList
  ((List.range ((len + 31) / 32)).flatMap block).take len

theorem length_pbkdf2 (password salt : Bytes) (len : Nat) :
    (pbkdf2 password salt len).length = len := by
  have constant : ∀ i, (hmac password (salt ++ Bytes.bigEndian 4 (i + 1))).toList.length = 32 :=
    fun i => (hmac password _).length_toList
  have whole : ((List.range ((len + 31) / 32)).flatMap fun i =>
      (hmac password (salt ++ Bytes.bigEndian 4 (i + 1))).toList).length
        = 32 * ((len + 31) / 32) := by
    generalize (len + 31) / 32 = n
    induction n with
    | zero => rfl
    | succ n ih =>
      rw [List.range_succ, List.flatMap_append, List.length_append, ih]
      simp [constant]
      omega
  simp only [pbkdf2, List.length_take, whole]
  omega

end Registrar
