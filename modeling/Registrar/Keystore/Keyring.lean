import Registrar.Exit.Message
import Registrar.Exit.Sharing
import Registrar.Keyed
import Registrar.Text.Quoted

/-!
# Keyrings

The secret keys that were unlocked, by public key, in ascending order of the public keys' text.
Exits are signed with the keys of a ring, whole or in shares. The text of a ring shows no secret.
-/

namespace Registrar.Keystore

/-- Secret keys by public key. -/
structure Keyring where
  keys : List (String × Scalar)
deriving DecidableEq

namespace Keyring

/-- The ring without keys. -/
def empty : Keyring := ⟨[]⟩

/-- The ring with one more key; one with the same public key is replaced. -/
def insert (r : Keyring) (publicKey : String) (s : Scalar) : Keyring :=
  ⟨Keyed.insert publicKey s r.keys⟩

variable (r : Keyring)

/-- The number of keys. -/
def size : Nat := r.keys.length

/-- The secret key of a public one. -/
def secret? (publicKey : String) : Option Scalar :=
  (r.keys.find? (·.1 = publicKey)).map (·.2)

/-- Whether the ring has the key. -/
def contains (publicKey : String) : Bool := (r.secret? publicKey).isSome

/-- The public keys in ascending order. -/
def publicKeys : List String := r.keys.map (·.1)

/-- The text of the ring for logs. -/
def debugText : String :=
  "Keystores \x7b public_keys: [" ++ String.intercalate ", " (r.publicKeys.map Text.Quoted.text)
    ++ "] \x7d"

variable (G : Type) [SignatureScheme G]

/-- The signature of an exit. -/
def exitSignature (publicKey : String) (e : Exit) : Except Exit.SigningFault (Octets 96) :=
  match r.secret? publicKey with
  | some s => Exit.sign G s.toOctets.toList e.signingRoot.toList
  | none => .error (.unknownKey publicKey)

/-- The signatures of an exit with shares of the key. -/
def exitShards (publicKey : String) (e : Exit) (threshold total : Nat) (t : Tape) :
    Option (Except Exit.SigningFault ExitShards × Tape) :=
  match r.secret? publicKey with
  | none => some (.error (.unknownKey publicKey), t)
  | some s => Exit.signShards G s.toOctets.toList e.signingRoot.toList threshold total t

end Keyring

end Registrar.Keystore
