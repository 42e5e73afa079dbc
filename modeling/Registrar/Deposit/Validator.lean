import Registrar.Bytes.Hex
import Registrar.Json.Format
import Registrar.Merkle.Leaf
import Registrar.Ssz

/-!
# Validators

A deposit data entry is a public key and a signature, both as hexadecimal text. A validator is an
entry with its position and with both texts behind a marker. Its encoding, which a leaf of the
validators tree holds, is the key, the signature and the root of the deposit data.

## Contents

- `Entry` with its format, `Validator` and `Validator.ofEntry`;
- `withdrawalCredentials`, `depositRoot`;
- `Validator.encode`, which names the field that cannot be decoded.
-/

namespace Registrar.Deposit

/-- A public key and a signature as they stand in a file. -/
structure Entry where
  publicKey : String
  signature : String
deriving DecidableEq

/-- How an entry is read and written. -/
def Entry.format : Json.Format Entry :=
  (Json.Format.record "DepositDataEntry"
    (.field "pubkey" .text (.field "signature" .text .none))).along
    (fun (publicKey, signature, _) => ⟨publicKey, signature⟩)
    (fun e => (e.publicKey, e.signature, ()))

/-- An entry at its position. -/
structure Validator where
  index : Nat
  publicKey : String
  signature : String
deriving DecidableEq

/-! ## Marked text -/

/-- The text behind a marker, which is put in front unless there is one in either case. -/
def addMarker (s : String) : String :=
  match s.toList with
  | '0' :: 'x' :: _ | '0' :: 'X' :: _ => s
  | _ => "0x" ++ s

/-- The text after one marker in either case. -/
def dropMarker (s : String) : List Char :=
  match s.toList with
  | '0' :: 'x' :: digits | '0' :: 'X' :: digits => digits
  | digits => digits

/-- The validator that an entry stands for. -/
def Validator.ofEntry (index : Nat) (e : Entry) : Validator :=
  ⟨index, addMarker e.publicKey, addMarker e.signature⟩

/-! ## Decoding -/

/-- What is wrong with an entry. -/
inductive EntryFault where
  /-- It is no record of two texts. -/
  | shape (fault : Json.Fault)
  /-- A field is no hexadecimal text. -/
  | notHex (field : String) (fault : Hex.Fault)
  /-- A field has the wrong length. -/
  | length (field : String) (wanted found : Nat)
deriving DecidableEq

/-- The wording of a fault. -/
def EntryFault.message : EntryFault → String
  | .shape fault => fault.message
  | .notHex field fault => field ++ " is not valid hex: " ++ fault.message
  | .length field wanted found =>
    field ++ " must be " ++ toString wanted ++ " bytes, got " ++ toString found

/-- The `n` bytes of a field. -/
def decodeField (n : Nat) (field s : String) : Except EntryFault (Octets n) :=
  match Hex.decode (dropMarker s) with
  | .error fault => .error (.notHex field fault)
  | .ok bs =>
    match Octets.ofList? n bs with
    | some a => .ok a
    | none => .error (.length field n bs.length)

/-! ## Encoding -/

/-- The credentials with which deposits are withdrawn to a vault. -/
def withdrawalCredentials (vault : Address) : Hash :=
  ⟨0x01 :: (List.replicate 11 0 ++ vault.toList), by simp [vault.length_toList]⟩

/-- The root of a deposit: its key, credentials, amount and signature. -/
def depositRoot (key : Octets 48) (credentials : Hash) (amount : UInt64) (signature : Octets 96) :
    Hash :=
  let part (from_ : Nat) (bs : Bytes) : Hash := Ssz.chunk ((bs.drop from_).take 32)
  let keyRoot := Sha256.pair (part 0 key.toList) (part 32 key.toList)
  let signatureRoot := Sha256.pair
    (Sha256.pair (part 0 signature.toList) (part 32 signature.toList))
    (Sha256.pair (part 64 signature.toList) (Octets.zero 32))
  Sha256.pair (Sha256.pair keyRoot credentials) (Sha256.pair (Ssz.number amount) signatureRoot)

/-- The key, the signature and the deposit root of a validator. -/
def Validator.encode (credentials : Hash) (amount : UInt64) (v : Validator) :
    Except EntryFault Bytes :=
  match decodeField 48 "pubkey" v.publicKey with
  | .error fault => .error fault
  | .ok key =>
    match decodeField 96 "signature" v.signature with
    | .error fault => .error fault
    | .ok signature =>
      let root := depositRoot key credentials amount signature
      .ok (key.toList ++ signature.toList ++ root.toList)

end Registrar.Deposit
