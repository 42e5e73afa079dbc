import Registrar.Crypto.Aes
import Registrar.Crypto.Scrypt
import Registrar.Exit.Sharing
import Registrar.Json.Format
import Registrar.Keystore.Password

/-!
# Encrypted containers

A container holds a secret, encrypted under a key that is derived from a password, with a checksum
that tells whether the password was right.

## Contents

- `Container` with its parts and its `format`;
- `Container.ofText` and `Container.text`, reading and writing;
- `Container.encrypt` and `Container.decrypt`.
-/

namespace Registrar.Keystore

/-! ## The parts -/

/-- How a key is derived: its length, the costs, and the salt. -/
structure KdfParams where
  length : UInt64
  n : UInt64
  r : UInt32
  p : UInt32
  salt : String
deriving DecidableEq

/-- The function that derives the key. -/
structure Kdf where
  function : String
  params : KdfParams
  message : String
deriving DecidableEq

/-- The function that checks the key, and its result. -/
structure Checksum where
  function : String
  params : List (String × Json.Value)
  message : String

/-- The function that encrypts, where its stream starts, and the encrypted secret. -/
structure Cipher where
  function : String
  iv : String
  message : String
deriving DecidableEq

/-- An encrypted secret. -/
structure Container where
  kdf : Kdf
  checksum : Checksum
  cipher : Cipher
  description : String
  publicKey : String
  path : String
  uuid : String
  version : UInt32

/-! ## Reading and writing -/

open Json Json.Format

/-- How derivation parameters are read and written. -/
def KdfParams.format : Format KdfParams :=
  (record "ScryptParams"
    (.field "dklen" usize <| .field "n" u64 <| .field "r" u32 <| .field "p" u32 <|
     .field "salt" text .none)).along
    (fun (length, n, r, p, salt, _) => { length, n, r, p, salt })
    (fun k => (k.length, k.n, k.r, k.p, k.salt, ()))

/-- How a derivation is read and written. -/
def Kdf.format : Format Kdf :=
  (record "KdfModule"
    (.field "function" text <| .field "params" KdfParams.format <| .optional "message" "" text
      .none)).along
    (fun (function, params, message, _) => { function, params, message })
    (fun k => (k.function, k.params, k.message, ()))

/-- How a checksum is read and written. -/
def Checksum.format : Format Checksum :=
  (record "ChecksumModule"
    (.field "function" text <| .optional "params" [] dictionary <| .field "message" text
      .none)).along
    (fun (function, params, message, _) => { function, params, message })
    (fun c => (c.function, c.params, c.message, ()))

/-- How the start of the stream is read and written. -/
def Cipher.paramsFormat : Format String :=
  (record "CipherParams" (.field "iv" text .none)).along (fun (iv, _) => iv) (fun iv => (iv, ()))

/-- How a cipher is read and written. -/
def Cipher.format : Format Cipher :=
  (record "CipherModule"
    (.field "function" text <| .field "params" Cipher.paramsFormat <| .field "message" text
      .none)).along
    (fun (function, iv, message, _) => { function, iv, message })
    (fun c => (c.function, c.iv, c.message, ()))

/-- How the three functions are read and written. -/
def cryptoFormat : Format (Kdf × Checksum × Cipher) :=
  (record "KeystoreCrypto"
    (.field "kdf" Kdf.format <| .field "checksum" Checksum.format <| .field "cipher" Cipher.format
      .none)).along
    (fun (kdf, checksum, cipher, _) => (kdf, checksum, cipher))
    (fun (kdf, checksum, cipher) => (kdf, checksum, cipher, ()))

/-- How a container is read and written. -/
def Container.format : Format Container :=
  (record "ScryptKeystore"
    (.field "crypto" cryptoFormat <| .optional "description" "" text <|
     .optional "pubkey" "" text <| .optional "path" "" text <| .optional "uuid" "" text <|
     .field "version" u32 .none)).along
    (fun ((kdf, checksum, cipher), description, publicKey, path, uuid, version, _) =>
      { kdf, checksum, cipher, description, publicKey, path, uuid, version })
    (fun c => ((c.kdf, c.checksum, c.cipher), c.description, c.publicKey, c.path, c.uuid, c.version,
      ()))

/-! ## Faults -/

/-- What is wrong with the structure of a container. -/
inductive FormatFault where
  | notJson (fault : Json.Fault)
  | unsupported (part function : String)
  | notHex (field : String) (fault : Hex.Fault)
  | shortKey (length : UInt64)
  | badRounds (n : UInt64)
  | badCost
  | badIv
deriving DecidableEq

/-- The wording of a fault. -/
def FormatFault.message : FormatFault → String
  | .notJson fault => "invalid keystore json: " ++ fault.message
  | .unsupported part function => "unsupported " ++ part ++ " " ++ function
  | .notHex field fault => field ++ " is not valid hex: " ++ fault.message
  | .shortKey length => "dklen must be at least 32, got " ++ toString length.toNat
  | .badRounds n => "scrypt n must be a power of two, got " ++ toString n.toNat
  | .badCost => "invalid scrypt params: invalid scrypt parameters"
  | .badIv => "cipher iv must be 16 bytes"

/-- Why a container is not decrypted. -/
inductive ContainerFault where
  | format (fault : FormatFault)
  | wrongPassword
deriving DecidableEq

/-- The wording of a fault. -/
def ContainerFault.message : ContainerFault → String
  | .format fault => fault.message
  | .wrongPassword => "checksum mismatch"

namespace Container

/-- The functions that containers may name. -/
def kdfFunction : String := "scrypt"

/-- The checksum's function. -/
def checksumFunction : String := "sha256"

/-- The cipher's function. -/
def cipherFunction : String := "aes-128-ctr"

/-- The first of the three functions that is not the expected one. -/
def functionFault (c : Container) : Option FormatFault :=
  if c.kdf.function ≠ kdfFunction then some (.unsupported "kdf" c.kdf.function)
  else if c.checksum.function ≠ checksumFunction then
    some (.unsupported "checksum" c.checksum.function)
  else if c.cipher.function ≠ cipherFunction then some (.unsupported "cipher" c.cipher.function)
  else none

/-- The container that a text holds. -/
def ofText (s : String) : Except FormatFault Container :=
  match format.ofText s with
  | .error fault => .error (.notJson fault)
  | .ok c =>
    match c.functionFault with
    | some fault => .error fault
    | none => .ok c

/-- The container as a text. -/
def text (c : Container) : String := format.prettyText c

/-! ## Keys -/

/-- The digits of a field, after any number of markers. -/
def dropMarkers : List Char → List Char
  | '0' :: 'x' :: rest => dropMarkers rest
  | digits => digits

/-- The bytes of a field. -/
def fieldBytes (field s : String) : Except FormatFault Bytes :=
  match Hex.decode (dropMarkers s.toList) with
  | .ok bs => .ok bs
  | .error fault => .error (.notHex field fault)

/-- A derived key: one part encrypts, the other one makes the checksum. -/
structure Key where
  cipher : Octets 16
  check : Octets 16
deriving DecidableEq

/-- The key of a password. -/
def deriveKey (password salt : Bytes) (k : KdfParams) : Except FormatFault Key :=
  if short : k.length.toNat < 32 then .error (.shortKey k.length)
  else
    match Scrypt.log2Exact? k.n.toNat with
    | none | some 0 => .error (.badRounds k.n)
    | some logN =>
      let cost : Scrypt.Cost := ⟨logN, k.r.toNat, k.p.toNat⟩
      if k.length.toNat ≤ 64 ∧ cost.Fits then
        let bytes := Scrypt.derive password salt cost k.length.toNat
        have len : bytes.length = k.length.toNat := Scrypt.length_derive _ _ _ _
        .ok ⟨⟨bytes.take 16, by simp [len]; omega⟩,
          ⟨(bytes.drop 16).take 16, by simp [len]; omega⟩⟩
      else .error .badCost

/-- The checksum of an encrypted secret. -/
def checksumOf (key : Key) (encrypted : Bytes) : Hash := sha256 (key.check.toList ++ encrypted)

/-! ## Decrypting -/

/-- The decoded fields of a container. -/
structure Fields where
  salt : Bytes
  checksum : Bytes
  iv : Bytes
  message : Bytes
deriving DecidableEq

/-- The decoded fields, or the first fault of functions and fields. -/
def fields (c : Container) : Except FormatFault Fields := do
  match c.functionFault with
  | some fault => throw fault
  | none =>
    let salt ← fieldBytes "kdf salt" c.kdf.params.salt
    let checksum ← fieldBytes "checksum" c.checksum.message
    let iv ← fieldBytes "cipher iv" c.cipher.iv
    let message ← fieldBytes "cipher message" c.cipher.message
    return { salt, checksum, iv, message }

/-- The secret that a password unlocks. The start of the stream is looked at last. -/
def decrypt (c : Container) (password : String) : Except ContainerFault Bytes :=
  match c.fields with
  | .error fault => .error (.format fault)
  | .ok f =>
    match deriveKey (passwordBytes password) f.salt c.kdf.params with
    | .error fault => .error (.format fault)
    | .ok key =>
      if (checksumOf key f.message).toList ≠ f.checksum then .error .wrongPassword
      else
        match Octets.ofList? 16 f.iv with
        | none => .error (.format .badIv)
        | some iv => .ok (Aes.counterMode key.cipher iv f.message)

/-! ## Encrypting -/

/-- The costs of the derivation. -/
structure Cost where
  n : UInt64
  r : UInt32
  p : UInt32
deriving DecidableEq

/-- Digits as text. -/
def hexText (bs : Bytes) : String := String.ofList (Hex.encode bs)

/-- Sixteen random bytes as an identifier, in which six bits tell its kind. -/
def uuidText (bs : Octets 16) : String :=
  let marked := bs.toList.mapIdx fun i b =>
    if i = 6 then (b &&& 0x0F) ||| 0x40 else if i = 8 then (b &&& 0x3F) ||| 0x80 else b
  let part (start count : Nat) : String := hexText ((marked.drop start).take count)
  String.intercalate "-" [part 0 4, part 4 2, part 6 2, part 8 2, part 10 6]

variable (G : Type) [SignatureScheme G]

/-- The container of a secret under a password, a salt, a start of the stream and an identifier. -/
def lock (secret : Bytes) (password : String) (cost : Cost) (salt : Octets 32)
    (iv uuid : Octets 16) : Except FormatFault Container :=
  let params : KdfParams := ⟨32, cost.n, cost.r, cost.p, hexText salt.toList⟩
  match deriveKey (passwordBytes password) salt.toList params with
  | .error fault => .error fault
  | .ok key =>
    let encrypted := Aes.counterMode key.cipher iv secret
    .ok {
      kdf := ⟨kdfFunction, params, ""⟩
      checksum := ⟨checksumFunction, [], hexText (checksumOf key encrypted).toList⟩
      cipher := ⟨cipherFunction, hexText iv.toList, hexText encrypted⟩
      description := ""
      publicKey :=
        match Scalar.secret? secret with
        | some s => hexText (SignatureScheme.publicKey G s).toList
        | none => ""
      path := ""
      uuid := uuidText uuid
      version := 4 }

/-- The container of a secret under a password, with a random salt, start and identifier. -/
def encrypt (secret : Bytes) (password : String) (cost : Cost) (t : Tape) :
    Option (Except FormatFault Container × Tape) :=
  match t.octets? 32 with
  | none => none
  | some (salt, t) =>
    match t.octets? 16 with
    | none => none
    | some (iv, t) =>
      match t.octets? 16 with
      | none => none
      | some (uuid, t) => some (lock G secret password cost salt iv uuid, t)

end Container

end Registrar.Keystore
