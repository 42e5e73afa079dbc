import Registrar.Bytes.Hex
import Registrar.Curve.Scheme
import Registrar.Tape

/-!
# Signatures and their shares

A secret key is split with a random polynomial whose constant is the key; share `i` is its value at
`i + 1`. Signatures made with as many shares as the polynomial has coefficients recombine into the
signature of the key.

## Contents

- `sign` and `publicKeyText`;
- `split`, the shares of a key, and `shardsOf?`, their public keys and signatures;
- `recombine`, the signature from numbered shares of it.
-/

namespace Registrar

/-- Public keys of key shares and the signatures made with them, in share order. -/
structure ExitShards where
  publicKeys : List String
  signatures : List String
deriving DecidableEq

namespace Exit

/-- Why a signature cannot be made. -/
inductive SigningFault where
  | unknownKey (publicKey : String)
  | badSecret
  | badThreshold (threshold total : Nat)
  | badShare (index : Nat)
  | duplicateShare (index : Nat)
  | noShares
deriving DecidableEq

/-- The wording of a fault. -/
def SigningFault.message : SigningFault → String
  | .unknownKey publicKey => "No keystore for public key " ++ publicKey
  | .badSecret => "Invalid BLS secret key"
  | .badThreshold threshold total =>
    "Invalid threshold " ++ toString threshold ++ " for " ++ toString total ++ " shares"
  | .badShare index => "Invalid signature share " ++ toString index
  | .duplicateShare index => "Duplicate signature share " ++ toString index
  | .noShares => "No signature shares to combine"

variable (G : Type) [SignatureScheme G]

/-- The public key of a secret one, as text. -/
def publicKeyText (s : Scalar) : String := Hex.ofOctets (SignatureScheme.publicKey G s)

/-- The public key of secret bytes, if they are a secret key. -/
def publicKeyOf? (secret : Bytes) : Option String := (Scalar.secret? secret).map (publicKeyText G)

/-- The signature of a message under a secret key. -/
def signWith (s : Scalar) (message : Bytes) : Octets 96 :=
  SignatureScheme.encode (SignatureScheme.multiple s (SignatureScheme.pointOf (G := G) message))

/-- The signature of a message under secret bytes. -/
def sign (secret message : Bytes) : Except SigningFault (Octets 96) :=
  match Scalar.secret? secret with
  | some s => .ok (signWith G s message)
  | none => .error .badSecret

/-! ## Splitting -/

/-- The next block of 32 bytes that is a scalar once its highest bit is cleared. -/
def drawScalar? (t : Tape) : Option (Scalar × Tape) :=
  match _h : t.take? 32 with
  | none => none
  | some (bs, rest) =>
    let n := Bytes.toNat bs % (1 <<< 255)
    if small : n < groupOrder then some (⟨n, small⟩, rest) else drawScalar? rest
termination_by t.left
decreasing_by have := Tape.left_of_take? _h; omega

/-- The next `n` scalars. -/
def drawScalars? : (n : Nat) → Tape → Option (List Scalar × Tape)
  | 0, t => some ([], t)
  | n + 1, t =>
    match drawScalar? t with
    | none => none
    | some (s, t) => (drawScalars? n t).map fun (ss, t) => (s :: ss, t)

/-- The shares that a polynomial gives: its values at `1` up to `total`. -/
def sharesOf (coefficients : List Scalar) (total : Nat) : List Scalar :=
  (List.range total).map fun i => Scalar.evaluate coefficients (Scalar.ofNat (i + 1))

/-- The fault of a threshold that no shares can meet. -/
def thresholdFault (threshold total : Nat) : Option SigningFault :=
  if threshold = 0 ∨ total < threshold then some (.badThreshold threshold total) else none

/-- Splits a key into `total` shares, any `threshold` of which determine it. A share of zero is no
secret key. The tape may end first. -/
def splitKey (s : Scalar) (threshold total : Nat) (t : Tape) :
    Option (Except SigningFault (List Scalar) × Tape) :=
  match drawScalars? (threshold - 1) t with
  | none => none
  | some (coefficients, t) =>
    let shares := sharesOf (s :: coefficients) total
    if shares.any (· = 0) then some (.error .badSecret, t) else some (.ok shares, t)

/-- Splits secret bytes. Nothing is drawn for a wrong threshold or secret. -/
def split (secret : Bytes) (threshold total : Nat) (t : Tape) :
    Option (Except SigningFault (List Scalar) × Tape) :=
  match thresholdFault threshold total, Scalar.secret? secret with
  | some fault, _ => some (.error fault, t)
  | none, none => some (.error .badSecret, t)
  | none, some s => splitKey s threshold total t

/-- The public keys of key shares and their signatures of a message. Each share has to be a secret key
itself. -/
def shardsOf? (message : Bytes) : List (Octets 32) → Except SigningFault ExitShards
  | [] => .ok ⟨[], []⟩
  | share :: rest =>
    match Scalar.secret? share.toList with
    | none => .error .badSecret
    | some s =>
      match shardsOf? message rest with
      | .error fault => .error fault
      | .ok shards => .ok {
          publicKeys := publicKeyText G s :: shards.publicKeys
          signatures := Hex.ofOctets (signWith G s message) :: shards.signatures }

/-- Splits a secret key and signs a message with each share. -/
def signShards (secret message : Bytes) (threshold total : Nat) (t : Tape) :
    Option (Except SigningFault ExitShards × Tape) :=
  match split secret threshold total t with
  | none => none
  | some (.error fault, t) => some (.error fault, t)
  | some (.ok shares, t) => some (shardsOf? G message (shares.map Scalar.toOctets), t)

/-! ## Recombining -/

/-- The first index of a list that occurred before it. -/
def firstRepeated (seen : List Nat) : List Nat → Option Nat
  | [] => none
  | i :: rest => if seen.contains i then some i else firstRepeated (seen ++ [i]) rest

/-- The points of numbered signatures, up to the first that is none. -/
def decodeShares : List (Nat × Octets 96) → Except SigningFault (List (Nat × G))
  | [] => .ok []
  | (i, bs) :: rest =>
    match SignatureScheme.decode? (G := G) bs with
    | none => .error (.badShare i)
    | some p =>
      match decodeShares rest with
      | .error fault => .error fault
      | .ok shares => .ok ((i, p) :: shares)

/-- The value at which share `i` is taken. -/
def abscissa (i : Nat) : Scalar := Scalar.ofNat (i + 1)

/-- The sum of the points, each multiplied by its factor; `before` are the indices of the shares in
front. -/
def combine (before : List Nat) : List (Nat × G) → G → G
  | [], sum => sum
  | (i, p) :: rest, sum =>
    let others := before ++ rest.map (·.1)
    let factor := Scalar.lagrange (abscissa i) (others.map abscissa)
    combine (before ++ [i]) rest (SignatureScheme.add sum (SignatureScheme.multiple factor p))

/-- The signature from numbered shares of it. -/
def recombine (shares : List (Nat × Octets 96)) : Except SigningFault (Octets 96) :=
  if shares = [] then .error .noShares
  else
    match firstRepeated [] (shares.map (·.1)) with
    | some i => .error (.duplicateShare i)
    | none =>
      match decodeShares G shares with
      | .error fault => .error fault
      | .ok points => .ok (SignatureScheme.encode (combine G [] points SignatureScheme.zero))

end Exit

end Registrar
