import Registrar.Bytes.Octets
import Registrar.Crypto.Keccak

/-!
# Deposit events

A deposit leaves an event with five byte strings: public key, withdrawal credentials, amount,
signature and index. They are laid out as a head of five offsets and, at each of them, a length and
that many bytes. Only the public key is needed; the other strings have to be there, though.
-/

namespace Registrar.Registry

/-- The declaration of the event. -/
def eventSignature : String := "DepositEvent(bytes,bytes,bytes,bytes,bytes)"

/-- The first topic of every deposit event. -/
def eventTopic : Hash := keccak256 (eventSignature.toList.map fun c => UInt8.ofNat c.toNat)

/-- The number in the 32 bytes at an offset. -/
def wordAt? (data : Bytes) (offset : Nat) : Option Nat :=
  let word := (data.drop offset).take 32
  if word.length = 32 then some (Bytes.toNat word) else none

/-- The byte string with the offset that stands at a place in the head. -/
def stringAt? (data : Bytes) (place : Nat) : Option Bytes :=
  match wordAt? data place with
  | none => none
  | some offset =>
    match wordAt? data offset with
    | none => none
    | some length =>
      let bs := (data.drop (offset + 32)).take length
      if bs.length = length then some bs else none

/-- The five byte strings of an event. -/
def strings? (data : Bytes) : Option (List Bytes) :=
  (List.range 5).mapM fun i => stringAt? data (32 * i)

/-- The public key of a deposit event with the given topics and data. -/
def publicKey? (topics : List Hash) (data : Bytes) : Option Bytes :=
  if topics.head? = some eventTopic then (strings? data).bind (·.head?) else none

/-- The number of different public keys. -/
def countDistinct (keys : List Bytes) : Nat := keys.eraseDups.length

end Registrar.Registry
