import Registrar.Account
import Registrar.Registry.Event
import Registrar.Registry.Node

/-!
# Reading the registry

The registry of validators is a contract: a node is asked for its root, and for all deposit events
since some block. A validator gets its index with the first deposit for its key, so the next index
is the number of different keys.

## Contents

- `Reader` with `Reader.ofEndpoint?`, `Reader.root` and `Reader.nextIndex`.
-/

namespace Registrar.Registry

/-- Why the registry cannot be read. -/
inductive Fault where
  | badEndpoint (endpoint : String)
  | noRoot
  | noEvents
  | badEvent
deriving DecidableEq

/-- The wording of a fault. -/
def Fault.message : Fault → String
  | .badEndpoint endpoint => "Invalid execution endpoint: " ++ endpoint
  | .noRoot => "Failed to fetch validators registry root"
  | .noEvents => "Failed to fetch validators registry deposit events"
  | .badEvent => "Failed to decode deposit event"

/-- Who reads a registry: where the node is, which contract the registry is, and the first block
with deposits. -/
structure Reader where
  endpoint : String
  registry : Address
  fromBlock : UInt64
deriving DecidableEq

namespace Reader

/-- The reader for an endpoint, which has to be a locator. -/
def ofEndpoint? (endpoint : String) (registry : Address) (fromBlock : UInt64) :
    Except Fault Reader :=
  match Url.read endpoint with
  | .ok _ => .ok { endpoint, registry, fromBlock }
  | .error _ => .error (.badEndpoint endpoint)

/-! ## The root -/

/-- The bytes that select the function of the contract that returns the root. -/
def rootSelector : Bytes :=
  (keccak256 ("get_deposit_root()".toList.map fun c => UInt8.ofNat c.toNat)).toList.take 4

/-- The question for the root. -/
def rootQuery (r : Reader) : Query where
  method := "eth_call"
  params := .array [
    .object [("input", .text (Hex.encode0x rootSelector)),
      ("to", .text (Hex.ofOctets r.registry))],
    .text "latest"]

/-- The bytes that a text of digits with or without a marker spells. -/
def bytesOfText? (s : String) : Option Bytes :=
  match Hex.decode (Json.Format.unmarked s) with
  | .ok bs => some bs
  | .error _ => none

/-- The root in an answer: its first 32 bytes. -/
def rootOf? : Json.Node → Option Hash
  | .text (some s) => (bytesOfText? s).bind fun bs => Octets.ofList? 32 (bs.take 32)
  | _ => none

/-- The root of the registry. -/
def root (r : Reader) (node : Node) : Except Fault Hash :=
  match (node r.rootQuery).bind rootOf? with
  | some h => .ok h
  | none => .error .noRoot

/-! ## The next index -/

/-- A number as a node wants it. -/
def quantity (n : Nat) : String := String.ofList ('0' :: 'x' :: Nat.toDigits 16 n)

/-- The question for all deposit events. -/
def eventsQuery (r : Reader) : Query where
  method := "eth_getLogs"
  params := .array [
    .object [("fromBlock", .text (quantity r.fromBlock.toNat)),
      ("address", .text (Hex.ofOctets r.registry)),
      ("topics", .array [.text (Hex.ofOctets eventTopic)])]]

/-- What is needed of an event in an answer. -/
structure Log where
  address : Address
  topics : List Hash
  data : String

open Json.Format in
/-- How an event is written in an answer. -/
def Log.format : Json.Format Log :=
  (record "Log"
    (.field "address" (octets 20) <| .field "topics" (list (octets 32)) <|
     .field "data" text .none)).along
    (fun (address, topics, data, _) => { address, topics, data })
    (fun l => (l.address, l.topics, l.data, ()))

/-- The topics and the data of the events in an answer. -/
def eventsOf? (v : Json.Node) : Option (List (List Hash × Bytes)) :=
  match (Json.Format.list Log.format).read Json.fullRoom v with
  | .ok logs => logs.mapM fun l => (bytesOfText? l.data).map fun bs => (l.topics, bs)
  | .error _ => none

/-- The index that the next new validator gets. -/
def nextIndex (r : Reader) (node : Node) : Except Fault UInt64 :=
  match (node r.eventsQuery).bind eventsOf? with
  | none => .error .noEvents
  | some events =>
    match events.mapM fun (topics, data) => publicKey? topics data with
    | none => .error .badEvent
    | some keys => .ok (UInt64.ofNat (countDistinct keys))

end Reader

end Registrar.Registry
