import Registrar.Account
import Registrar.Json.Format
import Registrar.Url

/-!
# Sets of oracles

Who is asked for approvals, where, and how many of them have to agree. Every oracle has an address
and one or more endpoints, each of which is a locator.

## Contents

- `OracleSet` with `members`, the oracles, and `check`, which tells what is wrong with a set;
- `OracleSet.ofParts?` and `OracleSet.format`.
-/

namespace Registrar

/-- Oracles by position: the endpoints at a position belong to the address there. -/
structure OracleSet where
  addresses : List Address
  endpoints : List (List String)
  threshold : UInt64
deriving DecidableEq

/-- What is wrong with a set of oracles. -/
inductive OracleSetFault where
  | lengths (addresses endpoints : Nat)
  | noEndpoints (oracle : Address)
  | badEndpoint (oracle : Address) (endpoint : String) (fault : Url.Fault)
deriving DecidableEq

/-- The wording of a fault. -/
def OracleSetFault.message : OracleSetFault → String
  | .lengths addresses endpoints =>
    "Oracles addresses and endpoints differ in length: " ++ toString addresses ++ " != "
      ++ toString endpoints
  | .noEndpoints oracle => "Oracle " ++ Account.checksummed oracle ++ " has no endpoints"
  | .badEndpoint oracle endpoint fault =>
    "Invalid endpoint " ++ endpoint ++ " for oracle " ++ Account.checksummed oracle ++ ": "
      ++ fault.message

namespace OracleSet

/-- The oracles, as far as there are both an address and endpoints. -/
def members (s : OracleSet) : List (Address × List String) := s.addresses.zip s.endpoints

/-- The number of addresses. -/
def size (s : OracleSet) : Nat := s.addresses.length

/-- Checks the endpoints of an oracle in order. -/
def checkEndpoints (oracle : Address) : List String → Except OracleSetFault Unit
  | [] => .ok ()
  | endpoint :: rest =>
    match Url.read endpoint with
    | .error fault => .error (.badEndpoint oracle endpoint fault)
    | .ok _ => checkEndpoints oracle rest

/-- Checks oracles in order: each has an endpoint, and all of them are locators. -/
def checkMembers : List (Address × List String) → Except OracleSetFault Unit
  | [] => .ok ()
  | (oracle, endpoints) :: rest =>
    if endpoints = [] then .error (.noEndpoints oracle)
    else match checkEndpoints oracle endpoints with
      | .error fault => .error fault
      | .ok () => checkMembers rest

/-- What is wrong with a set, if anything is. -/
def check (s : OracleSet) : Except OracleSetFault Unit :=
  if s.addresses.length = s.endpoints.length then checkMembers s.members
  else .error (.lengths s.addresses.length s.endpoints.length)

/-- The set with the given parts, if nothing is wrong with it. -/
def ofParts? (addresses : List Address) (endpoints : List (List String)) (threshold : UInt64) :
    Except OracleSetFault OracleSet :=
  let s : OracleSet := { addresses, endpoints, threshold }
  s.check.map fun () => s

open Json.Format in
/-- How a set is read and written; reading does not check it. -/
def format : Json.Format OracleSet :=
  (record "Oracles"
    (.field "addresses" (list (octets 20)) <| .field "endpoints" (list (list text)) <|
     .field "validators_threshold" usize .none)).along
    (fun (addresses, endpoints, threshold, _) => { addresses, endpoints, threshold })
    (fun s => (s.addresses, s.endpoints, s.threshold, ()))

end OracleSet

end Registrar
