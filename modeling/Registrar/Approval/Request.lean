import Registrar.Deposit.Roster
import Registrar.Exit.Sharing
import Registrar.Text.Utf8

/-!
# Approval requests

What is posted to every replica of every oracle: the registry root and validator index that the
request was made for, the validators with their exit shards, and their proof.
-/

namespace Registrar

namespace Approval

/-- A request for approvals. -/
structure Request where
  validatorIndex : UInt64
  vault : Address
  registryRoot : Hash
  publicKeys : List String
  depositSignatures : List String
  keyShards : List (List String)
  exitShards : List (List String)
  proof : List Hash
  proofFlags : List Bool
  proofIndexes : List UInt64
  deadline : UInt64
deriving DecidableEq

namespace Request

/-- The request for a batch of validators, without exit shards. -/
def ofBatch (vault : Address) (registryRoot : Hash) (validatorIndex : UInt64)
    (batch : List Deposit.Validator) (proof : Deposit.BatchProof) (deadline : UInt64) :
    Request where
  validatorIndex
  vault
  registryRoot
  publicKeys := batch.map (·.publicKey)
  depositSignatures := batch.map (·.signature)
  keyShards := []
  exitShards := []
  proof := proof.proof
  proofFlags := proof.flags
  proofIndexes := proof.positions
  deadline

/-- Adds the shards of the next validator. -/
def addShards (r : Request) (shards : ExitShards) : Request :=
  { r with
    keyShards := r.keyShards ++ [shards.publicKeys]
    exitShards := r.exitShards ++ [shards.signatures] }

open Json.Format in
/-- How a request is read and written. -/
def format : Json.Format Request :=
  (record "ApprovalRequest"
    (.field "validator_index" u64 <| .field "vault_address" (octets 20) <|
     .field "validators_root" (octets 32) <| .field "public_keys" (list text) <|
     .field "deposit_signatures" (list text) <| .field "public_key_shards" (list (list text)) <|
     .field "exit_signature_shards" (list (list text)) <| .field "proof" (list (octets 32)) <|
     .field "proof_flags" (list flag) <| .field "proof_indexes" (list usize) <|
     .field "deadline" u64 .none)).along
    (fun (validatorIndex, vault, registryRoot, publicKeys, depositSignatures, keyShards, exitShards,
        proof, proofFlags, proofIndexes, deadline, _) =>
      { validatorIndex, vault, registryRoot, publicKeys, depositSignatures, keyShards, exitShards,
        proof, proofFlags, proofIndexes, deadline })
    (fun r => (r.validatorIndex, r.vault, r.registryRoot, r.publicKeys, r.depositSignatures,
      r.keyShards, r.exitShards, r.proof, r.proofFlags, r.proofIndexes, r.deadline, ()))

/-- The bytes that are posted. -/
def payload (r : Request) : Bytes := Text.Utf8.write (format.compactText r)

end Request

end Approval

end Registrar
