import Registrar.Http.Reply
import Registrar.Json.Format
import Registrar.Oracle.Majority
import Registrar.Text.Utf8

/-!
# Replicas

What it means when a request is posted to one endpoint of an oracle and a reply comes back: an
approval, or a fault. Only a connection that gives no answer at all is worth another try.

## Contents

- `ReplicaFault` with `isTransient`;
- `readApproval`, and `approvalOf`, the meaning of a reply.
-/

namespace Registrar.Approval

/-- Why an answer is no approval. -/
inductive ResponseFault where
  | notJson (fault : Json.Fault)
  | badSignature (fault : Hex.Fault)
deriving DecidableEq

/-- The wording of a fault. -/
def ResponseFault.message : ResponseFault → String
  | .notJson fault => fault.message
  | .badSignature fault => "signature is not hex: " ++ fault.message

/-- Why a call to a replica failed. -/
inductive ReplicaFault where
  | unsendable
  | noAnswer
  | cutShort
  | status (code : Nat) (body : String)
  | badResponse (fault : ResponseFault)
deriving DecidableEq

namespace ReplicaFault

/-- Whether the same call may succeed at another time. -/
def isTransient : ReplicaFault → Bool
  | .noAnswer => true
  | _ => false

/-- The wording of a fault. -/
def message : ReplicaFault → String
  | .unsendable => "request failed: builder error"
  | .noAnswer => "request failed: error sending request"
  | .cutShort => "request failed: error decoding response body"
  | .status code body => "status " ++ toString code ++ ": " ++ body
  | .badResponse fault => "invalid response: " ++ fault.message

end ReplicaFault

/-! ## Approvals -/

/-- The fields of an approval as they are sent. -/
structure ResponseText where
  ipfsHash : String
  signature : String
  deadline : UInt64
deriving DecidableEq

open Json.Format in
/-- How an approval is sent. -/
def ResponseText.format : Json.Format ResponseText :=
  (record "ApprovalResponse"
    (.field "ipfs_hash" text <| .field "signature" text <| .field "deadline" u64 .none)).along
    (fun (ipfsHash, signature, deadline, _) => { ipfsHash, signature, deadline })
    (fun r => (r.ipfsHash, r.signature, r.deadline, ()))

/-- A text without the markers at its start. -/
def withoutMarkers : List Char → List Char
  | '0' :: 'x' :: rest => withoutMarkers rest
  | cs => cs

/-- The approval in the body of an answer. -/
def readApproval (body : Bytes) : Except ReplicaFault SignedApproval :=
  match Text.Utf8.read? body with
  | none => .error (.badResponse (.notJson .malformed))
  | some s =>
    match ResponseText.format.ofText s with
    | .error fault => .error (.badResponse (.notJson fault))
    | .ok r =>
      match Hex.decode (withoutMarkers r.signature.toList) with
      | .error fault => .error (.badResponse (.badSignature fault))
      | .ok signature => .ok ⟨r.ipfsHash, signature, r.deadline⟩

/-- What a reply means. The body of a refusal is part of the fault, in replacement of which a note
stands if it did not come through. -/
def approvalOf : Reply → Except ReplicaFault SignedApproval
  | .unsendable => .error .unsendable
  | .noAnswer => .error .noAnswer
  | .answer status body whole =>
    if Reply.isSuccess status then
      if whole then readApproval body else .error .cutShort
    else if whole then .error (.status status (Text.Utf8.readLossy body))
    else .error (.status status "<unreadable body: error decoding response body>")

end Registrar.Approval
