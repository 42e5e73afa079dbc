import Registrar.Bytes.Hex
import Registrar.Json.Value

/-!
# The majority of approvals

Every oracle signs an address of published data and a deadline. Of the pairs that were signed, the
one with the most signatures wins, the earlier of two with equally many; if it has enough of them,
the signatures of as many oracles as are needed are put in a row, by ascending address.

## Contents

- `SignedApproval` and `CombinedApproval`;
- `Tally`, the signatures for each pair, with `Tally.add`, `Tally.ofApprovals` and `Tally.leader?`;
- `combine`.
-/

namespace Registrar

/-- What one oracle approves, with its signature. -/
structure SignedApproval where
  ipfsHash : String
  signature : Bytes
  deadline : UInt64
deriving DecidableEq

/-- What enough oracles approve, with their signatures in a row. -/
structure CombinedApproval where
  ipfsHash : String
  signatures : Bytes
  deadline : UInt64
deriving DecidableEq

/-- How a combined approval is written. -/
def CombinedApproval.toValue (a : CombinedApproval) : Json.Value :=
  .object [("ipfs_hash", .text a.ipfsHash), ("signatures", .text (Hex.encode0x a.signatures)),
    ("deadline", .number (.natural a.deadline))]

/-- Too few oracles agree. -/
structure TooFewApprovals where
  votes : Nat
  threshold : Nat
deriving DecidableEq

/-- The wording of a shortage. -/
def TooFewApprovals.message (e : TooFewApprovals) : String :=
  "Not enough oracle approvals: received " ++ toString e.votes ++ ", threshold is "
    ++ toString e.threshold

namespace Majority

/-- What oracles vote for: the address of the data and the deadline. -/
abbrev Ballot := String × UInt64

/-- The vote of an oracle: who signed, and the signature. -/
abbrev Vote := Address × Bytes

/-- The ballot of an approval. -/
def ballotOf (a : SignedApproval) : Ballot := (a.ipfsHash, a.deadline)

/-! ## Counting -/

/-- The votes for each ballot, in the order in which the ballots first came. -/
abbrev Tally := List (Ballot × List Vote)

namespace Tally

/-- Adds a vote for a ballot. -/
def add (ballot : Ballot) (vote : Vote) : Tally → Tally
  | [] => [(ballot, [vote])]
  | (b, votes) :: rest =>
    if b = ballot then (b, votes ++ [vote]) :: rest else (b, votes) :: add ballot vote rest

/-- The votes of all approvals. -/
def ofApprovals (approvals : List (Address × SignedApproval)) : Tally :=
  approvals.foldl (fun t (oracle, a) => t.add (ballotOf a) (oracle, a.signature)) []

/-- The better of the best entry so far and another one, which has to have more votes. -/
def better (best : Option (Ballot × List Vote)) (entry : Ballot × List Vote) :
    Option (Ballot × List Vote) :=
  let most := best.elim 0 (·.2.length)
  if most < entry.2.length then some entry else best

/-- The ballot with the most votes, the first of several. -/
def leader? (t : Tally) : Option (Ballot × List Vote) := t.foldl better none

end Tally

/-! ## The outcome -/

/-- The signatures of the `n` votes with the lowest addresses, in a row. -/
def signatures (n : Nat) (votes : List Vote) : Bytes :=
  ((votes.mergeSort fun a b => decide (a.1 ≤ b.1)).take n).flatMap (·.2)

/-- What the majority approves, if the majority is large enough. -/
def combine (approvals : List (Address × SignedApproval)) (threshold : Nat) :
    Except TooFewApprovals CombinedApproval :=
  match (Tally.ofApprovals approvals).leader? with
  | none => .error ⟨0, threshold⟩
  | some (ballot, votes) =>
    if votes.length < threshold then .error ⟨votes.length, threshold⟩
    else .ok ⟨ballot.1, signatures threshold votes, ballot.2⟩

end Majority

end Registrar
