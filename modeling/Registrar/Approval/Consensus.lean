import Registrar.Approval.Round

/-!
# Consensus

The approvals of a round are combined once enough oracles agree. If they do not, a request that has
to be made anew is a better reason than the shortage.

## Contents

- `Report.combine`, the outcome of a round for a threshold;
- `Client`, which runs rounds, with `Client.runRound?` and `Client.requestApprovals?`.
-/

namespace Registrar.Approval

variable {σ : Type}

/-- Why there is no combined approval. -/
inductive ConsensusFault where
  | roundChanged (fault : OracleFault)
  | tooFew (shortage : TooFewApprovals)
deriving DecidableEq

/-- The wording of a fault. -/
def ConsensusFault.message : ConsensusFault → String
  | .roundChanged fault => "Approval round must be rebuilt: " ++ fault.message
  | .tooFew shortage => shortage.message

/-- What the oracles of a round approve together. -/
def Report.combine (r : Report) (threshold : Nat) : Except ConsensusFault CombinedApproval :=
  match Majority.combine r.approvals threshold with
  | .ok a => .ok a
  | .error shortage =>
    match r.stale? with
    | some fault => .error (.roundChanged fault)
    | none => .error (.tooFew shortage)

/-! ## Clients -/

/-- Who runs rounds: how often replicas are tried, and how many milliseconds a round may take. -/
structure Client where
  retry : RetryPolicy
  timeout : Nat
deriving DecidableEq

namespace Client

variable (services : Services σ)

/-- A round, one oracle after the other; `none` at the end of the tape. -/
def runRound? (c : Client) (set : OracleSet) (request : Request) (t : Tape) (w : σ) :
    Option (Stage σ × Tape) :=
  match plans? (set.members.map (·.2)) t with
  | none => none
  | some (plans, t) =>
    some ((Stage.start c.retry request plans w).inTurn services c.retry.delay.toNat c.timeout, t)

/-- What a round leads to. -/
def requestApprovals? (c : Client) (set : OracleSet) (request : Request) (t : Tape) (w : σ) :
    Option (Except ConsensusFault CombinedApproval × σ × Tape) :=
  match c.runRound? services set request t w with
  | none => none
  | some (stage, t) =>
    some ((stage.report set).combine set.threshold.toNat, stage.state, t)

end Client

end Registrar.Approval
