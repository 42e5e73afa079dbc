import Registrar.Approval.Request
import Registrar.Approval.Session

/-!
# One oracle

The replicas of an oracle are asked one after the other until one approves. After every failure the
registry is looked at: once its root or the index of the next validator is not the one in the
request, no replica can approve it any more, and the walk ends.

## Contents

- `RetryPolicy`;
- `Standing`, what the registry says about a request, and `standing`, which finds out;
- `OracleFault`, and `walk`, the session of one oracle.
-/

namespace Registrar.Approval

/-- How often a replica is tried, and the time in milliseconds before it is tried again. -/
structure RetryPolicy where
  maxAttempts : UInt32
  delay : UInt64
deriving DecidableEq

/-- The policy with at least one attempt. -/
def RetryPolicy.ofLimits (maxAttempts : UInt32) (delay : UInt64) : RetryPolicy :=
  ⟨max 1 maxAttempts, delay⟩

/-- How often a replica may be tried again. -/
def RetryPolicy.retries (p : RetryPolicy) : Nat := p.maxAttempts.toNat - 1

/-! ## Faults -/

/-- How the session of an oracle ends without an approval. -/
inductive OracleFault where
  | rootChanged (expected actual : Hash)
  | indexChanged (expected actual : UInt64)
  | replica (endpoint : String) (fault : ReplicaFault)
  | noReplicas
  | timeout
  | unknownState (reason : String)
deriving DecidableEq

namespace OracleFault

/-- Whether the request has to be made anew. -/
def isStale : OracleFault → Bool
  | .rootChanged _ _ | .indexChanged _ _ => true
  | _ => false

/-- The wording of a fault. -/
def message : OracleFault → String
  | .rootChanged expected actual =>
    "Validators registry root changed: expected " ++ Hex.ofOctets expected ++ ", actual "
      ++ Hex.ofOctets actual
  | .indexChanged expected actual =>
    "Validator index changed: expected " ++ toString expected ++ ", actual " ++ toString actual
  | .replica endpoint fault => "Replica " ++ endpoint ++ " failed: " ++ fault.message
  | .noReplicas => "Oracle has no replicas"
  | .timeout => "Approval round timed out"
  | .unknownState reason => "Failed to check round state: " ++ reason

end OracleFault

/-- How the session of an oracle ends. -/
abbrev Outcome := Except OracleFault SignedApproval

/-! ## The registry -/

/-- What the registry says about a request. -/
inductive Standing where
  | current
  | otherRoot (live : Hash)
  | otherIndex (live : UInt64)
deriving DecidableEq

/-- Looks at the root of the registry, and at its index if the root is the one in the request. -/
def standing (r : Request) : Session (Except String Standing) :=
  .readRoot fun root =>
    match root with
    | .error reason => .done (.error reason)
    | .ok root =>
      if root ≠ r.registryRoot then .done (.ok (.otherRoot root))
      else .readIndex fun index =>
        match index with
        | .error reason => .done (.error reason)
        | .ok index =>
          .done (.ok (if index ≠ r.validatorIndex then .otherIndex index else .current))

/-- The fault that ends the session of an oracle, unless the request is current. -/
def endingFault? (r : Request) : Except String Standing → Option OracleFault
  | .error reason => some (.unknownState reason)
  | .ok (.otherRoot live) => some (.rootChanged r.registryRoot live)
  | .ok (.otherIndex live) => some (.indexChanged r.validatorIndex live)
  | .ok .current => none

/-! ## Replicas -/

/-- One call to a replica. A failure ends the session unless the request is current. -/
def attempt (r : Request) (endpoint : String) (onFailure : ReplicaFault → Session Outcome) :
    Session Outcome :=
  .post endpoint r.payload fun reply =>
    match approvalOf reply with
    | .ok a => .done (.ok a)
    | .error fault =>
      (standing r).bind fun found =>
        match endingFault? r found with
        | some ending => .done (.error ending)
        | none => onFailure fault

/-- Asks one replica, again up to `retries` times after transient failures; then goes on. -/
def ask (r : Request) (endpoint : String) (goOn : ReplicaFault → Session Outcome) :
    (retries : Nat) → Session Outcome
  | 0 => attempt r endpoint goOn
  | retries + 1 =>
    attempt r endpoint fun fault =>
      if fault.isTransient then .pause (ask r endpoint goOn retries) else goOn fault

/-- Asks the replicas in order. `last` is the fault so far. -/
def walkFrom (p : RetryPolicy) (r : Request) (last : OracleFault) : List String → Session Outcome
  | [] => .done (.error last)
  | endpoint :: rest =>
    ask r endpoint (fun fault => walkFrom p r (.replica endpoint fault) rest) p.retries

/-- The session of one oracle with the given replicas. -/
def walk (p : RetryPolicy) (r : Request) (replicas : List String) : Session Outcome :=
  walkFrom p r .noReplicas replicas

end Registrar.Approval
