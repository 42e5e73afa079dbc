import Registrar.Approval.Walk
import Registrar.Oracle.Set
import Registrar.Tape

/-!
# Rounds

All oracles of a set are asked at the same time, each about its replicas in a random order. The
tasks share the services that they call, so a round is a `Stage` on which one task after the other
makes its next call, in any order. What is still open at the deadline counts as timed out.

## Contents

- `plans?`, the order in which replicas are asked;
- `Stage` with `Stage.advance` and `Stage.follow`, any order of calls, and `Stage.inTurn`, one task
  after the other;
- `Report`, what came out, and `Stage.report`.
-/

namespace Registrar.Approval

variable {σ : Type}

/-! ## Plans -/

/-- The replicas of every oracle in random order. -/
def plans? : List (List String) → Tape → Option (List (List String) × Tape)
  | [], t => some ([], t)
  | endpoints :: rest, t =>
    match t.shuffle? endpoints with
    | none => none
    | some (plan, t) =>
      match plans? rest t with
      | none => none
      | some (others, t) => some (plan :: others, t)

/-! ## Stages -/

/-- What every task has still to do, and the calls so far, each with the task that made it. -/
structure Stage (σ : Type) where
  tasks : List (Session Outcome)
  events : List (Nat × Event)
  state : σ

namespace Stage

/-- Nothing has been called. -/
def start (p : RetryPolicy) (r : Request) (plans : List (List String)) (w : σ) : Stage σ where
  tasks := plans.map (walk p r)
  events := []
  state := w

variable (services : Services σ)

/-- A task makes its next call, if there is one. -/
def advance (s : Stage σ) (i : Nat) : Stage σ :=
  match s.tasks[i]? with
  | none => s
  | some task =>
    match task.step? services i s.state with
    | none => s
    | some (event, left, w) =>
      ⟨s.tasks.set i left, s.events ++ [(i, event)], w⟩

/-- Tasks make calls in the order of a schedule. -/
def follow (schedule : List Nat) (s : Stage σ) : Stage σ := schedule.foldl (advance services) s

/-- A task makes all its calls before the deadline. -/
def finish (delay deadline : Nat) (s : Stage σ) (i : Nat) : Stage σ :=
  match s.tasks[i]? with
  | none => s
  | some task =>
    let (events, left, w) := task.playUntil services i delay deadline 0 s.state
    ⟨s.tasks.set i left, s.events ++ events.map fun e => (i, e), w⟩

/-- One task after the other makes all its calls before the deadline. -/
def inTurn (delay deadline : Nat) (s : Stage σ) : Stage σ :=
  (List.range s.tasks.length).foldl (finish services delay deadline) s

end Stage

/-! ## Reports -/

/-- What came out for an oracle. -/
structure OracleResult where
  oracle : Address
  endpoints : List String
  outcome : Outcome

/-- What came out for all oracles, in the order of the set. -/
structure Report where
  results : List OracleResult

namespace Report

/-- Whether an oracle approved. -/
def isApproval (r : OracleResult) : Bool :=
  match r.outcome with
  | .ok _ => true
  | .error _ => false

/-- The number of oracles that approved. -/
def approved (r : Report) : Nat := r.results.countP isApproval

/-- The number of oracles. -/
def total (r : Report) : Nat := r.results.length

/-- The endpoints of the oracles that did not approve, as they were given. -/
def failedEndpoints (r : Report) : List String :=
  (r.results.filter fun x => !isApproval x).flatMap (·.endpoints)

/-- The approvals with the addresses of those who gave them. -/
def approvals (r : Report) : List (Address × SignedApproval) :=
  r.results.filterMap fun x =>
    match x.outcome with
    | .ok a => some (x.oracle, a)
    | .error _ => none

/-- The first fault that says that the request has to be made anew. -/
def stale? (r : Report) : Option OracleFault :=
  r.results.findSome? fun x =>
    match x.outcome with
    | .ok _ => none
    | .error fault => if fault.isStale then some fault else none

/-- The report on oracles, from their tasks as they are at the deadline. -/
def ofTasks (members : List (Address × List String)) (tasks : List (Session Outcome)) : Report where
  results := members.zipWith (fun (oracle, endpoints) task =>
    ⟨oracle, endpoints, task.result?.getD (.error .timeout)⟩) tasks

end Report

/-- The report at the deadline. -/
def Stage.report (set : OracleSet) (s : Stage σ) : Report := .ofTasks set.members s.tasks

end Registrar.Approval
