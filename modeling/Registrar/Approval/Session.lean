import Registrar.Approval.Replica

/-!
# Sessions

What a task has still to do, as data: it is done, or it makes a call and goes on with the answer.
Those who answer are `Services` with a state. Because a session is an inductive type, every run of
one comes to an end, whatever the answers are.

## Contents

- `Session` with its monad;
- `Services`, `Event`, and `Session.step?`, which makes the next call;
- `Session.play`, all calls up to the end, and `Session.playUntil`, those before a deadline.
-/

namespace Registrar.Approval

/-- What has still to be done for a result. -/
inductive Session (α : Type) where
  | done (result : α)
  | post (endpoint : String) (payload : Bytes) (next : Reply → Session α)
  | readRoot (next : Except String Hash → Session α)
  | readIndex (next : Except String UInt64 → Session α)
  | pause (next : Session α)

namespace Session

variable {α β σ : Type}

/-- One session, and another one that goes on with its result. -/
def bind (s : Session α) (f : α → Session β) : Session β :=
  match s with
  | .done a => f a
  | .post endpoint payload next => .post endpoint payload fun r => (next r).bind f
  | .readRoot next => .readRoot fun r => (next r).bind f
  | .readIndex next => .readIndex fun r => (next r).bind f
  | .pause next => .pause (next.bind f)

instance : Monad Session where
  pure := .done
  bind := .bind

/-- The result, if nothing is left to do. -/
def result? : Session α → Option α
  | .done a => some a
  | _ => none

end Session

/-! ## Calls -/

/-- Those who answer calls. Replicas know who calls. -/
structure Services (σ : Type) where
  reply : (caller : Nat) → (endpoint : String) → (payload : Bytes) → σ → Reply × σ
  root : σ → Except String Hash × σ
  index : σ → Except String UInt64 × σ

/-- A call with its answer. -/
inductive Event where
  | posted (endpoint : String) (payload : Bytes) (reply : Reply)
  | rootRead (answer : Except String Hash)
  | indexRead (answer : Except String UInt64)
  | paused

namespace Session

variable {α σ : Type} (services : Services σ) (caller : Nat)

/-- The next call with its answer, and what is left after it. -/
def step? (w : σ) : Session α → Option (Event × Session α × σ)
  | .done _ => none
  | .post endpoint payload next =>
    let (r, w) := services.reply caller endpoint payload w
    some (.posted endpoint payload r, next r, w)
  | .readRoot next =>
    let (r, w) := services.root w
    some (.rootRead r, next r, w)
  | .readIndex next =>
    let (r, w) := services.index w
    some (.indexRead r, next r, w)
  | .pause next => some (.paused, next, w)

/-- All calls in order, and the result. -/
def play (w : σ) : Session α → List Event × α × σ
  | .done a => ([], a, w)
  | .post endpoint payload next =>
    let (r, w) := services.reply caller endpoint payload w
    let (events, a, w) := (next r).play w
    (.posted endpoint payload r :: events, a, w)
  | .readRoot next =>
    let (r, w) := services.root w
    let (events, a, w) := (next r).play w
    (.rootRead r :: events, a, w)
  | .readIndex next =>
    let (r, w) := services.index w
    let (events, a, w) := (next r).play w
    (.indexRead r :: events, a, w)
  | .pause next =>
    let (events, a, w) := next.play w
    (.paused :: events, a, w)

/-- The calls before a deadline, and what is left then. Only pauses take time: each of them
`delay`. -/
def playUntil (delay deadline : Nat) (clock : Nat) (w : σ) :
    Session α → List Event × Session α × σ
  | .done a => ([], .done a, w)
  | .post endpoint payload next =>
    let (r, w) := services.reply caller endpoint payload w
    let (events, left, w) := (next r).playUntil delay deadline clock w
    (.posted endpoint payload r :: events, left, w)
  | .readRoot next =>
    let (r, w) := services.root w
    let (events, left, w) := (next r).playUntil delay deadline clock w
    (.rootRead r :: events, left, w)
  | .readIndex next =>
    let (r, w) := services.index w
    let (events, left, w) := (next r).playUntil delay deadline clock w
    (.indexRead r :: events, left, w)
  | .pause next =>
    if clock + delay < deadline then
      let (events, left, w) := next.playUntil delay deadline (clock + delay) w
      (.paused :: events, left, w)
    else ([], .pause next, w)

end Session

end Registrar.Approval
