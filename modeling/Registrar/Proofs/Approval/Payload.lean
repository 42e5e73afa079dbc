import Registrar.Command.Run
import Registrar.Proofs.Approval.Schedule
import Registrar.Proofs.Json.Formats

/-!
# Requests reach replicas unchanged

Whatever is posted in a round is one text, and the request can be read back out of it: all strings with all
their characters, all lists, all numbers and all byte strings. So different requests have different texts,
and a text that was posted can be kept in a file and posted again.

## Contents

- `Request.format_restores` and `Request.ofPayload?`, the way back from the bytes that are posted;
- `Session.Posts`, the payload of all calls of a session to replicas, with `Session.Posts.step` for one call
  and `Stage.Posts.follow` for a schedule; `walk_posts` and `Stage.carries_follow`;
- `payload_faithful`.
-/

namespace Registrar.Approval

open Json Json.Format
open Json.Fields (cons_restores none_restores)

/-! ## Requests out of bytes -/

namespace Request

/-- **A request is read back.** -/
theorem format_restores (r : Request) : format.Restores 3 r := by
  have hnumber : ∀ expected n, (unsigned64 expected).Restores 2 n := fun expected n =>
    (unsigned64_restores expected n).mono (by omega)
  have hoctets : ∀ {n : Nat} (a : Octets n), (octets n).Restores 2 a := fun a =>
    (octets_restores a).mono (by omega)
  have htexts : ∀ texts, (list text).Restores 1 texts := fun texts =>
    list_restores fun s _ => text_restores s
  have hstrings : ∀ texts, (list text).Restores 2 texts := fun texts => (htexts texts).mono (by omega)
  have hshards : ∀ shards, (list (list text)).Restores 2 shards := fun shards =>
    list_restores fun texts _ => htexts texts
  have hproof : (list (octets 32)).Restores 2 r.proof :=
    (list_restores fun a _ => octets_restores a).mono (by omega)
  have hflags : (list flag).Restores 2 r.proofFlags :=
    (list_restores fun b _ => flag_restores b).mono (by omega)
  have hindexes : (list usize).Restores 2 r.proofIndexes :=
    (list_restores fun n _ => unsigned64_restores "usize" n).mono (by omega)
  exact along_restores (record_restores <|
    cons_restores (hnumber _ _) (by decide) <| cons_restores (hoctets _) (by decide) <|
    cons_restores (hoctets _) (by decide) <| cons_restores (hstrings _) (by decide) <|
    cons_restores (hstrings _) (by decide) <| cons_restores (hshards _) (by decide) <|
    cons_restores (hshards _) (by decide) <| cons_restores hproof (by decide) <|
    cons_restores hflags (by decide) <| cons_restores hindexes (by decide) <|
    cons_restores (hnumber _ _) (by decide) <| none_restores 2) rfl

theorem ofText_compactText (r : Request) : format.ofText (format.compactText r) = .ok r :=
  Format.ofText_compactText r.format_restores (by decide)

/-- The request that bytes hold. -/
def ofPayload? (bs : Bytes) : Option Request :=
  (Text.Utf8.read? bs).bind fun text => (format.ofText text).toOption

/-- **A request is read back from the bytes that are posted.** -/
theorem ofPayload?_payload (r : Request) : ofPayload? r.payload = some r := by
  rw [ofPayload?, payload, Text.Utf8.read?_write, Option.bind_some, ofText_compactText]
  rfl

theorem payload_inj {r r' : Request} (h : r.payload = r'.payload) : r = r' := by
  have hread := congrArg ofPayload? h
  rw [ofPayload?_payload, ofPayload?_payload] at hread
  exact Option.some.inj hread

end Request

/-! ## What sessions post -/

namespace Session

variable {α β σ : Type} {payload : Bytes}

/-- Whatever the answers are, all calls to replicas have the payload. -/
def Posts (payload : Bytes) : Session α → Prop
  | .done _ => True
  | .post _ sent next => sent = payload ∧ ∀ reply, (next reply).Posts payload
  | .readRoot next => ∀ answer, (next answer).Posts payload
  | .readIndex next => ∀ answer, (next answer).Posts payload
  | .pause next => next.Posts payload

theorem Posts.bind {s : Session α} {f : α → Session β} (h : s.Posts payload)
    (hf : ∀ a, (f a).Posts payload) : (s.bind f).Posts payload := by
  induction s with
  | done a => exact hf a
  | post endpoint sent next ih => exact ⟨h.1, fun reply => ih reply (h.2 reply)⟩
  | readRoot next ih => exact fun answer => ih answer (h answer)
  | readIndex next ih => exact fun answer => ih answer (h answer)
  | pause next ih => exact ih h

/-- **One call.** -/
theorem Posts.step {services : Services σ} {caller : Nat} {s left : Session α} {event : Event}
    {w w' : σ} (h : s.Posts payload) (hstep : s.step? services caller w = some (event, left, w')) :
    left.Posts payload ∧
      ∀ endpoint sent reply, event = .posted endpoint sent reply → sent = payload := by
  cases s with
  | done a => cases hstep
  | post endpoint sent next =>
    cases hstep
    refine ⟨h.2 _, ?_⟩
    rintro _ _ _ ⟨⟩
    exact h.1
  | readRoot next =>
    cases hstep
    exact ⟨h _, nofun⟩
  | readIndex next =>
    cases hstep
    exact ⟨h _, nofun⟩
  | pause next =>
    cases hstep
    exact ⟨h, nofun⟩

end Session

/-! ### Walks -/

variable {r : Request}

theorem standing_posts (r : Request) (payload : Bytes) : (standing r).Posts payload := by
  intro root
  cases root with
  | error reason => trivial
  | ok root =>
    dsimp only
    split
    · trivial
    · intro index
      cases index <;> trivial

theorem attempt_posts (endpoint : String) {onFailure : ReplicaFault → Session Outcome}
    (h : ∀ fault, (onFailure fault).Posts r.payload) :
    (attempt r endpoint onFailure).Posts r.payload := by
  refine ⟨rfl, fun reply => ?_⟩
  dsimp only
  split
  · trivial
  · refine (standing_posts r _).bind fun found => ?_
    split
    · trivial
    · exact h _

theorem ask_posts (endpoint : String) {goOn : ReplicaFault → Session Outcome}
    (h : ∀ fault, (goOn fault).Posts r.payload) (retries : Nat) :
    (ask r endpoint goOn retries).Posts r.payload := by
  induction retries with
  | zero => exact attempt_posts endpoint h
  | succ retries ih =>
    refine attempt_posts endpoint fun fault => ?_
    split
    · exact ih
    · exact h fault

/-- **A walk posts the request and nothing else.** -/
theorem walk_posts (p : RetryPolicy) (r : Request) (replicas : List String) :
    (walk p r replicas).Posts r.payload := by
  rw [walk]
  generalize OracleFault.noReplicas = last
  induction replicas generalizing last with
  | nil => trivial
  | cons endpoint rest ih => exact ask_posts endpoint (fun fault => ih _) _

/-! ### Rounds -/

namespace Stage

variable {σ : Type} {payload : Bytes} {s : Stage σ}

/-- All calls to replicas, those made and those still to be made, have the payload. -/
structure Posts (payload : Bytes) (s : Stage σ) : Prop where
  tasks : ∀ task ∈ s.tasks, task.Posts payload
  events : ∀ caller endpoint sent reply, (caller, .posted endpoint sent reply) ∈ s.events →
    sent = payload

theorem start_posts (p : RetryPolicy) (r : Request) (plans : List (List String)) (w : σ) :
    (start p r plans w).Posts r.payload where
  tasks task htask := by
    obtain ⟨plan, -, rfl⟩ := List.mem_map.mp htask
    exact walk_posts p r plan
  events caller endpoint sent reply hcall := nomatch hcall

theorem Posts.advance (services : Services σ) (h : s.Posts payload) (i : Nat) :
    (s.advance services i).Posts payload := by
  rcases s.advance_cases services i with ⟨hsame, -⟩ | ⟨task, event, left, w, htask, hstep, hnext⟩
  · rw [hsame]
    exact h
  · obtain ⟨hleft, hevent⟩ := (h.tasks task (List.mem_of_getElem? htask)).step hstep
    rw [hnext]
    refine ⟨fun other hother => ?_, fun caller endpoint sent reply hcall => ?_⟩
    · rcases List.mem_or_eq_of_mem_set hother with hother | rfl
      · exact h.tasks other hother
      · exact hleft
    · rcases List.mem_append.mp hcall with hcall | hcall
      · exact h.events caller endpoint sent reply hcall
      · exact hevent endpoint sent reply (Prod.mk.inj (List.mem_singleton.mp hcall)).2.symm

/-- **A schedule posts nothing else.** -/
theorem Posts.follow (services : Services σ) (h : s.Posts payload) (schedule : List Nat) :
    (s.follow services schedule).Posts payload := by
  induction schedule generalizing s with
  | nil => exact h
  | cons i schedule ih => exact ih (h.advance services i)

/-- In every call so far a replica was sent the bytes of the request, and they hold it. -/
def Carries (request : Request) (s : Stage σ) : Prop :=
  ∀ caller endpoint sent reply, (caller, .posted endpoint sent reply) ∈ s.events →
    sent = request.payload ∧ Request.ofPayload? sent = some request

theorem carries_follow (services : Services σ) (p : RetryPolicy) (r : Request)
    (plans : List (List String)) (w : σ) (schedule : List Nat) :
    ((start p r plans w).follow services schedule).Carries r := by
  intro caller endpoint sent reply hcall
  have hround := (start_posts p r plans w).follow services schedule
  obtain rfl := hround.events caller endpoint sent reply hcall
  exact ⟨rfl, r.ofPayload?_payload⟩

end Stage

/-! ## Files and rounds -/

/-- A request that lies in a file as it was posted is read by the program. -/
theorem readData_payload {files : Workspace} {path : String} {r : Request}
    (h : files.read path = .ok r.payload) : Command.readData files Request.format path = .ok r := by
  have htext : files.readText path = .ok (Request.format.compactText r) :=
    Workspace.readText_of_read h
  simp only [Command.readData, htext, Request.ofText_compactText]

/-- **Replicas receive exactly the request.** Whoever answers, and in whichever order the oracles make their
    calls, be it a client's or any other one, the bytes of every call to a replica hold the request of the
    round; the program itself reads them as that request; and they are the bytes of no other request. -/
theorem payload_faithful (request : Request) :
    (∀ (σ : Type) (services : Services σ) (w : σ),
        (∀ policy plans schedule,
          ((Stage.start policy request plans w).follow services schedule).Carries request) ∧
        ∀ (client : Client) set t rest stage,
          client.runRound? services set request t w = some (stage, rest) → stage.Carries request) ∧
      (∀ (files : Workspace) (path : String), files.read path = .ok request.payload →
        Command.readData files Request.format path = .ok request) ∧
      ∀ other : Request, other.payload = request.payload → other = request := by
  refine ⟨fun σ services w => ⟨fun policy plans schedule => ?_, ?_⟩, fun files path => readData_payload,
    fun other => Request.payload_inj⟩
  · exact Stage.carries_follow services policy request plans w schedule
  · intro client set t rest stage hround
    obtain ⟨plans, schedule, -, rfl⟩ := exists_follow_runRound? hround
    exact Stage.carries_follow services client.retry request plans w schedule

/-- A replica that refuses whatever it gets has still got the request, with its quotes, line breaks and
    largest numbers. -/
theorem payload_faithful_quoted :
    let request : Request := {
      validatorIndex := 18446744073709551615
      vault := .replicate 20 0xab
      registryRoot := .replicate 32 0xff
      publicKeys := ["\"\\\n\t", "é😀"]
      depositSignatures := [""]
      keyShards := [[], ["0x01", "/"]]
      exitShards := []
      proof := [.zero 32]
      proofFlags := [true, false]
      proofIndexes := [0, 18446744073709551615]
      deadline := 0 }
    let services : Services Unit :=
      ⟨fun _ _ _ w => (.unsendable, w), fun w => (.error "", w), fun w => (.error "", w)⟩
    let stage := (Stage.start ⟨1, 0⟩ request [["http://replica"]] ()).follow services [0]
    ∃ sent, (0, .posted "http://replica" sent .unsendable) ∈ stage.events ∧
      Request.ofPayload? sent = some request := by
  intro request services stage
  have hcall : (0, .posted "http://replica" request.payload .unsendable) ∈ stage.events :=
    List.mem_singleton.mpr rfl
  have hcarries := ((payload_faithful request).1 Unit services ()).1 ⟨1, 0⟩ [["http://replica"]] [0]
  exact ⟨request.payload, hcall, (hcarries _ _ _ _ hcall).2⟩

end Registrar.Approval
