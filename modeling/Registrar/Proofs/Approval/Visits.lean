import Mathlib.Data.List.Forall2
import Registrar.Approval.Walk

/-!
# The visits of a walk

What the session of one oracle does, call by call, whoever answers. The replicas are visited in order;
a visit is a row of trials of one replica; a trial is a call together with what is read of the registry
after it.

## Contents

- `Session.Runs`: the events of a session under any answers, and its result; `Session.runs_play`;
- `Trial` with `Trial.WellRead`, what is read after a call, and `Trial.ending?`, the outcome that a
  trial ends a walk with;
- `Visited`, the rule of a visit, with `Session.Runs.exists_visited`;
- `Walked`, the rule of a walk, with `Session.Runs.exists_walked` and `exists_walked_play`.
-/

namespace Registrar.Approval

/-! ## Runs of a session -/

namespace Session

variable {α β σ : Type}

/-- The events of a session up to its end, under any answers, and its result. -/
inductive Runs : Session α → List Event → α → Prop where
  | done (a : α) : Runs (.done a) [] a
  | post {endpoint payload next reply events a} (h : Runs (next reply) events a) :
      Runs (.post endpoint payload next) (.posted endpoint payload reply :: events) a
  | readRoot {next answer events a} (h : Runs (next answer) events a) :
      Runs (.readRoot next) (.rootRead answer :: events) a
  | readIndex {next answer events a} (h : Runs (next answer) events a) :
      Runs (.readIndex next) (.indexRead answer :: events) a
  | pause {next events a} (h : Runs next events a) : Runs (.pause next) (.paused :: events) a

/-- **Whoever answers, the calls made up to the end are a run.** -/
theorem runs_play (services : Services σ) (caller : Nat) (s : Session α) (w : σ) :
    Runs s (s.play services caller w).1 (s.play services caller w).2.1 := by
  induction s generalizing w with
  | done a => exact .done a
  | post endpoint payload next ih => exact .post (ih _ _)
  | readRoot next ih => exact .readRoot (ih _ _)
  | readIndex next ih => exact .readIndex (ih _ _)
  | pause next ih => exact .pause (ih _)

/-- A run of a session that goes on with its result is a run of it and then one of the rest. -/
theorem Runs.of_bind {s : Session α} {f : α → Session β} {events : List Event} {b : β}
    (h : Runs (s.bind f) events b) :
    ∃ first a rest, events = first ++ rest ∧ Runs s first a ∧ Runs (f a) rest b := by
  induction s generalizing events with
  | done a => exact ⟨[], a, events, rfl, .done a, h⟩
  | post endpoint payload next ih =>
    cases h with
    | post h =>
      obtain ⟨first, a, rest, rfl, hfirst, hrest⟩ := ih _ h
      exact ⟨_, a, rest, rfl, .post hfirst, hrest⟩
  | readRoot next ih =>
    cases h with
    | readRoot h =>
      obtain ⟨first, a, rest, rfl, hfirst, hrest⟩ := ih _ h
      exact ⟨_, a, rest, rfl, .readRoot hfirst, hrest⟩
  | readIndex next ih =>
    cases h with
    | readIndex h =>
      obtain ⟨first, a, rest, rfl, hfirst, hrest⟩ := ih _ h
      exact ⟨_, a, rest, rfl, .readIndex hfirst, hrest⟩
  | pause next ih =>
    cases h with
    | pause h =>
      obtain ⟨first, a, rest, rfl, hfirst, hrest⟩ := ih h
      exact ⟨_, a, rest, rfl, .pause hfirst, hrest⟩

end Session

/-! ## Trials -/

/-- A call to a replica, and what was read of the registry after it: its root, if it was read, and its
    index, if it was read. -/
structure Trial where
  endpoint : String
  reply : Reply
  root : Option (Except String Hash)
  index : Option (Except String UInt64)

/-- The fault that an answer about the root, and one about the index if there is one, end a walk with,
    unless the request is current. -/
def faultFound? (r : Request) : Except String Hash → Option (Except String UInt64) →
    Option OracleFault
  | .error reason, _ => some (.unknownState reason)
  | .ok live, index =>
    if live ≠ r.registryRoot then some (.rootChanged r.registryRoot live)
    else match index with
      | some (.error reason) => some (.unknownState reason)
      | some (.ok live) =>
        if live ≠ r.validatorIndex then some (.indexChanged r.validatorIndex live) else none
      | none => none

namespace Trial

/-- The events of a trial: the call, and the reads after it. -/
def events (payload : Bytes) (t : Trial) : List Event :=
  .posted t.endpoint payload t.reply ::
    ((t.root.map Event.rootRead).toList ++ (t.index.map Event.indexRead).toList)

/-- The replica gave the fault. -/
def Fails (t : Trial) (fault : ReplicaFault) : Prop := approvalOf t.reply = .error fault

/-- The replica gave a fault that is worth another try. -/
def Transient (t : Trial) : Prop := ∃ fault, t.Fails fault ∧ fault.isTransient = true

/-- The root is read after a failed call only, and the index after a root only that is the one in the
    request. -/
def WellRead (r : Request) (t : Trial) : Prop :=
  (t.root.isSome ↔ ∃ fault, t.Fails fault) ∧ (t.index.isSome ↔ t.root = some (.ok r.registryRoot))

/-- The outcome that a trial ends a walk with, if it does: the approval, or what was found out about
    the registry. -/
def ending? (r : Request) (t : Trial) : Option Outcome :=
  match approvalOf t.reply with
  | .ok a => some (.ok a)
  | .error _ => (t.root.bind fun root => faultFound? r root t.index).map .error

end Trial

/-- What is read of the registry, and what it says about a request. -/
theorem Session.Runs.of_standing {r : Request} {events : List Event} {found : Except String Standing}
    (h : Runs (standing r) events found) :
    ∃ root index,
      events = .rootRead root :: (Option.map Event.indexRead index).toList ∧
      (index.isSome ↔ root = .ok r.registryRoot) ∧
      endingFault? r found = faultFound? r root index := by
  unfold standing at h
  cases h with
  | @readRoot _ root _ _ h =>
    cases root with
    | error reason =>
      cases h
      exact ⟨.error reason, none, rfl, by simp, rfl⟩
    | ok live =>
      dsimp only at h
      by_cases hlive : live = r.registryRoot
      · rw [if_neg (not_not_intro hlive)] at h
        subst hlive
        cases h with
        | @readIndex _ answer _ _ h =>
          refine ⟨.ok r.registryRoot, some answer, ?_, by simp, ?_⟩
          · cases answer <;> cases h <;> rfl
          · cases answer with
            | error reason =>
              cases h
              simp [faultFound?, endingFault?]
            | ok live =>
              cases h
              by_cases hindex : live = r.validatorIndex
              · simp [faultFound?, endingFault?, hindex]
              · simp [faultFound?, endingFault?, hindex]
      · rw [if_pos hlive] at h
        cases h
        refine ⟨.ok live, none, rfl, by simp [hlive], ?_⟩
        simp [faultFound?, endingFault?, hlive]

/-- **An attempt is a trial**: it ends the walk, or what comes after the failure follows. -/
theorem Session.Runs.of_attempt {r : Request} {endpoint : String}
    {onFailure : ReplicaFault → Session Outcome} {events : List Event} {outcome : Outcome}
    (h : Runs (attempt r endpoint onFailure) events outcome) :
    ∃ t : Trial, t.endpoint = endpoint ∧ t.WellRead r ∧
      ((t.ending? r = some outcome ∧ events = t.events r.payload) ∨
        ∃ fault rest, t.ending? r = none ∧ t.Fails fault ∧ Runs (onFailure fault) rest outcome ∧
          events = t.events r.payload ++ rest) := by
  unfold attempt at h
  cases h with
  | @post _ _ _ reply _ _ h =>
    dsimp only at h
    cases happroval : approvalOf reply with
    | ok a =>
      rw [happroval] at h
      cases h
      refine ⟨⟨endpoint, reply, none, none⟩, rfl, ?_, .inl ⟨?_, rfl⟩⟩
      · simp [Trial.WellRead, Trial.Fails, happroval]
      · simp [Trial.ending?, happroval]
    | error fault =>
      rw [happroval] at h
      obtain ⟨reads, found, rest, rfl, hreads, hrest⟩ := Runs.of_bind h
      obtain ⟨root, index, rfl, hindex, hfound⟩ := Runs.of_standing hreads
      refine ⟨⟨endpoint, reply, some root, index⟩, rfl, ?_, ?_⟩
      · simpa [Trial.WellRead, Trial.Fails, happroval] using hindex
      · have hending : Trial.ending? r ⟨endpoint, reply, some root, index⟩
            = (endingFault? r found).map .error := by
          simp [Trial.ending?, happroval, hfound]
        cases hfault : endingFault? r found with
        | some ending =>
          rw [hfault] at hrest
          cases hrest
          refine .inl ⟨by rw [hending, hfault]; rfl, ?_⟩
          simp [Trial.events]
        | none =>
          rw [hfault] at hrest
          refine .inr ⟨fault, rest, by rw [hending, hfault]; rfl, happroval, hrest, ?_⟩
          simp [Trial.events]

/-! ## Visits -/

/-- The rule of a visit, in which a replica is tried up to a number of times: it is tried once more
    right after a transient failure only, and given up after one only if no try is left. -/
structure Visited (r : Request) (attempts : Nat) (endpoint : String) (visit : List Trial) : Prop where
  ne_nil : visit ≠ []
  length_le : visit.length ≤ attempts
  endpoint_eq : ∀ t ∈ visit, t.endpoint = endpoint
  again : ∀ t ∈ visit.dropLast, t.Transient
  givenUp : ∀ t ∈ visit.getLast?, t.ending? r = none → t.Transient → visit.length = attempts

/-- The events of a visit: those of its trials, with a pause before each but the first. -/
def visitEvents (payload : Bytes) (visit : List Trial) : List Event :=
  List.intercalate [.paused] (visit.map (Trial.events payload))

theorem visitEvents_singleton (payload : Bytes) (t : Trial) :
    visitEvents payload [t] = t.events payload := by
  simp [visitEvents, List.intercalate]

theorem visitEvents_cons (payload : Bytes) (t : Trial) {visit : List Trial} (h : visit ≠ []) :
    visitEvents payload (t :: visit)
      = t.events payload ++ .paused :: visitEvents payload visit := by
  obtain ⟨u, visit, rfl⟩ := List.exists_cons_of_ne_nil h
  simp [visitEvents, List.intercalate]

variable {r : Request} {endpoint : String}

theorem Visited.single {attempts : Nat} {t : Trial} (hendpoint : t.endpoint = endpoint)
    (hattempts : 1 ≤ attempts) (hlast : t.ending? r = none → t.Transient → attempts = 1) :
    Visited r attempts endpoint [t] where
  ne_nil := List.cons_ne_nil _ _
  length_le := hattempts
  endpoint_eq := by simpa using hendpoint
  again := by simp
  givenUp := by
    intro u hu hnone htransient
    cases hu
    exact (hlast hnone htransient).symm

theorem Visited.cons {attempts : Nat} {t : Trial} {visit : List Trial}
    (hendpoint : t.endpoint = endpoint) (htransient : t.Transient)
    (h : Visited r attempts endpoint visit) : Visited r (attempts + 1) endpoint (t :: visit) where
  ne_nil := List.cons_ne_nil _ _
  length_le := Nat.succ_le_succ h.length_le
  endpoint_eq := List.forall_mem_cons.mpr ⟨hendpoint, h.endpoint_eq⟩
  again := by
    rw [List.dropLast_cons_of_ne_nil h.ne_nil]
    exact List.forall_mem_cons.mpr ⟨htransient, h.again⟩
  givenUp := by
    intro u hu hnone hagain
    rw [List.getLast?_cons_of_ne_nil h.ne_nil] at hu
    exact congrArg (· + 1) (h.givenUp u hu hnone hagain)

/-- **A replica is visited by the rule**: the visit ends the walk with its last trial, or no trial of it
    does and what comes after its last fault follows. -/
theorem Session.Runs.exists_visited {goOn : ReplicaFault → Session Outcome} {retries : Nat}
    {events : List Event} {outcome : Outcome} (h : Runs (ask r endpoint goOn retries) events outcome) :
    ∃ visit t, visit.getLast? = some t ∧ Visited r (retries + 1) endpoint visit ∧
      (∀ t ∈ visit, t.WellRead r) ∧ (∀ t ∈ visit.dropLast, t.ending? r = none) ∧
      ((t.ending? r = some outcome ∧ events = visitEvents r.payload visit) ∨
        ∃ fault rest, t.ending? r = none ∧ t.Fails fault ∧ Runs (goOn fault) rest outcome ∧
          events = visitEvents r.payload visit ++ rest) := by
  induction retries generalizing events with
  | zero =>
    obtain ⟨t, hendpoint, hread, hgo⟩ := Runs.of_attempt h
    refine ⟨[t], t, rfl, .single hendpoint (Nat.le_refl 1) fun _ _ => rfl, by simpa using hread,
      by simp, ?_⟩
    rwa [visitEvents_singleton]
  | succ retries ih =>
    obtain ⟨t, hendpoint, hread, hgo⟩ := Runs.of_attempt h
    have hsingle (hlast : t.ending? r = none → ¬ t.Transient) :
        Visited r (retries + 1 + 1) endpoint [t] :=
      .single hendpoint (by omega) fun hnone htransient => absurd htransient (hlast hnone)
    rcases hgo with ⟨hending, rfl⟩ | ⟨fault, rest, hnone, hfault, hrest, rfl⟩
    · refine ⟨[t], t, rfl, hsingle (by simp [hending]), by simpa using hread, by simp,
        .inl ⟨hending, ?_⟩⟩
      rw [visitEvents_singleton]
    · by_cases htransient : fault.isTransient = true
      · -- The replica is tried again after a pause.
        rw [if_pos htransient] at hrest
        cases hrest with
        | pause hrest =>
          obtain ⟨visit, u, hlast, hvisited, hreads, hgoesOn, hgo⟩ := ih hrest
          refine ⟨t :: visit, u, ?_, hvisited.cons hendpoint ⟨fault, hfault, htransient⟩,
            List.forall_mem_cons.mpr ⟨hread, hreads⟩, ?_, ?_⟩
          · rw [List.getLast?_cons_of_ne_nil hvisited.ne_nil, hlast]
          · rw [List.dropLast_cons_of_ne_nil hvisited.ne_nil]
            exact List.forall_mem_cons.mpr ⟨hnone, hgoesOn⟩
          · rw [visitEvents_cons _ _ hvisited.ne_nil]
            rcases hgo with ⟨hending, rfl⟩ | ⟨fault', rest', hnone', hfault', hrest', rfl⟩
            · exact .inl ⟨hending, rfl⟩
            · exact .inr ⟨fault', rest', hnone', hfault', hrest', by simp⟩
      · rw [if_neg htransient] at hrest
        have hpermanent : ¬ t.Transient := by
          rintro ⟨fault', hfault', htransient'⟩
          cases hfault.symm.trans hfault'
          exact htransient htransient'
        refine ⟨[t], t, rfl, hsingle fun _ => hpermanent, by simpa using hread, by simp,
          .inr ⟨fault, rest, hnone, hfault, hrest, ?_⟩⟩
        rw [visitEvents_singleton]

/-! ## Walks -/

/-- The rule of a walk over replicas, each of which is tried up to a number of times. `last` is the
    fault of a walk over no replicas. -/
structure Walked (r : Request) (attempts : Nat) (last : OracleFault) (replicas : List String)
    (visits : List (List Trial)) (events : List Event) (outcome : Outcome) : Prop where
  /-- There is no call but those of the visits. -/
  events_eq : events = visits.flatMap (visitEvents r.payload)
  /-- The replicas up to some place are visited in order. -/
  visited : List.Forall₂ (Visited r attempts) (replicas.take visits.length) visits
  /-- The registry is read after a failed call, and after no other. -/
  wellRead : ∀ t ∈ visits.flatten, t.WellRead r
  /-- No call follows the trial that ends the walk. -/
  goesOn : ∀ t ∈ visits.flatten.dropLast, t.ending? r = none
  /-- A walk that a trial ends has the outcome of that trial. -/
  ended : ∀ t ∈ visits.flatten, ∀ o, t.ending? r = some o → outcome = o
  /-- A walk that no trial ends visits all replicas and has the fault of the very last call. -/
  exhausted : (∀ t ∈ visits.flatten, t.ending? r = none) → visits.length = replicas.length ∧
    match visits.flatten.getLast? with
    | none => outcome = .error last
    | some t => ∃ fault, t.Fails fault ∧ outcome = .error (.replica t.endpoint fault)

variable {attempts : Nat} {last : OracleFault} {replicas : List String}
  {visits : List (List Trial)} {events : List Event} {outcome : Outcome}

/-- What holds of the last trial of a row and of those before it holds of all. -/
theorem forall_mem_of_getLast? {row : List Trial} {t : Trial} {P : Trial → Prop}
    (hlast : row.getLast? = some t) (hbefore : ∀ u ∈ row.dropLast, P u) (ht : P t) :
    ∀ u ∈ row, P u := by
  rw [← List.dropLast_append_getLast? t hlast]
  exact List.forall_mem_append.mpr ⟨hbefore, by simpa using ht⟩

/-- A walk makes finitely many calls: no more than the given number to each replica. -/
theorem Walked.length_trials_le (h : Walked r attempts last replicas visits events outcome) :
    visits.flatten.length ≤ replicas.length * attempts := by
  have hvisits : ∀ {replicas : List String} {visits : List (List Trial)},
      List.Forall₂ (Visited r attempts) replicas visits →
        visits.flatten.length ≤ replicas.length * attempts := by
    intro replicas visits hvisited
    induction hvisited with
    | nil => simp
    | cons hfirst _ ih =>
      have hlength := hfirst.length_le
      rw [List.flatten_cons, List.length_append, List.length_cons, Nat.succ_mul]
      omega
  calc visits.flatten.length
      ≤ (replicas.take visits.length).length * attempts := hvisits h.visited
    _ ≤ replicas.length * attempts := Nat.mul_le_mul_right _ (List.length_take_le' ..)

/-- A walk over no replicas makes no call. -/
theorem Walked.nil : Walked r attempts last [] [] [] (.error last) where
  events_eq := rfl
  visited := .nil
  wellRead := by simp
  goesOn := by simp
  ended := by simp
  exhausted := fun _ => ⟨rfl, rfl⟩

/-- A visit whose last trial ends the walk. -/
theorem Walked.of_ended {visit : List Trial} {t : Trial} (hlast : visit.getLast? = some t)
    (hvisited : Visited r attempts endpoint visit) (hreads : ∀ t ∈ visit, t.WellRead r)
    (hgoesOn : ∀ t ∈ visit.dropLast, t.ending? r = none) (hending : t.ending? r = some outcome) :
    Walked r attempts last (endpoint :: replicas) [visit] (visitEvents r.payload visit) outcome where
  events_eq := by simp
  visited := .cons hvisited .nil
  wellRead := by simpa using hreads
  goesOn := by simpa using hgoesOn
  ended := by
    rw [List.flatten_singleton]
    refine forall_mem_of_getLast? hlast (fun u hu o ho => ?_) fun o ho => ?_
    · rw [hgoesOn u hu] at ho
      cases ho
    · exact Option.some.inj (hending.symm.trans ho)
  exhausted := by
    intro hnone
    have hmem : t ∈ [visit].flatten := by simpa using List.mem_of_getLast? hlast
    rw [hnone t hmem] at hending
    cases hending

/-- A visit that ends nothing, before the rest of a walk. -/
theorem Walked.cons {visit : List Trial} {t : Trial} {fault : ReplicaFault}
    (hlast : visit.getLast? = some t) (hvisited : Visited r attempts endpoint visit)
    (hreads : ∀ t ∈ visit, t.WellRead r) (hgoesOn : ∀ t ∈ visit, t.ending? r = none)
    (hfault : t.Fails fault)
    (h : Walked r attempts (.replica endpoint fault) replicas visits events outcome) :
    Walked r attempts last (endpoint :: replicas) (visit :: visits)
      (visitEvents r.payload visit ++ events) outcome where
  events_eq := by rw [List.flatMap_cons, h.events_eq]
  visited := .cons hvisited h.visited
  wellRead := by
    rw [List.flatten_cons]
    exact List.forall_mem_append.mpr ⟨hreads, h.wellRead⟩
  goesOn := by
    intro u hu
    rw [List.flatten_cons] at hu
    by_cases hrest : visits.flatten = []
    · rw [hrest, List.append_nil] at hu
      exact hgoesOn u ((List.dropLast_sublist _).mem hu)
    · rw [List.dropLast_append_of_ne_nil hrest] at hu
      rcases List.mem_append.mp hu with hu | hu
      · exact hgoesOn u hu
      · exact h.goesOn u hu
  ended := by
    intro u hu o ho
    rw [List.flatten_cons] at hu
    rcases List.mem_append.mp hu with hu | hu
    · rw [hgoesOn u hu] at ho
      cases ho
    · exact h.ended u hu o ho
  exhausted := by
    intro hnone
    rw [List.flatten_cons] at hnone ⊢
    obtain ⟨hlength, houtcome⟩ := h.exhausted fun u hu => hnone u (List.mem_append_right _ hu)
    refine ⟨congrArg (· + 1) hlength, ?_⟩
    rw [List.getLast?_append]
    cases hrest : visits.flatten.getLast? with
    | none =>
      rw [hrest] at houtcome
      rw [Option.none_or, hlast]
      have hendpoint : t.endpoint = endpoint := hvisited.endpoint_eq t (List.mem_of_getLast? hlast)
      exact ⟨fault, hfault, by rw [houtcome, hendpoint]⟩
    | some u =>
      rw [hrest] at houtcome
      exact houtcome

/-- **A walk follows the rule**, whatever the answers are. -/
theorem Session.Runs.exists_walked {p : RetryPolicy}
    (h : Runs (walkFrom p r last replicas) events outcome) :
    ∃ visits, Walked r (p.retries + 1) last replicas visits events outcome := by
  induction replicas generalizing last events with
  | nil =>
    cases h
    exact ⟨[], .nil⟩
  | cons endpoint replicas ih =>
    obtain ⟨visit, t, hlast, hvisited, hreads, hgoesOn, hgo⟩ := Runs.exists_visited h
    rcases hgo with ⟨hending, rfl⟩ | ⟨fault, rest, hnone, hfault, hrest, rfl⟩
    · exact ⟨[visit], .of_ended hlast hvisited hreads hgoesOn hending⟩
    · obtain ⟨visits, hvisits⟩ := ih hrest
      have hall : ∀ t ∈ visit, t.ending? r = none := forall_mem_of_getLast? hlast hgoesOn hnone
      exact ⟨visit :: visits, .cons hlast hvisited hreads hall hfault hvisits⟩

theorem RetryPolicy.retries_add_one (p : RetryPolicy) :
    p.retries + 1 = max 1 p.maxAttempts.toNat := by
  unfold RetryPolicy.retries
  omega

/-- **The session of an oracle follows the rule of a walk, whoever answers.** Each replica is tried at
    most `maxAttempts` times, and once if that is zero, so that the session ends after finitely many
    calls. -/
theorem exists_walked_play {σ : Type} (services : Services σ) (caller : Nat) (w : σ)
    (p : RetryPolicy) (r : Request) (replicas : List String) :
    ∃ visits, Walked r (max 1 p.maxAttempts.toNat) .noReplicas replicas visits
        ((walk p r replicas).play services caller w).1
        ((walk p r replicas).play services caller w).2.1 ∧
      visits.flatten.length ≤ replicas.length * max 1 p.maxAttempts.toNat := by
  have hruns := Session.runs_play services caller (walk p r replicas) w
  obtain ⟨visits, hvisits⟩ := Session.Runs.exists_walked hruns
  rw [p.retries_add_one] at hvisits
  exact ⟨visits, hvisits, hvisits.length_trials_le⟩

end Registrar.Approval
