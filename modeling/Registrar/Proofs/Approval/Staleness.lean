import Registrar.Proofs.Approval.Isolation

/-!
# Rounds that are out of date

A request is made for one root and one index of the registry. If the registry has moved on, the first
failed call of an oracle finds that out and ends its session, so nobody is asked a second time, and the
round says that the request has to be made anew, unless enough first calls were answered with
approvals. If the registry has not moved on, no round ever says so.

The readers always answer the same here, but nothing is assumed about replicas: what they answer one
oracle may depend on the calls of all others.

## Contents

- `Session.Ensures`, what is true of the calls and the result of a session whatever the replicas
  answer, with `Session.Ensures.step` for one call and `Stage.Ensures.follow` for a schedule;
- `Stale`, the faults of a registry that has moved on; `ensures_walk_of_stale` and
  `ensures_walk_of_current`, what a walk comes to;
- `Report.stale?_eq_some` and the lemmas about `Report.combine`;
- `Outdated`, what a round comes to if the registry has moved on;
- `staleness_follow` for any schedule, and `staleness_requestApprovals?` for the rounds of a client.
-/

namespace Registrar.Approval

open Majority

variable {σ : Type} {root : Except String Hash} {index : Except String UInt64}

/-! ## What sessions ensure -/

/-- A call to a replica: the endpoint, the payload and the reply. -/
abbrev Posting := String × Bytes × Reply

/-- The call to a replica that an event is, if it is one. -/
def Event.posting? : Event → Option Posting
  | .posted endpoint payload reply => some (endpoint, payload, reply)
  | _ => none

/-- The calls of a task to replicas so far. -/
def Stage.postings (s : Stage σ) (i : Nat) : List Posting := (s.callsOf i).filterMap Event.posting?

namespace Session

variable {α β : Type} {services : Services σ} {Q : List Posting → α → Prop} {made : List Posting}

/-- Whatever the replicas answer to a session that has made some calls, `Q` is true of all its calls
    to replicas and its result at the end. The readers give fixed answers. -/
def Ensures (root : Except String Hash) (index : Except String UInt64)
    (Q : List Posting → α → Prop) : Session α → List Posting → Prop
  | .done a, made => Q made a
  | .post endpoint payload next, made =>
    ∀ reply, (next reply).Ensures root index Q (made ++ [(endpoint, payload, reply)])
  | .readRoot next, made => (next root).Ensures root index Q made
  | .readIndex next, made => (next index).Ensures root index Q made
  | .pause next, made => next.Ensures root index Q made

theorem ensures_bind {s : Session β} {f : β → Session α} :
    (s.bind f).Ensures root index Q made ↔
      s.Ensures root index (fun made b => (f b).Ensures root index Q made) made := by
  induction s generalizing made with
  | done b => exact Iff.rfl
  | post endpoint payload next ih => exact forall_congr' fun reply => ih reply
  | readRoot next ih => exact ih root
  | readIndex next ih => exact ih index
  | pause next ih => exact ih

/-- **One call.** -/
theorem Ensures.step (hsteady : services.Steady root index) {s left : Session α} {i : Nat} {w w' : σ}
    {event : Event} (h : s.Ensures root index Q made)
    (hstep : s.step? services i w = some (event, left, w')) :
    left.Ensures root index Q (made ++ event.posting?.toList) := by
  cases s with
  | done a => cases hstep
  | post endpoint payload next =>
    cases hstep
    exact h (services.reply i endpoint payload w).1
  | readRoot next =>
    cases hstep
    show (next (services.root w).1).Ensures root index Q (made ++ [])
    rw [hsteady.root_answer, List.append_nil]
    exact h
  | readIndex next =>
    cases hstep
    show (next (services.index w).1).Ensures root index Q (made ++ [])
    rw [hsteady.index_answer, List.append_nil]
    exact h
  | pause next =>
    cases hstep
    show left.Ensures root index Q (made ++ [])
    rw [List.append_nil]
    exact h

end Session

namespace Stage

variable {services : Services σ} {Q : List Posting → Outcome → Prop} {s : Stage σ} {i : Nat}

/-- What a task ensures from where it stands. -/
def Ensures (root : Except String Hash) (index : Except String UInt64)
    (Q : List Posting → Outcome → Prop) (s : Stage σ) (i : Nat) : Prop :=
  ∃ task, s.tasks[i]? = some task ∧ task.Ensures root index Q (s.postings i)

/-- A turn, of whichever task, leaves what a task ensures as it is. -/
theorem Ensures.advance (hsteady : services.Steady root index) (h : s.Ensures root index Q i)
    (j : Nat) : (s.advance services j).Ensures root index Q i := by
  obtain ⟨task, htask, hensures⟩ := h
  rcases eq_or_ne j i with rfl | hne
  · rcases s.advance_cases services j with ⟨hsame, -⟩ | ⟨task', event, left, w, htask', hstep, hnext⟩
    · rw [hsame]
      exact ⟨task, htask, hensures⟩
    · obtain rfl : task = task' := Option.some.inj (htask.symm.trans htask')
      obtain ⟨hlt, -⟩ := List.getElem?_eq_some_iff.mp htask
      rw [hnext]
      refine ⟨left, List.getElem?_set_self hlt, ?_⟩
      have hpostings : postings ⟨s.tasks.set j left, s.events ++ [(j, event)], w⟩ j
          = s.postings j ++ event.posting?.toList := by
        rw [postings, callsOf_concat, if_pos rfl, List.filterMap_append]
        cases hposting : event.posting? <;> simp [postings, callsOf, hposting]
      rw [hpostings]
      exact hensures.step hsteady hstep
  · obtain ⟨hsame, hcalls⟩ := advance_other (s := s) services hne
    refine ⟨task, hsame.trans htask, ?_⟩
    rw [postings, hcalls]
    exact hensures

/-- **So does a schedule.** -/
theorem Ensures.follow (hsteady : services.Steady root index) (h : s.Ensures root index Q i)
    (schedule : List Nat) : (s.follow services schedule).Ensures root index Q i := by
  induction schedule generalizing s with
  | nil => exact h
  | cons j schedule ih => exact ih (h.advance hsteady j)

/-- Once a task is done, what it ensures is true. -/
theorem Ensures.of_result? (h : s.Ensures root index Q i) {task : Session Outcome} {a : Outcome}
    (htask : s.tasks[i]? = some task) (hdone : task.result? = some a) : Q (s.postings i) a := by
  obtain ⟨task', htask', hensures⟩ := h
  obtain rfl : task = task' := Option.some.inj (htask.symm.trans htask')
  cases task with
  | done b =>
    cases hdone
    exact hensures
  | _ => cases hdone

end Stage

/-! ## Registries that have moved on -/

/-- What the readers answer shows that the registry is not at the root of a request any more, or not
    at its index; the fault says so. -/
inductive Stale (r : Request) :
    Except String Hash → Except String UInt64 → OracleFault → Prop where
  | root {live : Hash} {index : Except String UInt64} (h : live ≠ r.registryRoot) :
      Stale r (.ok live) index (.rootChanged r.registryRoot live)
  | index {live : UInt64} (h : live ≠ r.validatorIndex) :
      Stale r (.ok r.registryRoot) (.ok live) (.indexChanged r.validatorIndex live)

theorem Stale.isStale {r : Request} {fault : OracleFault} (h : Stale r root index fault) :
    fault.isStale = true := by
  cases h <;> rfl

variable {r : Request} {fault : OracleFault} {Q : List Posting → Outcome → Prop}
  {made : List Posting}

/-- What an oracle comes to with one reply, if the registry has moved on. -/
def onceAsked (fault : OracleFault) (reply : Reply) : Outcome :=
  (approvalOf reply).mapError fun _ => fault

theorem ensures_standing_of_stale {Q : List Posting → Except String Standing → Prop}
    (hstale : Stale r root index fault)
    (h : ∀ found, endingFault? r found = some fault → Q made found) :
    (standing r).Ensures root index Q made := by
  cases hstale with
  | @root live index hlive =>
    simp only [standing, Session.Ensures, if_pos hlive]
    exact h _ rfl
  | @index live hlive =>
    simp only [standing, Session.Ensures, ne_eq, not_true_eq_false, if_false, if_pos hlive]
    exact h _ rfl

theorem ensures_standing_of_current {Q : List Posting → Except String Standing → Prop}
    (h : Q made (.ok .current)) :
    (standing r).Ensures (.ok r.registryRoot) (.ok r.validatorIndex) Q made := by
  simp only [standing, Session.Ensures, ne_eq, not_true_eq_false, if_false]
  exact h

theorem ensures_attempt_of_stale {endpoint : String} {onFailure : ReplicaFault → Session Outcome}
    (hstale : Stale r root index fault)
    (h : ∀ reply, Q (made ++ [(endpoint, r.payload, reply)]) (onceAsked fault reply)) :
    (attempt r endpoint onFailure).Ensures root index Q made := by
  intro reply
  have hreply := h reply
  unfold onceAsked at hreply
  dsimp only
  cases happroval : approvalOf reply with
  | ok a =>
    rw [happroval] at hreply
    exact hreply
  | error replicaFault =>
    rw [happroval] at hreply
    refine Session.ensures_bind.mpr (ensures_standing_of_stale hstale fun found hfound => ?_)
    simp only [hfound]
    exact hreply

/-- **If the registry has moved on, the first reply decides.** -/
theorem ensures_walk_of_stale (p : RetryPolicy) (hstale : Stale r root index fault)
    (endpoint : String) (rest : List String) :
    (walk p r (endpoint :: rest)).Ensures root index
      (fun made outcome => ∃ reply, made = [(endpoint, r.payload, reply)] ∧
        outcome = onceAsked fault reply) [] := by
  unfold walk walkFrom
  have hattempt : ∀ onFailure, (attempt r endpoint onFailure).Ensures root index
      (fun made outcome => ∃ reply, made = [(endpoint, r.payload, reply)] ∧
        outcome = onceAsked fault reply) [] :=
    fun onFailure => ensures_attempt_of_stale hstale fun reply => ⟨reply, rfl, rfl⟩
  cases p.retries with
  | zero => exact hattempt _
  | succ retries => exact hattempt _

/-- The session does not end with a fault that says that the registry has moved on. -/
def NotStale (_ : List Posting) (outcome : Outcome) : Prop :=
  ∀ fault, outcome = .error fault → fault.isStale = false

theorem ensures_attempt_of_current {endpoint : String} {onFailure : ReplicaFault → Session Outcome}
    (h : ∀ replicaFault made,
      (onFailure replicaFault).Ensures (.ok r.registryRoot) (.ok r.validatorIndex) NotStale made) :
    (attempt r endpoint onFailure).Ensures (.ok r.registryRoot) (.ok r.validatorIndex) NotStale
      made := by
  intro reply
  dsimp only
  cases approvalOf reply with
  | ok a =>
    intro fault hfault
    cases hfault
  | error replicaFault =>
    exact Session.ensures_bind.mpr (ensures_standing_of_current (h replicaFault _))

theorem ensures_ask_of_current {endpoint : String} {goOn : ReplicaFault → Session Outcome}
    (h : ∀ replicaFault made,
      (goOn replicaFault).Ensures (.ok r.registryRoot) (.ok r.validatorIndex) NotStale made)
    (retries : Nat) :
    (ask r endpoint goOn retries).Ensures (.ok r.registryRoot) (.ok r.validatorIndex) NotStale
      made := by
  induction retries generalizing made with
  | zero => exact ensures_attempt_of_current h
  | succ retries ih =>
    refine ensures_attempt_of_current fun replicaFault made => ?_
    split
    · exact ih
    · exact h replicaFault made

/-- **If the registry has not moved on, no walk says that it has.** -/
theorem ensures_walk_of_current (p : RetryPolicy) (replicas : List String) :
    (walk p r replicas).Ensures (.ok r.registryRoot) (.ok r.validatorIndex) NotStale made := by
  have hfrom : ∀ last : OracleFault, last.isStale = false → ∀ made,
      (walkFrom p r last replicas).Ensures (.ok r.registryRoot) (.ok r.validatorIndex) NotStale
        made := by
    induction replicas with
    | nil =>
      intro last hlast made fault hfault
      cases hfault
      exact hlast
    | cons endpoint rest ih =>
      intro last _ made
      refine ensures_ask_of_current (fun replicaFault made => ?_) p.retries
      exact ih (.replica endpoint replicaFault) rfl made
  exact hfrom .noReplicas rfl made

/-! ## What a report says -/

namespace OracleResult

/-- The fault of an oracle, if it says that the registry has moved on. -/
def stale? (x : OracleResult) : Option OracleFault :=
  match x.outcome with
  | .ok _ => none
  | .error fault => if fault.isStale then some fault else none

theorem stale?_eq_some {x : OracleResult} :
    x.stale? = some fault ↔ x.outcome = .error fault ∧ fault.isStale = true := by
  unfold stale?
  cases x.outcome with
  | ok a => simp
  | error other =>
    show (if other.isStale = true then some other else none) = some fault ↔ _
    by_cases hother : other.isStale = true
    · rw [if_pos hother]
      constructor
      · intro h
        cases h
        exact ⟨rfl, hother⟩
      · rintro ⟨h, -⟩
        exact congrArg some (Except.error.inj h)
    · rw [if_neg hother]
      constructor
      · intro h
        cases h
      · rintro ⟨h, hfault⟩
        exact absurd (Except.error.inj h ▸ hfault) hother

theorem stale?_eq_none {x : OracleResult} :
    x.stale? = none ↔ ∀ other, x.outcome = .error other → other.isStale = false := by
  unfold stale?
  cases x.outcome <;> simp

end OracleResult

namespace Report

variable {report : Report} {n : Nat}

theorem stale?_eq_findSome? : report.stale? = report.results.findSome? OracleResult.stale? := rfl

/-- **The fault of a report is the first one that says that the registry has moved on.** -/
theorem stale?_eq_some :
    report.stale? = some fault ↔ ∃ before x after, report.results = before ++ x :: after ∧
      x.outcome = .error fault ∧ fault.isStale = true ∧
      ∀ y ∈ before, ∀ other, y.outcome = .error other → other.isStale = false := by
  rw [stale?_eq_findSome?, List.findSome?_eq_some_iff]
  simp only [OracleResult.stale?_eq_some, OracleResult.stale?_eq_none, and_assoc]

theorem stale?_eq_none :
    report.stale? = none ↔
      ∀ x ∈ report.results, ∀ other, x.outcome = .error other → other.isStale = false := by
  rw [stale?_eq_findSome?, List.findSome?_eq_none_iff]
  simp only [OracleResult.stale?_eq_none]

/-- **A round that is out of date says so only for a fault of its report.** -/
theorem combine_eq_roundChanged (h : report.combine n = .error (.roundChanged fault)) :
    report.stale? = some fault := by
  unfold combine at h
  split at h
  · cases h
  · split at h
    · next hstale =>
      cases h
      exact hstale
    · cases h

/-- A shortage is named only if no oracle found that the registry has moved on. -/
theorem combine_eq_tooFew {shortage : TooFewApprovals}
    (h : report.combine n = .error (.tooFew shortage)) : report.stale? = none := by
  unfold combine at h
  split at h
  · cases h
  · split at h
    · cases h
    · next hstale => exact hstale

/-- If nothing is combined, the fault of the report comes first. -/
theorem combine_of_stale? (hnone : ∀ a, report.combine n ≠ .ok a) (h : report.stale? = some fault) :
    report.combine n = .error (.roundChanged fault) := by
  unfold combine at hnone ⊢
  split
  · next a ha =>
    rw [ha] at hnone
    exact absurd rfl (hnone a)
  · rw [h]

end Report

/-! ## Rounds -/

/-- The approvals among single replies, one of each oracle. -/
def singleApprovals (set : OracleSet) (replies : List Reply) : List (Address × SignedApproval) :=
  (set.addresses.zip replies).filterMap fun x => (approvalOf x.2).toOption.map fun a => (x.1, a)

/-- What a round comes to if the registry has moved on, which a fault says: everyone made one call and
    got one of the replies. -/
structure Outdated (request : Request) (set : OracleSet) (plans : List (List String))
    (fault : OracleFault) (s : Stage σ) (replies : List Reply) : Prop where
  /-- There is a reply for each oracle. -/
  size : replies.length = set.size
  /-- An oracle called the first replica of its plan, once, and nobody else. -/
  calls : ∀ i < set.size, ∃ endpoint reply, plans[i]?.bind List.head? = some endpoint ∧
    replies[i]? = some reply ∧ s.postings i = [(endpoint, request.payload, reply)]
  /-- It came to the approval in the reply, or else to the fault. -/
  outcomes : (s.report set).results.map (·.outcome) = replies.map (onceAsked fault)
  /-- There is a combined approval just if the replies have enough approvals for one ballot. -/
  combined : (∃ a, (s.report set).combine set.threshold.toNat = .ok a) ↔
    singleApprovals set replies ≠ [] ∧ ∃ ballot,
      set.threshold.toNat ≤ (singleApprovals set replies).countP fun v => Names v.2 ballot
  /-- If there is none, and some reply is no approval, the fault of the first oracle that failed is
      given, which is the one about the registry. -/
  changed : (∀ a, (s.report set).combine set.threshold.toNat ≠ .ok a) →
    (∃ reply ∈ replies, ∃ failure, approvalOf reply = .error failure) →
      ∃ before x after, (s.report set).results = before ++ x :: after ∧
        (∀ y ∈ before, ∃ a, y.outcome = .ok a) ∧ x.outcome = .error fault ∧
        (s.report set).combine set.threshold.toNat = .error (.roundChanged fault)
  /-- A shortage is only named if everyone approved. -/
  few : ∀ shortage, (s.report set).combine set.threshold.toNat = .error (.tooFew shortage) →
    ∀ reply ∈ replies, ∃ a, approvalOf reply = .ok a

theorem onceAsked_eq_error {reply : Reply} {other : OracleFault}
    (h : onceAsked fault reply = .error other) :
    other = fault ∧ ∃ failure, approvalOf reply = .error failure := by
  unfold onceAsked at h
  cases happroval : approvalOf reply with
  | ok a =>
    rw [happroval] at h
    cases h
  | error failure =>
    rw [happroval] at h
    cases h
    exact ⟨rfl, failure, rfl⟩

theorem onceAsked_of_error {reply : Reply} {failure : ReplicaFault}
    (h : approvalOf reply = .error failure) : onceAsked fault reply = .error fault := by
  rw [onceAsked, h]
  rfl

theorem toOption_onceAsked (reply : Reply) :
    (onceAsked fault reply).toOption = (approvalOf reply).toOption := by
  unfold onceAsked
  cases approvalOf reply <;> rfl

/-- The approvals of a report on single replies. -/
theorem approvals_of_outcomes {report : Report} {set : OracleSet} {replies : List Reply}
    (horacles : report.results.map (·.oracle) = set.addresses)
    (houtcomes : report.results.map (·.outcome) = replies.map (onceAsked fault)) :
    report.approvals = singleApprovals set replies := by
  rw [Report.approvals_eq, horacles, houtcomes, List.zip_map_right, List.filterMap_map]
  refine List.filterMap_congr fun x _ => ?_
  show (onceAsked fault x.2).toOption.map _ = _
  rw [toOption_onceAsked]
  rfl

/-- **What single replies lead to.** -/
theorem Outdated.of_outcomes {request : Request} {set : OracleSet} {plans : List (List String)}
    {s : Stage σ} {replies : List Reply} (hstale : fault.isStale = true)
    (hsize : replies.length = set.size)
    (hcalls : ∀ i < set.size, ∃ endpoint reply, plans[i]?.bind List.head? = some endpoint ∧
      replies[i]? = some reply ∧ s.postings i = [(endpoint, request.payload, reply)])
    (horacles : (s.report set).results.map (·.oracle) = set.addresses)
    (houtcomes : (s.report set).results.map (·.outcome) = replies.map (onceAsked fault)) :
    Outdated request set plans fault s replies := by
  -- Whoever failed has the fault, and there is a failed oracle for each reply that is no approval.
  have hfaults : ∀ x ∈ (s.report set).results, ∀ other, x.outcome = .error other → other = fault := by
    intro x hx other hother
    have hin : x.outcome ∈ replies.map (onceAsked fault) := houtcomes ▸ List.mem_map_of_mem hx
    obtain ⟨reply, -, hreply⟩ := List.mem_map.mp hin
    exact (onceAsked_eq_error (hreply.trans hother)).1
  have hfailed : ∀ reply ∈ replies, ∀ failure, approvalOf reply = .error failure →
      ∃ x ∈ (s.report set).results, x.outcome = .error fault := by
    intro reply hreply failure hfailure
    have hin : Except.error fault ∈ (s.report set).results.map (·.outcome) := by
      rw [houtcomes, ← onceAsked_of_error hfailure]
      exact List.mem_map_of_mem hreply
    exact List.mem_map.mp hin
  refine ⟨hsize, hcalls, houtcomes, ?_, ?_, ?_⟩
  · simp only [Report.combine_eq_ok, exists_combine_iff]
    rw [approvals_of_outcomes horacles houtcomes]
  · rintro hnone ⟨reply, hreply, failure, hfailure⟩
    obtain ⟨x, hx, houtcome⟩ := hfailed reply hreply failure hfailure
    cases hfound : (s.report set).stale? with
    | none =>
      have hfresh := Report.stale?_eq_none.mp hfound x hx fault houtcome
      rw [hstale] at hfresh
      cases hfresh
    | some first =>
      obtain ⟨before, y, after, hresults, hfirst, -, hbefore⟩ := Report.stale?_eq_some.mp hfound
      obtain rfl : first = fault :=
        hfaults y (hresults ▸ List.mem_append_right _ List.mem_cons_self) first hfirst
      refine ⟨before, y, after, hresults, ?_, hfirst, Report.combine_of_stale? hnone hfound⟩
      -- Nobody before the first stale oracle failed, as every fault is stale.
      intro z hz
      cases hz' : z.outcome with
      | ok a => exact ⟨a, rfl⟩
      | error other =>
        have hother := hfaults z (hresults ▸ List.mem_append_left _ hz) other hz'
        have hfresh := hbefore z hz other hz'
        rw [hother, hstale] at hfresh
        cases hfresh
  · intro shortage hshortage reply hreply
    cases happroval : approvalOf reply with
    | ok a => exact ⟨a, rfl⟩
    | error failure =>
      obtain ⟨x, hx, houtcome⟩ := hfailed reply hreply failure happroval
      have hfresh := Report.stale?_eq_none.mp (Report.combine_eq_tooFew hshortage) x hx fault houtcome
      rw [hstale] at hfresh
      cases hfresh

variable {services : Services σ} {set : OracleSet} {request : Request} {t rest : Tape}
  {plans : List (List String)}

/-- Once everyone is done, the round is out of date if the registry has moved on. -/
theorem outdated_follow (hsteady : services.Steady root index) (hcheck : set.check = .ok ())
    (hplans : plans? (set.members.map (·.2)) t = some (plans, rest)) (policy : RetryPolicy) (w : σ)
    (schedule : List Nat) (hstale : Stale request root index fault)
    (hdone : ∀ i, ¬ ((Stage.start policy request plans w).follow services schedule).Pending i) :
    ∃ replies, Outdated request set plans fault
      ((Stage.start policy request plans w).follow services schedule) replies := by
  obtain ⟨-, -, hplanned, hne⟩ := plans_of_check hcheck hplans
  have hmembers := length_tasks_follow_of_check services policy request w schedule hcheck hplans
  have horacles := oracles_report hcheck hmembers
  have hlength : ((Stage.start policy request plans w).follow services schedule).tasks.length
      = set.size := by
    rw [Stage.length_tasks_follow, ← hplanned]
    exact List.length_map _
  generalize hstage : (Stage.start policy request plans w).follow services schedule = stage at *
  -- What every oracle ensures at the start it still ensures, and it is done.
  have hreply : ∀ i : Fin set.size, ∃ reply endpoint, plans[i.1]?.bind List.head? = some endpoint ∧
      stage.postings i.1 = [(endpoint, request.payload, reply)] ∧
      stage.tasks[i.1]?.map (fun task => task.result?.getD (.error .timeout))
        = some (onceAsked fault reply) := by
    intro i
    have hi : i.1 < plans.length := Nat.lt_of_lt_of_eq i.2 hplanned.symm
    obtain ⟨endpoint, others, hplan⟩ :=
      List.exists_cons_of_ne_nil (hne plans[i.1] (List.getElem_mem hi))
    have hstart : (Stage.start policy request plans w).Ensures root index
        (fun made outcome => ∃ reply, made = [(endpoint, request.payload, reply)] ∧
          outcome = onceAsked fault reply) i.1 := by
      refine ⟨walk policy request plans[i.1], by simp [Stage.start, hi], ?_⟩
      rw [hplan]
      exact ensures_walk_of_stale policy hstale endpoint others
    have hfollow := hstart.follow hsteady schedule
    rw [hstage] at hfollow
    obtain ⟨task, htask, -⟩ := id hfollow
    have hresult : task.result? ≠ none := by
      intro hnone
      exact hdone i.1 ((Stage.pending_iff htask).mpr hnone)
    obtain ⟨outcome, houtcome⟩ := Option.ne_none_iff_exists'.mp hresult
    obtain ⟨reply, hposted, rfl⟩ := hfollow.of_result? htask houtcome
    refine ⟨reply, endpoint, ?_, hposted, ?_⟩
    · rw [List.getElem?_eq_getElem hi, Option.bind_some, hplan, List.head?_cons]
    · rw [htask, Option.map_some, houtcome, Option.getD_some]
  choose reply endpoint hendpoint hposted houtcome using hreply
  refine ⟨List.ofFn reply, .of_outcomes hstale.isStale List.length_ofFn ?_ horacles ?_⟩
  · intro i hi
    exact ⟨endpoint ⟨i, hi⟩, reply ⟨i, hi⟩, hendpoint ⟨i, hi⟩, by simp [hi], hposted ⟨i, hi⟩⟩
  · refine (Report.outcomes_ofTasks hmembers).trans (List.ext_getElem (by simp [hlength]) ?_)
    intro i hi _
    have hi' : i < set.size := by simpa [hlength] using hi
    have hsame := houtcome ⟨i, hi'⟩
    rw [List.getElem?_eq_getElem (Nat.lt_of_lt_of_eq hi' hlength.symm), Option.map_some,
      Option.some.injEq] at hsame
    rw [List.getElem_map, List.getElem_map, List.getElem_ofFn]
    exact hsame

/-- If the registry has not moved on, no round says so, at whatever deadline. -/
theorem combine_follow_of_current
    (hsteady : services.Steady (.ok request.registryRoot) (.ok request.validatorIndex))
    (policy : RetryPolicy) (w : σ) (schedule : List Nat) (n : Nat) :
    (((Stage.start policy request plans w).follow services schedule).report set).combine n
      ≠ .error (.roundChanged fault) := by
  have hlength : ((Stage.start policy request plans w).follow services schedule).tasks.length
      = plans.length := by
    rw [Stage.length_tasks_follow]
    exact List.length_map _
  -- No task of the round says so.
  have hensures : ∀ i < plans.length,
      ((Stage.start policy request plans w).follow services schedule).Ensures
        (.ok request.registryRoot) (.ok request.validatorIndex) NotStale i := by
    intro i hi
    have hstart : (Stage.start policy request plans w).Ensures (.ok request.registryRoot)
        (.ok request.validatorIndex) NotStale i :=
      ⟨walk policy request plans[i], by simp [Stage.start, hi], ensures_walk_of_current policy _⟩
    exact hstart.follow hsteady schedule
  generalize (Stage.start policy request plans w).follow services schedule = stage at *
  intro hchanged
  obtain ⟨before, x, after, hresults, houtcome, hstale, -⟩ :=
    Report.stale?_eq_some.mp (Report.combine_eq_roundChanged hchanged)
  have hx : x ∈ (stage.report set).results := hresults ▸ List.mem_append_right _ List.mem_cons_self
  obtain ⟨i, hi, hget⟩ := List.getElem_of_mem hx
  have htask : i < stage.tasks.length := by
    simp only [Stage.report, Report.ofTasks, List.length_zipWith] at hi
    omega
  have hcame : x.outcome = (stage.tasks[i].result?).getD (.error .timeout) := by
    rw [← hget]
    simp [Stage.report, Report.ofTasks]
  rw [hcame] at houtcome
  cases hresult : stage.tasks[i].result? with
  | none =>
    rw [hresult] at houtcome
    cases houtcome
    cases hstale
  | some outcome =>
    rw [hresult, Option.getD_some] at houtcome
    have hnot := (hensures i (hlength ▸ htask)).of_result? (List.getElem?_eq_getElem htask) hresult
    have hfresh := hnot fault houtcome
    rw [hstale] at hfresh
    cases hfresh

/-- **Whether a round is out of date.** If the registry has moved on, and everyone is done before the
    deadline, then everyone was asked once, and enough approvals, the registry or a shortage decide, in
    this order. If the registry has not moved on, no round says so, whatever the order of the calls and
    the deadline are. -/
theorem staleness_follow (hsteady : services.Steady root index) (hcheck : set.check = .ok ())
    (request : Request) (hplans : plans? (set.members.map (·.2)) t = some (plans, rest))
    (policy : RetryPolicy) (w : σ) (schedule : List Nat) :
    (∀ fault, Stale request root index fault →
      (∀ i, ¬ ((Stage.start policy request plans w).follow services schedule).Pending i) →
      ∃ replies, Outdated request set plans fault
        ((Stage.start policy request plans w).follow services schedule) replies) ∧
    (root = .ok request.registryRoot → index = .ok request.validatorIndex →
      ∀ fault, (((Stage.start policy request plans w).follow services schedule).report set).combine
        set.threshold.toNat ≠ .error (.roundChanged fault)) := by
  constructor
  · intro fault hstale hdone
    exact outdated_follow hsteady hcheck hplans policy w schedule hstale hdone
  · rintro rfl rfl fault
    exact combine_follow_of_current hsteady policy w schedule set.threshold.toNat

/-- The first oracle gets no answer, and all others get approvals. -/
def halfHearted (root : Hash) (index : UInt64) : Services Unit where
  reply caller _ _ w := (if caller = 0 then .noAnswer else approvingReply, w)
  root w := (.ok root, w)
  index w := (.ok index, w)

/-- Two oracles, of which one fails: the round says that the root has changed if it has, and does not
    say so otherwise. -/
theorem staleness_follow_halfHearted :
    let set : OracleSet :=
      ⟨[.replicate 20 0x01, .replicate 20 0x02], [["http://a", "http://b"], ["http://c"]], 2⟩
    let request : Request := ⟨3, .zero 20, .zero 32, [], [], [], [], [], [], [], 0⟩
    let live : Hash := .replicate 32 0x01
    let plans := [["http://b", "http://a"], ["http://c"]]
    let start : Stage Unit := .start ⟨2, 0⟩ request plans ()
    let moved := start.follow (halfHearted live 3) [0, 1, 0]
    let current := start.follow (halfHearted (.zero 32) 3) [0, 1, 0]
    set.check = .ok () ∧
      plans? (set.members.map (·.2)) (.zeros 0 4) = some (plans, .zeros 4 4) ∧
      (∀ i, ¬ moved.Pending i) ∧
      (∃ replies, Outdated request set plans (.rootChanged (.zero 32) live) moved replies) ∧
      (moved.report set).combine 2 = .error (.roundChanged (.rootChanged (.zero 32) live)) ∧
      ∀ fault, (current.report set).combine 2 ≠ .error (.roundChanged fault) := by
  intro set request live plans start moved current
  have hcheck : set.check = .ok () := rfl
  have hplans : plans? (set.members.map (·.2)) (.zeros 0 4) = some (plans, .zeros 4 4) := by
    simp [set, plans, OracleSet.members, plans?, Tape.shuffle?, Tape.shuffleUpTo?,
      Tape.below?_zeros, Tape.swap]
  have hdone : ∀ i, ¬ moved.Pending i := Stage.not_pending_of_all (by decide +kernel)
  have hlive : live ≠ request.registryRoot := by decide
  have hsteady : ∀ root, (halfHearted root 3).Steady (.ok root) (.ok 3) :=
    fun _ => ⟨fun _ => rfl, fun _ => rfl⟩
  have hmoved := staleness_follow (hsteady live) hcheck request hplans ⟨2, 0⟩ () [0, 1, 0]
  have hcurrent := staleness_follow (hsteady (.zero 32)) hcheck request hplans ⟨2, 0⟩ () [0, 1, 0]
  have hchanged : (moved.report set).combine 2
      = .error (.roundChanged (.rootChanged (.zero 32) live)) := by decide +kernel
  exact ⟨hcheck, hplans, hdone, hmoved.1 _ (.root hlive) hdone, hchanged, hcurrent.2 rfl rfl⟩

/-- **So it is for the rounds of a client.** -/
theorem staleness_requestApprovals? (hsteady : services.Steady root index)
    (hcheck : set.check = .ok ()) {c : Client} {t' : Tape} {w w' : σ}
    {result : Except ConsensusFault CombinedApproval}
    (h : c.requestApprovals? services set request t w = some (result, w', t')) :
    ∃ (plans : List (List String)) (stage : Stage σ),
      result = (stage.report set).combine set.threshold.toNat ∧
      (∀ fault, Stale request root index fault → (∀ i, ¬ stage.Pending i) →
        ∃ replies, Outdated request set plans fault stage replies) ∧
      (root = .ok request.registryRoot → index = .ok request.validatorIndex →
        ∀ fault, result ≠ .error (.roundChanged fault)) := by
  unfold Client.requestApprovals? at h
  split at h
  · cases h
  next stage t₁ hround =>
  cases h
  obtain ⟨plans, schedule, hplans, rfl⟩ := exists_follow_runRound? hround
  refine ⟨plans, _, rfl, ?_, ?_⟩
  · intro fault hstale hdone
    exact outdated_follow hsteady hcheck hplans c.retry w schedule hstale hdone
  · rintro rfl rfl fault
    exact combine_follow_of_current hsteady c.retry w schedule set.threshold.toNat

end Registrar.Approval
