import Mathlib.Data.List.Forall2
import Registrar.Approval.Consensus
import Registrar.Proofs.Tape

/-!
# Rounds and their schedules

A round is settled by its schedule, the order in which the oracles make their calls. Running one
oracle after the other up to the deadline is a schedule too, so what holds of every schedule holds of
every round a client runs.

## Contents

- `plans?_perm`, and `exists_plans?_zeros`, a tape on which all plans are made;
- `Stage.advance_cases`, what a turn is, and `Stage.exists_follow_inTurn`: a round in turn is a schedule, and
  so is a client's, `exists_follow_runRound?`;
- `Reported`, the reports that rounds over a set end with, with `Reported.of_runRound?`;
- `Reported.addresses_sublist`: who approves is in the set, as often as there.
-/

namespace Registrar.Approval

variable {σ : Type}

/-! ## Plans -/

/-- **A plan has the replicas of its oracle.** -/
theorem plans?_perm {lists plans : List (List String)} {t t' : Tape}
    (h : plans? lists t = some (plans, t')) : List.Forall₂ List.Perm plans lists := by
  induction lists generalizing plans t with
  | nil =>
    cases h
    exact .nil
  | cons endpoints rest ih =>
    rw [plans?] at h
    split at h
    · cases h
    next plan t₁ hplan =>
    split at h
    · cases h
    next others t₂ hothers =>
    cases h
    exact .cons (Tape.perm_of_shuffle? hplan) (ih hothers)

theorem exists_plans?_zeros {next size : Nat} (lists : List (List String))
    (h : next + 4 * lists.flatten.length ≤ size) :
    ∃ plans rest, plans? lists (Tape.zeros next size) = some (plans, rest) := by
  induction lists generalizing next with
  | nil => exact ⟨[], _, rfl⟩
  | cons endpoints rest ih =>
    rw [List.flatten_cons, List.length_append] at h
    obtain ⟨plan, used, hused, hplan⟩ :=
      Tape.exists_shuffle?_zeros endpoints (show next + 4 * endpoints.length ≤ size by omega)
    obtain ⟨plans, left, hplans⟩ :=
      ih (show next + used + 4 * rest.flatten.length ≤ size by omega)
    refine ⟨plan :: plans, left, ?_⟩
    rw [plans?, hplan]
    simp only [hplans]

/-! ## Schedules -/

namespace Stage

variable (services : Services σ)

theorem follow_append (first second : List Nat) (s : Stage σ) :
    s.follow services (first ++ second) = (s.follow services first).follow services second :=
  List.foldl_append ..

theorem length_tasks_advance (s : Stage σ) (i : Nat) :
    (s.advance services i).tasks.length = s.tasks.length := by
  unfold advance
  split
  · rfl
  · split
    · rfl
    · rw [List.length_set]

theorem length_tasks_follow (schedule : List Nat) (s : Stage σ) :
    (s.follow services schedule).tasks.length = s.tasks.length := by
  induction schedule generalizing s with
  | nil => rfl
  | cons i schedule ih => exact (ih _).trans (length_tasks_advance services s i)

theorem advance_of_none {s : Stage σ} {i : Nat} (h : s.tasks[i]? = none) :
    s.advance services i = s := by
  simp only [advance, h]

theorem advance_of_done {s : Stage σ} {i : Nat} {a : Outcome} (h : s.tasks[i]? = some (.done a)) :
    s.advance services i = s := by
  simp only [advance, h, Session.step?]

theorem advance_eq {s : Stage σ} {i : Nat} {task left : Session Outcome} {event : Event} {w : σ}
    (h : s.tasks[i]? = some task) (hstep : task.step? services i s.state = some (event, left, w)) :
    s.advance services i = ⟨s.tasks.set i left, s.events ++ [(i, event)], w⟩ := by
  unfold advance
  simp only [h, hstep]

/-- **What a turn is**: the next call of a task, or nothing, if it has none. -/
theorem advance_cases (s : Stage σ) (i : Nat) :
    (s.advance services i = s ∧
      ∀ task, s.tasks[i]? = some task → task.step? services i s.state = none) ∨
    ∃ task event left w, s.tasks[i]? = some task ∧
      task.step? services i s.state = some (event, left, w) ∧
      s.advance services i = ⟨s.tasks.set i left, s.events ++ [(i, event)], w⟩ := by
  cases htask : s.tasks[i]? with
  | none => exact .inl ⟨advance_of_none services htask, fun _ h => nomatch h⟩
  | some task =>
    cases hstep : task.step? services i s.state with
    | none =>
      refine .inl ⟨by simp only [advance, htask, hstep], ?_⟩
      rintro _ ⟨⟩
      exact hstep
    | some call =>
      obtain ⟨event, left, w⟩ := call
      exact .inr ⟨task, event, left, w, rfl, hstep, advance_eq services htask hstep⟩

/-- The stage after a task has made some calls. -/
def after (s : Stage σ) (i : Nat) (run : List Event × Session Outcome × σ) : Stage σ :=
  ⟨s.tasks.set i run.2.1, s.events ++ run.1.map fun e => (i, e), run.2.2⟩

theorem after_step (s : Stage σ) (i : Nat) (event : Event) (left : Session Outcome) (w : σ)
    (run : List Event × Session Outcome × σ) :
    after ⟨s.tasks.set i left, s.events ++ [(i, event)], w⟩ i run
      = s.after i (event :: run.1, run.2.1, run.2.2) := by
  simp [after]

theorem after_nil {s : Stage σ} {i : Nat} {task : Session Outcome} (h : s.tasks[i]? = some task) :
    s.after i ([], task, s.state) = s := by
  obtain ⟨hi, rfl⟩ := List.getElem?_eq_some_iff.mp h
  simp [after]

/-- One call of a task, and then what the rest of the task does from the stage after it. -/
theorem exists_follow_call {s : Stage σ} {i : Nat} {task left : Session Outcome} {event : Event}
    {w : σ} {run : List Event × Session Outcome × σ} (h : s.tasks[i]? = some task)
    (hstep : task.step? services i s.state = some (event, left, w))
    (hrest : ∀ s : Stage σ, s.tasks[i]? = some left → s.state = w →
      ∃ n, s.follow services (List.replicate n i) = s.after i run) :
    ∃ n, s.follow services (List.replicate n i) = s.after i (event :: run.1, run.2.1, run.2.2) := by
  obtain ⟨hi, -⟩ := List.getElem?_eq_some_iff.mp h
  obtain ⟨n, hn⟩ := hrest ⟨s.tasks.set i left, s.events ++ [(i, event)], w⟩ (by simp [hi]) rfl
  refine ⟨n + 1, ?_⟩
  rw [List.replicate_succ, follow, List.foldl_cons, advance_eq services h hstep, ← after_step]
  exact hn

/-- What a task does before a deadline is some number of its calls. -/
theorem exists_follow_playUntil {s : Stage σ} {i : Nat} {task : Session Outcome}
    (delay deadline clock : Nat) (h : s.tasks[i]? = some task) :
    ∃ n, s.follow services (List.replicate n i)
      = s.after i (task.playUntil services i delay deadline clock s.state) := by
  induction task generalizing clock s with
  | done a =>
    refine ⟨0, ?_⟩
    rw [Session.playUntil, after_nil h]
    rfl
  | post endpoint payload next ih =>
    exact exists_follow_call services h rfl fun s hs hw => hw ▸ ih _ clock hs
  | readRoot next ih =>
    exact exists_follow_call services h rfl fun s hs hw => hw ▸ ih _ clock hs
  | readIndex next ih =>
    exact exists_follow_call services h rfl fun s hs hw => hw ▸ ih _ clock hs
  | pause next ih =>
    rw [Session.playUntil]
    -- A pause that ends after the deadline is not made.
    split
    · exact exists_follow_call services h rfl fun s hs hw => hw ▸ ih (clock + delay) hs
    · refine ⟨0, ?_⟩
      rw [after_nil h]
      rfl

theorem exists_follow_finish (delay deadline : Nat) (s : Stage σ) (i : Nat) :
    ∃ schedule, s.follow services schedule = s.finish services delay deadline i := by
  cases h : s.tasks[i]? with
  | none =>
    refine ⟨[], ?_⟩
    simp only [finish, h]
    rfl
  | some task =>
    obtain ⟨n, hn⟩ := exists_follow_playUntil services delay deadline 0 h
    refine ⟨List.replicate n i, ?_⟩
    rw [hn]
    simp only [finish, h]
    rfl

/-- **A round in turn is a schedule.** -/
theorem exists_follow_inTurn (delay deadline : Nat) (s : Stage σ) :
    ∃ schedule, s.follow services schedule = s.inTurn services delay deadline := by
  have hfold : ∀ (order : List Nat) (s : Stage σ),
      ∃ schedule, s.follow services schedule = order.foldl (finish services delay deadline) s := by
    intro order
    induction order with
    | nil => exact fun s => ⟨[], rfl⟩
    | cons i order ih =>
      intro s
      obtain ⟨first, hfirst⟩ := exists_follow_finish services delay deadline s i
      obtain ⟨others, hothers⟩ := ih (s.finish services delay deadline i)
      exact ⟨first ++ others, by rw [follow_append, hfirst, hothers, List.foldl_cons]⟩
  exact hfold _ s

end Stage

/-! ## Rounds -/

/-- **A round of a client is a schedule** of tasks that ask replicas in the order of the plans. -/
theorem exists_follow_runRound? {services : Services σ} {c : Client} {set : OracleSet}
    {request : Request} {t t' : Tape} {w : σ} {stage : Stage σ}
    (h : c.runRound? services set request t w = some (stage, t')) :
    ∃ plans schedule, plans? (set.members.map (·.2)) t = some (plans, t') ∧
      stage = (Stage.start c.retry request plans w).follow services schedule := by
  unfold Client.runRound? at h
  split at h
  · cases h
  next plans t₁ hplans =>
  cases h
  obtain ⟨schedule, hschedule⟩ := Stage.exists_follow_inTurn services c.retry.delay.toNat c.timeout
    (Stage.start c.retry request plans w)
  exact ⟨plans, schedule, hplans, hschedule.symm⟩

/-! ## Reports -/

/-- The reports that rounds over a set end with, whoever answers, whatever the request is, and in
    whichever order the calls are made before the deadline. -/
def Reported (set : OracleSet) (report : Report) : Prop :=
  ∃ (σ : Type) (services : Services σ) (policy : RetryPolicy) (request : Request) (t rest : Tape)
    (plans : List (List String)) (w : σ) (schedule : List Nat),
    plans? (set.members.map (·.2)) t = some (plans, rest) ∧
      report = ((Stage.start policy request plans w).follow services schedule).report set

/-- The rounds of a client are among them. -/
theorem Reported.of_runRound? {services : Services σ} {c : Client} {set : OracleSet}
    {request : Request} {t t' : Tape} {w : σ} {stage : Stage σ}
    (h : c.runRound? services set request t w = some (stage, t')) :
    Reported set (stage.report set) := by
  obtain ⟨plans, schedule, hplans, rfl⟩ := exists_follow_runRound? h
  exact ⟨σ, services, c.retry, request, t, t', plans, w, schedule, hplans, rfl⟩

namespace Report

theorem addresses_sublist_ofTasks (members : List (Address × List String))
    (tasks : List (Session Outcome)) :
    ((ofTasks members tasks).approvals.map (·.1)).Sublist (members.map (·.1)) := by
  induction members generalizing tasks with
  | nil => simp [ofTasks, approvals]
  | cons member members ih =>
    cases tasks with
    | nil => simp [ofTasks, approvals]
    | cons task tasks =>
      have hrest := ih tasks
      unfold ofTasks approvals at hrest ⊢
      rw [List.zipWith_cons_cons, List.filterMap_cons]
      split
      · exact hrest.trans (List.sublist_cons_self ..)
      · next v hv =>
        have horacle : v.1 = member.1 := by
          split at hv
          · cases hv; rfl
          · cases hv
        rw [List.map_cons, List.map_cons, horacle]
        exact hrest.cons_cons _

end Report

theorem members_addresses_sublist (set : OracleSet) :
    (set.members.map (·.1)).Sublist set.addresses := by
  have hzip : ∀ (addresses : List Address) (endpoints : List (List String)),
      ((addresses.zip endpoints).map (·.1)).Sublist addresses := by
    intro addresses
    induction addresses with
    | nil => exact fun _ => List.nil_sublist _
    | cons oracle addresses ih =>
      intro endpoints
      cases endpoints with
      | nil => exact List.nil_sublist _
      | cons replicas endpoints => exact (ih endpoints).cons_cons oracle
  exact hzip set.addresses set.endpoints

/-- **Who approves is in the set, and no more often than there.** -/
theorem Reported.addresses_sublist {set : OracleSet} {report : Report} (h : Reported set report) :
    (report.approvals.map (·.1)).Sublist set.addresses := by
  obtain ⟨σ, services, policy, request, t, rest, plans, w, schedule, -, rfl⟩ := h
  exact (Report.addresses_sublist_ofTasks set.members _).trans (members_addresses_sublist set)

end Registrar.Approval
