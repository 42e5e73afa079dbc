import Registrar.Proofs.Approval.Quorum

/-!
# Oracles on their own

The oracles of a round share its services and its tape. If the readers always answer the same, and what
a replica answers an oracle does not depend on the calls of the others, an oracle cannot tell a round
from being asked alone: whatever the schedule is, its calls are the first of those that it makes alone,
and it ends, if it ends in time, as it does alone.

## Contents

- `orders?`, the random orders of so many replicas each, with `plans?_eq_orders?`;
- `Services.Steady`: readers always answer the same; `Services.Apart`: oracles do not notice each other
  either; `Session.play_congr`;
- `Stage.Alone`, what an oracle keeps of its session alone, with `Stage.Alone.advance_self` and
  `Stage.Alone.advance_other` for one turn and `Stage.alone_follow` for a schedule;
- `Report.approved_add_failed`, `Report.failedEndpoints_eq` and `Report.approvals_eq`, what a report is
  made of;
- `Isolated`, what a report says of oracles on their own, with `isolated_follow` for any schedule and
  `isolated_runRound?` for the rounds of a client.
-/

namespace Registrar.Approval

variable {σ ν : Type}

/-! ## Orders -/

/-- Random orders of so many things each. -/
def orders? : List Nat → Tape → Option (List (List Nat) × Tape)
  | [], t => some ([], t)
  | count :: rest, t =>
    match t.shuffle? (List.range count) with
    | none => none
    | some (order, t) =>
      match orders? rest t with
      | none => none
      | some (others, t) => some (order :: others, t)

/-- Endpoints in a given order. -/
def arranged (endpoints : List String) (order : List Nat) : List String :=
  order.map fun i => endpoints.getD i ""

theorem arranged_range (endpoints : List String) :
    arranged endpoints (List.range endpoints.length) = endpoints := by
  refine List.ext_getElem (by simp [arranged]) fun i hi _ => ?_
  have hlt : i < endpoints.length := by simpa [arranged] using hi
  simp [arranged, hlt]

theorem shuffle?_eq_arranged (endpoints : List String) (t : Tape) :
    t.shuffle? endpoints
      = (t.shuffle? (List.range endpoints.length)).map (Prod.map (arranged endpoints) id) := by
  conv => lhs; rw [← arranged_range endpoints]
  exact Tape.shuffle?_map (fun i => endpoints.getD i "") (List.range endpoints.length) t

/-- **The tape and the numbers of endpoints alone settle the order of each plan.** -/
theorem plans?_eq_orders? (lists : List (List String)) (t : Tape) :
    plans? lists t
      = (orders? (lists.map List.length) t).map (Prod.map (List.zipWith arranged lists) id) := by
  induction lists generalizing t with
  | nil => rfl
  | cons endpoints rest ih =>
    rw [plans?, List.map_cons, orders?, shuffle?_eq_arranged]
    cases t.shuffle? (List.range endpoints.length) with
    | none => rfl
    | some choice =>
      obtain ⟨order, t₁⟩ := choice
      dsimp only [Option.map_some, Prod.map_apply, id_eq]
      rw [ih]
      cases orders? (rest.map List.length) t₁ with
      | none => rfl
      | some others => rfl

/-! ## Services that keep oracles apart -/

/-- The readers always answer the same. -/
structure Services.Steady (services : Services σ) (root : Except String Hash)
    (index : Except String UInt64) : Prop where
  root_answer : ∀ w, (services.root w).1 = root
  index_answer : ∀ w, (services.index w).1 = index

/-- Services with steady readers, and with replicas whose answers to an oracle depend on its own calls
    alone: they are settled by its view of the state, which the calls of the others and reads of the
    registry leave as it is. -/
structure Services.Apart (services : Services σ) (view : Nat → σ → ν)
    (root : Except String Hash) (index : Except String UInt64) : Prop
    extends services.Steady root index where
  root_view : ∀ i w, view i (services.root w).2 = view i w
  index_view : ∀ i w, view i (services.index w).2 = view i w
  others_view : ∀ {i j : Nat}, i ≠ j → ∀ endpoint payload w,
    view i (services.reply j endpoint payload w).2 = view i w
  own_answer : ∀ {i : Nat} {w w' : σ}, view i w = view i w' → ∀ endpoint payload,
    (services.reply i endpoint payload w).1 = (services.reply i endpoint payload w').1
  own_view : ∀ {i : Nat} {w w' : σ}, view i w = view i w' → ∀ endpoint payload,
    view i (services.reply i endpoint payload w).2 = view i (services.reply i endpoint payload w').2

variable {services : Services σ} {view : Nat → σ → ν} {root : Except String Hash}
  {index : Except String UInt64}

namespace Session

variable {α : Type} {i j : Nat} {w w' : σ}

/-- The calls of a session are its next call and those after it. -/
theorem play_of_step? {s left : Session α} {event : Event}
    (h : s.step? services i w = some (event, left, w')) :
    s.play services i w = (event :: (left.play services i w').1, (left.play services i w').2) := by
  cases s <;> cases h <;> rfl

theorem play_of_step?_none {s : Session α} (h : s.step? services i w = none) :
    (s.play services i w).1 = [] := by
  cases s with
  | done a => rfl
  | _ => cases h

/-- Nobody else notices a call. -/
theorem view_of_step? (hapart : services.Apart view root index) {s left : Session α} {event : Event}
    (hne : i ≠ j) (h : s.step? services j w = some (event, left, w')) : view i w' = view i w := by
  cases s with
  | done a => cases h
  | post endpoint payload next =>
    cases h
    exact hapart.others_view hne endpoint payload w
  | readRoot next =>
    cases h
    exact hapart.root_view i w
  | readIndex next =>
    cases h
    exact hapart.index_view i w
  | pause next =>
    cases h
    rfl

/-- **A session goes the same way from all states that look the same to who runs it.** -/
theorem play_congr (hapart : services.Apart view root index) (s : Session α)
    (h : view i w = view i w') :
    (s.play services i w).1 = (s.play services i w').1 ∧
      (s.play services i w).2.1 = (s.play services i w').2.1 := by
  induction s generalizing w w' with
  | done a => exact ⟨rfl, rfl⟩
  | post endpoint payload next ih =>
    have hanswer := hapart.own_answer h endpoint payload
    obtain ⟨hevents, hresult⟩ :=
      ih (services.reply i endpoint payload w').1 (hapart.own_view h endpoint payload)
    simp only [play, hanswer]
    exact ⟨congrArg _ hevents, hresult⟩
  | readRoot next ih =>
    have hview : view i (services.root w).2 = view i (services.root w').2 := by
      rw [hapart.root_view, hapart.root_view, h]
    obtain ⟨hevents, hresult⟩ := ih root hview
    simp only [play, hapart.root_answer]
    exact ⟨congrArg _ hevents, hresult⟩
  | readIndex next ih =>
    have hview : view i (services.index w).2 = view i (services.index w').2 := by
      rw [hapart.index_view, hapart.index_view, h]
    obtain ⟨hevents, hresult⟩ := ih index hview
    simp only [play, hapart.index_answer]
    exact ⟨congrArg _ hevents, hresult⟩
  | pause next ih =>
    obtain ⟨hevents, hresult⟩ := ih h
    simp only [play]
    exact ⟨congrArg _ hevents, hresult⟩

/-- A session that has no next call is done. -/
theorem result?_eq_none_iff (s : Session α) (w : σ) :
    s.result? = none ↔ (s.play services i w).1 ≠ [] := by
  cases s <;> simp [result?, play]

theorem play_of_result? {s : Session α} {a : α} (h : s.result? = some a) (w : σ) :
    s.play services i w = ([], a, w) := by
  cases s with
  | done b =>
    cases h
    rfl
  | _ => cases h

end Session

/-! ## One oracle of a stage -/

namespace Stage

/-- The calls of a task so far. -/
def callsOf (s : Stage σ) (i : Nat) : List Event :=
  (s.events.filter fun x => x.1 = i).map (·.2)

theorem callsOf_concat (tasks : List (Session Outcome)) (events : List (Nat × Event)) (w : σ)
    (i j : Nat) (event : Event) :
    callsOf ⟨tasks, events ++ [(j, event)], w⟩ i
      = if j = i then callsOf ⟨tasks, events, w⟩ i ++ [event]
        else callsOf ⟨tasks, events, w⟩ i := by
  by_cases h : j = i <;> simp [callsOf, List.filter_append, h]

variable {i j : Nat} {s : Stage σ}

/-- A turn of another task moves neither this task nor its calls. -/
theorem advance_other (services : Services σ) (hne : j ≠ i) :
    (s.advance services j).tasks[i]? = s.tasks[i]? ∧
      (s.advance services j).callsOf i = s.callsOf i := by
  rcases s.advance_cases services j with ⟨hsame, -⟩ | ⟨task, event, left, w, -, -, hnext⟩
  · rw [hsame]
    exact ⟨rfl, rfl⟩
  · rw [hnext, callsOf_concat, if_neg hne]
    exact ⟨List.getElem?_set_ne hne, rfl⟩

/-- Nobody else notices a turn. -/
theorem view_advance (hapart : services.Apart view root index) (hne : j ≠ i) :
    view i (s.advance services j).state = view i s.state := by
  rcases s.advance_cases services j with ⟨hsame, -⟩ | ⟨task, event, left, w, -, hstep, hnext⟩
  · rw [hsame]
  · rw [hnext]
    exact Session.view_of_step? hapart hne.symm hstep

/-- A task has made the first `n` of given calls, and if nobody else made a call any more, it would
    make the others and come to a given outcome. -/
def Alone (services : Services σ) (i n : Nat) (calls : List Event) (outcome : Outcome)
    (s : Stage σ) : Prop :=
  ∃ task, s.tasks[i]? = some task ∧ s.callsOf i = calls.take n ∧
    (task.play services i s.state).1 = calls.drop n ∧
    (task.play services i s.state).2.1 = outcome

variable {n : Nat} {calls : List Event} {outcome : Outcome}

/-- **A turn of its own is the next call that it makes alone**; after the last one its turns pass. -/
theorem Alone.advance_self (h : s.Alone services i n calls outcome) :
    (s.advance services i).Alone services i (n + 1) calls outcome := by
  obtain ⟨task, htask, hmade, hleft, houtcome⟩ := h
  rcases s.advance_cases services i with ⟨hsame, hnone⟩ | ⟨task', event, left, w, htask', hstep, hnext⟩
  · have hdone : calls.length ≤ n := by
      rw [← List.drop_eq_nil_iff, ← hleft]
      exact Session.play_of_step?_none (hnone task htask)
    rw [hsame]
    refine ⟨task, htask, ?_, ?_, houtcome⟩
    · rw [hmade, List.take_of_length_le hdone, List.take_of_length_le (Nat.le_succ_of_le hdone)]
    · rw [hleft, List.drop_of_length_le hdone, List.drop_of_length_le (Nat.le_succ_of_le hdone)]
  · obtain rfl : task = task' := Option.some.inj (htask.symm.trans htask')
    rw [Session.play_of_step? hstep] at hleft houtcome
    obtain ⟨hlt, -⟩ := List.getElem?_eq_some_iff.mp htask
    have hn : n < calls.length := by
      apply Nat.lt_of_not_le
      intro hdone
      rw [List.drop_of_length_le hdone] at hleft
      cases hleft
    rw [List.drop_eq_getElem_cons hn] at hleft
    obtain ⟨hevent, hrest⟩ := List.cons.inj hleft
    rw [hnext]
    refine ⟨left, List.getElem?_set_self hlt, ?_, hrest, houtcome⟩
    rw [callsOf_concat, if_pos rfl, List.take_succ_eq_append_getElem hn, ← hmade, ← hevent]
    rfl

/-- **A turn of another task changes nothing for it.** -/
theorem Alone.advance_other (hapart : services.Apart view root index)
    (h : s.Alone services i n calls outcome) (hne : j ≠ i) :
    (s.advance services j).Alone services i n calls outcome := by
  obtain ⟨task, htask, hmade, hleft, houtcome⟩ := h
  obtain ⟨hsame, hcalls⟩ := Stage.advance_other (s := s) services hne
  obtain ⟨hevents, hresult⟩ := Session.play_congr hapart task (view_advance (s := s) hapart hne)
  exact ⟨task, hsame.trans htask, hcalls.trans hmade, hevents.trans hleft, hresult.trans houtcome⟩

theorem Alone.follow (hapart : services.Apart view root index)
    (h : s.Alone services i n calls outcome) (schedule : List Nat) :
    (s.follow services schedule).Alone services i (n + schedule.count i) calls outcome := by
  induction schedule generalizing s n with
  | nil => exact h
  | cons j schedule ih =>
    rcases eq_or_ne j i with rfl | hne
    · rw [List.count_cons_self, Nat.add_comm (schedule.count j), ← Nat.add_assoc]
      exact ih h.advance_self
    · rw [List.count_cons_of_ne hne]
      exact ih (h.advance_other hapart hne)

/-- **After a schedule a task has made as many of its calls as it had turns.** -/
theorem alone_follow (hapart : services.Apart view root index) (policy : RetryPolicy)
    (request : Request) {plans : List (List String)} {plan : List String}
    (hplan : plans[i]? = some plan) (w : σ) (schedule : List Nat) :
    ((Stage.start policy request plans w).follow services schedule).Alone services i
      (schedule.count i) ((walk policy request plan).play services i w).1
      ((walk policy request plan).play services i w).2.1 := by
  -- At the start everything is left to do.
  have hstart : (Stage.start policy request plans w).Alone services i 0
      ((walk policy request plan).play services i w).1
      ((walk policy request plan).play services i w).2.1 :=
    ⟨walk policy request plan, by simp [Stage.start, hplan], rfl, rfl, rfl⟩
  rw [← Nat.zero_add (schedule.count i)]
  exact hstart.follow hapart schedule

/-- A task is still open. -/
def Pending (s : Stage σ) (i : Nat) : Prop := ∃ task ∈ s.tasks[i]?, task.result? = none

instance (s : Stage σ) (i : Nat) : Decidable (s.Pending i) :=
  inferInstanceAs (Decidable (∃ task ∈ s.tasks[i]?, task.result? = none))

theorem pending_iff {task : Session Outcome} (htask : s.tasks[i]? = some task) :
    s.Pending i ↔ task.result? = none := by
  unfold Pending
  rw [htask]
  exact ⟨fun ⟨_, hin, hnone⟩ => Option.some.inj hin ▸ hnone, fun hnone => ⟨task, rfl, hnone⟩⟩

theorem not_pending_of_all (h : s.tasks.all (fun task => task.result?.isSome) = true) (i : Nat) :
    ¬ s.Pending i := by
  rintro ⟨task, htask, hnone⟩
  have hsome := List.all_eq_true.mp h task (List.mem_of_getElem? htask)
  rw [hnone] at hsome
  cases hsome

/-- It is still open if turns were missing. -/
theorem Alone.pending_iff (h : s.Alone services i n calls outcome) :
    s.Pending i ↔ n < calls.length := by
  obtain ⟨task, htask, -, hleft, -⟩ := h
  rw [Stage.pending_iff htask, task.result?_eq_none_iff s.state, hleft, ne_eq, List.drop_eq_nil_iff,
    Nat.not_le]

/-- What a report says of it: it timed out, or came to the outcome it comes to alone. -/
theorem Alone.outcome_eq (h : s.Alone services i n calls outcome) :
    ∃ task, s.tasks[i]? = some task ∧
      task.result?.getD (.error .timeout) = if s.Pending i then .error .timeout else outcome := by
  obtain ⟨task, htask, -, -, houtcome⟩ := h
  refine ⟨task, htask, ?_⟩
  have hpending := Stage.pending_iff htask
  cases hresult : task.result? with
  | none => rw [if_pos (hpending.mpr hresult), Option.getD_none]
  | some a =>
    have hdone : ¬ s.Pending i := by
      rw [hpending, hresult]
      exact Option.some_ne_none a
    rw [if_neg hdone, Option.getD_some, ← houtcome, Session.play_of_result? hresult]

end Stage

/-! ## What a report is made of -/

namespace Report

variable {members : List (Address × List String)} {tasks : List (Session Outcome)}

theorem oracles_ofTasks (h : tasks.length = members.length) :
    (ofTasks members tasks).results.map (·.oracle) = members.map (·.1) :=
  List.ext_getElem (by simp [ofTasks, h]) fun _ _ _ => by simp [ofTasks]

theorem endpoints_ofTasks (h : tasks.length = members.length) :
    (ofTasks members tasks).results.map (·.endpoints) = members.map (·.2) :=
  List.ext_getElem (by simp [ofTasks, h]) fun _ _ _ => by simp [ofTasks]

theorem outcomes_ofTasks (h : tasks.length = members.length) :
    (ofTasks members tasks).results.map (·.outcome)
      = tasks.map fun task => task.result?.getD (.error .timeout) :=
  List.ext_getElem (by simp [ofTasks, h]) fun _ _ _ => by simp [ofTasks]

theorem isApproval_eq (x : OracleResult) : isApproval x = x.outcome.isOk := by
  unfold isApproval
  cases x.outcome <;> rfl

/-- Everyone approved or failed. -/
theorem approved_add_failed (r : Report) :
    r.approved + (r.results.map (·.outcome)).countP (fun outcome => !outcome.isOk) = r.total := by
  have hfailed : (r.results.map (·.outcome)).countP (fun outcome => !outcome.isOk)
      = r.results.countP fun x => !isApproval x := by
    rw [List.countP_map]
    exact List.countP_congr fun x _ => by rw [isApproval_eq, Function.comp_apply]
  rw [hfailed, approved, total, List.length_eq_countP_add_countP isApproval]
  simp

/-- The endpoints of those whose outcome is a fault. -/
theorem failedEndpoints_eq (r : Report) :
    r.failedEndpoints
      = (((r.results.map (·.endpoints)).zip (r.results.map (·.outcome))).filter
          fun x => !x.2.isOk).flatMap (·.1) := by
  have hfailed : (fun x : OracleResult => !isApproval x) = fun x => !x.outcome.isOk :=
    funext fun x => by rw [isApproval_eq]
  rw [failedEndpoints, hfailed, List.zip_map', List.filter_map, List.flatMap_map]
  rfl

/-- The approvals of those whose outcome is one. -/
theorem approvals_eq (r : Report) :
    r.approvals
      = ((r.results.map (·.oracle)).zip (r.results.map (·.outcome))).filterMap
          fun x => x.2.toOption.map fun a => (x.1, a) := by
  rw [approvals, List.zip_map', List.filterMap_map]
  refine List.filterMap_congr fun x _ => ?_
  rw [Function.comp_apply]
  cases x.outcome <;> rfl

end Report

/-! ## Rounds -/

variable {set : OracleSet} {t rest : Tape} {plans : List (List String)}

/-- There is a task for each member of a checked set. -/
theorem length_tasks_follow_of_check (services : Services σ) (policy : RetryPolicy)
    (request : Request) (w : σ) (schedule : List Nat) (hcheck : set.check = .ok ())
    (hplans : plans? (set.members.map (·.2)) t = some (plans, rest)) :
    ((Stage.start policy request plans w).follow services schedule).tasks.length
      = set.members.length := by
  obtain ⟨hlists, hpermuted, -, -⟩ := plans_of_check hcheck hplans
  have hmembers : set.members.length = plans.length := by
    rw [hpermuted.length_eq, ← hlists, List.length_map]
  rw [Stage.length_tasks_follow, hmembers]
  exact List.length_map _

/-- The results are those of the oracles of the set, in its order. -/
theorem oracles_report (hcheck : set.check = .ok ()) {s : Stage σ}
    (hmembers : s.tasks.length = set.members.length) :
    (s.report set).results.map (·.oracle) = set.addresses := by
  obtain ⟨hlength, -⟩ := check_eq_ok hcheck
  exact (Report.oracles_ofTasks hmembers).trans (List.map_fst_zip (Nat.le_of_eq hlength))

/-- What a round over a set says of its oracles, after a schedule has led to a stage: each of them has
    done what it does alone, as far as its turns went. -/
structure Isolated (services : Services σ) (policy : RetryPolicy) (request : Request)
    (set : OracleSet) (t : Tape) (plans : List (List String)) (w : σ) (schedule : List Nat)
    (s : Stage σ) : Prop where
  /-- The orders of the plans are those that the tape gives for so many endpoints each. -/
  planned : ∃ orders rest, orders? (set.endpoints.map List.length) t = some (orders, rest) ∧
    plans = List.zipWith arranged set.endpoints orders
  /-- A plan has the endpoints of its oracle. -/
  permuted : List.Forall₂ List.Perm plans set.endpoints
  /-- An oracle made the first of the calls that it makes alone, one each turn. -/
  calls : ∀ i plan, plans[i]? = some plan →
    s.callsOf i = ((walk policy request plan).play services i w).1.take (schedule.count i)
  /-- It is still open if it had too few turns. -/
  pending : ∀ i plan, plans[i]? = some plan →
    (s.Pending i ↔ schedule.count i < ((walk policy request plan).play services i w).1.length)
  /-- It timed out, or ended as it does alone. -/
  outcomes : (s.report set).results.map (·.outcome) = plans.mapIdx fun i plan =>
    if s.Pending i then .error .timeout else ((walk policy request plan).play services i w).2.1
  oracles : (s.report set).results.map (·.oracle) = set.addresses
  endpoints : (s.report set).results.map (·.endpoints) = set.endpoints
  total : (s.report set).total = set.size
  counted : (s.report set).approved
    + ((s.report set).results.map (·.outcome)).countP (fun outcome => !outcome.isOk) = set.size
  failed : (s.report set).failedEndpoints
    = ((set.endpoints.zip ((s.report set).results.map (·.outcome))).filter
        fun x => !x.2.isOk).flatMap (·.1)
  approved : (s.report set).approvals
    = (set.addresses.zip ((s.report set).results.map (·.outcome))).filterMap
        fun x => x.2.toOption.map fun a => (x.1, a)

/-- What tasks on their own come to. -/
theorem Isolated.of_alone (hcheck : set.check = .ok ()) {policy : RetryPolicy} {request : Request}
    (hplans : plans? (set.members.map (·.2)) t = some (plans, rest)) {w : σ} {schedule : List Nat}
    {stage : Stage σ} (hmembers : stage.tasks.length = set.members.length)
    (halone : ∀ i plan, plans[i]? = some plan → stage.Alone services i (schedule.count i)
      ((walk policy request plan).play services i w).1
      ((walk policy request plan).play services i w).2.1) :
    Isolated services policy request set t plans w schedule stage := by
  obtain ⟨hlists, hpermuted, -, -⟩ := plans_of_check hcheck hplans
  rw [hlists] at hplans
  have horacles := oracles_report hcheck hmembers
  have hendpoints : (stage.report set).results.map (·.endpoints) = set.endpoints :=
    (Report.endpoints_ofTasks hmembers).trans hlists
  have htotal : (stage.report set).total = set.size := by
    rw [OracleSet.size, ← horacles, List.length_map]
    rfl
  refine
    { planned := ?_, permuted := hpermuted, calls := ?_, pending := ?_, outcomes := ?_,
      oracles := horacles, endpoints := hendpoints, total := htotal, counted := ?_, failed := ?_,
      approved := ?_ }
  · rw [plans?_eq_orders?] at hplans
    obtain ⟨⟨orders, rest'⟩, horders, heq⟩ := Option.map_eq_some_iff.mp hplans
    exact ⟨orders, rest', horders, (congrArg Prod.fst heq).symm⟩
  · intro i plan hplan
    obtain ⟨_, -, hmade, -, -⟩ := halone i plan hplan
    exact hmade
  · exact fun i plan hplan => (halone i plan hplan).pending_iff
  · refine (Report.outcomes_ofTasks hmembers).trans ?_
    have htasks : stage.tasks.length = plans.length := by
      rw [hmembers, hpermuted.length_eq, ← hlists, List.length_map]
    refine List.ext_getElem (by simp [htasks]) fun i hi _ => ?_
    have hi' : i < plans.length := by simpa [htasks] using hi
    obtain ⟨task, htask, houtcome⟩ := (halone i _ (List.getElem?_eq_getElem hi')).outcome_eq
    obtain ⟨_, rfl⟩ := List.getElem?_eq_some_iff.mp htask
    rw [List.getElem_map, List.getElem_mapIdx]
    exact houtcome
  · rw [← htotal]
    exact Report.approved_add_failed _
  · rw [← hendpoints]
    exact Report.failedEndpoints_eq _
  · rw [← horacles]
    exact Report.approvals_eq _

/-- **The oracles of a round are on their own**, whatever the tape, the order of the calls and the
    deadline are. -/
theorem isolated_follow (hapart : services.Apart view root index) {set : OracleSet}
    (hcheck : set.check = .ok ()) (policy : RetryPolicy) (request : Request) {t rest : Tape}
    {plans : List (List String)} (hplans : plans? (set.members.map (·.2)) t = some (plans, rest))
    (w : σ) (schedule : List Nat) :
    Isolated services policy request set t plans w schedule
      ((Stage.start policy request plans w).follow services schedule) := by
  have hmembers := length_tasks_follow_of_check services policy request w schedule hcheck hplans
  refine .of_alone hcheck hplans hmembers fun i plan hplan => ?_
  exact Stage.alone_follow hapart policy request hplan w schedule

/-- The first call of every oracle gets no answer, and its later ones get approvals. The state has the
    number of calls of every oracle. -/
def hesitant (root : Hash) (index : UInt64) : Services (Nat → Nat) where
  reply caller _ _ calls :=
    (if calls caller = 0 then .noAnswer else approvingReply,
      Function.update calls caller (calls caller + 1))
  root calls := (.ok root, calls)
  index calls := (.ok index, calls)

theorem hesitant_apart (root : Hash) (index : UInt64) :
    (hesitant root index).Apart (fun i calls => calls i) (.ok root) (.ok index) where
  root_answer _ := rfl
  index_answer _ := rfl
  root_view _ _ := rfl
  index_view _ _ := rfl
  others_view hne _ _ _ := Function.update_of_ne hne ..
  own_answer h _ _ := by simp only [hesitant, h]
  own_view h _ _ := by simp only [hesitant, Function.update_self, h]

/-- Two oracles, of which the second one approves at its second call, while the first one has to wait
    for its second call when the deadline comes. -/
theorem isolated_follow_hesitant :
    let set : OracleSet :=
      ⟨[.replicate 20 0x01, .replicate 20 0x02], [["http://a", "http://b"], ["http://c"]], 1⟩
    let request : Request := ⟨3, .zero 20, .zero 32, [], [], [], [], [], [], [], 0⟩
    let services := hesitant (.zero 32) 3
    let plans := [["http://b", "http://a"], ["http://c"]]
    let schedule := [1, 0, 1, 1, 0, 1, 1]
    let stage := (Stage.start ⟨2, 0⟩ request plans fun _ => 0).follow services schedule
    services.Apart (fun i calls => calls i) (.ok (.zero 32)) (.ok 3) ∧ set.check = .ok () ∧
      plans? (set.members.map (·.2)) (.zeros 0 4) = some (plans, .zeros 4 4) ∧
      Isolated services ⟨2, 0⟩ request set (.zeros 0 4) plans (fun _ => 0) schedule stage ∧
      (stage.report set).results.map (·.outcome) = [.error .timeout, .ok givenApproval] := by
  intro set request services plans schedule stage
  have hapart : services.Apart (fun i calls => calls i) (.ok (.zero 32)) (.ok 3) :=
    hesitant_apart (.zero 32) 3
  have hcheck : set.check = .ok () := rfl
  have hplans : plans? (set.members.map (·.2)) (.zeros 0 4) = some (plans, .zeros 4 4) := by
    simp [set, plans, OracleSet.members, plans?, Tape.shuffle?, Tape.shuffleUpTo?,
      Tape.below?_zeros, Tape.swap]
  have houtcomes : (stage.report set).results.map (·.outcome)
      = [.error .timeout, .ok givenApproval] := by decide +kernel
  exact ⟨hapart, hcheck, hplans, isolated_follow hapart hcheck _ request hplans _ schedule, houtcomes⟩

/-- **So are those of every round of a client.** -/
theorem isolated_runRound? (hapart : services.Apart view root index) {c : Client} {set : OracleSet}
    (hcheck : set.check = .ok ()) {request : Request} {t t' : Tape} {w : σ} {stage : Stage σ}
    (h : c.runRound? services set request t w = some (stage, t')) :
    ∃ plans schedule, Isolated services c.retry request set t plans w schedule stage := by
  obtain ⟨plans, schedule, hplans, rfl⟩ := exists_follow_runRound? h
  have hmembers := length_tasks_follow_of_check services c.retry request w schedule hcheck hplans
  refine ⟨plans, schedule, .of_alone hcheck hplans hmembers fun i plan hplan => ?_⟩
  exact Stage.alone_follow hapart c.retry request hplan w schedule

end Registrar.Approval
