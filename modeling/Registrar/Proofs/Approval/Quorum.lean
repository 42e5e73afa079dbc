import Mathlib.Data.Finset.Card
import Mathlib.Data.List.Nodup
import Registrar.Proofs.Approval.Schedule
import Registrar.Proofs.Oracle.Majority

/-!
# Quorums of distinct oracles

A combined approval should stand for as many different oracles as the threshold asks for. It does if
no address is in the set twice. Nothing checks that, and an oracle that is in the set twice has two
votes.

## Contents

- `DistinctQuorum`, with `combine_distinct`: votes of different oracles make one;
- `willing`, services in which every replica approves, and `exists_reported_willing`, rounds in which
  any of the oracles answer in time;
- `exists_indistinct`, a quorum with an oracle that counts twice;
- `distinctQuorum_iff`, the sets whose rounds only end in distinct quorums.
-/

namespace Registrar.Approval

open Majority

/-! ## Quorums -/

/-- As many approvals as asked for, of different oracles and all of the data and the deadline of `a`,
    whose signatures by ascending address are those of `a`. -/
def DistinctQuorum (approvals : List (Address × SignedApproval)) (threshold : Nat)
    (a : CombinedApproval) : Prop :=
  ∃ quorum : List (Address × SignedApproval),
    quorum.length = threshold ∧
      (∀ v ∈ quorum, v ∈ approvals ∧ v.2.ipfsHash = a.ipfsHash ∧ v.2.deadline = a.deadline) ∧
      (quorum.map (·.1)).Pairwise (· < ·) ∧
      a.signatures = quorum.flatMap (·.2.signature)

variable {approvals : List (Address × SignedApproval)} {n : Nat} {a : CombinedApproval}

/-- The approvals of a ballot by ascending address. -/
def ascending (ballot : Ballot) (approvals : List (Address × SignedApproval)) :
    List (Address × SignedApproval) :=
  (approvals.filter fun v => Names v.2 ballot).mergeSort fun v w => decide (v.1 ≤ w.1)

theorem mem_ascending {ballot : Ballot} {v : Address × SignedApproval} :
    v ∈ ascending ballot approvals ↔ v ∈ approvals ∧ Names v.2 ballot := by
  simp [ascending]

theorem length_ascending (ballot : Ballot) (approvals : List (Address × SignedApproval)) :
    (ascending ballot approvals).length = (votesFor ballot approvals).length := by
  rw [ascending, List.length_mergeSort, votesFor, List.length_map]

/-- Sorting votes is sorting the approvals that they come from. -/
theorem signatures_votesFor (ballot : Ballot) (approvals : List (Address × SignedApproval)) :
    signatures n (votesFor ballot approvals)
      = ((ascending ballot approvals).take n).flatMap (·.2.signature) := by
  have hsort : (ascending ballot approvals).map voteOf
      = (votesFor ballot approvals).mergeSort fun v w => decide (v.1 ≤ w.1) := by
    rw [ascending, votesFor]
    exact List.map_mergeSort fun _ _ _ _ => rfl
  rw [signatures, ← hsort, ← List.map_take, List.flatMap_map]
  rfl

theorem pairwise_ascending (ballot : Ballot) (approvals : List (Address × SignedApproval)) :
    (ascending ballot approvals).Pairwise fun v w => v.1 ≤ w.1 :=
  Octets.pairwise_mergeSort Prod.fst _

/-- The first `n` approvals of the winning ballot, by ascending address. -/
theorem exists_quorum_of_combine (h : combine approvals n = .ok a)
    (hstrict : (((ascending (a.ipfsHash, a.deadline) approvals).take n).map (·.1)).Pairwise (· < ·)) :
    DistinctQuorum approvals n a := by
  obtain ⟨-, henough, hsignatures⟩ := combine_eq_ok h
  refine ⟨(ascending (a.ipfsHash, a.deadline) approvals).take n, ?_, ?_, hstrict, ?_⟩
  · rw [List.length_take, length_ascending]
    exact Nat.min_eq_left henough
  · exact fun v hv => mem_ascending.mp (List.mem_of_mem_take hv)
  · rw [hsignatures, signatures_votesFor]

/-- **Approvals of different oracles make a distinct quorum.** -/
theorem combine_distinct (hnodup : (approvals.map (·.1)).Nodup) (h : combine approvals n = .ok a) :
    DistinctQuorum approvals n a := by
  refine exists_quorum_of_combine h ?_
  have hperm : ((ascending (a.ipfsHash, a.deadline) approvals).map (·.1)).Perm
      ((approvals.filter fun v => Names v.2 (a.ipfsHash, a.deadline)).map (·.1)) :=
    (List.mergeSort_perm _ _).map _
  have hdistinct : ((ascending (a.ipfsHash, a.deadline) approvals).map (·.1)).Nodup :=
    hperm.nodup_iff.mpr (hnodup.sublist (List.filter_sublist.map _))
  have hle : ((ascending (a.ipfsHash, a.deadline) approvals).map (·.1)).Pairwise (· ≤ ·) :=
    List.pairwise_map.mpr (pairwise_ascending _ _)
  have hlt : ((ascending (a.ipfsHash, a.deadline) approvals).map (·.1)).Pairwise (· < ·) :=
    hle.imp₂ (fun _ _ hle hne => Octets.lt_of_le_of_ne hle hne) hdistinct
  rw [List.map_take]
  exact hlt.sublist (List.take_sublist ..)

/-- One vote is distinct. -/
theorem combine_distinct_of_le_one (hn : n ≤ 1) (h : combine approvals n = .ok a) :
    DistinctQuorum approvals n a := by
  refine exists_quorum_of_combine h ?_
  have hlength : ((ascending (a.ipfsHash, a.deadline) approvals).take n).length ≤ 1 := by
    rw [List.length_take]
    omega
  match hquorum : (ascending (a.ipfsHash, a.deadline) approvals).take n, hlength with
  | [], _ => exact List.Pairwise.nil
  | [v], _ => exact List.pairwise_singleton ..

/-- A distinct quorum of everyone who approves has everyone once. -/
theorem DistinctQuorum.nodup (h : DistinctQuorum approvals approvals.length a) :
    (approvals.map (·.1)).Nodup := by
  obtain ⟨quorum, hlength, hmem, hstrict, -⟩ := h
  have hnodup : (quorum.map (·.1)).Nodup := by
    refine hstrict.imp ?_
    rintro x y hlt rfl
    exact List.lt_irrefl x.toList hlt
  have hsubset : quorum.map (·.1) ⊆ approvals.map (·.1) := by
    intro x hx
    obtain ⟨v, hv, rfl⟩ := List.mem_map.mp hx
    exact List.mem_map_of_mem (hmem v hv).1
  have hperm : (quorum.map (·.1)).Perm (approvals.map (·.1)) :=
    (List.subperm_of_subset hnodup hsubset).perm_of_length_le (by
      rw [List.length_map, List.length_map, hlength])
  exact hperm.nodup_iff.mp hnodup

/-! ## Rounds in which replicas approve -/

/-- A reply that approves. -/
def approvingReply : Reply :=
  .answer 200 (Text.Utf8.write "\x7b\"ipfs_hash\":\"Qm\",\"signature\":\"aa\",\"deadline\":7\x7d") true

/-- What it approves. -/
def givenApproval : SignedApproval := ⟨"Qm", [0xaa], 7⟩

theorem approvalOf_approvingReply : approvalOf approvingReply = .ok givenApproval := rfl

/-- Every replica approves. -/
def willing : Services Unit where
  reply _ _ _ w := (approvingReply, w)
  root w := (.error "", w)
  index w := (.error "", w)

variable {policy : RetryPolicy} {request : Request}

/-- The first call of a walk is the last one. -/
theorem step?_walk_willing (i : Nat) {replicas : List String} (h : replicas ≠ []) :
    ∃ event, (walk policy request replicas).step? willing i ()
      = some (event, .done (.ok givenApproval), ()) := by
  cases replicas with
  | nil => exact absurd rfl h
  | cons endpoint rest =>
    refine ⟨.posted endpoint request.payload approvingReply, ?_⟩
    unfold walk walkFrom
    cases policy.retries with
    | zero =>
      simp only [ask, attempt, Session.step?, willing, approvalOf_approvingReply]
    | succ retries =>
      simp only [ask, attempt, Session.step?, willing, approvalOf_approvingReply]

theorem result?_walk {replicas : List String} (h : replicas ≠ []) :
    (walk policy request replicas).result? = none := by
  cases replicas with
  | nil => exact absurd rfl h
  | cons endpoint rest =>
    unfold walk walkFrom
    cases policy.retries with
    | zero => rfl
    | succ retries => rfl

/-- **Whoever is on the schedule has approved, and nobody else has.** -/
theorem tasks_follow_willing {plans : List (List String)} (hplans : ∀ plan ∈ plans, plan ≠ [])
    (schedule : List Nat) (i : Nat) :
    ((Stage.start policy request plans ()).follow willing schedule).tasks[i]?
      = plans[i]?.map fun plan =>
          if i ∈ schedule then .done (.ok givenApproval) else walk policy request plan := by
  induction schedule using List.reverseRecOn generalizing i with
  | nil => simp [Stage.follow, Stage.start]
  | append_singleton schedule j ih =>
    rw [Stage.follow_append]
    generalize hstage : (Stage.start policy request plans ()).follow willing schedule = stage at ih ⊢
    show (stage.advance willing j).tasks[i]? = _
    have hmem : i ∈ schedule ++ [j] ↔ i ∈ schedule ∨ i = j := by simp
    cases hplan : plans[j]? with
    | none =>
      -- There is no such task.
      have htask := ih j
      rw [hplan, Option.map_none] at htask
      rw [Stage.advance_of_none willing htask, ih i]
      rcases eq_or_ne i j with rfl | hne
      · rw [hplan, Option.map_none, Option.map_none]
      · simp only [hmem, hne, or_false]
    | some plan =>
      have htask := ih j
      rw [hplan, Option.map_some] at htask
      by_cases hj : j ∈ schedule
      · -- It is done, and makes no more calls.
        rw [if_pos hj] at htask
        have hmem' : i ∈ schedule ++ [j] ↔ i ∈ schedule := by
          rw [hmem]
          exact ⟨fun h => h.elim id fun h => h ▸ hj, .inl⟩
        rw [Stage.advance_of_done willing htask, ih i]
        simp only [hmem']
      · -- Its first call is answered with an approval.
        rw [if_neg hj] at htask
        obtain ⟨event, hevent⟩ : ∃ event, (walk policy request plan).step? willing j ()
            = some (event, .done (.ok givenApproval), ()) :=
          step?_walk_willing j (hplans plan (List.mem_of_getElem? hplan))
        rw [Stage.advance_eq willing htask hevent, List.getElem?_set]
        rcases eq_or_ne j i with rfl | hne
        · have hlt : j < stage.tasks.length := (List.getElem?_eq_some_iff.mp htask).1
          rw [if_pos rfl, if_pos hlt, hplan, Option.map_some, if_pos (hmem.mpr (.inr rfl))]
        · rw [if_neg hne, ih i]
          simp only [hmem, Ne.symm hne, or_false]

/-- If the chosen tasks have ended with one approval and the others have not ended, the report has
    the approvals of those who are chosen. -/
theorem Report.approvals_ofTasks (chosen : Nat → Bool) (given : SignedApproval)
    (members : List (Address × List String)) (tasks : List (Session Outcome)) (first : Nat)
    (hlength : tasks.length = members.length)
    (htasks : ∀ i (hi : i < tasks.length),
      tasks[i].result? = if chosen (first + i) then some (.ok given) else none) :
    (ofTasks members tasks).approvals
      = ((members.zipIdx first).filter fun x => chosen x.2).map fun x => (x.1.1, given) := by
  induction members generalizing tasks first with
  | nil => rfl
  | cons member members ih =>
    cases tasks with
    | nil => cases hlength
    | cons task tasks =>
      have hrest := ih tasks (first + 1) (Nat.succ.inj hlength) (by
        intro i hi
        have htask := htasks (i + 1) (Nat.succ_lt_succ hi)
        rw [List.getElem_cons_succ] at htask
        rw [htask, Nat.add_right_comm, Nat.add_assoc])
      have htask := htasks 0 (Nat.succ_pos _)
      rw [List.getElem_cons_zero, Nat.add_zero] at htask
      unfold ofTasks approvals at hrest ⊢
      rw [List.zipWith_cons_cons, List.filterMap_cons, List.zipIdx_cons, List.filter_cons]
      by_cases hchosen : chosen first
      · rw [if_pos hchosen] at htask
        simp only [htask, hchosen, Option.getD_some, if_true, List.map_cons]
        rw [hrest]
      · rw [if_neg hchosen] at htask
        simp only [htask, hchosen, Option.getD_none]
        rw [hrest]
        simp

/-! ## Sets that were checked -/

theorem endpoints_ne_nil_of_checkMembers {members : List (Address × List String)}
    (h : OracleSet.checkMembers members = .ok ()) : ∀ member ∈ members, member.2 ≠ [] := by
  induction members with
  | nil => exact fun _ hin => absurd hin List.not_mem_nil
  | cons member members ih =>
    obtain ⟨oracle, endpoints⟩ := member
    rw [OracleSet.checkMembers] at h
    split at h
    · cases h
    next hne =>
    split at h
    · cases h
    intro member hin
    rcases List.mem_cons.mp hin with rfl | hin
    · exact hne
    · exact ih h member hin

theorem check_eq_ok {set : OracleSet} (h : set.check = .ok ()) :
    set.addresses.length = set.endpoints.length ∧ ∀ member ∈ set.members, member.2 ≠ [] := by
  unfold OracleSet.check at h
  split at h
  · next hlength => exact ⟨hlength, endpoints_ne_nil_of_checkMembers h⟩
  · cases h

/-- The lists of a checked set are its endpoints, and so are their plans, each in some order; none of
    them is empty. -/
theorem plans_of_check {set : OracleSet} (h : set.check = .ok ()) {t rest : Tape}
    {plans : List (List String)} (hplans : plans? (set.members.map (·.2)) t = some (plans, rest)) :
    set.members.map (·.2) = set.endpoints ∧ List.Forall₂ List.Perm plans set.endpoints ∧
      plans.length = set.size ∧ ∀ plan ∈ plans, plan ≠ [] := by
  obtain ⟨hlength, hendpoints⟩ := check_eq_ok h
  have hlists : set.members.map (·.2) = set.endpoints :=
    List.map_snd_zip (Nat.le_of_eq hlength.symm)
  have hperm := plans?_perm hplans
  refine ⟨hlists, hlists ▸ hperm, ?_, ?_⟩
  · rw [hperm.length_eq, hlists, OracleSet.size, hlength]
  · rintro _ hplan rfl
    obtain ⟨i, hi, hget⟩ := List.getElem_of_mem hplan
    have hi' : i < (set.members.map (·.2)).length := hperm.length_eq ▸ hi
    have hsame : plans[i].Perm (set.members.map (·.2))[i] := hperm.get hi hi'
    rw [hget, List.nil_perm, List.getElem_map] at hsame
    exact hendpoints _ (List.getElem_mem _) hsame

/-- **Any of the oracles of a set may be the ones who answer in time.** -/
theorem exists_reported_willing {set : OracleSet} (h : set.check = .ok ()) (schedule : List Nat) :
    ∃ report, Reported set report ∧
      report.approvals = (set.members.zipIdx.filter fun x => decide (x.2 ∈ schedule)).map fun x =>
        (x.1.1, givenApproval) := by
  let lists := set.members.map (·.2)
  obtain ⟨plans, rest, hplans⟩ :=
    exists_plans?_zeros lists (Nat.le_refl (0 + 4 * lists.flatten.length))
  obtain ⟨-, -, -, hne⟩ := plans_of_check h hplans
  have hlength : plans.length = set.members.length := by
    rw [(plans?_perm hplans).length_eq, List.length_map]
  let policy : RetryPolicy := ⟨1, 0⟩
  let request : Request := ⟨0, .zero 20, .zero 32, [], [], [], [], [], [], [], 0⟩
  let stage := (Stage.start policy request plans ()).follow willing schedule
  have htasks : stage.tasks.length = plans.length := by
    rw [Stage.length_tasks_follow, Stage.start, List.length_map]
  refine ⟨stage.report set,
    ⟨Unit, willing, policy, request, _, rest, plans, (), schedule, hplans, rfl⟩, ?_⟩
  refine Report.approvals_ofTasks (fun i => decide (i ∈ schedule)) givenApproval set.members
    stage.tasks 0 (htasks.trans hlength) fun i hi => ?_
  have hplan : i < plans.length := htasks ▸ hi
  have htask : stage.tasks[i]? = plans[i]?.map fun plan =>
      if i ∈ schedule then .done (.ok givenApproval) else walk policy request plan :=
    tasks_follow_willing hne schedule i
  rw [List.getElem?_eq_getElem hi, List.getElem?_eq_getElem hplan, Option.map_some,
    Option.some.injEq] at htask
  rw [htask, Nat.zero_add]
  by_cases hin : i ∈ schedule
  · rw [if_pos hin, if_pos (decide_eq_true hin)]
    rfl
  · rw [if_neg hin, result?_walk (hne _ (List.getElem_mem hplan)), if_neg (by simpa using hin)]

/-! ## Oracles that count twice -/

theorem Report.combine_eq_ok {report : Report} :
    report.combine n = .ok a ↔ Majority.combine report.approvals n = .ok a := by
  unfold Report.combine
  constructor
  · intro h
    split at h
    · next given hgiven => rw [hgiven, Except.ok.inj h]
    · split at h <;> cases h
  · intro h
    simp only [h]

/-- As many approvals as the chosen positions. -/
theorem length_filter_zipIdx {α : Type} (members : List α) (chosen : Finset Nat)
    (hchosen : chosen ⊆ Finset.range members.length) :
    (members.zipIdx.filter fun x => decide (x.2 ∈ chosen.toList)).length = chosen.card := by
  have hpositions : ((members.zipIdx.filter fun x => decide (x.2 ∈ chosen.toList)).map (·.2))
      = (List.range members.length).filter fun i => decide (i ∈ chosen.toList) := by
    rw [List.range_eq_range', ← List.zipIdx_map_snd 0 members, List.filter_map]
    rfl
  have hperm : ((List.range members.length).filter fun i => decide (i ∈ chosen.toList)).Perm
      chosen.toList := by
    refine (List.perm_ext_iff_of_nodup (List.nodup_range.filter _) chosen.nodup_toList).mpr ?_
    intro i
    rw [List.mem_filter, List.mem_range, decide_eq_true_iff]
    exact ⟨fun h => h.2, fun h => ⟨Finset.mem_range.mp (hchosen (Finset.mem_toList.mp h)), h⟩⟩
  rw [← List.length_map (·.2), hpositions, hperm.length_eq, Finset.length_toList]

/-- If an address stands at two of the chosen positions, the chosen oracles are not distinct. -/
theorem not_nodup_chosen {members : List (Address × List String)} {chosen : Finset Nat} {i j : Nat}
    (hij : i < j) (hj : j < members.length) (hsame : members[i].1 = members[j].1)
    (hchosen : ({i, j} : Finset Nat) ⊆ chosen) :
    ¬ ((members.zipIdx.filter fun x => decide (x.2 ∈ chosen.toList)).map (·.1.1)).Nodup := by
  intro hnodup
  have hmem : ∀ k (hk : k < members.length), k ∈ ({i, j} : Finset Nat) →
      (members[k], k) ∈ members.zipIdx.filter fun x => decide (x.2 ∈ chosen.toList) := by
    intro k hk hin
    refine List.mem_filter.mpr ⟨?_, decide_eq_true (Finset.mem_toList.mpr (hchosen hin))⟩
    exact List.mk_mem_zipIdx_iff_getElem?.mpr (List.getElem?_eq_getElem hk)
  have heq := List.inj_on_of_nodup_map hnodup (hmem i (hij.trans hj) (Finset.mem_insert_self ..))
    (hmem j hj (Finset.mem_insert_of_mem (Finset.mem_singleton_self j))) hsame
  have hpositions : i = j := congrArg Prod.snd heq
  omega

theorem exists_repeated {set : OracleSet} (hlength : set.addresses.length = set.endpoints.length)
    (hdup : ¬ set.addresses.Nodup) :
    ∃ (i j : Nat) (hij : i < j) (hj : j < set.members.length),
      set.members[i].1 = set.members[j].1 := by
  have hmembers : set.members.length = set.addresses.length := by
    rw [OracleSet.members, List.length_zip, ← hlength, Nat.min_self]
  apply Classical.byContradiction
  intro hnone
  refine hdup (List.nodup_iff_getElem?_ne_getElem?.mpr fun i j hij hj hsame => hnone ?_)
  refine ⟨i, j, hij, hmembers.symm ▸ hj, ?_⟩
  rw [List.getElem?_eq_getElem (hij.trans hj), List.getElem?_eq_getElem hj] at hsame
  simp only [OracleSet.members, List.getElem_zip]
  exact Option.some.inj hsame

/-- **An oracle that is in the set twice can make up a quorum with itself.** Its two positions answer
    in time, and as many others as it takes; then everyone who approves is needed, and not everyone is
    distinct. -/
theorem exists_indistinct {set : OracleSet} (h : set.check = .ok ()) (hdup : ¬ set.addresses.Nodup)
    (htwo : 2 ≤ n) (hsize : n ≤ set.size) :
    ∃ report a, Reported set report ∧ report.combine n = .ok a ∧
      ¬ DistinctQuorum report.approvals n a := by
  obtain ⟨hlength, -⟩ := check_eq_ok h
  have hmembers : set.members.length = set.size := by
    rw [OracleSet.members, List.length_zip, ← hlength, Nat.min_self, OracleSet.size]
  obtain ⟨i, j, hij, hj, hsame⟩ := exists_repeated hlength hdup
  have hpair : ({i, j} : Finset Nat) ⊆ Finset.range set.members.length := by
    intro k hk
    rw [Finset.mem_insert, Finset.mem_singleton] at hk
    exact Finset.mem_range.mpr (by omega)
  obtain ⟨chosen, hsub, hrange, hcard⟩ :=
    Finset.exists_subsuperset_card_eq hpair (Finset.card_le_two.trans htwo)
      (hsize.trans (by rw [Finset.card_range, hmembers]))
  obtain ⟨report, hreported, happrovals⟩ := exists_reported_willing h chosen.toList
  have hcount : report.approvals.length = n := by
    rw [happrovals, List.length_map, length_filter_zipIdx _ _ hrange, hcard]
  have hunanimous : ∀ v ∈ report.approvals,
      Names v.2 (givenApproval.ipfsHash, givenApproval.deadline) := by
    intro v hv
    rw [happrovals] at hv
    obtain ⟨x, -, rfl⟩ := List.mem_map.mp hv
    exact ⟨rfl, rfl⟩
  obtain ⟨a, ha⟩ := exists_combine_of_unanimous
    (List.ne_nil_of_length_pos (by omega)) hunanimous hcount.ge
  refine ⟨report, a, hreported, Report.combine_eq_ok.mpr ha, fun hquorum => ?_⟩
  rw [← hcount] at hquorum
  have hnodup := hquorum.nodup
  rw [happrovals, List.map_map] at hnodup
  exact not_nodup_chosen hij hj hsame hsub hnodup

/-- The same oracle at two positions, both of which approve. -/
theorem exists_indistinct_repeated :
    let oracle : Address := .replicate 20 0x01
    let set : OracleSet := ⟨[oracle, oracle], [["http://a"], ["http://b"]], 2⟩
    set.check = .ok () ∧ ∃ report a, Reported set report ∧
      report.combine set.threshold.toNat = .ok a ∧
      ¬ DistinctQuorum report.approvals set.threshold.toNat a := by
  intro oracle set
  have hcheck : set.check = .ok () := rfl
  have hdup : ¬ set.addresses.Nodup :=
    fun h => (List.nodup_cons.mp h).1 (List.mem_singleton_self oracle)
  exact ⟨hcheck, exists_indistinct hcheck hdup (Nat.le_refl 2) (Nat.le_refl 2)⟩

/-- **When a combined approval stands for distinct oracles.** All rounds over a checked set end in
    distinct quorums if and only if no address is in the set twice, or the threshold is too low for
    two votes or too high for the set. -/
theorem distinctQuorum_iff {set : OracleSet} (h : set.check = .ok ()) :
    (∀ report a, Reported set report → report.combine set.threshold.toNat = .ok a →
        DistinctQuorum report.approvals set.threshold.toNat a) ↔
      set.addresses.Nodup ∨ set.threshold.toNat ≤ 1 ∨ set.size < set.threshold.toNat := by
  constructor
  · intro hall
    by_contra hnot
    rw [not_or, not_or, Nat.not_le, Nat.not_lt] at hnot
    obtain ⟨hdup, htwo, hsize⟩ := hnot
    obtain ⟨report, a, hreported, hcombine, hindistinct⟩ := exists_indistinct h hdup htwo hsize
    exact hindistinct (hall report a hreported hcombine)
  · intro hsafe report a hreported hcombine
    have hsublist := hreported.addresses_sublist
    have hmajority := Report.combine_eq_ok.mp hcombine
    rcases hsafe with hnodup | hone | hfew
    · exact combine_distinct (hnodup.sublist hsublist) hmajority
    · exact combine_distinct_of_le_one hone hmajority
    · -- There are fewer approvals than the threshold, so nothing is combined.
      obtain ⟨-, henough, -⟩ := combine_eq_ok hmajority
      have hvotes : (votesFor (a.ipfsHash, a.deadline) report.approvals).length
          ≤ report.approvals.length := by
        rw [votesFor, List.length_map]
        exact List.length_filter_le ..
      have happrovals := hsublist.length_le
      rw [List.length_map] at happrovals
      rw [OracleSet.size] at hfew
      omega

/-- A set of two oracles whose rounds are safe, since the oracles are not the same. -/
theorem distinctQuorum_iff_two :
    let set : OracleSet :=
      ⟨[.replicate 20 0x01, .replicate 20 0x02], [["http://a"], ["http://b", "http://c"]], 2⟩
    set.check = .ok () ∧
      ((∀ report a, Reported set report → report.combine set.threshold.toNat = .ok a →
          DistinctQuorum report.approvals set.threshold.toNat a) ↔
        set.addresses.Nodup ∨ set.threshold.toNat ≤ 1 ∨ set.size < set.threshold.toNat) := by
  intro set
  have hcheck : set.check = .ok () := rfl
  exact ⟨hcheck, distinctQuorum_iff hcheck⟩

end Registrar.Approval
