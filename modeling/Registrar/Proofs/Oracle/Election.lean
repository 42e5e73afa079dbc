import Registrar.Proofs.Oracle.Majority

/-!
# Who wins the majority

The outcome without the tally. The ballot that leads has the most votes, and of several with as many it is
the one that an approval names first; the signatures are those of the lowest addresses, and an address that
signed more than once keeps its signatures in the order in which they came.

## Contents

- `support` and `mostVotes`, the counts;
- `Leads`, the ballot that wins, with `Leads.unique`, `leads_of_leader?` and `exists_leads`;
- `Ranked`, the order of the signatures, with `ranked_mergeSort` and `Ranked.unique`;
- `combine_of_leads` with `combine_eq_ok_iff`, `exists_combine_iff_mostVotes` and `combine_eq_error_iff`,
  from which `combine_elects` is assembled.
-/

namespace Registrar.Majority

variable {approvals : List (Address × SignedApproval)} {n : Nat} {a : CombinedApproval} {b : Ballot}

/-! ## Counts -/

/-- The number of approvals for a ballot. -/
def support (approvals : List (Address × SignedApproval)) (b : Ballot) : Nat :=
  approvals.countP fun v => Names v.2 b

/-- The largest of these numbers; 0 without approvals. -/
def mostVotes (approvals : List (Address × SignedApproval)) : Nat :=
  (approvals.map fun v => support approvals (v.2.ipfsHash, v.2.deadline)).max?.getD 0

theorem support_eq_length (b : Ballot) : support approvals b = (votesFor b approvals).length :=
  (length_votesFor b).symm

/-! ## The ballot that wins -/

/-- No ballot has more votes, and those that an approval names earlier have fewer. -/
structure Leads (approvals : List (Address × SignedApproval)) (b : Ballot) : Prop where
  most : ∀ other, support approvals other ≤ support approvals b
  first : ∃ before v after, approvals = before ++ v :: after ∧ Names v.2 b ∧
    ∀ u ∈ before, support approvals (u.2.ipfsHash, u.2.deadline) < support approvals b

namespace Leads

/-- The first approval for the ballot, and the ballots of those before it. -/
theorem exists_first (h : Leads approvals b) :
    ∃ before v after, approvals = before ++ v :: after ∧ ballotOf v.2 = b ∧
      ∀ u ∈ before, support approvals (ballotOf u.2) < support approvals b := by
  obtain ⟨before, v, after, happrovals, hnames, hbefore⟩ := h.first
  exact ⟨before, v, after, happrovals, names_iff.mp hnames, hbefore⟩

theorem ne_nil (h : Leads approvals b) : approvals ≠ [] := by
  obtain ⟨before, v, after, rfl, -⟩ := h.first
  exact List.append_ne_nil_of_right_ne_nil _ (List.cons_ne_nil _ _)

theorem mostVotes_eq (h : Leads approvals b) : mostVotes approvals = support approvals b := by
  have hmax : (approvals.map fun v => support approvals (ballotOf v.2)).max?
      = some (support approvals b) := by
    refine List.max?_eq_some_iff.mpr ⟨?_, fun k hk => ?_⟩
    · obtain ⟨before, v, after, happrovals, rfl, -⟩ := h.exists_first
      have hv : v ∈ approvals := happrovals ▸ List.mem_append_right _ List.mem_cons_self
      exact List.mem_map_of_mem hv
    · obtain ⟨v, -, rfl⟩ := List.mem_map.mp hk
      exact h.most _
  show (approvals.map fun v => support approvals (ballotOf v.2)).max?.getD 0 = _
  rw [hmax, Option.getD_some]

/-- The ballot that leads is found by looking for the first one with the most votes. -/
theorem find?_eq (h : Leads approvals b) :
    (approvals.find? fun v => support approvals (ballotOf v.2) = mostVotes approvals).map
      (fun v => ballotOf v.2) = some b := by
  obtain ⟨before, v, after, happrovals, rfl, hbefore⟩ := h.exists_first
  have hfind : approvals.find? (fun v => support approvals (ballotOf v.2) = mostVotes approvals)
      = some v := by
    refine List.find?_eq_some_iff_append.mpr
      ⟨decide_eq_true h.mostVotes_eq.symm, before, after, happrovals, fun u hu => ?_⟩
    have hlt := hbefore u hu
    have hne : support approvals (ballotOf u.2) ≠ mostVotes approvals := by
      rw [h.mostVotes_eq]
      omega
    simpa using hne
  rw [hfind, Option.map_some]

/-- **No more than one ballot leads.** -/
theorem unique {b' : Ballot} (h : Leads approvals b) (h' : Leads approvals b') : b = b' :=
  Option.some.inj (h.find?_eq.symm.trans h'.find?_eq)

end Leads

/-! ### The leader of the tally -/

/-- The ballots of the first approvals are listed first. -/
theorem ballots_append (first rest : List (Address × SignedApproval)) :
    ∃ others, ballots (first ++ rest) = ballots first ++ others := by
  induction rest using List.reverseRecOn with
  | nil => exact ⟨[], by rw [List.append_nil, List.append_nil]⟩
  | append_singleton rest v ih =>
    obtain ⟨others, hothers⟩ := ih
    rw [← List.append_assoc, ballots_concat]
    split
    · exact ⟨others, hothers⟩
    · exact ⟨others ++ [ballotOf v.2], by rw [hothers, List.append_assoc]⟩

/-- A ballot has a first approval, before which there are the approvals for the ballots that are listed
    before it. -/
theorem exists_first {earlier later : List Ballot} (h : ballots approvals = earlier ++ b :: later) :
    ∃ before v after, approvals = before ++ v :: after ∧ ballotOf v.2 = b ∧
      ∀ u ∈ before, ballotOf u.2 ∈ earlier := by
  have hb : b ∈ ballots approvals := h ▸ List.mem_append_right _ List.mem_cons_self
  obtain ⟨u, hu, hub⟩ := mem_ballots.mp hb
  obtain ⟨v, hv⟩ : ∃ v, approvals.find? (fun v => ballotOf v.2 = b) = some v :=
    Option.isSome_iff_exists.mp (List.find?_isSome.mpr ⟨u, hu, decide_eq_true hub⟩)
  obtain ⟨hvb, before, after, happrovals, hbefore⟩ := List.find?_eq_some_iff_append.mp hv
  have hvb : ballotOf v.2 = b := of_decide_eq_true hvb
  refine ⟨before, v, after, happrovals, hvb, fun u hu => ?_⟩
  have hnew : b ∉ ballots before := by
    intro hin
    obtain ⟨u, hu, hub⟩ := mem_ballots.mp hin
    have hne := hbefore u hu
    simp [hub] at hne
  -- The ballot comes right after those of the approvals before, and only once.
  obtain ⟨others, hothers⟩ := ballots_append (before ++ [v]) after
  have hballots : ballots approvals = ballots before ++ b :: others := by
    rw [happrovals, List.append_cons, hothers, ballots_concat, hvb, if_neg hnew, List.append_assoc]
    rfl
  have hnodup : (ballots before ++ b :: others).Nodup := hballots ▸ nodup_ballots
  have honce : b ∉ others := (List.nodup_cons.mp (List.nodup_append.mp hnodup).2.1).1
  obtain ⟨rfl, -⟩ := (List.append_cons_inj_of_notMem hnew honce).mp (hballots.symm.trans h)
  exact mem_ballots.mpr ⟨u, hu, rfl⟩

/-- **The leader of the tally leads**, and has the votes for it. -/
theorem leads_of_leader? {votes : List Vote}
    (h : (Tally.ofApprovals approvals).leader? = some (b, votes)) :
    Leads approvals b ∧ votes = votesFor b approvals := by
  have hmost := length_votesFor_le h
  rw [Tally.ofApprovals_eq] at h
  obtain ⟨b, hb, heq⟩ := List.mem_map.mp (Tally.mem_of_leader? h)
  cases heq
  obtain ⟨-, earlier, later, htally, hfewer, -⟩ := Tally.leader?_eq_some h
  refine ⟨⟨fun other => ?_, ?_⟩, rfl⟩
  · rw [support_eq_length, support_eq_length]
    exact hmost other
  · have hballots : ballots approvals = earlier.map (·.1) ++ b :: later.map (·.1) := by
      have hfirsts := congrArg (List.map Prod.fst) htally
      simpa [List.map_map, Function.comp_def] using hfirsts
    obtain ⟨before, v, after, happrovals, hvb, hbefore⟩ := exists_first hballots
    refine ⟨before, v, after, happrovals, names_iff.mpr hvb, fun u hu => ?_⟩
    show support approvals (ballotOf u.2) < _
    obtain ⟨entry, hentry, hballot⟩ := List.mem_map.mp (hbefore u hu)
    have hlisted : entry ∈ (ballots approvals).map fun b => (b, votesFor b approvals) :=
      htally ▸ List.mem_append_left _ hentry
    obtain ⟨other, -, rfl⟩ := List.mem_map.mp hlisted
    rw [← hballot, support_eq_length, support_eq_length]
    exact hfewer _ hentry

theorem exists_leads (hne : approvals ≠ []) : ∃ b, Leads approvals b := by
  obtain ⟨b, votes, hleader⟩ := exists_leader? hne
  exact ⟨b, (leads_of_leader? hleader).1⟩

/-! ## The order of the signatures -/

/-- The votes by ascending address, and those of one address in the order in which they came. -/
structure Ranked (votes ranked : List Vote) : Prop where
  ascending : ranked.Pairwise fun u v => u.1 ≤ v.1
  stable : ∀ oracle, ranked.filter (·.1 = oracle) = votes.filter (·.1 = oracle)

/-- **Votes are ranked by sorting them.** -/
theorem ranked_mergeSort (votes : List Vote) :
    Ranked votes (votes.mergeSort fun u v => decide (u.1 ≤ v.1)) := by
  refine ⟨Octets.pairwise_mergeSort Prod.fst votes, fun oracle => ?_⟩
  -- The votes of one address are in order already, so that the sort keeps them as they stand.
  have hsorted : (votes.filter (·.1 = oracle)).Pairwise fun u v : Vote => decide (u.1 ≤ v.1) := by
    refine List.pairwise_of_forall_mem_list fun u hu v hv => decide_eq_true ?_
    have hu : u.1 = oracle := by simpa using (List.mem_filter.mp hu).2
    have hv : v.1 = oracle := by simpa using (List.mem_filter.mp hv).2
    rw [hu, hv]
    exact Octets.le_refl oracle
  have hsublist := (List.sublist_mergeSort (Octets.ascends_trans Prod.fst)
    (Octets.ascends_total Prod.fst) hsorted List.filter_sublist).filter (·.1 = oracle)
  simp only [List.filter_filter, Bool.and_self] at hsublist
  have hperm := (List.mergeSort_perm votes fun u v => decide (u.1 ≤ v.1)).filter (·.1 = oracle)
  exact (hsublist.eq_of_length hperm.length_eq.symm).symm

namespace Ranked

variable {votes ranked ranked' : List Vote} {u v : Vote}

/-- The first vote has the lowest address. -/
theorem le_of_mem (h : Ranked votes (u :: ranked)) (hv : v ∈ votes) : u.1 ≤ v.1 := by
  have hin : v ∈ (u :: ranked).filter (·.1 = v.1) := by
    rw [h.stable]
    exact List.mem_filter.mpr ⟨hv, decide_eq_true rfl⟩
  rcases List.mem_cons.mp (List.mem_filter.mp hin).1 with rfl | hin
  · exact Octets.le_refl v.1
  · exact (List.pairwise_cons.mp h.ascending).1 v hin

theorem perm (h : Ranked votes ranked) : ranked.Perm votes := by
  refine List.perm_iff_count.mpr fun v => ?_
  have hkeep : ∀ votes : List Vote, (votes.filter (·.1 = v.1)).count v = votes.count v :=
    fun votes => List.count_filter (decide_eq_true rfl)
  rw [← hkeep ranked, h.stable, hkeep]

/-- Votes that stand by ascending address are ranked as they stand. -/
theorem eq_of_ascending (h : Ranked votes ranked) (hvotes : votes.Pairwise fun u v => u.1 ≤ v.1) :
    ranked = votes := by
  induction votes generalizing ranked with
  | nil => exact h.perm.eq_nil
  | cons v votes ih =>
    cases ranked with
    | nil => exact absurd h.perm.symm.eq_nil (List.cons_ne_nil _ _)
    | cons u ranked =>
      have hback : Ranked (u :: ranked) (v :: votes) := ⟨hvotes, fun oracle => (h.stable oracle).symm⟩
      have haddress : u.1 = v.1 :=
        Octets.le_antisymm (h.le_of_mem List.mem_cons_self) (hback.le_of_mem List.mem_cons_self)
      -- The first votes have one address, so they are the first of its votes in both lists.
      have hfirst := h.stable v.1
      simp only [List.filter_cons, haddress, decide_true, if_true] at hfirst
      obtain rfl : u = v := (List.cons.inj hfirst).1
      have hrest : Ranked votes ranked := by
        refine ⟨(List.pairwise_cons.mp h.ascending).2, fun oracle => ?_⟩
        have hstable := h.stable oracle
        by_cases horacle : u.1 = oracle <;> simpa [List.filter_cons, horacle] using hstable
      rw [ih hrest (List.pairwise_cons.mp hvotes).2]

/-- **There is one such order.** -/
theorem unique (h : Ranked votes ranked) (h' : Ranked votes ranked') : ranked = ranked' := by
  have hsame : Ranked ranked' ranked :=
    ⟨h.ascending, fun oracle => (h.stable oracle).trans (h'.stable oracle).symm⟩
  exact hsame.eq_of_ascending h'.ascending

end Ranked

/-- The signatures in a row are those of the first votes in this order. -/
theorem signatures_eq_iff {votes : List Vote} {bs : Bytes} :
    bs = signatures n votes ↔ ∃ ranked, Ranked votes ranked ∧ bs = (ranked.take n).flatMap (·.2) := by
  constructor
  · rintro rfl
    exact ⟨_, ranked_mergeSort votes, rfl⟩
  · rintro ⟨ranked, hranked, rfl⟩
    rw [hranked.unique (ranked_mergeSort votes)]
    rfl

/-! ## The outcome -/

/-- **What comes out if a ballot leads.** -/
theorem combine_of_leads (h : Leads approvals b) (n : Nat) :
    combine approvals n
      = if mostVotes approvals < n then .error ⟨mostVotes approvals, n⟩
        else .ok ⟨b.1, signatures n (votesFor b approvals), b.2⟩ := by
  obtain ⟨b', votes, hleader⟩ := exists_leader? h.ne_nil
  obtain ⟨hleads, rfl⟩ := leads_of_leader? hleader
  obtain rfl := h.unique hleads
  rw [h.mostVotes_eq, support_eq_length]
  simp only [combine, hleader]

theorem combine_eq_ok_iff :
    combine approvals n = .ok a ↔
      n ≤ mostVotes approvals ∧ Leads approvals (a.ipfsHash, a.deadline) ∧
        a.signatures = signatures n (votesFor (a.ipfsHash, a.deadline) approvals) := by
  constructor
  · intro h
    obtain ⟨hin, -⟩ := combine_eq_ok h
    obtain ⟨v, hv, -⟩ := mem_ballots.mp hin
    obtain ⟨b, hleads⟩ := exists_leads (List.ne_nil_of_mem hv)
    rw [combine_of_leads hleads] at h
    split at h
    · cases h
    · next henough =>
      cases h
      exact ⟨Nat.le_of_not_lt henough, hleads, rfl⟩
  · rintro ⟨henough, hleads, hsignatures⟩
    rw [combine_of_leads hleads, if_neg (Nat.not_lt.mpr henough), ← hsignatures]

/-- **When anything is combined**: there are approvals, and some ballot has enough of them. -/
theorem exists_combine_iff_mostVotes :
    (∃ a, combine approvals n = .ok a) ↔ approvals ≠ [] ∧ n ≤ mostVotes approvals := by
  constructor
  · rintro ⟨a, ha⟩
    obtain ⟨henough, hleads, -⟩ := combine_eq_ok_iff.mp ha
    exact ⟨hleads.ne_nil, henough⟩
  · rintro ⟨hne, henough⟩
    obtain ⟨b, hleads⟩ := exists_leads hne
    exact ⟨⟨b.1, signatures n (votesFor b approvals), b.2⟩,
      combine_eq_ok_iff.mpr ⟨henough, hleads, rfl⟩⟩

theorem combine_eq_error_iff {e : TooFewApprovals} :
    combine approvals n = .error e ↔
      (approvals = [] ∨ mostVotes approvals < n) ∧ e = ⟨mostVotes approvals, n⟩ := by
  by_cases hne : approvals = []
  · subst hne
    have hnone : combine [] n = .error ⟨mostVotes [], n⟩ := rfl
    rw [hnone]
    simp [eq_comm]
  · obtain ⟨b, hleads⟩ := exists_leads hne
    rw [combine_of_leads hleads]
    split <;> simp [*, eq_comm]

/-- **The majority as it is specified.** Something is combined if and only if there are approvals and the
    largest number of votes reaches the threshold. It names the ballot with that number of votes that an
    approval names first, with as many of the signatures for it as are needed, by ascending address. If
    nothing is combined, the shortage tells the largest number of votes. -/
theorem combine_elects (approvals : List (Address × SignedApproval)) (n : Nat) :
    ((∃ a, combine approvals n = .ok a) ↔ approvals ≠ [] ∧ n ≤ mostVotes approvals) ∧
      (∀ a, combine approvals n = .ok a ↔
        n ≤ mostVotes approvals ∧ Leads approvals (a.ipfsHash, a.deadline) ∧
          ∃ ranked, Ranked (votesFor (a.ipfsHash, a.deadline) approvals) ranked ∧
            a.signatures = (ranked.take n).flatMap (·.2)) ∧
      ∀ e, combine approvals n = .error e ↔
        (approvals = [] ∨ mostVotes approvals < n) ∧ e = ⟨mostVotes approvals, n⟩ := by
  refine ⟨exists_combine_iff_mostVotes, fun a => ?_, fun e => combine_eq_error_iff⟩
  rw [combine_eq_ok_iff, signatures_eq_iff]

end Registrar.Majority
