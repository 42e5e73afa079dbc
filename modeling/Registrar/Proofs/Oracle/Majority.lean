import Mathlib.Data.List.Dedup
import Mathlib.Data.List.Induction
import Registrar.Bytes.Lemmas
import Registrar.Oracle.Majority

/-!
# What the majority is

The count of the votes is described without its loop: the tally has one entry for every ballot, in the
order in which the ballots first came, with the votes for that ballot in the order of the approvals.
Its leader is the first entry with the most votes.

## Contents

- `Names`, what an approval is counted for, with `names_iff`;
- `ballots`, `votesFor` and `Tally.ofApprovals_eq`;
- `Tally.leader?_eq_some` and `Tally.leader?_eq_none`, with `exists_leader?` and `length_votesFor_le` for the
  tally of approvals;
- `combine_eq_ok`, what is combined, and `exists_combine_iff`, when anything is.
-/

namespace Registrar

namespace Majority

variable {approvals : List (Address × SignedApproval)} {n : Nat} {a : CombinedApproval}

/-! ## Ballots and their votes -/

/-- An approval is for this address of the data and for this deadline. -/
def Names (given : SignedApproval) (b : Ballot) : Prop :=
  given.ipfsHash = b.1 ∧ given.deadline = b.2

instance (given : SignedApproval) (b : Ballot) : Decidable (Names given b) :=
  inferInstanceAs (Decidable (_ ∧ _))

/-- Approvals are counted for the ballots that they name. -/
theorem names_iff {given : SignedApproval} {b : Ballot} : Names given b ↔ ballotOf given = b := by
  rw [Prod.ext_iff]
  exact Iff.rfl

/-- The ballots of approvals, each where it first came. -/
def ballots (approvals : List (Address × SignedApproval)) : List Ballot :=
  (approvals.map fun v => ballotOf v.2).reverse.dedup.reverse

/-- The vote that an approval is. -/
def voteOf (v : Address × SignedApproval) : Vote := (v.1, v.2.signature)

/-- The votes for a ballot, in the order of the approvals. -/
def votesFor (ballot : Ballot) (approvals : List (Address × SignedApproval)) : List Vote :=
  (approvals.filter fun v => Names v.2 ballot).map voteOf

theorem votesFor_eq (ballot : Ballot) (approvals : List (Address × SignedApproval)) :
    votesFor ballot approvals = (approvals.filter fun v => ballotOf v.2 = ballot).map voteOf := by
  simp only [votesFor, names_iff]

theorem mem_ballots {b : Ballot} : b ∈ ballots approvals ↔ ∃ v ∈ approvals, ballotOf v.2 = b := by
  simp [ballots]

theorem nodup_ballots : (ballots approvals).Nodup :=
  List.nodup_reverse.mpr (List.nodup_dedup _)

theorem ballots_concat (v : Address × SignedApproval) :
    ballots (approvals ++ [v])
      = if ballotOf v.2 ∈ ballots approvals then ballots approvals
        else ballots approvals ++ [ballotOf v.2] := by
  have hconcat : ballots (approvals ++ [v])
      = (ballotOf v.2 :: (approvals.map fun v => ballotOf v.2).reverse).dedup.reverse := by
    simp [ballots]
  rw [hconcat]
  by_cases hin : ballotOf v.2 ∈ ballots approvals
  · have hmem : ballotOf v.2 ∈ (approvals.map fun v => ballotOf v.2).reverse := by
      simpa [ballots] using hin
    rw [List.dedup_cons_of_mem hmem, if_pos hin, ballots]
  · have hmem : ballotOf v.2 ∉ (approvals.map fun v => ballotOf v.2).reverse := by
      simpa [ballots] using hin
    rw [List.dedup_cons_of_notMem hmem, if_neg hin, List.reverse_cons, ballots]

theorem votesFor_concat (b : Ballot) (v : Address × SignedApproval) :
    votesFor b (approvals ++ [v])
      = if b = ballotOf v.2 then votesFor b approvals ++ [voteOf v] else votesFor b approvals := by
  by_cases hb : b = ballotOf v.2
  · rw [if_pos hb]
    simp [votesFor_eq, List.filter_append, hb]
  · rw [if_neg hb]
    simp [votesFor_eq, List.filter_append, Ne.symm hb]

theorem votesFor_ne_nil {b : Ballot} (hb : b ∈ ballots approvals) : votesFor b approvals ≠ [] := by
  obtain ⟨v, hv, hballot⟩ := mem_ballots.mp hb
  refine List.ne_nil_of_mem (List.mem_map_of_mem (a := v) ?_)
  exact List.mem_filter.mpr ⟨hv, decide_eq_true (names_iff.mpr hballot)⟩

theorem votesFor_eq_nil {b : Ballot} (hb : b ∉ ballots approvals) : votesFor b approvals = [] := by
  rw [votesFor, List.map_eq_nil_iff, List.filter_eq_nil_iff]
  intro v hv hnames
  exact hb (mem_ballots.mpr ⟨v, hv, names_iff.mp (of_decide_eq_true hnames)⟩)

namespace Tally

/-- A vote goes to the entry of its ballot, or to a new one at the end. -/
theorem add_map {bs : List Ballot} (hnodup : bs.Nodup) (f : Ballot → List Vote) (ballot : Ballot)
    (vote : Vote) :
    add ballot vote (bs.map fun b => (b, f b))
      = (bs.map fun b => (b, if b = ballot then f b ++ [vote] else f b))
        ++ if ballot ∈ bs then [] else [(ballot, [vote])] := by
  induction bs with
  | nil => rfl
  | cons b bs ih =>
    obtain ⟨hb, hbs⟩ := List.nodup_cons.mp hnodup
    rw [List.map_cons, add]
    by_cases heq : b = ballot
    · -- The entry is this one, and no other one has its ballot.
      subst heq
      have hrest : bs.map (fun x => (x, if x = b then f x ++ [vote] else f x))
          = bs.map fun x => (x, f x) := by
        refine List.map_congr_left fun x hx => ?_
        have hne : x ≠ b := fun h => hb (h ▸ hx)
        rw [if_neg hne]
      rw [if_pos rfl, List.map_cons, if_pos rfl, hrest, if_pos List.mem_cons_self, List.append_nil]
    · rw [if_neg heq, ih hbs, List.map_cons, if_neg heq, List.cons_append]
      simp only [List.mem_cons, Ne.symm heq, false_or]

/-- **The tally holds, ballot by ballot, the votes for it.** -/
theorem ofApprovals_eq (approvals : List (Address × SignedApproval)) :
    ofApprovals approvals = (ballots approvals).map fun b => (b, votesFor b approvals) := by
  induction approvals using List.reverseRecOn with
  | nil => rfl
  | append_singleton approvals v ih =>
    have hstep : ofApprovals (approvals ++ [v])
        = (ofApprovals approvals).add (ballotOf v.2) (voteOf v) := by
      rw [ofApprovals, List.foldl_concat]
      rfl
    have hentries : ∀ bs : List Ballot, bs.map (fun b => (b, votesFor b (approvals ++ [v])))
        = bs.map fun b => (b, if b = ballotOf v.2 then votesFor b approvals ++ [voteOf v]
          else votesFor b approvals) := by
      intro bs
      exact List.map_congr_left fun b _ => by rw [votesFor_concat]
    rw [hstep, ih, add_map nodup_ballots, hentries, ballots_concat]
    by_cases hin : ballotOf v.2 ∈ ballots approvals
    · rw [if_pos hin, if_pos hin, List.append_nil]
    · rw [if_neg hin, if_neg hin, List.map_append, List.map_singleton, if_pos rfl,
        votesFor_eq_nil hin, List.nil_append]

/-! ## The leader -/

theorem leader?_concat (t : Tally) (e : Ballot × List Vote) :
    leader? (t ++ [e]) = better t.leader? e := by
  rw [leader?, List.foldl_concat]
  rfl

theorem leader?_eq_none {t : Tally} (h : t.leader? = none) : ∀ e ∈ t, e.2 = [] := by
  induction t using List.reverseRecOn with
  | nil => exact fun e he => absurd he List.not_mem_nil
  | append_singleton t last ih =>
    rw [leader?_concat] at h
    simp only [better] at h
    split at h
    · cases h
    · next hmost =>
      rw [h] at hmost
      intro e he
      rcases List.mem_append.mp he with he | he
      · exact ih h e he
      · rw [List.mem_singleton.mp he]
        exact List.length_eq_zero_iff.mp (Nat.eq_zero_of_not_pos hmost)

/-- **The leader is the first entry with the most votes.** -/
theorem leader?_eq_some {t : Tally} {e : Ballot × List Vote} (h : t.leader? = some e) :
    0 < e.2.length ∧ ∃ before after, t = before ++ e :: after ∧
      (∀ x ∈ before, x.2.length < e.2.length) ∧ ∀ x ∈ after, x.2.length ≤ e.2.length := by
  induction t using List.reverseRecOn generalizing e with
  | nil => cases h
  | append_singleton t last ih =>
    rw [leader?_concat] at h
    simp only [better] at h
    split at h
    · -- The last entry has more votes than the leader so far, and that one had the most.
      next hmost =>
      cases h
      refine ⟨by omega, t, [], rfl, ?_, by simp⟩
      intro x hx
      cases hleader : leader? t with
      | none =>
        rw [hleader] at hmost
        rw [leader?_eq_none hleader x hx]
        exact hmost
      | some best =>
        rw [hleader] at hmost
        obtain ⟨-, before, after, ht, hbefore, hafter⟩ := ih hleader
        have hle : x.2.length ≤ best.2.length := by
          rw [ht] at hx
          rcases List.mem_append.mp hx with hx | hx
          · exact Nat.le_of_lt (hbefore x hx)
          · rcases List.mem_cons.mp hx with rfl | hx
            · exact Nat.le_refl _
            · exact hafter x hx
        exact Nat.lt_of_le_of_lt hle hmost
    · -- The last entry has no more votes, so the leader stays.
      next hmost =>
      obtain ⟨hpos, before, after, ht, hbefore, hafter⟩ := ih h
      rw [h] at hmost
      refine ⟨hpos, before, after ++ [last], by rw [ht]; simp, hbefore, ?_⟩
      intro x hx
      rcases List.mem_append.mp hx with hx | hx
      · exact hafter x hx
      · rw [List.mem_singleton.mp hx]
        exact Nat.le_of_not_lt hmost

theorem mem_of_leader? {t : Tally} {e : Ballot × List Vote} (h : t.leader? = some e) : e ∈ t := by
  obtain ⟨-, before, after, ht, -⟩ := leader?_eq_some h
  rw [ht]
  exact List.mem_append_right _ List.mem_cons_self

/-- Nothing has more votes than the leader. -/
theorem length_le_of_leader? {t : Tally} {e : Ballot × List Vote} (h : t.leader? = some e) :
    ∀ x ∈ t, x.2.length ≤ e.2.length := by
  obtain ⟨-, before, after, rfl, hbefore, hafter⟩ := leader?_eq_some h
  intro x hx
  rcases List.mem_append.mp hx with hx | hx
  · exact Nat.le_of_lt (hbefore x hx)
  · rcases List.mem_cons.mp hx with rfl | hx
    · exact Nat.le_refl _
    · exact hafter x hx

end Tally

/-- If there are approvals, their tally has a leader. -/
theorem exists_leader? (hne : approvals ≠ []) :
    ∃ b votes, (Tally.ofApprovals approvals).leader? = some (b, votes) := by
  cases hleader : (Tally.ofApprovals approvals).leader? with
  | some entry => exact ⟨entry.1, entry.2, rfl⟩
  | none =>
    obtain ⟨v, hv⟩ := List.exists_mem_of_ne_nil approvals hne
    have hin : ballotOf v.2 ∈ ballots approvals := mem_ballots.mpr ⟨v, hv, rfl⟩
    rw [Tally.ofApprovals_eq] at hleader
    have hnil := Tally.leader?_eq_none hleader _ (List.mem_map_of_mem hin)
    exact absurd hnil (votesFor_ne_nil hin)

/-- No ballot has more votes than the leader, be it listed or not. -/
theorem length_votesFor_le {b : Ballot} {votes : List Vote}
    (h : (Tally.ofApprovals approvals).leader? = some (b, votes)) (other : Ballot) :
    (votesFor other approvals).length ≤ votes.length := by
  by_cases hother : other ∈ ballots approvals
  · rw [Tally.ofApprovals_eq] at h
    exact Tally.length_le_of_leader? h (other, votesFor other approvals) (List.mem_map_of_mem hother)
  · rw [votesFor_eq_nil hother]
    exact Nat.zero_le _

/-! ## The outcome -/

/-- **What is combined: enough votes for the leading ballot.** -/
theorem combine_eq_ok (h : combine approvals n = .ok a) :
    (a.ipfsHash, a.deadline) ∈ ballots approvals ∧
      n ≤ (votesFor (a.ipfsHash, a.deadline) approvals).length ∧
      a.signatures = signatures n (votesFor (a.ipfsHash, a.deadline) approvals) := by
  unfold combine at h
  split at h
  · cases h
  next ballot votes hleader =>
  split at h
  · cases h
  next henough =>
  cases h
  have hmem := Tally.mem_of_leader? hleader
  rw [Tally.ofApprovals_eq] at hmem
  obtain ⟨b, hb, heq⟩ := List.mem_map.mp hmem
  cases heq
  exact ⟨hb, Nat.le_of_not_lt henough, rfl⟩

theorem length_votesFor (b : Ballot) :
    (votesFor b approvals).length = approvals.countP fun v => Names v.2 b := by
  rw [votesFor, List.length_map, List.countP_eq_length_filter]

/-- **When anything is combined**: there is an approval, and some ballot has enough of them. -/
theorem exists_combine_iff :
    (∃ a, combine approvals n = .ok a) ↔
      approvals ≠ [] ∧ ∃ ballot, n ≤ approvals.countP fun v => Names v.2 ballot := by
  constructor
  · rintro ⟨a, ha⟩
    obtain ⟨hin, henough, -⟩ := combine_eq_ok ha
    obtain ⟨v, hv, -⟩ := mem_ballots.mp hin
    exact ⟨List.ne_nil_of_mem hv, (a.ipfsHash, a.deadline), length_votesFor _ ▸ henough⟩
  · rintro ⟨hne, ballot, henough⟩
    rw [← length_votesFor] at henough
    obtain ⟨b, votes, hleader⟩ := exists_leader? hne
    have hmost := length_votesFor_le hleader ballot
    refine ⟨⟨b.1, signatures n votes, b.2⟩, ?_⟩
    simp only [combine, hleader, if_neg (Nat.not_lt.mpr (Nat.le_trans henough hmost))]

/-- If all approvals are for one ballot, there are as many votes as approvals. -/
theorem exists_combine_of_unanimous {ballot : Ballot} (hne : approvals ≠ [])
    (hall : ∀ v ∈ approvals, Names v.2 ballot) (hn : n ≤ approvals.length) :
    ∃ a, combine approvals n = .ok a := by
  refine exists_combine_iff.mpr ⟨hne, ballot, ?_⟩
  rw [List.countP_eq_length.mpr fun v hv => decide_eq_true (hall v hv)]
  exact hn

end Majority

end Registrar
