import Registrar.Proofs.Oracle.Election

/-!
# Approvals in another order

The oracles of a round answer in any order. If each of them has approved once, the order does not decide
whether there is a majority, nor how large it is, nor which signatures stand for a ballot. It does decide
which ballot wins among several with the most votes.

## Contents

- `mostVotes_of_perm`, and `signatures_of_perm` for votes of different oracles;
- `combine_of_lt`, where one ballot has the most votes, and `combine_of_perm`, what holds everywhere.
-/

namespace Registrar.Majority

variable {approvals reordered : List (Address × SignedApproval)} {n : Nat} {b : Ballot}

/-! ## Counts -/

theorem eq_nil_iff_of_perm (h : approvals.Perm reordered) : approvals = [] ↔ reordered = [] :=
  ⟨fun hnil => (hnil ▸ h).nil_eq.symm, fun hnil => (hnil ▸ h).eq_nil⟩

theorem support_of_perm (h : approvals.Perm reordered) (b : Ballot) :
    support reordered b = support approvals b := (h.countP_eq _).symm

/-- **The largest number of votes is the same in every order.** -/
theorem mostVotes_of_perm (h : approvals.Perm reordered) :
    mostVotes reordered = mostVotes approvals := by
  by_cases hne : approvals = []
  · subst hne
    rw [h.nil_eq]
  · obtain ⟨b, hb⟩ := exists_leads hne
    obtain ⟨b', hb'⟩ := exists_leads (mt (eq_nil_iff_of_perm h).mpr hne)
    have hle := hb.most b'
    have hge := hb'.most b
    rw [support_of_perm h, support_of_perm h] at hge
    rw [hb.mostVotes_eq, hb'.mostVotes_eq, support_of_perm h]
    omega

/-- If a ballot has more votes than every other one, nothing else leads. -/
theorem Leads.eq_of_lt {b' : Ballot} (h : Leads approvals b)
    (hmore : ∀ other, other ≠ b' → support approvals other < support approvals b') : b = b' := by
  by_contra hne
  exact absurd (hmore b hne) (Nat.not_lt.mpr (h.most b'))

/-! ## Signatures -/

theorem votesFor_perm (h : approvals.Perm reordered) (b : Ballot) :
    (votesFor b approvals).Perm (votesFor b reordered) := (h.filter _).map _

/-- Oracles that differ vote once each. -/
theorem nodup_votesFor (h : (approvals.map (·.1)).Nodup) (b : Ballot) :
    ((votesFor b approvals).map (·.1)).Nodup := by
  have hvoters : (votesFor b approvals).map (·.1)
      = (approvals.filter fun v => Names v.2 b).map (·.1) := by
    rw [votesFor, List.map_map]
    rfl
  rw [hvoters]
  exact h.sublist (List.filter_sublist.map _)

/-- **The signatures of different oracles stand in one order.** -/
theorem signatures_of_perm {votes votes' : List Vote} (h : votes.Perm votes')
    (hnodup : (votes.map (·.1)).Nodup) : signatures n votes = signatures n votes' := by
  have hsorted : votes.mergeSort (fun u v => decide (u.1 ≤ v.1))
      = votes'.mergeSort (fun u v => decide (u.1 ≤ v.1)) := by
    have hperm : (votes.mergeSort fun u v => decide (u.1 ≤ v.1)).Perm
        (votes'.mergeSort fun u v => decide (u.1 ≤ v.1)) :=
      (List.mergeSort_perm votes _).trans (h.trans (List.mergeSort_perm votes' _).symm)
    -- Votes that could change places have one address, so they are one vote.
    refine hperm.eq_of_pairwise (fun u v hu hv huv hvu => ?_) (ranked_mergeSort votes).ascending
      (ranked_mergeSort votes').ascending
    exact List.inj_on_of_nodup_map hnodup (List.mem_mergeSort.mp hu)
      (h.mem_iff.mpr (List.mem_mergeSort.mp hv)) (Octets.le_antisymm huv hvu)
  rw [signatures, signatures, hsorted]

/-! ## The outcome -/

/-- One ballot in two orders has the same signatures. -/
theorem combine_congr (hperm : approvals.Perm reordered) (hnodup : (approvals.map (·.1)).Nodup)
    (hleads : Leads approvals b) (hleads' : Leads reordered b) (n : Nat) :
    combine approvals n = combine reordered n := by
  have hsignatures : signatures n (votesFor b approvals) = signatures n (votesFor b reordered) :=
    signatures_of_perm (votesFor_perm hperm b) (nodup_votesFor hnodup b)
  rw [combine_of_leads hleads, combine_of_leads hleads', mostVotes_of_perm hperm, hsignatures]

/-- **A strict majority does not depend on the order.** -/
theorem combine_of_lt (hperm : approvals.Perm reordered) (hnodup : (approvals.map (·.1)).Nodup)
    (hmore : ∀ other, other ≠ b → support approvals other < support approvals b) (n : Nat) :
    combine approvals n = combine reordered n := by
  have hempty := eq_nil_iff_of_perm hperm
  by_cases hne : approvals = []
  · rw [hne, hempty.mp hne]
  · have hmore' : ∀ other, other ≠ b → support reordered other < support reordered b := by
      intro other hother
      rw [support_of_perm hperm, support_of_perm hperm]
      exact hmore other hother
    obtain ⟨c, hc⟩ := exists_leads hne
    obtain ⟨c', hc'⟩ := exists_leads (mt hempty.mpr hne)
    obtain rfl := hc.eq_of_lt hmore
    obtain rfl := hc'.eq_of_lt hmore'
    exact combine_congr hperm hnodup hc hc' n

/-- **What the order of the approvals decides.** Approvals of different oracles are combined in every order
    or in none, with the same shortage. If a ballot has more votes than every other one, the outcome is the
    same in every order. Otherwise a ballot with the most votes wins in each order, and where the same one
    does, the signatures are the same too. -/
theorem combine_of_perm (hperm : approvals.Perm reordered) (hnodup : (approvals.map (·.1)).Nodup)
    (n : Nat) :
    ((∃ a, combine approvals n = .ok a) ↔ ∃ a, combine reordered n = .ok a) ∧
      (∀ e, combine approvals n = .error e ↔ combine reordered n = .error e) ∧
      (∀ b, (∀ other, other ≠ b → support approvals other < support approvals b) →
        combine approvals n = combine reordered n) ∧
      ∀ a a', combine approvals n = .ok a → combine reordered n = .ok a' →
        support approvals (a.ipfsHash, a.deadline) = mostVotes approvals ∧
          support approvals (a'.ipfsHash, a'.deadline) = mostVotes approvals ∧
          ((a.ipfsHash, a.deadline) = (a'.ipfsHash, a'.deadline) → a.signatures = a'.signatures) := by
  have hempty := eq_nil_iff_of_perm hperm
  have hmost := mostVotes_of_perm hperm
  refine ⟨?_, fun e => ?_, fun b hmore => ?_, fun a a' ha ha' => ?_⟩
  · rw [exists_combine_iff_mostVotes, exists_combine_iff_mostVotes, hmost, ne_eq, hempty]
  · rw [combine_eq_error_iff, combine_eq_error_iff, hmost, hempty]
  · exact combine_of_lt hperm hnodup hmore n
  · obtain ⟨-, hleads, hsignatures⟩ := combine_eq_ok_iff.mp ha
    obtain ⟨-, hleads', hsignatures'⟩ := combine_eq_ok_iff.mp ha'
    refine ⟨hleads.mostVotes_eq.symm, ?_, fun hsame => ?_⟩
    · rw [← hmost, hleads'.mostVotes_eq, support_of_perm hperm]
    · rw [hsignatures, hsignatures', ← hsame]
      exact signatures_of_perm (votesFor_perm hperm _) (nodup_votesFor hnodup _)

/-- Two oracles approve different data: whoever comes first wins, with as many votes as the other. -/
theorem combine_of_perm_tied :
    let first : Address × SignedApproval := (.replicate 20 0x01, ⟨"QmA", [1], 100⟩)
    let second : Address × SignedApproval := (.replicate 20 0x02, ⟨"QmB", [2], 100⟩)
    combine [first, second] 1 = .ok ⟨"QmA", [1], 100⟩ ∧
      combine [second, first] 1 = .ok ⟨"QmB", [2], 100⟩ ∧
      support [first, second] ("QmA", 100) = mostVotes [first, second] ∧
      support [first, second] ("QmB", 100) = mostVotes [first, second] := by
  intro first second
  have hfirst : combine [first, second] 1 = .ok ⟨"QmA", [1], 100⟩ := by decide +kernel
  have hsecond : combine [second, first] 1 = .ok ⟨"QmB", [2], 100⟩ := by decide +kernel
  obtain ⟨-, -, -, htied⟩ := combine_of_perm (.swap second first []) (by decide) 1
  obtain ⟨hA, hB, -⟩ := htied _ _ hfirst hsecond
  exact ⟨hfirst, hsecond, hA, hB⟩

end Registrar.Majority
