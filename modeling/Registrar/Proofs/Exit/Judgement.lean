import Registrar.Proofs.Exit.Recombination

/-!
# What becomes of numbered shares

Recombination passes over the shares three times: for an index that occurred before, for bytes that
are no point, and for the sum. So an index that occurs twice is reported even if a signature before it
is malformed. The factor of a share depends on its index and on which other indices there are, not on
their order, so that the sum does not depend on the order of the shares.

## Contents

- `firstRepeated_eq_some_iff` and `firstRepeated_eq_none_iff` for the first pass;
- `Decodes`, with `decodeShares_eq_error_iff` and `decodeShares_eq_map` for the second;
- `factor_of_perm` and `combine_eq_of_perm` for the third;
- `recombine_judged`: what becomes of any list of shares.
-/

namespace Registrar.Exit

/-! ## An index that occurred before -/

section Indices

variable {seen indices : List Nat} {i : Nat}

theorem firstRepeated_cons_of_mem (h : i ∈ seen) : firstRepeated seen (i :: indices) = some i := by
  rw [firstRepeated, if_pos (by simpa using h)]

theorem firstRepeated_cons_of_not_mem (h : i ∉ seen) :
    firstRepeated seen (i :: indices) = firstRepeated (seen ++ [i]) indices := by
  rw [firstRepeated, if_neg (by simpa using h)]

theorem nodup_concat (hseen : seen.Nodup) (h : i ∉ seen) : (seen ++ [i]).Nodup := by
  rw [← List.concat_eq_append]
  exact hseen.concat h

/-- **The index that is found occurred before**, and those in front of it are all different. -/
theorem firstRepeated_eq_some_iff (hseen : seen.Nodup) :
    firstRepeated seen indices = some i ↔
      ∃ front rest, indices = front ++ i :: rest ∧ (seen ++ front).Nodup ∧ i ∈ seen ++ front := by
  induction indices generalizing seen with
  | nil =>
    constructor
    · intro h
      cases h
    · rintro ⟨front, rest, h, -⟩
      simp at h
  | cons j indices ih =>
    by_cases hj : j ∈ seen
    · rw [firstRepeated_cons_of_mem hj]
      constructor
      · intro h
        cases h
        exact ⟨[], indices, rfl, by rwa [List.append_nil], by rwa [List.append_nil]⟩
      · rintro ⟨front, rest, h, hnodup, -⟩
        cases front with
        | nil =>
          cases h
          rfl
        | cons k front =>
          -- The first index was seen, so that it cannot be in front of the one that is found.
          cases h
          exact absurd rfl ((List.nodup_append.mp hnodup).2.2 j hj j List.mem_cons_self)
    · rw [firstRepeated_cons_of_not_mem hj, ih (nodup_concat hseen hj)]
      constructor
      · rintro ⟨front, rest, rfl, hnodup, hi⟩
        rw [List.append_assoc, List.singleton_append] at hnodup hi
        exact ⟨j :: front, rest, rfl, hnodup, hi⟩
      · rintro ⟨front, rest, h, hnodup, hi⟩
        cases front with
        | nil =>
          cases h
          rw [List.append_nil] at hi
          exact absurd hi hj
        | cons k front =>
          cases h
          refine ⟨front, rest, rfl, ?_, ?_⟩
          · rwa [List.append_assoc, List.singleton_append]
          · rwa [List.append_assoc, List.singleton_append]

theorem nodup_of_firstRepeated (hseen : seen.Nodup) (h : firstRepeated seen indices = none) :
    (seen ++ indices).Nodup := by
  induction indices generalizing seen with
  | nil => rwa [List.append_nil]
  | cons j indices ih =>
    by_cases hj : j ∈ seen
    · rw [firstRepeated_cons_of_mem hj] at h
      cases h
    · rw [firstRepeated_cons_of_not_mem hj] at h
      have hnodup := ih (nodup_concat hseen hj) h
      rwa [List.append_assoc, List.singleton_append] at hnodup

/-- Nothing is found just if all indices are different. -/
theorem firstRepeated_eq_none_iff : firstRepeated [] indices = none ↔ indices.Nodup := by
  constructor
  · intro h
    exact nodup_of_firstRepeated List.nodup_nil h
  · intro h
    exact firstRepeated_eq_none h

end Indices

variable (G : Type) [SignatureScheme G]

/-! ## Bytes that are no point -/

/-- The bytes write a point. -/
def Decodes (bs : Octets 96) : Prop := ∃ p : G, SignatureScheme.decode? bs = some p

variable {G}

theorem not_decodes_iff {bs : Octets 96} :
    ¬ Decodes G bs ↔ SignatureScheme.decode? (G := G) bs = none := by
  unfold Decodes
  cases SignatureScheme.decode? (G := G) bs <;> simp

/-- A numbered point from its bytes; the neutral one if they write none. -/
def pointed (x : Nat × Octets 96) : Nat × G :=
  (x.1, (SignatureScheme.decode? x.2).getD SignatureScheme.zero)

variable {shares : List (Nat × Octets 96)}

/-- If all bytes write points, these are the points. -/
theorem decodeShares_eq_map (h : ∀ x ∈ shares, Decodes G x.2) :
    decodeShares G shares = .ok (shares.map pointed) := by
  induction shares with
  | nil => rfl
  | cons x shares ih =>
    obtain ⟨⟨p, hp⟩, hshares⟩ := List.forall_mem_cons.mp h
    have hx : pointed x = (x.1, p) := by rw [pointed, hp, Option.getD_some]
    rw [decodeShares, hp, ih hshares, List.map_cons, hx]

theorem decodes_of_decodeShares {points : List (Nat × G)} (h : decodeShares G shares = .ok points) :
    ∀ x ∈ shares, Decodes G x.2 := by
  induction shares generalizing points with
  | nil => simp
  | cons x shares ih =>
    rw [decodeShares] at h
    split at h
    · cases h
    next p hp =>
    split at h
    · cases h
    next others hothers => exact List.forall_mem_cons.mpr ⟨⟨p, hp⟩, ih hothers⟩

/-- **The share that is reported is the first one whose bytes write no point.** -/
theorem decodeShares_eq_error_iff {fault : SigningFault} :
    decodeShares G shares = .error fault ↔
      ∃ front i bs rest, shares = front ++ (i, bs) :: rest ∧ (∀ x ∈ front, Decodes G x.2) ∧
        ¬ Decodes G bs ∧ fault = .badShare i := by
  induction shares with
  | nil =>
    constructor
    · intro h
      cases h
    · rintro ⟨front, i, bs, rest, h, -⟩
      simp at h
  | cons x shares ih =>
    obtain ⟨j, cs⟩ := x
    by_cases hcs : Decodes G cs
    · have hstep : decodeShares G ((j, cs) :: shares) = .error fault ↔
          decodeShares G shares = .error fault := by
        obtain ⟨p, hp⟩ := hcs
        rw [decodeShares, hp]
        cases decodeShares G shares <;> simp
      rw [hstep, ih]
      constructor
      · rintro ⟨front, i, bs, rest, rfl, hfront, hbs, hfault⟩
        exact ⟨(j, cs) :: front, i, bs, rest, rfl, List.forall_mem_cons.mpr ⟨hcs, hfront⟩, hbs,
          hfault⟩
      · rintro ⟨front, i, bs, rest, h, hfront, hbs, hfault⟩
        cases front with
        | nil =>
          cases h
          exact absurd hcs hbs
        | cons y front =>
          cases h
          exact ⟨front, i, bs, rest, rfl, (List.forall_mem_cons.mp hfront).2, hbs, hfault⟩
    · rw [decodeShares, not_decodes_iff.mp hcs]
      constructor
      · intro h
        cases h
        exact ⟨[], j, cs, shares, rfl, by simp, hcs, rfl⟩
      · rintro ⟨front, i, bs, rest, h, hfront, -, rfl⟩
        cases front with
        | nil =>
          cases h
          rfl
        | cons y front =>
          cases h
          exact absurd (List.forall_mem_cons.mp hfront).1 hcs

/-! ## The sum -/

/-- **A factor does not depend on the order of the indices.** -/
theorem factor_of_perm {indices indices' : List Nat} (h : indices'.Perm indices) (i : Nat) :
    factor indices' i = factor indices i := by
  apply Scalar.toField_injective
  show (Scalar.lagrange _ _).toField = (Scalar.lagrange _ _).toField
  rw [Scalar.toField_lagrange, Scalar.toField_lagrange]
  exact (((h.erase i).map abscissa).map _).prod_eq

/-! ## All passes -/

/-- The first pass ends at a share with an index that occurred before. -/
theorem firstRepeated_map_eq_some_iff {i : Nat} :
    firstRepeated [] (shares.map (·.1)) = some i ↔
      ∃ front bs rest, shares = front ++ (i, bs) :: rest ∧ (front.map (·.1)).Nodup ∧
        i ∈ front.map (·.1) := by
  rw [firstRepeated_eq_some_iff List.nodup_nil]
  simp only [List.nil_append]
  constructor
  · rintro ⟨indices, others, hsplit, hnodup, hi⟩
    obtain ⟨front, tail, rfl, rfl, htail⟩ := List.map_eq_append_iff.mp hsplit
    obtain ⟨⟨j, bs⟩, rest, rfl, rfl, -⟩ := List.map_eq_cons_iff.mp htail
    exact ⟨front, bs, rest, rfl, hnodup, hi⟩
  · rintro ⟨front, bs, rest, rfl, hnodup, hi⟩
    exact ⟨front.map (·.1), rest.map (·.1), by simp, hnodup, hi⟩

/-- The first pass comes first. -/
theorem recombine_of_firstRepeated {i : Nat} (h : firstRepeated [] (shares.map (·.1)) = some i) :
    recombine G shares = .error (.duplicateShare i) := by
  have hne : shares ≠ [] := by
    rintro rfl
    cases h
  simp only [recombine, if_neg hne, h]

/-- The second pass is next. -/
theorem recombine_of_decodeShares {fault : SigningFault} (hnodup : (shares.map (·.1)).Nodup)
    (h : decodeShares G shares = .error fault) : recombine G shares = .error fault := by
  have hne : shares ≠ [] := by
    rintro rfl
    cases h
  simp only [recombine, if_neg hne, firstRepeated_eq_none_iff.mpr hnodup, h]

/-- If neither finds anything, the sum of the points is taken. -/
theorem recombine_of_decodes (hne : shares ≠ []) (hnodup : (shares.map (·.1)).Nodup)
    (h : ∀ x ∈ shares, Decodes G x.2) :
    recombine G shares = .ok (SignatureScheme.encode
      (combine G [] (shares.map pointed) SignatureScheme.zero)) := by
  simp only [recombine, if_neg hne, firstRepeated_eq_none_iff.mpr hnodup, decodeShares_eq_map h]

/-- One of the passes decides. -/
theorem recombine_cases (shares : List (Nat × Octets 96)) :
    (shares = [] ∧ recombine G shares = .error .noShares) ∨
    (∃ i, firstRepeated [] (shares.map (·.1)) = some i ∧
      recombine G shares = .error (.duplicateShare i)) ∨
    (∃ i, (shares.map (·.1)).Nodup ∧ decodeShares G shares = .error (.badShare i) ∧
      recombine G shares = .error (.badShare i)) ∨
    (shares ≠ [] ∧ (shares.map (·.1)).Nodup ∧ (∀ x ∈ shares, Decodes G x.2) ∧
      ∃ signature, recombine G shares = .ok signature) := by
  by_cases hne : shares = []
  · subst hne
    exact .inl ⟨rfl, rfl⟩
  cases hfirst : firstRepeated [] (shares.map (·.1)) with
  | some i => exact .inr (.inl ⟨i, rfl, recombine_of_firstRepeated hfirst⟩)
  | none =>
    have hnodup := firstRepeated_eq_none_iff.mp hfirst
    cases hdecode : decodeShares G shares with
    | error fault =>
      obtain ⟨_, i, _, _, _, _, _, rfl⟩ := decodeShares_eq_error_iff.mp hdecode
      exact .inr (.inr (.inl ⟨i, hnodup, rfl, recombine_of_decodeShares hnodup hdecode⟩))
    | ok points =>
      have hall := decodes_of_decodeShares hdecode
      exact .inr (.inr (.inr ⟨hne, hnodup, hall, _, recombine_of_decodes hne hnodup hall⟩))

/-- No shares are reported just if there are none. -/
theorem recombine_eq_noShares_iff : recombine G shares = .error .noShares ↔ shares = [] := by
  constructor
  · intro h
    rcases recombine_cases (G := G) shares with
      ⟨hnil, -⟩ | ⟨i, -, hi⟩ | ⟨i, -, -, hi⟩ | ⟨-, -, -, signature, hok⟩
    · exact hnil
    · cases hi.symm.trans h
    · cases hi.symm.trans h
    · cases hok.symm.trans h
  · rintro rfl
    rfl

/-- A repeated index is reported at its first repetition, whatever the signatures are. -/
theorem recombine_eq_duplicateShare_iff {i : Nat} :
    recombine G shares = .error (.duplicateShare i) ↔
      ∃ front bs rest, shares = front ++ (i, bs) :: rest ∧ (front.map (·.1)).Nodup ∧
        i ∈ front.map (·.1) := by
  rw [← firstRepeated_map_eq_some_iff]
  constructor
  · intro h
    rcases recombine_cases (G := G) shares with
      ⟨-, hnone⟩ | ⟨j, hfirst, hj⟩ | ⟨j, -, -, hj⟩ | ⟨-, -, -, signature, hok⟩
    · cases hnone.symm.trans h
    · cases hj.symm.trans h
      exact hfirst
    · cases hj.symm.trans h
    · cases hok.symm.trans h
  · intro h
    exact recombine_of_firstRepeated h

/-- A malformed signature is reported if it is the first one and no index is repeated. -/
theorem recombine_eq_badShare_iff {i : Nat} :
    recombine G shares = .error (.badShare i) ↔
      (shares.map (·.1)).Nodup ∧
        ∃ front bs rest, shares = front ++ (i, bs) :: rest ∧ (∀ x ∈ front, Decodes G x.2) ∧
          ¬ Decodes G bs := by
  constructor
  · intro h
    rcases recombine_cases (G := G) shares with
      ⟨-, hnone⟩ | ⟨j, -, hj⟩ | ⟨j, hnodup, hdecode, hj⟩ | ⟨-, -, -, signature, hok⟩
    · cases hnone.symm.trans h
    · cases hj.symm.trans h
    · cases hj.symm.trans h
      obtain ⟨front, k, bs, rest, hsplit, hfront, hbs, hfault⟩ := decodeShares_eq_error_iff.mp hdecode
      cases hfault
      exact ⟨hnodup, front, bs, rest, hsplit, hfront, hbs⟩
    · cases hok.symm.trans h
  · rintro ⟨hnodup, front, bs, rest, hsplit, hfront, hbs⟩
    apply recombine_of_decodeShares hnodup
    exact decodeShares_eq_error_iff.mpr ⟨front, i, bs, rest, hsplit, hfront, hbs, rfl⟩

/-- There is a signature if neither an index is repeated nor a signature is malformed. -/
theorem of_recombine_eq_ok {signature : Octets 96} (h : recombine G shares = .ok signature) :
    shares ≠ [] ∧ (shares.map (·.1)).Nodup ∧ ∀ x ∈ shares, Decodes G x.2 := by
  rcases recombine_cases (G := G) shares with
    ⟨-, hnone⟩ | ⟨i, -, hi⟩ | ⟨i, -, -, hi⟩ | ⟨hne, hnodup, hall, -⟩
  · cases hnone.symm.trans h
  · cases hi.symm.trans h
  · cases hi.symm.trans h
  · exact ⟨hne, hnodup, hall⟩

/-! ## The order of the shares -/

section Order

variable (hassoc : ∀ p q r : G, SignatureScheme.add (SignatureScheme.add p q) r
    = SignatureScheme.add p (SignatureScheme.add q r))
  (hcomm : ∀ p q : G, SignatureScheme.add p q = SignatureScheme.add q p)
include hassoc hcomm

/-- Summands change places. -/
theorem add_right_comm (p q r : G) :
    SignatureScheme.add (SignatureScheme.add p q) r
      = SignatureScheme.add (SignatureScheme.add p r) q := by
  rw [hassoc, hcomm q r, hassoc]

/-- **The sum does not depend on the order of the points.** -/
theorem combine_eq_of_perm {points points' : List (Nat × G)} (h : points'.Perm points)
    (hnodup : (points.map (·.1)).Nodup) (sum : G) :
    combine G [] points' sum = combine G [] points sum := by
  have hindices : (points'.map (·.1)).Perm (points.map (·.1)) := h.map _
  have hnodup' : (points'.map (·.1)).Nodup := hindices.nodup_iff.mpr hnodup
  rw [combine_eq_foldl [] hnodup', combine_eq_foldl [] hnodup]
  simp only [List.nil_append, factor_of_perm hindices]
  apply h.foldl_eq'
  intro x _ y _ sum
  exact add_right_comm hassoc hcomm _ _ _

/-- **The signature does not depend on the order of the shares.** -/
theorem recombine_of_perm {shares' : List (Nat × Octets 96)} (h : shares'.Perm shares)
    (hne : shares ≠ []) (hnodup : (shares.map (·.1)).Nodup) (hall : ∀ x ∈ shares, Decodes G x.2) :
    recombine G shares' = .ok (SignatureScheme.encode
      (combine G [] (shares.map pointed) SignatureScheme.zero)) := by
  have hne' : shares' ≠ [] := by
    rintro rfl
    exact hne h.nil_eq.symm
  have hnodup' : (shares'.map (·.1)).Nodup := (h.map (·.1)).nodup_iff.mpr hnodup
  have hall' : ∀ x ∈ shares', Decodes G x.2 := by
    intro x hx
    exact hall x (h.mem_iff.mp hx)
  have hpoints : ((shares.map (pointed (G := G))).map (·.1)).Nodup := by
    rw [List.map_map]
    exact hnodup
  rw [recombine_of_decodes hne' hnodup' hall', combine_eq_of_perm hassoc hcomm (h.map pointed) hpoints]

end Order

/-- **What becomes of numbered shares.** There is no signature from no shares. Else the first index
    that occurred before is reported, whatever the signatures are; else the first share whose bytes
    write no point; and else there is one signature, the same for all orders of the shares. -/
theorem recombine_judged
    (hassoc : ∀ p q r : G, SignatureScheme.add (SignatureScheme.add p q) r
      = SignatureScheme.add p (SignatureScheme.add q r))
    (hcomm : ∀ p q : G, SignatureScheme.add p q = SignatureScheme.add q p)
    (shares : List (Nat × Octets 96)) :
    (recombine G shares = .error .noShares ↔ shares = []) ∧
    (∀ i, recombine G shares = .error (.duplicateShare i) ↔
      ∃ front bs rest, shares = front ++ (i, bs) :: rest ∧ (front.map (·.1)).Nodup ∧
        i ∈ front.map (·.1)) ∧
    (∀ i, recombine G shares = .error (.badShare i) ↔
      (shares.map (·.1)).Nodup ∧
        ∃ front bs rest, shares = front ++ (i, bs) :: rest ∧ (∀ x ∈ front, Decodes G x.2) ∧
          ¬ Decodes G bs) ∧
    ((∃ signature, ∀ shares', shares'.Perm shares → recombine G shares' = .ok signature) ↔
      shares ≠ [] ∧ (shares.map (·.1)).Nodup ∧ ∀ x ∈ shares, Decodes G x.2) := by
  refine ⟨recombine_eq_noShares_iff, fun i => recombine_eq_duplicateShare_iff,
    fun i => recombine_eq_badShare_iff, ?_, ?_⟩
  · rintro ⟨signature, h⟩
    exact of_recombine_eq_ok (h shares (List.Perm.refl _))
  · rintro ⟨hne, hnodup, hall⟩
    let total := combine G [] (shares.map pointed) SignatureScheme.zero
    refine ⟨SignatureScheme.encode total, ?_⟩
    intro shares' h
    exact recombine_of_perm hassoc hcomm h hne hnodup hall

/-! ### Shares of the key 5 -/

open Keystore.Keyring (sampleListing sampleListing_faithful)

/-- The signature with a listed key. -/
def sampleShare (n : Nat) : Octets 96 := Multiples.write sampleListing (Scalar.ofNat n)

/-- Bytes that write no point. -/
def noPoint : Octets 96 := .ofNat 96 (256 ^ 96 - 1)

theorem not_decodes_noPoint : ¬ Decodes (Multiples sampleListing) noPoint := by
  rw [not_decodes_iff]
  show Multiples.read? sampleListing noPoint = none
  decide +kernel

theorem decodes_sampleShare (n : Nat) : Decodes (Multiples sampleListing) (sampleShare n) :=
  ⟨Scalar.ofNat n, Multiples.read?_write sampleListing_faithful _⟩

/-- Two shares recombine in either order. Of three, the index that occurs again is reported, though a
    malformed signature stands before it; without it, the first malformed signature is. -/
theorem recombine_judged_defects :
    let G := Multiples sampleListing
    (∀ p q r : G, SignatureScheme.add (SignatureScheme.add p q) r
      = SignatureScheme.add p (SignatureScheme.add q r)) ∧
    (∀ p q : G, SignatureScheme.add p q = SignatureScheme.add q p) ∧
    (∃ signature, ∀ shares', shares'.Perm [(0, sampleShare 12), (1, sampleShare 19)] →
      recombine G shares' = .ok signature) ∧
    recombine G [(1, sampleShare 19), (0, noPoint), (1, sampleShare 19)]
      = .error (.duplicateShare 1) ∧
    recombine G [(1, sampleShare 19), (7, noPoint), (0, noPoint)] = .error (.badShare 7) := by
  intro G
  have hlaws : SignatureScheme.Laws G := Multiples.laws sampleListing_faithful
  have hassoc := hlaws.add_assoc
  have hcomm := hlaws.add_comm
  refine ⟨hassoc, hcomm, ?_, ?_, ?_⟩
  · apply (recombine_judged hassoc hcomm _).2.2.2.mpr
    simp [decodes_sampleShare, G]
  · apply ((recombine_judged hassoc hcomm _).2.1 1).mpr
    exact ⟨[(1, sampleShare 19), (0, noPoint)], sampleShare 19, [], rfl, by simp, by simp⟩
  · apply ((recombine_judged hassoc hcomm _).2.2.1 7).mpr
    refine ⟨by simp, [(1, sampleShare 19)], noPoint, [(0, noPoint)], rfl, ?_, not_decodes_noPoint⟩
    simp [decodes_sampleShare, G]

end Registrar.Exit
