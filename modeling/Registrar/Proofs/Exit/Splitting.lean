import Mathlib.Algebra.BigOperators.Fin
import Registrar.Proofs.Exit.Drawing

/-!
# What a key is split into

The coefficients of a polynomial are a key and the scalars that are drawn for it. The shares of the key
are the values of the polynomial, as sums of products of integers, reduced modulo the group order. If none
of them is zero, each is a secret key itself.

## Contents

- `Scalar.secret?_eq_some_iff` and `Scalar.secret?_eq_none_iff`: which bytes are secret keys;
- `valueAt`, the value of a polynomial in integers, with `val_evaluate`;
- `keyShares`, the shares as bytes, with `signShards_eq_keyShares`;
- `Splits`, what comes of splitting;
- `bounds_of_keyShares` and `signShards_eq_error_iff`: every share can sign, and `keyShares_exact`.
-/

namespace Registrar

/-! ## Secret keys -/

namespace Scalar

variable {secret : Bytes} {s : Scalar}

theorem secret?_eq_some_iff :
    secret? secret = some s ↔
      secret.length = 32 ∧ 1 ≤ Bytes.toNat secret ∧ Bytes.toNat secret = s.val := by
  constructor
  · intro h
    obtain ⟨hlength, hvalue⟩ := secret?_eq_some h
    exact ⟨hlength, hvalue ▸ pos_of_secret? h, hvalue⟩
  · rintro ⟨hlength, hpos, hvalue⟩
    have hlt : Bytes.toNat secret < groupOrder := hvalue ▸ s.isLt
    have hs : (⟨Bytes.toNat secret, hlt⟩ : Scalar) = s := Fin.ext hvalue
    rw [secret?, dif_pos ⟨hlength, hpos, hlt⟩, hs]

theorem secret?_eq_none_iff :
    secret? secret = none ↔
      ¬ (secret.length = 32 ∧ 1 ≤ Bytes.toNat secret ∧ Bytes.toNat secret ≤ groupOrder - 1) := by
  have hpos : 0 < groupOrder := Nat.pos_of_ne_zero (NeZero.ne groupOrder)
  rw [secret?, dite_eq_right_iff]
  constructor
  · rintro h ⟨hlength, hkey, hle⟩
    cases h ⟨hlength, hkey, by omega⟩
  · intro h hvalid
    exact absurd ⟨hvalid.1, hvalid.2.1, by omega⟩ h

end Scalar

namespace Exit

open Tape (skip)

variable {t t' : Tape} {s : Scalar}

/-! ## Values -/

/-- The value at `x` of the polynomial with the given coefficients, the constant one first. -/
def valueAt (coefficients : List Scalar) (x : Nat) : Nat :=
  (∑ k : Fin coefficients.length, coefficients[k].val * x ^ k.val) % groupOrder

theorem toField_evaluate_ofNat (coefficients : List Scalar) (x : Nat) :
    (Scalar.evaluate coefficients (Scalar.ofNat x)).toField
      = ((∑ k : Fin coefficients.length, coefficients[k].val * x ^ k.val : Nat) : ZMod groupOrder) := by
  induction coefficients with
  | nil => simp [Scalar.evaluate]
  | cons c coefficients ih =>
    have hsum : (∑ k : Fin coefficients.length, coefficients[k].val * x ^ (k.val + 1))
        = (∑ k : Fin coefficients.length, coefficients[k].val * x ^ k.val) * x := by
      rw [Finset.sum_mul]
      apply Finset.sum_congr rfl
      intro k _
      rw [pow_succ, mul_assoc]
    have hstep : Scalar.evaluate (c :: coefficients) (Scalar.ofNat x)
        = Scalar.evaluate coefficients (Scalar.ofNat x) * Scalar.ofNat x + c := rfl
    have hfirst : (∑ k : Fin (c :: coefficients).length, (c :: coefficients)[k].val * x ^ k.val)
        = c.val * x ^ 0 + ∑ k : Fin coefficients.length, coefficients[k].val * x ^ (k.val + 1) :=
      Fin.sum_univ_succ _
    rw [hstep, Scalar.toField_add, Scalar.toField_mul, ih, Scalar.toField_ofNat, hfirst, hsum, pow_zero,
      mul_one, Nat.cast_add, Nat.cast_mul, Scalar.toField, add_comm]

/-- **Horner's rule gives the sum of the products**, reduced once. -/
theorem val_evaluate (coefficients : List Scalar) (x : Nat) :
    (Scalar.evaluate coefficients (Scalar.ofNat x)).val = valueAt coefficients x := by
  have hremainder : Scalar.evaluate coefficients (Scalar.ofNat x)
      = Scalar.ofNat (∑ k : Fin coefficients.length, coefficients[k].val * x ^ k.val) := by
    apply Scalar.toField_injective
    rw [toField_evaluate_ofNat, Scalar.toField_ofNat]
  rw [hremainder]
  rfl

theorem any_zero_iff (coefficients : List Scalar) (total : Nat) :
    (sharesOf coefficients total).any (· = 0) = true
      ↔ ∃ x, 1 ≤ x ∧ x ≤ total ∧ valueAt coefficients x = 0 := by
  rw [any_sharesOf_iff]
  constructor
  · rintro ⟨i, hi, hzero⟩
    refine ⟨i + 1, by omega, hi, ?_⟩
    rw [← val_evaluate]
    exact congrArg Fin.val hzero
  · rintro ⟨x, hpos, hle, hzero⟩
    refine ⟨x - 1, by omega, ?_⟩
    apply Fin.ext
    rw [abscissa, Nat.sub_add_cancel hpos, val_evaluate, hzero]
    rfl

/-- The shares in bytes: the numbers of 32 bytes, the high one first, that are the values at `1` up to
    `total`. -/
theorem toOctets_sharesOf (coefficients : List Scalar) (total : Nat) :
    (sharesOf coefficients total).map Scalar.toOctets
      = (List.range' 1 total).map fun x => Octets.ofNat 32 (valueAt coefficients x) := by
  rw [sharesOf, List.map_map, List.range'_eq_map_range, List.map_map]
  apply List.map_congr_left
  intro i _
  show (Scalar.evaluate coefficients (Scalar.ofNat (i + 1))).toOctets
    = Octets.ofNat 32 (valueAt coefficients (1 + i))
  rw [Scalar.toOctets, val_evaluate, Nat.add_comm]

/-! ## Shares -/

section Shares

variable {secret : Bytes} {threshold total : Nat}

/-- Secret bytes split into shares, which are bytes as well. -/
def keyShares (secret : Bytes) (threshold total : Nat) (t : Tape) :
    Option (Except SigningFault (List (Octets 32)) × Tape) :=
  (split secret threshold total t).map fun (result, t) =>
    (result.map fun shares => shares.map Scalar.toOctets, t)

/-- **What comes of splitting secret bytes**, and where it leaves the tape. The coefficients are the key
    and the scalars that are drawn. -/
inductive Splits (secret : Bytes) (threshold total : Nat) (t : Tape) :
    Except SigningFault (List (Octets 32)) → Tape → Prop where
  /-- No shares can meet the threshold. -/
  | badThreshold (h : threshold = 0 ∨ total < threshold) :
    Splits secret threshold total t (.error (.badThreshold threshold total)) t
  /-- The bytes are no secret key. -/
  | badSecret (hpos : 0 < threshold) (hle : threshold ≤ total)
      (h : ¬ (secret.length = 32 ∧ 1 ≤ Bytes.toNat secret ∧ Bytes.toNat secret ≤ groupOrder - 1)) :
    Splits secret threshold total t (.error .badSecret) t
  /-- A share is zero. -/
  | zeroShare {s : Scalar} {drawn : List Scalar} {blocks : Nat} (hpos : 0 < threshold)
      (hle : threshold ≤ total) (hlength : secret.length = 32) (hkey : 1 ≤ Bytes.toNat secret)
      (hvalue : Bytes.toNat secret = s.val) (hcount : drawn.length = threshold - 1)
      (hdrawn : Drawn t blocks drawn)
      (hzero : ∃ x, 1 ≤ x ∧ x ≤ total ∧ valueAt (s :: drawn) x = 0) :
    Splits secret threshold total t (.error .badSecret) (t.skip (32 * blocks))
  /-- The shares are the values at `1` up to `total`. -/
  | shares {s : Scalar} {drawn : List Scalar} {blocks : Nat} (hpos : 0 < threshold)
      (hle : threshold ≤ total) (hlength : secret.length = 32) (hkey : 1 ≤ Bytes.toNat secret)
      (hvalue : Bytes.toNat secret = s.val) (hcount : drawn.length = threshold - 1)
      (hdrawn : Drawn t blocks drawn)
      (hnonzero : ∀ x, 1 ≤ x → x ≤ total → valueAt (s :: drawn) x ≠ 0) :
    Splits secret threshold total t
      (.ok ((List.range' 1 total).map fun x => Octets.ofNat 32 (valueAt (s :: drawn) x)))
      (t.skip (32 * blocks))

theorem keyShares_of_threshold (h : threshold = 0 ∨ total < threshold) :
    keyShares secret threshold total t = some (.error (.badThreshold threshold total), t) := by
  simp only [keyShares, split, thresholdFault, if_pos h]
  rfl

theorem keyShares_of_secret?_eq_none (hpos : 0 < threshold) (hle : threshold ≤ total)
    (h : Scalar.secret? secret = none) :
    keyShares secret threshold total t = some (.error .badSecret, t) := by
  have hfault : ¬ (threshold = 0 ∨ total < threshold) := by omega
  simp only [keyShares, split, thresholdFault, if_neg hfault, h]
  rfl

theorem keyShares_of_secret? (hpos : 0 < threshold) (hle : threshold ≤ total)
    (h : Scalar.secret? secret = some s) :
    keyShares secret threshold total t = (drawScalars? (threshold - 1) t).map fun (drawn, t) =>
      (if (sharesOf (s :: drawn) total).any (· = 0) then .error .badSecret
        else .ok ((sharesOf (s :: drawn) total).map Scalar.toOctets), t) := by
  have hfault : ¬ (threshold = 0 ∨ total < threshold) := by omega
  simp only [keyShares, split, thresholdFault, if_neg hfault, h, splitKey]
  cases drawScalars? (threshold - 1) t with
  | none => rfl
  | some found =>
    obtain ⟨drawn, rest⟩ := found
    simp only [Option.map_some]
    split <;> rfl

theorem Splits.of_keyShares {result : Except SigningFault (List (Octets 32))}
    (h : keyShares secret threshold total t = some (result, t')) :
    Splits secret threshold total t result t' := by
  by_cases hfault : threshold = 0 ∨ total < threshold
  · rw [keyShares_of_threshold hfault] at h
    cases h
    exact .badThreshold hfault
  have hpos : 0 < threshold := by omega
  have hle : threshold ≤ total := by omega
  cases hs : Scalar.secret? secret with
  | none =>
    rw [keyShares_of_secret?_eq_none hpos hle hs] at h
    cases h
    exact .badSecret hpos hle (Scalar.secret?_eq_none_iff.mp hs)
  | some s =>
    obtain ⟨hlength, hkey, hvalue⟩ := Scalar.secret?_eq_some_iff.mp hs
    rw [keyShares_of_secret? hpos hle hs] at h
    obtain ⟨⟨drawn, rest⟩, hdraw, heq⟩ := Option.map_eq_some_iff.mp h
    obtain ⟨hresult, rfl⟩ := Prod.mk.inj heq
    obtain ⟨hcount, blocks, hdrawn, rfl⟩ := drawScalars?_eq_some_iff.mp hdraw
    -- Either some share is zero, or all of them are handed out.
    by_cases hzero : (sharesOf (s :: drawn) total).any (· = 0) = true
    · rw [if_pos hzero] at hresult
      subst hresult
      exact .zeroShare hpos hle hlength hkey hvalue hcount hdrawn ((any_zero_iff _ _).mp hzero)
    · rw [if_neg hzero, toOctets_sharesOf] at hresult
      subst hresult
      apply Splits.shares hpos hle hlength hkey hvalue hcount hdrawn
      intro x hx hxle hvanishes
      exact hzero ((any_zero_iff _ _).mpr ⟨x, hx, hxle, hvanishes⟩)

theorem Splits.keyShares_eq {result : Except SigningFault (List (Octets 32))}
    (h : Splits secret threshold total t result t') :
    keyShares secret threshold total t = some (result, t') := by
  cases h with
  | badThreshold hfault => exact keyShares_of_threshold hfault
  | badSecret hpos hle hinvalid =>
    exact keyShares_of_secret?_eq_none hpos hle (Scalar.secret?_eq_none_iff.mpr hinvalid)
  | zeroShare hpos hle hlength hkey hvalue hcount hdrawn hzero =>
    have hs := Scalar.secret?_eq_some_iff.mpr ⟨hlength, hkey, hvalue⟩
    have hdraw := drawScalars?_eq_some_iff.mpr ⟨hcount, _, hdrawn, rfl⟩
    rw [keyShares_of_secret? hpos hle hs, hdraw]
    simp only [Option.map_some, if_pos ((any_zero_iff _ _).mpr hzero)]
  | @shares s drawn blocks hpos hle hlength hkey hvalue hcount hdrawn hnonzero =>
    have hs := Scalar.secret?_eq_some_iff.mpr ⟨hlength, hkey, hvalue⟩
    have hdraw := drawScalars?_eq_some_iff.mpr ⟨hcount, _, hdrawn, rfl⟩
    have hnone : ¬ (sharesOf (s :: drawn) total).any (· = 0) = true := by
      rw [any_zero_iff]
      rintro ⟨x, hx, hxle, hvanishes⟩
      exact hnonzero x hx hxle hvanishes
    rw [keyShares_of_secret? hpos hle hs, hdraw]
    simp only [Option.map_some, if_neg hnone, toOctets_sharesOf]

/-- A share is a secret key itself. -/
theorem exists_secrets_of_keyShares {shares : List (Octets 32)}
    (h : keyShares secret threshold total t = some (.ok shares, t')) :
    ∃ scalars : List Scalar, shares = scalars.map Scalar.toOctets ∧ ∀ share ∈ scalars, share ≠ 0 := by
  obtain ⟨⟨result, rest⟩, hsplit, heq⟩ := Option.map_eq_some_iff.mp h
  cases result with
  | error fault => cases heq
  | ok scalars =>
    cases heq
    exact ⟨scalars, rfl, ne_zero_of_split hsplit⟩

/-- **Every share is in range.** -/
theorem bounds_of_keyShares {shares : List (Octets 32)}
    (h : keyShares secret threshold total t = some (.ok shares, t')) :
    ∀ share ∈ shares, 1 ≤ Bytes.toNat share.toList ∧ Bytes.toNat share.toList ≤ groupOrder - 1 := by
  obtain ⟨scalars, rfl, hne⟩ := exists_secrets_of_keyShares h
  intro share hshare
  obtain ⟨scalar, hscalar, rfl⟩ := List.mem_map.mp hshare
  have hpos : scalar.val ≠ 0 := fun hzero => hne scalar hscalar (Fin.ext hzero)
  have hlt := scalar.isLt
  rw [Scalar.toNat_toOctets]
  omega

section Signing

variable (G : Type) [SignatureScheme G]

/-- Shares that come out sign. -/
theorem exists_shards_of_keyShares (message : Bytes) {shares : List (Octets 32)}
    (h : keyShares secret threshold total t = some (.ok shares, t')) :
    ∃ shards, shardsOf? G message shares = .ok shards := by
  obtain ⟨scalars, rfl, hne⟩ := exists_secrets_of_keyShares h
  exact ⟨shardsOf G scalars message, shardsOf?_eq_ok G message hne⟩

/-- Signing with shares splits the key and signs with each of them. -/
theorem signShards_eq_keyShares (secret message : Bytes) (threshold total : Nat) (t : Tape) :
    signShards G secret message threshold total t
      = (keyShares secret threshold total t).map fun (result, t) =>
          (result.bind (shardsOf? G message), t) := by
  rw [signShards, keyShares]
  cases split secret threshold total t with
  | none => rfl
  | some found =>
    obtain ⟨result, rest⟩ := found
    cases result <;> rfl

/-- **Signing with shares fails only where splitting does**, and with its fault. -/
theorem signShards_eq_error_iff {message : Bytes} {fault : SigningFault} :
    signShards G secret message threshold total t = some (.error fault, t') ↔
      keyShares secret threshold total t = some (.error fault, t') := by
  rw [signShards_eq_keyShares]
  constructor
  · intro h
    obtain ⟨⟨result, rest⟩, hshares, heq⟩ := Option.map_eq_some_iff.mp h
    obtain ⟨hresult, rfl⟩ := Prod.mk.inj heq
    cases result with
    | error fault' =>
      cases hresult
      exact hshares
    | ok shares =>
      obtain ⟨shards, hshards⟩ := exists_shards_of_keyShares G message hshares
      cases hshards.symm.trans hresult
  · intro h
    rw [h]
    rfl

/-- **A key is split exactly.** A wrong threshold is refused, then bytes that are no secret key, and
    nothing is drawn for either. Otherwise the coefficients are the first blocks of the tape that are
    scalars, and the shares are the values of the polynomial unless one of them is zero. Shares that come
    out are secret keys, so that each of them signs: signing with shares fails only where splitting
    does, and with its fault. -/
theorem keyShares_exact (secret message : Bytes) (threshold total : Nat) (t : Tape) :
    (∀ result t', keyShares secret threshold total t = some (result, t') ↔
      Splits secret threshold total t result t') ∧
    (∀ shares t', keyShares secret threshold total t = some (.ok shares, t') →
      (∀ share ∈ shares,
        1 ≤ Bytes.toNat share.toList ∧ Bytes.toNat share.toList ≤ groupOrder - 1) ∧
      ∃ shards, shardsOf? G message shares = .ok shards ∧
        signShards G secret message threshold total t = some (.ok shards, t')) ∧
    (∀ fault t', signShards G secret message threshold total t = some (.error fault, t') ↔
      keyShares secret threshold total t = some (.error fault, t')) := by
  refine ⟨fun result t' => ⟨Splits.of_keyShares, Splits.keyShares_eq⟩, ?_, ?_⟩
  · intro shares t' h
    obtain ⟨shards, hshards⟩ := exists_shards_of_keyShares G message h
    refine ⟨bounds_of_keyShares h, shards, hshards, ?_⟩
    rw [signShards_eq_keyShares, h]
    simp only [Option.map_some, Except.bind, hshards]
  · intro fault t'
    exact signShards_eq_error_iff G

end Signing

open Keystore.Keyring (sampleListing)

/-- The key 5, split into three shares, two of which are needed. The first block is all ones and passed
    over, the second is the coefficient 7. -/
theorem keyShares_second_block :
    let secret : Bytes := (Octets.ofNat 32 5).toList
    let t : Tape := ⟨fun i => if i < 32 then 255 else if i = 63 then 7 else 0, 0, 64⟩
    let shares := [12, 19, 26].map (Octets.ofNat 32)
    keyShares secret 2 3 t = some (.ok shares, t.skip 64) ∧
    (∀ share ∈ shares, 1 ≤ Bytes.toNat share.toList ∧ Bytes.toNat share.toList ≤ groupOrder - 1) ∧
    ∃ shards, shardsOf? (Multiples sampleListing) [] shares = .ok shards ∧
      signShards (Multiples sampleListing) secret [] 2 3 t = some (.ok shards, t.skip 64) := by
  intro secret t shares
  obtain ⟨hexact, hsigns, -⟩ := keyShares_exact (Multiples sampleListing) secret [] 2 3 t
  have hdrawn : Drawn t 2 [Scalar.ofNat 7] := by
    refine ⟨by decide, ?_, ?_⟩
    · decide +kernel
    · decide +kernel
  have hnonzero : ∀ x, 1 ≤ x → x ≤ 3 → valueAt [Scalar.ofNat 5, Scalar.ofNat 7] x ≠ 0 := by
    intro x hx hle
    interval_cases x <;> decide +kernel
  have hsplits : Splits secret 2 3 t (.ok shares) (t.skip 64) :=
    @Splits.shares secret 2 3 t (Scalar.ofNat 5) [Scalar.ofNat 7] 2 (by decide) (by decide) (by decide)
      (by decide +kernel) (by decide +kernel) rfl hdrawn hnonzero
  have hshares := (hexact _ _).mpr hsplits
  exact ⟨hshares, hsigns shares _ hshares⟩

end Shares

end Exit

end Registrar
