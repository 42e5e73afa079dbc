import Mathlib.Data.List.Forall2
import Registrar.Proofs.Crypto.Keccak
import Registrar.Proofs.Crypto.Sha256
import Registrar.Proofs.Deposit.Agreement

/-!
# What an accepted batch proof vouches for

A batch proof lists encodings and positions in two lists of their own, and its check pairs them. Whatever
its lists, nodes and flags are, an accepted proof vouches for each pair; what one list has beyond the other
is not looked at, so that it vouches for all it lists exactly if the two lists agree in length.

## Contents

- `Roster.Vouches`, the encoding of a validator at its position;
- `Built.vouches_of_mem` and `forall_vouches_iff_of_verify`;
- `verify_surplus`: what one list has beyond the other changes no answer, and `verify_unpositioned`, what
  every roster accepts;
- `depositRoot_repeated` and `keccak256_repeated`, the hashes of one deposit, for
  `verify_unpositioned_unvouched`.
-/

namespace Registrar.Deposit

open Merkle

namespace Roster

variable {vault : Address} {amount : UInt64} {entries : List Entry} {d : Roster} {p : BatchProof}

/-- The bytes are the encoding of the validator at a position. -/
def Vouches (d : Roster) (data : Bytes) (position : UInt64) : Prop :=
  ∃ v, d.validators[position.toNat]? = some v ∧ d.encode v = .ok data

/-! ## What is paired -/

/-- A proof is accepted if it leads to the root. -/
theorem verify_eq_true_iff : d.verify p = .ok true ↔
    rootOf ((claimedLeaves p).map Leaf.hash) p.proof p.flags = .ok d.tree.root := by
  unfold verify root
  split
  · next root hroot =>
    rw [hroot]
    simp
  · next fault hfault =>
    rw [hfault]
    simp

/-- A leaf of the tree belongs to the validator whose position it is numbered by. Numbers have 256
    bits. -/
theorem Built.vouches_of_mem (hd : d.Built) (hlength : d.tree.leaves.length ≤ 2 ^ 256) {data : Bytes}
    {position : UInt64} (hmem : ⟨data, leafNumber position.toNat⟩ ∈ d.tree.leaves) :
    d.Vouches data position := by
  obtain ⟨i, hi, hleaf⟩ := List.getElem_of_mem hmem
  obtain ⟨⟨v, hv, hencode⟩, hindex⟩ :=
    hd.exists_validator (List.getElem?_eq_some_iff.mpr ⟨hi, hleaf⟩)
  have hposition : position.toNat < 2 ^ 256 :=
    Nat.lt_trans position.toNat_lt (Nat.pow_lt_pow_right (by omega) (by omega))
  obtain rfl : position.toNat = i := leafNumber_inj hposition (by omega) hindex
  exact ⟨v, hv, hencode⟩

/-- A pair of an encoding and a position is a claimed leaf. -/
theorem mem_claimedLeaves {data : Bytes} {position : UInt64}
    (h : (data, position) ∈ p.encodings.zip p.positions) :
    ⟨data, leafNumber position.toNat⟩ ∈ claimedLeaves p := by
  rw [claimedLeaves, ← List.map_uncurry_zip_eq_zipWith]
  exact List.mem_map.mpr ⟨(data, position), h, rfl⟩

/-- **An accepted proof vouches for every encoding that it pairs with a position**, and so for all that it
    lists exactly if it lists as many encodings as positions, unless two byte strings collide that were
    hashed for the tree or the proof. -/
theorem forall_vouches_iff_of_verify (h : ofEntries? vault amount entries = .ok d)
    (hlength : entries.length ≤ 2 ^ 256) (hp : d.verify p = .ok true) :
    ((List.Forall₂ d.Vouches p.encodings p.positions ↔ p.encodings.length = p.positions.length) ∧
      ∀ data position, (data, position) ∈ p.encodings.zip p.positions → d.Vouches data position) ∨
    Collides keccak256 (d.tree.hashed ++ checkHashed (claimedLeaves p) p.proof p.flags) := by
  by_cases hno : Collides keccak256 (d.tree.hashed ++ checkHashed (claimedLeaves p) p.proof p.flags)
  · exact .inr hno
  left
  have hd := built_of_ofEntries? h
  have hcount : d.tree.leaves.length ≤ 2 ^ 256 := by
    rw [(leaves_committed h).1]
    exact hlength
  -- Every leaf that is claimed, and so every pair, is one of the tree.
  have hclaimed := hd.grown.subperm_of_rootOf (verify_eq_true_iff.mp hp) hno
  have hpaired : ∀ data position, (data, position) ∈ p.encodings.zip p.positions →
      d.Vouches data position := by
    intro data position hmem
    have hleaf := hclaimed.subset (mem_claimedLeaves hmem)
    exact hd.vouches_of_mem hcount hleaf
  refine ⟨⟨List.Forall₂.length_eq, ?_⟩, hpaired⟩
  intro hlengths
  exact List.forall₂_iff_zip.mpr ⟨hlengths, fun hmem => hpaired _ _ hmem⟩

/-- The two deposits of a roster, proved from the last one to the first and checked. -/
theorem forall_vouches_iff_of_verify_two :
    let key : Octets 48 := .replicate 48 0xaa
    let signature : Octets 96 := .replicate 96 0xbb
    let key' : Octets 48 := .replicate 48 0xcc
    let signature' : Octets 96 := .replicate 96 0xdd
    let first : Entry := ⟨Hex.ofOctets key, Hex.ofOctets signature⟩
    let second : Entry := ⟨Hex.ofOctets key', Hex.ofOctets signature'⟩
    let entries := [first, second]
    let vault : Address := .replicate 20 0x42
    ∃ d p, ofEntries? vault 32000000000 entries = .ok d ∧ entries.length ≤ 2 ^ 256 ∧
      d.batchProof [Validator.ofEntry 1 second, Validator.ofEntry 0 first] = .ok p ∧
      p.positions.length = 2 ∧ d.verify p = .ok true ∧
      (((List.Forall₂ d.Vouches p.encodings p.positions ↔ p.encodings.length = p.positions.length) ∧
        ∀ data position, (data, position) ∈ p.encodings.zip p.positions → d.Vouches data position) ∨
      Collides keccak256 (d.tree.hashed ++ checkHashed (claimedLeaves p) p.proof p.flags)) := by
  intro key signature key' signature' first second entries vault
  have hspells : List.Forall₂ (fun e x => Entry.Spells e x.1 x.2) entries
      [(key, signature), (key', signature')] :=
    .cons (Entry.spells_marked key signature) (.cons (Entry.spells_marked key' signature') .nil)
  obtain ⟨t, -, h⟩ := exists_ofEntries?_of_spells vault 32000000000 (List.cons_ne_nil _ _) hspells
  have hd := built_of_ofEntries? h
  let batch := [Validator.ofEntry 1 second, Validator.ofEntry 0 first]
  have hknown : ∀ v ∈ batch,
      [Validator.ofEntry 0 first, Validator.ofEntry 1 second][v.index]? = some v :=
    List.forall_mem_cons.mpr ⟨rfl, List.forall_mem_singleton.mpr rfl⟩
  obtain ⟨q, hq, hproof⟩ := hd.exists_batchProof hknown (by decide +kernel)
  have hcount : (batchProofOf q).positions.length = 2 := by
    rw [batchProofOf, List.length_map, hq.perm.length_eq]
    rfl
  have hsmall : ∀ i ∈ q.indices, i < UInt64.size := by
    intro i hi
    obtain ⟨v, hv, rfl⟩ := List.mem_map.mp (hq.perm.mem_iff.mp hi)
    have hbatch : ∀ v ∈ batch, v.index < UInt64.size := by decide +kernel
    exact hbatch v hv
  have hverify := hd.verify_batchProofOf rfl hq hsmall
  have hlength : entries.length ≤ 2 ^ 256 := by
    have htwo : 2 ^ 1 ≤ 2 ^ 256 := Nat.pow_le_pow_right Nat.two_pos (by decide)
    exact htwo
  exact ⟨_, _, h, hlength, hproof _ (.refl _), hcount, hverify,
    forall_vouches_iff_of_verify h hlength hverify⟩

/-! ## What is left over -/

/-- **What one list has beyond the other changes no answer.** -/
theorem verify_surplus (hlengths : p.encodings.length = p.positions.length) {encodings : List Bytes}
    {positions : List UInt64} (hsurplus : encodings = [] ∨ positions = []) :
    d.verify { p with encodings := p.encodings ++ encodings, positions := p.positions ++ positions }
      = d.verify p := by
  have hclaimed : claimedLeaves
      { p with encodings := p.encodings ++ encodings, positions := p.positions ++ positions }
        = claimedLeaves p := by
    unfold claimedLeaves
    rw [List.zipWith_append hlengths]
    rcases hsurplus with rfl | rfl
    · rw [List.zipWith_nil_left, List.append_nil]
    · rw [List.zipWith_nil_right, List.append_nil]
  unfold verify
  rw [hclaimed]

/-- **Every roster accepts every list of encodings without positions**, under its root for the one proof
    node: nothing is hashed, and the node itself is the root. -/
theorem verify_unpositioned (d : Roster) (surplus : List Bytes) :
    d.verify ⟨surplus, [d.root], [], []⟩ = .ok true := by
  have hnothing : d.verify ⟨[], [d.root], [], []⟩ = .ok true := verify_eq_true_iff.mpr rfl
  rw [← hnothing]
  exact verify_surplus (p := ⟨[], [d.root], [], []⟩) rfl (.inr rfl)

/-! ## Accepted without vouching -/

/-- The deposit root of a key of bytes `aa` and a signature of bytes `bb`. -/
theorem depositRoot_repeated :
    depositRoot (.replicate 48 0xaa) (withdrawalCredentials (.replicate 20 0x42)) 32000000000
        (.replicate 96 0xbb)
      = .ofNat 32 0xa9cc0f74c0fed215d2d20aff6c53707b539705e1f074c851a2dff2aa1f6cb520 := by
  simp only [depositRoot, Sha256.pair, Sha256.sha256_eq]
  decide +kernel

/-- The hash of the leaf encoding of that deposit. -/
theorem keccak256_repeated :
    keccak256 (Leaf.encode ⟨(Octets.replicate 48 0xaa).toList ++ (Octets.replicate 96 0xbb).toList
        ++ (Octets.ofNat 32 0xa9cc0f74c0fed215d2d20aff6c53707b539705e1f074c851a2dff2aa1f6cb520).toList,
          leafNumber 0⟩)
      = .ofNat 32 0x22b0497a15f09066e8c04fbe2dcaf0c983e97c43a27664c2a2a1cd2fbb63ebe9 := by
  rw [Keccak.keccak256_eq]
  decide +kernel

/-- The second hash of that leaf is not the first one. -/
theorem keccak256_keccak256_repeated :
    keccak256 (Octets.ofNat 32 0x22b0497a15f09066e8c04fbe2dcaf0c983e97c43a27664c2a2a1cd2fbb63ebe9).toList
      ≠ .ofNat 32 0x22b0497a15f09066e8c04fbe2dcaf0c983e97c43a27664c2a2a1cd2fbb63ebe9 := by
  rw [Keccak.keccak256_eq]
  decide +kernel

/-- Bytes that encode nothing are listed in an accepted proof, and no hashed strings collide: the leaf of
    the roster's only deposit is hashed twice, to two different hashes. -/
theorem verify_unpositioned_unvouched :
    let key : Octets 48 := .replicate 48 0xaa
    let signature : Octets 96 := .replicate 96 0xbb
    let entry : Entry := ⟨Hex.ofOctets key, Hex.ofOctets signature⟩
    let vault : Address := .replicate 20 0x42
    ∃ d, ofEntries? vault 32000000000 [entry] = .ok d ∧
      let p : BatchProof := ⟨[[0xff]], [d.root], [], []⟩
      d.verify p = .ok true ∧ p.encodings.length ≠ p.positions.length ∧
      ¬ List.Forall₂ d.Vouches p.encodings p.positions ∧
      ¬ Collides keccak256 (d.tree.hashed ++ checkHashed (claimedLeaves p) p.proof p.flags) := by
  intro key signature entry vault
  have hspells : List.Forall₂ (fun e x => Entry.Spells e x.1 x.2) [entry] [(key, signature)] :=
    .cons (Entry.spells_marked key signature) .nil
  obtain ⟨t, ht, h⟩ := exists_ofEntries?_of_spells vault 32000000000 (List.cons_ne_nil _ _) hspells
  refine ⟨_, h, verify_unpositioned _ _, Nat.one_ne_zero, ?_, ?_⟩
  · intro hvouched
    cases hvouched
  have hleaves := (Tree.ofLeaves?_eq_ok ht).1
  simp only [numberedLeaves, List.zipIdx_cons, List.zipIdx_nil, List.map_cons, List.map_nil] at hleaves
  rw [depositRoot_repeated] at hleaves
  -- The proof has no leaf and no flag, so that its check hashes nothing.
  have hchecked : checkHashed (claimedLeaves ⟨[[0xff]], [t.root], [], []⟩) [t.root] [] = [] := rfl
  show ¬ Collides keccak256
    (t.hashed ++ checkHashed (claimedLeaves ⟨[[0xff]], [t.root], [], []⟩) [t.root] [])
  rw [hchecked, List.append_nil, Tree.hashed_of_leaves_eq hleaves]
  refine Leaf.not_collides_hashed ?_
  rw [Leaf.hash, keccak256_repeated]
  exact keccak256_keccak256_repeated

end Roster

end Registrar.Deposit
