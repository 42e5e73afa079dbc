import Registrar.Deposit.Roster
import Registrar.Proofs.Deposit.Preimage
import Registrar.Proofs.Merkle.Soundness

/-!
# What the root of a roster binds

The root of a roster stands for the vault, the amount and, entry by entry, the keys and signatures,
unless two byte strings that were hashed collide.

## Contents

- `Entry.Spells`, the key and signature that an entry stands for;
- `Roster.ofEntries?_eq_ok`, what a roster is built from, with `Committed`, the leaf of an entry, and
  `Roster.exists_ofEntries?_of_spells`;
- `eq_of_perm_of_numbered`: numbered leaves come back in order;
- `Roster.binding_of_root_eq`.
-/

namespace Registrar.Deposit

open Merkle

/-! ## Entries and their leaves -/

/-- The key and the signature that the texts of an entry stand for. -/
def Entry.Spells (e : Entry) (key : Octets 48) (signature : Octets 96) : Prop :=
  decodeField 48 "pubkey" (addMarker e.publicKey) = .ok key ∧
    decodeField 96 "signature" (addMarker e.signature) = .ok signature

/-! ### Written texts -/

theorem digit_ne_marker {n : Nat} (h : n < 16) : Hex.digit n ≠ 'x' ∧ Hex.digit n ≠ 'X' := by
  revert n; decide

theorem addMarker_ofOctets {n : Nat} (a : Octets n) :
    addMarker (Hex.ofOctets a) = Hex.ofOctets a := by
  simp only [addMarker, Hex.ofOctets, Hex.encode0x, String.toList_ofList]

theorem addMarker_digits {n : Nat} (a : Octets n) :
    addMarker (String.ofList (Hex.encode a.toList)) = Hex.ofOctets a := by
  have hput : "0x" ++ String.ofList (Hex.encode a.toList) = Hex.ofOctets a := by
    simp [← String.toList_inj, Hex.ofOctets, Hex.encode0x]
  unfold addMarker
  rw [String.toList_ofList]
  cases hbytes : a.toList with
  | nil =>
    rw [hbytes] at hput
    exact hput
  | cons b rest =>
    rw [hbytes] at hput
    -- The second digit is no `x`, so the text has no marker of its own.
    obtain ⟨hx, hX⟩ := digit_ne_marker (Nat.mod_lt b.toNat (by omega : 0 < 16))
    split
    · next heq => exact absurd (List.cons.inj (List.cons.inj heq).2).1 hx
    · next heq => exact absurd (List.cons.inj (List.cons.inj heq).2).1 hX
    · exact hput

theorem decodeField_ofOctets {n : Nat} (field : String) (a : Octets n) :
    decodeField n field (Hex.ofOctets a) = .ok a := by
  have hdrop : dropMarker (Hex.ofOctets a) = Hex.encode a.toList := by
    simp only [dropMarker, Hex.ofOctets, Hex.encode0x, String.toList_ofList]
  simp only [decodeField, hdrop, Hex.decode_encode, Octets.ofList?_toList]

/-- A key and a signature that are written with a marker are the ones that are read. -/
theorem Entry.spells_marked (key : Octets 48) (signature : Octets 96) :
    Entry.Spells ⟨Hex.ofOctets key, Hex.ofOctets signature⟩ key signature := by
  unfold Entry.Spells
  rw [addMarker_ofOctets, addMarker_ofOctets]
  exact ⟨decodeField_ofOctets _ key, decodeField_ofOctets _ signature⟩

/-- A key and a signature that are written without a marker are the ones that are read. -/
theorem Entry.spells_unmarked (key : Octets 48) (signature : Octets 96) :
    Entry.Spells ⟨String.ofList (Hex.encode key.toList), String.ofList (Hex.encode signature.toList)⟩
      key signature := by
  unfold Entry.Spells
  rw [addMarker_digits, addMarker_digits]
  exact ⟨decodeField_ofOctets _ key, decodeField_ofOctets _ signature⟩

/-! ### Leaves -/

/-- The leaf that commits to an entry at a position. -/
def Committed (credentials : Hash) (amount : UInt64) (index : Nat) (e : Entry) (leaf : Leaf) : Prop :=
  ∃ key signature, e.Spells key signature ∧ leaf.index = leafNumber index ∧
    leaf.data
      = key.toList ++ signature.toList ++ (depositRoot key credentials amount signature).toList

variable {credentials : Hash} {amount : UInt64}

theorem Validator.encode_of_spells {index : Nat} {e : Entry} {key : Octets 48}
    {signature : Octets 96} (h : e.Spells key signature) :
    (Validator.ofEntry index e).encode credentials amount
      = .ok (key.toList ++ signature.toList
        ++ (depositRoot key credentials amount signature).toList) := by
  simp only [Validator.encode, Validator.ofEntry, h.1, h.2]

theorem Validator.encode_eq_ok {index : Nat} {e : Entry} {data : Bytes}
    (h : (Validator.ofEntry index e).encode credentials amount = .ok data) :
    ∃ key signature, e.Spells key signature ∧
      data = key.toList ++ signature.toList
        ++ (depositRoot key credentials amount signature).toList := by
  unfold Validator.encode at h
  split at h
  · cases h
  next key hkey =>
  split at h
  · cases h
  next signature hsignature =>
  exact ⟨key, signature, ⟨hkey, hsignature⟩, (Except.ok.inj h).symm⟩

/-- The leaves of validators are those of their entries, position by position. -/
theorem leavesOf_eq_ok {entries : List Entry} {start : Nat} {leaves : List Leaf}
    (h : leavesOf credentials amount
      ((entries.zipIdx start).map fun (e, i) => Validator.ofEntry i e) = .ok leaves) :
    leaves.length = entries.length ∧
      ∀ i (hi : i < entries.length) (hi' : i < leaves.length),
        Committed credentials amount (start + i) entries[i] leaves[i] := by
  induction entries generalizing start leaves with
  | nil =>
    simp only [List.zipIdx_nil, List.map_nil, leavesOf, Except.ok.injEq] at h
    subst h
    exact ⟨rfl, fun i hi => absurd hi (Nat.not_lt_zero i)⟩
  | cons e entries ih =>
    simp only [List.zipIdx_cons, List.map_cons, leavesOf] at h
    split at h
    · cases h
    next data hdata =>
    split at h
    · cases h
    next rest hrest =>
    cases h
    obtain ⟨hlength, hcommitted⟩ := ih hrest
    obtain ⟨key, signature, hspells, rfl⟩ := Validator.encode_eq_ok hdata
    refine ⟨by simp [hlength], fun i hi hi' => ?_⟩
    cases i with
    | zero => exact ⟨key, signature, hspells, rfl, rfl⟩
    | succ i =>
      have hstep := hcommitted i (by simpa using hi) (by simpa using hi')
      rw [Nat.add_assoc, Nat.add_comm 1 i] at hstep
      exact hstep

/-- The leaves of keys and signatures, numbered from a position on. -/
def numberedLeaves (credentials : Hash) (amount : UInt64) (deposits : List (Octets 48 × Octets 96))
    (start : Nat) : List Leaf :=
  (deposits.zipIdx start).map fun ((key, signature), i) =>
    ⟨key.toList ++ signature.toList ++ (depositRoot key credentials amount signature).toList,
      leafNumber i⟩

theorem leavesOf_of_spells {entries : List Entry} {deposits : List (Octets 48 × Octets 96)}
    (h : List.Forall₂ (fun e x => Entry.Spells e x.1 x.2) entries deposits) (start : Nat) :
    leavesOf credentials amount ((entries.zipIdx start).map fun (e, i) => Validator.ofEntry i e)
      = .ok (numberedLeaves credentials amount deposits start) := by
  induction h generalizing start with
  | nil => rfl
  | cons hspells _ ih =>
    simp only [List.zipIdx_cons, List.map_cons, leavesOf, Validator.encode_of_spells hspells, ih]
    rfl

/-- Entries with the same leaf stand for the same key and signature, and have the same deposit
    root. -/
theorem Committed.agree {credentials' : Hash} {amount' : UInt64} {i i' : Nat} {e e' : Entry}
    {leaf : Leaf} (h : Committed credentials amount i e leaf)
    (h' : Committed credentials' amount' i' e' leaf) :
    ∃ key signature, e.Spells key signature ∧ e'.Spells key signature ∧
      depositRoot key credentials amount signature
        = depositRoot key credentials' amount' signature := by
  obtain ⟨key, signature, hspells, -, hdata⟩ := h
  obtain ⟨key', signature', hspells', -, hdata'⟩ := h'
  rw [hdata, List.append_assoc, List.append_assoc] at hdata'
  have hkey := List.append_inj hdata' (by rw [key.length_toList, key'.length_toList])
  have hrest := List.append_inj hkey.2 (by rw [signature.length_toList, signature'.length_toList])
  have hkeys : key = key' := Octets.ext hkey.1
  have hsignatures : signature = signature' := Octets.ext hrest.1
  subst hkeys hsignatures
  exact ⟨key, signature, hspells, hspells', Octets.ext hrest.2⟩

/-- Positions below `2 ^ 256` have numbers of their own. -/
theorem leafNumber_inj {i j : Nat} (hi : i < 2 ^ 256) (hj : j < 2 ^ 256)
    (h : leafNumber i = leafNumber j) : i = j := by
  have hnat := congrArg BitVec.toNat h
  simp only [leafNumber, BitVec.toNat_ofNat] at hnat
  rwa [Nat.mod_eq_of_lt hi, Nat.mod_eq_of_lt hj] at hnat

/-- **Leaves that are numbered by their positions come back in order**: a permutation of them that is
    numbered so too is the same list. -/
theorem eq_of_perm_of_numbered {leaves leaves' : List Leaf} (hperm : leaves.Perm leaves')
    (hnumber : ∀ i (hi : i < leaves.length), leaves[i].index = leafNumber i)
    (hnumber' : ∀ i (hi : i < leaves'.length), leaves'[i].index = leafNumber i)
    (hlength : leaves.length ≤ 2 ^ 256) : leaves = leaves' := by
  have hsame := hperm.length_eq
  refine List.ext_getElem hsame fun i hi hi' => ?_
  obtain ⟨j, hj, hget⟩ := List.getElem_of_mem (hperm.mem_iff.mp (List.getElem_mem hi))
  have hindex : leafNumber j = leafNumber i := by
    rw [← hnumber' j hj, ← hnumber i hi, hget]
  obtain rfl := leafNumber_inj (by omega) (by omega) hindex
  exact hget.symm

namespace Roster

/-- The byte strings that are hashed for the deposit roots of a roster. -/
def depositsHashed (d : Roster) : List Bytes :=
  d.validators.flatMap fun v =>
    match decodeField 48 "pubkey" v.publicKey, decodeField 96 "signature" v.signature with
    | .ok key, .ok signature => depositHashed key d.credentials d.amount signature
    | _, _ => []

variable {vault : Address} {entries : List Entry} {d : Roster}

/-- **What a roster is built from.** -/
theorem ofEntries?_eq_ok (h : ofEntries? vault amount entries = .ok d) :
    d.credentials = withdrawalCredentials vault ∧ d.amount = amount ∧
      d.validators = (entries.zipIdx.map fun (e, i) => Validator.ofEntry i e) ∧
      leavesOf d.credentials d.amount d.validators = .ok d.tree.leaves ∧
      d.tree.Grown := by
  unfold ofEntries? at h
  dsimp only at h
  split at h
  · cases h
  next leaves hleaves =>
  split at h
  · cases h
  next tree htree =>
  cases h
  refine ⟨rfl, rfl, rfl, ?_, Tree.grown_of_ofLeaves? htree⟩
  rw [(Tree.ofLeaves?_eq_ok htree).1]
  exact hleaves

theorem leaves_committed (h : ofEntries? vault amount entries = .ok d) :
    d.tree.leaves.length = entries.length ∧
      ∀ i (hi : i < entries.length) (hi' : i < d.tree.leaves.length),
        Committed (withdrawalCredentials vault) amount i entries[i] d.tree.leaves[i] := by
  obtain ⟨hcredentials, hamount, hvalidators, hleaves, -⟩ := ofEntries?_eq_ok h
  rw [hcredentials, hamount, hvalidators] at hleaves
  simpa using leavesOf_eq_ok hleaves

/-- What is hashed for the deposit root of an entry. -/
theorem depositHashed_subset (h : ofEntries? vault amount entries = .ok d) {e : Entry}
    (he : e ∈ entries) {key : Octets 48} {signature : Octets 96} (hspells : e.Spells key signature) :
    depositHashed key (withdrawalCredentials vault) amount signature ⊆ d.depositsHashed := by
  obtain ⟨hcredentials, hamount, hvalidators, -, -⟩ := ofEntries?_eq_ok h
  obtain ⟨i, hi, hget⟩ := List.getElem_of_mem he
  intro b hb
  refine List.mem_flatMap.mpr ⟨Validator.ofEntry i e, ?_, ?_⟩
  · rw [hvalidators]
    refine List.mem_map.mpr ⟨(e, i), ?_, rfl⟩
    rw [List.mem_zipIdx_iff_getElem?, List.getElem?_eq_getElem hi, hget]
  · simp only [Validator.ofEntry, hspells.1, hspells.2, hcredentials, hamount]
    exact hb

/-- **The root of a roster binds all it commits to**: the vault, the amount, the number of entries, and
    at every position the key and the signature, unless two byte strings collide that were hashed for
    one of the two rosters. A leaf has a number of 256 bits, so that a list of entries may not have
    more than that. -/
theorem binding_of_root_eq {vault' : Address} {amount' : UInt64} {entries' : List Entry} {d' : Roster}
    (h : ofEntries? vault amount entries = .ok d) (h' : ofEntries? vault' amount' entries' = .ok d')
    (hlength : entries.length ≤ 2 ^ 256) (hroot : d.root = d'.root) :
    (vault = vault' ∧ amount = amount' ∧
      List.Forall₂ (fun e e' => ∃ key signature, e.Spells key signature ∧ e'.Spells key signature)
        entries entries') ∨
      Collides keccak256 (d.tree.hashed ++ d'.tree.hashed) ∨
      Collides sha256 (d.depositsHashed ++ d'.depositsHashed) := by
  by_cases hkeccak : Collides keccak256 (d.tree.hashed ++ d'.tree.hashed)
  · exact .inr (.inl hkeccak)
  by_cases hsha : Collides sha256 (d.depositsHashed ++ d'.depositsHashed)
  · exact .inr (.inr hsha)
  left
  obtain ⟨-, -, -, -, hgrown⟩ := ofEntries?_eq_ok h
  obtain ⟨-, -, -, -, hgrown'⟩ := ofEntries?_eq_ok h'
  obtain ⟨hcount, hleaves⟩ := leaves_committed h
  obtain ⟨hcount', hleaves'⟩ := leaves_committed h'
  have hsame : d.tree.leaves = d'.tree.leaves := by
    refine eq_of_perm_of_numbered (hgrown.leaves_perm_of_root_eq hgrown' hroot hkeccak) ?_ ?_ ?_
    · intro i hi
      obtain ⟨_, _, -, hindex, -⟩ := hleaves i (by omega) hi
      exact hindex
    · intro i hi
      obtain ⟨_, _, -, hindex, -⟩ := hleaves' i (by omega) hi
      exact hindex
    · omega
  rw [← hsame] at hcount' hleaves'
  have hagree : ∀ i (hi : i < entries.length) (hi' : i < entries'.length),
      ∃ key signature, entries[i].Spells key signature ∧ entries'[i].Spells key signature ∧
        depositRoot key (withdrawalCredentials vault) amount signature
          = depositRoot key (withdrawalCredentials vault') amount' signature :=
    fun i hi hi' => (hleaves i hi (by omega)).agree (hleaves' i hi' (by omega))
  -- A roster has an entry, and one deposit root is enough for the vault and the amount.
  have hpos : 0 < entries.length := by
    rw [← hcount]
    exact d.tree.size_pos
  obtain ⟨key, signature, hspells, hspells', hdeposit⟩ := hagree 0 hpos (by omega)
  have hin := depositHashed_subset h (List.getElem_mem hpos) hspells
  have hin' := depositHashed_subset h' (List.getElem_mem (by omega)) hspells'
  obtain ⟨hcredentials, hamount⟩ := depositRoot_inj hsha
    (fun b hb => List.mem_append_left _ (hin hb)) (fun b hb => List.mem_append_right _ (hin' hb))
    hdeposit
  refine ⟨withdrawalCredentials_injective hcredentials, hamount, ?_⟩
  refine List.forall₂_iff_get.mpr ⟨by omega, fun i hi hi' => ?_⟩
  obtain ⟨key, signature, hspells, hspells', -⟩ := hagree i hi hi'
  exact ⟨key, signature, hspells, hspells'⟩

section Spelling

variable {entries' : List Entry} {deposits : List (Octets 48 × Octets 96)}

/-- **Entries that spell keys and signatures have a roster**, the tree over the leaves of these. -/
theorem exists_ofEntries?_of_spells (vault : Address) (amount : UInt64) (hne : entries ≠ [])
    (hspells : List.Forall₂ (fun e x => Entry.Spells e x.1 x.2) entries deposits) :
    ∃ t, Tree.ofLeaves? (numberedLeaves (withdrawalCredentials vault) amount deposits 0) = .ok t ∧
      ofEntries? vault amount entries
        = .ok ⟨withdrawalCredentials vault, amount,
            entries.zipIdx.map fun (e, i) => Validator.ofEntry i e, t⟩ := by
  have hleaves : leavesOf (withdrawalCredentials vault) amount
      (entries.zipIdx.map fun (e, i) => Validator.ofEntry i e) = .ok _ := leavesOf_of_spells hspells 0
  have hsome : numberedLeaves (withdrawalCredentials vault) amount deposits 0 ≠ [] := by
    cases hspells with
    | nil => exact absurd rfl hne
    | cons _ _ => exact List.cons_ne_nil _ _
  obtain ⟨t, ht⟩ := Tree.exists_ofLeaves? hsome
  refine ⟨t, ht, ?_⟩
  simp only [ofEntries?, hleaves, ht]

/-- Two lists of entries that spell the same keys and signatures have the same root. -/
theorem exists_root_eq_of_spells (hne : entries ≠ [])
    (hspells : List.Forall₂ (fun e x => Entry.Spells e x.1 x.2) entries deposits)
    (hspells' : List.Forall₂ (fun e x => Entry.Spells e x.1 x.2) entries' deposits) :
    ∃ d d', ofEntries? vault amount entries = .ok d ∧ ofEntries? vault amount entries' = .ok d' ∧
      d.root = d'.root := by
  have hne' : entries' ≠ [] := by
    cases hspells' with
    | nil =>
      cases hspells
      exact absurd rfl hne
    | cons _ _ => exact List.cons_ne_nil _ _
  obtain ⟨t, ht, h⟩ := exists_ofEntries?_of_spells vault amount hne hspells
  obtain ⟨t', ht', h'⟩ := exists_ofEntries?_of_spells vault amount hne' hspells'
  obtain rfl : t = t' := Except.ok.inj (ht.symm.trans ht')
  exact ⟨_, _, h, h', rfl⟩

end Spelling

/-- Two deposits, each of them written without a marker in one list and with a marker in the other. -/
theorem binding_of_root_eq_spellings :
    let key : Octets 48 := .replicate 48 0xaa
    let signature : Octets 96 := .replicate 96 0xbb
    let key' : Octets 48 := .replicate 48 0xcc
    let signature' : Octets 96 := .replicate 96 0xdd
    let marked (key : Octets 48) (signature : Octets 96) : Entry :=
      ⟨Hex.ofOctets key, Hex.ofOctets signature⟩
    let unmarked (key : Octets 48) (signature : Octets 96) : Entry :=
      ⟨String.ofList (Hex.encode key.toList), String.ofList (Hex.encode signature.toList)⟩
    let entries := [unmarked key signature, marked key' signature']
    let others := [marked key signature, unmarked key' signature']
    let vault : Address := .replicate 20 0x42
    ∃ d d', ofEntries? vault 32000000000 entries = .ok d ∧
      ofEntries? vault 32000000000 others = .ok d' ∧ entries.length ≤ 2 ^ 256 ∧
      d.root = d'.root ∧
      ((vault = vault ∧ (32000000000 : UInt64) = 32000000000 ∧
        List.Forall₂ (fun e e' => ∃ key signature, e.Spells key signature ∧ e'.Spells key signature)
          entries others) ∨
        Collides keccak256 (d.tree.hashed ++ d'.tree.hashed) ∨
        Collides sha256 (d.depositsHashed ++ d'.depositsHashed)) := by
  intro key signature key' signature' marked unmarked entries others vault
  have hspells : List.Forall₂ (fun e x => Entry.Spells e x.1 x.2) entries
      [(key, signature), (key', signature')] :=
    .cons (Entry.spells_unmarked key signature) (.cons (Entry.spells_marked key' signature') .nil)
  have hspells' : List.Forall₂ (fun e x => Entry.Spells e x.1 x.2) others
      [(key, signature), (key', signature')] :=
    .cons (Entry.spells_marked key signature) (.cons (Entry.spells_unmarked key' signature') .nil)
  obtain ⟨d, d', hd, hd', hroot⟩ : ∃ d d', ofEntries? vault 32000000000 entries = .ok d ∧
      ofEntries? vault 32000000000 others = .ok d' ∧ d.root = d'.root :=
    exists_root_eq_of_spells (List.cons_ne_nil _ _) hspells hspells'
  have hlength : entries.length ≤ 2 ^ 256 := by
    have htwo : 2 ^ 1 ≤ 2 ^ 256 := Nat.pow_le_pow_right Nat.two_pos (by decide)
    exact htwo
  exact ⟨d, d', hd, hd', hlength, hroot, binding_of_root_eq hd hd' hlength hroot⟩

end Roster

end Registrar.Deposit
