import Mathlib.Data.List.Nodup
import Registrar.Merkle.Dump
import Registrar.Proofs.Deposit.Spelling
import Registrar.Proofs.Merkle.Completeness

/-!
# Rosters that were built apart

Two parties that read the same deposits, each from a text of its own, have the same tree. What one of
them proves of a batch of its validators the other one accepts.

## Contents

- `Roster.Built`, what holds of every roster, with `built_of_ofEntries?`;
- `batchProof_eq_unknown`, `Built.batchProof_eq_duplicated` and `Built.exists_batchProof`: what a batch
  is answered;
- `Built.verify_batchProofOf`: any roster over the same tree accepts what a batch is answered;
- `ofEntries?_of_alike` and `agree_of_alike`.
-/

namespace Registrar.Deposit

open Merkle

namespace Roster

variable {d : Roster} {batch : List Validator} {v : Validator}

/-! ## Validators and their leaves -/

/-- The leaf of a validator: its encoding under the number of its position. -/
def Commits (d : Roster) (v : Validator) (leaf : Leaf) : Prop :=
  d.encode v = .ok leaf.data ∧ leaf.index = leafNumber v.index

/-- Every leaf of a roster is that of the validator at its position, which carries its position. -/
structure Built (d : Roster) : Prop where
  grown : d.tree.Grown
  leaves : List.Forall₂ d.Commits d.validators d.tree.leaves
  numbered : ∀ i (v : Validator), d.validators[i]? = some v → v.index = i

theorem forall₂_of_leavesOf {validators : List Validator} {leaves : List Leaf}
    (h : leavesOf d.credentials d.amount validators = .ok leaves) :
    List.Forall₂ d.Commits validators leaves := by
  induction validators generalizing leaves with
  | nil =>
    cases h
    exact .nil
  | cons v validators ih =>
    simp only [leavesOf] at h
    split at h
    · cases h
    next data hdata =>
    split at h
    · cases h
    next rest hrest =>
    cases h
    refine .cons ⟨?_, rfl⟩ (ih hrest)
    rw [encode, hdata]

theorem built_of_ofEntries? {vault : Address} {amount : UInt64} {entries : List Entry}
    (h : ofEntries? vault amount entries = .ok d) : d.Built := by
  obtain ⟨-, -, hvalidators, hleaves, hgrown⟩ := ofEntries?_eq_ok h
  refine ⟨hgrown, forall₂_of_leavesOf hleaves, fun i v hv => ?_⟩
  rw [hvalidators, List.getElem?_map] at hv
  obtain ⟨⟨e, j⟩, hget, rfl⟩ := Option.map_eq_some_iff.mp hv
  rw [List.getElem?_zipIdx] at hget
  obtain ⟨e', -, heq⟩ := Option.map_eq_some_iff.mp hget
  cases heq
  exact Nat.zero_add i

theorem Built.length_validators (hd : d.Built) : d.validators.length = d.tree.size :=
  hd.leaves.length_eq

/-- A validator that is known has a leaf. -/
theorem Built.lt_size (hd : d.Built) (hknown : d.validators[v.index]? = some v) :
    v.index < d.tree.size := by
  obtain ⟨hlt, -⟩ := List.getElem?_eq_some_iff.mp hknown
  rw [← hd.length_validators]
  exact hlt

/-- A leaf is the encoding of the validator at its position, under the number of that position. -/
theorem Built.exists_validator (hd : d.Built) {i : Nat} {leaf : Leaf}
    (h : d.tree.leaves[i]? = some leaf) :
    (∃ v, d.validators[i]? = some v ∧ d.encode v = .ok leaf.data) ∧ leaf.index = leafNumber i := by
  obtain ⟨hi, hleaf⟩ := List.getElem?_eq_some_iff.mp h
  obtain ⟨hlength, hget⟩ := List.forall₂_iff_get.mp hd.leaves
  have hi' : i < d.validators.length := by
    rw [hlength]
    exact hi
  have hv := List.getElem?_eq_getElem hi'
  obtain ⟨hencode, hindex⟩ := hget i hi' hi
  rw [List.get_eq_getElem, List.get_eq_getElem] at hencode hindex
  rw [hleaf] at hencode hindex
  rw [hd.numbered i _ hv] at hindex
  exact ⟨⟨_, hv, hencode⟩, hindex⟩

theorem knows_iff : d.knows v = true ↔ d.validators[v.index]? = some v := by
  rw [knows, decide_eq_true_eq]

/-- A validator that is known has its siblings. -/
theorem Built.proof_eq_ok (hd : d.Built) (hknown : d.validators[v.index]? = some v) :
    d.proof v = .ok (d.tree.nodesAt (Position.siblings (d.tree.place v.index))) := by
  have hproof : d.tree.proof? v.index
      = .ok (d.tree.nodesAt (Position.siblings (d.tree.place v.index))) := by
    rw [Tree.proof?, if_pos (hd.lt_size hknown)]
  rw [proof, if_pos (knows_iff.mpr hknown), hproof]

/-! ## Batches -/

/-- The first record that is not the roster's own is named. -/
theorem batchProof_eq_unknown {before after : List Validator}
    (hbefore : ∀ w ∈ before, d.validators[w.index]? = some w)
    (hv : d.validators[v.index]? ≠ some v) :
    d.batchProof (before ++ v :: after) = .error (.unknown v.publicKey) := by
  have hfind : (before ++ v :: after).find? (fun w => !d.knows w) = some v := by
    rw [List.find?_append, List.find?_eq_none.mpr, Option.none_or, List.find?_cons_of_pos]
    · rw [Bool.not_eq_true', ← Bool.not_eq_true, knows_iff]
      exact hv
    · intro w hw
      rw [knows_iff.mpr (hbefore w hw)]
      exact Bool.false_ne_true
  rw [batchProof, hfind]

/-- The proof for a batch, from that of the tree. -/
def batchProofOf (q : MultiProof) : BatchProof where
  encodings := q.leaves.map (·.data)
  proof := q.proof
  flags := q.flags
  positions := q.indices.map UInt64.ofNat

theorem batchProof_of_known (hknown : ∀ v ∈ batch, d.validators[v.index]? = some v) :
    d.batchProof batch = match d.tree.multiProof (batch.map (·.index)) with
      | .error fault => .error (.tree fault)
      | .ok q => .ok (batchProofOf q) := by
  have hnone : batch.find? (fun v => !d.knows v) = none := by
    refine List.find?_eq_none.mpr fun v hv => ?_
    rw [knows_iff.mpr (hknown v hv)]
    exact Bool.false_ne_true
  rw [batchProof, hnone]
  rfl

/-- Records that are known differ in their positions. -/
theorem eq_of_index_eq {w : Validator} (hv : d.validators[v.index]? = some v)
    (hw : d.validators[w.index]? = some w) (h : v.index = w.index) : v = w := by
  rw [h, hw] at hv
  exact (Option.some.inj hv).symm

theorem nodup_index_iff (hknown : ∀ v ∈ batch, d.validators[v.index]? = some v) :
    (batch.map (·.index)).Nodup ↔ batch.Nodup := by
  constructor
  · exact List.Nodup.of_map _
  · intro h
    exact h.map_on fun v hv w hw heq => eq_of_index_eq (hknown v hv) (hknown w hw) heq

theorem count_index (hknown : ∀ v ∈ batch, d.validators[v.index]? = some v) (hv : v ∈ batch) :
    (batch.map (·.index)).count v.index = batch.count v := by
  rw [List.count_eq_countP, List.countP_map, List.count_eq_countP]
  refine List.countP_congr fun w hw => ?_
  simp only [Function.comp_apply, beq_iff_eq]
  constructor
  · exact eq_of_index_eq (hknown w hw) (hknown v hv)
  · rintro rfl
    rfl

theorem Built.forall_mem_index_lt (hd : d.Built)
    (hknown : ∀ v ∈ batch, d.validators[v.index]? = some v) :
    ∀ i ∈ batch.map (·.index), i < d.tree.size := by
  intro i hi
  obtain ⟨v, hv, rfl⟩ := List.mem_map.mp hi
  exact hd.lt_size (hknown v hv)

/-- The record that is named as repeated is so. -/
theorem Built.batchProof_eq_duplicated (hd : d.Built)
    (hknown : ∀ v ∈ batch, d.validators[v.index]? = some v) (hrepeated : ¬ batch.Nodup) :
    ∃ v, 1 < batch.count v ∧ d.batchProof batch = .error (.tree (.duplicated v.index)) := by
  have hlt := hd.forall_mem_index_lt hknown
  obtain ⟨i, hcount, hproof⟩ := Tree.multiProof_eq_duplicated hlt
    fun hnodup => hrepeated ((nodup_index_iff hknown).mp hnodup)
  have hmem : i ∈ batch.map (·.index) := List.count_pos_iff.mp (by omega)
  obtain ⟨v, hv, rfl⟩ := List.mem_map.mp hmem
  refine ⟨v, ?_, ?_⟩
  · rw [← count_index hknown hv]
    exact hcount
  · rw [batchProof_of_known hknown, hproof]

/-- **Records that are known and do not repeat have one proof in whatever order they come.** -/
theorem Built.exists_batchProof (hd : d.Built)
    (hknown : ∀ v ∈ batch, d.validators[v.index]? = some v) (hnodup : batch.Nodup) :
    ∃ q, d.tree.Exact (batch.map (·.index)) q ∧
      ∀ other : List Validator, other.Perm batch → d.batchProof other = .ok (batchProofOf q) := by
  have hlt := hd.forall_mem_index_lt hknown
  have hnodup' := (nodup_index_iff hknown).mpr hnodup
  refine ⟨_, Tree.exact_proofOf hd.grown hlt hnodup', fun other hperm => ?_⟩
  have hindices := hperm.map (·.index)
  have hproof : d.tree.multiProof (other.map (·.index))
      = .ok (d.tree.proofOf (d.tree.byPlace (batch.map (·.index)))) := by
    rw [← Tree.byPlace_eq_of_perm hlt hnodup' hindices]
    exact Tree.multiProof_eq_ok (fun i hi => hlt i (hindices.mem_iff.mp hi))
      (hindices.nodup_iff.mpr hnodup')
  rw [batchProof_of_known fun v hv => hknown v (hperm.mem_iff.mp hv), hproof]

/-! ## Checking a batch -/

section Checking

variable {q : MultiProof}

/-- Positions that fit into 64 bits are the indices that were asked for. -/
theorem map_toNat_positions (hsmall : ∀ i ∈ q.indices, i < UInt64.size) :
    (batchProofOf q).positions.map UInt64.toNat = q.indices := by
  show (q.indices.map UInt64.ofNat).map UInt64.toNat = q.indices
  rw [List.map_map]
  conv_rhs => rw [← List.map_id q.indices]
  exact List.map_congr_left fun i hi => UInt64.toNat_ofNat_of_lt (hsmall i hi)

/-- The leaves of a batch are found at its positions. -/
theorem forall₂_positions {indices : List Nat} (hq : d.tree.Exact indices q)
    (hsmall : ∀ i ∈ q.indices, i < UInt64.size) :
    List.Forall₂ (fun leaf position => d.tree.leaves[position.toNat]? = some leaf)
      q.leaves (batchProofOf q).positions := by
  have hleaves := hq.leaves_eq
  rw [← map_toNat_positions hsmall, ← List.forall₂_eq_eq_eq, List.forall₂_map_left_iff,
    List.forall₂_map_right_iff, List.forall₂_map_right_iff] at hleaves
  exact hleaves.imp fun _ _ heq => heq.symm

theorem zipWith_claimed {leaves : List Leaf} {positions : List UInt64}
    (h : List.Forall₂ (fun leaf position => leaf.index = leafNumber position.toNat)
      leaves positions) :
    (leaves.map (·.data)).zipWith (fun data position => ⟨data, leafNumber position.toNat⟩) positions
      = leaves := by
  induction h with
  | nil => rfl
  | cons hhead _ ih =>
    rw [List.map_cons, List.zipWith_cons_cons, ih, ← hhead]

/-- A verifier hashes the very leaves that were proved. -/
theorem Built.claimedLeaves_batchProofOf (hd : d.Built) {indices : List Nat}
    (hq : d.tree.Exact indices q) (hsmall : ∀ i ∈ q.indices, i < UInt64.size) :
    claimedLeaves (batchProofOf q) = q.leaves :=
  zipWith_claimed ((forall₂_positions hq hsmall).imp fun _ _ h => (hd.exists_validator h).2)

/-- **Any roster over the same tree accepts the proof.** -/
theorem Built.verify_batchProofOf (hd : d.Built) {d' : Roster} (htree : d'.tree = d.tree)
    {indices : List Nat} (hq : d.tree.Exact indices q)
    (hsmall : ∀ i ∈ q.indices, i < UInt64.size) : d'.verify (batchProofOf q) = .ok true := by
  have hroot : rootOf ((claimedLeaves (batchProofOf q)).map (·.hash)) (batchProofOf q).proof
      (batchProofOf q).flags = .ok d.tree.root := by
    rw [hd.claimedLeaves_batchProofOf hq hsmall]
    exact Tree.verifyMulti_eq_true hq.accepted
  rw [verify, hroot, root, htree]
  simp

end Checking

/-! ## Two rosters -/

variable {vault : Address} {amount : UInt64} {entries entries' : List Entry}

/-- **Entries of the same bytes have rosters that differ in their texts only.** -/
theorem ofEntries?_of_alike (halike : List.Forall₂ Entry.Alike entries entries')
    (h : ofEntries? vault amount entries = .ok d) :
    ofEntries? vault amount entries'
      = .ok { d with validators := entries'.zipIdx.map fun (e, i) => Validator.ofEntry i e } := by
  unfold ofEntries? at h ⊢
  dsimp only at h ⊢
  split at h
  · cases h
  next leaves hleaves =>
  split at h
  · cases h
  next tree htree =>
  cases h
  rw [leavesOf_of_alike halike hleaves]
  dsimp only
  rw [htree]

/-- A validator and the one at its position in another roster over the same tree have the same encoding
    and the same siblings. -/
theorem Built.forall₂_validators {d' : Roster} (hd : d.Built) (hd' : d'.Built)
    (htree : d'.tree = d.tree) :
    List.Forall₂ (fun v v' => ∃ data siblings, d.encode v = .ok data ∧ d'.encode v' = .ok data ∧
      d.proof v = .ok siblings ∧ d'.proof v' = .ok siblings) d.validators d'.validators := by
  have hlength := hd.length_validators
  have hlength' := hd'.length_validators
  rw [htree] at hlength'
  refine List.forall₂_iff_get.mpr ⟨by rw [hlength, hlength'], fun i hi hi' => ?_⟩
  rw [List.get_eq_getElem, List.get_eq_getElem]
  have hv := List.getElem?_eq_getElem hi
  have hv' := List.getElem?_eq_getElem hi'
  have hleaf := Tree.leaves_getElem?_eq (show i < d.tree.size by omega)
  have hleaf' := hleaf
  rw [← htree] at hleaf'
  obtain ⟨⟨w, hw, hencode⟩, -⟩ := hd.exists_validator hleaf
  obtain ⟨⟨w', hw', hencode'⟩, -⟩ := hd'.exists_validator hleaf'
  rw [hv] at hw
  rw [hv'] at hw'
  obtain rfl := Option.some.inj hw
  obtain rfl := Option.some.inj hw'
  have hindex := hd.numbered i _ hv
  have hindex' := hd'.numbered i _ hv'
  have hproof := hd.proof_eq_ok (show d.validators[d.validators[i].index]? = some _ by rw [hindex, hv])
  have hproof' := hd'.proof_eq_ok
    (show d'.validators[d'.validators[i].index]? = some _ by rw [hindex', hv'])
  rw [hindex] at hproof
  rw [hindex', htree] at hproof'
  rw [htree] at hencode'
  exact ⟨_, _, hencode, hencode', hproof, hproof'⟩

/-- **Two parties that read the same bytes agree**: both have a roster or neither has, with one root, one
    dump, and the same encoding and siblings at every position. Of a batch one of them names the first
    record that is not its own, or else a record that repeats, or else gives one proof whatever the
    order, which lists the batch and which the other one accepts. Positions have 64 bits. -/
theorem agree_of_alike (halike : List.Forall₂ Entry.Alike entries entries') :
    ((∃ d, ofEntries? vault amount entries = .ok d) ↔
      ∃ d', ofEntries? vault amount entries' = .ok d') ∧
    ∀ d d', ofEntries? vault amount entries = .ok d → ofEntries? vault amount entries' = .ok d' →
      d.root = d'.root ∧ d.tree.dump = d'.tree.dump ∧
      (∀ i, d.tree.proof? i = d'.tree.proof? i) ∧
      List.Forall₂ (fun v v' => ∃ data siblings, d.encode v = .ok data ∧ d'.encode v' = .ok data ∧
        d.proof v = .ok siblings ∧ d'.proof v' = .ok siblings) d.validators d'.validators ∧
      (∀ before v after, (∀ w ∈ before, d.validators[w.index]? = some w) →
        d.validators[v.index]? ≠ some v →
          d.batchProof (before ++ v :: after) = .error (.unknown v.publicKey)) ∧
      ∀ batch : List Validator, (∀ v ∈ batch, d.validators[v.index]? = some v) →
        (¬ batch.Nodup → ∃ v, 1 < batch.count v ∧
          d.batchProof batch = .error (.tree (.duplicated v.index))) ∧
        (batch.Nodup → ∃ p,
          (∀ other : List Validator, other.Perm batch → d.batchProof other = .ok p) ∧
          ((∀ v ∈ batch, v.index < UInt64.size) →
            (p.positions.map UInt64.toNat).Perm (batch.map (·.index)) ∧
            List.Forall₂ (fun data position => ∃ v, d.validators[position.toNat]? = some v ∧
              d.encode v = .ok data) p.encodings p.positions ∧
            d'.verify p = .ok true)) := by
  have hback : List.Forall₂ Entry.Alike entries' entries :=
    (halike.imp fun _ _ h => h.symm).flip
  constructor
  · constructor
    · rintro ⟨d, h⟩
      exact ⟨_, ofEntries?_of_alike halike h⟩
    · rintro ⟨d', h⟩
      exact ⟨_, ofEntries?_of_alike hback h⟩
  intro d d' h h'
  have hd := built_of_ofEntries? h
  have hd' := built_of_ofEntries? h'
  -- All that differs are the texts that the validators carry.
  have htree : d'.tree = d.tree := by
    have hsame := (ofEntries?_of_alike halike h).symm.trans h'
    rw [← Except.ok.inj hsame]
  refine ⟨?_, ?_, fun i => ?_, hd.forall₂_validators hd' htree, ?_, fun batch hknown => ⟨?_, ?_⟩⟩
  · rw [root, root, htree]
  · rw [htree]
  · rw [htree]
  · intro before v after hbefore hv
    exact batchProof_eq_unknown hbefore hv
  · exact hd.batchProof_eq_duplicated hknown
  · intro hnodup
    obtain ⟨q, hq, hproof⟩ := hd.exists_batchProof hknown hnodup
    refine ⟨batchProofOf q, hproof, fun hindex => ?_⟩
    have hsmall : ∀ i ∈ q.indices, i < UInt64.size := by
      intro i hi
      obtain ⟨v, hv, rfl⟩ := List.mem_map.mp (hq.perm.mem_iff.mp hi)
      exact hindex v hv
    refine ⟨?_, ?_, hd.verify_batchProofOf htree hq hsmall⟩
    · rw [map_toNat_positions hsmall]
      exact hq.perm
    · refine List.forall₂_map_left_iff.mpr ((forall₂_positions hq hsmall).imp fun leaf i hleaf => ?_)
      exact (hd.exists_validator hleaf).1

/-- Two deposits, written without a marker and in capitals. A batch that lists them from the last one to the
    first has one proof; the other party's records are not the roster's own. -/
theorem agree_of_alike_capitals :
    let key : Octets 48 := .replicate 48 0xaa
    let signature : Octets 96 := .replicate 96 0xbb
    let key' : Octets 48 := .replicate 48 0xcc
    let signature' : Octets 96 := .replicate 96 0xdd
    let unmarked (key : Octets 48) (signature : Octets 96) : Entry :=
      ⟨String.ofList (Hex.encode key.toList), String.ofList (Hex.encode signature.toList)⟩
    let capitals (key : Octets 48) (signature : Octets 96) : Entry :=
      ⟨String.ofList ((Hex.ofOctets key).toList.map Char.toUpper),
        String.ofList ((Hex.ofOctets signature).toList.map Char.toUpper)⟩
    let entries := [unmarked key signature, unmarked key' signature']
    let others := [capitals key signature, capitals key' signature']
    let batch := [Validator.ofEntry 1 (unmarked key' signature'), .ofEntry 0 (unmarked key signature)]
    let foreign := Validator.ofEntry 1 (capitals key' signature')
    let vault : Address := .replicate 20 0x42
    List.Forall₂ Entry.Alike entries others ∧
      ∃ d d' p, ofEntries? vault 32000000000 entries = .ok d ∧
        ofEntries? vault 32000000000 others = .ok d' ∧ d.root = d'.root ∧
        d.batchProof batch = .ok p ∧ d.batchProof batch.reverse = .ok p ∧ d'.verify p = .ok true ∧
        d.batchProof (batch ++ [foreign]) = .error (.unknown foreign.publicKey) := by
  intro key signature key' signature' unmarked capitals entries others batch foreign vault
  have hspells : ∀ key signature, (unmarked key signature).Spells key signature :=
    fun key signature => Entry.spells_unmarked key signature
  have hspells' : ∀ key signature, (capitals key signature).Spells key signature := by
    intro key signature
    obtain ⟨hkey, hsignature⟩ := Entry.spells_iff.mp (Entry.spells_marked key signature)
    refine Entry.spells_iff.mpr ⟨?_, ?_⟩
    · rw [← hkey]
      exact bytesOf?_upper _
    · rw [← hsignature]
      exact bytesOf?_upper _
  have halike : ∀ key signature, (unmarked key signature).Alike (capitals key signature) := by
    intro key signature
    obtain ⟨hkey, hsignature⟩ := Entry.spells_iff.mp (hspells key signature)
    obtain ⟨hkey', hsignature'⟩ := Entry.spells_iff.mp (hspells' key signature)
    exact ⟨hkey.trans hkey'.symm, hsignature.trans hsignature'.symm⟩
  have halikes : List.Forall₂ Entry.Alike entries others :=
    .cons (halike key signature) (.cons (halike key' signature') .nil)
  have hlist : List.Forall₂ (fun e x => Entry.Spells e x.1 x.2) entries
      [(key, signature), (key', signature')] :=
    .cons (hspells key signature) (.cons (hspells key' signature') .nil)
  have hlist' : List.Forall₂ (fun e x => Entry.Spells e x.1 x.2) others
      [(key, signature), (key', signature')] :=
    .cons (hspells' key signature) (.cons (hspells' key' signature') .nil)
  obtain ⟨d, d', h, h', -⟩ : ∃ d d', ofEntries? vault 32000000000 entries = .ok d ∧
      ofEntries? vault 32000000000 others = .ok d' ∧ d.root = d'.root :=
    exists_root_eq_of_spells (List.cons_ne_nil _ _) hlist hlist'
  obtain ⟨hroot, -, -, -, hunknown, hbatch⟩ := (agree_of_alike halikes).2 d d' h h'
  obtain ⟨-, -, hvalidators, -⟩ := ofEntries?_eq_ok h
  have hvalidators : d.validators = batch.reverse := hvalidators
  have hknown : ∀ v ∈ batch, d.validators[v.index]? = some v := by
    rw [hvalidators]
    exact List.forall_mem_cons.mpr ⟨rfl, List.forall_mem_singleton.mpr rfl⟩
  have hforeign : d.validators[foreign.index]? ≠ some foreign := by
    rw [hvalidators]
    decide +kernel
  have hnodup : batch.Nodup := by decide +kernel
  have hsmall : ∀ v ∈ batch, v.index < UInt64.size := by decide +kernel
  obtain ⟨p, hproof, hlisted⟩ := (hbatch batch hknown).2 hnodup
  obtain ⟨-, -, hverify⟩ := hlisted hsmall
  exact ⟨halikes, d, d', p, h, h', hroot, hproof _ (.refl _), hproof _ batch.reverse_perm, hverify,
    hunknown batch foreign [] hknown hforeign⟩

end Roster

end Registrar.Deposit
