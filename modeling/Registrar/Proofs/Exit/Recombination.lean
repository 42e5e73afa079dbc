import Registrar.Keystore.Keyring
import Registrar.Proofs.Curve.Multiples

/-!
# Any quorum of shards recombines

The shares of a key are values of a polynomial, the key being its value at zero. Signatures are
multiples of one point, so the Lagrange factors that take the shares back to the key take the
signatures of the shares back to the signature of the key.

## Contents

- `split_eq_ok`, what a key is split into, and `signShards_eq_map`: each share can sign;
- `combine_eq_foldl`, the sum that recombination computes, with `combine_shares`;
- `recombine_sharesOf`: enough signatures of shares recombine;
- `Keyring.recombine_exitShards`, the same for the exit of a validator.
-/

namespace Registrar

namespace Exit

/-! ## Splitting -/

theorem drawScalar?_of_take? {t rest : Tape} {bs : Bytes} (h : t.take? 32 = some (bs, rest))
    (hsmall : Bytes.toNat bs % (1 <<< 255) < groupOrder) :
    drawScalar? t = some (⟨Bytes.toNat bs % (1 <<< 255), hsmall⟩, rest) := by
  rw [drawScalar?]
  split
  · next hnone => rw [h] at hnone; cases hnone
  · next bs' rest' htake =>
    rw [h] at htake
    cases htake
    simp only [dif_pos hsmall]

theorem length_drawScalars? {n : Nat} {t t' : Tape} {ss : List Scalar}
    (h : drawScalars? n t = some (ss, t')) : ss.length = n := by
  induction n generalizing t ss with
  | zero =>
    cases h
    rfl
  | succ n ih =>
    rw [drawScalars?] at h
    split at h
    · cases h
    next s t₁ hs =>
    obtain ⟨⟨others, t₂⟩, hothers, heq⟩ := Option.map_eq_some_iff.mp h
    cases heq
    rw [List.length_cons, ih hothers]

/-- **A key is split by a polynomial** with as many coefficients as the threshold, the first of
    which is the key. -/
theorem split_eq_ok {secret : Bytes} {threshold total : Nat} {t t' : Tape} {shares : List Scalar}
    (h : split secret threshold total t = some (.ok shares, t')) :
    ∃ s coefficients, Scalar.secret? secret = some s ∧ coefficients.length + 1 = threshold ∧
      shares = sharesOf (s :: coefficients) total := by
  unfold split at h
  split at h
  · cases h
  · cases h
  next s hthreshold hs =>
  -- A threshold of zero is a fault, so there is a coefficient for the key.
  have hpos : threshold ≠ 0 := by
    rintro rfl
    cases hthreshold
  unfold splitKey at h
  split at h
  · cases h
  next coefficients t₁ hdrawn =>
  have hlength := length_drawScalars? hdrawn
  simp only at h
  split at h
  · cases h
  · cases h
    exact ⟨s, coefficients, hs, by omega, rfl⟩

/-- No share is zero. -/
theorem ne_zero_of_split {secret : Bytes} {threshold total : Nat} {t t' : Tape}
    {shares : List Scalar} (h : split secret threshold total t = some (.ok shares, t')) :
    ∀ share ∈ shares, share ≠ 0 := by
  unfold split at h
  split at h
  · cases h
  · cases h
  unfold splitKey at h
  split at h
  · cases h
  simp only at h
  split at h
  · cases h
  next hzero =>
  cases h
  intro share hshare heq
  exact hzero (List.any_eq_true.mpr ⟨share, hshare, decide_eq_true heq⟩)

theorem any_sharesOf_iff (coefficients : List Scalar) (total : Nat) :
    (sharesOf coefficients total).any (· = 0) = true
      ↔ ∃ i < total, Scalar.evaluate coefficients (abscissa i) = 0 := by
  simp [sharesOf, abscissa]

section Shards

variable (G : Type) [SignatureScheme G]

/-- The public keys of secret keys and their signatures of a message. -/
def shardsOf (shares : List Scalar) (message : Bytes) : ExitShards where
  publicKeys := shares.map (publicKeyText G)
  signatures := shares.map fun s => Hex.ofOctets (signWith G s message)

/-- Shares other than zero are secret keys. -/
theorem shardsOf?_eq_ok (message : Bytes) {shares : List Scalar} (h : ∀ share ∈ shares, share ≠ 0) :
    shardsOf? G message (shares.map Scalar.toOctets) = .ok (shardsOf G shares message) := by
  induction shares with
  | nil => rfl
  | cons share shares ih =>
    obtain ⟨hshare, hshares⟩ := List.forall_mem_cons.mp h
    have hpos : 0 < share.val := Nat.pos_of_ne_zero fun hzero => hshare (Fin.ext hzero)
    simp only [List.map_cons, shardsOf?, Scalar.secret?_toOctets hpos, ih hshares]
    rfl

/-- **Every share that a key is split into can sign**, so that only splitting can fail. -/
theorem signShards_eq_map (secret message : Bytes) (threshold total : Nat) (t : Tape) :
    signShards G secret message threshold total t
      = (split secret threshold total t).map fun (result, t) =>
          (result.map (shardsOf G · message), t) := by
  unfold signShards
  cases hsplit : split secret threshold total t with
  | none => rfl
  | some found =>
    obtain ⟨result, t'⟩ := found
    cases result with
    | error fault => rfl
    | ok shares =>
      simp only [shardsOf?_eq_ok G message (ne_zero_of_split hsplit)]
      rfl

end Shards

/-! ## Abscissas -/

theorem nodup_abscissas {indices : List Nat} (hnodup : indices.Nodup)
    (hsmall : ∀ i ∈ indices, i + 1 < groupOrder) : (indices.map abscissa).Nodup := by
  refine List.Nodup.map_on (fun i hi j hj heq => ?_) hnodup
  have hval : (i + 1) % groupOrder = (j + 1) % groupOrder := congrArg Fin.val heq
  rw [Nat.mod_eq_of_lt (hsmall i hi), Nat.mod_eq_of_lt (hsmall j hj)] at hval
  exact Nat.succ.inj hval

/-! ## Recombining -/

theorem firstRepeated_eq_none {seen indices : List Nat} (h : (seen ++ indices).Nodup) :
    firstRepeated seen indices = none := by
  induction indices generalizing seen with
  | nil => rfl
  | cons i indices ih =>
    have hi : i ∉ seen := fun hin =>
      (List.nodup_append.mp h).2.2 i hin i List.mem_cons_self rfl
    rw [firstRepeated, if_neg (by simpa using hi)]
    exact ih (by rwa [List.append_assoc, List.singleton_append])

variable {G : Type} [SignatureScheme G]

theorem decodeShares_encode (hG : SignatureScheme.Laws G) (point : Nat → G) (indices : List Nat) :
    decodeShares G (indices.map fun i => (i, SignatureScheme.encode (point i)))
      = .ok (indices.map fun i => (i, point i)) := by
  induction indices with
  | nil => rfl
  | cons i indices ih =>
    rw [List.map_cons, decodeShares, hG.decode?_encode, ih]
    rfl

/-- The factor of a share among those with the given indices. -/
def factor (indices : List Nat) (i : Nat) : Scalar :=
  Scalar.lagrange (abscissa i) ((indices.erase i).map abscissa)

/-- Where no two indices have one abscissa, it is the Lagrange factor among the abscissas. -/
theorem factor_eq {indices : List Nat} {i : Nat} (hnodup : (indices.map abscissa).Nodup)
    (hi : i ∈ indices) :
    factor indices i
      = Scalar.lagrange (abscissa i) ((indices.map abscissa).erase (abscissa i)) := by
  obtain ⟨front, rest, rfl⟩ := List.append_of_mem hi
  rw [List.map_append, List.map_cons] at hnodup
  have hfront : abscissa i ∉ front.map abscissa := by
    intro hin
    exact (List.nodup_append.mp hnodup).2.2 _ hin _ List.mem_cons_self rfl
  have hfront' : i ∉ front := by
    intro hin
    exact hfront (List.mem_map_of_mem hin)
  rw [factor, List.erase_append_right _ hfront', List.erase_cons_head, List.map_append,
    List.map_append, List.map_cons, List.erase_append_right _ hfront, List.erase_cons_head]

/-- **What recombination computes**: the points are added up, each with its factor among all of them,
    whichever were added already. -/
theorem combine_eq_foldl (before : List Nat) {points : List (Nat × G)} {sum : G}
    (hnodup : (before ++ points.map (·.1)).Nodup) :
    combine G before points sum
      = points.foldl (fun sum x => SignatureScheme.add sum
          (SignatureScheme.multiple (factor (before ++ points.map (·.1)) x.1) x.2)) sum := by
  induction points generalizing before sum with
  | nil => rfl
  | cons point points ih =>
    obtain ⟨i, p⟩ := point
    -- The index moves over to those before; all of them together stay the same.
    have hall : before ++ ((i, p) :: points).map (·.1) = before ++ [i] ++ points.map (·.1) := by
      simp
    have hothers : (before ++ [i] ++ points.map (·.1)).erase i = before ++ points.map (·.1) := by
      have hfront : i ∉ before := by
        intro hin
        exact (List.nodup_append.mp hnodup).2.2 i hin i List.mem_cons_self rfl
      rw [List.append_assoc, List.erase_append_right _ hfront, List.singleton_append,
        List.erase_cons_head]
    rw [hall] at hnodup ⊢
    rw [combine, ih (before ++ [i]) hnodup, List.foldl_cons, factor, hothers]

/-- The shares, each with its factor, add up to the key. -/
theorem sum_shares (s : Scalar) (coefficients : List Scalar) {indices : List Nat}
    (hnodup : (indices.map abscissa).Nodup) (hlength : coefficients.length < indices.length) :
    (indices.map fun i =>
        (factor indices i).toField
          * (Scalar.evaluate (s :: coefficients) (abscissa i)).toField).sum
      = s.toField := by
  have hdegree : (Scalar.polynomial (s :: coefficients)).degree < (indices.map abscissa).length := by
    refine (Scalar.degree_polynomial_lt _).trans_le ?_
    rw [List.length_map, List.length_cons]
    exact_mod_cast hlength
  have hsum := Scalar.sum_lagrange hnodup hdegree
  rw [List.map_map, Scalar.eval_zero_polynomial] at hsum
  rw [← hsum]
  refine congrArg List.sum (List.map_congr_left fun i hi => ?_)
  rw [factor_eq hnodup hi, Scalar.toField_evaluate]
  rfl

/-- The multiples of a point by shares combine into the multiple by the key. -/
theorem combine_shares (hG : SignatureScheme.Laws G) (s : Scalar) (coefficients : List Scalar)
    (p : G) {indices : List Nat} (hnodup : (indices.map abscissa).Nodup)
    (hlength : coefficients.length < indices.length) :
    combine G [] (indices.map fun i =>
        (i, SignatureScheme.multiple (Scalar.evaluate (s :: coefficients) (abscissa i)) p))
      SignatureScheme.zero = SignatureScheme.multiple s p := by
  obtain ⟨_, _, hzero, hadd, hmultiple⟩ := hG.exists_module
  have hindices : (indices.map fun i =>
      (i, SignatureScheme.multiple (Scalar.evaluate (s :: coefficients) (abscissa i)) p)).map (·.1)
        = indices := by
    rw [List.map_map]
    exact List.map_id _
  rw [combine_eq_foldl [], List.nil_append, hindices, List.foldl_map, hmultiple s p,
    ← sum_shares s coefficients hnodup hlength, List.sum_smul, List.map_map, List.sum_eq_foldl,
    List.foldl_map]
  · simp only [hzero, hadd, hmultiple, Function.comp_apply, mul_smul]
  · rw [List.nil_append, hindices]
    exact hnodup.of_map _

/-- **Enough signatures of shares recombine into the signature of the key.** -/
theorem recombine_sharesOf (hG : SignatureScheme.Laws G) (s : Scalar) (coefficients : List Scalar)
    (message : Bytes) {indices : List Nat} (hnodup : indices.Nodup)
    (hsmall : ∀ i ∈ indices, i + 1 < groupOrder) (hlength : coefficients.length < indices.length) :
    recombine G (indices.map fun i =>
        (i, signWith G (Scalar.evaluate (s :: coefficients) (abscissa i)) message))
      = .ok (signWith G s message) := by
  let point : Nat → G := fun i => SignatureScheme.multiple
    (Scalar.evaluate (s :: coefficients) (abscissa i)) (SignatureScheme.pointOf message)
  have hcombined : combine G [] (indices.map fun i => (i, point i)) SignatureScheme.zero
      = SignatureScheme.multiple s (SignatureScheme.pointOf message) :=
    combine_shares hG s coefficients _ (nodup_abscissas hnodup hsmall) hlength
  have hne : (indices.map fun i => (i, SignatureScheme.encode (point i))) ≠ [] := by
    rw [ne_eq, List.map_eq_nil_iff]
    rintro rfl
    exact absurd hlength (Nat.not_lt_zero _)
  have hfirst : firstRepeated []
      ((indices.map fun i => (i, SignatureScheme.encode (point i))).map (·.1)) = none := by
    refine firstRepeated_eq_none ?_
    rw [List.nil_append, List.map_map]
    exact (List.map_id indices).symm ▸ hnodup
  show recombine G (indices.map fun i => (i, SignatureScheme.encode (point i))) = _
  simp only [recombine, if_neg hne, hfirst, decodeShares_encode hG, hcombined, signWith]

end Exit

namespace Keystore.Keyring

variable {G : Type} [SignatureScheme G]

/-- **Any quorum of the shards of an exit recombines into its signature.** Whatever ring, exit,
    threshold and tape the shards come from, they are the texts of signatures, and those at any
    indices, in any order, recombine if there are enough of them. -/
theorem recombine_exitShards (hG : SignatureScheme.Laws G) {r : Keyring} {publicKey : String}
    {e : Exit} {threshold total : UInt64} {t t' : Tape} {shards : ExitShards}
    (h : r.exitShards G publicKey e threshold.toNat total.toNat t = some (.ok shards, t')) :
    ∃ (signatures : Fin total.toNat → Octets 96) (signature : Octets 96),
      shards.signatures = List.ofFn (fun i => Hex.ofOctets (signatures i)) ∧
      r.exitSignature G publicKey e = .ok signature ∧
      ∀ indices : List (Fin total.toNat), indices.Nodup → threshold.toNat ≤ indices.length →
        Exit.recombine G (indices.map fun i => (i.val, signatures i)) = .ok signature := by
  unfold exitShards at h
  split at h
  · cases h
  next s hs =>
  rw [Exit.signShards_eq_map] at h
  obtain ⟨⟨result, t₁⟩, hsplit, heq⟩ := Option.map_eq_some_iff.mp h
  cases result with
  | error fault => cases heq
  | ok shares =>
    cases heq
    obtain ⟨s', coefficients, hs', hthreshold, rfl⟩ := Exit.split_eq_ok hsplit
    cases Scalar.eq_of_secret?_toOctets hs'
    refine ⟨fun i => Exit.signWith G (Scalar.evaluate (s :: coefficients) (Exit.abscissa i.val))
      e.signingRoot.toList, Exit.signWith G s e.signingRoot.toList, ?_, ?_, ?_⟩
    · refine List.ext_getElem ?_ fun i hi hi' => ?_
      · simp [Exit.shardsOf, Exit.sharesOf]
      · simp [Exit.shardsOf, Exit.sharesOf, Exit.abscissa]
    · simp only [exitSignature, hs, Exit.sign, hs']
    · intro indices hnodup hlength
      have hvalues : (indices.map Fin.val).Nodup := hnodup.map Fin.val_injective
      have hsmall : ∀ i ∈ indices.map Fin.val, i + 1 < groupOrder := by
        intro i hi
        obtain ⟨j, -, rfl⟩ := List.mem_map.mp hi
        -- An index is below a machine word, which is far below the group order.
        have hword : j.val < 2 ^ 64 := j.isLt.trans total.toNat_lt
        exact Nat.lt_of_le_of_lt hword (by norm_num [groupOrder])
      have henough : coefficients.length < (indices.map Fin.val).length := by
        rw [List.length_map]
        omega
      have hrecombine := Exit.recombine_sharesOf hG s coefficients e.signingRoot.toList hvalues
        hsmall henough
      rw [List.map_map] at hrecombine
      exact hrecombine

/-- A signature from the numbers of its halves. -/
def sampleSignature (high low : Nat) : Octets 96 := .ofNat 96 (high * 2 ^ 384 + low)

/-- Public keys, and signatures of the root of one exit, with the keys 5, 12, 19 and 26. -/
def sampleListing : Listing where
  signatures := [
    (Scalar.ofNat 5, sampleSignature
      0xa4b25120274fbe05a34ec4a4bd70051182f089c8088e5e4d64f84942de219343afd8d250618c55d6a93fff3efba4811d
      0x12559ba64d6d11d61ae9244ea67df5603798ea8b84867926848bd52de7bf6cce4a4bada7c587f98a9c11e2c01b7bc931),
    (Scalar.ofNat 12, sampleSignature
      0xb9561b64c43b31f8193045ce364768fd9a2eeb40c383fb95a3a4d818624e7dcf1767890da500c1c02e5f1f52e1452783
      0x067e29e0de625e952187ec967f4062e11e7f231333d177ed0258c55d0a92cca34b60e0690139a1e5226de8dbf9edb92f),
    (Scalar.ofNat 19, sampleSignature
      0x8277b7096f118e55cf699ca20b859c910be0a4fb0f3d0364f3c82d338f5bedd5369e6154dab56a6cf46d91237ae9d1d5
      0x0915c04ba145e32b871c9b5e25014240dd353d3fd3e9f05e54b7389998eaa30816f31e8cd0c537aba33f0bac9d0a8f36),
    (Scalar.ofNat 26, sampleSignature
      0xa017a12ccdf384b8ca472e07028b250bbd1f57d6a6fe668124bb5e879400b09d69108391955b1eb4262583106afa977e
      0x19c1149fceb53b400bfd7eec71add29dab7942979dfc3faffea0e9e3992af0ebd636e13961cc0faf7f9610b418f2a86e)]
  publicKeys := [
    (Scalar.ofNat 5, .ofNat 48
      0xb0e7791fb972fe014159aa33a98622da3cdc98ff707965e536d8636b5fcc5ac7a91a8c46e59a00dca575af0f18fb13dc),
    (Scalar.ofNat 12, .ofNat 48
      0x8345dd80ffef0eaec8920e39ebb7f5e9ae9c1d6179e9129b705923df7830c67f3690cbc48649d4079eadf5397339580c),
    (Scalar.ofNat 19, .ofNat 48
      0xb271205227c7aa27f45f20b3ba380dfea8b51efae91fd32e552774c99e2a1237aa59c0c43f52aad99bba3783ea2f36a4),
    (Scalar.ofNat 26, .ofNat 48
      0x81ccc19e3b938ec2405099e90022a4218baa5082a3ca0974b24be0bc8b07e5fffaed64bef0d02c4dbfb6a307829afc5c)]

theorem sampleListing_faithful : sampleListing.Faithful where
  nodup := by decide +kernel
  large := by decide +kernel

/-- The key 5, split by the coefficient 7 into three shares, two of which are needed. -/
theorem recombine_exitShards_two_of_three :
    let publicKey := Exit.publicKeyText (Multiples sampleListing) (Scalar.ofNat 5)
    let r : Keyring := ⟨[(publicKey, Scalar.ofNat 5)]⟩
    let e : Exit := ⟨1, .zero 4, 2, .zero 32⟩
    let t : Tape := ⟨fun i => if i = 31 then 7 else 0, 0, 32⟩
    SignatureScheme.Laws (Multiples sampleListing) ∧
    ∃ shards t', r.exitShards (Multiples sampleListing) publicKey e
        (2 : UInt64).toNat (3 : UInt64).toNat t = some (.ok shards, t') ∧
      ∃ (signatures : Fin (3 : UInt64).toNat → Octets 96) (signature : Octets 96),
        shards.signatures = List.ofFn (fun i => Hex.ofOctets (signatures i)) ∧
        r.exitSignature (Multiples sampleListing) publicKey e = .ok signature ∧
        ∀ indices : List (Fin (3 : UInt64).toNat), indices.Nodup →
          (2 : UInt64).toNat ≤ indices.length →
          Exit.recombine (Multiples sampleListing) (indices.map fun i => (i.val, signatures i))
            = .ok signature := by
  intro publicKey r e t
  have hlaws : SignatureScheme.Laws (Multiples sampleListing) := Multiples.laws sampleListing_faithful
  -- The shares are 12, 19 and 26.
  let shares := Exit.sharesOf [Scalar.ofNat 5, Scalar.ofNat 7] 3
  let t' : Tape := { t with next := 32 }
  have hkey : r.secret? publicKey = some (Scalar.ofNat 5) := by
    simp [Keyring.secret?, r]
  have hdraw : Exit.drawScalars? 1 t = some ([Scalar.ofNat 7], t') := by
    have htake : t.take? 32 = some ((List.range 32).map fun i => t.byte (t.next + i), t') := rfl
    have hseven : Bytes.toNat ((List.range 32).map fun i => t.byte (t.next + i)) % (1 <<< 255) = 7 := by
      decide +kernel
    have hsmall : Bytes.toNat ((List.range 32).map fun i => t.byte (t.next + i)) % (1 <<< 255)
        < groupOrder := by
      rw [hseven]
      norm_num [groupOrder]
    rw [Exit.drawScalars?, Exit.drawScalar?_of_take? htake hsmall]
    simp only [Exit.drawScalars?, Option.map_some, hseven]
    rfl
  have hzero : shares.any (· = 0) = false := by decide +kernel
  have hsplit : Exit.split (Scalar.ofNat 5).toOctets.toList 2 3 t = some (.ok shares, t') := by
    have hfive : Scalar.secret? (Scalar.ofNat 5).toOctets.toList = some (Scalar.ofNat 5) :=
      Scalar.secret?_toOctets (by decide +kernel)
    have hthreshold : Exit.thresholdFault 2 3 = none := rfl
    simp only [Exit.split, hfive, hthreshold, Exit.splitKey, hdraw]
    rw [if_neg (by rw [hzero]; exact Bool.false_ne_true)]
  have hshards : r.exitShards (Multiples sampleListing) publicKey e
      (2 : UInt64).toNat (3 : UInt64).toNat t
      = some (.ok (Exit.shardsOf (Multiples sampleListing) shares e.signingRoot.toList), t') := by
    simp only [exitShards, hkey, Exit.signShards_eq_map]
    rw [show (2 : UInt64).toNat = 2 from rfl, show (3 : UInt64).toNat = 3 from rfl, hsplit]
    rfl
  exact ⟨hlaws, _, t', hshards, recombine_exitShards hlaws hshards⟩

end Keystore.Keyring

end Registrar
