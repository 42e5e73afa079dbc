import Registrar.Proofs.Exit.Recombination
import Registrar.Proofs.Keystore.Joining

/-!
# Loaded keys can be used

In a loaded ring every secret is a secret key, and stands under the public key that is derived from it.
So none of its keys is refused later: every exit is signed, and splitting a key fails only for a
threshold that cannot be met or when a share comes out as zero.

## Contents

- `Keyring.contains_iff`: a ring contains the public keys that it lists;
- `Keyring.Coherent`, what holds of a loaded ring, with `coherent_of_load`;
- `Exit.Shared`, what comes of splitting a key, with `Exit.shared_signShards`;
- `load_coherent`.
-/

namespace Registrar

namespace Exit

/-! ## Splitting a key -/

variable (G : Type) [SignatureScheme G]

/-- What comes of signing a message with shares of a key. The shares are the values of a polynomial, which
    has the key and the scalars that were drawn as coefficients. -/
inductive Shared (s : Scalar) (message : Bytes) (threshold total : Nat) (t : Tape) :
    Option (Except SigningFault ExitShards × Tape) → Prop where
  /-- No shares can meet the threshold. Nothing is drawn. -/
  | badThreshold (h : threshold = 0 ∨ total < threshold) :
    Shared s message threshold total t (some (.error (.badThreshold threshold total), t))
  /-- The tape ends. -/
  | exhausted (hpos : 0 < threshold) (hle : threshold ≤ total)
      (hdrawn : drawScalars? (threshold - 1) t = none) : Shared s message threshold total t none
  /-- A share is zero. -/
  | zeroShare {drawn : List Scalar} {rest : Tape} (hpos : 0 < threshold) (hle : threshold ≤ total)
      (hdrawn : drawScalars? (threshold - 1) t = some (drawn, rest))
      (hzero : ∃ i < total, Scalar.evaluate (s :: drawn) (abscissa i) = 0) :
    Shared s message threshold total t (some (.error .badSecret, rest))
  /-- Every share signs. -/
  | signed {drawn : List Scalar} {rest : Tape} (hpos : 0 < threshold) (hle : threshold ≤ total)
      (hdrawn : drawScalars? (threshold - 1) t = some (drawn, rest))
      (hshares : ∀ i < total, Scalar.evaluate (s :: drawn) (abscissa i) ≠ 0) :
    Shared s message threshold total t
      (some (.ok (shardsOf G (sharesOf (s :: drawn) total) message), rest))

variable {G}

/-- **What comes of splitting a secret key.** -/
theorem shared_signShards {secret : Bytes} {s : Scalar} (hs : Scalar.secret? secret = some s)
    (message : Bytes) (threshold total : Nat) (t : Tape) :
    Shared G s message threshold total t (signShards G secret message threshold total t) := by
  rw [signShards_eq_map]
  by_cases hfault : threshold = 0 ∨ total < threshold
  · have hsplit : split secret threshold total t = some (.error (.badThreshold threshold total), t) := by
      simp only [split, thresholdFault, if_pos hfault]
    rw [hsplit]
    exact .badThreshold hfault
  have hpos : 0 < threshold := by omega
  have hle : threshold ≤ total := by omega
  have hsplit : split secret threshold total t = splitKey s threshold total t := by
    simp only [split, thresholdFault, if_neg hfault, hs]
  rw [hsplit, splitKey]
  cases hdrawn : drawScalars? (threshold - 1) t with
  | none => exact .exhausted hpos hle hdrawn
  | some found =>
    obtain ⟨drawn, rest⟩ := found
    by_cases hzero : (sharesOf (s :: drawn) total).any (· = 0) = true
    · simp only [if_pos hzero]
      exact .zeroShare hpos hle hdrawn ((any_sharesOf_iff _ _).mp hzero)
    · simp only [if_neg hzero]
      refine .signed hpos hle hdrawn fun i hi heq => ?_
      exact hzero ((any_sharesOf_iff _ _).mpr ⟨i, hi, heq⟩)

end Exit

namespace Keystore

namespace Keyring

/-! ## Rings -/

/-- A ring contains the public keys that it lists. -/
theorem contains_iff (r : Keyring) (k : String) : r.contains k = true ↔ k ∈ r.publicKeys := by
  simp [contains, secret?, publicKeys]

theorem pairwise_publicKeys {r : Keyring} (h : r.keys.Pairwise fun a b => a.1 < b.1) :
    r.publicKeys.Pairwise (· < ·) := List.pairwise_map.mpr h

/-! ## Coherent rings -/

/-- Every secret is a secret key under the public key that is derived from it. -/
structure Coherent (G : Type) [SignatureScheme G] (r : Keyring) : Prop where
  pairwise_keys : r.keys.Pairwise fun a b => a.1 < b.1
  derived : ∀ k s, r.secret? k = some s → 0 < s.val ∧ k = Exit.publicKeyText G s

variable {G : Type} [SignatureScheme G] {r : Keyring} {k : String} {s : Scalar}

/-- The bytes of a secret derive the public key under which it stands. -/
theorem Coherent.publicKeyOf?_eq (h : r.Coherent G) (hs : r.secret? k = some s) :
    Exit.publicKeyOf? G s.toOctets.toList = some k := by
  obtain ⟨hpos, rfl⟩ := h.derived k s hs
  rw [Exit.publicKeyOf?, Scalar.secret?_toOctets hpos]
  rfl

/-- **Every exit is signed with a key of the ring.** -/
theorem Coherent.exists_exitSignature (h : r.Coherent G) (hk : r.contains k = true) (e : Exit) :
    ∃ signature, r.exitSignature G k e = .ok signature := by
  obtain ⟨s, hs⟩ := Option.isSome_iff_exists.mp hk
  refine ⟨Exit.signWith G s e.signingRoot.toList, ?_⟩
  simp only [exitSignature, hs, Exit.sign, Scalar.secret?_toOctets (h.derived k s hs).1]

theorem exitSignature_eq_unknown (hk : r.contains k = false) (e : Exit) :
    r.exitSignature G k e = .error (.unknownKey k) := by
  have hnone : r.secret? k = none := Option.isNone_iff_eq_none.mp (Option.isSome_eq_false_iff.mp hk)
  simp only [exitSignature, hnone]

/-- **What comes of signing an exit with shares of a key of the ring.** -/
theorem Coherent.shared_exitShards (h : r.Coherent G) (hs : r.secret? k = some s) (e : Exit)
    (threshold total : Nat) (t : Tape) :
    Exit.Shared G s e.signingRoot.toList threshold total t (r.exitShards G k e threshold total t) := by
  simp only [exitShards, hs]
  exact Exit.shared_signShards (Scalar.secret?_toOctets (h.derived k s hs).1) _ threshold total t

end Keyring

/-! ## Loading -/

variable {G : Type} [SignatureScheme G] {files : Workspace} {source : Source} {schedule : Schedule}
  {ring : Keyring}

/-- The keys out of files are put in order. -/
theorem pairwise_ringOfFiles (work : LockedFile → Except KeyFault (String × Scalar))
    (fs : List LockedFile) : (ringOfFiles work fs).keys.Pairwise fun a b => a.1 < b.1 := by
  unfold ringOfFiles
  refine List.foldlRecOn (motive := fun (ring : Keyring) => ring.keys.Pairwise fun a b => a.1 < b.1) fs _
    List.Pairwise.nil fun ring hring f _ => ?_
  cases work f with
  | error fault => exact hring
  | ok key => exact Keyed.pairwise_insert key.1 key.2 hring

/-- What a file opens to is a secret key. -/
theorem pos_of_openFile {f : LockedFile} {k : String} {s : Scalar}
    (h : openFile G files f = .ok (k, s)) : 0 < s.val := by
  obtain ⟨text, c, bytes, -, -, -, hs, -⟩ := openFile_eq_ok h
  exact Scalar.pos_of_secret? hs

/-- **A loaded ring is coherent.** -/
theorem coherent_of_load (hload : load G files source schedule = .ok ring) : ring.Coherent G := by
  obtain ⟨fs, hfs, -, rfl⟩ := load_eq_ok hload
  refine ⟨pairwise_ringOfFiles _ fs, fun k s hs => ?_⟩
  obtain ⟨f, -, hf, -⟩ := (secret?_ringOfFiles_iff hfs).mp hs
  exact ⟨pos_of_openFile hf, publicKey_of_openFile hf⟩

/-- **Loaded keys are coherent and can always be used.** A loaded ring lists its public keys in ascending
    order, and contains what it lists. A secret is a secret key whose bytes derive the public key. Every
    exit is signed with a key that the ring contains, and with no other. Shares of a key that the ring
    contains can fail only for a threshold that no shares can meet, for the end of the tape, or for a
    share of zero. -/
theorem load_coherent (hload : load G files source schedule = .ok ring) :
    ring.publicKeys.Pairwise (· < ·) ∧
      (∀ k, ring.contains k = true ↔ k ∈ ring.publicKeys) ∧
      (∀ k s, ring.secret? k = some s → Exit.publicKeyOf? G s.toOctets.toList = some k ∧
        0 < s.val ∧ Bytes.toNat s.toOctets.toList = s.val ∧ s.val < groupOrder) ∧
      (∀ k, ring.contains k = true ↔ ∀ e, ∃ signature, ring.exitSignature G k e = .ok signature) ∧
      (∀ k, ring.contains k = false → ∀ e, ring.exitSignature G k e = .error (.unknownKey k)) ∧
      ∀ k s, ring.secret? k = some s → ∀ (e : Exit) (threshold total : Nat) (t : Tape),
        Exit.Shared G s e.signingRoot.toList threshold total t
          (ring.exitShards G k e threshold total t) := by
  have hcoherent := coherent_of_load hload
  refine ⟨Keyring.pairwise_publicKeys hcoherent.pairwise_keys, ring.contains_iff, fun k s hs => ?_,
    fun k => ⟨hcoherent.exists_exitSignature, fun hsigned => ?_⟩,
    fun k => Keyring.exitSignature_eq_unknown, fun k s => hcoherent.shared_exitShards⟩
  · exact ⟨hcoherent.publicKeyOf?_eq hs, (hcoherent.derived k s hs).1, s.toNat_toOctets, s.isLt⟩
  · by_contra hnot
    obtain ⟨signature, hsignature⟩ := hsigned ⟨0, .zero 4, 0, .zero 32⟩
    rw [Keyring.exitSignature_eq_unknown (by simpa using hnot)] at hsignature
    cases hsignature

/-! ### A ring of two keys -/

/-- A directory with two containers and the files with their passwords. -/
def twoContainers (text text' : String) : Workspace :=
  ⟨.directory [("keystore-a.json", .file (Text.Utf8.write text)),
    ("keystore-a.txt", .file [0x70, 0x77]), ("keystore-b.json", .file (Text.Utf8.write text')),
    ("keystore-b.txt", .file [0x77, 0x70])], []⟩

/-- The second file that is found there. -/
def otherFile : LockedFile := ⟨"keystore-b.json", "./keystore-b.json", "wp"⟩

theorem lockedFiles_twoContainers (text text' : String) :
    lockedFiles (twoContainers text text') oneSource = .ok [oneFile, otherFile] := by
  let entries := ["keystore-a.json", "keystore-a.txt", "keystore-b.json", "keystore-b.txt"]
  have hlist : (twoContainers text text').list "." = .ok entries := rfl
  have hnames : containerNames (twoContainers text text') "." entries
      = ["keystore-a.json", "keystore-b.json"] := by
    have hkept : (entries.filter fun name =>
        isContainerName name && (twoContainers text text').isFile (Path.join "." name))
          = ["keystore-a.json", "keystore-b.json"] := rfl
    rw [containerNames, hkept]
    exact List.mergeSort_of_pairwise (by decide +kernel)
  have hpassword : passwordOf (twoContainers text text') oneSource "keystore-a.json" = .ok "pw" := rfl
  have hpassword' : passwordOf (twoContainers text text') oneSource "keystore-b.json" = .ok "wp" := rfl
  have hresolve : resolve "." (passwordOf (twoContainers text text') oneSource)
      ["keystore-a.json", "keystore-b.json"] = .ok [oneFile, otherFile] := by
    rw [resolve, hpassword, resolve, hpassword']
    rfl
  have hdirectory : oneSource.directory = "." := rfl
  simp only [lockedFiles_eq, hdirectory, hlist, hnames]
  exact hresolve

/-- **The ring of two containers** has the keys of both. -/
theorem load_twoContainers {text text' : String} {c c' : Container} {bytes bytes' : Bytes}
    {s s' : Scalar} (htext : Container.ofText text = .ok c) (htext' : Container.ofText text' = .ok c')
    (hopen : c.decrypt "pw" = .ok bytes) (hopen' : c'.decrypt "wp" = .ok bytes')
    (hs : Scalar.secret? bytes = some s) (hs' : Scalar.secret? bytes' = some s')
    (schedule : Schedule) :
    load G (twoContainers text text') oneSource schedule
      = .ok ((Keyring.empty.insert (Exit.publicKeyText G s) s).insert
          (Exit.publicKeyText G s') s') := by
  have hread : (twoContainers text text').readText oneFile.path = .ok text :=
    Workspace.readText_of_read rfl
  have hread' : (twoContainers text text').readText otherFile.path = .ok text' :=
    Workspace.readText_of_read rfl
  have hwork : openFile G (twoContainers text text') oneFile = .ok (Exit.publicKeyText G s, s) :=
    openFile_of_decrypt hread htext hopen hs
  have hwork' : openFile G (twoContainers text text') otherFile = .ok (Exit.publicKeyText G s', s') :=
    openFile_of_decrypt hread' htext' hopen' hs'
  have hall : ∀ f ∈ [oneFile, otherFile], ∃ key, openFile G (twoContainers text text') f = .ok key :=
    List.forall_mem_cons.mpr ⟨⟨_, hwork⟩, List.forall_mem_singleton.mpr ⟨_, hwork'⟩⟩
  have hload := load_of_opened (lockedFiles_twoContainers text text') hall oneSource.poolSize schedule
  simp only [ringOfFiles, List.foldl_cons, List.foldl_nil, hwork, hwork'] at hload
  exact hload

/-- The ring of two containers lists the key of the second one first, as its text is lower; every exit is
    signed with either key. -/
theorem load_coherent_twoContainers :
    let s := Scalar.ofNat 1
    let s' := Scalar.ofNat 3
    let k :=
      "0x97f1d3a73197d7942695638c4fa9ac0fc3688c4f9774b905a14e3a3f171bac586c55e83ff97a1aeffb3af00adb22c6bb"
    let k' :=
      "0x89ece308f9d1f0131765212deca99697b112d61f9be9a5f1f3780a51335b3ff981747a0b2ca2179b96d2c0c9024e5224"
    ∃ c c' ring,
      Container.lock Curve.Signatures s.toOctets.toList "pw" ⟨2, 1, 1⟩ (.zero 32) (.zero 16)
        (.zero 16) = .ok c ∧
      Container.lock Curve.Signatures s'.toOctets.toList "wp" ⟨2, 1, 1⟩ (.zero 32) (.zero 16)
        (.zero 16) = .ok c' ∧
      load Curve.Signatures (twoContainers c.text c'.text) oneSource (fun _ => 0) = .ok ring ∧
      ring.publicKeys = [k', k] ∧ ring.publicKeys.Pairwise (· < ·) ∧
      Exit.publicKeyOf? Curve.Signatures s.toOctets.toList = some k ∧
      Exit.publicKeyOf? Curve.Signatures s'.toOctets.toList = some k' ∧
      (∀ e, ∃ signature, ring.exitSignature Curve.Signatures k e = .ok signature) ∧
      (∀ e, ∃ signature, ring.exitSignature Curve.Signatures k' e = .ok signature) ∧
      ∀ (e : Exit) t, Exit.Shared Curve.Signatures s' e.signingRoot.toList 2 3 t
        (ring.exitShards Curve.Signatures k' e 2 3 t) := by
  intro s s' k k'
  obtain ⟨c, hc⟩ : ∃ c, Container.lock Curve.Signatures s.toOctets.toList "pw" ⟨2, 1, 1⟩ (.zero 32)
      (.zero 16) (.zero 16) = .ok c := Container.exists_lock (by rfl) (by decide)
  obtain ⟨c', hc'⟩ : ∃ c', Container.lock Curve.Signatures s'.toOctets.toList "wp" ⟨2, 1, 1⟩ (.zero 32)
      (.zero 16) (.zero 16) = .ok c' := Container.exists_lock (by rfl) (by decide)
  have hload := load_twoContainers (G := Curve.Signatures) (Container.ofText_text_lock hc)
    (Container.ofText_text_lock hc') (Container.decrypt_lock hc) (Container.decrypt_lock hc')
    (Scalar.secret?_toOctets (by decide)) (Scalar.secret?_toOctets (by decide)) fun _ => 0
  have hk : Exit.publicKeyText Curve.Signatures s = k := by decide +kernel
  have hk' : Exit.publicKeyText Curve.Signatures s' = k' := by decide +kernel
  rw [hk, hk'] at hload
  have hlist : ((Keyring.empty.insert k s).insert k' s').publicKeys = [k', k] := by decide +kernel
  obtain ⟨hordered, hlisted, hderived, hsigned, -, hshared⟩ := load_coherent hload
  have hs : ((Keyring.empty.insert k s).insert k' s').secret? k = some s := by decide +kernel
  have hs' : ((Keyring.empty.insert k s).insert k' s').secret? k' = some s' := by decide +kernel
  have hcontains := (hlisted k).mpr (by simp [hlist])
  have hcontains' := (hlisted k').mpr (by simp [hlist])
  exact ⟨c, c', _, hc, hc', hload, hlist, hordered, (hderived k s hs).1, (hderived k' s' hs').1,
    (hsigned k).mp hcontains, (hsigned k').mp hcontains', fun e t => hshared k' s' hs' e 2 3 t⟩

end Keystore

end Registrar
