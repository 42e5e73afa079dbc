import Registrar.Keystore.Container
import Registrar.Proofs.Deposit.Spelling
import Registrar.Proofs.Json.Formats

/-!
# Locked containers open again

A container that was made for a password opens with it, from its text too: the text is read back as the
container, and the derived key makes the checksum and the stream again.

## Contents

- `Container.format_restores` and `Container.ofText_text`: a container is read back from its text;
- `Container.fields_eq_ok_iff`: what its fields are decoded to;
- `Container.exists_lock`, costs at which a container can be made, and `Container.lock_eq_ok`, what it is
  made of;
- `Container.decrypt_lock` and `Container.ofText_text_lock`: the password opens what it locked.
-/

namespace Registrar.Keystore

open Json Json.Format
open Json.Fields (cons_restores none_restores)

/-! ## Texts of containers -/

theorem KdfParams.format_restores (k : KdfParams) : KdfParams.format.Restores 1 k :=
  along_restores (record_restores <|
    cons_restores (unsigned64_restores _ _) (by decide) <|
    cons_restores (unsigned64_restores _ _) (by decide) <|
    cons_restores (u32_restores _) (by decide) <|
    cons_restores (u32_restores _) (by decide) <|
    cons_restores (text_restores _) (by decide) <| none_restores 0) rfl

theorem Kdf.format_restores (k : Kdf) : Kdf.format.Restores 2 k := by
  have htext : ∀ s, text.Restores 1 s := fun s => (text_restores s).mono (by omega)
  have hparams := KdfParams.format_restores k.params
  exact along_restores (record_restores <|
    cons_restores (htext _) (by decide) <| cons_restores hparams (by decide) <|
    cons_restores (htext _) (by decide) <| none_restores 1) rfl

theorem Cipher.format_restores (c : Cipher) : Cipher.format.Restores 2 c := by
  have htext : ∀ s, text.Restores 1 s := fun s => (text_restores s).mono (by omega)
  have hparams : Cipher.paramsFormat.Restores 1 c.iv :=
    along_restores (record_restores <|
      cons_restores (text_restores _) (by decide) <| none_restores 0) rfl
  exact along_restores (record_restores <|
    cons_restores (htext _) (by decide) <| cons_restores hparams (by decide) <|
    cons_restores (htext _) (by decide) <| none_restores 1) rfl

theorem Checksum.format_restores {c : Checksum} {depth : Nat}
    (hparams : dictionary.Restores depth c.params) : Checksum.format.Restores (depth + 1) c := by
  have htext : ∀ s, text.Restores depth s := fun s => (text_restores s).mono (by omega)
  exact along_restores (record_restores <|
    cons_restores (htext _) (by decide) <| cons_restores hparams (by decide) <|
    cons_restores (htext _) (by decide) <| none_restores depth) rfl

namespace Container

/-- **A container is read back**, if the parameters of its checksum are. -/
theorem format_restores {c : Container} {depth : Nat} (hdepth : 1 ≤ depth)
    (hparams : dictionary.Restores depth c.checksum.params) : format.Restores (depth + 3) c := by
  have htext : ∀ s, Format.text.Restores (depth + 2) s := fun s => (text_restores s).mono (by omega)
  have hkdf := (Kdf.format_restores c.kdf).mono (show 2 ≤ depth + 1 by omega)
  have hcipher := (Cipher.format_restores c.cipher).mono (show 2 ≤ depth + 1 by omega)
  have hversion := (u32_restores c.version).mono (show 0 ≤ depth + 2 by omega)
  have hcrypto : cryptoFormat.Restores (depth + 2) (c.kdf, c.checksum, c.cipher) :=
    along_restores (record_restores <|
      cons_restores hkdf (by decide) <|
      cons_restores (Checksum.format_restores hparams) (by decide) <|
      cons_restores hcipher (by decide) <| none_restores (depth + 1)) rfl
  exact along_restores (record_restores <|
    cons_restores hcrypto (by decide) <| cons_restores (htext _) (by decide) <|
    cons_restores (htext _) (by decide) <| cons_restores (htext _) (by decide) <|
    cons_restores (htext _) (by decide) <| cons_restores hversion (by decide) <|
    none_restores (depth + 2)) rfl

/-- The text of a container is read back as the container. -/
theorem ofText_text {c : Container} {depth : Nat} (hdepth : 1 ≤ depth) (hroom : depth + 3 < fullRoom)
    (hparams : dictionary.Restores depth c.checksum.params) (hfunctions : c.functionFault = none) :
    ofText c.text = .ok c := by
  have hread : format.ofText (format.prettyText c) = .ok c :=
    ofText_prettyText (format_restores hdepth hparams) hroom
  unfold ofText text
  simp only [hread, hfunctions]

/-- So is the text of a container whose checksum has no parameters. -/
theorem ofText_text_of_nil {c : Container} (hparams : c.checksum.params = [])
    (hfunctions : c.functionFault = none) : ofText c.text = .ok c := by
  refine ofText_text (Nat.le_refl 1) (by decide) ?_ hfunctions
  rw [hparams]
  exact dictionary_restores_nil

/-! ## Keys of containers -/

theorem dropMarkers_encode (bs : Bytes) : dropMarkers (Hex.encode bs) = Hex.encode bs := by
  cases bs with
  | nil => rfl
  | cons b bs =>
    have hx := (Deposit.digit_ne_marker (Nat.mod_lt b.toNat (show 0 < 16 by omega))).1
    show dropMarkers (Hex.digit (b.toNat / 16) :: Hex.digit (b.toNat % 16) :: Hex.encode bs) = _
    unfold dropMarkers
    split
    · next heq => exact absurd (List.cons.inj (List.cons.inj heq).2).1 hx
    · rfl

/-- The bytes of a field are those that were written. -/
theorem fieldBytes_hexText (field : String) (bs : Bytes) : fieldBytes field (hexText bs) = .ok bs := by
  rw [fieldBytes, hexText, String.toList_ofList, dropMarkers_encode, Hex.decode_encode]

theorem fieldBytes_marked (field digits : String) :
    fieldBytes field ("0x" ++ digits) = fieldBytes field digits := by
  unfold fieldBytes
  rw [String.toList_append]
  rfl

/-- The fields are decoded one by one. -/
theorem fields_eq_ok_iff {c : Container} {f : Fields} :
    c.fields = .ok f ↔ c.functionFault = none ∧
      fieldBytes "kdf salt" c.kdf.params.salt = .ok f.salt ∧
      fieldBytes "checksum" c.checksum.message = .ok f.checksum ∧
      fieldBytes "cipher iv" c.cipher.iv = .ok f.iv ∧
      fieldBytes "cipher message" c.cipher.message = .ok f.message := by
  -- Each step ends the decoding with its fault, or leaves the next one.
  unfold fields
  cases c.functionFault with
  | some fault => exact ⟨nofun, nofun⟩
  | none =>
  cases fieldBytes "kdf salt" c.kdf.params.salt with
  | error fault => exact ⟨nofun, nofun⟩
  | ok salt =>
  cases fieldBytes "checksum" c.checksum.message with
  | error fault => exact ⟨nofun, nofun⟩
  | ok checksum =>
  cases fieldBytes "cipher iv" c.cipher.iv with
  | error fault => exact ⟨nofun, nofun⟩
  | ok iv =>
  cases fieldBytes "cipher message" c.cipher.message with
  | error fault => exact ⟨nofun, nofun⟩
  | ok message =>
    constructor
    · intro h
      cases h
      exact ⟨rfl, rfl, rfl, rfl, rfl⟩
    · rintro ⟨-, hsalt, hchecksum, hiv, hmessage⟩
      cases hsalt
      cases hchecksum
      cases hiv
      cases hmessage
      rfl

variable {G : Type} [SignatureScheme G] {secret : Bytes} {password : String} {cost : Cost}
  {salt : Octets 32} {iv uuid : Octets 16} {c : Container}

/-- A key is derived if the costs are within their bounds. -/
theorem exists_deriveKey (password salt : Bytes) {k : KdfParams} {logN : Nat}
    (hlong : 32 ≤ k.length.toNat) (hshort : k.length.toNat ≤ 64)
    (hrounds : Scrypt.log2Exact? k.n.toNat = some (logN + 1))
    (hfits : (⟨logN + 1, k.r.toNat, k.p.toNat⟩ : Scrypt.Cost).Fits) :
    ∃ key, deriveKey password salt k = .ok key := by
  unfold deriveKey
  rw [dif_neg (Nat.not_lt.mpr hlong), hrounds]
  exact ⟨_, if_pos ⟨hshort, hfits⟩⟩

/-- A key is the two halves of what is derived. -/
theorem deriveKey_eq_ok {password salt : Bytes} {k : KdfParams} {key : Key}
    (h : deriveKey password salt k = .ok key) :
    ∃ logN, Scrypt.log2Exact? k.n.toNat = some logN ∧
      let bytes := Scrypt.derive password salt ⟨logN, k.r.toNat, k.p.toNat⟩ k.length.toNat
      key.cipher.toList = bytes.take 16 ∧ key.check.toList = (bytes.drop 16).take 16 := by
  unfold deriveKey at h
  split at h
  · cases h
  split at h
  · cases h
  · cases h
  next logN _ hrounds =>
  dsimp only at h
  split at h
  · cases h
    exact ⟨logN, hrounds, rfl, rfl⟩
  · cases h

/-- **A container can be made at costs within their bounds.** -/
theorem exists_lock {logN : Nat} (hrounds : Scrypt.log2Exact? cost.n.toNat = some (logN + 1))
    (hfits : (⟨logN + 1, cost.r.toNat, cost.p.toNat⟩ : Scrypt.Cost).Fits) :
    ∃ c, lock G secret password cost salt iv uuid = .ok c := by
  let params : KdfParams := ⟨32, cost.n, cost.r, cost.p, hexText salt.toList⟩
  obtain ⟨key, hkey⟩ : ∃ key, deriveKey (passwordBytes password) salt.toList params = .ok key :=
    exists_deriveKey _ _ (show 32 ≤ (32 : UInt64).toNat by decide)
      (show (32 : UInt64).toNat ≤ 64 by decide) hrounds hfits
  unfold lock
  simp only [params] at hkey
  simp only [hkey]
  exact ⟨_, rfl⟩

/-- What a container is made of. -/
theorem lock_eq_ok (h : lock G secret password cost salt iv uuid = .ok c) :
    ∃ key : Key, deriveKey (passwordBytes password) salt.toList c.kdf.params = .ok key ∧
      c.functionFault = none ∧ c.checksum.params = [] ∧
      c.fields = .ok ⟨salt.toList,
        (checksumOf key (Aes.counterMode key.cipher iv secret)).toList, iv.toList,
        Aes.counterMode key.cipher iv secret⟩ := by
  unfold lock at h
  dsimp only at h
  split at h
  · cases h
  next key hkey =>
  cases h
  refine ⟨key, hkey, rfl, rfl, ?_⟩
  have hread : ∀ field bs, fieldBytes field (hexText bs) = .ok bs := fieldBytes_hexText
  exact fields_eq_ok_iff.mpr ⟨rfl, hread _ _, hread _ _, hread _ _, hread _ _⟩

/-- **A password opens what it locked.** -/
theorem decrypt_lock (h : lock G secret password cost salt iv uuid = .ok c) :
    c.decrypt password = .ok secret := by
  obtain ⟨key, hkey, -, -, hfields⟩ := lock_eq_ok h
  unfold decrypt
  simp only [hfields, hkey, ne_eq, not_true_eq_false, if_false, Octets.ofList?_toList,
    Aes.counterMode_counterMode]

/-- **So does its text.** -/
theorem ofText_text_lock (h : lock G secret password cost salt iv uuid = .ok c) :
    ofText c.text = .ok c := by
  obtain ⟨key, -, hfunctions, hparams, -⟩ := lock_eq_ok h
  exact ofText_text_of_nil hparams hfunctions

end Container

end Registrar.Keystore
