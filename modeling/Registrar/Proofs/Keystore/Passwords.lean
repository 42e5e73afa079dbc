import Registrar.Proofs.Keystore.Container
import Registrar.Proofs.Tape

/-!
# What a password does to a container

Whether a key can be derived depends on the parameters of the derivation, and never on the password or
the salt. So a container that was made can be tried with every password: the one that it was made for
opens it, and any other is refused unless its key happens to give the same checksum.

## Contents

- `KdfParams.fault` with `deriveKey_eq_error_iff`;
- `Container.keyed?`, what a password finds in a container, and `Container.checksumInput?`, the byte
  string hashed to check it; `Container.decrypt_eq_ok_iff`;
- `Container.encrypt_eq_some`, `Container.exists_encrypt_iff`;
- `Container.decrypt_encrypt`.
-/

namespace Registrar.Keystore

/-! ## Parameters of a derivation -/

/-- The fault of parameters with which no key can be derived. -/
def KdfParams.fault (k : KdfParams) : Option FormatFault :=
  if k.length.toNat < 32 then some (.shortKey k.length)
  else
    match Scrypt.log2Exact? k.n.toNat with
    | none | some 0 => some (.badRounds k.n)
    | some logN =>
      if k.length.toNat ≤ 64 ∧ (⟨logN, k.r.toNat, k.p.toNat⟩ : Scrypt.Cost).Fits then none
      else some .badCost

/-- The salt's text says nothing about whether a key can be derived. -/
theorem KdfParams.fault_salt (length n : UInt64) (r p : UInt32) (salt salt' : String) :
    (⟨length, n, r, p, salt⟩ : KdfParams).fault = (⟨length, n, r, p, salt'⟩ : KdfParams).fault := rfl

namespace Container

/-- **Whether a key can be derived does not depend on the password or the salt.** -/
theorem deriveKey_eq_error_iff {password salt : Bytes} {k : KdfParams} {fault : FormatFault} :
    deriveKey password salt k = .error fault ↔ k.fault = some fault := by
  unfold deriveKey KdfParams.fault
  by_cases hshort : k.length.toNat < 32
  · simp only [dif_pos hshort, if_pos hshort, Except.error.injEq, Option.some.injEq]
  · rw [dif_neg hshort, if_neg hshort]
    cases hrounds : Scrypt.log2Exact? k.n.toNat with
    | none => simp only [Except.error.injEq, Option.some.injEq]
    | some logN =>
      cases logN with
      | zero => simp only [Except.error.injEq, Option.some.injEq]
      | succ logN =>
        by_cases hfits : k.length.toNat ≤ 64 ∧
            (⟨logN + 1, k.r.toNat, k.p.toNat⟩ : Scrypt.Cost).Fits
        · simp only [if_pos hfits, reduceCtorEq]
        · simp only [if_neg hfits, Except.error.injEq, Option.some.injEq]

/-- A key that one password has, every password has in its own way. -/
theorem exists_deriveKey_of_fault_eq_none {k : KdfParams} (h : k.fault = none) (password salt : Bytes) :
    ∃ key, deriveKey password salt k = .ok key := by
  cases hkey : deriveKey password salt k with
  | ok key => exact ⟨key, rfl⟩
  | error fault =>
    rw [deriveKey_eq_error_iff, h] at hkey
    cases hkey

theorem fault_eq_none_of_deriveKey {password salt : Bytes} {k : KdfParams} {key : Key}
    (h : deriveKey password salt k = .ok key) : k.fault = none := by
  cases hfault : k.fault with
  | none => rfl
  | some fault =>
    rw [deriveKey_eq_error_iff.mpr hfault] at h
    cases h

/-! ## Trying a password -/

variable (c : Container)

/-- The decoded fields and the key that a password finds in a container. -/
def keyed? (password : String) : Option (Fields × Key) :=
  match c.fields with
  | .error _ => none
  | .ok f =>
    match deriveKey (passwordBytes password) f.salt c.kdf.params with
    | .error _ => none
    | .ok key => some (f, key)

/-- The byte string that is hashed to check a password. -/
def checksumInput? (password : String) : Option Bytes :=
  (c.keyed? password).map fun (f, key) => key.check.toList ++ f.message

variable {c}

theorem keyed?_eq_some_iff {password : String} {f : Fields} {key : Key} :
    c.keyed? password = some (f, key) ↔
      c.fields = .ok f ∧ deriveKey (passwordBytes password) f.salt c.kdf.params = .ok key := by
  unfold keyed?
  cases hfields : c.fields with
  | error fault => simp only [reduceCtorEq, false_and]
  | ok found =>
    cases hkey : deriveKey (passwordBytes password) found.salt c.kdf.params with
    | error fault =>
      simp only [hkey, reduceCtorEq, Except.ok.injEq, false_iff, not_and]
      rintro rfl
      rw [hkey]
      exact nofun
    | ok made =>
      simp only [hkey, Option.some.injEq, Prod.mk.injEq, Except.ok.injEq]
      constructor
      · rintro ⟨rfl, rfl⟩
        exact ⟨rfl, hkey⟩
      · rintro ⟨rfl, hmade⟩
        rw [hkey] at hmade
        exact ⟨rfl, Except.ok.inj hmade⟩

/-- Decrypting looks at the checksum first and at the start of the stream last. -/
theorem decrypt_of_keyed? {password : String} {f : Fields} {key : Key}
    (h : c.keyed? password = some (f, key)) :
    c.decrypt password =
      if (checksumOf key f.message).toList ≠ f.checksum then .error .wrongPassword
      else
        match Octets.ofList? 16 f.iv with
        | none => .error (.format .badIv)
        | some iv => .ok (Aes.counterMode key.cipher iv f.message) := by
  obtain ⟨hfields, hkey⟩ := keyed?_eq_some_iff.mp h
  cases hiv : Octets.ofList? 16 f.iv <;> simp only [decrypt, hfields, hkey, hiv]

/-- Without decoded fields or without a key it is the structure that is at fault. -/
theorem decrypt_of_keyed?_eq_none {password : String} (h : c.keyed? password = none) :
    ∃ fault, c.decrypt password = .error (.format fault) := by
  unfold keyed? at h
  unfold decrypt
  cases hfields : c.fields with
  | error fault => exact ⟨fault, rfl⟩
  | ok f =>
    cases hkey : deriveKey (passwordBytes password) f.salt c.kdf.params with
    | error fault => exact ⟨fault, by simp only [hkey]⟩
    | ok key =>
      simp only [hfields, hkey] at h
      cases h

/-- **What a container opens to**: the checksum is that of the key, and the message is taken through the
    stream from the recorded start. -/
theorem decrypt_eq_ok_iff {password : String} {bytes : Bytes} :
    c.decrypt password = .ok bytes ↔
      ∃ f key iv, c.keyed? password = some (f, key) ∧ (checksumOf key f.message).toList = f.checksum ∧
        Octets.ofList? 16 f.iv = some iv ∧ Aes.counterMode key.cipher iv f.message = bytes := by
  constructor
  · intro h
    cases hkeyed : c.keyed? password with
    | none =>
      obtain ⟨fault, hfault⟩ := decrypt_of_keyed?_eq_none hkeyed
      cases hfault.symm.trans h
    | some pair =>
      obtain ⟨f, key⟩ := pair
      rw [decrypt_of_keyed? hkeyed] at h
      split at h
      · cases h
      next hchecksum =>
      split at h
      · cases h
      next iv hiv =>
      exact ⟨f, key, iv, rfl, not_not.mp hchecksum, hiv, Except.ok.inj h⟩
  · rintro ⟨f, key, iv, hkeyed, hchecksum, hiv, rfl⟩
    rw [decrypt_of_keyed? hkeyed, if_neg (not_not.mpr hchecksum), hiv]

/-! ## Making a container -/

section Making

variable {G : Type} [SignatureScheme G] {secret : Bytes} {password : String} {cost : Cost}
  {salt : Octets 32} {iv uuid : Octets 16} {t t' : Tape} {result : Except FormatFault Container}

/-- The costs alone decide whether a container is made, and with which fault it is not. -/
theorem lock_eq_error_iff {fault : FormatFault} :
    lock G secret password cost salt iv uuid = .error fault ↔
      (⟨32, cost.n, cost.r, cost.p, ""⟩ : KdfParams).fault = some fault := by
  have hkeys : deriveKey (passwordBytes password) salt.toList
      ⟨32, cost.n, cost.r, cost.p, hexText salt.toList⟩ = .error fault ↔ _ := deriveKey_eq_error_iff
  rw [KdfParams.fault_salt 32 cost.n cost.r cost.p "" (hexText salt.toList), ← hkeys]
  unfold lock
  cases hkey : deriveKey (passwordBytes password) salt.toList
      ⟨32, cost.n, cost.r, cost.p, hexText salt.toList⟩ with
  | error found => simp only [hkey, Except.error.injEq]
  | ok key => simp only [hkey, reduceCtorEq]

/-- A container takes 64 bytes of the tape: its salt, the start of its stream and its identifier. -/
theorem encrypt_eq_some (h : encrypt G secret password cost t = some (result, t')) :
    t'.left + 64 = t.left ∧
      ∃ salt iv uuid, result = lock G secret password cost salt iv uuid := by
  unfold encrypt at h
  split at h
  · cases h
  next salt t₁ hsalt =>
  split at h
  · cases h
  next iv t₂ hiv =>
  split at h
  · cases h
  next uuid t₃ huuid =>
  cases h
  have hleft₁ := Tape.left_of_octets? hsalt
  have hleft₂ := Tape.left_of_octets? hiv
  have hleft₃ := Tape.left_of_octets? huuid
  exact ⟨by omega, salt, iv, uuid, rfl⟩

/-- **Making a container ends just if so many bytes are left.** -/
theorem exists_encrypt_iff :
    (∃ result t', encrypt G secret password cost t = some (result, t')) ↔ 64 ≤ t.left := by
  constructor
  · rintro ⟨result, t', h⟩
    have hleft := (encrypt_eq_some h).1
    omega
  · intro h
    obtain ⟨salt, t₁, hsalt⟩ := (Tape.exists_octets?_iff (n := 32) (by decide)).mpr
      (show 32 ≤ t.left by omega)
    have hleft₁ := Tape.left_of_octets? hsalt
    obtain ⟨iv, t₂, hiv⟩ := (Tape.exists_octets?_iff (n := 16) (by decide)).mpr
      (show 16 ≤ t₁.left by omega)
    have hleft₂ := Tape.left_of_octets? hiv
    obtain ⟨uuid, t₃, huuid⟩ := (Tape.exists_octets?_iff (n := 16) (by decide)).mpr
      (show 16 ≤ t₂.left by omega)
    unfold encrypt
    simp only [hsalt, hiv, huuid]
    exact ⟨_, _, rfl⟩

/-- On a tape of zeros the salt, the start and the identifier are zeros. -/
theorem encrypt_zeros (G : Type) [SignatureScheme G] (secret : Bytes) (password : String)
    (cost : Cost) : encrypt G secret password cost (Tape.zeros 0 64)
      = some (lock G secret password cost (.zero 32) (.zero 16) (.zero 16), Tape.zeros 64 64) := rfl

/-! ## Opening it again -/

variable {c : Container}

/-- What the password of a container finds in it. -/
theorem keyed?_lock (h : lock G secret password cost salt iv uuid = .ok c) :
    ∃ key : Key, c.keyed? password = some (⟨salt.toList,
      (checksumOf key (Aes.counterMode key.cipher iv secret)).toList, iv.toList,
      Aes.counterMode key.cipher iv secret⟩, key) := by
  obtain ⟨key, hkey, -, -, hfields⟩ := lock_eq_ok h
  exact ⟨key, keyed?_eq_some_iff.mpr ⟨hfields, hkey⟩⟩

/-- Where one password has a key, every other one has a key too. -/
theorem exists_keyed? {f : Fields} {key : Key} (h : c.keyed? password = some (f, key)) (q : String) :
    ∃ key', c.keyed? q = some (f, key') := by
  obtain ⟨hfields, hkey⟩ := keyed?_eq_some_iff.mp h
  obtain ⟨key', hkey'⟩ := exists_deriveKey_of_fault_eq_none (fault_eq_none_of_deriveKey hkey)
    (passwordBytes q) f.salt
  exact ⟨key', keyed?_eq_some_iff.mpr ⟨hfields, hkey'⟩⟩

/-- **Another password is refused or has the same checksum**, and with the same checksum it opens the
    container to something. -/
theorem decrypt_lock_other (h : lock G secret password cost salt iv uuid = .ok c) (q : String) :
    c.decrypt q = .error .wrongPassword ∨
      ∃ x y, c.checksumInput? password = some x ∧ c.checksumInput? q = some y ∧
        sha256 x = sha256 y ∧ ∃ bytes, c.decrypt q = .ok bytes := by
  obtain ⟨key, hkeyed⟩ := keyed?_lock h
  obtain ⟨key', hkeyed'⟩ := exists_keyed? hkeyed q
  let encrypted := Aes.counterMode key.cipher iv secret
  by_cases hsame : checksumOf key' encrypted = checksumOf key encrypted
  · right
    refine ⟨key.check.toList ++ encrypted, key'.check.toList ++ encrypted, ?_, ?_, hsame.symm, ?_⟩
    · rw [checksumInput?, hkeyed, Option.map_some]
    · rw [checksumInput?, hkeyed', Option.map_some]
    · have hchecksum := congrArg Octets.toList hsame
      have hstart : Octets.ofList? 16 iv.toList = some iv := Octets.ofList?_toList iv
      exact ⟨_, decrypt_eq_ok_iff.mpr ⟨_, key', iv, hkeyed', hchecksum, hstart, rfl⟩⟩
  · left
    have hwrong : (checksumOf key' encrypted).toList ≠ (checksumOf key encrypted).toList := by
      intro heq
      exact hsame (Octets.ext heq)
    rw [decrypt_of_keyed? hkeyed', if_pos hwrong]

/-- **Decrypting undoes encrypting, through the text of a container.** Making a container ends just if 64
    bytes of the tape are left. What is made is read back from its text; the passwords that stand for
    the same bytes as the one it was made for open it to the secret, and every other one is refused,
    unless its key gives the same checksum, and then there is no fault. Whether one is made, and the
    fault if not, is the same for all secrets, passwords and tapes: the costs decide it. -/
theorem decrypt_encrypt (secret : Bytes) (password : String) (cost : Cost) (t : Tape) :
    ((∃ result t', encrypt G secret password cost t = some (result, t')) ↔ 64 ≤ t.left) ∧
    (∀ c t', encrypt G secret password cost t = some (.ok c, t') →
      ofText c.text = .ok c ∧
      ∀ q, (passwordBytes q = passwordBytes password → c.decrypt q = .ok secret) ∧
        (passwordBytes q ≠ passwordBytes password →
          c.decrypt q = .error .wrongPassword ∨
            ∃ x y, c.checksumInput? password = some x ∧ c.checksumInput? q = some y ∧
              sha256 x = sha256 y ∧ ∃ bytes, c.decrypt q = .ok bytes)) ∧
    ∀ result t' secret' password' u result' u',
      encrypt G secret password cost t = some (result, t') →
      encrypt G secret' password' cost u = some (result', u') →
      ∀ fault, result = .error fault ↔ result' = .error fault := by
  refine ⟨exists_encrypt_iff, ?_, ?_⟩
  · intro c t' h
    obtain ⟨-, salt, iv, uuid, hlock⟩ := encrypt_eq_some h
    refine ⟨ofText_text_lock hlock.symm, fun q => ⟨?_, fun _ => decrypt_lock_other hlock.symm q⟩⟩
    intro hq
    rw [← decrypt_lock hlock.symm, decrypt, decrypt, hq]
  · intro result t' secret' password' u result' u' h h' fault
    obtain ⟨-, salt, iv, uuid, rfl⟩ := encrypt_eq_some h
    obtain ⟨-, salt', iv', uuid', rfl⟩ := encrypt_eq_some h'
    rw [lock_eq_error_iff, lock_eq_error_iff]

/-- Wide letters with a control character between them open what the narrow letters locked, and capital
    letters are another password. -/
theorem decrypt_encrypt_wide :
    let secret := (Scalar.ofNat 5).toOctets.toList
    ∃ c t', encrypt Curve.Signatures secret "pw" ⟨2, 1, 1⟩ (Tape.zeros 0 64) = some (.ok c, t') ∧
      ofText c.text = .ok c ∧ c.decrypt "\uff50\x7f\uff57" = .ok secret ∧
      (c.decrypt "PW" = .error .wrongPassword ∨
        ∃ x y, c.checksumInput? "pw" = some x ∧ c.checksumInput? "PW" = some y ∧
          sha256 x = sha256 y ∧ ∃ bytes, c.decrypt "PW" = .ok bytes) := by
  intro secret
  have hsame : passwordBytes "\uff50\x7f\uff57" = passwordBytes "pw" := by decide +kernel
  have hother : passwordBytes "PW" ≠ passwordBytes "pw" := by decide +kernel
  obtain ⟨hends, hmade, -⟩ :=
    decrypt_encrypt (G := Curve.Signatures) secret "pw" ⟨2, 1, 1⟩ (Tape.zeros 0 64)
  obtain ⟨result, t', h⟩ := hends.mpr (by decide)
  obtain ⟨-, salt, iv, uuid, rfl⟩ := encrypt_eq_some h
  have hrounds : Scrypt.log2Exact? (2 : UInt64).toNat = some (0 + 1) := by decide
  obtain ⟨c, hc⟩ : ∃ c, lock Curve.Signatures secret "pw" ⟨2, 1, 1⟩ salt iv uuid = .ok c :=
    exists_lock hrounds (by decide)
  rw [hc] at h
  obtain ⟨htext, hopens⟩ := hmade c t' h
  exact ⟨c, t', h, htext, (hopens _).1 hsame, (hopens _).2 hother⟩

end Making

end Container

end Registrar.Keystore
