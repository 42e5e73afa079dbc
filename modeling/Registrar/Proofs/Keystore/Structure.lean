import Registrar.Proofs.Keystore.Tampering

/-!
# Structural faults and the password

What is wrong with the structure of a container has nothing to do with the password, and is reported
whatever the password is, but for one thing: the length of the start of the stream is looked at after
the checksum. So if that start is all that is wrong, the password that the container was made for is
told so, and any other one is told that it is wrong.

## Contents

- `Container.earlyFault`, what is reported to every password, and `Container.BadStart`, a start that is
  reported to some only; `Container.Fits`, the passwords with the recorded checksum;
- `Container.decrypt_eq_format_iff` and `Container.decrypt_eq_wrongPassword_iff`;
- `Container.same_format_iff`: when two passwords are told the same about the structure.
-/

namespace Registrar.Keystore.Container

variable (c : Container)

/-! ## Faults of the structure -/

/-- What is wrong with the functions, the fields or the parameters of the derivation. -/
def earlyFault : Option FormatFault :=
  match c.fields with
  | .error fault => some fault
  | .ok _ => c.kdf.params.fault

/-- All that is wrong with the structure is the length of the start of the stream. -/
def BadStart : Prop := c.earlyFault = none ∧ ∃ f, c.fields = .ok f ∧ f.iv.length ≠ 16

/-- The recorded checksum is that of the key of the password. -/
def Fits (password : String) : Prop :=
  ∃ f key, c.keyed? password = some (f, key) ∧ (checksumOf key f.message).toList = f.checksum

variable {c} {password : String} {fault : FormatFault}

/-- Without such a fault there is a key for every password. -/
theorem exists_keyed?_of_earlyFault (h : c.earlyFault = none) (password : String) :
    ∃ f key, c.keyed? password = some (f, key) := by
  unfold earlyFault at h
  cases hfields : c.fields with
  | error fault =>
    rw [hfields] at h
    cases h
  | ok f =>
    rw [hfields] at h
    obtain ⟨key, hkey⟩ := exists_deriveKey_of_fault_eq_none h (passwordBytes password) f.salt
    exact ⟨f, key, keyed?_eq_some_iff.mpr ⟨hfields, hkey⟩⟩

theorem earlyFault_of_keyed? {f : Fields} {key : Key} (h : c.keyed? password = some (f, key)) :
    c.earlyFault = none := by
  obtain ⟨hfields, hkey⟩ := keyed?_eq_some_iff.mp h
  unfold earlyFault
  rw [hfields]
  exact fault_eq_none_of_deriveKey hkey

/-- Another password finds its own key. -/
theorem keyed?_of_deriveKey {f : Fields} {key key' : Key} (h : c.keyed? password = some (f, key))
    {q : String} (hkey : deriveKey (passwordBytes q) f.salt c.kdf.params = .ok key') :
    c.keyed? q = some (f, key') :=
  keyed?_eq_some_iff.mpr ⟨(keyed?_eq_some_iff.mp h).1, hkey⟩

theorem fits_iff {f : Fields} {key : Key} (h : c.keyed? password = some (f, key)) :
    c.Fits password ↔ (checksumOf key f.message).toList = f.checksum := by
  constructor
  · rintro ⟨f', key', h', hchecksum⟩
    rw [h] at h'
    cases h'
    exact hchecksum
  · intro hchecksum
    exact ⟨f, key, h, hchecksum⟩

theorem badStart_iff {f : Fields} {key : Key} (h : c.keyed? password = some (f, key)) :
    c.BadStart ↔ f.iv.length ≠ 16 := by
  have hfields := (keyed?_eq_some_iff.mp h).1
  constructor
  · rintro ⟨-, f', hfields', hlength⟩
    rw [hfields] at hfields'
    cases hfields'
    exact hlength
  · intro hlength
    exact ⟨earlyFault_of_keyed? h, f, hfields, hlength⟩

/-! ## What a password is told -/

/-- Every password is told of an early fault. -/
theorem decrypt_of_earlyFault (h : c.earlyFault = some fault) :
    c.decrypt password = .error (.format fault) := by
  unfold earlyFault at h
  unfold decrypt
  cases hfields : c.fields with
  | error found =>
    rw [hfields] at h
    cases h
    rfl
  | ok f =>
    rw [hfields] at h
    simp only [deriveKey_eq_error_iff.mpr h]

/-- Without one, a password that does not fit is told so. -/
theorem decrypt_of_not_fits (h : c.earlyFault = none) (hfits : ¬ c.Fits password) :
    c.decrypt password = .error .wrongPassword := by
  obtain ⟨f, key, hkeyed⟩ := exists_keyed?_of_earlyFault h password
  rw [fits_iff hkeyed] at hfits
  rw [decrypt_of_keyed? hkeyed, if_pos hfits]

/-- A password that fits is told of a bad start. -/
theorem decrypt_of_badStart (h : c.BadStart) (hfits : c.Fits password) :
    c.decrypt password = .error (.format .badIv) := by
  obtain ⟨f, key, hkeyed⟩ := exists_keyed?_of_earlyFault h.1 password
  have hlength := (badStart_iff hkeyed).mp h
  have hiv : Octets.ofList? 16 f.iv = none := dif_neg hlength
  rw [fits_iff hkeyed] at hfits
  rw [decrypt_of_keyed? hkeyed, if_neg (not_not.mpr hfits), hiv]

/-- Otherwise it opens the container. -/
theorem exists_decrypt_of_fits (h : c.earlyFault = none) (hstart : ¬ c.BadStart)
    (hfits : c.Fits password) : ∃ bytes, c.decrypt password = .ok bytes := by
  obtain ⟨f, key, hkeyed⟩ := exists_keyed?_of_earlyFault h password
  rw [badStart_iff hkeyed, not_not] at hstart
  have hiv : Octets.ofList? 16 f.iv = some ⟨f.iv, hstart⟩ := dif_pos hstart
  rw [fits_iff hkeyed] at hfits
  exact ⟨_, decrypt_eq_ok_iff.mpr ⟨f, key, _, hkeyed, hfits, hiv, rfl⟩⟩

/-- **What a password is told about the structure**: an early fault in any case, and a bad start if it
    fits. -/
theorem decrypt_eq_format_iff :
    c.decrypt password = .error (.format fault) ↔
      c.earlyFault = some fault ∨ (c.BadStart ∧ c.Fits password ∧ fault = .badIv) := by
  constructor
  · intro h
    cases hearly : c.earlyFault with
    | some found =>
      rw [decrypt_of_earlyFault hearly] at h
      cases h
      exact .inl rfl
    | none =>
      right
      by_cases hfits : c.Fits password
      · by_cases hstart : c.BadStart
        · rw [decrypt_of_badStart hstart hfits] at h
          cases h
          exact ⟨hstart, hfits, rfl⟩
        · obtain ⟨bytes, hbytes⟩ := exists_decrypt_of_fits hearly hstart hfits
          cases hbytes.symm.trans h
      · cases (decrypt_of_not_fits hearly hfits).symm.trans h
  · rintro (hearly | ⟨hstart, hfits, rfl⟩)
    · exact decrypt_of_earlyFault hearly
    · exact decrypt_of_badStart hstart hfits

/-- **A password is told that it is wrong** if it does not fit, whatever the start of the stream is. -/
theorem decrypt_eq_wrongPassword_iff :
    c.decrypt password = .error .wrongPassword ↔ c.earlyFault = none ∧ ¬ c.Fits password := by
  constructor
  · intro h
    cases hearly : c.earlyFault with
    | some found => cases (decrypt_of_earlyFault hearly).symm.trans h
    | none =>
      refine ⟨rfl, ?_⟩
      intro hfits
      by_cases hstart : c.BadStart
      · cases (decrypt_of_badStart hstart hfits).symm.trans h
      · obtain ⟨bytes, hbytes⟩ := exists_decrypt_of_fits hearly hstart hfits
        cases hbytes.symm.trans h
  · rintro ⟨hearly, hfits⟩
    exact decrypt_of_not_fits hearly hfits

/-- **Two passwords are told the same about the structure of a container** just if its start is not all
    that is wrong with it, or both of them fit, or neither does. A password is told that it is wrong
    just if it does not fit and nothing but the start may be wrong with the structure. -/
theorem same_format_iff (c : Container) (p q : String) :
    ((∀ fault, c.decrypt p = .error (.format fault) ↔ c.decrypt q = .error (.format fault)) ↔
      (c.BadStart → (c.Fits p ↔ c.Fits q))) ∧
    (c.decrypt p = .error .wrongPassword ↔ c.earlyFault = none ∧ ¬ c.Fits p) := by
  refine ⟨⟨?_, ?_⟩, decrypt_eq_wrongPassword_iff⟩
  · intro h hstart
    have htold : ∀ password, c.decrypt password = .error (.format .badIv) ↔ c.Fits password := by
      intro password
      rw [decrypt_eq_format_iff, hstart.1]
      simp [hstart]
    rw [← htold p, ← htold q]
    exact h .badIv
  · intro h fault
    rw [decrypt_eq_format_iff, decrypt_eq_format_iff]
    by_cases hstart : c.BadStart
    · rw [h hstart]
    · simp [hstart]

/-! ## A start of one byte -/

/-- The parameters of a derivation are recorded. -/
theorem params_of_lock {G : Type} [SignatureScheme G] {secret : Bytes} {cost : Cost}
    {salt : Octets 32} {iv uuid : Octets 16}
    (h : lock G secret password cost salt iv uuid = .ok c) :
    c.kdf.params = ⟨32, cost.n, cost.r, cost.p, hexText salt.toList⟩ := by
  unfold lock at h
  dsimp only at h
  split at h
  · cases h
  · cases h
    rfl

/-- The key of `PW` at the lowest costs and without salt. -/
def capitalKey : Key :=
  ⟨.ofNat 16 0xd7d632a52f81fbca58726a3a2fae9a73, .ofNat 16 0x262087d06431451f310ba726974c1b6a⟩

theorem derive_capital :
    Scrypt.derive [0x50, 0x57] (Octets.zero 32).toList ⟨1, 1, 1⟩ 32
      = capitalKey.cipher.toList ++ capitalKey.check.toList := by
  have hsha : sha256 = fun bs => Sha256.finish (Sha256.Words.after bs).state :=
    funext Sha256.sha256_eq
  simp only [Scrypt.derive, pbkdf2, hmac, hsha]
  decide +kernel

theorem checksumOf_capital :
    let encrypted := Aes.counterMode plainKey.cipher (.zero 16) (Scalar.ofNat 5).toOctets.toList
    (checksumOf capitalKey encrypted).toList ≠ (checksumOf plainKey encrypted).toList := by
  simp only [checksumOf, Sha256.sha256_eq]
  decide +kernel

/-- **A start of one byte is reported to one password and not to another.** -/
theorem decrypt_shortStart :
    let secret := (Scalar.ofNat 5).toOctets.toList
    ∃ c t', encrypt Curve.Signatures secret "pw" ⟨2, 1, 1⟩ (Tape.zeros 0 64) = some (.ok c, t') ∧
      let c' := c.replace "00" .iv
      c'.decrypt "pw" = .error (.format .badIv) ∧ c'.decrypt "PW" = .error .wrongPassword ∧
      ¬ ∀ fault, c'.decrypt "pw" = .error (.format fault) ↔ c'.decrypt "PW" = .error (.format fault) := by
  intro secret
  obtain ⟨c, hlock, hkeyed⟩ : ∃ c,
      lock Curve.Signatures secret "pw" ⟨2, 1, 1⟩ (.zero 32) (.zero 16) (.zero 16) = .ok c ∧
      c.keyed? "pw" = some (_, plainKey) :=
    exists_lock_of_deriveKey (deriveKey_plain (hexText (Octets.zero 32).toList))
  have hcapital : passwordBytes "PW" = [0x50, 0x57] := by decide +kernel
  have hkey : deriveKey (passwordBytes "PW") (Octets.zero 32).toList c.kdf.params = .ok capitalKey := by
    rw [hcapital, params_of_lock hlock]
    exact deriveKey_of_derive derive_capital _
  have hkeyed' := keyed?_of_deriveKey hkeyed hkey
  have hmade := (encrypt_zeros Curve.Signatures secret "pw" ⟨2, 1, 1⟩).trans (by rw [hlock])
  have hstart : fieldBytes "cipher iv" "00" = .ok [0] := by decide +kernel
  have hpw : (c.replace "00" .iv).keyed? "pw" = some (_, plainKey) :=
    (keyed?_replace_iff hkeyed).mpr ⟨rfl, _, hstart, rfl⟩
  have hPW : (c.replace "00" .iv).keyed? "PW" = some (_, capitalKey) :=
    (keyed?_replace_iff hkeyed').mpr ⟨rfl, _, hstart, rfl⟩
  have htold : (c.replace "00" .iv).decrypt "pw" = .error (.format .badIv) := by
    apply decrypt_of_badStart
    · exact (badStart_iff hpw).mpr (show [(0 : UInt8)].length ≠ 16 by decide)
    · exact (fits_iff hpw).mpr rfl
  have hrefused : (c.replace "00" .iv).decrypt "PW" = .error .wrongPassword := by
    apply decrypt_of_not_fits (earlyFault_of_keyed? hPW)
    rw [fits_iff hPW]
    exact checksumOf_capital
  refine ⟨c, Tape.zeros 64 64, hmade, htold, hrefused, ?_⟩
  intro hsame
  cases hrefused.symm.trans ((hsame .badIv).mp htold)

end Registrar.Keystore.Container
