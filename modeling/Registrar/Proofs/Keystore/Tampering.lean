import Registrar.Proofs.Collision
import Registrar.Proofs.Crypto.Sha256
import Registrar.Proofs.Keystore.Joining
import Registrar.Proofs.Keystore.Passwords

/-!
# Containers with a replaced text

The checksum of a container covers half of the derived key and the encrypted secret. So whoever replaces
the encrypted secret or the checksum gets a container that does not open, or one that opens to the same
secret, unless two of the hashed strings collide. The start of the stream is not covered: a container in
which other sixteen bytes stand for it opens, and what comes out differs from the secret as the two
streams differ.

## Contents

- `SealedPart`, the texts that are replaced, with `Container.replace` and `Fields.replace`;
- `Container.decrypt_replace_eq_ok_iff`, what is computed after a replacement;
- `Container.eq_or_collides_of_decrypt_replace` and `Container.decrypt_replace_iv`;
- `openFile_replace`, what a tampered container is loaded as;
- `openFile_replace_iv_other`, a container that opens to another secret.
-/

namespace Registrar.Keystore

/-! ## Replacing a text -/

/-- The texts that follow from the secret, the key and the start of the stream. -/
inductive SealedPart where
  | iv
  | message
  | checksum
deriving DecidableEq

/-- The name under which a text is read. -/
def SealedPart.name : SealedPart → String
  | .iv => "cipher iv"
  | .message => "cipher message"
  | .checksum => "checksum"

/-- A container in which one text is another. -/
def Container.replace (c : Container) (text : String) : SealedPart → Container
  | .iv => { c with cipher := { c.cipher with iv := text } }
  | .message => { c with cipher := { c.cipher with message := text } }
  | .checksum => { c with checksum := { c.checksum with message := text } }

namespace Container

/-- The decoded fields in which one is another. -/
def Fields.replace (f : Fields) (bytes : Bytes) : SealedPart → Fields
  | .iv => { f with iv := bytes }
  | .message => { f with message := bytes }
  | .checksum => { f with checksum := bytes }

variable {c : Container} {f f' : Fields} {part : SealedPart} {text password : String} {key key' : Key}

theorem functionFault_replace : (c.replace text part).functionFault = c.functionFault := by
  cases part <;> rfl

theorem kdf_replace : (c.replace text part).kdf = c.kdf := by
  cases part <;> rfl

theorem checksum_params_replace : (c.replace text part).checksum.params = c.checksum.params := by
  cases part <;> rfl

theorem salt_replace {bytes : Bytes} : (f.replace bytes part).salt = f.salt := by
  cases part <;> rfl

/-! ## Decoded fields -/

/-- What the replaced text stands for takes the place of the one field. -/
theorem fields_replace (h : c.fields = .ok f) {bytes : Bytes}
    (hbytes : fieldBytes part.name text = .ok bytes) :
    (c.replace text part).fields = .ok (f.replace bytes part) := by
  obtain ⟨hfunctions, hsalt, hchecksum, hiv, hmessage⟩ := fields_eq_ok_iff.mp h
  apply fields_eq_ok_iff.mpr
  cases part with
  | iv => exact ⟨hfunctions, hsalt, hchecksum, hbytes, hmessage⟩
  | message => exact ⟨hfunctions, hsalt, hchecksum, hiv, hbytes⟩
  | checksum => exact ⟨hfunctions, hsalt, hbytes, hiv, hmessage⟩

/-- Fields that are decoded after a replacement are the old ones but for the replaced one. -/
theorem exists_of_fields_replace (h : c.fields = .ok f) (h' : (c.replace text part).fields = .ok f') :
    ∃ bytes, fieldBytes part.name text = .ok bytes ∧ f' = f.replace bytes part := by
  obtain ⟨bytes, hbytes⟩ : ∃ bytes, fieldBytes part.name text = .ok bytes := by
    obtain ⟨-, -, hchecksum, hiv, hmessage⟩ := fields_eq_ok_iff.mp h'
    cases part with
    | iv => exact ⟨_, hiv⟩
    | message => exact ⟨_, hmessage⟩
    | checksum => exact ⟨_, hchecksum⟩
  exact ⟨bytes, hbytes, Except.ok.inj (h'.symm.trans (fields_replace h hbytes))⟩

/-- The password finds the same key. -/
theorem keyed?_replace_iff (h : c.keyed? password = some (f, key)) :
    (c.replace text part).keyed? password = some (f', key') ↔
      key' = key ∧ ∃ bytes, fieldBytes part.name text = .ok bytes ∧ f' = f.replace bytes part := by
  obtain ⟨hfields, hkey⟩ := keyed?_eq_some_iff.mp h
  rw [keyed?_eq_some_iff, kdf_replace]
  constructor
  · rintro ⟨hfields', hkey'⟩
    obtain ⟨bytes, hbytes, rfl⟩ := exists_of_fields_replace hfields hfields'
    rw [salt_replace, hkey] at hkey'
    exact ⟨(Except.ok.inj hkey').symm, bytes, hbytes, rfl⟩
  · rintro ⟨rfl, bytes, hbytes, rfl⟩
    rw [salt_replace]
    exact ⟨fields_replace hfields hbytes, hkey⟩

/-- The start of the stream and the checksum are not hashed. -/
theorem checksumInput?_replace (h : c.keyed? password = some (f, key)) {bytes : Bytes}
    (hbytes : fieldBytes part.name text = .ok bytes) (hpart : part ≠ .message) :
    (c.replace text part).checksumInput? password = c.checksumInput? password := by
  have hkeyed : (c.replace text part).keyed? password = some (f.replace bytes part, key) :=
    (keyed?_replace_iff h).mpr ⟨rfl, bytes, hbytes, rfl⟩
  rw [checksumInput?, checksumInput?, h, hkeyed]
  cases part with
  | iv => rfl
  | message => exact absurd rfl hpart
  | checksum => rfl

/-- **What is computed after a replacement**, with the key that the password found before. -/
theorem decrypt_replace_eq_ok_iff (h : c.keyed? password = some (f, key)) {out : Bytes} :
    (c.replace text part).decrypt password = .ok out ↔
      ∃ bytes iv, fieldBytes part.name text = .ok bytes ∧
        (checksumOf key (f.replace bytes part).message).toList = (f.replace bytes part).checksum ∧
        Octets.ofList? 16 (f.replace bytes part).iv = some iv ∧
        Aes.counterMode key.cipher iv (f.replace bytes part).message = out := by
  rw [decrypt_eq_ok_iff]
  constructor
  · rintro ⟨f', key', iv, hkeyed, hchecksum, hiv, hout⟩
    obtain ⟨rfl, bytes, hbytes, rfl⟩ := (keyed?_replace_iff h).mp hkeyed
    exact ⟨bytes, iv, hbytes, hchecksum, hiv, hout⟩
  · rintro ⟨bytes, iv, hbytes, hchecksum, hiv, hout⟩
    exact ⟨_, key, iv, (keyed?_replace_iff h).mpr ⟨rfl, bytes, hbytes, rfl⟩, hchecksum, hiv, hout⟩

/-! ## Containers that were made -/

section Made

variable {G : Type} [SignatureScheme G] {secret out : Bytes} {cost : Cost} {salt : Octets 32}
  {iv uuid : Octets 16}

/-- A container with a replaced text is read back from its own text. -/
theorem ofText_text_replace (h : lock G secret password cost salt iv uuid = .ok c) (text : String)
    (part : SealedPart) : ofText (c.replace text part).text = .ok (c.replace text part) := by
  obtain ⟨key, -, hfunctions, hparams, -⟩ := lock_eq_ok h
  exact ofText_text_of_nil (checksum_params_replace.trans hparams)
    (functionFault_replace.trans hfunctions)

/-- The container that is made under a key that is known. -/
theorem exists_lock_of_deriveKey (hkey : deriveKey (passwordBytes password) salt.toList
      ⟨32, cost.n, cost.r, cost.p, hexText salt.toList⟩ = .ok key) :
    ∃ c, lock G secret password cost salt iv uuid = .ok c ∧
      c.keyed? password = some (⟨salt.toList,
        (checksumOf key (Aes.counterMode key.cipher iv secret)).toList, iv.toList,
        Aes.counterMode key.cipher iv secret⟩, key) := by
  obtain ⟨c, hlock, hparams⟩ : ∃ c, lock G secret password cost salt iv uuid = .ok c ∧
      c.kdf.params = ⟨32, cost.n, cost.r, cost.p, hexText salt.toList⟩ := by
    unfold lock
    simp only [hkey]
    exact ⟨_, rfl, rfl⟩
  obtain ⟨key', hkeyed⟩ := keyed?_lock hlock
  have hkey' := (keyed?_eq_some_iff.mp hkeyed).2
  rw [hparams, hkey] at hkey'
  cases hkey'
  exact ⟨c, hlock, hkeyed⟩

/-- **A container with a replaced secret or checksum opens to the secret**, or two hashed strings
    collide. -/
theorem eq_or_collides_of_decrypt_replace (h : lock G secret password cost salt iv uuid = .ok c)
    (hpart : part ≠ .iv) (hopen : (c.replace text part).decrypt password = .ok out) :
    out = secret ∨ Collides sha256 ((c.checksumInput? password).toList ++
      ((c.replace text part).checksumInput? password).toList) := by
  obtain ⟨key, hkeyed⟩ := keyed?_lock h
  obtain ⟨bytes, start, hbytes, hchecksum, hstart, rfl⟩ := (decrypt_replace_eq_ok_iff hkeyed).mp hopen
  let encrypted := Aes.counterMode key.cipher iv secret
  -- The start of the stream is the old one, so that the old message gives the secret.
  have hsame : start = iv := by
    have hlisted : Octets.ofList? 16 iv.toList = some start := by
      cases part with
      | iv => exact absurd rfl hpart
      | message => exact hstart
      | checksum => exact hstart
    rw [Octets.ofList?_toList] at hlisted
    exact (Option.some.inj hlisted).symm
  subst hsame
  have hopens : Aes.counterMode key.cipher start encrypted = secret := Aes.counterMode_counterMode _ _ _
  cases part with
  | iv => exact absurd rfl hpart
  | checksum =>
    left
    exact hopens
  | message =>
    by_cases hmessage : bytes = encrypted
    · left
      rw [← hopens, ← hmessage]
      rfl
    · right
      have hkeyed' : (c.replace text .message).keyed? password = some (_, key) :=
        (keyed?_replace_iff hkeyed).mpr ⟨rfl, bytes, hbytes, rfl⟩
      refine ⟨key.check.toList ++ encrypted, ?_, key.check.toList ++ bytes, ?_, ?_, ?_⟩
      · rw [checksumInput?, hkeyed]
        exact List.mem_cons_self
      · rw [checksumInput?, checksumInput?, hkeyed, hkeyed']
        exact List.mem_cons_of_mem _ List.mem_cons_self
      · intro heq
        exact hmessage (List.append_cancel_left heq).symm
      · exact (Octets.ext hchecksum).symm

/-- The key stream that a password and a container give. -/
def keyStream? (c : Container) (password : String) (n : Nat) : Option Bytes :=
  match c.keyed? password with
  | none => none
  | some (f, key) => (Octets.ofList? 16 f.iv).map fun iv => Aes.keyStream key.cipher iv n

/-- **A container with a replaced start opens to the secret combined with both streams.** -/
theorem decrypt_replace_iv (h : lock G secret password cost salt iv uuid = .ok c)
    (hopen : (c.replace text .iv).decrypt password = .ok out) :
    ∃ stream stream', c.keyStream? password secret.length = some stream ∧
      (c.replace text .iv).keyStream? password secret.length = some stream' ∧
      stream.length = secret.length ∧ stream'.length = secret.length ∧
      out = Bytes.xor (Bytes.xor secret stream) stream' := by
  obtain ⟨key, hkeyed⟩ := keyed?_lock h
  obtain ⟨bytes, start, hbytes, -, hstart, rfl⟩ := (decrypt_replace_eq_ok_iff hkeyed).mp hopen
  have hkeyed' : (c.replace text .iv).keyed? password = some (_, key) :=
    (keyed?_replace_iff hkeyed).mpr ⟨rfl, bytes, hbytes, rfl⟩
  refine ⟨Aes.keyStream key.cipher iv secret.length, Aes.keyStream key.cipher start secret.length,
    ?_, ?_, Aes.length_keyStream _ _ _, Aes.length_keyStream _ _ _, ?_⟩
  · simp only [keyStream?, hkeyed, Octets.ofList?_toList, Option.map_some]
  · simp only [keyStream?, hkeyed', hstart, Option.map_some]
  · show Aes.counterMode key.cipher start (Aes.counterMode key.cipher iv secret) = _
    rw [Aes.counterMode, Aes.length_counterMode, Aes.counterMode]

end Made

end Container

/-! ## Loading -/

section Loading

variable {G : Type} [SignatureScheme G] {files : Workspace} {file : LockedFile} {k : String}
  {s s' : Scalar}

theorem publicKey_of_lock {secret : Bytes} {password : String} {cost : Container.Cost}
    {salt : Octets 32} {iv uuid : Octets 16} {c : Container}
    (h : Container.lock G secret password cost salt iv uuid = .ok c)
    (hs : Scalar.secret? secret = some s) : Exit.publicKeyText G s = "0x" ++ c.publicKey := by
  unfold Container.lock at h
  dsimp only at h
  split at h
  · cases h
  cases h
  simp only [hs]
  apply String.toList_inj.mp
  rw [String.toList_append, Exit.publicKeyText, Hex.ofOctets, Hex.encode0x, Container.hexText]
  simp only [String.toList_ofList]
  rfl

/-- **What a tampered container is loaded as.** If the file of a container in which one text was replaced
    is opened with the password that the container was made for, and the replaced text is the encrypted
    secret or the checksum, then the secret that is loaded is the old one, under the public key that
    the container records, unless two hashed strings collide. If it is the start of the stream, the
    secret that is loaded is the old one combined with the stream from the old start and the stream
    from the new one: it is the old one just if the streams agree. -/
theorem openFile_replace {secret : Bytes} (hs : Scalar.secret? secret = some s) {password : String}
    {cost : Container.Cost} {t t' : Tape} {c : Container}
    (hmade : Container.encrypt G secret password cost t = some (.ok c, t')) {part : SealedPart}
    {new text : String} (hread : files.readText file.path = .ok text)
    (htext : Container.ofText text = .ok (c.replace new part)) (hpassword : file.password = password)
    (hopen : openFile G files file = .ok (k, s')) :
    (part ≠ .iv → (s' = s ∧ k = "0x" ++ c.publicKey) ∨
      Collides sha256 ((c.checksumInput? password).toList ++
        ((c.replace new part).checksumInput? password).toList)) ∧
    (part = .iv → ∃ stream stream', c.keyStream? password 32 = some stream ∧
      (c.replace new part).keyStream? password 32 = some stream' ∧
      Scalar.secret? (Bytes.xor (Bytes.xor secret stream) stream') = some s' ∧
      k = Exit.publicKeyText G s' ∧ (s' = s ↔ stream' = stream)) := by
  obtain ⟨-, salt, iv, uuid, hlock⟩ := Container.encrypt_eq_some hmade
  obtain ⟨text', c', bytes, hread', htext', hdecrypt, hs', hk⟩ := openFile_eq_ok hopen
  cases hread.symm.trans hread'
  cases htext.symm.trans htext'
  subst hpassword
  have hlength := (Scalar.secret?_eq_some hs).1
  constructor
  · intro hpart
    rcases Container.eq_or_collides_of_decrypt_replace hlock.symm hpart hdecrypt with heq | hcollide
    · left
      rw [heq, hs] at hs'
      cases hs'
      exact ⟨rfl, hk.trans (publicKey_of_lock hlock.symm hs)⟩
    · right
      exact hcollide
  · rintro rfl
    obtain ⟨stream, stream', hstream, hstream', hlong, hlong', rfl⟩ :=
      Container.decrypt_replace_iv hlock.symm hdecrypt
    rw [hlength] at hstream hstream'
    refine ⟨stream, stream', hstream, hstream', hs', hk, ?_⟩
    -- The encrypted secret combined with the old stream is the secret again.
    have hback : Bytes.xor (Bytes.xor secret stream) stream = secret :=
      Bytes.xor_xor (Nat.le_of_eq hlong.symm)
    constructor
    · rintro rfl
      have heq := Scalar.eq_of_secret?_eq_some hs' (hback.symm ▸ hs)
      have hmixed : (Bytes.xor secret stream).length = secret.length := by
        rw [Bytes.length_xor, hlong, Nat.min_self]
      exact Bytes.xor_left_cancel (hlong'.trans hmixed.symm) (hlong.trans hmixed.symm) heq
    · rintro rfl
      rw [hback, hs] at hs'
      exact (Option.some.inj hs').symm

/-- An encrypted secret behind a marker is the same one. -/
theorem openFile_replace_marked :
    let secret := (Scalar.ofNat 5).toOctets.toList
    ∃ c t',
      Container.encrypt Curve.Signatures secret "pw" ⟨2, 1, 1⟩ (Tape.zeros 0 64)
        = some (.ok c, t') ∧
      let c' := c.replace ("0x" ++ c.cipher.message) .message
      Container.ofText c'.text = .ok c' ∧
      ∃ k s', openFile Curve.Signatures (oneContainer c'.text) oneFile = .ok (k, s') ∧
        ((s' = Scalar.ofNat 5 ∧ k = "0x" ++ c.publicKey) ∨
          Collides sha256 ((c.checksumInput? "pw").toList ++ (c'.checksumInput? "pw").toList)) := by
  intro secret
  obtain ⟨c, hlock⟩ : ∃ c, Container.lock Curve.Signatures secret "pw" ⟨2, 1, 1⟩ (.zero 32) (.zero 16)
      (.zero 16) = .ok c := Container.exists_lock (by rfl) (by decide)
  have hmade := (Container.encrypt_zeros Curve.Signatures secret "pw" ⟨2, 1, 1⟩).trans (by rw [hlock])
  have hs : Scalar.secret? secret = some (Scalar.ofNat 5) := Scalar.secret?_toOctets (by decide)
  have htext := Container.ofText_text_replace hlock ("0x" ++ c.cipher.message) .message
  have hopen : (c.replace ("0x" ++ c.cipher.message) .message).decrypt "pw" = .ok secret := by
    obtain ⟨key, hkeyed⟩ := Container.keyed?_lock hlock
    have hfields := (Container.keyed?_eq_some_iff.mp hkeyed).1
    have hmessage := (Container.fieldBytes_marked "cipher message" c.cipher.message).trans
      (Container.fields_eq_ok_iff.mp hfields).2.2.2.2
    exact (Container.decrypt_replace_eq_ok_iff hkeyed).mpr ⟨_, .zero 16, hmessage, rfl,
      Octets.ofList?_toList _, Aes.counterMode_counterMode _ _ _⟩
  have hfile := openFile_oneContainer (G := Curve.Signatures) htext hopen hs
  exact ⟨c, _, hmade, htext, _, _, hfile, (openFile_replace hs hmade (readText_oneContainer _) htext rfl
    hfile).1 nofun⟩

end Loading

/-! ## A container under a known key -/

/-- The key of `pw` at the lowest costs and without salt. -/
def plainKey : Container.Key :=
  ⟨.ofNat 16 0x470ea6169091dcb000b7e2065985a333, .ofNat 16 0xfdeb6e3fe44152944cc37b379c50bf64⟩

theorem derive_plain :
    Scrypt.derive [0x70, 0x77] (Octets.zero 32).toList ⟨1, 1, 1⟩ 32
      = plainKey.cipher.toList ++ plainKey.check.toList := by
  -- The kernel evaluates hashes word by word.
  have hsha : sha256 = fun bs => Sha256.finish (Sha256.Words.after bs).state :=
    funext Sha256.sha256_eq
  simp only [Scrypt.derive, pbkdf2, hmac, hsha]
  decide +kernel

/-- What is derived at the lowest costs and without salt is cut into a key. -/
theorem deriveKey_of_derive {password : Bytes} {key : Container.Key}
    (h : Scrypt.derive password (Octets.zero 32).toList ⟨1, 1, 1⟩ 32
      = key.cipher.toList ++ key.check.toList) (salt : String) :
    Container.deriveKey password (Octets.zero 32).toList ⟨32, 2, 1, 1, salt⟩ = .ok key := by
  have hrounds : Scrypt.log2Exact? (2 : UInt64).toNat = some (0 + 1) := by decide
  let params : KdfParams := ⟨32, 2, 1, 1, salt⟩
  obtain ⟨found, hfound⟩ : ∃ found, Container.deriveKey password (Octets.zero 32).toList params
      = .ok found :=
    Container.exists_deriveKey _ _ (show 32 ≤ (32 : UInt64).toNat by decide)
      (show (32 : UInt64).toNat ≤ 64 by decide) hrounds
      (show (⟨0 + 1, (1 : UInt32).toNat, (1 : UInt32).toNat⟩ : Scrypt.Cost).Fits by decide)
  obtain ⟨logN, hrounds', hcipher, hcheck⟩ := Container.deriveKey_eq_ok hfound
  cases hrounds.symm.trans hrounds'
  have hsame : found = key := by
    obtain ⟨cipher, check⟩ := found
    have hfirst : cipher = key.cipher := by
      apply Octets.ext
      rw [hcipher]
      exact (congrArg (List.take 16) h).trans (List.take_left' key.cipher.length_toList)
    have hsecond : check = key.check := by
      apply Octets.ext
      rw [hcheck]
      refine (congrArg (fun bytes => (List.drop 16 bytes).take 16) h).trans ?_
      show (List.drop 16 (key.cipher.toList ++ key.check.toList)).take 16 = key.check.toList
      rw [List.drop_left' key.cipher.length_toList, List.take_of_length_le]
      exact Nat.le_of_eq key.check.length_toList
    rw [hfirst, hsecond]
  rw [← hsame]
  exact hfound

theorem deriveKey_plain (salt : String) :
    Container.deriveKey (passwordBytes "pw") (Octets.zero 32).toList ⟨32, 2, 1, 1, salt⟩
      = .ok plainKey := by
  have hpassword : passwordBytes "pw" = [0x70, 0x77] := by decide +kernel
  rw [hpassword]
  exact deriveKey_of_derive derive_plain salt

/-- Another start of the stream. -/
def otherStart : String := "00000000000000000000000000000001"

/-- What the message under `plainKey` opens to from there. -/
def otherSecret : Scalar :=
  .ofNat 0x60481297a07fef13a7cc6fe2aeae96c63498eaa480d4999d53c084ee98d69230

theorem counterMode_plain :
    Aes.counterMode plainKey.cipher (.ofNat 16 1)
      (Aes.counterMode plainKey.cipher (.zero 16) (Scalar.ofNat 5).toOctets.toList)
      = otherSecret.toOctets.toList := by
  decide +kernel

/-- **A container with another start opens to another secret**, and nothing collides. -/
theorem openFile_replace_iv_other :
    let secret := (Scalar.ofNat 5).toOctets.toList
    ∃ c t' k s',
      Scalar.secret? secret = some (Scalar.ofNat 5) ∧
      Container.encrypt Curve.Signatures secret "pw" ⟨2, 1, 1⟩ (Tape.zeros 0 64)
        = some (.ok c, t') ∧
      let c' := c.replace otherStart .iv
      Container.ofText c'.text = .ok c' ∧
      openFile Curve.Signatures (oneContainer c'.text) oneFile = .ok (k, s') ∧
      s' ≠ Scalar.ofNat 5 ∧
      ¬ Collides sha256 ((c.checksumInput? "pw").toList ++ (c'.checksumInput? "pw").toList) := by
  intro secret
  obtain ⟨c, hlock, hkeyed⟩ : ∃ c,
      Container.lock Curve.Signatures secret "pw" ⟨2, 1, 1⟩ (.zero 32) (.zero 16) (.zero 16) = .ok c ∧
      c.keyed? "pw" = some (_, plainKey) :=
    Container.exists_lock_of_deriveKey (deriveKey_plain (Container.hexText (Octets.zero 32).toList))
  have hmade := (Container.encrypt_zeros Curve.Signatures secret "pw" ⟨2, 1, 1⟩).trans (by rw [hlock])
  have hstart : Container.fieldBytes "cipher iv" otherStart = .ok (Octets.ofNat 16 1).toList := by
    decide +kernel
  have hkeyed' : (c.replace otherStart .iv).keyed? "pw" = some (_, plainKey) :=
    (Container.keyed?_replace_iff hkeyed).mpr ⟨rfl, _, hstart, rfl⟩
  have hopen : (c.replace otherStart .iv).decrypt "pw" = .ok otherSecret.toOctets.toList :=
    Container.decrypt_eq_ok_iff.mpr ⟨_, plainKey, .ofNat 16 1, hkeyed', rfl,
      Octets.ofList?_toList _, counterMode_plain⟩
  have htext := Container.ofText_text_replace hlock otherStart .iv
  have hother : Scalar.secret? otherSecret.toOctets.toList = some otherSecret :=
    Scalar.secret?_toOctets (by decide)
  refine ⟨c, Tape.zeros 64 64, _, otherSecret, Scalar.secret?_toOctets (by decide), hmade, htext,
    openFile_oneContainer htext hopen hother, by decide, ?_⟩
  -- It is the same string that is hashed both times.
  rintro ⟨x, hx, y, hy, hne, -⟩
  have hinput : (c.replace otherStart .iv).checksumInput? "pw" = c.checksumInput? "pw" :=
    Container.checksumInput?_replace hkeyed hstart nofun
  rw [hinput, List.mem_append, or_self, Option.mem_toList] at hx hy
  exact hne (Option.some.inj (hx.symm.trans hy))

end Registrar.Keystore
