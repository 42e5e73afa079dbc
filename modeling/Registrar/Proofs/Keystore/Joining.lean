import Registrar.Proofs.Curve.Scalar
import Registrar.Proofs.Deposit.Agreement
import Registrar.Proofs.Keystore.Container
import Registrar.Proofs.Keystore.Loading

/-!
# Rosters and rings

The validators of a roster and the keys of a ring meet in the texts of public keys. A ring writes a key
with a small marker and small digits. A roster keeps the text of the file, in front of which it only puts
a marker where there is none. So a validator finds its key if its text has no capital letter, and finds
nothing if it has one, although the text stands for the same bytes.

## Contents

- `Hex.encode_eq_iff`: a text that was read is the one that is written if it has no capitals;
- `openFile_eq_ok`: what opens to a key;
- `key_of_load`: a loaded ring has every key under the text that is derived from it;
- `secret?_of_small` and `secret?_of_capital`, and `secret?_publicKey_iff`, which validators find their
  keys;
- `oneContainer`, a directory with one container, with `openFile_oneContainer` and
  `load_oneContainer`.
-/

namespace Registrar

/-! ## Capitals -/

namespace Hex

theorem isUpper_iff (c : Char) : c.isUpper = true ↔ 65 ≤ c.toNat ∧ c.toNat ≤ 90 := by
  show decide (c.val ≥ 'A'.val ∧ c.val ≤ 'Z'.val) = true ↔ _
  rw [decide_eq_true_eq]
  exact Iff.rfl

theorem isUpper_digit {n : Nat} (h : n < 16) : (digit n).isUpper = false := by
  revert n
  decide

/-- A digit that is no capital is the one that is written for its value. -/
theorem digit_of_digit? {c : Char} {n : Nat} (h : digit? c = some n) (hsmall : c.isUpper = false) :
    digit n = c := by
  have hcapital : ¬ (65 ≤ c.toNat ∧ c.toNat ≤ 90) := fun hc => by
    rw [(isUpper_iff c).mpr hc] at hsmall
    cases hsmall
  unfold digit? at h
  dsimp only at h
  refine Char.toNat_inj.mp ?_
  have hwritten : ∀ n < 16, (digit n).toNat = if n < 10 then 48 + n else 87 + n := by decide
  rw [hwritten n (lt_of_digit? h)]
  split at h
  · cases h
    rw [if_pos (by omega)]
    omega
  split at h
  · cases h
    rw [if_neg (by omega)]
    omega
  split at h
  · omega
  · cases h

theorem isUpper_of_mem_encode {bs : Bytes} {c : Char} (h : c ∈ encode bs) : c.isUpper = false := by
  obtain ⟨b, -, hc⟩ := List.mem_flatMap.mp h
  rcases List.mem_cons.mp hc with rfl | hc
  · exact isUpper_digit (by have := b.toNat_lt; omega)
  · rw [List.mem_singleton.mp hc]
    exact isUpper_digit (Nat.mod_lt _ (by omega))

/-- Digits without capitals are those that are written for their bytes. -/
theorem encode_of_decodePairs {offset : Nat} {s : List Char} {bs : Bytes}
    (h : decodePairs offset s = .ok bs) (hsmall : ∀ c ∈ s, c.isUpper = false) : encode bs = s := by
  fun_induction decodePairs offset s generalizing bs with
  | case1 =>
    cases h
    rfl
  | case2 => cases h
  | case3 => cases h
  | case4 => cases h
  | case5 => cases h
  | case6 offset c d rest high low hd hc bs' hrest ih =>
    cases h
    obtain ⟨hsmallc, hsmall⟩ := List.forall_mem_cons.mp hsmall
    obtain ⟨hsmalld, hsmall⟩ := List.forall_mem_cons.mp hsmall
    have hhigh := lt_of_digit? hc
    have hlow := lt_of_digit? hd
    have hbyte : (UInt8.ofNat (16 * high + low)).toNat = 16 * high + low :=
      UInt8.toNat_ofNat_of_lt (show 16 * high + low < 256 by omega)
    have hpair : encodeByte (UInt8.ofNat (16 * high + low)) = [c, d] := by
      rw [encodeByte, hbyte, show (16 * high + low) / 16 = high by omega,
        show (16 * high + low) % 16 = low by omega, digit_of_digit? hc hsmallc,
        digit_of_digit? hd hsmalld]
    rw [encode, List.flatMap_cons, hpair]
    exact congrArg (fun cs => c :: d :: cs) (ih hrest hsmall)
  | case7 => cases h

/-- **A text that was read is the one that is written for its bytes just if it has no capitals.** -/
theorem encode_eq_iff {s : List Char} {bs : Bytes} (h : decode s = .ok bs) :
    encode bs = s ↔ ∀ c ∈ s, c.isUpper = false := by
  constructor
  · rintro rfl c hc
    exact isUpper_of_mem_encode hc
  · intro hsmall
    unfold decode at h
    split at h
    · cases h
    · exact encode_of_decodePairs h hsmall

end Hex

/-! ## Marked texts -/

namespace Deposit

theorem exists_marked_addMarker (s : String) : ∃ digits, Marked (addMarker s).toList digits := by
  unfold addMarker
  split
  · next digits heq => exact ⟨digits, .inl heq⟩
  · next digits heq => exact ⟨digits, .inr heq⟩
  · exact ⟨s.toList, .inl (by simp)⟩

/-- **A marked text is the one that is written for its bytes just if it has no capitals**, the marker
    included. -/
theorem encode0x_eq_iff {s : String} {bs : Bytes} (hmarked : ∃ digits, Marked s.toList digits)
    (h : bytesOf? s = some bs) : Hex.encode0x bs = s ↔ ∀ c ∈ s.toList, c.isUpper = false := by
  obtain ⟨digits, hdigits⟩ := hmarked
  have hdecode : Hex.decode digits = .ok bs := by
    rw [bytesOf?, dropMarker_of_marked hdigits] at h
    cases hdecode : Hex.decode digits with
    | ok found =>
      rw [hdecode] at h
      cases h
      rfl
    | error fault =>
      rw [hdecode] at h
      cases h
  have hzero : ('0').isUpper = false := by decide
  rw [← String.toList_inj, Hex.encode0x, String.toList_ofList]
  rcases hdigits with heq | heq
  · have hx : ('x').isUpper = false := by decide
    rw [heq, List.forall_mem_cons, List.forall_mem_cons, ← Hex.encode_eq_iff hdecode]
    simp [hzero, hx]
  · -- The marker is a capital letter itself.
    have hX : ('X').isUpper = true := by decide
    rw [heq, List.forall_mem_cons, List.forall_mem_cons]
    simp [hX]

/-- The texts of a roster are marked. -/
theorem Roster.exists_marked {vault : Address} {amount : UInt64} {entries : List Entry} {d : Roster}
    (h : Roster.ofEntries? vault amount entries = .ok d) {v : Validator} (hv : v ∈ d.validators) :
    ∃ digits, Marked v.publicKey.toList digits := by
  obtain ⟨-, -, hvalidators, -⟩ := Roster.ofEntries?_eq_ok h
  rw [hvalidators] at hv
  obtain ⟨⟨e, i⟩, -, rfl⟩ := List.mem_map.mp hv
  exact exists_marked_addMarker e.publicKey

end Deposit

/-! ## Loaded rings -/

namespace Keystore

variable {G : Type} [SignatureScheme G] {files : Workspace} {source : Source} {schedule : Schedule}
  {ring : Keyring}

/-- A file is opened in five steps. -/
theorem openFile_eq_ok {file : LockedFile} {k : String} {s : Scalar}
    (h : openFile G files file = .ok (k, s)) :
    ∃ text c bytes, files.readText file.path = .ok text ∧ Container.ofText text = .ok c ∧
      c.decrypt file.password = .ok bytes ∧ Scalar.secret? bytes = some s ∧
      k = Exit.publicKeyText G s := by
  unfold openFile at h
  split at h
  · cases h
  next text htext =>
  split at h
  · cases h
  next c hc =>
  split at h
  · cases h
  · cases h
  next bytes hbytes =>
  split at h
  · cases h
  next hs =>
  cases h
  exact ⟨text, c, bytes, htext, hc, hbytes, hs, rfl⟩

/-- A container that is opened gives the text that is derived from its secret. -/
theorem publicKey_of_openFile {f : LockedFile} {k : String} {s : Scalar}
    (h : openFile G files f = .ok (k, s)) : k = Exit.publicKeyText G s := by
  obtain ⟨text, c, bytes, -, -, -, -, hk⟩ := openFile_eq_ok h
  exact hk

/-- **A loaded ring has every key under the text that is derived from it.** -/
theorem key_of_load (hload : load G files source schedule = .ok ring) {k : String} {s : Scalar}
    (hs : ring.secret? k = some s) : k = Exit.publicKeyText G s := by
  obtain ⟨fs, hfs, -, rfl⟩ := load_eq_ok hload
  obtain ⟨f, -, hf, -⟩ := (secret?_ringOfFiles_iff hfs).mp hs
  exact publicKey_of_openFile hf

/-- Nothing is under a text with a capital. -/
theorem secret?_of_capital (hload : load G files source schedule = .ok ring) {k : String}
    (hcapital : ∃ c ∈ k.toList, c.isUpper = true) : ring.secret? k = none := by
  cases hfound : ring.secret? k with
  | none => rfl
  | some s =>
    obtain ⟨c, hc, hupper⟩ := hcapital
    obtain rfl := key_of_load hload hfound
    have hsmall : ∀ c ∈ (Exit.publicKeyText G s).toList, c.isUpper = false := by
      intro c hc
      rw [Exit.publicKeyText, Hex.ofOctets, Hex.encode0x, String.toList_ofList] at hc
      rcases List.mem_cons.mp hc with rfl | hc
      · decide
      rcases List.mem_cons.mp hc with rfl | hc
      · decide
      · exact Hex.isUpper_of_mem_encode hc
    rw [hsmall c hc] at hupper
    cases hupper

/-- A text without capitals of the bytes of a loaded key finds the key. -/
theorem secret?_of_small (hload : load G files source schedule = .ok ring) {k k' : String} {s : Scalar}
    (hs : ring.secret? k' = some s) (hmarked : ∃ digits, Deposit.Marked k.toList digits)
    (hbytes : Deposit.bytesOf? k = some (SignatureScheme.publicKey G s).toList)
    (hsmall : ∀ c ∈ k.toList, c.isUpper = false) : ring.secret? k = some s := by
  have htext : Exit.publicKeyText G s = k := (Deposit.encode0x_eq_iff hmarked hbytes).mpr hsmall
  rw [← htext, ← key_of_load hload hs]
  exact hs

/-- **Which validators find their keys.** If a loaded ring has the secret whose public key a validator
    stands for, the validator finds it under its text just if there is no capital letter in the text,
    neither in the marker nor among the digits; otherwise it finds nothing. -/
theorem secret?_publicKey_iff (hload : load G files source schedule = .ok ring) {vault : Address}
    {amount : UInt64} {entries : List Deposit.Entry} {d : Deposit.Roster}
    (hbuilt : Deposit.Roster.ofEntries? vault amount entries = .ok d) {v : Deposit.Validator}
    (hv : v ∈ d.validators) {s : Scalar} (hs : ∃ k, ring.secret? k = some s)
    (hkey : Deposit.decodeField 48 "pubkey" v.publicKey = .ok (SignatureScheme.publicKey G s)) :
    (ring.secret? v.publicKey = some s ↔ ∀ c ∈ v.publicKey.toList, c.isUpper = false) ∧
      ((∃ c ∈ v.publicKey.toList, c.isUpper = true) → ring.secret? v.publicKey = none) := by
  obtain ⟨k, hk⟩ := hs
  have hmarked := Deposit.Roster.exists_marked hbuilt hv
  have hbytes := Deposit.decodeField_eq_ok_iff.mp hkey
  refine ⟨⟨?_, secret?_of_small hload hk hmarked hbytes⟩, secret?_of_capital hload⟩
  intro hfound c hc
  cases hupper : c.isUpper with
  | false => rfl
  | true =>
    rw [secret?_of_capital hload ⟨c, hc, hupper⟩] at hfound
    cases hfound

/-! ## A ring of one key -/

/-- A directory with a container and the file with its password. -/
def oneContainer (text : String) : Workspace :=
  ⟨.directory [("keystore-a.json", .file (Text.Utf8.write text)),
    ("keystore-a.txt", .file [0x70, 0x77])], []⟩

/-- Its files are looked for where they are. -/
def oneSource : Source := ⟨".", none, none, 1⟩

/-- The file that is found there. -/
def oneFile : LockedFile := ⟨"keystore-a.json", "./keystore-a.json", "pw"⟩

theorem lockedFiles_oneContainer (text : String) :
    lockedFiles (oneContainer text) oneSource = .ok [oneFile] := by
  have hlist : (oneContainer text).list "." = .ok ["keystore-a.json", "keystore-a.txt"] := rfl
  have hnames : containerNames (oneContainer text) "." ["keystore-a.json", "keystore-a.txt"]
      = ["keystore-a.json"] := by
    have hkept : (["keystore-a.json", "keystore-a.txt"].filter fun name =>
        isContainerName name && (oneContainer text).isFile (Path.join "." name))
          = ["keystore-a.json"] := rfl
    rw [containerNames, hkept, List.mergeSort_singleton]
  have hpassword : passwordOf (oneContainer text) oneSource "keystore-a.json" = .ok "pw" := rfl
  have hresolve : resolve "." (passwordOf (oneContainer text) oneSource) ["keystore-a.json"]
      = .ok [oneFile] := by
    rw [resolve, hpassword]
    rfl
  have hdirectory : oneSource.directory = "." := rfl
  simp only [lockedFiles_eq, hdirectory, hlist, hnames]
  exact hresolve

theorem readText_oneContainer (text : String) :
    (oneContainer text).readText oneFile.path = .ok text := Workspace.readText_of_read rfl

theorem openFile_oneContainer {text : String} {c : Container} {bytes : Bytes} {s : Scalar}
    (htext : Container.ofText text = .ok c) (hopen : c.decrypt "pw" = .ok bytes)
    (hs : Scalar.secret? bytes = some s) :
    openFile G (oneContainer text) oneFile = .ok (Exit.publicKeyText G s, s) :=
  openFile_of_decrypt (readText_oneContainer text) htext hopen hs

/-- **The ring of a container has its key**, if the container opens with the password beside it. -/
theorem load_oneContainer {text : String} {c : Container} {bytes : Bytes} {s : Scalar}
    (htext : Container.ofText text = .ok c) (hopen : c.decrypt "pw" = .ok bytes)
    (hs : Scalar.secret? bytes = some s) (schedule : Schedule) :
    ∃ ring, load G (oneContainer text) oneSource schedule = .ok ring ∧
      ring.secret? (Exit.publicKeyText G s) = some s := by
  have hwork : openFile G (oneContainer text) oneFile = .ok (Exit.publicKeyText G s, s) :=
    openFile_oneContainer htext hopen hs
  have hload := load_of_opened (G := G) (lockedFiles_oneContainer text)
    (by simpa using ⟨_, _, hwork⟩) oneSource.poolSize schedule
  refine ⟨_, hload, ?_⟩
  rw [secret?_ringOfFiles, List.reverse_singleton, List.findSome?_singleton]
  exact secretOf_eq_some.mpr hwork

/-- **A ring can be loaded for every secret**, with a container that is locked at the lowest costs. -/
theorem exists_load_oneContainer (G : Type) [SignatureScheme G] {s : Scalar} (hs : 0 < s.val) :
    ∃ c, Container.lock G s.toOctets.toList "pw" ⟨2, 1, 1⟩ (.zero 32) (.zero 16) (.zero 16) = .ok c ∧
      ∀ schedule, ∃ ring, load G (oneContainer c.text) oneSource schedule = .ok ring ∧
        ring.secret? (Exit.publicKeyText G s) = some s := by
  obtain ⟨c, hc⟩ : ∃ c, Container.lock G s.toOctets.toList "pw" ⟨2, 1, 1⟩ (.zero 32) (.zero 16)
      (.zero 16) = .ok c := Container.exists_lock (by rfl) (by decide)
  exact ⟨c, hc, load_oneContainer (Container.ofText_text_lock hc) (Container.decrypt_lock hc)
    (Scalar.secret?_toOctets hs)⟩

/-! ## Two spellings of one key -/

section Spellings

open Deposit

/-- An entry whose key is spelled in some way. -/
def spelledEntry (text : String) : Entry := ⟨text, Hex.ofOctets (Octets.zero 96)⟩

/-- A roster of one such entry. -/
theorem exists_roster_of_spelling {text : String} {key : Octets 48}
    (h : bytesOf? text = some key.toList) :
    ∃ d, Roster.ofEntries? (.replicate 20 0x42) 32000000000 [spelledEntry text] = .ok d ∧
      Validator.ofEntry 0 (spelledEntry text) ∈ d.validators ∧
      decodeField 48 "pubkey" (Validator.ofEntry 0 (spelledEntry text)).publicKey = .ok key := by
  have hsignature : bytesOf? (Hex.ofOctets (Octets.zero 96)) = some (Octets.zero 96).toList :=
    decodeField_eq_ok_iff.mp (decodeField_ofOctets "signature" (Octets.zero 96))
  have hspells : (spelledEntry text).Spells key (Octets.zero 96) :=
    Entry.spells_iff.mpr ⟨h, hsignature⟩
  have hlist : List.Forall₂ (fun e x => Entry.Spells e x.1 x.2) [spelledEntry text]
      [(key, Octets.zero 96)] := .cons hspells .nil
  obtain ⟨t, -, hd⟩ := Roster.exists_ofEntries?_of_spells (.replicate 20 0x42) 32000000000
    (List.cons_ne_nil _ _) hlist
  exact ⟨_, hd, List.mem_singleton_self _, hspells.1⟩

/-- A key behind a capital marker. -/
def capitalMarked (key : Octets 48) : String := String.ofList ('0' :: 'X' :: Hex.encode key.toList)

theorem bytesOf?_capitalMarked (key : Octets 48) :
    bytesOf? (capitalMarked key) = some key.toList := by
  have hdrop : dropMarker (capitalMarked key) = Hex.encode key.toList :=
    dropMarker_of_marked (.inr (String.toList_ofList))
  rw [bytesOf?, hdrop, Hex.decode_encode]
  rfl

theorem addMarker_capitalMarked (key : Octets 48) :
    addMarker (capitalMarked key) = capitalMarked key := by
  unfold addMarker capitalMarked
  rw [String.toList_ofList]
  rfl

/-- A validator whose key is written behind a capital marker does not find it, although it is loaded. -/
theorem secret?_publicKey_capitalMarked :
    let s := Scalar.ofNat 5
    let key := SignatureScheme.publicKey Curve.Signatures s
    let entry := spelledEntry (capitalMarked key)
    let v := Validator.ofEntry 0 entry
    ∃ c ring d,
      Container.lock Curve.Signatures s.toOctets.toList "pw" ⟨2, 1, 1⟩ (.zero 32) (.zero 16)
        (.zero 16) = .ok c ∧
      load Curve.Signatures (oneContainer c.text) oneSource (fun _ => 0) = .ok ring ∧
      Roster.ofEntries? (.replicate 20 0x42) 32000000000 [entry] = .ok d ∧ v ∈ d.validators ∧
      ring.secret? (Exit.publicKeyText Curve.Signatures s) = some s ∧
      decodeField 48 "pubkey" v.publicKey = .ok key ∧ ring.secret? v.publicKey = none := by
  intro s key entry v
  obtain ⟨c, hc, hload⟩ := exists_load_oneContainer Curve.Signatures
    (show 0 < (Scalar.ofNat 5).val by decide)
  obtain ⟨ring, hring, hs⟩ := hload fun _ => 0
  obtain ⟨d, hd, hv, hkey⟩ := exists_roster_of_spelling (bytesOf?_capitalMarked key)
  have htext : v.publicKey = capitalMarked key := addMarker_capitalMarked key
  have hcapital : ∃ c ∈ v.publicKey.toList, c.isUpper = true := by
    rw [htext, capitalMarked, String.toList_ofList]
    exact ⟨'X', List.mem_cons_of_mem _ List.mem_cons_self, by decide⟩
  exact ⟨c, ring, d, hc, hring, hd, hv, hs, hkey, secret?_of_capital hring hcapital⟩

/-- A validator whose key is written as it is derived finds it. -/
theorem secret?_publicKey_derived :
    let s := Scalar.ofNat 5
    let key := SignatureScheme.publicKey Curve.Signatures s
    let entry := spelledEntry (Hex.ofOctets key)
    let v := Validator.ofEntry 0 entry
    ∃ c ring d,
      Container.lock Curve.Signatures s.toOctets.toList "pw" ⟨2, 1, 1⟩ (.zero 32) (.zero 16)
        (.zero 16) = .ok c ∧
      load Curve.Signatures (oneContainer c.text) oneSource (fun _ => 0) = .ok ring ∧
      Roster.ofEntries? (.replicate 20 0x42) 32000000000 [entry] = .ok d ∧ v ∈ d.validators ∧
      (∃ k, ring.secret? k = some s) ∧ decodeField 48 "pubkey" v.publicKey = .ok key ∧
      (ring.secret? v.publicKey = some s ↔ ∀ c ∈ v.publicKey.toList, c.isUpper = false) ∧
      ((∃ c ∈ v.publicKey.toList, c.isUpper = true) → ring.secret? v.publicKey = none) := by
  intro s key entry v
  obtain ⟨c, hc, hload⟩ := exists_load_oneContainer Curve.Signatures
    (show 0 < (Scalar.ofNat 5).val by decide)
  obtain ⟨ring, hring, hs⟩ := hload fun _ => 0
  have hbytes : bytesOf? (Hex.ofOctets key) = some key.toList :=
    decodeField_eq_ok_iff.mp (decodeField_ofOctets "pubkey" key)
  obtain ⟨d, hd, hv, hkey⟩ := exists_roster_of_spelling hbytes
  have hloaded : ∃ k, ring.secret? k = some s := ⟨_, hs⟩
  exact ⟨c, ring, d, hc, hring, hd, hv, hloaded, hkey,
    secret?_publicKey_iff hring hd hv hloaded hkey⟩

end Spellings

end Keystore

end Registrar
