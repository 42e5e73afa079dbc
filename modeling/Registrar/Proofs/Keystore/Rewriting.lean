import Registrar.Proofs.Json.Normal
import Registrar.Proofs.Json.Records
import Registrar.Proofs.Keystore.Container

/-!
# Rewriting a container keeps it

What a container is read out of is written down part by part: which node gives each of its fields, which of
them may be left out, and what stands for those. The text of a container that was read gives every field,
in one order and nothing else. If it is read back, then as the same container, so writing it again changes
nothing, and every password opens it as before.

It is read back unless the parameters of the checksum stand in the way. An object among them may have been
given with the reserved key behind a greater one; it is written with the keys in order, and then the
reserved key comes first. And data that was given in texts may have more levels than one text can have.

## Contents

- `KdfParams.Given`, `Kdf.Given`, `Checksum.Given`, `Cipher.Given` and `Container.Given`, what the parts are
  read out of, with `Container.ofText_eq_ok_iff`;
- `Container.data`, what is written, with `Container.holds_text`;
- `Container.Writable` and `Container.ofText_text_iff`: when a container is read back;
- `Container.rewrite`, reading and writing, with `Container.rewrite_preserves`.
-/

namespace Registrar.Keystore

open Json Json.Format
open Json.Fields (cons_reads none_reads)

/-! ## What the parts are read out of -/

/-- The node of a text. -/
def textNode (s : String) : Node := .text (some s)

/-- The node of a natural number. -/
def naturalNode (n : UInt64) : Node := .number (some (.natural n))

/-- The text of a field that may be left out. -/
def GivenText (slot : Option Node) (s : String) : Prop :=
  Filled (fun node s => node = textNode s) (some "") slot s

/-- The members of a dictionary that may be left out. What they stand for is left in normal form. -/
def GivenMembers (slot : Option Node) (members : List (String × Value)) : Prop :=
  Filled (fun node members => ∃ given standing, node = (Value.object given).toNode ∧
    (Value.object given).levels < 125 ∧ Value.StandMembers given standing ∧
    members = Value.sorted (Value.normalMembers standing)) (some []) slot members

/-- The node gives derivation parameters. -/
def KdfParams.Given (node : Node) (k : KdfParams) : Prop :=
  Record ["dklen", "n", "r", "p", "salt"] node
    [some (naturalNode k.length), some (naturalNode k.n), some (naturalNode k.r.toUInt64),
      some (naturalNode k.p.toUInt64), some (textNode k.salt)]

/-- The node gives a derivation. -/
def Kdf.Given (node : Node) (k : Kdf) : Prop :=
  ∃ params message,
    Record ["function", "params", "message"] node [some (textNode k.function), some params, message] ∧
    KdfParams.Given params k.params ∧ GivenText message k.message

/-- The node gives a checksum. -/
def Checksum.Given (node : Node) (c : Checksum) : Prop :=
  ∃ params,
    Record ["function", "params", "message"] node
      [some (textNode c.function), params, some (textNode c.message)] ∧
    GivenMembers params c.params

/-- The node gives a cipher. -/
def Cipher.Given (node : Node) (c : Cipher) : Prop :=
  ∃ params,
    Record ["function", "params", "message"] node
      [some (textNode c.function), some params, some (textNode c.message)] ∧
    Record ["iv"] params [some (textNode c.iv)]

/-- The node gives the three functions. -/
def GivenCrypto (node : Node) (parts : Kdf × Checksum × Cipher) : Prop :=
  ∃ kdf checksum cipher,
    Record ["kdf", "checksum", "cipher"] node [some kdf, some checksum, some cipher] ∧
    Kdf.Given kdf parts.1 ∧ Checksum.Given checksum parts.2.1 ∧ Cipher.Given cipher parts.2.2

/-- The node gives a container. -/
def Container.Given (node : Node) (c : Container) : Prop :=
  ∃ crypto description publicKey path uuid,
    Record ["crypto", "description", "pubkey", "path", "uuid", "version"] node
      [some crypto, description, publicKey, path, uuid, some (naturalNode c.version.toUInt64)] ∧
    GivenCrypto crypto (c.kdf, c.checksum, c.cipher) ∧ GivenText description c.description ∧
    GivenText publicKey c.publicKey ∧ GivenText path c.path ∧ GivenText uuid c.uuid

variable {room : Nat}

theorem KdfParams.format_reads (hroom : 1 < room) : KdfParams.format.Reads room KdfParams.Given := by
  have hreads : KdfParams.format.Reads room _ := along_reads (record_reads (
    cons_reads (unsigned64_reads _ _) (by decide) <|
    cons_reads (unsigned64_reads _ _) (by decide) <|
    cons_reads (u32_reads _) (by decide) <| cons_reads (u32_reads _) (by decide) <|
    cons_reads (text_reads _) (by decide) <| none_reads _) hroom)
  intro node k
  refine (hreads node k).trans ?_
  simp only [Prod.exists, filledCons_iff, filled_none_iff, ↓existsAndEq, and_true, true_and,
    exists_eq_right, exists_const]
  constructor
  · rintro ⟨length, n, r, p, salt, hrecord, rfl⟩
    exact hrecord
  · intro h
    exact ⟨_, _, _, _, _, h, rfl⟩

theorem Kdf.format_reads (hroom : 2 < room) : Kdf.format.Reads room Kdf.Given := by
  have hparams := KdfParams.format_reads (show 1 < room - 1 by omega)
  have hreads : Kdf.format.Reads room _ := along_reads (record_reads (
    cons_reads (text_reads _) (by decide) <| cons_reads hparams (by decide) <|
    cons_reads (text_reads _) (by decide) <| none_reads _) (by omega))
  intro node k
  refine (hreads node k).trans ?_
  simp only [Prod.exists, filledCons_iff, filled_none_iff, ↓existsAndEq, and_true, true_and,
    exists_const]
  constructor
  · rintro ⟨function, params, message, ⟨paramsNode, slot, hrecord, hparams, hmessage⟩, rfl⟩
    exact ⟨_, _, hrecord, hparams, hmessage⟩
  · rintro ⟨params, message, hrecord, hparams, hmessage⟩
    exact ⟨_, _, _, ⟨_, _, hrecord, hparams, hmessage⟩, rfl⟩

theorem Checksum.format_reads : Checksum.format.Reads 126 Checksum.Given := by
  have hreads : Checksum.format.Reads 126 _ := along_reads (record_reads (
    cons_reads (text_reads _) (by decide) <| cons_reads dictionary_reads (by decide) <|
    cons_reads (text_reads _) (by decide) <| none_reads _) (by decide))
  intro node c
  refine (hreads node c).trans ?_
  simp only [Prod.exists, filledCons_iff, filled_none_iff, ↓existsAndEq, and_true, true_and,
    exists_const]
  constructor
  · rintro ⟨function, params, message, ⟨slot, hrecord, hparams⟩, rfl⟩
    exact ⟨_, hrecord, hparams⟩
  · rintro ⟨params, hrecord, hparams⟩
    exact ⟨_, _, _, ⟨_, hrecord, hparams⟩, rfl⟩

theorem Cipher.format_reads (hroom : 2 < room) : Cipher.format.Reads room Cipher.Given := by
  have hparams : Cipher.paramsFormat.Reads (room - 1) _ := along_reads (record_reads (
    cons_reads (text_reads _) (by decide) <| none_reads _) (by omega))
  have hreads : Cipher.format.Reads room _ := along_reads (record_reads (
    cons_reads (text_reads _) (by decide) <| cons_reads hparams (by decide) <|
    cons_reads (text_reads _) (by decide) <| none_reads _) (by omega))
  intro node c
  refine (hreads node c).trans ?_
  simp only [Prod.exists, filledCons_iff, filled_none_iff, ↓existsAndEq, and_true, true_and,
    exists_eq_right, exists_const]
  constructor
  · rintro ⟨function, iv, message, ⟨params, hrecord, hiv⟩, rfl⟩
    exact ⟨params, hrecord, hiv⟩
  · rintro ⟨params, hrecord, hiv⟩
    exact ⟨_, _, _, ⟨params, hrecord, hiv⟩, rfl⟩

theorem cryptoFormat_reads : cryptoFormat.Reads 127 GivenCrypto := by
  have hreads : cryptoFormat.Reads 127 _ := along_reads (record_reads (
    cons_reads (Kdf.format_reads (by decide)) (by decide) <|
    cons_reads Checksum.format_reads (by decide) <|
    cons_reads (Cipher.format_reads (by decide)) (by decide) <| none_reads _) (by decide))
  intro node parts
  refine (hreads node parts).trans ?_
  simp only [Prod.exists, filledCons_iff, filled_none_iff, ↓existsAndEq, and_true, true_and,
    exists_const]
  constructor
  · rintro ⟨kdf, checksum, cipher, hgiven, rfl⟩
    exact hgiven
  · intro hgiven
    exact ⟨_, _, _, hgiven, rfl⟩

theorem Container.format_reads : Container.format.Reads fullRoom Container.Given := by
  have hreads : Container.format.Reads fullRoom _ := along_reads (record_reads (
    cons_reads cryptoFormat_reads (by decide) <| cons_reads (text_reads _) (by decide) <|
    cons_reads (text_reads _) (by decide) <| cons_reads (text_reads _) (by decide) <|
    cons_reads (text_reads _) (by decide) <| cons_reads (u32_reads _) (by decide) <|
    none_reads _) (by decide))
  intro node c
  refine (hreads node c).trans ?_
  simp only [Prod.exists, filledCons_iff, filled_none_iff, ↓existsAndEq, and_true, true_and,
    exists_eq_right, exists_const]
  constructor
  · rintro ⟨kdf, checksum, cipher, description, publicKey, path, uuid, version, hgiven, rfl⟩
    exact hgiven
  · intro hgiven
    exact ⟨_, _, _, _, _, _, _, _, hgiven, rfl⟩

namespace Container

variable {s : String} {c : Container}

/-- **What a container is read out of.** The functions that it names have to be the expected ones. -/
theorem ofText_eq_ok_iff :
    ofText s = .ok c ↔ c.functionFault = none ∧ (Document.ofText s).trailing = false ∧
      Given (Document.ofText s).node c := by
  rw [← format_reads, and_comm (a := (Document.ofText s).trailing = false), ← Json.Format.ofText_eq_ok_iff,
    ofText]
  cases format.ofText s with
  | error fault => simp
  | ok c' =>
    dsimp only
    constructor
    · intro h
      split at h
      · cases h
      · next hnone =>
        cases h
        exact ⟨hnone, rfl⟩
    · rintro ⟨hnone, h⟩
      cases h
      rw [hnone]

/-! ## What is written -/

/-- The data of a container, with every field. -/
def data (c : Container) : Value :=
  .object [
    ("crypto", .object [
      ("kdf", .object [
        ("function", .text c.kdf.function),
        ("params", .object [
          ("dklen", .number (.natural c.kdf.params.length)),
          ("n", .number (.natural c.kdf.params.n)),
          ("r", .number (.natural c.kdf.params.r.toUInt64)),
          ("p", .number (.natural c.kdf.params.p.toUInt64)),
          ("salt", .text c.kdf.params.salt)]),
        ("message", .text c.kdf.message)]),
      ("checksum", .object [
        ("function", .text c.checksum.function),
        ("params", .object c.checksum.params),
        ("message", .text c.checksum.message)]),
      ("cipher", .object [
        ("function", .text c.cipher.function),
        ("params", .object [("iv", .text c.cipher.iv)]),
        ("message", .text c.cipher.message)])]),
    ("description", .text c.description),
    ("pubkey", .text c.publicKey),
    ("path", .text c.path),
    ("uuid", .text c.uuid),
    ("version", .number (.natural c.version.toUInt64))]

theorem text_eq (c : Container) : c.text = c.data.prettyText := by
  show (format.write c).prettyText = c.data.prettyText
  rfl

/-- **The text of a container holds every field**, and nothing else. -/
theorem holds_text (hexact : Value.ExactMembers c.checksum.params) : Holds c.text c.data := by
  have hdata : c.data.Exact := by
    simp [data, Value.Exact, Value.ExactMembers, Number.Exact, hexact]
  rw [text_eq]
  exact Document.ofText_eq_iff.mp (Document.ofText_prettyText hdata)

/-! ## What is read back -/

/-- The dictionary of a container that was read is in normal form. -/
theorem normal_params_of_ofText (h : ofText s = .ok c) :
    (Value.object c.checksum.params).normal = .object c.checksum.params := by
  obtain ⟨-, -, crypto, _, _, _, _, -, ⟨kdf, checksum, cipher, -, -, ⟨params, -, hparams⟩, -⟩, -⟩ :=
    ofText_eq_ok_iff.mp h
  dsimp only at hparams
  generalize c.checksum.params = members at hparams ⊢
  cases hparams with
  | given h =>
    obtain ⟨given, standing, -, -, -, rfl⟩ := h
    exact Value.normal_normal (.object standing)
  | blank h =>
    cases h
    rfl

/-- No object among the parameters of the checksum has the reserved key in front, and they have no more
    levels than a text has room for behind the three around them. -/
structure Writable (c : Container) : Prop where
  plain : Value.PlainMembers c.checksum.params
  levels : (Value.object c.checksum.params).levels ≤ 124

/-- What is read out of the data of a container has its checksum's parameters out of these. -/
theorem givenMembers_of_given_data {c' : Container} (h : Given c.data.toNode c') :
    GivenMembers (some (Value.object c.checksum.params).toNode) c'.checksum.params := by
  obtain ⟨crypto, _, _, _, _, hrecord, hcryptoGiven, -⟩ := h
  obtain ⟨kdf, checksum, cipher, hcrypto, -, ⟨params, hchecksum, hparams⟩, -⟩ := hcryptoGiven
  -- The parameters are looked up record by record.
  cases (List.cons.inj hrecord.slots_eq).1
  cases (List.cons.inj (List.cons.inj hcrypto.slots_eq).2).1
  have hslot := (List.cons.inj (List.cons.inj hchecksum.slots_eq).2).1
  rw [hslot] at hparams
  exact hparams

/-- **A container is read back** exactly if its parameters allow it. -/
theorem ofText_text_iff (h : ofText s = .ok c) (hexact : Value.ExactMembers c.checksum.params) :
    ofText c.text = .ok c ↔ c.Writable := by
  obtain ⟨hfunctions, -⟩ := ofText_eq_ok_iff.mp h
  have hnormal := normal_params_of_ofText h
  constructor
  · intro hread
    obtain ⟨-, -, hgiven⟩ := ofText_eq_ok_iff.mp hread
    rw [Document.ofText_eq_iff.mpr (holds_text hexact)] at hgiven
    have hparams := givenMembers_of_given_data hgiven
    cases hparams with
    | given hparams =>
      obtain ⟨given, standing, hnode, hlevels, hstand, hback⟩ := hparams
      obtain rfl : c.checksum.params = given := Value.object.inj (Value.toNode_inj hnode)
      exact ⟨(Value.exists_standMembers_iff hnormal).mp ⟨standing, hstand, hback.symm⟩,
        Nat.le_of_lt_succ hlevels⟩
  · rintro ⟨hplain, hlevels⟩
    have hpos : 1 ≤ (Value.object c.checksum.params).levels := Nat.succ_pos _
    exact ofText_text hpos (show _ + 3 < 128 by omega) (dictionary_restores hnormal hplain hexact) hfunctions

/-! ## Rewriting -/

/-- Reading a container and writing it. -/
def rewrite (s : String) : Except FormatFault String := (ofText s).map text

/-- **Rewriting a container keeps it.** Take a text that is read as a container, with no floating-point
    number in its checksum. The same container is read out of just those texts that give its fields: as
    the members of objects in any order, among unknown members, or as the items of arrays, and without
    the optional fields that are empty. Its own text has all fields and nothing else, and is read back
    exactly if the parameters of the checksum allow it; then rewriting once more changes nothing, and every
    password opens it as before. -/
theorem rewrite_preserves (h : ofText s = .ok c) (hexact : Value.ExactMembers c.checksum.params) :
    (∀ s', ofText s' = .ok c ↔
      (Document.ofText s').trailing = false ∧ Given (Document.ofText s').node c) ∧
    Holds c.text c.data ∧ rewrite s = .ok c.text ∧ (ofText c.text = .ok c ↔ c.Writable) ∧
    (c.Writable → rewrite c.text = .ok c.text ∧
      ∀ password, (ofText c.text).map (·.decrypt password) = (ofText s).map (·.decrypt password)) := by
  obtain ⟨hfunctions, -⟩ := ofText_eq_ok_iff.mp h
  have htext := ofText_text_iff h hexact
  refine ⟨?_, holds_text hexact, ?_, htext, fun hwritable => ⟨?_, ?_⟩⟩
  · intro s'
    rw [ofText_eq_ok_iff]
    exact and_iff_right hfunctions
  · rw [rewrite, h]
    rfl
  · rw [rewrite, htext.mpr hwritable]
    rfl
  · intro password
    rw [htext.mpr hwritable, h]

/-- Data of a container that was written by hand, with these parameters of its checksum: the members stand
    in another order, two of the records are arrays, and there is a note that no field takes. -/
def handwritten (params : List (String × Value)) : Value :=
  .object [
    ("version", .number (.natural 4)),
    ("note", .array [.null]),
    ("crypto", .object [
      ("cipher", .object [
        ("message", .text "00"), ("params", .array [.text "01"]), ("function", .text "aes-128-ctr")]),
      ("kdf", .array [
        .text "scrypt",
        .array [.number (.natural 32), .number (.natural 2), .number (.natural 1), .number (.natural 1),
          .text "02"]]),
      ("checksum", .object [
        ("message", .text "03"), ("params", .object params), ("function", .text "sha256")])]),
    ("uuid", .text "u")]

/-- The container that it is read as, if these are the parameters that are read. -/
def handwrittenContainer (params : List (String × Value)) : Container where
  kdf := ⟨"scrypt", ⟨32, 2, 1, 1, "02"⟩, ""⟩
  checksum := ⟨"sha256", params, "03"⟩
  cipher := ⟨"aes-128-ctr", "01", "00"⟩
  description := ""
  publicKey := ""
  path := ""
  uuid := "u"
  version := 4

theorem ofText_handwritten {params : List (String × Value)} (hexact : Value.ExactMembers params) :
    Document.ofText (handwritten params).compactText = ⟨(handwritten params).toNode, false⟩ := by
  apply Document.ofText_compactText
  simp [handwritten, Value.Exact, Value.ExactItems, Value.ExactMembers, Number.Exact, hexact]

/-- Parameters with one of them given twice. -/
def sampleParams : List (String × Value) :=
  [("b", .null), ("a", .number (.negative 0)),
    ("b", .array [.object [("y", .text "\"\\"), ("x", .bool true)]])]

/-- The parameters that are read. -/
def keptParams : List (String × Value) :=
  [("a", .number (.negative 0)), ("b", .array [.object [("x", .bool true), ("y", .text "\"\\")]])]

/-- A text that was written by hand is put in order. -/
theorem rewrite_preserves_sample :
    let s := (handwritten sampleParams).compactText
    let c := handwrittenContainer keptParams
    ofText s = .ok c ∧ Value.ExactMembers c.checksum.params ∧ Given (Document.ofText s).node c ∧
    Holds c.text c.data ∧ ofText c.text = .ok c ∧ s ≠ c.text ∧
    rewrite s = .ok c.text ∧ rewrite c.text = .ok c.text ∧
    ∀ password, (ofText c.text).map (·.decrypt password) = (ofText s).map (·.decrypt password) := by
  intro s c
  have hexact : Value.ExactMembers c.checksum.params := by
    simp [c, handwrittenContainer, keptParams, Value.Exact, Value.ExactItems, Value.ExactMembers,
      Number.Exact]
  have hdocument : Document.ofText s = ⟨(handwritten sampleParams).toNode, false⟩ := by
    apply ofText_handwritten
    simp [sampleParams, Value.Exact, Value.ExactItems, Value.ExactMembers, Number.Exact]
  have hread : ofText s = .ok c := by
    rw [ofText, Json.Format.ofText, hdocument]
    rfl
  have hne : s ≠ c.text := by
    intro heq
    have hsame : handwritten sampleParams = c.data :=
      Holds.unique (Document.ofText_eq_iff.mp hdocument) (heq ▸ holds_text hexact)
    simp [handwritten, data] at hsame
  have hwritable : c.Writable := by
    refine ⟨?_, by decide⟩
    simp [c, handwrittenContainer, keptParams, Value.PlainMembers, Value.PlainItems, Value.Plain,
      Value.Reserved, Value.rawKey]
  obtain ⟨hgiven, hholds, hrewrite, hback, hagain⟩ := rewrite_preserves hread hexact
  obtain ⟨hsame, hopens⟩ := hagain hwritable
  exact ⟨hread, hexact, ((hgiven s).mp hread).2, hholds, hback.mpr hwritable, hne, hrewrite, hsame, hopens⟩

/-- A parameter that is an object with the reserved key behind a greater one. -/
def hiddenParams : List (String × Value) :=
  [("x", .object [("b", .number (.natural 0)), (Value.rawKey, .text "1")])]

/-- The parameter as it is read and written, with the reserved key in front. -/
def exposedParams : List (String × Value) :=
  [("x", .object [(Value.rawKey, .text "1"), ("b", .number (.natural 0))])]

/-- A text that is read, as a container whose own text is not. -/
theorem ofText_text_exposed :
    let s := (handwritten hiddenParams).compactText
    let c := handwrittenContainer exposedParams
    ofText s = .ok c ∧ Value.ExactMembers c.checksum.params ∧ ∀ c', ofText c.text ≠ .ok c' := by
  intro s c
  have hexact : Value.ExactMembers c.checksum.params := by
    simp [c, handwrittenContainer, exposedParams, Value.Exact, Value.ExactMembers, Number.Exact]
  have hdocument : Document.ofText s = ⟨(handwritten hiddenParams).toNode, false⟩ := by
    apply ofText_handwritten
    simp [hiddenParams, Value.Exact, Value.ExactMembers, Number.Exact]
  have hread : ofText s = .ok c := by
    rw [ofText, Json.Format.ofText, hdocument]
    rfl
  refine ⟨hread, hexact, fun c' hback => ?_⟩
  obtain ⟨-, -, hgiven⟩ := ofText_eq_ok_iff.mp hback
  rw [Document.ofText_eq_iff.mpr (holds_text hexact)] at hgiven
  have hparams := givenMembers_of_given_data hgiven
  cases hparams with
  | given hparams =>
    obtain ⟨given, standing, hnode, -, hstand, -⟩ := hparams
    obtain rfl : exposedParams = given := Value.object.inj (Value.toNode_inj hnode)
    -- The reserved key is in front, and it is not alone.
    cases hstand with
    | cons _ h =>
      cases h with
      | object hfirst => exact hfirst rfl

end Container

end Registrar.Keystore
