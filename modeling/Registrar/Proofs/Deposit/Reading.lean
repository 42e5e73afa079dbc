import Registrar.Proofs.Deposit.Spelling
import Registrar.Proofs.Json.Formats
import Registrar.Proofs.Json.Values

/-!
# What an entry may look like

An element of deposit data stands for an entry if it is an object with two members of the right names, or
an array of two texts. The texts of an entry can be encoded if they are hexadecimal digits, as many as
a key and a signature have; the key is judged first.

## Contents

- `Entry.Given`, the entry of an element, with `Entry.ofValue_normal`;
- `HexText`, the texts that can be decoded, with `exists_decodeField_iff`;
- `Prefixed`, the text behind a marker;
- `Entry.IsHex` and `Entry.Faulty`, with `Validator.exists_encode_iff` and `Validator.encode_eq_error`.
-/

namespace Registrar

/-! ## Hexadecimal digits -/

namespace Hex

/-- The character is a digit, in either case. -/
def IsDigit (c : Char) : Prop :=
  ('0' ≤ c ∧ c ≤ '9') ∨ ('a' ≤ c ∧ c ≤ 'f') ∨ ('A' ≤ c ∧ c ≤ 'F')

theorem exists_digit?_iff {c : Char} : (∃ n, digit? c = some n) ↔ IsDigit c := by
  have hle (a b : Char) : a ≤ b ↔ a.toNat ≤ b.toNat := Iff.rfl
  simp only [IsDigit, hle, Char.reduceToNat]
  unfold digit?
  dsimp only
  split_ifs <;> simp <;> omega

theorem utf8Length_of_isDigit {s : List Char} (h : ∀ c ∈ s, IsDigit c) : utf8Length s = s.length := by
  induction s with
  | nil => rfl
  | cons c s ih =>
    obtain ⟨hc, hs⟩ := List.forall_mem_cons.mp h
    have hle (a b : Char) : a ≤ b ↔ a.toNat ≤ b.toNat := Iff.rfl
    have hsize : c.utf8Size = 1 := by
      simp only [IsDigit, hle, Char.reduceToNat] at hc
      exact Char.utf8Size_eq_one_iff.mpr (show c.toNat ≤ 127 by omega)
    rw [utf8Length, ih hs, hsize, List.length_cons, Nat.add_comm]

theorem isDigit_of_decodePairs {offset : Nat} {s : List Char} {bs : Bytes}
    (h : decodePairs offset s = .ok bs) : ∀ c ∈ s, IsDigit c := by
  fun_induction decodePairs offset s generalizing bs with
  | case1 => exact List.forall_mem_nil _
  | case2 => cases h
  | case3 => cases h
  | case4 => cases h
  | case5 => cases h
  | case6 offset c d rest high low hlow hhigh bs' hrest ih =>
    have hdigits := ih hrest
    simp only [List.forall_mem_cons]
    exact ⟨exists_digit?_iff.mp ⟨high, hhigh⟩, exists_digit?_iff.mp ⟨low, hlow⟩, hdigits⟩
  | case7 => cases h

theorem exists_decodePairs {offset : Nat} {s : List Char} (heven : s.length % 2 = 0)
    (hdigits : ∀ c ∈ s, IsDigit c) : ∃ bs, decodePairs offset s = .ok bs := by
  simp only [← exists_digit?_iff] at hdigits
  fun_induction decodePairs offset s with
  | case1 => exact ⟨[], rfl⟩
  | case2 => simp at heven
  | case3 => simp at heven
  | case4 => simp_all
  | case5 => simp_all
  | case6 => exact ⟨_, rfl⟩
  | case7 offset c d rest high low hlow hhigh fault hrest ih =>
    simp only [List.length_cons] at heven
    simp only [List.forall_mem_cons] at hdigits
    obtain ⟨bs, hbs⟩ := ih (by omega) hdigits.2.2
    rw [hrest] at hbs
    cases hbs

/-- **What can be decoded** are two digits for each byte. -/
theorem exists_decode_iff {n : Nat} {s : List Char} :
    (∃ bs, decode s = .ok bs ∧ bs.length = n) ↔ s.length = 2 * n ∧ ∀ c ∈ s, IsDigit c := by
  constructor
  · rintro ⟨bs, hdecode, rfl⟩
    refine ⟨length_of_decode hdecode, ?_⟩
    unfold decode at hdecode
    split at hdecode
    · cases hdecode
    · exact isDigit_of_decodePairs hdecode
  · rintro ⟨hlength, hdigits⟩
    have heven : s.length % 2 = 0 := by omega
    obtain ⟨bs, hpairs⟩ := exists_decodePairs heven hdigits
    have hdecode : decode s = .ok bs := by
      rw [decode, utf8Length_of_isDigit hdigits, if_neg (by omega), hpairs]
    have hbytes := length_of_decode hdecode
    exact ⟨bs, hdecode, by omega⟩

end Hex

namespace Deposit

open Json (Value Fields Format Holds)

/-! ## Entries -/

/-- What an element of the array must be to stand for an entry. -/
inductive Entry.Given : Value → Entry → Prop where
  | object {members : List (String × Value)} {key signature : String}
    (hkey : Value.last? "pubkey" members = some (.text key))
    (hsignature : Value.last? "signature" members = some (.text signature)) :
    Given (.object members) ⟨key, signature⟩
  | array (key signature : String) : Given (.array [.text key, .text signature]) ⟨key, signature⟩

theorem text_read_eq_ok {room : Nat} {v : Value} {s : String} :
    Format.text.read room v.toNode = .ok s ↔ v = .text s := by
  cases v <;> simp [Format.text, Value.toNode]

/-- The fields of an entry. -/
def Entry.fields : Fields (String × String × Unit) :=
  .field "pubkey" .text (.field "signature" .text .none)

/-- The fields are filled by the members of their names. -/
theorem Entry.fields_putAll {room : Nat} {members : List (String × Value)}
    (hnodup : (members.map (·.1)).Nodup) {key signature : String} :
    Entry.fields.putAll room (Value.nodesOfMembers members) Entry.fields.empty
        = .ok (some key, some signature, ()) ↔
      (members.find? (·.1 = "pubkey")).map (·.2) = some (.text key) ∧
        (members.find? (·.1 = "signature")).map (·.2) = some (.text signature) := by
  have hothers : ((members.filter (·.1 ≠ "pubkey")).map (·.1)).Nodup :=
    hnodup.sublist (List.filter_sublist.map _)
  have hnone : ∀ others : List (String × Value),
      Fields.none.putAll room (Value.nodesOfMembers others) () = .ok () := by
    intro others
    induction others with
    | nil => rfl
    | cons other others ih => exact (Fields.putAll_member _ room _ _ _ _).trans ih
  have hfind : (members.filter (·.1 ≠ "pubkey")).find? (·.1 = "signature")
      = members.find? (·.1 = "signature") := by
    rw [List.find?_filter]
    congr 1
    funext member
    by_cases hname : member.1 = "signature" <;> simp [hname]
  have hkey : Entry.fields.putAll room (Value.nodesOfMembers members) (none, (none, ()))
      = .ok (some key, (some signature, ())) ↔ _ := Fields.putAll_cons room hnodup _ _
  have hsignature : (Fields.field "signature" Format.text .none).putAll room
      (Value.nodesOfMembers (members.filter (·.1 ≠ "pubkey"))) (none, ())
        = .ok (some signature, ()) ↔ _ := Fields.putAll_cons room hothers _ _
  rw [hfind] at hsignature
  simp only [text_read_eq_ok, exists_eq_right, hnone, and_true] at hkey hsignature
  exact hkey.trans (and_congr_right fun _ => hsignature)

theorem Entry.fields_finish {slots : Entry.fields.Slots} {key signature : String} :
    Entry.fields.finish slots = .ok (key, signature, ()) ↔ slots = (some key, some signature, ()) := by
  obtain ⟨first, second, ⟨⟩⟩ := slots
  cases first <;> cases second <;> simp [Entry.fields, Fields.field, Fields.cons, Fields.none]

/-- What is read as an entry is read as its fields. -/
theorem Entry.format_read {room : Nat} {node : Json.Node} {e : Entry} :
    Entry.format.read room node = .ok e ↔
      (Format.record "DepositDataEntry" Entry.fields).read room node
        = .ok (e.publicKey, e.signature, ()) := by
  show ((Format.record "DepositDataEntry" Entry.fields).read room node).map _ = .ok e ↔ _
  cases (Format.record "DepositDataEntry" Entry.fields).read room node with
  | error fault => simp [Except.map]
  | ok parts =>
    obtain ⟨key, signature, ⟨⟩⟩ := parts
    cases e
    simp [Except.map]

theorem Entry.read_object {members : List (String × Value)} {e : Entry} :
    Entry.format.ofValue (Value.object members).normal = .ok e ↔ Entry.Given (.object members) e := by
  have hnodup : ((Value.sorted (Value.normalMembers members)).map (·.1)).Nodup :=
    List.Pairwise.map _ (fun _ _ hlt heq => String.lt_irrefl _ (heq ▸ hlt)) (Value.pairwise_sorted _)
  rw [Format.ofValue, format_read, Value.normal, Format.record_read_object (by decide)]
  refine (exists_congr fun _ => and_congr_right fun _ => fields_finish).trans
    (exists_eq_right.trans ((fields_putAll hnodup).trans ?_))
  rw [Value.find?_sorted, Value.find?_sorted, Value.last?_normalMembers, Value.last?_normalMembers]
  constructor
  · rintro ⟨hkey, hsignature⟩
    obtain ⟨v, hv, htext⟩ := Option.map_eq_some_iff.mp hkey
    obtain ⟨w, hw, htext'⟩ := Option.map_eq_some_iff.mp hsignature
    rw [Value.normal_eq_text.mp htext] at hv
    rw [Value.normal_eq_text.mp htext'] at hw
    exact .object hv hw
  · rintro ⟨hkey, hsignature⟩
    rw [hkey, hsignature]
    exact ⟨rfl, rfl⟩

theorem Entry.read_array {items : List Value} {e : Entry} :
    Entry.format.ofValue (Value.array items).normal = .ok e ↔ Entry.Given (.array items) e := by
  rw [Format.ofValue, format_read, Value.normal, Format.record_read_array (by decide)]
  constructor
  · intro h
    obtain ⟨v, others, hitems, hkey, h⟩ := (Fields.inOrder_field _ _ _).mp h
    obtain ⟨w, left, hothers, hsignature, h⟩ := (Fields.inOrder_field _ _ _).mp h
    -- Nothing is left over after the second item.
    have hleft : left = [] := by
      cases left with
      | nil => rfl
      | cons => cases h
    rw [text_read_eq_ok.mp hkey, hothers, text_read_eq_ok.mp hsignature, hleft,
      Value.normalItems_eq_map] at hitems
    obtain ⟨v, items, rfl, hv, hitems⟩ := List.map_eq_cons_iff.mp hitems
    obtain ⟨w, rfl, hw⟩ := List.map_eq_singleton_iff.mp hitems
    rw [Value.normal_eq_text.mp hv, Value.normal_eq_text.mp hw]
    exact .array _ _
  · rintro ⟨⟩
    exact (Fields.inOrder_field _ _ _).mpr ⟨_, _, rfl, rfl,
      (Fields.inOrder_field _ _ _).mpr ⟨_, _, rfl, rfl, rfl⟩⟩

/-- **What is read as an entry** is an object with two such members or an array of two texts. -/
theorem Entry.ofValue_normal {v : Value} {e : Entry} :
    Entry.format.ofValue v.normal = .ok e ↔ Entry.Given v e := by
  cases v with
  | object members => exact read_object
  | array items => exact read_array
  | _ =>
    constructor
    · intro h
      cases h
    · intro h
      cases h

/-! ## Hexadecimal texts -/

/-- The text is `n` bytes of hexadecimal digits in either case, behind a marker or without one. -/
def HexText (n : Nat) (s : String) : Prop :=
  ∃ digits, (Marked s.toList digits ∨ s.toList = digits) ∧ digits.length = 2 * n ∧
    ∀ c ∈ digits, Hex.IsDigit c

theorem not_isDigit_of_marked {s rest : List Char} (h : Marked s rest) : ¬ ∀ c ∈ s, Hex.IsDigit c := by
  rcases h with rfl | rfl
  · simp [Hex.IsDigit]
  · simp [Hex.IsDigit]

theorem hexText_iff {n : Nat} {s : String} :
    HexText n s ↔ (dropMarker s).length = 2 * n ∧ ∀ c ∈ dropMarker s, Hex.IsDigit c := by
  constructor
  · rintro ⟨digits, hmarked | rfl, hlength, hdigits⟩
    · rw [dropMarker_of_marked hmarked]
      exact ⟨hlength, hdigits⟩
    · rw [dropMarker_of_unmarked fun rest hmarked => not_isDigit_of_marked hmarked hdigits]
      exact ⟨hlength, hdigits⟩
  · intro h
    by_cases hmarked : ∃ rest, Marked s.toList rest
    · obtain ⟨rest, hmarked⟩ := hmarked
      rw [dropMarker_of_marked hmarked] at h
      exact ⟨rest, .inl hmarked, h⟩
    · rw [dropMarker_of_unmarked fun rest h => hmarked ⟨rest, h⟩] at h
      exact ⟨s.toList, .inr rfl, h⟩

/-- **What can be decoded** is what such a text holds. -/
theorem exists_decodeField_iff {n : Nat} {field s : String} :
    (∃ a, decodeField n field (addMarker s) = .ok a) ↔ HexText n s := by
  rw [hexText_iff, ← Hex.exists_decode_iff]
  simp only [decodeField_eq_ok_iff, bytesOf?_addMarker]
  unfold bytesOf?
  constructor
  · rintro ⟨a, ha⟩
    cases hdecode : Hex.decode (dropMarker s) with
    | error fault =>
      rw [hdecode] at ha
      cases ha
    | ok bs =>
      rw [hdecode] at ha
      cases ha
      exact ⟨_, rfl, a.length_toList⟩
  · rintro ⟨bs, hdecode, hlength⟩
    exact ⟨⟨bs, hlength⟩, by rw [hdecode]; rfl⟩

/-- The text behind a marker, which is put in front exactly if there is none. -/
inductive Prefixed (s : String) : String → Prop where
  | kept {rest : List Char} (h : Marked s.toList rest) : Prefixed s s
  | put (h : ∀ rest, ¬ Marked s.toList rest) : Prefixed s ("0x" ++ s)

theorem prefixed_addMarker (s : String) : Prefixed s (addMarker s) := by
  unfold addMarker
  split
  · next rest heq => exact .kept (.inl heq)
  · next rest heq => exact .kept (.inr heq)
  · next hx hX => exact .put fun rest hmarked => hmarked.elim (hx rest) (hX rest)

/-! ## Fields -/

/-- The field that a fault is about. -/
def EntryFault.field? : EntryFault → Option String
  | .shape _ => none
  | .notHex field _ => some field
  | .length field _ _ => some field

/-- Both texts of an entry are hexadecimal, of the right lengths. -/
structure Entry.IsHex (e : Entry) : Prop where
  publicKey : HexText 48 e.publicKey
  signature : HexText 96 e.signature

/-- The first field of an entry that is not as it should be. -/
inductive Entry.Faulty (e : Entry) : String → Prop where
  | publicKey (h : ¬ HexText 48 e.publicKey) : Faulty e "pubkey"
  | signature (hkey : HexText 48 e.publicKey) (h : ¬ HexText 96 e.signature) : Faulty e "signature"

theorem field?_of_decodeField {n : Nat} {field s : String} {fault : EntryFault}
    (h : decodeField n field s = .error fault) : fault.field? = some field := by
  unfold decodeField at h
  split at h
  · cases h
    rfl
  · split at h
    · cases h
    · cases h
      rfl

variable {credentials : Hash} {amount : UInt64}

theorem Validator.exists_encode_iff {index : Nat} {e : Entry} :
    (∃ data, (ofEntry index e).encode credentials amount = .ok data) ↔ e.IsHex := by
  constructor
  · rintro ⟨data, h⟩
    obtain ⟨key, signature, hspells, -⟩ := encode_eq_ok h
    exact ⟨exists_decodeField_iff.mp ⟨key, hspells.1⟩,
      exists_decodeField_iff.mp ⟨signature, hspells.2⟩⟩
  · rintro ⟨hkey, hsignature⟩
    obtain ⟨key, hkey⟩ := exists_decodeField_iff.mpr hkey
    obtain ⟨signature, hsignature⟩ := exists_decodeField_iff.mpr hsignature
    exact ⟨_, encode_of_spells ⟨hkey, hsignature⟩⟩

/-- **The key is judged before the signature.** -/
theorem Validator.encode_eq_error {index : Nat} {e : Entry} {fault : EntryFault}
    (h : (ofEntry index e).encode credentials amount = .error fault) :
    ∃ field, fault.field? = some field ∧ e.Faulty field := by
  unfold encode at h
  split at h
  · next fault' hkey =>
    cases h
    refine ⟨"pubkey", field?_of_decodeField hkey, .publicKey fun hhex => ?_⟩
    obtain ⟨key, hok⟩ := exists_decodeField_iff.mpr hhex
    cases hkey.symm.trans hok
  next key hkey =>
  split at h
  · next fault' hsignature =>
    cases h
    refine ⟨"signature", field?_of_decodeField hsignature,
      .signature (exists_decodeField_iff.mp ⟨key, hkey⟩) fun hhex => ?_⟩
    obtain ⟨signature, hok⟩ := exists_decodeField_iff.mpr hhex
    cases hsignature.symm.trans hok
  · cases h

theorem Entry.Faulty.unique {e : Entry} {field field' : String} (h : e.Faulty field)
    (h' : e.Faulty field') : field = field' := by
  cases h with
  | publicKey h =>
    cases h' with
    | publicKey => rfl
    | signature hkey => exact absurd hkey h
  | signature hkey =>
    cases h' with
    | publicKey h' => exact absurd hkey h'
    | signature => rfl

theorem Entry.Faulty.not_isHex {e : Entry} {field : String} (h : e.Faulty field) : ¬ e.IsHex := by
  intro hhex
  cases h with
  | publicKey h => exact h hhex.publicKey
  | signature _ h => exact h hhex.signature

end Deposit

end Registrar
