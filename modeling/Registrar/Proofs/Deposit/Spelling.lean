import Mathlib.Data.List.Forall2
import Registrar.Proofs.Deposit.Binding

/-!
# Spellings of an entry

One key or signature can be written in many ways: behind a marker of either case or without one, and
with digits of either case. `bytesOf?` is what all of them have in common, and it is all that an
encoding depends on.

## Contents

- `Hex.toOption_decode_upper`: digits are read in either case;
- `bytesOf?`, with `bytesOf?_addMarker` and `bytesOf?_upper`: markers and letter case do not matter;
- `decodeField_eq_ok_iff`, what is decoded from a text;
- `Entry.Alike`, entries with the same bytes, and `leavesOf_of_alike`: they have the same leaves.
-/

namespace Registrar

/-! ## Letter case -/

namespace Hex

theorem toNat_toUpper (c : Char) :
    (97 ≤ c.toNat ∧ c.toNat ≤ 122 ∧ c.toUpper.toNat + 32 = c.toNat) ∨ c.toUpper = c := by
  by_cases hlower : 'a'.val ≤ c.val ∧ c.val ≤ 'z'.val
  · left
    have hge : 97 ≤ c.val.toNat := hlower.1
    have hle : c.val.toNat ≤ 122 := hlower.2
    have hval : c.toUpper.val = c.val + ('A'.val - 'a'.val) := by
      show Char.val (dite ('a'.val ≤ c.val ∧ c.val ≤ 'z'.val) _ _) = _
      rw [dif_pos hlower]
    have hdiff : ('A'.val - 'a'.val).toNat = 2 ^ 32 - 32 := by decide
    refine ⟨hge, hle, ?_⟩
    show c.toUpper.val.toNat + 32 = c.val.toNat
    rw [hval, UInt32.toNat_add, hdiff]
    omega
  · right
    exact dif_neg hlower

/-- A digit has one value in both cases. -/
theorem digit?_toUpper (c : Char) : digit? c.toUpper = digit? c := by
  rcases toNat_toUpper c with ⟨hge, hle, hupper⟩ | heq
  · -- A small letter: the range of the capitals is 32 below that of the small ones, as are the values.
    have hnat : c.toUpper.toNat = c.toNat - 32 := by omega
    unfold digit?
    rw [hnat]
    dsimp only
    split_ifs
    all_goals first | omega | congr 1
  · rw [heq]

theorem utf8Size_toUpper (c : Char) : c.toUpper.utf8Size = c.utf8Size := by
  rcases toNat_toUpper c with ⟨hge, hle, hupper⟩ | heq
  · have hsize : c.utf8Size = 1 := Char.utf8Size_eq_one_iff.mpr (show c.toNat ≤ 127 by omega)
    have hsize' : c.toUpper.utf8Size = 1 :=
      Char.utf8Size_eq_one_iff.mpr (show c.toUpper.toNat ≤ 127 by omega)
    rw [hsize, hsize']
  · rw [heq]

theorem utf8Length_upper (s : List Char) : utf8Length (s.map Char.toUpper) = utf8Length s := by
  induction s with
  | nil => rfl
  | cons c s ih => rw [List.map_cons, utf8Length, utf8Length, ih, utf8Size_toUpper]

theorem toOption_decodePairs_single (offset : Nat) (c : Char) :
    (decodePairs offset [c]).toOption = none := by
  rw [decodePairs]
  split <;> rfl

/-- What is read from two digits and more depends on the values of the two alone. -/
theorem toOption_decodePairs_pair (offset : Nat) (c d : Char) (rest : List Char) :
    (decodePairs offset (c :: d :: rest)).toOption
      = (digit? c).bind fun high => (digit? d).bind fun low =>
          (decodePairs (offset + 2) rest).toOption.map (UInt8.ofNat (16 * high + low) :: ·) := by
  rw [decodePairs]
  cases digit? c with
  | none => rfl
  | some high =>
    cases digit? d with
    | none => rfl
    | some low => cases decodePairs (offset + 2) rest <;> rfl

theorem toOption_decodePairs_upper : (offset : Nat) → (s : List Char) →
    (decodePairs offset (s.map Char.toUpper)).toOption = (decodePairs offset s).toOption
  | _, [] => rfl
  | offset, [c] => by
    rw [List.map_singleton, toOption_decodePairs_single, toOption_decodePairs_single]
  | offset, c :: d :: rest => by
    rw [List.map_cons, List.map_cons, toOption_decodePairs_pair, toOption_decodePairs_pair,
      digit?_toUpper, digit?_toUpper, toOption_decodePairs_upper (offset + 2) rest]

/-- **Digits are read in either case.** -/
theorem toOption_decode_upper (s : List Char) :
    (decode (s.map Char.toUpper)).toOption = (decode s).toOption := by
  rw [decode, decode, utf8Length_upper]
  split
  · rfl
  · exact toOption_decodePairs_upper 0 s

end Hex

namespace Deposit

open Merkle

/-! ## Texts of the same bytes -/

/-- The bytes that a text stands for, behind a marker of either case or without one. -/
def bytesOf? (s : String) : Option Bytes := (Hex.decode (dropMarker s)).toOption

/-- A text is a marker in either case and what comes after it. -/
def Marked (s rest : List Char) : Prop := s = '0' :: 'x' :: rest ∨ s = '0' :: 'X' :: rest

theorem dropMarker_of_marked {s : String} {rest : List Char} (h : Marked s.toList rest) :
    dropMarker s = rest := by
  unfold dropMarker
  rcases h with h | h
  · rw [h]
    rfl
  · rw [h]
    rfl

theorem dropMarker_of_unmarked {s : String} (h : ∀ rest, ¬ Marked s.toList rest) :
    dropMarker s = s.toList := by
  unfold dropMarker
  split
  · next rest heq => exact absurd (.inl heq) (h rest)
  · next rest heq => exact absurd (.inr heq) (h rest)
  · rfl

theorem dropMarker_addMarker (s : String) : dropMarker (addMarker s) = dropMarker s := by
  unfold addMarker
  split
  · rfl
  · rfl
  · next hx hX =>
    have hput : ("0x" ++ s).toList = '0' :: 'x' :: s.toList := by simp
    have hunmarked : ∀ rest, ¬ Marked s.toList rest := by
      rintro rest (heq | heq)
      · exact hx rest heq
      · exact hX rest heq
    rw [dropMarker_of_marked (.inl hput), dropMarker_of_unmarked hunmarked]

theorem toUpper_eq_marker {c d : Char} (hc : c.toUpper = '0')
    (hd : d.toUpper = 'x' ∨ d.toUpper = 'X') : c = '0' ∧ (d = 'x' ∨ d = 'X') := by
  have hzero : '0'.toNat = 48 := rfl
  have hx : 'x'.toNat = 120 := rfl
  have hX : 'X'.toNat = 88 := rfl
  constructor
  · rcases Hex.toNat_toUpper c with ⟨hge, -, hupper⟩ | heq
    · rw [hc] at hupper
      omega
    · rw [← heq, hc]
  · rcases Hex.toNat_toUpper d with ⟨-, hle, hupper⟩ | heq
    · rcases hd with hd | hd
      · rw [hd] at hupper
        omega
      · rw [hd] at hupper
        exact .inl (Char.toNat_inj.mp (by omega))
    · rw [heq] at hd
      exact hd

theorem exists_marked_of_upper {s rest : List Char} (h : Marked (s.map Char.toUpper) rest) :
    ∃ rest, Marked s rest := by
  obtain ⟨m, hm, heq⟩ : ∃ m, (m = 'x' ∨ m = 'X') ∧ s.map Char.toUpper = '0' :: m :: rest := by
    rcases h with heq | heq
    · exact ⟨'x', .inl rfl, heq⟩
    · exact ⟨'X', .inr rfl, heq⟩
  obtain ⟨c, tail, rfl, hc, htail⟩ := List.map_eq_cons_iff.mp heq
  obtain ⟨d, tail, rfl, hd, -⟩ := List.map_eq_cons_iff.mp htail
  rw [← hd] at hm
  obtain ⟨rfl, hd' | hd'⟩ := toUpper_eq_marker hc hm
  · exact ⟨tail, .inl (by rw [hd'])⟩
  · exact ⟨tail, .inr (by rw [hd'])⟩

theorem dropMarker_upper (s : String) :
    dropMarker (String.ofList (s.toList.map Char.toUpper)) = (dropMarker s).map Char.toUpper := by
  by_cases hmarked : ∃ rest, Marked s.toList rest
  · obtain ⟨rest, hmarked⟩ := hmarked
    have hupper : Marked (String.ofList (s.toList.map Char.toUpper)).toList
        (rest.map Char.toUpper) := by
      rw [String.toList_ofList]
      rcases hmarked with heq | heq
      · rw [heq]
        exact .inr rfl
      · rw [heq]
        exact .inr rfl
    rw [dropMarker_of_marked hmarked, dropMarker_of_marked hupper]
  · have hupper : ∀ rest, ¬ Marked (String.ofList (s.toList.map Char.toUpper)).toList rest := by
      intro rest h
      rw [String.toList_ofList] at h
      exact hmarked (exists_marked_of_upper h)
    rw [dropMarker_of_unmarked fun rest h => hmarked ⟨rest, h⟩, dropMarker_of_unmarked hupper,
      String.toList_ofList]

/-- A marker that is put in front of a text changes nothing. -/
theorem bytesOf?_addMarker (s : String) : bytesOf? (addMarker s) = bytesOf? s := by
  rw [bytesOf?, bytesOf?, dropMarker_addMarker]

/-- **The letter case of a text changes nothing.** -/
theorem bytesOf?_upper (s : String) :
    bytesOf? (String.ofList (s.toList.map Char.toUpper)) = bytesOf? s := by
  rw [bytesOf?, bytesOf?, dropMarker_upper, Hex.toOption_decode_upper]

/-- What is decoded are the bytes of the text, if their number is right. -/
theorem decodeField_eq_ok_iff {n : Nat} {field s : String} {a : Octets n} :
    decodeField n field s = .ok a ↔ bytesOf? s = some a.toList := by
  unfold decodeField bytesOf?
  cases hdecode : Hex.decode (dropMarker s) with
  | error fault =>
    constructor
    · intro h
      cases h
    · intro h
      cases h
  | ok bs =>
    dsimp only [Except.toOption]
    constructor
    · intro h
      split at h
      · next b hb =>
        cases h
        rw [Octets.toList_of_ofList? hb]
      · cases h
    · intro h
      rw [Option.some.inj h, Octets.ofList?_toList]

/-! ## Entries of the same bytes -/

/-- Two entries whose keys and signatures stand for the same bytes, or for none. -/
structure Entry.Alike (e e' : Entry) : Prop where
  publicKey : bytesOf? e.publicKey = bytesOf? e'.publicKey
  signature : bytesOf? e.signature = bytesOf? e'.signature

theorem Entry.Alike.symm {e e' : Entry} (h : e.Alike e') : e'.Alike e :=
  ⟨h.publicKey.symm, h.signature.symm⟩

theorem Entry.spells_iff {e : Entry} {key : Octets 48} {signature : Octets 96} :
    e.Spells key signature ↔
      bytesOf? e.publicKey = some key.toList ∧ bytesOf? e.signature = some signature.toList := by
  rw [Spells, decodeField_eq_ok_iff, decodeField_eq_ok_iff, bytesOf?_addMarker, bytesOf?_addMarker]

theorem Entry.Alike.spells {e e' : Entry} (h : e.Alike e') {key : Octets 48}
    {signature : Octets 96} (hspells : e.Spells key signature) : e'.Spells key signature := by
  rw [spells_iff] at hspells ⊢
  rw [← h.publicKey, ← h.signature]
  exact hspells

/-- **Entries of the same bytes have the same leaves.** -/
theorem leavesOf_of_alike {credentials : Hash} {amount : UInt64} {entries entries' : List Entry}
    (halike : List.Forall₂ Entry.Alike entries entries') {start : Nat} {leaves : List Leaf}
    (h : leavesOf credentials amount
      ((entries.zipIdx start).map fun (e, i) => Validator.ofEntry i e) = .ok leaves) :
    leavesOf credentials amount
      ((entries'.zipIdx start).map fun (e, i) => Validator.ofEntry i e) = .ok leaves := by
  induction halike generalizing start leaves with
  | nil => exact h
  | cons hhead htail ih =>
    simp only [List.zipIdx_cons, List.map_cons, leavesOf] at h ⊢
    split at h
    · cases h
    next data hdata =>
    split at h
    · cases h
    next rest hrest =>
    cases h
    obtain ⟨key, signature, hspells, rfl⟩ := Validator.encode_eq_ok hdata
    rw [Validator.encode_of_spells (hhead.spells hspells), ih hrest]
    rfl

end Deposit

end Registrar
