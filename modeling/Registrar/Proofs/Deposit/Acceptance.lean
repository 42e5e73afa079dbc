import Registrar.Proofs.Deposit.Reading
import Registrar.Proofs.Merkle.Growth

/-!
# Which deposit data is accepted

Deposit data is judged in two passes. The first one reads every element as an entry, the second one
encodes every entry. Each pass stops at the first element that is wrong, so that an element of the wrong
shape is reported even if the texts of an element before it are no keys.

The elements that are judged are what the elements of the text stand for. These are the same unless an
object in the text has the reserved key in front: then an element may be another one than it seems, and
an object that stands for nothing makes the whole text unreadable.

## Contents

- `FirstAt`, the first element of a list that is wrong;
- `Spells`, the elements of a text, and `Lists`, what they stand for, with `lists_iff_of_plain`;
- `readEntries_eq_ok`, `readEntries_notArray` and `readEntries_badShape` for the first pass;
- `exists_leavesOf_iff` and `leavesOf_badField` for the second, with `Roster.ofEntries?_cases`;
- `Roster.Judged` and `Roster.load_judged`: what becomes of a text.
-/

namespace Registrar.Deposit

open Json (Value Holds)

/-! ## The first element that is wrong -/

section FirstAt

variable {α : Type} {Good Bad : α → Prop}

/-- The element at this position is bad, and all before it are good. -/
def FirstAt (Good Bad : α → Prop) (l : List α) (i : Nat) : Prop :=
  (∃ a, l[i]? = some a ∧ Bad a) ∧ ∀ j < i, ∀ a, l[j]? = some a → Good a

theorem not_firstAt_nil {i : Nat} : ¬ FirstAt Good Bad [] i := by
  rintro ⟨⟨a, ha, -⟩, -⟩
  cases ha

theorem firstAt_cons_zero {a : α} {l : List α} : FirstAt Good Bad (a :: l) 0 ↔ Bad a := by
  simp [FirstAt]

theorem firstAt_cons_succ {a : α} {l : List α} {i : Nat} :
    FirstAt Good Bad (a :: l) (i + 1) ↔ Good a ∧ FirstAt Good Bad l i := by
  constructor
  · rintro ⟨hbad, hgood⟩
    exact ⟨hgood 0 (by omega) a rfl, hbad, fun j hj => hgood (j + 1) (by omega)⟩
  · rintro ⟨ha, hbad, hgood⟩
    refine ⟨hbad, fun j hj b hb => ?_⟩
    cases j with
    | zero =>
      cases hb
      exact ha
    | succ j => exact hgood j (by omega) b hb

/-- A good element is passed over. -/
theorem exists_firstAt_cons_of_good {a : α} {l : List α} {start i : Nat} (hgood : Good a)
    (hbad : ¬ Bad a) :
    (∃ j, i = start + j ∧ FirstAt Good Bad (a :: l) j) ↔
      ∃ j, i = start + 1 + j ∧ FirstAt Good Bad l j := by
  constructor
  · rintro ⟨j, rfl, h⟩
    cases j with
    | zero => exact absurd (firstAt_cons_zero.mp h) hbad
    | succ j => exact ⟨j, by omega, (firstAt_cons_succ.mp h).2⟩
  · rintro ⟨j, rfl, h⟩
    exact ⟨j + 1, by omega, firstAt_cons_succ.mpr ⟨hgood, h⟩⟩

/-- The first element is the one if it is not good. -/
theorem exists_firstAt_cons_of_not_good {a : α} {l : List α} {start i : Nat} (hgood : ¬ Good a) :
    (∃ j, i = start + j ∧ FirstAt Good Bad (a :: l) j) ↔ i = start ∧ Bad a := by
  constructor
  · rintro ⟨j, rfl, h⟩
    cases j with
    | zero => exact ⟨rfl, firstAt_cons_zero.mp h⟩
    | succ j => exact absurd (firstAt_cons_succ.mp h).1 hgood
  · rintro ⟨rfl, h⟩
    exact ⟨0, rfl, firstAt_cons_zero.mpr h⟩

end FirstAt

/-! ## The first pass -/

/-- The element stands for an entry. -/
def IsEntry (v : Value) : Prop := ∃ e, Entry.Given v e

variable {start : Nat} {v : Value} {items rest : List Value} {entries : List Entry}

theorem entriesFrom_of_given {e : Entry} (h : Entry.Given v e) (rest : List Value) :
    entriesFrom start (v.normal :: rest) = (entriesFrom (start + 1) rest).map (e :: ·) := by
  rw [entriesFrom, Entry.ofValue_normal.mpr h]
  cases entriesFrom (start + 1) rest <;> rfl

theorem entriesFrom_of_not_isEntry (start : Nat) (h : ¬ IsEntry v) :
    ∃ fault, ∀ rest,
      entriesFrom start (v.normal :: rest) = .error (.badEntry start (.shape fault)) := by
  simp only [entriesFrom]
  cases hv : Entry.format.ofValue v.normal with
  | error fault => exact ⟨fault, fun _ => rfl⟩
  | ok e => exact absurd ⟨e, Entry.ofValue_normal.mp hv⟩ h

theorem entriesFrom_eq_ok :
    entriesFrom start (items.map Value.normal) = .ok entries ↔
      List.Forall₂ Entry.Given items entries := by
  induction items generalizing start entries with
  | nil => cases entries <;> simp [entriesFrom]
  | cons v items ih =>
    rw [List.map_cons]
    constructor
    · intro h
      by_cases hentry : IsEntry v
      · obtain ⟨e, he⟩ := hentry
        rw [entriesFrom_of_given he] at h
        cases hrest : entriesFrom (start + 1) (items.map Value.normal) with
        | error fault =>
          rw [hrest] at h
          cases h
        | ok es =>
          rw [hrest] at h
          cases h
          exact .cons he (ih.mp hrest)
      · obtain ⟨fault, herror⟩ := entriesFrom_of_not_isEntry start hentry
        cases (herror _).symm.trans h
    · intro h
      obtain _ | ⟨he, hrest⟩ := h
      rw [entriesFrom_of_given he, ih.mpr hrest]
      rfl

theorem entriesFrom_badShape {i : Nat} :
    (∃ fault, entriesFrom start (items.map Value.normal) = .error (.badEntry i (.shape fault))) ↔
      ∃ j, i = start + j ∧ FirstAt IsEntry (¬ IsEntry ·) items j := by
  induction items generalizing start with
  | nil => simp [entriesFrom, not_firstAt_nil]
  | cons v items ih =>
    rw [List.map_cons]
    -- An entry moves the start by one, as it moves the position of the first element that is none.
    by_cases hentry : IsEntry v
    · rw [exists_firstAt_cons_of_good hentry (not_not_intro hentry), ← ih]
      obtain ⟨e, he⟩ := hentry
      rw [entriesFrom_of_given he]
      cases entriesFrom (start + 1) (items.map Value.normal) <;> simp [Except.map]
    · rw [exists_firstAt_cons_of_not_good hentry]
      obtain ⟨fault, herror⟩ := entriesFrom_of_not_isEntry start hentry
      rw [herror]
      simp [hentry, eq_comm]

/-- The first pass finds no other fault. -/
theorem exists_of_entriesFrom_eq_error {fault : RosterFault}
    (h : entriesFrom start (items.map Value.normal) = .error fault) :
    ∃ i cause, fault = .badEntry i (.shape cause) := by
  induction items generalizing start with
  | nil => cases h
  | cons v items ih =>
    rw [List.map_cons] at h
    by_cases hentry : IsEntry v
    · obtain ⟨e, he⟩ := hentry
      rw [entriesFrom_of_given he] at h
      cases hrest : entriesFrom (start + 1) (items.map Value.normal) with
      | error fault' =>
        rw [hrest] at h
        cases h
        exact ih hrest
      | ok es =>
        rw [hrest] at h
        cases h
    · obtain ⟨cause, herror⟩ := entriesFrom_of_not_isEntry start hentry
      cases (herror _).symm.trans h
      exact ⟨start, cause, rfl⟩

/-- The text is an array of these items, with no more levels than can be read. -/
def Spells (text : String) (items : List Value) : Prop :=
  Holds text (.array items) ∧ (Value.array items).levels ≤ 127

/-- The text is an array of items that stand for these. -/
def Lists (text : String) (items : List Value) : Prop :=
  ∃ given, Spells text given ∧ Value.StandItems given items

theorem Spells.unique {text : String} {items items' : List Value} (h : Spells text items)
    (h' : Spells text items') : items = items' := Value.array.inj (h.1.unique h'.1)

theorem Lists.unique {text : String} {items items' : List Value} (h : Lists text items)
    (h' : Lists text items') : items = items' := by
  obtain ⟨given, hspells, hstand⟩ := h
  obtain ⟨given', hspells', hstand'⟩ := h'
  cases hspells.unique hspells'
  exact hstand.unique hstand'

/-- **Items stand for themselves** if no object in the text has the reserved key in front. -/
theorem lists_iff_of_plain {text : String} (h : ∀ given, Spells text given → Value.PlainItems given) :
    Lists text items ↔ Spells text items := by
  constructor
  · rintro ⟨given, hspells, hstand⟩
    obtain rfl := (Value.standItems_iff_of_plain (h given hspells)).mp hstand
    exact hspells
  · intro hspells
    exact ⟨items, hspells, Value.standItems_self items (h items hspells)⟩

/-- Data in lines is an array of its items. -/
theorem spells_prettyText (hexact : (Value.array items).Exact)
    (hlevels : (Value.array items).levels ≤ 127) : Spells (Value.array items).prettyText items :=
  ⟨Json.Document.ofText_eq_iff.mp (Json.Document.ofText_prettyText hexact), hlevels⟩

theorem readEntries_of_lists {text : String} (h : Lists text items) :
    readEntries text = entriesFrom 0 (items.map Value.normal) := by
  obtain ⟨given, hspells, hstand⟩ := h
  rw [readEntries, Json.Format.list_value_ofText.mpr ⟨given, items, hspells.1, hspells.2, hstand, rfl⟩]

theorem readEntries_of_not_lists {text : String} (h : ¬ ∃ items, Lists text items) :
    ∃ fault, readEntries text = .error (.notArray fault) := by
  rw [readEntries]
  cases hread : (Json.Format.list .value).ofText text with
  | error fault => exact ⟨fault, rfl⟩
  | ok values =>
    obtain ⟨given, items, hholds, hlevels, hstand, -⟩ := Json.Format.list_value_ofText.mp hread
    exact absurd ⟨items, given, ⟨hholds, hlevels⟩, hstand⟩ h

section Text

variable {text : String}

theorem readEntries_eq_ok :
    readEntries text = .ok entries ↔
      ∃ items, Lists text items ∧ List.Forall₂ Entry.Given items entries := by
  constructor
  · intro h
    by_cases hlists : ∃ items, Lists text items
    · obtain ⟨items, hitems⟩ := hlists
      rw [readEntries_of_lists hitems] at h
      exact ⟨items, hitems, entriesFrom_eq_ok.mp h⟩
    · obtain ⟨fault, herror⟩ := readEntries_of_not_lists hlists
      cases herror.symm.trans h
  · rintro ⟨items, hitems, hgiven⟩
    rw [readEntries_of_lists hitems]
    exact entriesFrom_eq_ok.mpr hgiven

theorem readEntries_notArray :
    (∃ fault, readEntries text = .error (.notArray fault)) ↔ ¬ ∃ items, Lists text items := by
  constructor
  · rintro ⟨fault, h⟩ ⟨items, hitems⟩
    rw [readEntries_of_lists hitems] at h
    obtain ⟨i, cause, heq⟩ := exists_of_entriesFrom_eq_error h
    cases heq
  · exact readEntries_of_not_lists

theorem readEntries_badShape {i : Nat} :
    (∃ fault, readEntries text = .error (.badEntry i (.shape fault))) ↔
      ∃ items, Lists text items ∧ FirstAt IsEntry (¬ IsEntry ·) items i := by
  constructor
  · rintro ⟨fault, h⟩
    by_cases hlists : ∃ items, Lists text items
    · obtain ⟨items, hitems⟩ := hlists
      rw [readEntries_of_lists hitems] at h
      obtain ⟨j, rfl, hfirst⟩ := entriesFrom_badShape.mp ⟨fault, h⟩
      rw [Nat.zero_add]
      exact ⟨items, hitems, hfirst⟩
    · obtain ⟨fault', herror⟩ := readEntries_of_not_lists hlists
      cases herror.symm.trans h
  · rintro ⟨items, hitems, hfirst⟩
    rw [readEntries_of_lists hitems]
    exact entriesFrom_badShape.mpr ⟨i, (Nat.zero_add i).symm, hfirst⟩

/-- There is no other fault of reading. -/
theorem readEntries_eq_error {fault : RosterFault} (h : readEntries text = .error fault) :
    (∃ cause, fault = .notArray cause) ∨ ∃ i cause, fault = .badEntry i (.shape cause) := by
  by_cases hlists : ∃ items, Lists text items
  · obtain ⟨items, hitems⟩ := hlists
    rw [readEntries_of_lists hitems] at h
    exact .inr (exists_of_entriesFrom_eq_error h)
  · obtain ⟨cause, herror⟩ := readEntries_of_not_lists hlists
    cases herror.symm.trans h
    exact .inl ⟨cause, rfl⟩

end Text

/-! ## The second pass -/

section Leaves

variable {credentials : Hash} {amount : UInt64} {e : Entry}

theorem leavesOf_of_isHex (credentials : Hash) (amount : UInt64) (start : Nat) (h : e.IsHex) :
    ∃ leaf, ∀ rest, leavesOf credentials amount (Validator.ofEntry start e :: rest)
      = (leavesOf credentials amount rest).map (leaf :: ·) := by
  obtain ⟨data, hdata⟩ := Validator.exists_encode_iff.mpr h
  refine ⟨⟨data, leafNumber start⟩, fun rest => ?_⟩
  rw [leavesOf, hdata]
  cases leavesOf credentials amount rest <;> rfl

theorem leavesOf_of_not_isHex (credentials : Hash) (amount : UInt64) (start : Nat)
    (h : ¬ e.IsHex) :
    ∃ fault field, (∀ rest, leavesOf credentials amount (Validator.ofEntry start e :: rest)
      = .error (.badEntry start fault)) ∧ fault.field? = some field ∧ e.Faulty field := by
  simp only [leavesOf]
  cases hdata : (Validator.ofEntry start e).encode credentials amount with
  | error fault =>
    obtain ⟨field, hfield, hfaulty⟩ := Validator.encode_eq_error hdata
    exact ⟨fault, field, fun _ => rfl, hfield, hfaulty⟩
  | ok data => exact absurd (Validator.exists_encode_iff.mp ⟨data, hdata⟩) h

theorem exists_leavesOf_iff (start : Nat) :
    (∃ leaves, leavesOf credentials amount
      ((entries.zipIdx start).map fun (e, i) => Validator.ofEntry i e) = .ok leaves) ↔
      ∀ e ∈ entries, e.IsHex := by
  induction entries generalizing start with
  | nil => simp [leavesOf]
  | cons e entries ih =>
    rw [List.zipIdx_cons, List.map_cons, List.forall_mem_cons]
    by_cases hhex : e.IsHex
    · obtain ⟨leaf, hleaf⟩ := leavesOf_of_isHex credentials amount start hhex
      have htail := ih (start + 1)
      rw [hleaf, ← htail]
      cases leavesOf credentials amount
        ((entries.zipIdx (start + 1)).map fun (e, i) => Validator.ofEntry i e) <;>
        simp [Except.map, hhex]
    · obtain ⟨fault, field, herror, -, -⟩ := leavesOf_of_not_isHex credentials amount start hhex
      rw [herror]
      simp [hhex]

theorem leavesOf_badField (credentials : Hash) (amount : UInt64) (start : Nat) (entries : List Entry)
    (field : String) (i : Nat) :
    (∃ fault, fault.field? = some field ∧ leavesOf credentials amount
      ((entries.zipIdx start).map fun (e, i) => Validator.ofEntry i e)
        = .error (.badEntry i fault)) ↔
      ∃ j, i = start + j ∧ FirstAt Entry.IsHex (Entry.Faulty · field) entries j := by
  induction entries generalizing start with
  | nil => simp [leavesOf, not_firstAt_nil]
  | cons e entries ih =>
    rw [List.zipIdx_cons, List.map_cons]
    by_cases hhex : e.IsHex
    · obtain ⟨leaf, hleaf⟩ := leavesOf_of_isHex credentials amount start hhex
      rw [exists_firstAt_cons_of_good hhex fun hfaulty => hfaulty.not_isHex hhex, ← ih, hleaf]
      cases leavesOf credentials amount
        ((entries.zipIdx (start + 1)).map fun (e, i) => Validator.ofEntry i e) <;>
        simp [Except.map]
    · obtain ⟨fault, field', herror, hfield, hfaulty⟩ :=
        leavesOf_of_not_isHex credentials amount start hhex
      rw [exists_firstAt_cons_of_not_good hhex, herror]
      -- There is only one field that the fault can be about.
      constructor
      · rintro ⟨fault', hfield', heq⟩
        cases heq
        cases hfield.symm.trans hfield'
        exact ⟨rfl, hfaulty⟩
      · rintro ⟨rfl, hfaulty'⟩
        cases hfaulty.unique hfaulty'
        exact ⟨fault, hfield, rfl⟩

/-- The second pass finds no other fault. -/
theorem exists_of_leavesOf_eq_error {fault : RosterFault}
    (h : leavesOf credentials amount
      ((entries.zipIdx start).map fun (e, i) => Validator.ofEntry i e) = .error fault) :
    ∃ i cause field, fault = .badEntry i cause ∧ cause.field? = some field := by
  induction entries generalizing start with
  | nil => cases h
  | cons e entries ih =>
    rw [List.zipIdx_cons, List.map_cons] at h
    by_cases hhex : e.IsHex
    · obtain ⟨leaf, hleaf⟩ := leavesOf_of_isHex credentials amount start hhex
      rw [hleaf] at h
      cases hrest : leavesOf credentials amount
          ((entries.zipIdx (start + 1)).map fun (e, i) => Validator.ofEntry i e) with
      | error fault' =>
        rw [hrest] at h
        cases h
        exact ih hrest
      | ok leaves =>
        rw [hrest] at h
        cases h
    · obtain ⟨cause, field, herror, hfield, -⟩ :=
        leavesOf_of_not_isHex credentials amount start hhex
      cases (herror _).symm.trans h
      exact ⟨start, cause, field, rfl, hfield⟩

end Leaves

/-! ## Both passes -/

namespace Roster

section Building

variable (vault : Address) (amount : UInt64)

/-- **Building stops at the first entry that cannot be encoded**, or for want of entries. -/
theorem ofEntries?_cases (entries : List Entry) :
    (∃ fault, leavesOf (withdrawalCredentials vault) amount
        (entries.zipIdx.map fun (e, i) => Validator.ofEntry i e) = .error fault ∧
      ofEntries? vault amount entries = .error fault) ∨
    entries = [] ∧ ofEntries? vault amount entries = .error (.tree .noLeaves) ∨
    entries ≠ [] ∧ (∀ e ∈ entries, e.IsHex) ∧ ∃ d, ofEntries? vault amount entries = .ok d := by
  unfold ofEntries?
  dsimp only
  cases hleaves : leavesOf (withdrawalCredentials vault) amount
      (entries.zipIdx.map fun (e, i) => Validator.ofEntry i e) with
  | error fault => exact .inl ⟨fault, rfl, rfl⟩
  | ok leaves =>
    right
    have hlength := (leavesOf_eq_ok hleaves).1
    dsimp only
    cases entries with
    | nil =>
      rw [List.eq_nil_of_length_eq_zero hlength]
      exact .inl ⟨rfl, rfl⟩
    | cons e entries =>
      have hne : leaves ≠ [] := List.ne_nil_of_length_eq_add_one hlength
      obtain ⟨tree, htree⟩ := Merkle.Tree.exists_ofLeaves? hne
      rw [htree]
      exact .inr ⟨List.cons_ne_nil _ _, (exists_leavesOf_iff 0).mp ⟨leaves, hleaves⟩, _, rfl⟩

theorem exists_ofEntries?_iff {entries : List Entry} :
    (∃ d, ofEntries? vault amount entries = .ok d) ↔ entries ≠ [] ∧ ∀ e ∈ entries, e.IsHex := by
  rcases ofEntries?_cases vault amount entries with ⟨fault, hleaves, h⟩ | ⟨rfl, h⟩ | ⟨hne, hhex, h⟩
  · constructor
    · rintro ⟨d, hd⟩
      cases h.symm.trans hd
    · rintro ⟨-, hhex⟩
      obtain ⟨leaves, hok⟩ := (exists_leavesOf_iff 0).mpr hhex
      cases hleaves.symm.trans hok
  · simp [h]
  · exact ⟨fun _ => ⟨hne, hhex⟩, fun _ => h⟩

theorem ofEntries?_noLeaves {entries : List Entry} :
    ofEntries? vault amount entries = .error (.tree .noLeaves) ↔ entries = [] := by
  rcases ofEntries?_cases vault amount entries with ⟨fault, hleaves, h⟩ | ⟨rfl, h⟩ | ⟨hne, -, d, h⟩
  · obtain ⟨i, cause, field, rfl, -⟩ := exists_of_leavesOf_eq_error hleaves
    rw [h]
    constructor
    · intro heq
      cases heq
    · rintro rfl
      cases hleaves
  · exact ⟨fun _ => rfl, fun _ => h⟩
  · simp [h, hne]

theorem ofEntries?_badField {entries : List Entry} {field : String} {i : Nat} :
    (∃ fault, fault.field? = some field ∧
      ofEntries? vault amount entries = .error (.badEntry i fault)) ↔
      FirstAt Entry.IsHex (Entry.Faulty · field) entries i := by
  rcases ofEntries?_cases vault amount entries with ⟨fault, hleaves, h⟩ | ⟨rfl, h⟩ | ⟨-, hhex, d, h⟩
  · have hfirst := leavesOf_badField (withdrawalCredentials vault) amount 0 entries field i
    simp only [Nat.zero_add, exists_eq_left', hleaves, Except.error.injEq] at hfirst
    simp only [h, Except.error.injEq]
    exact hfirst
  · simp [h, not_firstAt_nil]
  · constructor
    · rintro ⟨fault, -, herror⟩
      cases h.symm.trans herror
    · rintro ⟨⟨e, hget, hfaulty⟩, -⟩
      exact absurd (hhex e (List.mem_of_getElem? hget)) hfaulty.not_isHex

/-- Building finds no other fault. -/
theorem exists_of_ofEntries?_eq_error {entries : List Entry} {fault : RosterFault}
    (h : ofEntries? vault amount entries = .error fault) :
    (∃ i cause field, fault = .badEntry i cause ∧ cause.field? = some field) ∨
      fault = .tree .noLeaves := by
  rcases ofEntries?_cases vault amount entries with ⟨fault', hleaves, h'⟩ | ⟨-, h'⟩ | ⟨-, -, d, h'⟩
  · cases h'.symm.trans h
    exact .inl (exists_of_leavesOf_eq_error hleaves)
  · cases h'.symm.trans h
    exact .inr rfl
  · cases h'.symm.trans h

end Building

/-- **What becomes of a text** that is an array of these items, if it is one: under which conditions a
    roster is built from it, or each of the faults is reported. The condition of a fault excludes the
    conditions of all that stand before it. -/
structure Judged (Items : List Value → Prop) (result : Except RosterFault Roster) : Prop where
  /-- A roster is built from one or more entries with a key and a signature each. -/
  accepted : (∃ d, result = .ok d) ↔
    ∃ items entries, Items items ∧ items ≠ [] ∧ List.Forall₂ Entry.Given items entries ∧
      ∀ e ∈ entries, e.IsHex
  /-- The roster has a validator for each element, in order. -/
  validators : ∀ d items, result = .ok d → Items items →
    d.validators.length = items.length ∧
      ∀ (i : Nat) (v : Validator) (item : Value), d.validators[i]? = some v → items[i]? = some item →
        v.index = i ∧ ∃ e, Entry.Given item e ∧ Prefixed e.publicKey v.publicKey ∧
          Prefixed e.signature v.signature
  /-- The text is no array. -/
  notArray : (∃ fault, result = .error (.notArray fault)) ↔ ¬ ∃ items, Items items
  /-- The first element that is no entry. -/
  badShape : ∀ i, (∃ fault, result = .error (.badEntry i (.shape fault))) ↔
    ∃ items, Items items ∧ FirstAt IsEntry (¬ IsEntry ·) items i
  /-- If all are entries, the first one with a text that cannot be decoded. -/
  badField : ∀ i field,
    (∃ fault, fault.field? = some field ∧ result = .error (.badEntry i fault)) ↔
      ∃ items entries, Items items ∧ List.Forall₂ Entry.Given items entries ∧
        FirstAt Entry.IsHex (Entry.Faulty · field) entries i
  /-- There are no entries. -/
  noLeaves : result = .error (.tree .noLeaves) ↔ Items []

section Loading

variable {files : Workspace} {vault : Address} {path text : String} {amount : UInt64}

theorem load_eq_ok (h : files.readText path = .ok text) {d : Roster} :
    load files vault path amount = .ok d ↔
      ∃ entries, readEntries text = .ok entries ∧ ofEntries? vault amount entries = .ok d := by
  simp only [load, h]
  cases readEntries text <;> simp

theorem load_eq_error (h : files.readText path = .ok text) {fault : RosterFault} :
    load files vault path amount = .error fault ↔
      readEntries text = .error fault ∨
        ∃ entries, readEntries text = .ok entries ∧ ofEntries? vault amount entries = .error fault := by
  simp only [load, h]
  cases readEntries text <;> simp

/-- A roster is built exactly from one or more entries that can be encoded. -/
theorem exists_load_iff (h : files.readText path = .ok text) :
    (∃ d, load files vault path amount = .ok d) ↔
      ∃ items entries, Lists text items ∧ items ≠ [] ∧ List.Forall₂ Entry.Given items entries ∧
        ∀ e ∈ entries, e.IsHex := by
  constructor
  · rintro ⟨d, hd⟩
    obtain ⟨entries, hread, hbuild⟩ := (load_eq_ok h).mp hd
    obtain ⟨items, hlists, hgiven⟩ := readEntries_eq_ok.mp hread
    obtain ⟨hne, hhex⟩ := (exists_ofEntries?_iff vault amount).mp ⟨d, hbuild⟩
    refine ⟨items, entries, hlists, ?_, hgiven, hhex⟩
    rintro rfl
    cases hgiven
    exact hne rfl
  · rintro ⟨items, entries, hlists, hne, hgiven, hhex⟩
    have hread := readEntries_eq_ok.mpr ⟨items, hlists, hgiven⟩
    have hne' : entries ≠ [] := by
      rintro rfl
      cases hgiven
      exact hne rfl
    obtain ⟨d, hbuild⟩ := (exists_ofEntries?_iff vault amount).mpr ⟨hne', hhex⟩
    exact ⟨d, (load_eq_ok h).mpr ⟨entries, hread, hbuild⟩⟩

/-- The validators of a roster are the elements of the text, one by one. -/
theorem validators_of_load (h : files.readText path = .ok text) {d : Roster} {items : List Value}
    (hd : load files vault path amount = .ok d) (hlists : Lists text items) :
    d.validators.length = items.length ∧
      ∀ (i : Nat) (v : Validator) (item : Value), d.validators[i]? = some v → items[i]? = some item →
        v.index = i ∧ ∃ e, Entry.Given item e ∧ Prefixed e.publicKey v.publicKey ∧
          Prefixed e.signature v.signature := by
  obtain ⟨entries, hread, hbuild⟩ := (load_eq_ok h).mp hd
  obtain ⟨items', hlists', hgiven⟩ := readEntries_eq_ok.mp hread
  obtain rfl := hlists'.unique hlists
  obtain ⟨-, -, hvalidators, -, -⟩ := ofEntries?_eq_ok hbuild
  rw [hvalidators]
  refine ⟨by simp [hgiven.length_eq], fun i v item hv hitem => ?_⟩
  rw [List.getElem?_map, List.getElem?_zipIdx, Option.map_map] at hv
  obtain ⟨e, he, rfl⟩ := Option.map_eq_some_iff.mp hv
  refine ⟨Nat.zero_add i, e, ?_, prefixed_addMarker _, prefixed_addMarker _⟩
  obtain ⟨hi, rfl⟩ := List.getElem?_eq_some_iff.mp hitem
  obtain ⟨hi', rfl⟩ := List.getElem?_eq_some_iff.mp he
  exact hgiven.get hi hi'

/-- Building never finds that a text is no array. -/
theorem load_notArray (h : files.readText path = .ok text) :
    (∃ fault, load files vault path amount = .error (.notArray fault)) ↔
      ¬ ∃ items, Lists text items := by
  rw [← readEntries_notArray]
  refine exists_congr fun fault => (load_eq_error h).trans (or_iff_left ?_)
  rintro ⟨entries, -, hbuild⟩
  rcases exists_of_ofEntries?_eq_error vault amount hbuild with ⟨_, _, _, heq, -⟩ | heq
  · cases heq
  · cases heq

/-- A fault of building is about a field, so one of the shape is a fault of reading. -/
theorem load_badShape (h : files.readText path = .ok text) (i : Nat) :
    (∃ fault, load files vault path amount = .error (.badEntry i (.shape fault))) ↔
      ∃ items, Lists text items ∧ FirstAt IsEntry (¬ IsEntry ·) items i := by
  rw [← readEntries_badShape]
  refine exists_congr fun fault => (load_eq_error h).trans (or_iff_left ?_)
  rintro ⟨entries, -, hbuild⟩
  rcases exists_of_ofEntries?_eq_error vault amount hbuild with ⟨_, _, _, heq, hfield⟩ | heq
  · cases heq
    cases hfield
  · cases heq

theorem load_badField (h : files.readText path = .ok text) (i : Nat) (field : String) :
    (∃ fault, fault.field? = some field ∧
      load files vault path amount = .error (.badEntry i fault)) ↔
      ∃ items entries, Lists text items ∧ List.Forall₂ Entry.Given items entries ∧
        FirstAt Entry.IsHex (Entry.Faulty · field) entries i := by
  constructor
  · rintro ⟨fault, hfield, herror⟩
    rcases (load_eq_error h).mp herror with hread | ⟨entries, hread, hbuild⟩
    · -- A fault of reading is about no field.
      rcases readEntries_eq_error hread with ⟨_, heq⟩ | ⟨_, _, heq⟩
      · cases heq
      · cases heq
        cases hfield
    · obtain ⟨items, hlists, hgiven⟩ := readEntries_eq_ok.mp hread
      exact ⟨items, entries, hlists, hgiven,
        (ofEntries?_badField vault amount).mp ⟨fault, hfield, hbuild⟩⟩
  · rintro ⟨items, entries, hlists, hgiven, hfirst⟩
    obtain ⟨fault, hfield, hbuild⟩ := (ofEntries?_badField vault amount).mpr hfirst
    have hread := readEntries_eq_ok.mpr ⟨items, hlists, hgiven⟩
    exact ⟨fault, hfield, (load_eq_error h).mpr (.inr ⟨entries, hread, hbuild⟩)⟩

theorem load_noLeaves (h : files.readText path = .ok text) :
    load files vault path amount = .error (.tree .noLeaves) ↔ Lists text [] := by
  constructor
  · intro herror
    rcases (load_eq_error h).mp herror with hread | ⟨entries, hread, hbuild⟩
    · rcases readEntries_eq_error hread with ⟨_, heq⟩ | ⟨_, _, heq⟩
      · cases heq
      · cases heq
    · obtain ⟨items, hlists, hgiven⟩ := readEntries_eq_ok.mp hread
      obtain rfl := (ofEntries?_noLeaves vault amount).mp hbuild
      cases hgiven
      exact hlists
  · intro hlists
    have hread := readEntries_eq_ok.mpr ⟨[], hlists, .nil⟩
    exact (load_eq_error h).mpr (.inr ⟨[], hread, (ofEntries?_noLeaves vault amount).mpr rfl⟩)

/-- **Deposit data is accepted or refused as its text says**: by what the elements of the text stand for,
    and so, if no object in the text has the reserved key in front, by the elements themselves. -/
theorem load_judged (h : files.readText path = .ok text) :
    Judged (Lists text) (load files vault path amount) ∧
      ((∀ given, Spells text given → Value.PlainItems given) →
        Judged (Spells text) (load files vault path amount)) := by
  have hjudged : Judged (Lists text) (load files vault path amount) := {
    accepted := exists_load_iff h
    validators := fun _ _ => validators_of_load h
    notArray := load_notArray h
    badShape := load_badShape h
    badField := load_badField h
    noLeaves := load_noLeaves h }
  refine ⟨hjudged, fun hplain => ?_⟩
  have hsame : Lists text = Spells text := by
    funext items
    exact propext (lists_iff_of_plain hplain)
  rwa [hsame] at hjudged

end Loading

/-! ### Files -/

/-- A directory with a file that holds the data. -/
def depositFile (v : Value) : Workspace :=
  ⟨.directory [("deposits.json", .file (Text.Utf8.write v.prettyText))], []⟩

theorem readText_depositFile (v : Value) :
    (depositFile v).readText "deposits.json" = .ok v.prettyText := Workspace.readText_of_read rfl

/-- What becomes of a list of items that are written in lines. -/
def loadItems (items : List Value) : Except RosterFault Roster :=
  load (depositFile (.array items)) (.replicate 20 0x42) "deposits.json" 32000000000

/-- A text of this many digits. -/
def nines (count : Nat) : String := String.ofList (List.replicate count '9')

theorem hexText_nines (n : Nat) : HexText n (nines (2 * n)) := by
  refine ⟨_, .inr (String.toList_ofList), List.length_replicate, fun c hc => ?_⟩
  rw [List.eq_of_mem_replicate hc]
  exact .inl (by decide)

theorem hexText_marked_nines (n : Nat) : HexText n ("0X" ++ nines (2 * n)) := by
  refine ⟨List.replicate (2 * n) '9', .inl (.inr ?_), List.length_replicate, fun c hc => ?_⟩
  · rw [String.toList_append, nines, String.toList_ofList]
    simp
  · rw [List.eq_of_mem_replicate hc]
    exact .inl (by decide)

/-- An entry as an object, with a second key that replaces the first one, and an entry as an array. -/
def mixedEntries : List Value :=
  [.object [("signature", .text (nines 192)), ("pubkey", .text "zz"), ("note", .null),
      ("pubkey", .text ("0X" ++ nines 96))],
    .array [.text (nines 96), .text (nines 192)]]

/-- The key of the first element cannot be decoded, and the second one is no entry. -/
def twoDefects : List Value := [.array [.text "zz", .text ""], .null]

/-- The first file is accepted. In the second one, the element after the key is reported. -/
theorem load_judged_mixedEntries :
    (depositFile (.array mixedEntries)).readText "deposits.json"
        = .ok (Value.array mixedEntries).prettyText ∧
      Value.PlainItems mixedEntries ∧ (∃ d, loadItems mixedEntries = .ok d ∧ d.validators.length = 2) ∧
      ∃ fault, loadItems twoDefects = .error (.badEntry 1 (.shape fault)) := by
  have hmixed : Spells (Value.array mixedEntries).prettyText mixedEntries :=
    spells_prettyText (by simp [mixedEntries, Value.Exact, Value.ExactItems, Value.ExactMembers])
      (by decide)
  have hdefects : Spells (Value.array twoDefects).prettyText twoDefects :=
    spells_prettyText (by simp [twoDefects, Value.Exact, Value.ExactItems]) (by decide)
  have hplain : Value.PlainItems mixedEntries := by
    simp [mixedEntries, Value.PlainItems, Value.PlainMembers, Value.Plain, Value.Reserved, Value.rawKey]
  have hplain' : Value.PlainItems twoDefects := by simp [twoDefects, Value.PlainItems, Value.Plain]
  have hjudged : Judged (Spells _) (loadItems mixedEntries) :=
    (load_judged (readText_depositFile _)).2 fun given hgiven => hgiven.unique hmixed ▸ hplain
  have hjudged' : Judged (Spells _) (loadItems twoDefects) :=
    (load_judged (readText_depositFile _)).2 fun given hgiven => hgiven.unique hdefects ▸ hplain'
  refine ⟨readText_depositFile _, hplain, ?_, ?_⟩
  · obtain ⟨d, hd⟩ := hjudged.accepted.mpr ⟨mixedEntries,
      [⟨"0X" ++ nines 96, nines 192⟩, ⟨nines 96, nines 192⟩], hmixed, List.cons_ne_nil _ _,
      .cons (.object rfl rfl) (.cons (.array _ _) .nil), by
        simpa using ⟨⟨hexText_marked_nines 48, hexText_nines 96⟩, hexText_nines 48, hexText_nines 96⟩⟩
    exact ⟨d, hd, (hjudged.validators d _ hd hmixed).1⟩
  · refine (hjudged'.badShape 1).mpr ⟨twoDefects, hdefects, ?_⟩
    refine firstAt_cons_succ.mpr ⟨⟨_, .array _ _⟩, firstAt_cons_zero.mpr ?_⟩
    rintro ⟨e, he⟩
    cases he

/-- An entry with one more member in front, which has the reserved key. -/
def extendedEntry : List Value :=
  [.object [(Value.rawKey, .number (.natural 5)), ("pubkey", .text (nines 96)),
    ("signature", .text (nines 192))]]

/-- An object without a key and a signature, but for those in the text behind the reserved key. -/
def quotedEntry : List Value :=
  [.object [(Value.rawKey, .text (Value.array [.text (nines 96), .text (nines 192)]).compactText)]]

/-- Neither is judged by the elements of the text: the first file is refused although it is an array of an
    entry, and the second one is accepted although its element is no entry. -/
theorem not_judged_reserved :
    (List.Forall₂ Entry.Given extendedEntry [⟨nines 96, nines 192⟩] ∧
      (∃ fault, loadItems extendedEntry = .error (.notArray fault)) ∧
      ¬ Judged (Spells (Value.array extendedEntry).prettyText) (loadItems extendedEntry)) ∧
    (∀ v ∈ quotedEntry, ¬ IsEntry v) ∧ (∃ d, loadItems quotedEntry = .ok d) ∧
      ¬ Judged (Spells (Value.array quotedEntry).prettyText) (loadItems quotedEntry) := by
  have hextended : Spells (Value.array extendedEntry).prettyText extendedEntry :=
    spells_prettyText
      (by simp [extendedEntry, Value.Exact, Value.ExactItems, Value.ExactMembers, Json.Number.Exact])
      (by decide)
  have hquoted : Spells (Value.array quotedEntry).prettyText quotedEntry :=
    spells_prettyText (by simp [quotedEntry, Value.Exact, Value.ExactItems, Value.ExactMembers])
      (by decide)
  have hnone : ∀ v ∈ quotedEntry, ¬ IsEntry v := by
    intro v hv
    rw [List.mem_singleton.mp hv]
    rintro ⟨e, he⟩
    cases he with
    | object hkey => simp [Value.last?, Value.rawKey] at hkey
  have hrefused : ∃ fault, loadItems extendedEntry = .error (.notArray fault) := by
    refine (load_judged (readText_depositFile _)).1.notArray.mpr ?_
    rintro ⟨items, given, hgiven, hstand⟩
    cases hgiven.unique hextended
    -- The reserved key is in front, and it is not alone.
    cases hstand with
    | cons h =>
      cases h with
      | object hfirst => exact hfirst rfl
  have haccepted : ∃ d, loadItems quotedEntry = .ok d := by
    have hstand : (Value.array [.text (nines 96), .text (nines 192)]).Stands
        (.array [.text (nines 96), .text (nines 192)]) :=
      .array (.cons (.text _) (.cons (.text _) .nil))
    have hholds : Holds (Value.array [.text (nines 96), .text (nines 192)]).compactText
        (.array [.text (nines 96), .text (nines 192)]) :=
      Json.Document.ofText_eq_iff.mp
        (Json.Document.ofText_compactText (by simp [Value.Exact, Value.ExactItems]))
    have hlists : Lists (Value.array quotedEntry).prettyText
        [.array [.text (nines 96), .text (nines 192)]] :=
      ⟨quotedEntry, hquoted, .cons (.raw hholds (by decide) hstand) .nil⟩
    exact (load_judged (readText_depositFile _)).1.accepted.mpr ⟨_, [⟨nines 96, nines 192⟩], hlists,
      List.cons_ne_nil _ _, .cons (.array _ _) .nil, by
        simpa using ⟨hexText_nines 48, hexText_nines 96⟩⟩
  refine ⟨⟨.cons (.object rfl rfl) .nil, hrefused, fun hjudged => ?_⟩, hnone, haccepted,
    fun hjudged => ?_⟩
  · exact hjudged.notArray.mp hrefused ⟨_, hextended⟩
  · obtain ⟨items, entries, hitems, -, hgiven, -⟩ := hjudged.accepted.mp haccepted
    cases hitems.unique hquoted
    cases hgiven with
    | cons hentry => exact hnone _ List.mem_cons_self ⟨_, hentry⟩

end Roster

end Registrar.Deposit
