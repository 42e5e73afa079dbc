import Registrar.Json.Format
import Registrar.Proofs.Json.Documents

/-!
# Formats that read what they write

A format restores something if it reads it back from what it wrote, given room for so many levels. The
formats of scalars restore everything, and a record restores what its fields do, as long as no two of
them have one name. So whole texts that were written in lines or in one line are read back.

## Contents

- `Format.Restores` with `text_restores`, `flag_restores`, `unsigned64_restores`, `u32_restores`,
  `octets_restores` and `list_restores`;
- `Fields.Restores` with `Fields.cons_restores`, and `record_restores`;
- `along_restores`, for types that are built from others;
- `ofText_prettyText` and `ofText_compactText`.
-/

namespace Registrar.Json

variable {α β : Type}

namespace Format

/-- Given more room than so many levels, the format reads back what it writes. -/
structure Restores (f : Format α) (depth : Nat) (a : α) : Prop where
  exact : (f.write a).Exact
  read_write : ∀ room, depth < room → f.read room (f.write a).toNode = .ok a

variable {f : Format α} {depth deeper : Nat} {a : α}

theorem Restores.mono (h : f.Restores depth a) (hle : depth ≤ deeper) : f.Restores deeper a :=
  ⟨h.exact, fun room hroom => h.read_write room (Nat.lt_of_le_of_lt hle hroom)⟩

/-! ## Scalars -/

theorem text_restores (s : String) : text.Restores 0 s := ⟨trivial, fun _ _ => rfl⟩

theorem flag_restores (b : Bool) : flag.Restores 0 b := ⟨trivial, fun _ _ => rfl⟩

theorem readNatural_of_lt {limit : Nat} (expected : String) {n : UInt64} (h : n.toNat < limit) :
    readNatural limit expected (.number (some (.natural n))) = .ok n.toNat := if_pos h

theorem unsigned64_restores (expected : String) (n : UInt64) :
    (unsigned64 expected).Restores 0 n := by
  refine ⟨trivial, fun room _ => ?_⟩
  show (readNatural UInt64.size expected (.number (some (.natural n)))).map UInt64.ofNat = .ok n
  rw [readNatural_of_lt expected n.toNat_lt]
  exact congrArg Except.ok UInt64.ofNat_toNat

theorem u32_restores (n : UInt32) : u32.Restores 0 n := by
  refine ⟨trivial, fun room _ => ?_⟩
  show (readNatural UInt32.size "u32" (.number (some (.natural n.toUInt64)))).map UInt32.ofNat = .ok n
  rw [readNatural_of_lt "u32" (show n.toUInt64.toNat < UInt32.size from n.toNat_lt)]
  exact congrArg Except.ok UInt32.ofNat_toNat

/-- Digits after a marker are read back. -/
theorem octets_restores {n : Nat} (a : Octets n) : (octets n).Restores 0 a := by
  refine ⟨trivial, fun room _ => ?_⟩
  have hdigits : unmarked (Hex.ofOctets a) = Hex.encode a.toList := by
    unfold unmarked Hex.ofOctets Hex.encode0x
    rw [String.toList_ofList]
    rfl
  simp only [octets, Value.toNode, hdigits, Hex.decode_encode, Octets.ofList?_toList]

/-! ## Sequences and dictionaries -/

theorem exactItems_map_write {as : List α} (h : ∀ a ∈ as, f.Restores depth a) :
    Value.ExactItems (as.map f.write) := by
  induction as with
  | nil => trivial
  | cons a as ih =>
    obtain ⟨ha, has⟩ := List.forall_mem_cons.mp h
    exact ⟨ha.exact, ih has⟩

theorem readItems_map_write {as : List α} (h : ∀ a ∈ as, f.Restores depth a) {room : Nat}
    (hroom : depth < room) : readItems f room (Value.nodesOfItems (as.map f.write)) = .ok as := by
  induction as with
  | nil => rfl
  | cons a as ih =>
    obtain ⟨ha, has⟩ := List.forall_mem_cons.mp h
    simp only [List.map_cons, Value.nodesOfItems, readItems, ha.read_write room hroom, ih has]

/-- **A sequence restores what its items do, one level deeper.** -/
theorem list_restores {as : List α} (h : ∀ a ∈ as, f.Restores depth a) :
    (list f).Restores (depth + 1) as := by
  refine ⟨exactItems_map_write h, fun room hroom => ?_⟩
  have hitems := readItems_map_write h (show depth < room - 1 by omega)
  simp only [list, Value.toNode, if_neg (show ¬ room ≤ 1 by omega), hitems, if_true]

/-- A dictionary without members. -/
theorem dictionary_restores_nil : dictionary.Restores 1 [] := by
  refine ⟨trivial, fun room hroom => ?_⟩
  simp only [dictionary, Value.toNode, Value.nodesOfMembers, if_neg (show ¬ room ≤ 1 by omega),
    Value.ofMembers, if_true]
  rfl

/-! ## Types built from others -/

theorem along_restores {build : α → β} {parts : β → α} {b : β} (h : f.Restores depth (parts b))
    (hbuild : build (parts b) = b) : (f.along build parts).Restores depth b := by
  refine ⟨h.exact, fun room hroom => ?_⟩
  show (f.read room (f.write (parts b)).toNode).map build = .ok b
  rw [h.read_write room hroom]
  exact congrArg Except.ok hbuild

end Format

/-! ## Records -/

namespace Fields

/-- Given more room than so many levels, the fields, which have the given names, are read back from the
    members that they write. -/
structure Restores (fields : Fields α) (names : List String) (depth : Nat) (a : α) : Prop where
  exact : Value.ExactMembers (fields.members a)
  names_eq : (fields.members a).map (·.1) = names
  put_members : ∃ slots, fields.finish slots = .ok a ∧ ∀ room, depth < room →
    fields.putAll room (Value.nodesOfMembers (fields.members a)) fields.empty = .ok slots

theorem none_restores (depth : Nat) : Fields.none.Restores [] depth () :=
  ⟨trivial, rfl, (), rfl, fun _ _ => rfl⟩

variable {name : String} {blank : Option α} {f : Format α} {rest : Fields β} {depth : Nat} {a : α}
  {b : β}

/-- One member is put into its field, or left out. -/
theorem putAll_member (fields : Fields α) (room : Nat) (key : String) (v : Value)
    (members : List (String × Value)) (slots : fields.Slots) :
    fields.putAll room (Value.nodesOfMembers ((key, v) :: members)) slots
      = match fields.put room key v.toNode slots with
        | .error fault => .error fault
        | .ok found => fields.putAll room (Value.nodesOfMembers members) (found.getD slots) := by
  rw [Value.nodesOfMembers, putAll.eq_def]
  cases hput : fields.put room key v.toNode slots with
  | error fault => simp [hput]
  | ok found => cases found <;> simp [hput, v.whole_toNode]

/-- Members of other names go to the other fields. -/
theorem putAll_cons_other (room : Nat) {members : List (String × Value)}
    (hnames : ∀ member ∈ members, member.1 ≠ name) (slot : Option α) (slots : rest.Slots) :
    (cons name blank f rest).putAll room (Value.nodesOfMembers members) (slot, slots)
      = (rest.putAll room (Value.nodesOfMembers members) slots).map (slot, ·) := by
  induction members generalizing slots with
  | nil => rfl
  | cons member members ih =>
    obtain ⟨key, v⟩ := member
    obtain ⟨hkey, hmembers⟩ := List.forall_mem_cons.mp hnames
    simp only [putAll_member, cons, if_neg hkey]
    cases rest.put room key v.toNode slots with
    | error fault => rfl
    | ok found =>
      cases found with
      | none => exact ih hmembers slots
      | some next => exact ih hmembers next

/-- The first member has the name, and no other one. -/
theorem putAll_cons_named (room : Nat) (v : Value) {members : List (String × Value)}
    (hothers : ∀ member ∈ members, member.1 ≠ name) (slots slots' : rest.Slots) :
    (cons name blank f rest).putAll room (Value.nodesOfMembers ((name, v) :: members)) (Option.none, slots)
        = .ok (some a, slots') ↔
      f.read room v.toNode = .ok a ∧
        rest.putAll room (Value.nodesOfMembers members) slots = .ok slots' := by
  have hstep : (cons name blank f rest).putAll room (Value.nodesOfMembers ((name, v) :: members))
      (Option.none, slots) = (f.read room v.toNode).bind fun b =>
        (rest.putAll room (Value.nodesOfMembers members) slots).map (some b, ·) := by
    refine (putAll_member _ room name v members _).trans ?_
    simp only [cons, if_true]
    cases f.read room v.toNode with
    | error fault => rfl
    | ok b => exact putAll_cons_other room hothers (some b) slots
  rw [hstep]
  cases f.read room v.toNode with
  | error fault => simp [Except.bind]
  | ok b =>
    dsimp only [Except.bind]
    cases rest.putAll room (Value.nodesOfMembers members) slots with
    | error fault => simp [Except.map]
    | ok others =>
      have hpair : (Except.ok (some b, others) : Except Fault (Option α × rest.Slots))
          = .ok (some a, slots') ↔ b = a ∧ others = slots' := by simp
      simp only [Except.map, Except.ok.injEq]
      exact hpair

/-- The first member has another name. -/
theorem putAll_cons_unnamed (room : Nat) {key : String} (hname : key ≠ name) (v : Value)
    (members : List (String × Value)) (slots : rest.Slots) :
    (cons name blank f rest).putAll room (Value.nodesOfMembers ((key, v) :: members)) (Option.none, slots)
      = (rest.put room key v.toNode slots).bind fun found =>
        (cons name blank f rest).putAll room (Value.nodesOfMembers members)
          (Option.none, found.getD slots) := by
  refine (putAll_member _ room key v members _).trans ?_
  simp only [cons, if_neg hname]
  cases rest.put room key v.toNode slots with
  | error fault => rfl
  | ok found => cases found <;> rfl

/-- **A field is filled by the member of its name**, wherever it stands, and the other members go to the
    other fields. -/
theorem putAll_cons (room : Nat) {members : List (String × Value)} (hnodup : (members.map (·.1)).Nodup)
    (slots slots' : rest.Slots) :
    (cons name blank f rest).putAll room (Value.nodesOfMembers members) (Option.none, slots)
        = .ok (some a, slots') ↔
      (∃ v, (members.find? (·.1 = name)).map (·.2) = some v ∧ f.read room v.toNode = .ok a) ∧
        rest.putAll room (Value.nodesOfMembers (members.filter (·.1 ≠ name))) slots = .ok slots' := by
  induction members generalizing slots with
  | nil =>
    simp only [Value.nodesOfMembers, putAll, List.find?_nil]
    simp [cons]
  | cons member members ih =>
    obtain ⟨key, v⟩ := member
    obtain ⟨hkey, hmembers⟩ := List.nodup_cons.mp hnodup
    by_cases hname : key = name
    · -- No later member has the name.
      subst hname
      have hothers : ∀ other ∈ members, other.1 ≠ key := by
        intro other hother heq
        exact hkey (List.mem_map.mpr ⟨other, hother, heq⟩)
      have hfilter : ((key, v) :: members).filter (·.1 ≠ key) = members := by
        simpa using hothers
      rw [hfilter]
      refine (putAll_cons_named room v hothers slots slots').trans (and_congr_left fun _ => ?_)
      simp
    · have hfilter : ((key, v) :: members).filter (·.1 ≠ name)
          = (key, v) :: members.filter (·.1 ≠ name) := by
        simp [hname]
      have hfind : ((key, v) :: members).find? (·.1 = name) = members.find? (·.1 = name) := by
        simp [hname]
      rw [hfilter, hfind, putAll_cons_unnamed room hname, putAll_member]
      cases rest.put room key v.toNode slots with
      | error fault => simp [Except.bind]
      | ok found => exact ih hmembers (found.getD slots)

/-- **One more field of another name.** -/
theorem cons_restores {names : List String} (hf : f.Restores depth a) (hname : name ∉ names)
    (hrest : rest.Restores names depth b) :
    (cons name blank f rest).Restores (name :: names) depth (a, b) := by
  obtain ⟨slots, hfinish, hput⟩ := hrest.put_members
  have hnames : ∀ member ∈ rest.members b, member.1 ≠ name := by
    rintro member hmember rfl
    exact hname (hrest.names_eq ▸ List.mem_map_of_mem hmember)
  refine ⟨⟨hf.exact, hrest.exact⟩, congrArg (name :: ·) hrest.names_eq, (some a, slots), ?_,
    fun room hroom => ?_⟩
  · simp only [cons, Option.some_or, hfinish]
  · have hfirst : (cons name blank f rest).put room name (f.write a).toNode (Option.none, rest.empty)
        = .ok (some (some a, rest.empty)) := by
      simp only [cons, if_true, hf.read_write room hroom]
    have hothers : (cons name blank f rest).putAll room (Value.nodesOfMembers (rest.members b))
        (some a, rest.empty) = .ok (some a, slots) :=
      (putAll_cons_other room hnames (some a) _).trans (by rw [hput room hroom]; rfl)
    show (cons name blank f rest).putAll room
      ((some name, (f.write a).toNode) :: Value.nodesOfMembers (rest.members b))
        (Option.none, rest.empty) = _
    simp only [putAll, hfirst]
    exact hothers

/-- A field is filled by the first item, and the items after it go to the other fields. -/
theorem inOrder_field (room : Nat) (expected : String) (done : Nat) {items : List Value}
    {left : List Node} :
    (field name f rest).inOrder room expected done (Value.nodesOfItems items) true
        = .ok ((a, b), left) ↔
      ∃ v others, items = v :: others ∧ f.read room v.toNode = .ok a ∧
        rest.inOrder room expected (done + 1) (Value.nodesOfItems others) true = .ok (b, left) := by
  cases items with
  | nil => simp [field, cons, Value.nodesOfItems]
  | cons v others =>
    simp only [field, cons, Value.nodesOfItems, List.cons.injEq, exists_and_left, exists_eq_left',
      and_assoc]
    cases f.read room v.toNode with
    | error fault => simp
    | ok a' =>
      cases rest.inOrder room expected (done + 1) (Value.nodesOfItems others) true with
      | error fault => simp
      | ok found => simp [Prod.ext_iff, and_assoc]

end Fields

namespace Format

/-- **A record restores what its fields do, one level deeper.** -/
theorem record_restores {title : String} {fields : Fields α} {names : List String} {depth : Nat}
    {a : α} (h : fields.Restores names depth a) : (record title fields).Restores (depth + 1) a := by
  obtain ⟨slots, hfinish, hput⟩ := h.put_members
  refine ⟨h.exact, fun room hroom => ?_⟩
  have hinner := hput (room - 1) (by omega)
  simp only [record, Value.toNode, if_neg (show ¬ room ≤ 1 by omega), hinner, if_true]
  exact hfinish

/-- A record is read out of an object by its fields. -/
theorem record_read_object {title : String} {fields : Fields α} {room : Nat} (hroom : 1 < room)
    {members : List (String × Value)} {a : α} :
    (record title fields).read room (Value.object members).toNode = .ok a ↔
      ∃ slots, fields.putAll (room - 1) (Value.nodesOfMembers members) fields.empty = .ok slots ∧
        fields.finish slots = .ok a := by
  simp only [record, Value.toNode, if_neg (Nat.not_le_of_lt hroom), if_true]
  cases fields.putAll (room - 1) (Value.nodesOfMembers members) fields.empty <;> simp

/-- A record is read out of an array by its fields in order, if no item is left over. -/
theorem record_read_array {title : String} {fields : Fields α} {room : Nat} (hroom : 1 < room)
    {items : List Value} {a : α} :
    (record title fields).read room (Value.array items).toNode = .ok a ↔
      fields.inOrder (room - 1) ("struct " ++ title ++ " with " ++ toString fields.count
        ++ if fields.count = 1 then " element" else " elements") 0 (Value.nodesOfItems items) true
          = .ok (a, []) := by
  simp only [record, Value.toNode, if_neg (Nat.not_le_of_lt hroom), if_true]
  cases fields.inOrder (room - 1) _ 0 (Value.nodesOfItems items) true with
  | error fault => simp
  | ok found =>
    obtain ⟨b, left⟩ := found
    cases left <;> simp

/-! ## Texts -/

/-- **What was written in one line is read back.** -/
theorem ofText_compactText {f : Format α} {depth : Nat} {a : α} (h : f.Restores depth a)
    (hdepth : depth < fullRoom) : f.ofText (f.compactText a) = .ok a := by
  unfold ofText compactText
  simp only [Document.ofText_compactText h.exact, h.read_write fullRoom hdepth, Bool.false_eq_true,
    if_false]

/-- **What was written in lines is read back.** -/
theorem ofText_prettyText {f : Format α} {depth : Nat} {a : α} (h : f.Restores depth a)
    (hdepth : depth < fullRoom) : f.ofText (f.prettyText a) = .ok a := by
  unfold ofText prettyText
  simp only [Document.ofText_prettyText h.exact, h.read_write fullRoom hdepth, Bool.false_eq_true,
    if_false]

end Format

end Registrar.Json
