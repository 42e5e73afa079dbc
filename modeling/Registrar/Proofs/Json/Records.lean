import Registrar.Proofs.Json.Formats
import Registrar.Proofs.Json.Values

/-!
# What records are read out of

A record is read out of an object or of an array. The members of an object may stand in any order, and
members of other names are passed over; the items of an array are the fields in their order. A field that
is left out takes its blank if it has one. So what a record is read as depends only on what it gives for
each field.

## Contents

- `Record`, what a node gives for each field of a record: the order of members is free (`Record.perm`),
  members of other names are passed over (`Record.cons`), and an array is as good (`Record.items`);
- `Fields.Reads` with `Fields.none_reads` and `Fields.cons_reads`;
- `Format.Reads` with `text_reads`, `unsigned64_reads`, `u32_reads` and `dictionary_reads`;
- `Format.record_reads`: a record is read out of what is given for its fields.
-/

namespace Registrar.Json

variable {α β : Type}

/-! ## Members and items -/

/-- What stands under a key. -/
def member? (key : String) (members : List (Option String × Node)) : Option Node :=
  (members.find? (·.1 = some key)).map (·.2)

/-- The members of an object may be those of a record: no field is given twice, and what is no field is
    well formed. -/
structure Members (names : List String) (members : List (Option String × Node)) : Prop where
  keyed : ∀ member ∈ members, member.1 ≠ none
  once : ∀ name ∈ names, (members.filter (·.1 = some name)).length ≤ 1
  whole : ∀ member ∈ members, (∀ name ∈ names, member.1 ≠ some name) → member.2.whole = true

/-- **What a node gives for each field of a record.** -/
inductive Record (names : List String) : Node → List (Option Node) → Prop where
  /-- Each member gives the field of its name. -/
  | object {members : List (Option String × Node)} (h : Members names members) :
    Record names (.object members true) (names.map (member? · members))
  /-- Each item gives the field at its position. -/
  | array {items : List Node} (h : items.length ≤ names.length) :
    Record names (.array items true)
      (items.map some ++ List.replicate (names.length - items.length) none)

variable {name key : String} {names : List String} {members : List (Option String × Node)}

/-- At most one member has the key, so the order of the members does not matter. -/
theorem member?_perm {members' : List (Option String × Node)} (hperm : members.Perm members')
    (hone : (members.filter (·.1 = some key)).length ≤ 1) : member? key members = member? key members' := by
  have hnamed := hperm.filter (·.1 = some key)
  have heq : members.filter (·.1 = some key) = members'.filter (·.1 = some key) := by
    generalize members.filter (·.1 = some key) = named at hone hnamed ⊢
    cases named with
    | nil => exact (List.nil_perm.mp hnamed).symm
    | cons member named =>
      have hnil : named = [] := by simpa using hone
      subst hnil
      exact List.singleton_perm.mp hnamed
  rw [member?, member?, ← List.head?_filter, ← List.head?_filter, heq]

/-- An object gives each field what stands under its name. -/
theorem Record.slots_eq {slots : List (Option Node)} (h : Record names (.object members true) slots) :
    slots = names.map (member? · members) := by
  cases h with
  | object _ => rfl

/-- **The members may stand in any order.** -/
theorem Record.perm {members' : List (Option String × Node)} {slots : List (Option Node)}
    (h : Record names (.object members true) slots) (hperm : members.Perm members') :
    Record names (.object members' true) slots := by
  cases h with
  | object hmembers =>
    obtain ⟨hkeyed, honce, hwhole⟩ := hmembers
    have hslots : names.map (member? · members) = names.map (member? · members') := by
      apply List.map_congr_left
      intro name hname
      exact member?_perm hperm (honce name hname)
    rw [hslots]
    refine .object ⟨?_, ?_, ?_⟩
    · intro member hmember
      exact hkeyed member (hperm.mem_iff.mpr hmember)
    · intro name hname
      rw [← (hperm.filter _).length_eq]
      exact honce name hname
    · intro member hmember
      exact hwhole member (hperm.mem_iff.mpr hmember)

/-- **A member of another name is passed over.** -/
theorem Record.cons {v : Node} {slots : List (Option Node)} (h : Record names (.object members true) slots)
    (hkey : key ∉ names) (hv : v.whole = true) :
    Record names (.object ((some key, v) :: members) true) slots := by
  cases h with
  | object hmembers =>
    obtain ⟨hkeyed, honce, hwhole⟩ := hmembers
    have hne : ∀ name ∈ names, key ≠ name := by
      rintro name hname rfl
      exact hkey hname
    have hslots : names.map (member? · members) = names.map (member? · ((some key, v) :: members)) := by
      apply List.map_congr_left
      intro name hname
      simp [member?, hne name hname]
    rw [hslots]
    refine .object ⟨?_, ?_, ?_⟩
    · simpa using hkeyed
    · intro name hname
      simpa [hne name hname] using honce name hname
    · intro member hmember hother
      rcases List.mem_cons.mp hmember with rfl | hmember
      · exact hv
      · exact hwhole member hmember hother

/-- **The fields may be the items of an array.** -/
theorem Record.items {items : List Node} (h : Record names (.object members true) (items.map some)) :
    Record names (.array items true) (items.map some) := by
  have hlength : items.length = names.length := by
    generalize hslots : items.map some = slots at h
    cases h with
    | object _ => simpa using congrArg List.length hslots
  have harray := @Record.array names items (Nat.le_of_eq hlength)
  rwa [hlength, Nat.sub_self, List.replicate_zero, List.append_nil] at harray

/-- Members that are not those of a key. -/
def others (key : String) (members : List (Option String × Node)) : List (Option String × Node) :=
  members.filter (·.1 ≠ some key)

theorem member?_others (h : key ≠ name) : member? key (others name members) = member? key members := by
  rw [member?, member?, others, List.find?_filter]
  congr 2
  funext member
  by_cases hkey : member.1 = some key <;> simp [hkey, h]

theorem filter_others (h : key ≠ name) :
    (others name members).filter (·.1 = some key) = members.filter (·.1 = some key) := by
  rw [others, List.filter_filter]
  congr 1
  funext member
  by_cases hkey : member.1 = some key <;> simp [hkey, h]

/-- **One field after the other**: its members are taken out, and the others are left for the other
    fields. -/
theorem members_cons_iff (h : name ∉ names) :
    Members (name :: names) members ↔
      (members.filter (·.1 = some name)).length ≤ 1 ∧ Members names (others name members) := by
  have hne : ∀ key ∈ names, key ≠ name := by
    rintro key hkey rfl
    exact h hkey
  constructor
  · rintro ⟨hkeyed, honce, hwhole⟩
    refine ⟨honce name List.mem_cons_self, ?_, ?_, ?_⟩
    · intro member hmember
      exact hkeyed member (List.mem_filter.mp hmember).1
    · intro key hkey
      rw [filter_others (hne key hkey)]
      exact honce key (List.mem_cons_of_mem name hkey)
    · intro member hmember hother
      obtain ⟨hmem, hname⟩ := List.mem_filter.mp hmember
      apply hwhole member hmem
      intro key hkey
      rcases List.mem_cons.mp hkey with rfl | hkey
      · exact of_decide_eq_true hname
      · exact hother key hkey
  · rintro ⟨hone, hkeyed, honce, hwhole⟩
    -- A member of the name has a key; every other one is among the others.
    have hsplit : ∀ member ∈ members, member.1 = some name ∨ member ∈ others name members := by
      intro member hmember
      by_cases hname : member.1 = some name
      · exact .inl hname
      · exact .inr (List.mem_filter.mpr ⟨hmember, decide_eq_true hname⟩)
    refine ⟨?_, ?_, ?_⟩
    · intro member hmember
      rcases hsplit member hmember with hname | hother
      · rw [hname]
        exact Option.some_ne_none name
      · exact hkeyed member hother
    · intro key hkey
      rcases List.mem_cons.mp hkey with rfl | hkey
      · exact hone
      · rw [← filter_others (hne key hkey)]
        exact honce key hkey
    · intro member hmember hother
      rcases hsplit member hmember with hname | hmem
      · exact absurd hname (hother name List.mem_cons_self)
      · exact hwhole member hmem fun key hkey => hother key (List.mem_cons_of_mem name hkey)

theorem members_nil_iff :
    Members [] members ↔ ∀ member ∈ members, member.1 ≠ none ∧ member.2.whole = true := by
  constructor
  · rintro ⟨hkeyed, -, hwhole⟩ member hmember
    exact ⟨hkeyed member hmember, hwhole member hmember (by simp)⟩
  · intro h
    exact ⟨fun member hmember => (h member hmember).1, by simp,
      fun member hmember _ => (h member hmember).2⟩

/-! ## Fields -/

/-- What is given for a field is read, or nothing is given and the blank stands for it. -/
inductive Filled (Is : Node → α → Prop) (blank : Option α) : Option Node → α → Prop where
  | given {node : Node} {a : α} (h : Is node a) : Filled Is blank (some node) a
  | blank {a : α} (h : blank = some a) : Filled Is blank none a

theorem filled_none_iff {Is : Node → α → Prop} {slot : Option Node} {a : α} :
    Filled Is none slot a ↔ ∃ node, slot = some node ∧ Is node a := by
  constructor
  · intro h
    cases h with
    | given h => exact ⟨_, rfl, h⟩
    | blank h => cases h
  · rintro ⟨node, rfl, h⟩
    exact .given h

/-- What is given for the first field, and for those after it. -/
def FilledCons (P : Option Node → α → Prop) (R : List (Option Node) → β → Prop) :
    List (Option Node) → α × β → Prop
  | slot :: slots, (a, b) => P slot a ∧ R slots b
  | [], _ => False

theorem filledCons_iff {P : Option Node → α → Prop} {R : List (Option Node) → β → Prop}
    {slots : List (Option Node)} {a : α} {b : β} :
    FilledCons P R slots (a, b) ↔ ∃ slot rest, slots = slot :: rest ∧ P slot a ∧ R rest b := by
  cases slots <;> simp [FilledCons]

/-- The format reads just the nodes of its data. -/
def Format.Reads (f : Format α) (room : Nat) (Is : Node → α → Prop) : Prop :=
  ∀ node a, f.read room node = .ok a ↔ Is node a

namespace Fields

/-- Fields of the given names are read out of what is given for them. -/
structure Reads (fields : Fields α) (names : List String) (room : Nat)
    (R : List (Option Node) → α → Prop) : Prop where
  put_iff : ∀ members a,
    (∃ slots, fields.putAll room members fields.empty = .ok slots ∧ fields.finish slots = .ok a) ↔
      Members names members ∧ R (names.map (member? · members)) a
  order_iff : ∀ expected done items a,
    fields.inOrder room expected done items true = .ok (a, []) ↔
      items.length ≤ names.length ∧
        R (items.map some ++ List.replicate (names.length - items.length) Option.none) a

theorem putAll_none_iff (room : Nat) :
    Fields.none.putAll room members () = .ok () ↔
      ∀ member ∈ members, member.1 ≠ Option.none ∧ member.2.whole = true := by
  induction members with
  | nil => simp [putAll]
  | cons member members ih =>
    obtain ⟨key, v⟩ := member
    rw [List.forall_mem_cons, ← ih]
    cases key with
    | none => simp [putAll]
    | some key => cases hwhole : v.whole <;> simp [putAll, Fields.none, hwhole]

theorem none_reads (room : Nat) : Fields.none.Reads [] room fun slots _ => slots = [] := by
  refine ⟨?_, ?_⟩
  · intro members a
    rw [members_nil_iff, ← putAll_none_iff room]
    constructor
    · rintro ⟨slots, hput, -⟩
      exact ⟨hput, rfl⟩
    · rintro ⟨hput, -⟩
      exact ⟨(), hput, rfl⟩
  · intro expected done items a
    cases items <;> simp [Fields.none]

variable {blank : Option α} {f : Format α} {rest : Fields β} {room : Nat} {a : α} {b : β}
  {Is : Node → α → Prop} {R : List (Option Node) → β → Prop}

/-- The members of a field fill its slot. -/
inductive Fills (f : Format α) (room : Nat) :
    List (Option String × Node) → Option α → Option α → Prop where
  | nothing {slot : Option α} : Fills f room [] slot slot
  | member {key : Option String} {v : Node} {a : α} (h : f.read room v = .ok a) :
    Fills f room [(key, v)] Option.none (some a)

theorem fills_some_iff {named : List (Option String × Node)} {slot : Option α} :
    Fills f room named (some a) slot ↔ named = [] ∧ slot = some a := by
  constructor
  · intro h
    cases h with
    | nothing => exact ⟨rfl, rfl⟩
  · rintro ⟨rfl, rfl⟩
    exact .nothing

theorem fills_cons_iff {key : Option String} {v : Node} {named : List (Option String × Node)}
    {slot slot' : Option α} :
    Fills f room ((key, v) :: named) slot slot' ↔
      named = [] ∧ slot = Option.none ∧ ∃ a, f.read room v = .ok a ∧ slot' = some a := by
  constructor
  · intro h
    cases h with
    | member h => exact ⟨rfl, rfl, _, h, rfl⟩
  · rintro ⟨rfl, rfl, a, h, rfl⟩
    exact .member h

/-- A member is put into its field, or passed over if it is well formed. -/
theorem putAll_keyed (fields : Fields α) (room : Nat) (key : String) (v : Node)
    (members : List (Option String × Node)) (slots : fields.Slots) :
    fields.putAll room ((some key, v) :: members) slots
      = match fields.put room key v slots with
        | .error fault => .error fault
        | .ok (some slots) => fields.putAll room members slots
        | .ok Option.none => if v.whole then fields.putAll room members slots else .error .malformed :=
  putAll.eq_def _ _ _ _

/-- A member of the first field is read, unless the field is given already. -/
theorem putAll_cons_first (v : Node) (slot : Option α) (slots : rest.Slots) :
    (cons name blank f rest).putAll room ((some name, v) :: members) (slot, slots)
      = match slot with
        | some _ => .error (.duplicate name)
        | Option.none => (f.read room v).bind fun a =>
          (cons name blank f rest).putAll room members (some a, slots) := by
  refine (putAll_keyed _ room name v members _).trans ?_
  simp only [cons, if_true]
  cases slot with
  | some a => rfl
  | none => cases f.read room v <;> rfl

/-- Every other member is left to the other fields. -/
theorem putAll_cons_later (hname : key ≠ name) (v : Node) (slot : Option α) (slots : rest.Slots) :
    (cons name blank f rest).putAll room ((some key, v) :: members) (slot, slots)
      = match rest.put room key v slots with
        | .error fault => .error fault
        | .ok (some next) => (cons name blank f rest).putAll room members (slot, next)
        | .ok Option.none =>
          if v.whole then (cons name blank f rest).putAll room members (slot, slots)
          else .error .malformed := by
  refine (putAll_keyed _ room key v members _).trans ?_
  simp only [cons, if_neg hname]
  cases rest.put room key v slots with
  | error fault => rfl
  | ok found => cases found <;> rfl

/-- **The members of a field go to its slot**, and the others to the other slots. -/
theorem putAll_cons_iff {slot slot' : Option α} {slots slots' : rest.Slots} :
    (cons name blank f rest).putAll room members (slot, slots) = .ok (slot', slots') ↔
      Fills f room (members.filter (·.1 = some name)) slot slot' ∧
        rest.putAll room (others name members) slots = .ok slots' := by
  induction members generalizing slot slots with
  | nil =>
    constructor
    · intro h
      cases h
      exact ⟨.nothing, rfl⟩
    · rintro ⟨hfills, hput⟩
      cases hfills
      cases hput
      rfl
  | cons member members ih =>
    obtain ⟨key, v⟩ := member
    cases key with
    | none => simp [putAll, others]
    | some key =>
      by_cases hname : key = name
      · subst hname
        have hothers : others key ((some key, v) :: members) = others key members := by simp [others]
        have hnamed : ((some key, v) :: members).filter (·.1 = some key)
            = (some key, v) :: members.filter (·.1 = some key) := by simp
        rw [hothers, hnamed, fills_cons_iff, putAll_cons_first]
        cases slot with
        | some a => simp
        | none =>
          cases hread : f.read room v with
          | error fault => simp [Except.bind]
          | ok a =>
            -- The slot is filled, so that no other member of the name may follow.
            refine ih.trans ?_
            rw [fills_some_iff]
            simp
      · have hothers : others name ((some key, v) :: members) = (some key, v) :: others name members := by
          simp [others, hname]
        have hnamed : ((some key, v) :: members).filter (·.1 = some name)
            = members.filter (·.1 = some name) := by simp [hname]
        rw [hothers, hnamed, putAll_cons_later hname, putAll_keyed]
        cases rest.put room key v slots with
        | error fault => simp
        | ok found =>
          cases found with
          | none =>
            cases v.whole with
            | false => simp
            | true => exact ih
          | some next => exact ih

/-- What a field of one name is read out of. -/
theorem fills_iff (hIs : f.Reads room Is) :
    (∃ slot, Fills f room (members.filter (·.1 = some name)) Option.none slot ∧ slot.or blank = some a) ↔
      (members.filter (·.1 = some name)).length ≤ 1 ∧ Filled Is blank (member? name members) a := by
  rw [member?, ← List.head?_filter]
  generalize members.filter (·.1 = some name) = named
  constructor
  · rintro ⟨slot, hfills, hslot⟩
    cases hfills with
    | nothing => exact ⟨Nat.zero_le 1, .blank hslot⟩
    | member h =>
      rw [Option.some_or] at hslot
      cases hslot
      exact ⟨Nat.le_refl 1, .given ((hIs _ _).mp h)⟩
  · rintro ⟨hone, hfilled⟩
    cases named with
    | nil =>
      cases hfilled with
      | blank h => exact ⟨Option.none, .nothing, h⟩
    | cons member named =>
      have hnil : named = [] := by simpa using hone
      subst hnil
      cases hfilled with
      | given h => exact ⟨some a, .member ((hIs _ _).mpr h), rfl⟩

theorem finish_cons_iff {slot : Option α} {slots : rest.Slots} :
    (cons name blank f rest).finish (slot, slots) = .ok (a, b) ↔
      slot.or blank = some a ∧ rest.finish slots = .ok b := by
  simp only [cons]
  cases slot.or blank with
  | none => simp
  | some a' => cases rest.finish slots <;> simp

theorem inOrder_cons_nil_iff {expected : String} {done : Nat} :
    (cons name blank f rest).inOrder room expected done [] true = .ok ((a, b), []) ↔
      blank = some a ∧ rest.inOrder room expected (done + 1) [] true = .ok (b, []) := by
  simp only [cons]
  cases blank with
  | none => simp
  | some a' => cases rest.inOrder room expected (done + 1) [] true <;> simp [Prod.ext_iff, and_assoc]

theorem inOrder_cons_cons_iff {expected : String} {done : Nat} {v : Node} {items : List Node} :
    (cons name blank f rest).inOrder room expected done (v :: items) true = .ok ((a, b), []) ↔
      f.read room v = .ok a ∧ rest.inOrder room expected (done + 1) items true = .ok (b, []) := by
  simp only [cons]
  cases f.read room v with
  | error fault => simp
  | ok a' => cases rest.inOrder room expected (done + 1) items true <;> simp [Prod.ext_iff, and_assoc]

/-- **One more field**, of another name. -/
theorem cons_reads (hIs : f.Reads room Is) (hname : name ∉ names)
    (hrest : rest.Reads names room R) :
    (cons name blank f rest).Reads (name :: names) room (FilledCons (Filled Is blank) R) := by
  refine ⟨?_, ?_⟩
  · rintro members ⟨a, b⟩
    have hslots : names.map (member? · members) = names.map (member? · (others name members)) := by
      apply List.map_congr_left
      intro key hkey
      rw [member?_others]
      rintro rfl
      exact hname hkey
    rw [members_cons_iff hname, List.map_cons, hslots]
    show _ ↔ _ ∧ Filled Is blank (member? name members) a ∧ R _ b
    constructor
    · rintro ⟨⟨slot, slots⟩, hput, hfinish⟩
      obtain ⟨hfills, hothers⟩ := putAll_cons_iff.mp hput
      obtain ⟨hslot, hfinish⟩ := finish_cons_iff.mp hfinish
      obtain ⟨hone, hfilled⟩ := (fills_iff hIs).mp ⟨slot, hfills, hslot⟩
      obtain ⟨hmembers, hR⟩ := (hrest.put_iff _ b).mp ⟨slots, hothers, hfinish⟩
      exact ⟨⟨hone, hmembers⟩, hfilled, hR⟩
    · rintro ⟨⟨hone, hmembers⟩, hfilled, hR⟩
      obtain ⟨slot, hfills, hslot⟩ := (fills_iff hIs).mpr ⟨hone, hfilled⟩
      obtain ⟨slots, hothers, hfinish⟩ := (hrest.put_iff _ b).mpr ⟨hmembers, hR⟩
      exact ⟨(slot, slots), putAll_cons_iff.mpr ⟨hfills, hothers⟩,
        finish_cons_iff.mpr ⟨hslot, hfinish⟩⟩
  · rintro expected done items ⟨a, b⟩
    cases items with
    | nil =>
      refine inOrder_cons_nil_iff.trans ?_
      rw [hrest.order_iff]
      show _ ↔ _ ∧ Filled Is blank Option.none a ∧ R (List.replicate names.length Option.none) b
      constructor
      · rintro ⟨hblank, -, hR⟩
        exact ⟨Nat.zero_le _, .blank hblank, hR⟩
      · rintro ⟨-, hfilled, hR⟩
        cases hfilled with
        | blank hblank => exact ⟨hblank, Nat.zero_le _, hR⟩
    | cons v items =>
      refine inOrder_cons_cons_iff.trans ?_
      rw [hrest.order_iff, hIs, List.length_cons, List.length_cons, Nat.add_sub_add_right]
      show _ ↔ _ ∧ Filled Is blank (some v) a ∧ R _ b
      constructor
      · rintro ⟨hv, hlength, hR⟩
        exact ⟨Nat.succ_le_succ hlength, .given hv, hR⟩
      · rintro ⟨hlength, hfilled, hR⟩
        cases hfilled with
        | given hv => exact ⟨hv, Nat.le_of_succ_le_succ hlength, hR⟩

end Fields

/-! ## Formats -/

namespace Format

variable {node : Node} {room : Nat} {Is : Node → α → Prop}

/-- **A record is read out of what is given for its fields.** -/
theorem record_reads {title : String} {fields : Fields α} {R : List (Option Node) → α → Prop}
    (h : fields.Reads names (room - 1) R) (hroom : 1 < room) :
    (record title fields).Reads room fun node a => ∃ slots, Record names node slots ∧ R slots a := by
  intro node a
  have hlarge : ¬ room ≤ 1 := Nat.not_le_of_lt hroom
  constructor
  · intro hread
    cases node with
    | object members closed =>
      simp only [record, if_neg hlarge] at hread
      split at hread
      · cases hread
      next slots hput =>
      split at hread
      · next hclosed =>
        subst hclosed
        obtain ⟨hmembers, hR⟩ := (h.put_iff members a).mp ⟨slots, hput, hread⟩
        exact ⟨_, .object hmembers, hR⟩
      · cases hread
    | array items closed =>
      simp only [record, if_neg hlarge] at hread
      split at hread
      · cases hread
      · next hitems =>
        split at hread
        · next hclosed =>
          cases hread
          subst hclosed
          obtain ⟨hlength, hR⟩ := (h.order_iff _ 0 items a).mp hitems
          exact ⟨_, .array hlength, hR⟩
        · cases hread
      · cases hread
    | _ => cases hread
  · rintro ⟨slots, hrecord, hR⟩
    cases hrecord with
    | object hmembers =>
      obtain ⟨slots, hput, hfinish⟩ := (h.put_iff _ a).mpr ⟨hmembers, hR⟩
      simp only [record, if_neg hlarge, hput, if_true]
      exact hfinish
    | array hlength =>
      have hitems := fun expected => (h.order_iff expected 0 _ a).mpr ⟨hlength, hR⟩
      simp only [record, if_neg hlarge, hitems, if_true]

theorem map_eq_ok_iff {x : Except Fault α} {g : α → β} {b : β} :
    x.map g = .ok b ↔ ∃ a, x = .ok a ∧ g a = b := by
  cases x <;> simp [Except.map]

theorem along_reads {f : Format α} {build : α → β} {parts : β → α} (h : f.Reads room Is) :
    (f.along build parts).Reads room fun node b => ∃ a, Is node a ∧ build a = b := by
  intro node b
  refine map_eq_ok_iff.trans ?_
  simp only [h node]

theorem text_reads (room : Nat) : text.Reads room fun node s => node = .text (some s) := by
  intro node s
  cases node with
  | text given => cases given <;> simp [text]
  | _ => simp [text]

theorem readNatural_eq_ok_iff {limit n : Nat} {expected : String} :
    readNatural limit expected node = .ok n ↔
      ∃ k : UInt64, node = .number (some (.natural k)) ∧ k.toNat < limit ∧ k.toNat = n := by
  cases node with
  | number given =>
    cases given with
    | none => simp [readNatural]
    | some x =>
      cases x with
      | natural k =>
        by_cases hlt : k.toNat < limit
        · rw [readNatural_of_lt expected hlt]
          simp [hlt]
        · simp [readNatural, hlt]
      | _ => simp [readNatural]
  | _ => simp [readNatural]

theorem unsigned64_reads (expected : String) (room : Nat) :
    (unsigned64 expected).Reads room fun node n => node = .number (some (.natural n)) := by
  intro node n
  constructor
  · intro h
    obtain ⟨m, hm, rfl⟩ := map_eq_ok_iff.mp h
    obtain ⟨k, rfl, -, rfl⟩ := readNatural_eq_ok_iff.mp hm
    rw [UInt64.ofNat_toNat]
  · rintro rfl
    exact (unsigned64_restores expected n).read_write (room + 1) (Nat.succ_pos room)

theorem u32_reads (room : Nat) :
    u32.Reads room fun node n => node = .number (some (.natural n.toUInt64)) := by
  intro node n
  constructor
  · intro h
    obtain ⟨m, hm, rfl⟩ := map_eq_ok_iff.mp h
    obtain ⟨k, rfl, hk, rfl⟩ := readNatural_eq_ok_iff.mp hm
    have hvalue : (UInt32.ofNat k.toNat).toUInt64 = k := by
      apply UInt64.toNat_inj.mp
      rw [UInt32.toNat_toUInt64, UInt32.toNat_ofNat_of_lt' hk]
    rw [hvalue]
  · rintro rfl
    exact (u32_restores n).read_write (room + 1) (Nat.succ_pos room)

/-- **A dictionary is read out of an object with data throughout**, which is left in normal form. -/
theorem dictionary_reads :
    dictionary.Reads room fun node members =>
      ∃ given standing, node = (Value.object given).toNode ∧ (Value.object given).levels < room ∧
        Value.StandMembers given standing ∧ members = Value.sorted (Value.normalMembers standing) := by
  intro node members
  constructor
  · intro h
    cases node with
    | object entries closed =>
      simp only [dictionary] at h
      split at h
      · cases h
      next hlarge =>
      split at h
      · cases h
      next ms hms =>
      cases closed with
      | false => cases h
      | true =>
        cases h
        obtain ⟨given, standing, rfl, hlevels, hstand, rfl⟩ :=
          (Value.ofMembers_eq_ok_iff (by omega)).mp hms
        exact ⟨given, standing, rfl, by rw [Value.levels]; omega, hstand, rfl⟩
    | _ => cases h
  · rintro ⟨given, standing, rfl, hlevels, hstand, rfl⟩
    rw [Value.levels] at hlevels
    have hread := hstand.ofMembers_nodesOfMembers (show _ < room - 1 by omega)
    rw [Value.toNode]
    simp only [dictionary, if_neg (show ¬ room ≤ 1 by omega), hread, if_true]

end Format

end Registrar.Json
