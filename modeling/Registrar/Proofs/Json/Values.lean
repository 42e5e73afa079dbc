import Registrar.Json.Format
import Registrar.Proofs.Json.Documents
import Registrar.Proofs.Json.Nesting
import Registrar.Proofs.Keyed

/-!
# Data out of texts

A text holds data as it is spelled, with every member of an object. An object with the reserved key in front
stands for what its text holds. What is read is this data in normal form: members are sorted by key, and
the last of several with one key stays. Nothing is read if the data has too many levels, or if the reserved
key stands in front of anything but the text of a document.

## Contents

- `Holds`, the data that a text spells, with `Holds.unique`;
- `Value.levels` and `Value.normal`;
- `Value.Stands`, what data stands for, with `Value.Stands.unique` and, for data in which no key is
  reserved, `Value.stands_self` and `Value.standItems_iff_of_plain`;
- `Value.ofText_eq_ok_iff` and `Value.ofNode?_eq_some_iff`, what is read out of a text and out of a node;
- `Value.last?` and `Value.find?_sorted`: the last member of a key stays;
- `Format.list_value_ofText`, what is read out of a text as a list of data.
-/

namespace Registrar.Json

/-- The text spells the data. -/
def Holds (text : String) (v : Value) : Prop := ∃ ts, Token.Cut text.toList ts ∧ v.Spelled ts

mutual
theorem Value.toNode_inj {v w : Value} (h : v.toNode = w.toNode) : v = w := by
  match v, w with
  | .null, .null => rfl
  | .bool b, .bool b' =>
    cases h
    rfl
  | .number n, .number n' =>
    cases h
    rfl
  | .text s, .text s' =>
    cases h
    rfl
  | .array items, .array items' => rw [Value.nodesOfItems_inj (Node.array.inj h).1]
  | .object members, .object members' => rw [Value.nodesOfMembers_inj (Node.object.inj h).1]

theorem Value.nodesOfItems_inj {items items' : List Value}
    (h : nodesOfItems items = nodesOfItems items') : items = items' := by
  match items, items' with
  | [], [] => rfl
  | v :: rest, w :: rest' =>
    obtain ⟨hv, hrest⟩ := List.cons.inj h
    rw [Value.toNode_inj hv, Value.nodesOfItems_inj hrest]

theorem Value.nodesOfMembers_inj {members members' : List (String × Value)}
    (h : nodesOfMembers members = nodesOfMembers members') : members = members' := by
  match members, members' with
  | [], [] => rfl
  | (key, v) :: rest, (key', w) :: rest' =>
    obtain ⟨hmember, hrest⟩ := List.cons.inj h
    obtain ⟨hkey, hv⟩ := Prod.mk.inj hmember
    rw [Option.some.inj hkey, Value.toNode_inj hv, Value.nodesOfMembers_inj hrest]
end

/-- **A text holds no more than one piece of data.** -/
theorem Holds.unique {text : String} {v w : Value} (hv : Holds text v) (hw : Holds text w) : v = w := by
  have hdocument := (Document.ofText_eq_iff.mpr hv).symm.trans (Document.ofText_eq_iff.mpr hw)
  exact Value.toNode_inj (Document.mk.inj hdocument).1

namespace Value

/-! ## Levels and normal form -/

mutual
/-- The number of arrays and objects in one another. -/
def levels : Value → Nat
  | .array items => levelsOfItems items + 1
  | .object members => levelsOfMembers members + 1
  | _ => 0

/-- The levels of the deepest item. -/
def levelsOfItems : List Value → Nat
  | [] => 0
  | v :: rest => max v.levels (levelsOfItems rest)

/-- The levels of the deepest member. -/
def levelsOfMembers : List (String × Value) → Nat
  | [] => 0
  | (_, v) :: rest => max v.levels (levelsOfMembers rest)
end

mutual
/-- The data with its members sorted by key, the last of several with one key. -/
def normal : Value → Value
  | .array items => .array (normalItems items)
  | .object members => .object (sorted (normalMembers members))
  | v => v

/-- The items in normal form. -/
def normalItems : List Value → List Value
  | [] => []
  | v :: rest => v.normal :: normalItems rest

/-- The members in normal form, as they stand. -/
def normalMembers : List (String × Value) → List (String × Value)
  | [] => []
  | (key, v) :: rest => (key, v.normal) :: normalMembers rest
end

theorem normalItems_eq_map (items : List Value) : normalItems items = items.map normal := by
  induction items with
  | nil => rfl
  | cons v items ih => rw [normalItems, ih, List.map_cons]

theorem normalMembers_eq_map (members : List (String × Value)) :
    normalMembers members = members.map fun member => (member.1, member.2.normal) := by
  induction members with
  | nil => rfl
  | cons member members ih => rw [normalMembers, ih, List.map_cons]

theorem normal_eq_text {v : Value} {s : String} : v.normal = .text s ↔ v = .text s := by
  cases v <;> simp [normal]

/-! ## What data stands for -/

/-- The first member has the reserved key. -/
def Reserved (members : List (String × Value)) : Prop := members.head?.map (·.1) = some rawKey

mutual
/-- No object has the reserved key in front. -/
def Plain : Value → Prop
  | .array items => PlainItems items
  | .object members => ¬ Reserved members ∧ PlainMembers members
  | _ => True

/-- No object in items has the reserved key in front. -/
def PlainItems : List Value → Prop
  | [] => True
  | v :: rest => v.Plain ∧ PlainItems rest

/-- No object in the values of members has the reserved key in front. -/
def PlainMembers : List (String × Value) → Prop
  | [] => True
  | (_, v) :: rest => v.Plain ∧ PlainMembers rest
end

mutual
/-- Data as it is spelled stands for itself, but for objects with the reserved key in front: these stand for
    what the data in their text stands for. -/
inductive Stands : Value → Value → Prop where
  | null : Stands .null .null
  | bool (b : Bool) : Stands (.bool b) (.bool b)
  | number (n : Number) : Stands (.number n) (.number n)
  | text (s : String) : Stands (.text s) (.text s)
  | array {given items : List Value} (h : StandItems given items) : Stands (.array given) (.array items)
  | object {given members : List (String × Value)} (hfirst : ¬ Reserved given)
    (h : StandMembers given members) : Stands (.object given) (.object members)
  | raw {s : String} {v w : Value} (hholds : Holds s v) (hlevels : v.levels < fullRoom)
    (h : Stands v w) : Stands (.object [(rawKey, .text s)]) w

/-- Items stand for items, one by one. -/
inductive StandItems : List Value → List Value → Prop where
  | nil : StandItems [] []
  | cons {v w : Value} {given items : List Value} (h : Stands v w) (hrest : StandItems given items) :
    StandItems (v :: given) (w :: items)

/-- Members stand for members with the same keys, one by one. -/
inductive StandMembers : List (String × Value) → List (String × Value) → Prop where
  | nil : StandMembers [] []
  | cons (key : String) {v w : Value} {given members : List (String × Value)} (h : Stands v w)
    (hrest : StandMembers given members) : StandMembers ((key, v) :: given) ((key, w) :: members)
end

mutual
/-- **Data stands for no more than one piece of data.** -/
theorem Stands.unique {v w w' : Value} (h : v.Stands w) (h' : v.Stands w') : w = w' := by
  match h, h' with
  | .null, .null | .bool _, .bool _ | .number _, .number _ | .text _, .text _ => rfl
  | .array h, .array h' => rw [h.unique h']
  | .object _ h, .object _ h' => rw [h.unique h']
  | .object hfirst _, .raw _ _ _ => exact absurd rfl hfirst
  | .raw _ _ _, .object hfirst _ => exact absurd rfl hfirst
  | .raw hholds _ h, .raw hholds' _ h' =>
    cases hholds.unique hholds'
    exact h.unique h'

theorem StandItems.unique {given items items' : List Value} (h : StandItems given items)
    (h' : StandItems given items') : items = items' := by
  match h, h' with
  | .nil, .nil => rfl
  | .cons h hrest, .cons h' hrest' => rw [h.unique h', hrest.unique hrest']

theorem StandMembers.unique {given members members' : List (String × Value)}
    (h : StandMembers given members) (h' : StandMembers given members') : members = members' := by
  match h, h' with
  | .nil, .nil => rfl
  | .cons key h hrest, .cons _ h' hrest' => rw [h.unique h', hrest.unique hrest']
end

mutual
theorem stands_self (v : Value) (h : v.Plain) : v.Stands v := by
  match v with
  | .null => exact .null
  | .bool b => exact .bool b
  | .number n => exact .number n
  | .text s => exact .text s
  | .array items => exact .array (standItems_self items h)
  | .object members => exact .object h.1 (standMembers_self members h.2)

theorem standItems_self (items : List Value) (h : PlainItems items) : StandItems items items := by
  match items with
  | [] => exact .nil
  | v :: rest => exact .cons (stands_self v h.1) (standItems_self rest h.2)

theorem standMembers_self (members : List (String × Value)) (h : PlainMembers members) :
    StandMembers members members := by
  match members with
  | [] => exact .nil
  | (key, v) :: rest => exact .cons key (stands_self v h.1) (standMembers_self rest h.2)
end

/-- Where no key is reserved, items stand for themselves alone. -/
theorem standItems_iff_of_plain {given items : List Value} (h : PlainItems given) :
    StandItems given items ↔ given = items := by
  constructor
  · exact (standItems_self given h).unique
  · rintro rfl
    exact standItems_self given h

/-! ## Nodes with data -/

theorem raw?_nodesOfMembers_eq_none {members : List (String × Value)} :
    raw? (nodesOfMembers members) = none ↔ ¬ Reserved members := by
  rcases members with _ | ⟨⟨key, v⟩, rest⟩
  · simp [nodesOfMembers, raw?, Reserved]
  · simp [nodesOfMembers, raw?, Reserved]

/-- An object with nothing but a text behind the reserved key is what the text is. -/
theorem ofNode_raw (inner : String → Except Fault Value) {room : Nat} (hroom : 1 < room) (s : String) :
    ofNode inner room (.object [(some rawKey, .text (some s))] true) = inner s := by
  have hraw : raw? [(some rawKey, Node.text (some s))] = some (.text (some s), []) := by
    rw [raw?, if_pos rfl]
  rw [ofNode, if_neg (by omega), hraw]
  dsimp only [ofRaw]
  cases inner s <;> rfl

/-- Only a text may stand behind the reserved key. -/
theorem exists_of_ofRaw {inner : String → Except Fault Value} {v : Node} {w : Value}
    (h : ofRaw inner v = .ok w) : ∃ s, v = .text (some s) ∧ inner s = .ok w := by
  match v with
  | .text (some s) => exact ⟨s, rfl, h⟩
  | .text none | .null | .bool _ | .number _ | .array _ _ | .object _ _ | .fault => cases h

theorem ofText_of_holds {s : String} {v w : Value} (hholds : Holds s v)
    (hread : ofNode ofText fullRoom v.toNode = .ok w) : ofText s = .ok w := by
  rw [ofText_eq, Document.ofText_eq_iff.mpr hholds]
  dsimp only
  rw [hread]
  rfl

mutual
/-- Data that has room is read out of its node as what it stands for, in normal form. -/
theorem Stands.ofNode_toNode {v w : Value} (h : v.Stands w) {room : Nat} (hroom : v.levels < room) :
    ofNode ofText room v.toNode = .ok w.normal := by
  match h with
  | .null => rfl
  | .bool b => rfl
  | .number n => rfl
  | .text s => rfl
  | .array h =>
    rw [levels] at hroom
    rw [toNode, ofNode, if_neg (by omega), h.ofItems_nodesOfItems (by omega)]
    rfl
  | .object hfirst h =>
    rw [levels] at hroom
    rw [toNode, ofNode, if_neg (by omega), raw?_nodesOfMembers_eq_none.mpr hfirst,
      h.ofMembers_nodesOfMembers (by omega)]
    rfl
  | .raw hholds hlevels h =>
    have hone : 1 < room := hroom
    have hread := ofText_of_holds hholds (h.ofNode_toNode hlevels)
    exact (ofNode_raw ofText hone _).trans hread

theorem StandItems.ofItems_nodesOfItems {given items : List Value} (h : StandItems given items)
    {room : Nat} (hroom : levelsOfItems given < room) :
    ofItems ofText room (nodesOfItems given) = .ok (normalItems items) := by
  match h with
  | .nil => rfl
  | .cons h hrest =>
    rw [levelsOfItems] at hroom
    have hv := h.ofNode_toNode (show _ < room by omega)
    have hothers := hrest.ofItems_nodesOfItems (show _ < room by omega)
    simp only [nodesOfItems, ofItems, hv, hothers, normalItems]

theorem StandMembers.ofMembers_nodesOfMembers {given members : List (String × Value)}
    (h : StandMembers given members) {room : Nat} (hroom : levelsOfMembers given < room) :
    ofMembers ofText room (nodesOfMembers given) = .ok (normalMembers members) := by
  match h with
  | .nil => rfl
  | .cons key h hrest =>
    rw [levelsOfMembers] at hroom
    have hv := h.ofNode_toNode (show _ < room by omega)
    have hothers := hrest.ofMembers_nodesOfMembers (show _ < room by omega)
    simp only [nodesOfMembers, ofMembers, hv, hothers, normalMembers]
end

/-- The text holds data that stands for other data, which has the given normal form. -/
def Denotes (s : String) (w : Value) : Prop :=
  ∃ v v' : Value, Holds s v ∧ v.levels < fullRoom ∧ v.Stands v' ∧ v'.normal = w

section Sound

variable {inner : String → Except Fault Value}

mutual
/-- A node out of which data is read is the node of data that has room and stands for what was read. -/
theorem exists_of_ofNode (hinner : ∀ s w, inner s = .ok w → Denotes s w) (node : Node) {room : Nat}
    {w : Value} (hroom : 0 < room) (h : ofNode inner room node = .ok w) :
    ∃ v v' : Value, v.toNode = node ∧ v.levels < room ∧ v.Stands v' ∧ v'.normal = w := by
  match node with
  | .null =>
    cases h
    exact ⟨.null, .null, rfl, hroom, .null, rfl⟩
  | .bool b =>
    cases h
    exact ⟨.bool b, .bool b, rfl, hroom, .bool b, rfl⟩
  | .number (some n) =>
    cases h
    exact ⟨.number n, .number n, rfl, hroom, .number n, rfl⟩
  | .text (some s) =>
    cases h
    exact ⟨.text s, .text s, rfl, hroom, .text s, rfl⟩
  | .array items closed =>
    rw [ofNode] at h
    split at h
    · cases h
    next hlarge =>
    split at h
    · cases h
    next ws hws =>
    cases closed with
    | false => cases h
    | true =>
      cases h
      obtain ⟨vs, vs', rfl, hlevels, hstand, rfl⟩ := exists_of_ofItems hinner items (by omega) hws
      exact ⟨.array vs, .array vs', rfl, by rw [levels]; omega, .array hstand, rfl⟩
  | .object members closed =>
    rw [ofNode] at h
    split at h
    · cases h
    next hlarge =>
    split at h
    · next v rest hraw =>
      split at h
      · cases h
      next w' hw' =>
      obtain ⟨s, rfl, hs⟩ := exists_of_ofRaw hw'
      obtain ⟨v, v', hholds, hlevels, hstand, rfl⟩ := hinner s w' hs
      split at h
      · next hend =>
        cases h
        -- The object ends behind the text.
        obtain ⟨rfl, hrest⟩ := Bool.and_eq_true_iff.mp hend
        obtain rfl := List.isEmpty_iff.mp hrest
        obtain rfl := mem_of_raw? hraw
        exact ⟨.object [(rawKey, .text s)], v', rfl, show 1 < room by omega,
          .raw hholds hlevels hstand, rfl⟩
      · cases h
    · next hraw =>
      split at h
      · cases h
      next ws hws =>
      cases closed with
      | false => cases h
      | true =>
        cases h
        obtain ⟨vs, vs', rfl, hlevels, hstand, rfl⟩ := exists_of_ofMembers hinner members (by omega) hws
        have hfirst := raw?_nodesOfMembers_eq_none.mp hraw
        exact ⟨.object vs, .object vs', rfl, by rw [levels]; omega, .object hfirst hstand, rfl⟩
  | .number none | .text none | .fault => cases h

theorem exists_of_ofItems (hinner : ∀ s w, inner s = .ok w → Denotes s w) (items : List Node) {room : Nat}
    {ws : List Value} (hroom : 0 < room) (h : ofItems inner room items = .ok ws) :
    ∃ vs vs', nodesOfItems vs = items ∧ levelsOfItems vs < room ∧ StandItems vs vs' ∧
      normalItems vs' = ws := by
  match items with
  | [] =>
    cases h
    exact ⟨[], [], rfl, hroom, .nil, rfl⟩
  | node :: rest =>
    rw [ofItems] at h
    split at h
    · cases h
    next w hw =>
    split at h
    · cases h
    next ws hws =>
    cases h
    obtain ⟨v, v', rfl, hv, hstand, rfl⟩ := exists_of_ofNode hinner node hroom hw
    obtain ⟨vs, vs', rfl, hvs, hstands, rfl⟩ := exists_of_ofItems hinner rest hroom hws
    exact ⟨v :: vs, v' :: vs', rfl, by rw [levelsOfItems]; omega, .cons hstand hstands, rfl⟩

theorem exists_of_ofMembers (hinner : ∀ s w, inner s = .ok w → Denotes s w)
    (members : List (Option String × Node)) {room : Nat}
    {ws : List (String × Value)} (hroom : 0 < room) (h : ofMembers inner room members = .ok ws) :
    ∃ vs vs', nodesOfMembers vs = members ∧ levelsOfMembers vs < room ∧ StandMembers vs vs' ∧
      normalMembers vs' = ws := by
  match members with
  | [] =>
    cases h
    exact ⟨[], [], rfl, hroom, .nil, rfl⟩
  | (none, _) :: _ => cases h
  | (some key, node) :: rest =>
    rw [ofMembers] at h
    split at h
    · cases h
    next w hw =>
    split at h
    · cases h
    next ws hws =>
    cases h
    obtain ⟨v, v', rfl, hv, hstand, rfl⟩ := exists_of_ofNode hinner node hroom hw
    obtain ⟨vs, vs', rfl, hvs, hstands, rfl⟩ := exists_of_ofMembers hinner rest hroom hws
    exact ⟨(key, v) :: vs, (key, v') :: vs', rfl, by rw [levelsOfMembers]; omega,
      .cons key hstand hstands, rfl⟩
end

end Sound

theorem denotes_of_ofText (s : String) (w : Value) (h : ofText s = .ok w) : Denotes s w := by
  rw [ofText] at h
  have hinner : ∀ t u, (if _shorter : t.length < s.length then ofText t else .error .malformed) = .ok u →
      Denotes t u := by
    intro t u ht
    split at ht
    · exact denotes_of_ofText t u ht
    · cases ht
  split at h
  · cases h
  next v hv =>
  obtain ⟨v, v', hnode, hlevels, hstand, rfl⟩ := exists_of_ofNode hinner _ (by decide) hv
  cases htrailing : (Document.ofText s).trailing with
  | true =>
    rw [htrailing] at h
    cases h
  | false =>
    rw [htrailing] at h
    cases h
    exact ⟨v, v', Document.ofText_eq_iff.mp (by rw [hnode, ← htrailing]), hlevels, hstand, rfl⟩
termination_by s.length

variable {room : Nat}

/-- **What is read out of a text.** -/
theorem ofText_eq_ok_iff {s : String} {w : Value} : ofText s = .ok w ↔ Denotes s w := by
  constructor
  · exact denotes_of_ofText s w
  · rintro ⟨v, v', hholds, hlevels, hstand, rfl⟩
    exact ofText_of_holds hholds (hstand.ofNode_toNode hlevels)

/-- **What is read out of a node.** -/
theorem ofNode?_eq_some_iff {node : Node} {w : Value} (hroom : 0 < room) :
    ofNode? room node = some w ↔
      ∃ v v' : Value, v.toNode = node ∧ v.levels < room ∧ v.Stands v' ∧ v'.normal = w := by
  have hread : ofNode? room node = some w ↔ ofNode ofText room node = .ok w := by
    unfold ofNode?
    cases ofNode ofText room node <;> simp [Except.toOption]
  rw [hread]
  constructor
  · exact exists_of_ofNode denotes_of_ofText node hroom
  · rintro ⟨v, v', rfl, hlevels, hstand, rfl⟩
    exact hstand.ofNode_toNode hlevels

theorem ofItems_eq_ok_iff {items : List Node} {ws : List Value} (hroom : 0 < room) :
    ofItems ofText room items = .ok ws ↔
      ∃ vs vs', nodesOfItems vs = items ∧ levelsOfItems vs < room ∧ StandItems vs vs' ∧
        normalItems vs' = ws := by
  constructor
  · exact exists_of_ofItems denotes_of_ofText items hroom
  · rintro ⟨vs, vs', rfl, hlevels, hstand, rfl⟩
    exact hstand.ofItems_nodesOfItems hlevels

theorem ofMembers_eq_ok_iff {members : List (Option String × Node)} {ws : List (String × Value)}
    (hroom : 0 < room) :
    ofMembers ofText room members = .ok ws ↔
      ∃ vs vs', nodesOfMembers vs = members ∧ levelsOfMembers vs < room ∧ StandMembers vs vs' ∧
        normalMembers vs' = ws := by
  constructor
  · exact exists_of_ofMembers denotes_of_ofText members hroom
  · rintro ⟨vs, vs', rfl, hlevels, hstand, rfl⟩
    exact hstand.ofMembers_nodesOfMembers hlevels

/-! ## Members by key -/

/-- The last of the members with a key. -/
def last? (key : String) (members : List (String × Value)) : Option Value :=
  (members.reverse.find? (·.1 = key)).map (·.2)

theorem find?_foldl_insert (key : String) (members sofar : List (String × Value)) :
    (members.foldl (fun sofar (k, v) => Keyed.insert k v sofar) sofar).find? (·.1 = key)
      = (members.reverse.find? (·.1 = key)).or (sofar.find? (·.1 = key)) := by
  induction members generalizing sofar with
  | nil => rfl
  | cons member members ih =>
    obtain ⟨k, v⟩ := member
    have hlast : [(k, v)].find? (·.1 = key) = if k = key then some (k, v) else none := by
      by_cases hk : k = key <;> simp [hk]
    rw [List.foldl_cons, ih, Keyed.find?_insert, List.reverse_cons, List.find?_append, hlast,
      Option.or_assoc]
    by_cases hk : k = key <;> simp [hk]

/-- **The last of the members with a key stays.** -/
theorem find?_sorted (key : String) (members : List (String × Value)) :
    ((sorted members).find? (·.1 = key)).map (·.2) = last? key members := by
  rw [sorted, find?_foldl_insert]
  simp [last?]

theorem last?_normalMembers (key : String) (members : List (String × Value)) :
    last? key (normalMembers members) = (last? key members).map normal := by
  rw [last?, normalMembers_eq_map, ← List.map_reverse, List.find?_map]
  simp [last?, Function.comp_def]

/-- Members are sorted by key. -/
theorem pairwise_sorted (members : List (String × Value)) :
    (sorted members).Pairwise fun a b => a.1 < b.1 :=
  List.foldlRecOn members _ List.Pairwise.nil fun _ hsofar member _ =>
    Keyed.pairwise_insert member.1 member.2 hsofar

end Value

namespace Format

variable {α : Type} {s : String}

/-- What is read out of a text is read out of its document, which is all of the text. -/
theorem ofText_eq_ok_iff {f : Format α} {a : α} :
    f.ofText s = .ok a ↔
      f.read fullRoom (Document.ofText s).node = .ok a ∧ (Document.ofText s).trailing = false := by
  unfold ofText
  dsimp only
  cases hread : f.read fullRoom (Document.ofText s).node with
  | error fault => cases fault <;> simp
  | ok b => cases htrailing : (Document.ofText s).trailing <;> simp

theorem readItems_value (room : Nat) (items : List Node) :
    readItems .value room items = Value.ofItems Value.ofText room items := by
  induction items with
  | nil => rfl
  | cons node items ih =>
    rw [readItems, Value.ofItems, ih]
    simp only [value]
    cases Value.ofNode Value.ofText room node with
    | error fault => rfl
    | ok v => cases Value.ofItems Value.ofText room items <;> rfl

/-- A list of data is read out of an array, item by item. -/
theorem list_value_read {room : Nat} {node : Node} {values : List Value} :
    (list .value).read room node = .ok values ↔
      ∃ given items, (Value.array given).toNode = node ∧ (Value.array given).levels < room ∧
        Value.StandItems given items ∧ values = items.map Value.normal := by
  constructor
  · intro h
    cases node with
    | array items closed =>
      simp only [list, readItems_value] at h
      split at h
      · cases h
      next hlarge =>
      split at h
      · cases h
      next ws hws =>
      cases closed with
      | false => cases h
      | true =>
        cases h
        obtain ⟨given, items, rfl, hlevels, hstand, rfl⟩ := (Value.ofItems_eq_ok_iff (by omega)).mp hws
        exact ⟨given, items, rfl, by rw [Value.levels]; omega, hstand, Value.normalItems_eq_map items⟩
    | _ => cases h
  · rintro ⟨given, items, rfl, hlevels, hstand, rfl⟩
    rw [Value.levels] at hlevels
    have hread := hstand.ofItems_nodesOfItems (show _ < room - 1 by omega)
    rw [Value.toNode, ← Value.normalItems_eq_map]
    simp only [list, readItems_value, if_neg (show ¬ room ≤ 1 by omega), hread, if_true]

/-- **What is read out of a text as a list of data** is what the items that the text holds stand for, in
    normal form. -/
theorem list_value_ofText {values : List Value} :
    (list .value).ofText s = .ok values ↔
      ∃ given items, Holds s (.array given) ∧ (Value.array given).levels ≤ 127 ∧
        Value.StandItems given items ∧ values = items.map Value.normal := by
  rw [ofText_eq_ok_iff, list_value_read]
  constructor
  · rintro ⟨⟨given, items, hnode, hlevels, hstand, hvalues⟩, htrailing⟩
    have hholds : Holds s (.array given) := Document.ofText_eq_iff.mp (by rw [hnode, ← htrailing])
    exact ⟨given, items, hholds, Nat.le_of_lt_succ hlevels, hstand, hvalues⟩
  · rintro ⟨given, items, hholds, hlevels, hstand, hvalues⟩
    rw [Document.ofText_eq_iff.mpr hholds]
    exact ⟨⟨given, items, rfl, Nat.lt_succ_of_le hlevels, hstand, hvalues⟩, rfl⟩

end Format

end Registrar.Json
