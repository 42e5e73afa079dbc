import Registrar.Json.Value
import Registrar.Proofs.Json.Lexing

/-!
# The grammar of documents

`Value.Spelled` says which tokens spell which data, with the members of an object in the order in which they
stand. The reader of documents, which keeps a stack of the values around the one being read, accepts
exactly these tokens: data that is spelled is read, and what was read without a fault is spelled by the
tokens that were read.

## Contents

- `Value.Spelled`, the grammar, and `Value.Spelled.separated`: only punctuation comes after a numeral;
- `Document.ofTokens_of_spelled`, spelled data is read;
- `Document.Reached`, what tokens lead to a state of the reader, with `Document.Reached.step`;
- `Document.spelled_of_ofTokens`, what was read is spelled.
-/

namespace Registrar.Json

namespace Value

/-! ## The grammar -/

mutual
/-- The tokens spell the data. -/
inductive Spelled : Value → List Token → Prop where
  | null : Spelled .null [.null]
  | bool (b : Bool) : Spelled (.bool b) [.bool b]
  | number {n : Numeral} {x : Number} (h : n.number? = some x) : Spelled (.number x) [.number n]
  | text (s : String) : Spelled (.text s) [.text (some s)]
  | array {items : List Value} {ts : List Token} (h : SpelledItems items ts) :
    Spelled (.array items) (.openArray :: (ts ++ [.closeArray]))
  | object {members : List (String × Value)} {ts : List Token} (h : SpelledMembers members ts) :
    Spelled (.object members) (.openObject :: (ts ++ [.closeObject]))

/-- The tokens spell items with commas between them. -/
inductive SpelledItems : List Value → List Token → Prop where
  | nil : SpelledItems [] []
  | last {v : Value} {ts : List Token} (h : Spelled v ts) : SpelledItems [v] ts
  | more {v w : Value} {rest : List Value} {ts others : List Token} (h : Spelled v ts)
    (hrest : SpelledItems (w :: rest) others) :
    SpelledItems (v :: w :: rest) (ts ++ .comma :: others)

/-- The tokens spell members with commas between them. -/
inductive SpelledMembers : List (String × Value) → List Token → Prop where
  | nil : SpelledMembers [] []
  | last (key : String) {v : Value} {ts : List Token} (h : Spelled v ts) :
    SpelledMembers [(key, v)] (.text (some key) :: .colon :: ts)
  | more (key : String) {v : Value} {next : String × Value} {rest : List (String × Value)}
    {ts others : List Token} (h : Spelled v ts) (hrest : SpelledMembers (next :: rest) others) :
    SpelledMembers ((key, v) :: next :: rest) (.text (some key) :: .colon :: (ts ++ .comma :: others))
end

/-! ### Tokens that spell data -/

mutual
/-- What spells data has a spelling itself. -/
theorem Spelled.valid {v : Value} {ts : List Token} (h : v.Spelled ts) : ∀ t ∈ ts, t.Valid := by
  match h with
  | .null => simp [Token.Valid]
  | .bool b => simp [Token.Valid]
  | .number _ => simp [Token.Valid]
  | .text s => simp [Token.Valid]
  | .array h => simpa [Token.Valid, or_imp, forall_and] using h.valid
  | .object h => simpa [Token.Valid, or_imp, forall_and] using h.valid

theorem SpelledItems.valid {items : List Value} {ts : List Token} (h : SpelledItems items ts) :
    ∀ t ∈ ts, t.Valid := by
  match h with
  | .nil => simp
  | .last h => exact h.valid
  | .more h hrest =>
    have hfirst := h.valid
    have hothers := hrest.valid
    simp only [List.forall_mem_append, List.forall_mem_cons]
    exact ⟨hfirst, by simp [Token.Valid], hothers⟩

theorem SpelledMembers.valid {members : List (String × Value)} {ts : List Token}
    (h : SpelledMembers members ts) : ∀ t ∈ ts, t.Valid := by
  match h with
  | .nil => simp
  | .last key h =>
    have hvalue := h.valid
    simp only [List.forall_mem_cons]
    exact ⟨by simp [Token.Valid], by simp [Token.Valid], hvalue⟩
  | .more key h hrest =>
    have hfirst := h.valid
    have hothers := hrest.valid
    simp only [List.forall_mem_append, List.forall_mem_cons]
    exact ⟨by simp [Token.Valid], by simp [Token.Valid], hfirst, by simp [Token.Valid], hothers⟩
end

theorem separated_cons {t : Token} {ts : List Token} (ht : ¬ t.IsNumeral) (h : Token.Separated ts) :
    Token.Separated (t :: ts) := ⟨fun hnumeral => absurd hnumeral ht, h⟩

mutual
/-- **Only punctuation comes after a numeral.** -/
theorem Spelled.separated {v : Value} {ts rest : List Token} (h : v.Spelled ts)
    (hrest : Token.Separated rest) (hfirst : ∀ t ∈ rest.head?, t.IsPunctuation) :
    Token.Separated (ts ++ rest) := by
  match h with
  | .null => exact separated_cons nofun hrest
  | .bool b => exact separated_cons nofun hrest
  | .number _ => exact ⟨fun _ => hfirst, hrest⟩
  | .text s => exact separated_cons nofun hrest
  | .array h =>
    rw [List.cons_append, List.append_assoc]
    exact separated_cons nofun (h.separated (separated_cons nofun hrest) (by simp [Token.IsPunctuation]))
  | .object h =>
    rw [List.cons_append, List.append_assoc]
    exact separated_cons nofun (h.separated (separated_cons nofun hrest) (by simp [Token.IsPunctuation]))

theorem SpelledItems.separated {items : List Value} {ts rest : List Token} (h : SpelledItems items ts)
    (hrest : Token.Separated rest) (hfirst : ∀ t ∈ rest.head?, t.IsPunctuation) :
    Token.Separated (ts ++ rest) := by
  match h with
  | .nil => exact hrest
  | .last h => exact h.separated hrest hfirst
  | .more h hmore =>
    have hothers := hmore.separated hrest hfirst
    rw [List.append_assoc]
    exact h.separated (separated_cons nofun hothers) (by simp [Token.IsPunctuation])

theorem SpelledMembers.separated {members : List (String × Value)} {ts rest : List Token}
    (h : SpelledMembers members ts) (hrest : Token.Separated rest)
    (hfirst : ∀ t ∈ rest.head?, t.IsPunctuation) : Token.Separated (ts ++ rest) := by
  match h with
  | .nil => exact hrest
  | .last key h => exact separated_cons nofun (separated_cons nofun (h.separated hrest hfirst))
  | .more key h hmore =>
    have hothers := hmore.separated hrest hfirst
    simp only [List.cons_append, List.append_assoc]
    exact separated_cons nofun (separated_cons nofun
      (h.separated (separated_cons nofun hothers) (by simp [Token.IsPunctuation])))
end

mutual
/-- One more item. -/
theorem SpelledItems.concat {items : List Value} {v : Value} {ts inner : List Token}
    (h : SpelledItems items ts) (hne : items ≠ []) (hv : v.Spelled inner) :
    SpelledItems (items ++ [v]) (ts ++ .comma :: inner) := by
  match h with
  | .nil => exact absurd rfl hne
  | .last h => exact .more h (.last hv)
  | .more h hrest =>
    rw [List.append_assoc]
    exact .more h (hrest.concat (by simp) hv)

/-- One more member. -/
theorem SpelledMembers.concat {members : List (String × Value)} {v : Value} {ts inner : List Token}
    (h : SpelledMembers members ts) (hne : members ≠ []) (key : String) (hv : v.Spelled inner) :
    SpelledMembers (members ++ [(key, v)]) (ts ++ .comma :: .text (some key) :: .colon :: inner) := by
  match h with
  | .nil => exact absurd rfl hne
  | .last _ h => exact .more _ h (.last key hv)
  | .more _ h hrest =>
    simp only [List.cons_append, List.append_assoc]
    exact .more _ h (hrest.concat (by simp) key hv)
end

/-! ### Nodes -/

theorem nodesOfItems_eq_map (items : List Value) : nodesOfItems items = items.map toNode := by
  induction items with
  | nil => rfl
  | cons v items ih => rw [nodesOfItems, ih, List.map_cons]

theorem nodesOfMembers_eq_map (members : List (String × Value)) :
    nodesOfMembers members = members.map fun member => (some member.1, member.2.toNode) := by
  induction members with
  | nil => rfl
  | cons member members ih => rw [nodesOfMembers, ih, List.map_cons]

mutual
/-- The node of data is well formed throughout. -/
theorem whole_toNode (v : Value) : v.toNode.whole = true := by
  match v with
  | .null => rfl
  | .bool b => rfl
  | .number n => rfl
  | .text s => rfl
  | .array items => exact Bool.and_eq_true_iff.mpr ⟨rfl, wholeItems_nodesOfItems items⟩
  | .object members => exact Bool.and_eq_true_iff.mpr ⟨rfl, wholeMembers_nodesOfMembers members⟩

theorem wholeItems_nodesOfItems (items : List Value) :
    Node.wholeItems (nodesOfItems items) = true := by
  match items with
  | [] => rfl
  | v :: rest => exact Bool.and_eq_true_iff.mpr ⟨whole_toNode v, wholeItems_nodesOfItems rest⟩

theorem wholeMembers_nodesOfMembers (members : List (String × Value)) :
    Node.wholeMembers (nodesOfMembers members) = true := by
  match members with
  | [] => rfl
  | (_, v) :: rest => exact Bool.and_eq_true_iff.mpr ⟨whole_toNode v, wholeMembers_nodesOfMembers rest⟩
end

end Value

namespace Document

/-! ## Spelled data is read -/

theorem ofTokens_cons {phase : Phase} {frames : List Frame} {t : Token} {next : Phase × List Frame}
    (h : step? phase frames t = some next) (ts : List Token) :
    ofTokens phase frames (t :: ts) = ofTokens next.1 next.2 ts := by
  rw [ofTokens, h]

/-- Data starts with a token that may stand where a value is wanted, so not with the end of an
    array. -/
theorem exists_cons_of_spelled {v : Value} {ts : List Token} (h : v.Spelled ts) :
    ∃ t ts', ts = t :: ts' ∧ t ≠ .closeArray ∧ ∀ frames, ∃ next, value? frames t = some next := by
  cases h with
  | null => exact ⟨_, _, rfl, nofun, fun _ => ⟨_, rfl⟩⟩
  | bool b => exact ⟨_, _, rfl, nofun, fun _ => ⟨_, rfl⟩⟩
  | number _ => exact ⟨_, _, rfl, nofun, fun _ => ⟨_, rfl⟩⟩
  | text s => exact ⟨_, _, rfl, nofun, fun _ => ⟨_, rfl⟩⟩
  | array _ => exact ⟨_, _, rfl, nofun, fun _ => ⟨_, rfl⟩⟩
  | object _ => exact ⟨_, _, rfl, nofun, fun _ => ⟨_, rfl⟩⟩

/-- The first item of an array is read as any value in it is. -/
theorem ofTokens_firstItem {items : List Value} {ts : List Token} (h : Value.SpelledItems items ts)
    (hne : items ≠ []) (frames : List Frame) (rest : List Token) :
    ofTokens .firstItem frames (ts ++ rest) = ofTokens .value (.item [] :: frames) (ts ++ rest) := by
  obtain ⟨t, ts, rfl, hclose, hvalue⟩ :
      ∃ t ts', ts = t :: ts' ∧ t ≠ .closeArray ∧ ∀ frames, ∃ next, value? frames t = some next := by
    cases h with
    | nil => exact absurd rfl hne
    | last h => exact exists_cons_of_spelled h
    | more h _ =>
      obtain ⟨t, ts', rfl, hstart⟩ := exists_cons_of_spelled h
      exact ⟨t, _, rfl, hstart⟩
  obtain ⟨next, hnext⟩ := hvalue (.item [] :: frames)
  have hfirst : step? .firstItem frames t = some next := (if_neg hclose).trans hnext
  rw [List.cons_append, ofTokens_cons hfirst,
    ofTokens_cons (show step? .value (.item [] :: frames) t = some next from hnext)]

mutual
/-- **Where a value is wanted, the tokens of data lead to its node.** -/
theorem ofTokens_of_spelled {v : Value} {ts : List Token} (h : v.Spelled ts) (frames : List Frame)
    (rest : List Token) :
    ofTokens .value frames (ts ++ rest)
      = ofTokens (settle v.toNode frames).1 (settle v.toNode frames).2 rest := by
  match h with
  | .null => rfl
  | .bool b => rfl
  | @Value.Spelled.number n x h =>
    have hnumber : step? .value frames (.number n) = some (settle (.number (some x)) frames) := by
      rw [← h]
      rfl
    exact ofTokens_cons hnumber rest
  | .text s => rfl
  | @Value.Spelled.array items ts h =>
    rw [List.cons_append, List.append_assoc, List.singleton_append]
    by_cases hne : items = []
    · subst hne
      cases h
      rfl
    · have hitems := ofTokens_items h hne [] frames rest
      rw [← ofTokens_firstItem h hne] at hitems
      exact hitems
  | @Value.Spelled.object members ts h =>
    rw [List.cons_append, List.append_assoc, List.singleton_append]
    by_cases hne : members = []
    · subst hne
      cases h
      rfl
    · exact ofTokens_members h hne [] frames rest

/-- Items and the end of the array lead to the node of the array. -/
theorem ofTokens_items {items : List Value} {ts : List Token} (h : Value.SpelledItems items ts)
    (hne : items ≠ []) (before : List Node) (frames : List Frame) (rest : List Token) :
    ofTokens .value (.item before :: frames) (ts ++ .closeArray :: rest)
      = ofTokens (settle (.array (before.reverse ++ Value.nodesOfItems items) true) frames).1
          (settle (.array (before.reverse ++ Value.nodesOfItems items) true) frames).2 rest := by
  match h with
  | .nil => exact absurd rfl hne
  | @Value.SpelledItems.last v ts h =>
    rw [ofTokens_of_spelled h]
    have hclose : step? (.afterItem (v.toNode :: before)) frames .closeArray
        = some (settle (.array (v.toNode :: before).reverse true) frames) := rfl
    rw [List.reverse_cons] at hclose
    exact ofTokens_cons hclose rest
  | @Value.SpelledItems.more v w items ts others h hrest =>
    have hothers := ofTokens_items hrest (by simp) (v.toNode :: before) frames rest
    rw [List.reverse_cons, List.append_assoc, List.singleton_append] at hothers
    rw [List.append_assoc, ofTokens_of_spelled h]
    exact hothers

/-- Members and the end of the object lead to the node of the object. -/
theorem ofTokens_members {members : List (String × Value)} {ts : List Token}
    (h : Value.SpelledMembers members ts) (hne : members ≠ []) (before : List (Option String × Node))
    (frames : List Frame) (rest : List Token) :
    ofTokens (.key before) frames (ts ++ .closeObject :: rest)
      = ofTokens (settle (.object (before.reverse ++ Value.nodesOfMembers members) true) frames).1
          (settle (.object (before.reverse ++ Value.nodesOfMembers members) true) frames).2 rest := by
  match h with
  | .nil => exact absurd rfl hne
  | @Value.SpelledMembers.last key v ts h =>
    have hclose : step? (.afterMember ((some key, v.toNode) :: before)) frames .closeObject
        = some (settle (.object ((some key, v.toNode) :: before).reverse true) frames) := rfl
    rw [List.reverse_cons] at hclose
    have hvalue := ofTokens_of_spelled h (.member before (some key) :: frames) (.closeObject :: rest)
    exact hvalue.trans (ofTokens_cons hclose rest)
  | @Value.SpelledMembers.more key v next members ts others h hrest =>
    have hothers := ofTokens_members hrest (by simp) ((some key, v.toNode) :: before) frames rest
    rw [List.reverse_cons, List.append_assoc, List.singleton_append] at hothers
    have hvalue := ofTokens_of_spelled h (.member before (some key) :: frames)
      (.comma :: (others ++ .closeObject :: rest))
    simp only [List.cons_append, List.append_assoc]
    exact hvalue.trans hothers
end

/-! ## What was read is spelled -/

/-- The tokens spell the data of the node, if it has any. -/
def Spells (node : Node) (ts : List Token) : Prop := ∀ v : Value, v.toNode = node → v.Spelled ts

/-- The tokens spell items, the last one first. -/
def SpellsItems (before : List Node) (ts : List Token) : Prop :=
  ∀ items, Value.nodesOfItems items = before.reverse → Value.SpelledItems items ts

/-- The tokens spell members, the last one first. -/
def SpellsMembers (before : List (Option String × Node)) (ts : List Token) : Prop :=
  ∀ members, Value.nodesOfMembers members = before.reverse → Value.SpelledMembers members ts

/-- The tokens spell the items before another one, each with a comma after it. -/
inductive ItemsBefore : List Node → List Token → Prop where
  | nil : ItemsBefore [] []
  | comma {before : List Node} {ts : List Token} (hne : before ≠ []) (h : SpellsItems before ts) :
    ItemsBefore before (ts ++ [.comma])

/-- The tokens spell the members before another one, each with a comma after it. -/
inductive MembersBefore : List (Option String × Node) → List Token → Prop where
  | nil : MembersBefore [] []
  | comma {before : List (Option String × Node)} {ts : List Token} (hne : before ≠ [])
    (h : SpellsMembers before ts) : MembersBefore before (ts ++ [.comma])

/-- The tokens lead into the values around the one that is read. -/
inductive Entered : List Frame → List Token → Prop where
  | nil : Entered [] []
  | item {frames : List Frame} {before : List Node} {ts inner : List Token} (h : Entered frames ts)
    (hbefore : ItemsBefore before inner) : Entered (.item before :: frames) (ts ++ .openArray :: inner)
  | member {frames : List Frame} {before : List (Option String × Node)} {key : Option String}
    {ts inner : List Token} (h : Entered frames ts) (hbefore : MembersBefore before inner) :
    Entered (.member before key :: frames) (ts ++ .openObject :: (inner ++ [.text key, .colon]))

/-- The tokens lead to a state of the reader. -/
inductive Reached : Phase × List Frame → List Token → Prop where
  | value {frames : List Frame} {ts : List Token} (h : Entered frames ts) : Reached (.value, frames) ts
  | firstItem {frames : List Frame} {ts : List Token} (h : Entered frames ts) :
    Reached (.firstItem, frames) (ts ++ [.openArray])
  | afterItem {frames : List Frame} {before : List Node} {ts inner : List Token} (h : Entered frames ts)
    (hne : before ≠ []) (hbefore : SpellsItems before inner) :
    Reached (.afterItem before, frames) (ts ++ .openArray :: inner)
  | key {frames : List Frame} {before : List (Option String × Node)} {ts inner : List Token}
    (h : Entered frames ts) (hbefore : MembersBefore before inner) :
    Reached (.key before, frames) (ts ++ .openObject :: inner)
  | colon {frames : List Frame} {before : List (Option String × Node)} {key : Option String}
    {ts inner : List Token} (h : Entered frames ts) (hbefore : MembersBefore before inner) :
    Reached (.colon before key, frames) (ts ++ .openObject :: (inner ++ [.text key]))
  | afterMember {frames : List Frame} {before : List (Option String × Node)} {ts inner : List Token}
    (h : Entered frames ts) (hne : before ≠ []) (hbefore : SpellsMembers before inner) :
    Reached (.afterMember before, frames) (ts ++ .openObject :: inner)
  | done {node : Node} {ts : List Token} (h : Spells node ts) : Reached (.done node, []) ts

/-! ### Items and members -/

/-- One more item after those before it. -/
theorem ItemsBefore.item {before : List Node} {node : Node} {ts inner : List Token}
    (h : ItemsBefore before inner) (hnode : Spells node ts) :
    SpellsItems (node :: before) (inner ++ ts) := by
  intro items hitems
  rw [Value.nodesOfItems_eq_map, List.reverse_cons] at hitems
  obtain ⟨first, last, rfl, hfirst, hlast⟩ := List.map_eq_append_iff.mp hitems
  obtain ⟨v, rfl, hv⟩ := List.map_eq_singleton_iff.mp hlast
  rw [← Value.nodesOfItems_eq_map] at hfirst
  cases h with
  | nil =>
    cases first with
    | nil => exact .last (hnode v hv)
    | cons => cases hfirst
  | comma hne h =>
    rw [List.append_assoc]
    refine (h first hfirst).concat ?_ (hnode v hv)
    rintro rfl
    exact hne (List.reverse_eq_nil_iff.mp hfirst.symm)

/-- One more member after those before it. -/
theorem MembersBefore.member {before : List (Option String × Node)} {key : Option String} {node : Node}
    {ts inner : List Token} (h : MembersBefore before inner) (hnode : Spells node ts) :
    SpellsMembers ((key, node) :: before) (inner ++ .text key :: .colon :: ts) := by
  intro members hmembers
  rw [Value.nodesOfMembers_eq_map, List.reverse_cons] at hmembers
  obtain ⟨first, last, rfl, hfirst, hlast⟩ := List.map_eq_append_iff.mp hmembers
  obtain ⟨⟨name, v⟩, rfl, hmember⟩ := List.map_eq_singleton_iff.mp hlast
  obtain ⟨rfl, hv⟩ := Prod.mk.inj hmember
  rw [← Value.nodesOfMembers_eq_map] at hfirst
  cases h with
  | nil =>
    cases first with
    | nil => exact .last name (hnode v hv)
    | cons => cases hfirst
  | comma hne h =>
    rw [List.append_assoc]
    refine (h first hfirst).concat ?_ name (hnode v hv)
    rintro rfl
    exact hne (List.reverse_eq_nil_iff.mp hfirst.symm)

theorem spells_array {before : List Node} {inner : List Token} (h : SpellsItems before inner) :
    Spells (.array before.reverse true) (.openArray :: (inner ++ [.closeArray])) := by
  intro v hv
  cases v with
  | array items => exact .array (h items (Node.array.inj hv).1)
  | _ => cases hv

theorem spells_object {before : List (Option String × Node)} {inner : List Token}
    (h : SpellsMembers before inner) :
    Spells (.object before.reverse true) (.openObject :: (inner ++ [.closeObject])) := by
  intro v hv
  cases v with
  | object members => exact .object (h members (Node.object.inj hv).1)
  | _ => cases hv

theorem spellsItems_nil : SpellsItems [] [] := by
  intro items hitems
  cases items with
  | nil => exact .nil
  | cons => cases hitems

theorem spellsMembers_nil : SpellsMembers [] [] := by
  intro members hmembers
  cases members with
  | nil => exact .nil
  | cons => cases hmembers

/-! ### Steps -/

/-- **A complete value belongs to the value around it.** -/
theorem Entered.settle {frames : List Frame} {node : Node} {ts inner : List Token}
    (h : Entered frames ts) (hnode : Spells node inner) :
    Reached (settle node frames) (ts ++ inner) := by
  cases h with
  | nil => exact .done hnode
  | item h hbefore =>
    simp only [List.cons_append, List.append_assoc]
    exact .afterItem h (by simp) (hbefore.item hnode)
  | member h hbefore =>
    simp only [List.cons_append, List.append_assoc, List.nil_append]
    exact .afterMember h (by simp) (hbefore.member hnode)

/-- A token where a value is wanted. -/
theorem Entered.value {frames : List Frame} {next : Phase × List Frame} {t : Token} {ts : List Token}
    (h : Entered frames ts) (hnext : value? frames t = some next) : Reached next (ts ++ [t]) := by
  cases t with
  | null =>
    cases hnext
    refine h.settle fun v hv => ?_
    cases v <;> cases hv
    exact .null
  | bool b =>
    cases hnext
    refine h.settle fun v hv => ?_
    cases v <;> cases hv
    exact .bool b
  | number n =>
    cases hnext
    refine h.settle fun v hv => ?_
    cases v with
    | number x => exact .number (Node.number.inj hv).symm
    | _ => cases hv
  | text s =>
    cases hnext
    refine h.settle fun v hv => ?_
    cases v <;> cases hv
    exact .text _
  | openArray =>
    cases hnext
    exact .firstItem h
  | openObject =>
    cases hnext
    exact .key h .nil
  | _ => cases hnext

/-- **One token leads from a state to the next one.** -/
theorem Reached.step {phase : Phase} {frames : List Frame} {next : Phase × List Frame} {t : Token}
    {ts : List Token} (h : Reached (phase, frames) ts) (hnext : step? phase frames t = some next) :
    Reached next (ts ++ [t]) := by
  cases h with
  | value h => exact h.value hnext
  | @firstItem _ ts h =>
    by_cases hclose : t = .closeArray
    · subst hclose
      cases hnext
      rw [List.append_assoc]
      exact h.settle (spells_array spellsItems_nil)
    · rw [step?, if_neg hclose] at hnext
      exact (Entered.item h .nil).value hnext
  | afterItem h hne hbefore =>
    cases t with
    | comma =>
      cases hnext
      rw [List.append_assoc, List.cons_append]
      exact .value (.item h (.comma hne hbefore))
    | closeArray =>
      cases hnext
      rw [List.append_assoc]
      exact h.settle (spells_array hbefore)
    | _ => cases hnext
  | key h hbefore =>
    cases t with
    | text key =>
      cases hnext
      rw [List.append_assoc, List.cons_append]
      exact .colon h hbefore
    | closeObject =>
      cases hbefore with
      | nil =>
        cases hnext
        rw [List.append_assoc]
        exact h.settle (spells_object spellsMembers_nil)
      | comma hne _ =>
        rw [step?, if_neg (by simpa using hne)] at hnext
        cases hnext
    | _ => cases hnext
  | colon h hbefore =>
    by_cases hcolon : t = .colon
    · subst hcolon
      cases hnext
      simp only [List.append_assoc, List.cons_append, List.nil_append]
      exact .value (.member h hbefore)
    · rw [step?, if_neg hcolon] at hnext
      cases hnext
  | afterMember h hne hbefore =>
    cases t with
    | comma =>
      cases hnext
      rw [List.append_assoc, List.cons_append]
      exact .key h (.comma hne hbefore)
    | closeObject =>
      cases hnext
      rw [List.append_assoc]
      exact h.settle (spells_object hbefore)
    | _ => cases hnext
  | done h => cases hnext

/-! ### Runs -/

/-- What is abandoned is not well formed. -/
theorem whole_abandon {node : Node} {frames : List Frame} (h : (abandon node frames).whole = true) :
    frames = [] ∧ node.whole = true := by
  induction frames generalizing node with
  | nil => exact ⟨rfl, h⟩
  | cons frame frames ih =>
    cases frame with
    | item before => exact absurd (ih h).2 (by simp [Node.whole])
    | member before key => exact absurd (ih h).2 (by simp [Node.whole])

/-- A well formed document ends where nothing more is wanted. -/
theorem eq_done_of_whole {phase : Phase} {frames : List Frame} (h : (stop phase frames).whole = true) :
    phase = .done (stop phase frames) := by
  cases phase with
  | done node => rfl
  | value => exact absurd (whole_abandon h).2 (by simp [Node.whole])
  | firstItem => exact absurd (whole_abandon h).2 (by simp [Node.whole])
  | afterItem before => exact absurd (whole_abandon h).2 (by simp [Node.whole])
  | key before => exact absurd (whole_abandon h).2 (by simp [Node.whole])
  | colon before key => exact absurd (whole_abandon h).2 (by simp [Node.whole])
  | afterMember before => exact absurd (whole_abandon h).2 (by simp [Node.whole])

/-- **What was read to its end is spelled by all tokens.** -/
theorem Reached.spelled {phase : Phase} {frames : List Frame} {ts rest : List Token} {v : Value}
    (h : Reached (phase, frames) ts) (hread : ofTokens phase frames rest = ⟨v.toNode, false⟩) :
    v.Spelled (ts ++ rest) := by
  induction rest generalizing phase frames ts with
  | nil =>
    obtain ⟨hstop, -⟩ := Document.mk.inj hread
    have hdone : phase = .done v.toNode := by
      rw [← hstop]
      exact eq_done_of_whole (hstop ▸ v.whole_toNode)
    rw [hdone] at h
    cases h with
    | done h => simpa using h v rfl
  | cons t rest ih =>
    rw [ofTokens] at hread
    cases hnext : step? phase frames t with
    | none =>
      rw [hnext] at hread
      exact nomatch (Document.mk.inj hread).2
    | some next =>
      rw [hnext] at hread
      simpa using ih (h.step hnext) hread

/-- **The tokens of a document spell its data.** -/
theorem spelled_of_ofTokens {v : Value} {ts : List Token}
    (h : ofTokens .value [] ts = ⟨v.toNode, false⟩) : v.Spelled ts :=
  (Reached.value .nil).spelled h

/-- **A text is read as data exactly if it is cut into tokens that spell the data.** -/
theorem ofText_eq_iff {text : String} {v : Value} :
    ofText text = ⟨v.toNode, false⟩ ↔ ∃ ts, Token.Cut text.toList ts ∧ v.Spelled ts := by
  constructor
  · intro h
    have hspelled := spelled_of_ofTokens h
    exact ⟨_, Token.cut_ofChars hspelled.valid, hspelled⟩
  · rintro ⟨ts, hcut, hspelled⟩
    have hseparated := hspelled.separated (show Token.Separated [] from trivial) (by simp)
    rw [List.append_nil] at hseparated
    have hread := ofTokens_of_spelled hspelled [] []
    rw [List.append_nil] at hread
    rw [ofText, Token.ofText, Token.ofChars_of_cut hcut hseparated, hread]
    rfl

end Document

end Registrar.Json
