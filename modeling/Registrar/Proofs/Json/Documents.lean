import Registrar.Proofs.Json.Grammar

/-!
# Written data is read back

Data that is written in lines, at whatever depth, or in one line is spelled by the text, so it reads as what
was written.

Floating-point numbers are left out: their digits are the shortest ones that read back, which is a
matter of its own.

## Contents

- `Value.Exact`, data without floating-point numbers;
- `Token.written_quote` for texts, `Number.written_text` and `Number.number?_numeral` for numbers;
- `Value.exists_spelled_pretty` and `Value.exists_spelled_compact`, the tokens of data in lines and of data
  in one line;
- `Document.ofText_prettyText` and `Document.ofText_compactText`.
-/

namespace Registrar.Json

/-! ## Exact data -/

/-- The number is a whole number. -/
def Number.Exact : Number → Prop
  | .natural _ | .negative _ => True
  | .real _ => False

namespace Value

mutual
/-- No number is a floating-point number. -/
def Exact : Value → Prop
  | .null | .bool _ | .text _ => True
  | .number n => n.Exact
  | .array items => ExactItems items
  | .object members => ExactMembers members

/-- No number in items is one. -/
def ExactItems : List Value → Prop
  | [] => True
  | v :: rest => v.Exact ∧ ExactItems rest

/-- No number in members is one. -/
def ExactMembers : List (String × Value) → Prop
  | [] => True
  | (_, v) :: rest => v.Exact ∧ ExactMembers rest
end

end Value

/-! ## Texts -/

namespace Token

/-- One character of a text, as it is written, spells that character. -/
theorem letter_escape (c : Char) : Letter c (Value.escape c) := by
  unfold Value.escape
  by_cases hquote : c = '"'
  · subst hquote
    exact .escaped (by decide)
  by_cases hbackslash : c = '\\'
  · subst hbackslash
    exact .escaped (by decide)
  by_cases hb : c = '\x08'
  · subst hb
    exact .escaped (by decide)
  by_cases hf : c = '\x0c'
  · subst hf
    exact .escaped (by decide)
  by_cases hn : c = '\n'
  · subst hn
    exact .escaped (by decide)
  by_cases hr : c = '\r'
  · subst hr
    exact .escaped (by decide)
  by_cases ht : c = '\t'
  · subst ht
    exact .escaped (by decide)
  rw [if_neg hquote, if_neg hbackslash, if_neg hb, if_neg hf, if_neg hn, if_neg hr, if_neg ht]
  by_cases hcontrol : c.toNat < 0x20
  · -- A control character is written as its number in four digits.
    rw [if_pos hcontrol]
    have hunit : Unit16 c.toNat ['0', '0', Hex.digit (c.toNat / 16), Hex.digit (c.toNat % 16)] := by
      have hvalue : ((0 * 16 + 0) * 16 + c.toNat / 16) * 16 + c.toNat % 16 = c.toNat := by omega
      have hhigh := Hex.digit?_digit (show c.toNat / 16 < 16 by omega)
      have hlow := Hex.digit?_digit (show c.toNat % 16 < 16 by omega)
      have hzero : Hex.digit? '0' = some 0 := rfl
      have hunit := Unit16.intro hzero hzero hhigh hlow
      rwa [hvalue] at hunit
    have hletter := Letter.unit hunit (fun h => by have := h.1; omega) (fun h => by have := h.1; omega)
    rwa [Char.ofNat_toNat] at hletter
  · rw [if_neg hcontrol]
    exact .plain hquote hbackslash (Nat.le_of_not_lt hcontrol)

theorem letters_escape (s : List Char) : Letters s (s.flatMap Value.escape) := by
  induction s with
  | nil => exact .nil
  | cons c s ih => exact .cons (letter_escape c) ih

/-- **A text between quotes is spelled.** -/
theorem written_quote (s : String) : Written (.text (some s)) (Value.quote s) := by
  have h := Written.text (letters_escape s.toList)
  rwa [String.ofList_toList] at h

end Token

/-! ## Numbers -/

namespace Numeral

/-- The digits of a number. -/
def digitsOf (n : Nat) : List Nat := (Binary64.decimal n).map fun c => c.toNat - 48

theorem digits_digitsOf (n : Nat) : Digits (digitsOf n) (Binary64.decimal n) := by
  refine List.forall₂_map_left_iff.mpr (List.forall₂_same.mpr fun c hc => ?_)
  have hdigit : c.isDigit = true := Nat.isDigit_of_mem_toDigits (by omega) (by omega) hc
  obtain ⟨hge, hle⟩ : 48 ≤ c.val ∧ c.val ≤ 57 := by simpa [Char.isDigit] using hdigit
  exact if_pos ⟨hge, hle⟩

theorem digitsOf_of_lt {n : Nat} (h : n < 10) : digitsOf n = [n] := by
  have hone : Binary64.decimal n = [Nat.digitChar n] := Nat.toDigits_of_lt_base h
  rw [digitsOf, hone]
  revert n
  decide

theorem digitsOf_of_le {n : Nat} (h : 10 ≤ n) : digitsOf n = digitsOf (n / 10) ++ [n % 10] := by
  have hmore : Binary64.decimal n = Binary64.decimal (n / 10) ++ [Nat.digitChar (n % 10)] :=
    Nat.toDigits_of_base_le (by omega) h
  have hlast : ∀ d < 10, (Nat.digitChar d).toNat - 48 = d := by decide
  rw [digitsOf, hmore, List.map_append, List.map_singleton, hlast _ (Nat.mod_lt n (by omega))]
  rfl

theorem ofDigits_concat (ds : List Nat) (d : Nat) :
    ofDigits (ds ++ [d]) = 10 * ofDigits ds + d := by
  rw [ofDigits, List.foldl_append]
  rfl

/-- The digits of a number spell it. -/
theorem ofDigits_digitsOf (n : Nat) : ofDigits (digitsOf n) = n := by
  induction n using Nat.strongRecOn with
  | _ n ih =>
    by_cases hsmall : n < 10
    · rw [digitsOf_of_lt hsmall]
      simp [ofDigits]
    · rw [digitsOf_of_le (Nat.le_of_not_lt hsmall), ofDigits_concat, ih (n / 10) (by omega)]
      omega

theorem unpadded_digitsOf (n : Nat) : Unpadded (digitsOf n) := by
  induction n using Nat.strongRecOn with
  | _ n ih =>
    by_cases hsmall : n < 10
    · rw [digitsOf_of_lt hsmall]
      exact unpadded_singleton n
    · rw [digitsOf_of_le (Nat.le_of_not_lt hsmall)]
      refine (ih (n / 10) (by omega)).concat (fun hzero => ?_) _
      have hvalue := ofDigits_digitsOf (n / 10)
      rw [hzero] at hvalue
      have hnone : ofDigits [0] = 0 := rfl
      omega

end Numeral

namespace Number

/-- How a whole number is spelled. -/
def numeral : Number → Numeral
  | .natural n => ⟨false, Numeral.digitsOf n.toNat, [], none⟩
  | .negative n => ⟨true, Numeral.digitsOf (n.val + 1), [], none⟩
  | .real _ => ⟨false, [], [], none⟩

variable {n : Number}

/-- **A whole number is spelled.** -/
theorem written_text (h : n.Exact) : n.numeral.Written n.text := by
  have hinteger : ∀ {negative : Bool} {sign : List Char}, Numeral.Sign negative sign → ∀ k,
      Numeral.Written ⟨negative, Numeral.digitsOf k, [], none⟩ (sign ++ Binary64.decimal k) := by
    intro negative sign hsign k
    simpa using Numeral.Written.intro
      (.intro hsign (Numeral.unpadded_digitsOf k) (Numeral.digits_digitsOf k)) .absent .absent
  cases n with
  | natural n => exact hinteger .absent n.toNat
  | negative n => exact hinteger .minus (n.val + 1)
  | real x => exact h.elim

/-- **A whole number is what its numeral stands for.** -/
theorem number?_numeral (h : n.Exact) : n.numeral.number? = some n := by
  cases n with
  | natural n =>
    unfold numeral Numeral.number?
    simp only [and_self, if_true, Numeral.ofDigits_digitsOf, Bool.false_eq_true, if_false]
    rw [if_pos n.toNat_lt, UInt64.ofNat_toNat]
  | negative n =>
    have hrange : 0 < n.val + 1 ∧ n.val + 1 ≤ 0x8000000000000000 := ⟨Nat.succ_pos _, n.isLt⟩
    unfold numeral Numeral.number?
    simp only [and_self, if_true, Numeral.ofDigits_digitsOf]
    rw [dif_pos hrange]
    rfl
  | real x => exact h.elim

end Number

/-! ## Data -/

namespace Value

open Token (Cut)

variable {cs : List Char} {ts : List Token}

theorem cut_newline (depth : Nat) (h : Cut cs ts) : Cut (newline depth ++ cs) ts := by
  have hblanks : ∀ n, Cut (List.replicate n ' ' ++ cs) ts := by
    intro n
    induction n with
    | zero => exact h
    | succ n ih => exact .blank (by simp) ih
  exact .blank (by simp) (hblanks (2 * depth))

theorem cut_member (key : String) (h : Cut cs ts) :
    Cut (quote key ++ ':' :: ' ' :: cs) (.text (some key) :: .colon :: ts) := by
  have hblank : Cut (' ' :: cs) ts := .blank (by simp) h
  have hcolon : Cut ([':'] ++ _) _ := Cut.token .colon hblank
  exact .token (Token.written_quote key) hcolon

theorem exists_spelled_number {n : Number} (h : n.Exact) :
    ∃ ts, (Value.number n).Spelled ts ∧ Cut n.text ts := by
  refine ⟨_, .number (Number.number?_numeral h), ?_⟩
  simpa using Cut.token (.number (Number.written_text h)) .nil

theorem exists_spelled_text (s : String) : ∃ ts, (Value.text s).Spelled ts ∧ Cut (quote s) ts := by
  refine ⟨_, .text s, ?_⟩
  simpa using Cut.token (Token.written_quote s) .nil

mutual
/-- **Data in lines is cut into tokens that spell it.** -/
theorem exists_spelled_pretty (v : Value) (h : v.Exact) (depth : Nat) :
    ∃ ts, v.Spelled ts ∧ Cut (v.pretty depth) ts := by
  match v with
  | .null => exact ⟨_, .null, .token .null .nil⟩
  | .bool true => exact ⟨_, .bool true, .token .true .nil⟩
  | .bool false => exact ⟨_, .bool false, .token .false .nil⟩
  | .number n => exact exists_spelled_number h
  | .text s => exact exists_spelled_text s
  | .array [] => exact ⟨_, .array .nil, .token .openArray (.token .closeArray .nil)⟩
  | .array (first :: items) =>
    obtain ⟨ts, hspelled, hcut⟩ := exists_spelled_pretty first h.1 (depth + 1)
    obtain ⟨ts, hspelled, hcut⟩ := exists_spelled_prettyItems items h.2 depth hspelled hcut
    refine ⟨_, .array hspelled, ?_⟩
    have hclose : Cut (newline depth ++ [']']) [.closeArray] :=
      cut_newline depth (.token .closeArray .nil)
    have hopen : Cut (['['] ++ _) _ :=
      Cut.token .openArray (cut_newline (depth + 1) (hcut.append hclose))
    simpa [pretty] using hopen
  | .object [] => exact ⟨_, .object .nil, .token .openObject (.token .closeObject .nil)⟩
  | .object ((key, first) :: members) =>
    obtain ⟨ts, hspelled, hcut⟩ := exists_spelled_pretty first h.1 (depth + 1)
    obtain ⟨ts, hspelled, hcut⟩ := exists_spelled_prettyMembers members h.2 depth key hspelled hcut
    refine ⟨_, .object hspelled, ?_⟩
    have hclose : Cut (newline depth ++ ['\x7d']) [.closeObject] :=
      cut_newline depth (.token .closeObject .nil)
    have hopen : Cut (['\x7b'] ++ _) _ :=
      Cut.token .openObject (cut_newline (depth + 1) (hcut.append hclose))
    simpa [pretty] using hopen

/-- Further items come after one that is spelled. -/
theorem exists_spelled_prettyItems (items : List Value) (h : ExactItems items) (depth : Nat)
    {first : Value} {ts : List Token} {cs : List Char} (hspelled : first.Spelled ts) (hcut : Cut cs ts) :
    ∃ us, SpelledItems (first :: items) us ∧ Cut (cs ++ prettyItems depth items) us := by
  match items with
  | [] => exact ⟨ts, .last hspelled, by simpa [prettyItems] using hcut⟩
  | next :: rest =>
    obtain ⟨us, hnext, hcutNext⟩ := exists_spelled_pretty next h.1 (depth + 1)
    obtain ⟨us, hrest, hcutRest⟩ := exists_spelled_prettyItems rest h.2 depth hnext hcutNext
    refine ⟨_, .more hspelled hrest, ?_⟩
    have hcomma : Cut ([','] ++ _) _ := Cut.token .comma (cut_newline (depth + 1) hcutRest)
    simpa [prettyItems] using hcut.append hcomma

/-- Further members come after one that is spelled. -/
theorem exists_spelled_prettyMembers (members : List (String × Value)) (h : ExactMembers members)
    (depth : Nat) (key : String) {first : Value} {ts : List Token} {cs : List Char}
    (hspelled : first.Spelled ts) (hcut : Cut cs ts) :
    ∃ us, SpelledMembers ((key, first) :: members) us ∧
      Cut (quote key ++ ':' :: ' ' :: (cs ++ prettyMembers depth members)) us := by
  match members with
  | [] => exact ⟨_, .last key hspelled, by simpa [prettyMembers] using cut_member key hcut⟩
  | (name, next) :: rest =>
    obtain ⟨us, hnext, hcutNext⟩ := exists_spelled_pretty next h.1 (depth + 1)
    obtain ⟨us, hrest, hcutRest⟩ := exists_spelled_prettyMembers rest h.2 depth name hnext hcutNext
    refine ⟨_, .more key hspelled hrest, ?_⟩
    have hcomma : Cut ([','] ++ _) _ := Cut.token .comma (cut_newline (depth + 1) hcutRest)
    simpa [prettyMembers] using cut_member key (hcut.append hcomma)
end

mutual
/-- **Data in one line is cut into tokens that spell it.** -/
theorem exists_spelled_compact (v : Value) (h : v.Exact) : ∃ ts, v.Spelled ts ∧ Cut v.compact ts := by
  match v with
  | .null => exact ⟨_, .null, .token .null .nil⟩
  | .bool true => exact ⟨_, .bool true, .token .true .nil⟩
  | .bool false => exact ⟨_, .bool false, .token .false .nil⟩
  | .number n => exact exists_spelled_number h
  | .text s => exact exists_spelled_text s
  | .array items =>
    obtain ⟨ts, hspelled, hcut⟩ := exists_spelled_compactItems items h
    exact ⟨_, .array hspelled, .token .openArray (hcut.append (.token .closeArray .nil))⟩
  | .object members =>
    obtain ⟨ts, hspelled, hcut⟩ := exists_spelled_compactMembers members h
    exact ⟨_, .object hspelled, .token .openObject (hcut.append (.token .closeObject .nil))⟩

theorem exists_spelled_compactItems (items : List Value) (h : ExactItems items) :
    ∃ ts, SpelledItems items ts ∧ Cut (compactItems items) ts := by
  match items with
  | [] => exact ⟨_, .nil, .nil⟩
  | [last] =>
    obtain ⟨ts, hspelled, hcut⟩ := exists_spelled_compact last h.1
    exact ⟨_, .last hspelled, hcut⟩
  | first :: next :: rest =>
    obtain ⟨ts, hspelled, hcut⟩ := exists_spelled_compact first h.1
    obtain ⟨us, hrest, hcutRest⟩ := exists_spelled_compactItems (next :: rest) h.2
    exact ⟨_, .more hspelled hrest, hcut.append (.token .comma hcutRest)⟩

theorem exists_spelled_compactMembers (members : List (String × Value)) (h : ExactMembers members) :
    ∃ ts, SpelledMembers members ts ∧ Cut (compactMembers members) ts := by
  match members with
  | [] => exact ⟨_, .nil, .nil⟩
  | [(key, last)] =>
    obtain ⟨ts, hspelled, hcut⟩ := exists_spelled_compact last h.1
    exact ⟨_, .last key hspelled, .token (Token.written_quote key) (.token .colon hcut)⟩
  | (key, first) :: next :: rest =>
    obtain ⟨ts, hspelled, hcut⟩ := exists_spelled_compact first h.1
    obtain ⟨us, hrest, hcutRest⟩ := exists_spelled_compactMembers (next :: rest) h.2
    have hfirst := hcut.append (.token .comma hcutRest)
    exact ⟨_, .more key hspelled hrest, .token (Token.written_quote key) (.token .colon hfirst)⟩
end

end Value

/-- **A text that was written in one line is read as what was written.** -/
theorem Document.ofText_compactText {v : Value} (h : v.Exact) :
    ofText v.compactText = ⟨v.toNode, false⟩ := by
  obtain ⟨ts, hspelled, hcut⟩ := v.exists_spelled_compact h
  refine ofText_eq_iff.mpr ⟨ts, ?_, hspelled⟩
  rwa [Value.compactText, String.toList_ofList]

/-- **A text that was written in lines is read as what was written.** -/
theorem Document.ofText_prettyText {v : Value} (h : v.Exact) :
    ofText v.prettyText = ⟨v.toNode, false⟩ := by
  obtain ⟨ts, hspelled, hcut⟩ := v.exists_spelled_pretty h 0
  refine ofText_eq_iff.mpr ⟨ts, ?_, hspelled⟩
  rwa [Value.prettyText, String.toList_ofList]

end Registrar.Json
