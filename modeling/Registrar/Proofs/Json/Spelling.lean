import Mathlib.Data.List.Forall2
import Registrar.Json.Token

/-!
# How tokens are spelled

The spelling of every token is written down by itself, without the automaton: a numeral is an integer, a
fraction and an exponent, and a text is a row of letters, each of which may be escaped. A text is cut into
tokens if it is their spellings, one after the other, with blanks between them. The automaton cuts every
text in this way, or finds something in it that is no token.

## Contents

- `Numeral.Written`, `Token.Letter` and `Token.Written`, how tokens are spelled, and `Token.Cut`;
- `Token.Partial` and `Token.Inside`, numerals and texts of which a part has been read;
- `Token.Mode.Read` with `Token.Mode.Read.step`, what reading one character does;
- `Token.cut_ofChars`.
-/

namespace Registrar.Json

/-! ## Numerals -/

namespace Numeral

/-- The characters are the decimal digits of these values. -/
def Digits (ds : List Nat) (cs : List Char) : Prop :=
  List.Forall₂ (fun d c => Token.digit? c = some d) ds cs

/-- No zero stands in front of other digits. -/
def Unpadded (ds : List Nat) : Prop := ds ≠ [] ∧ (ds.head? = some 0 → ds = [0])

/-- The sign of a numeral. -/
inductive Sign : Bool → List Char → Prop where
  | absent : Sign false []
  | minus : Sign true ['-']

/-- What stands before the point. -/
inductive Integer : Bool → List Nat → List Char → Prop where
  | intro {negative : Bool} {ds : List Nat} {sign cs : List Char} (hsign : Sign negative sign)
    (hunpadded : Unpadded ds) (hdigits : Digits ds cs) : Integer negative ds (sign ++ cs)

/-- A point and the digits after it. -/
inductive Fraction : List Nat → List Char → Prop where
  | absent : Fraction [] []
  | present {ds : List Nat} {cs : List Char} (hne : ds ≠ []) (hdigits : Digits ds cs) :
    Fraction ds ('.' :: cs)

/-- The sign of an exponent. -/
inductive ExponentSign : Bool → List Char → Prop where
  | absent : ExponentSign false []
  | plus : ExponentSign false ['+']
  | minus : ExponentSign true ['-']

/-- A mark, a sign and digits after them. -/
inductive Exponent : Option (Bool × List Nat) → List Char → Prop where
  | absent : Exponent none []
  | present {minus : Bool} {ds : List Nat} {mark : Char} {sign cs : List Char}
    (hmark : mark = 'e' ∨ mark = 'E') (hsign : ExponentSign minus sign) (hne : ds ≠ [])
    (hdigits : Digits ds cs) : Exponent (some (minus, ds)) (mark :: (sign ++ cs))

/-- How a numeral is spelled. -/
inductive Written : Numeral → List Char → Prop where
  | intro {negative : Bool} {whole places : List Nat} {power : Option (Bool × List Nat)}
    {integer fraction exponent : List Char} (hinteger : Integer negative whole integer)
    (hfraction : Fraction places fraction) (hexponent : Exponent power exponent) :
    Written ⟨negative, whole, places, power⟩ (integer ++ fraction ++ exponent)

variable {negative : Bool} {ds : List Nat} {cs : List Char} {d : Nat} {c : Char}

theorem Digits.concat (h : Digits ds cs) (hc : Token.digit? c = some d) :
    Digits (ds ++ [d]) (cs ++ [c]) := List.rel_append h (.cons hc .nil)

theorem Unpadded.concat (h : Unpadded ds) (hzero : ds ≠ [0]) (d : Nat) : Unpadded (ds ++ [d]) := by
  obtain ⟨hne, hhead⟩ := h
  refine ⟨by simp, fun hfirst => ?_⟩
  rw [List.head?_append_of_ne_nil _ hne] at hfirst
  exact absurd (hhead hfirst) hzero

theorem unpadded_singleton (d : Nat) : Unpadded [d] := ⟨by simp, by simp⟩

theorem Integer.concat (h : Integer negative ds cs) (hzero : ds ≠ [0])
    (hc : Token.digit? c = some d) : Integer negative (ds ++ [d]) (cs ++ [c]) := by
  obtain ⟨hsign, hunpadded, hdigits⟩ := h
  rw [List.append_assoc]
  exact .intro hsign (hunpadded.concat hzero d) (hdigits.concat hc)

theorem Integer.ne_nil (h : Integer negative ds cs) : ds ≠ [] := by
  obtain ⟨-, hunpadded, -⟩ := h
  exact hunpadded.1

theorem Fraction.concat (h : Fraction ds cs) (hne : ds ≠ []) (hc : Token.digit? c = some d) :
    Fraction (ds ++ [d]) (cs ++ [c]) := by
  cases h with
  | absent => exact absurd rfl hne
  | present _ hdigits => exact .present (by simp) (hdigits.concat hc)

theorem Exponent.concat {minus : Bool} (h : Exponent (some (minus, ds)) cs)
    (hc : Token.digit? c = some d) : Exponent (some (minus, ds ++ [d])) (cs ++ [c]) := by
  obtain _ | ⟨hmark, hsign, -, hdigits⟩ := h
  rw [List.cons_append, List.append_assoc]
  exact .present hmark hsign (by simp) (hdigits.concat hc)

end Numeral

namespace Token

/-! ## Texts -/

/-- The letters that stand for characters after a backslash. -/
def escapes : List (Char × Char) :=
  [('"', '"'), ('\\', '\\'), ('/', '/'), ('b', '\x08'), ('f', '\x0c'), ('n', '\n'), ('r', '\r'),
    ('t', '\t')]

/-- Four digits of a 16-bit unit. -/
inductive Unit16 : Nat → List Char → Prop where
  | intro {a b c d : Char} {w x y z : Nat} (ha : Hex.digit? a = some w) (hb : Hex.digit? b = some x)
    (hc : Hex.digit? c = some y) (hd : Hex.digit? d = some z) :
    Unit16 (((w * 16 + x) * 16 + y) * 16 + z) [a, b, c, d]

/-- The unit is the first half of a surrogate pair. -/
def IsHigh (n : Nat) : Prop := 0xD800 ≤ n ∧ n < 0xDC00

/-- The unit is the second half of a surrogate pair. -/
def IsLow (n : Nat) : Prop := 0xDC00 ≤ n ∧ n ≤ 0xDFFF

theorem unit16_of_digits {w x y z : Nat} {cs : List Char}
    (h : List.Forall₂ (fun d c => Hex.digit? c = some d) [w, x, y, z] cs) :
    Unit16 (((w * 16 + x) * 16 + y) * 16 + z) cs := by
  obtain _ | ⟨ha, _ | ⟨hb, _ | ⟨hc, _ | ⟨hd, _ | _⟩⟩⟩⟩ := h
  exact .intro ha hb hc hd

/-- How a character of a text is spelled: as it is, by the letter of an escape, by its number, or by a
    surrogate pair. -/
inductive Letter : Char → List Char → Prop where
  | plain {c : Char} (hquote : c ≠ '"') (hbackslash : c ≠ '\\') (hcontrol : 0x20 ≤ c.toNat) :
    Letter c [c]
  | escaped {e c : Char} (h : (e, c) ∈ escapes) : Letter c ['\\', e]
  | unit {n : Nat} {cs : List Char} (h : Unit16 n cs) (hhigh : ¬ IsHigh n) (hlow : ¬ IsLow n) :
    Letter (Char.ofNat n) ('\\' :: 'u' :: cs)
  | pair {high low : Nat} {cs ds : List Char} (hcs : Unit16 high cs) (hhigh : IsHigh high)
    (hds : Unit16 low ds) (hlow : IsLow low) :
    Letter (Char.ofNat (0x10000 + (high - 0xD800) * 0x400 + (low - 0xDC00)))
      ('\\' :: 'u' :: cs ++ '\\' :: 'u' :: ds)

/-- How the characters of a text are spelled. -/
inductive Letters : List Char → List Char → Prop where
  | nil : Letters [] []
  | cons {c : Char} {s cs rest : List Char} (h : Letter c cs) (hrest : Letters s rest) :
    Letters (c :: s) (cs ++ rest)

/-! ## Tokens -/

/-- How a token is spelled. -/
inductive Written : Token → List Char → Prop where
  | openArray : Written .openArray ['[']
  | closeArray : Written .closeArray [']']
  | openObject : Written .openObject ['\x7b']
  | closeObject : Written .closeObject ['\x7d']
  | colon : Written .colon [':']
  | comma : Written .comma [',']
  | null : Written .null ['n', 'u', 'l', 'l']
  | true : Written (.bool true) ['t', 'r', 'u', 'e']
  | false : Written (.bool false) ['f', 'a', 'l', 's', 'e']
  | number {n : Numeral} {cs : List Char} (h : n.Written cs) : Written (.number n) cs
  | text {s cs : List Char} (h : Letters s cs) :
    Written (.text (some (String.ofList s))) ('"' :: (cs ++ ['"']))

/-- The characters are the spellings of the tokens, with blanks between them. -/
inductive Cut : List Char → List Token → Prop where
  | nil : Cut [] []
  | blank {c : Char} {cs : List Char} {ts : List Token} (hc : c ∈ [' ', '\t', '\n', '\r'])
    (h : Cut cs ts) : Cut (c :: cs) ts
  | token {t : Token} {cs rest : List Char} {ts : List Token} (ht : t.Written cs) (h : Cut rest ts) :
    Cut (cs ++ rest) (t :: ts)

theorem Cut.append {cs ds : List Char} {ts us : List Token} (h : Cut cs ts) (h' : Cut ds us) :
    Cut (cs ++ ds) (ts ++ us) := by
  induction h with
  | nil => exact h'
  | blank hc _ ih => exact .blank hc ih
  | token ht _ ih =>
    rw [List.append_assoc]
    exact .token ht ih

/-- The token has a spelling: it is not `bad`, and if it is a text, it has a value. -/
def Valid (t : Token) : Prop := t ≠ .bad ∧ t ≠ .text none

/-! ## Numerals of which a part has been read -/

/-- What has been read of a numeral. -/
inductive Partial : Stage → Numeral → List Char → Prop where
  | sign {negative : Bool} {cs : List Char} (h : Numeral.Sign negative cs) :
    Partial .sign ⟨negative, [], [], none⟩ cs
  | zero {negative : Bool} {cs : List Char} (h : Numeral.Integer negative [0] cs) :
    Partial .zero ⟨negative, [0], [], none⟩ cs
  | whole {negative : Bool} {ds : List Nat} {cs : List Char} (h : Numeral.Integer negative ds cs)
    (hzero : ds ≠ [0]) : Partial .whole ⟨negative, ds, [], none⟩ cs
  | point {negative : Bool} {ds : List Nat} {cs : List Char} (h : Numeral.Integer negative ds cs) :
    Partial .point ⟨negative, ds, [], none⟩ (cs ++ ['.'])
  | fraction {negative : Bool} {ds places : List Nat} {cs fraction : List Char}
    (h : Numeral.Integer negative ds cs) (hfraction : Numeral.Fraction places fraction)
    (hne : places ≠ []) : Partial .fraction ⟨negative, ds, places, none⟩ (cs ++ fraction)
  | mark {negative : Bool} {ds places : List Nat} {cs fraction : List Char} {mark : Char}
    (h : Numeral.Integer negative ds cs) (hfraction : Numeral.Fraction places fraction)
    (hmark : mark = 'e' ∨ mark = 'E') :
    Partial .mark ⟨negative, ds, places, some (false, [])⟩ (cs ++ fraction ++ [mark])
  | markSign {negative minus : Bool} {ds places : List Nat} {cs fraction : List Char} {mark sign : Char}
    (h : Numeral.Integer negative ds cs) (hfraction : Numeral.Fraction places fraction)
    (hmark : mark = 'e' ∨ mark = 'E') (hsign : Numeral.ExponentSign minus [sign]) :
    Partial .markSign ⟨negative, ds, places, some (minus, [])⟩ (cs ++ fraction ++ [mark, sign])
  | exponent {negative minus : Bool} {ds places power : List Nat} {cs fraction exponent : List Char}
    (h : Numeral.Integer negative ds cs) (hfraction : Numeral.Fraction places fraction)
    (hexponent : Numeral.Exponent (some (minus, power)) exponent) :
    Partial .exponent ⟨negative, ds, places, some (minus, power)⟩ (cs ++ fraction ++ exponent)

theorem isMark_iff (c : Char) : isMark c = true ↔ c = 'e' ∨ c = 'E' := by simp [isMark]

/-- A numeral may end where its stage is complete. -/
theorem Partial.written {stage : Stage} {n : Numeral} {cs : List Char} (h : Partial stage n cs)
    (hcomplete : stage.complete = true) : n.Written cs := by
  cases h with
  | zero h => simpa using Numeral.Written.intro h .absent .absent
  | whole h => simpa using Numeral.Written.intro h .absent .absent
  | fraction h hfraction => simpa using Numeral.Written.intro h hfraction .absent
  | exponent h hfraction hexponent => exact .intro h hfraction hexponent
  | sign => cases hcomplete
  | point => cases hcomplete
  | mark => cases hcomplete
  | markSign => cases hcomplete

/-- After an integer comes a point or a mark. -/
theorem Partial.of_integer {negative : Bool} {ds : List Nat} {cs : List Char} {c : Char} {next : Stage}
    {n' : Numeral} (h : Numeral.Integer negative ds cs)
    (hnext : (if c = '.' then some (Stage.point, (⟨negative, ds, [], none⟩ : Numeral))
      else if isMark c then some (.mark, ⟨negative, ds, [], some (false, [])⟩) else none)
        = some (next, n')) : Partial next n' (cs ++ [c]) := by
  split at hnext
  · next hpoint =>
    cases hnext
    rw [hpoint]
    exact .point h
  split at hnext
  · next hmark =>
    cases hnext
    simpa using Partial.mark h .absent ((isMark_iff c).mp hmark)
  · cases hnext

section Extend

variable {stage next : Stage} {n n' : Numeral} {cs : List Char} {c : Char}

/-- A digit goes to the part of the numeral that is being read. -/
theorem Partial.extend_digit {d : Nat} (h : Partial stage n cs) (hdigit : digit? c = some d)
    (hnext : extend stage n c = some (next, n')) : Partial next n' (cs ++ [c]) := by
  have hdigits : Numeral.Digits [d] [c] := .cons hdigit .nil
  cases h with
  | sign h =>
    have hinteger := Numeral.Integer.intro h (Numeral.unpadded_singleton d) hdigits
    by_cases hzero : d = 0
    · subst hzero
      simp only [Token.extend, hdigit] at hnext
      cases hnext
      exact .zero hinteger
    · obtain ⟨k, rfl⟩ := Nat.exists_eq_succ_of_ne_zero hzero
      simp only [Token.extend, hdigit] at hnext
      cases hnext
      exact .whole hinteger (by simp)
  | zero h => simp [Token.extend, hdigit] at hnext
  | whole h hzero =>
    simp only [Token.extend, hdigit] at hnext
    cases hnext
    refine .whole (h.concat hzero hdigit) fun heq => h.ne_nil ?_
    exact (List.append_eq_singleton_iff.mp heq).elim (·.1) fun hnil => absurd hnil.2 (by simp)
  | point h =>
    simp only [Token.extend, hdigit] at hnext
    cases hnext
    rw [List.append_assoc]
    exact .fraction h (.present (by simp) hdigits) (by simp)
  | fraction h hfraction hne =>
    simp only [Token.extend, hdigit] at hnext
    cases hnext
    rw [List.append_assoc]
    exact .fraction h (hfraction.concat hne hdigit) (by simp)
  | mark h hfraction hmark =>
    simp only [Token.extend, hdigit] at hnext
    cases hnext
    rw [List.append_assoc]
    exact .exponent h hfraction (.present hmark .absent (by simp) hdigits)
  | markSign h hfraction hmark hsign =>
    simp only [Token.extend, hdigit] at hnext
    cases hnext
    rw [List.append_assoc]
    exact .exponent h hfraction (.present hmark hsign (by simp) hdigits)
  | exponent h hfraction hexponent =>
    simp only [Token.extend, hdigit] at hnext
    cases hnext
    rw [List.append_assoc]
    exact .exponent h hfraction (hexponent.concat hdigit)

/-- Other characters start the next part. -/
theorem Partial.extend_other (h : Partial stage n cs) (hdigit : digit? c = none)
    (hnext : extend stage n c = some (next, n')) : Partial next n' (cs ++ [c]) := by
  cases h with
  | sign h => simp [Token.extend, hdigit] at hnext
  | zero h => exact .of_integer h (by simpa only [Token.extend, hdigit] using hnext)
  | whole h hzero => exact .of_integer h (by simpa only [Token.extend, hdigit] using hnext)
  | point h => simp [Token.extend, hdigit] at hnext
  | fraction h hfraction hne =>
    simp only [Token.extend, hdigit] at hnext
    split at hnext
    · next hmark =>
      cases hnext
      exact .mark h hfraction ((isMark_iff c).mp hmark)
    · cases hnext
  | mark h hfraction hmark =>
    simp only [Token.extend, hdigit] at hnext
    split at hnext
    · next hplus =>
      cases hnext
      rw [List.append_assoc, hplus]
      exact .markSign h hfraction hmark .plus
    split at hnext
    · next hminus =>
      cases hnext
      rw [List.append_assoc, hminus]
      exact .markSign h hfraction hmark .minus
    · cases hnext
  | markSign h hfraction hmark hsign => simp [Token.extend, hdigit] at hnext
  | exponent h hfraction hexponent => simp [Token.extend, hdigit] at hnext

/-- **A character that is taken into a numeral belongs there.** -/
theorem Partial.extend (h : Partial stage n cs) (hnext : extend stage n c = some (next, n')) :
    Partial next n' (cs ++ [c]) := by
  cases hdigit : digit? c with
  | some d => exact h.extend_digit hdigit hnext
  | none => exact h.extend_other hdigit hnext

end Extend

/-! ## Texts of which a part has been read -/

/-- What has been read of a text behind its quote: `reversed` are its characters unless they have no value
    any more, and `high` is the first half of a surrogate pair after them. -/
inductive Inside : Option (List Char) → Option Nat → List Char → Prop where
  | lost (high : Option Nat) (cs : List Char) : Inside none high cs
  | between {s cs : List Char} (h : Letters s.reverse cs) : Inside (some s) none cs
  | half {s cs ds : List Char} {high : Nat} (h : Letters s.reverse cs) (hds : Unit16 high ds)
    (hhigh : IsHigh high) : Inside (some s) (some high) (cs ++ '\\' :: 'u' :: ds)

theorem Letters.concat {s cs ds : List Char} {c : Char} (h : Letters s cs) (hc : Letter c ds) :
    Letters (s ++ [c]) (cs ++ ds) := by
  induction h with
  | nil => simpa using Letters.cons hc .nil
  | cons hfirst _ ih =>
    rw [List.cons_append, List.append_assoc]
    exact .cons hfirst ih

variable {reversed : Option (List Char)} {high : Option Nat} {cs ds : List Char}

theorem Inside.addChar {c : Char} (h : Inside reversed high cs) (hc : Letter c ds) :
    ∃ next, addChar reversed high c = .text next none ∧ Inside next none (cs ++ ds) := by
  cases h with
  | lost high => cases high <;> exact ⟨none, rfl, .lost _ _⟩
  | between h => exact ⟨_, rfl, .between (by simpa using h.concat hc)⟩
  | half => exact ⟨none, rfl, .lost _ _⟩

theorem Inside.addUnit {n : Nat} (h : Inside reversed high cs) (hds : Unit16 n ds) :
    ∃ next nextHigh, addUnit reversed high n = .text next nextHigh ∧
      Inside next nextHigh (cs ++ '\\' :: 'u' :: ds) := by
  unfold Token.addUnit
  cases h with
  | lost high =>
    cases high with
    | none => dsimp only; split_ifs <;> exact ⟨none, _, rfl, .lost _ _⟩
    | some high => dsimp only; split_ifs <;> exact ⟨none, _, rfl, .lost _ _⟩
  | between h =>
    dsimp only
    split_ifs with hhigh hlow
    · exact ⟨_, _, rfl, .half h hds hhigh⟩
    · exact ⟨none, _, rfl, .lost _ _⟩
    · exact ⟨_, _, rfl, .between (by simpa using h.concat (.unit hds hhigh hlow))⟩
  | half h hhigh hrange =>
    dsimp only
    split_ifs with hlow
    · refine ⟨_, _, rfl, .between ?_⟩
      have hpair := h.concat (.pair hhigh hrange hds hlow)
      simpa using hpair
    · exact ⟨none, _, rfl, .lost _ _⟩

theorem mem_escapes_of_unescape? {e c : Char} (h : unescape? e = some c) : (e, c) ∈ escapes := by
  unfold unescape? at h
  split_ifs at h <;> cases h
  · simp only [escapes, List.mem_cons, Prod.mk.injEq]
    tauto
  all_goals simp_all [escapes]

/-! ## Modes -/

/-- What has been read of the token that is being read. -/
inductive Mode.Read : Mode → List Char → Prop where
  | between : Read .between []
  | number {stage : Stage} {n : Numeral} {cs : List Char} (h : Partial stage n cs) :
    Read (.number stage n) cs
  | word {t : Token} {cs rest : List Char} (h : t.Written (cs ++ rest)) (hne : rest ≠ []) :
    Read (.word rest t) cs
  | text {reversed : Option (List Char)} {high : Option Nat} {cs : List Char}
    (h : Inside reversed high cs) : Read (.text reversed high) ('"' :: cs)
  | escape {reversed : Option (List Char)} {high : Option Nat} {cs : List Char}
    (h : Inside reversed high cs) : Read (.escape reversed high) ('"' :: cs ++ ['\\'])
  | unit {reversed : Option (List Char)} {high : Option Nat} {cs ds : List Char} {digits : List Nat}
    (h : Inside reversed high cs) (hdigits : List.Forall₂ (fun d c => Hex.digit? c = some d) digits ds)
    (hlength : digits.length < 4) :
    Read (.unit reversed high digits) ('"' :: cs ++ '\\' :: 'u' :: ds)

/-- What reading one character does that does not end a token before it. -/
inductive Mode.Step (cs : List Char) (c : Char) : List Token × Mode → Prop where
  /-- The character cannot stand here. -/
  | failed {ts : List Token} {next : Mode} {t : Token} (ht : t ∈ ts) (hvalid : ¬ t.Valid) :
    Step cs c (ts, next)
  /-- A blank stands between tokens. -/
  | blank (hcs : cs = []) (hc : c ∈ [' ', '\t', '\n', '\r']) : Step cs c ([], .between)
  /-- The token goes on. -/
  | more {next : Mode} (h : next.Read (cs ++ [c])) : Step cs c ([], next)
  /-- The token ends with the character. -/
  | ended {t : Token} (h : t.Written (cs ++ [c])) : Step cs c ([t], .between)

theorem not_valid_bad : ¬ Valid .bad := fun h => h.1 rfl

theorem not_valid_none : ¬ Valid (.text none) := fun h => h.2 rfl

theorem isBlank_iff (c : Char) : isBlank c = true ↔ c ∈ [' ', '\t', '\n', '\r'] := by
  simp [isBlank, or_assoc]

/-- What starting a token does. -/
theorem step_start (c : Char) : Mode.Step [] c (start c) := by
  by_cases hblank : isBlank c = true
  · rw [start, if_pos hblank]
    exact .blank rfl ((isBlank_iff c).mp hblank)
  by_cases hopenArray : c = '['
  · subst hopenArray
    exact .ended .openArray
  by_cases hcloseArray : c = ']'
  · subst hcloseArray
    exact .ended .closeArray
  by_cases hopenObject : c = '\x7b'
  · subst hopenObject
    exact .ended .openObject
  by_cases hcloseObject : c = '\x7d'
  · subst hcloseObject
    exact .ended .closeObject
  by_cases hcolon : c = ':'
  · subst hcolon
    exact .ended .colon
  by_cases hcomma : c = ','
  · subst hcomma
    exact .ended .comma
  by_cases hquote : c = '"'
  · subst hquote
    exact .more (.text (.between .nil))
  by_cases hn : c = 'n'
  · subst hn
    exact .more (.word .null (by simp))
  by_cases ht : c = 't'
  · subst ht
    exact .more (.word .true (by simp))
  by_cases hf : c = 'f'
  · subst hf
    exact .more (.word .false (by simp))
  by_cases hminus : c = '-'
  · subst hminus
    exact .more (.number (.sign .minus))
  rw [start, if_neg hblank, if_neg hopenArray, if_neg hcloseArray, if_neg hopenObject,
    if_neg hcloseObject, if_neg hcolon, if_neg hcomma, if_neg hquote, if_neg hn, if_neg ht, if_neg hf,
    if_neg hminus]
  split
  · next stage n hnext => exact .more (.number (Partial.extend (.sign .absent) hnext))
  · exact .failed List.mem_cons_self not_valid_bad

/-- One more character of a word. -/
theorem step_word {t : Token} {cs rest : List Char} (h : t.Written (cs ++ rest)) (hne : rest ≠ [])
    (c : Char) : Mode.Step cs c (step (.word rest t) c) := by
  match rest, hne, h with
  | [d], _, h =>
    rw [step]
    split
    · next hd =>
      subst hd
      exact .ended h
    · exact .failed List.mem_cons_self not_valid_bad
  | d :: e :: rest, _, h =>
    rw [step]
    · split
      · next hd =>
        subst hd
        exact .more (.word (by simpa using h) (by simp))
      · exact .failed List.mem_cons_self not_valid_bad
    · simp

/-- One more character of a text, or the quote that ends it. -/
theorem Inside.step_text (h : Inside reversed high cs) (c : Char) :
    Mode.Step ('"' :: cs) c (step (.text reversed high) c) := by
  rw [step]
  by_cases hquote : c = '"'
  · rw [if_pos hquote, hquote]
    cases h with
    | lost high => cases high <;> exact .failed List.mem_cons_self not_valid_none
    | between h => exact .ended (.text h)
    | half => exact .failed List.mem_cons_self not_valid_none
  rw [if_neg hquote]
  by_cases hbackslash : c = '\\'
  · rw [if_pos hbackslash, hbackslash]
    exact .more (.escape h)
  rw [if_neg hbackslash]
  by_cases hcontrol : c.toNat < 0x20
  · rw [if_pos hcontrol]
    exact .failed List.mem_cons_self not_valid_bad
  rw [if_neg hcontrol]
  obtain ⟨next, hnext, hinside⟩ := h.addChar (.plain hquote hbackslash (Nat.le_of_not_lt hcontrol))
  rw [hnext]
  exact .more (.text hinside)

/-- The character after a backslash. -/
theorem Inside.step_escape (h : Inside reversed high cs) (c : Char) :
    Mode.Step ('"' :: cs ++ ['\\']) c (step (.escape reversed high) c) := by
  rw [step]
  by_cases hu : c = 'u'
  · rw [if_pos hu, hu]
    exact .more (by simpa using Mode.Read.unit h .nil (by simp))
  rw [if_neg hu]
  cases hletter : unescape? c with
  | none => exact .failed List.mem_cons_self not_valid_bad
  | some d =>
    obtain ⟨next, hnext, hinside⟩ := h.addChar (.escaped (mem_escapes_of_unescape? hletter))
    dsimp only
    rw [hnext]
    exact .more (by simpa using Mode.Read.text hinside)

/-- One more digit of a 16-bit unit. -/
theorem Inside.step_unit {digits : List Nat} (h : Inside reversed high cs)
    (hdigits : List.Forall₂ (fun d c => Hex.digit? c = some d) digits ds) (hlength : digits.length < 4)
    (c : Char) :
    Mode.Step ('"' :: cs ++ '\\' :: 'u' :: ds) c (step (.unit reversed high digits) c) := by
  rw [step]
  cases hdigit : Hex.digit? c with
  | none => exact .failed List.mem_cons_self not_valid_bad
  | some d =>
    have hmore := List.rel_append hdigits (.cons hdigit .nil)
    dsimp only
    split
    · -- The fourth digit completes the unit.
      obtain ⟨next, high', hnext, hinside⟩ := h.addUnit (unit16_of_digits hmore)
      rw [hnext]
      exact .more (by simpa using Mode.Read.text hinside)
    · next hother =>
      have hne : digits.length ≠ 3 := fun hthree => by
        obtain ⟨x, y, z, rfl⟩ := List.length_eq_three.mp hthree
        exact hother x y z rfl
      have hlength' : (digits ++ [d]).length < 4 := by
        rw [List.length_append, List.length_singleton]
        omega
      exact .more (by simpa using Mode.Read.unit h hmore hlength')

/-- **What reading one character does.** Only a numeral ends before a character, which then starts the next
    token. -/
theorem Mode.Read.step {mode : Mode} {cs : List Char} (h : mode.Read cs) (c : Char) :
    Mode.Step cs c (Token.step mode c) ∨
      ∃ t : Token, t.Written cs ∧ Token.step mode c = (t :: (start c).1, (start c).2) := by
  cases h with
  | between => exact .inl (step_start c)
  | @number stage n cs h =>
    rw [Token.step]
    cases hnext : Token.extend stage n c with
    | some next => exact .inl (.more (.number (h.extend hnext)))
    | none =>
      dsimp only
      split
      · next hend =>
        exact .inr ⟨_, .number (h.written (Bool.and_eq_true_iff.mp hend).1), rfl⟩
      · exact .inl (.failed List.mem_cons_self not_valid_bad)
  | word h hne => exact .inl (step_word h hne c)
  | text h => exact .inl (h.step_text c)
  | escape h => exact .inl (h.step_escape c)
  | unit h hdigits hlength => exact .inl (h.step_unit hdigits hlength c)

theorem Mode.Step.cut {cs rest : List Char} {c : Char} {out : List Token × Mode}
    (h : Mode.Step cs c out)
    (ih : ∀ {mode : Mode} {cs : List Char}, mode.Read cs → (∀ t ∈ ofChars mode rest, t.Valid) →
      Cut (cs ++ rest) (ofChars mode rest))
    (hvalid : ∀ t ∈ out.1 ++ ofChars out.2 rest, t.Valid) :
    Cut (cs ++ c :: rest) (out.1 ++ ofChars out.2 rest) := by
  cases h with
  | failed ht hnot => exact absurd (hvalid _ (List.mem_append_left _ ht)) hnot
  | blank hcs hc =>
    subst hcs
    exact .blank hc (ih .between hvalid)
  | more h => simpa using ih h hvalid
  | ended h =>
    have hrest := Cut.token h (ih .between fun t ht => hvalid t (List.mem_cons_of_mem _ ht))
    simpa using hrest

/-- **A text is cut into its tokens**, unless something in it has no spelling. -/
theorem Mode.Read.cut {mode : Mode} {cs : List Char} (h : mode.Read cs) (rest : List Char)
    (hvalid : ∀ t ∈ ofChars mode rest, t.Valid) : Cut (cs ++ rest) (ofChars mode rest) := by
  induction rest generalizing mode cs with
  | nil =>
    rw [List.append_nil]
    cases h with
    | between => exact .nil
    | @number stage n cs h =>
      rw [ofChars, finish] at hvalid ⊢
      by_cases hcomplete : stage.complete = true
      · rw [if_pos hcomplete]
        simpa using Cut.token (.number (h.written hcomplete)) .nil
      · rw [if_neg hcomplete] at hvalid
        exact absurd (hvalid _ List.mem_cons_self) not_valid_bad
    | word => exact absurd (hvalid _ List.mem_cons_self) not_valid_bad
    | text => exact absurd (hvalid _ List.mem_cons_self) not_valid_bad
    | escape => exact absurd (hvalid _ List.mem_cons_self) not_valid_bad
    | unit => exact absurd (hvalid _ List.mem_cons_self) not_valid_bad
  | cons c rest ih =>
    have hcons : ∀ mode, ofChars mode (c :: rest)
        = (Token.step mode c).1 ++ ofChars (Token.step mode c).2 rest := fun mode => rfl
    rw [hcons] at hvalid ⊢
    rcases h.step c with hstep | ⟨t, ht, hpassed⟩
    · exact hstep.cut ih hvalid
    · rw [hpassed] at hvalid ⊢
      exact .token ht ((step_start c).cut ih fun u hu => hvalid u (List.mem_cons_of_mem _ hu))

/-- **The tokens of a text are spelled in it**, unless one of them has no spelling. -/
theorem cut_ofChars {cs : List Char} (hvalid : ∀ t ∈ ofChars .between cs, t.Valid) :
    Cut cs (ofChars .between cs) := Mode.Read.between.cut cs hvalid

end Token

end Registrar.Json
