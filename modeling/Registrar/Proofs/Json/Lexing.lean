import Mathlib.Tactic.IntervalCases
import Registrar.Proofs.Json.Spelling

/-!
# The automaton finds the tokens

Where a token is spelled, the automaton ends exactly this token. Numerals have no mark at their end, so
what comes after one must not go on with it. In a list of tokens in which only punctuation comes after a
numeral this is always so, and a text that is cut into such tokens is cut into these.

## Contents

- `Token.ofChars_letters` for texts and `Token.ofChars_numeral` for numbers;
- `Token.Delimited`, what may come after a numeral, and `Token.Separated`;
- `Token.ofChars_written`, and `Token.ofChars_of_cut` for whole texts.
-/

namespace Registrar.Json

namespace Token

/-! ## Characters -/

theorem ofChars_cons {mode next : Mode} {c : Char} {ts : List Token} (h : step mode c = (ts, next))
    (cs : List Char) : ofChars mode (c :: cs) = ts ++ ofChars next cs := by
  rw [ofChars, h]

/-! ## Texts -/

variable {reversed rest : List Char} {cs : List Char}

/-- After a backslash and a `u` the digits of a unit are read. -/
theorem ofChars_unit {n : Nat} (h : Unit16 n cs) (reversed : Option (List Char)) (high : Option Nat)
    (rest : List Char) : ofChars (.text reversed high) ('\\' :: 'u' :: cs ++ rest)
      = ofChars (addUnit reversed high n) rest := by
  obtain ⟨ha, hb, hc, hd⟩ := h
  have hopen : ∀ cs, ofChars (.text reversed high) ('\\' :: 'u' :: cs)
      = ofChars (.unit reversed high []) cs := fun _ => rfl
  simp only [List.cons_append, List.nil_append]
  rw [hopen]
  simp only [ofChars, step, ha, hb, hc, hd, List.nil_append, List.cons_append]

theorem addUnit_scalar {n : Nat} (hhigh : ¬ IsHigh n) (hlow : ¬ IsLow n)
    (reversed : Option (List Char)) :
    addUnit reversed none n = .text (reversed.map (Char.ofNat n :: ·)) none :=
  (if_neg hhigh).trans (if_neg hlow)

theorem addUnit_high {n : Nat} (h : IsHigh n) (reversed : Option (List Char)) :
    addUnit reversed none n = .text reversed (some n) := if_pos h

theorem addUnit_low {n : Nat} (h : IsLow n) (reversed : Option (List Char)) (high : Nat) :
    addUnit reversed (some high) n
      = .text (reversed.map (Char.ofNat (0x10000 + (high - 0xD800) * 0x400 + (n - 0xDC00)) :: ·)) none :=
  if_pos h

/-- **A letter is read as the character that it spells.** -/
theorem ofChars_letter {c : Char} (h : Letter c cs) (reversed rest : List Char) :
    ofChars (.text (some reversed) none) (cs ++ rest)
      = ofChars (.text (some (c :: reversed)) none) rest := by
  cases h with
  | plain hquote hbackslash hcontrol =>
    have hplain : step (.text (some reversed) none) c = ([], .text (some (c :: reversed)) none) := by
      rw [step, if_neg hquote, if_neg hbackslash, if_neg (Nat.not_lt.mpr hcontrol)]
      rfl
    exact ofChars_cons hplain rest
  | escaped h =>
    simp only [escapes, List.mem_cons, Prod.mk.injEq, List.not_mem_nil, or_false] at h
    rcases h with ⟨rfl, rfl⟩ | ⟨rfl, rfl⟩ | ⟨rfl, rfl⟩ | ⟨rfl, rfl⟩ | ⟨rfl, rfl⟩ | ⟨rfl, rfl⟩ |
      ⟨rfl, rfl⟩ | ⟨rfl, rfl⟩ <;> rfl
  | unit h hhigh hlow =>
    rw [ofChars_unit h, addUnit_scalar hhigh hlow]
    rfl
  | @pair high low cs ds hcs hhigh hds hlow =>
    rw [List.append_assoc, ofChars_unit hcs, addUnit_high hhigh, ofChars_unit hds, addUnit_low hlow]
    rfl

/-- **Letters are read as the characters that they spell.** -/
theorem ofChars_letters {s : List Char} (h : Letters s cs) (reversed rest : List Char) :
    ofChars (.text (some reversed) none) (cs ++ rest)
      = ofChars (.text (some (s.reverse ++ reversed)) none) rest := by
  induction h generalizing reversed with
  | nil => rfl
  | cons hc _ ih => rw [List.append_assoc, ofChars_letter hc, ih, List.reverse_cons, List.append_assoc,
      List.singleton_append]

/-! ## Numerals -/

/-- A numeral does not go on in what follows. -/
def Delimited (rest : List Char) : Prop :=
  ∀ c ∈ rest.head?, digit? c = none ∧ c ≠ '.' ∧ isMark c = false

/-- A decimal digit has a value below ten. -/
theorem eq_digitChar_of_digit? {c : Char} {d : Nat} (h : digit? c = some d) :
    d < 10 ∧ c = Nat.digitChar d := by
  unfold digit? at h
  split at h
  · next hrange =>
    have hge : 48 ≤ c.toNat := UInt32.le_iff_toNat_le.mp hrange.1
    have hle : c.toNat ≤ 57 := UInt32.le_iff_toNat_le.mp hrange.2
    cases h
    refine ⟨by omega, Char.toNat_inj.mp ?_⟩
    have hvalue : ∀ d < 10, (Nat.digitChar d).toNat = d + 48 := by decide
    rw [hvalue _ (by omega)]
    omega
  · cases h

/-- A digit starts a numeral as it does after a sign. -/
theorem start_digit {c : Char} {d : Nat} (h : digit? c = some d) :
    start c = step (.number .sign ⟨false, [], [], none⟩) c := by
  obtain ⟨hd, rfl⟩ := eq_digitChar_of_digit? h
  interval_cases d <;> rfl

/-- Digits that leave the stage as it is are read one after the other. -/
theorem ofChars_digits {stage : Stage} (add : Numeral → Nat → Numeral)
    (hadd : ∀ (n : Numeral) (c : Char) (d : Nat), digit? c = some d →
      extend stage n c = some (stage, add n d))
    {ds : List Nat} (h : Numeral.Digits ds cs) (n : Numeral) (rest : List Char) :
    ofChars (.number stage n) (cs ++ rest) = ofChars (.number stage (ds.foldl add n)) rest := by
  induction h generalizing n with
  | nil => rfl
  | @cons d c ds cs hc _ ih =>
    have hstep : step (.number stage n) c = ([], .number stage (add n d)) := by
      simp only [step, hadd n c d hc]
    rw [List.cons_append, ofChars_cons hstep, List.nil_append, ih, List.foldl_cons]

/-- A numeral of a complete stage ends before what it does not go on with. -/
theorem ofChars_of_delimited {stage : Stage} {n : Numeral} (hcomplete : stage.complete = true)
    (h : Delimited rest) :
    ofChars (.number stage n) rest = .number n :: ofChars .between rest := by
  cases rest with
  | nil => simp only [ofChars, finish, hcomplete, if_true]
  | cons c rest =>
    obtain ⟨hdigit, hpoint, hmark⟩ := h c rfl
    have hend : extend stage n c = none := by
      cases stage <;> simp [extend, hdigit, hpoint, hmark, Stage.complete] at hcomplete ⊢
    have hstep : step (.number stage n) c = (.number n :: (start c).1, (start c).2) := by
      simp [step, hend, hcomplete, hdigit]
    rw [ofChars_cons hstep]
    rfl

/-- A sign leads to the stage after it, or the numeral starts with a digit. -/
theorem ofChars_sign {negative : Bool} {sign : List Char} (h : Numeral.Sign negative sign)
    {c : Char} {d : Nat} (hc : digit? c = some d) (rest : List Char) :
    ofChars .between (sign ++ c :: rest)
      = ofChars (.number .sign ⟨negative, [], [], none⟩) (c :: rest) := by
  cases h with
  | absent =>
    show ofChars .between (c :: rest) = _
    rw [ofChars, ofChars, step, start_digit hc]
  | minus => rfl

/-- A numeral with one more digit before the point. -/
def addWhole (n : Numeral) (d : Nat) : Numeral := { n with whole := n.whole ++ [d] }

/-- A numeral with one more digit after the point. -/
def addPlace (n : Numeral) (d : Nat) : Numeral := { n with fraction := n.fraction ++ [d] }

theorem foldl_addWhole (ds : List Nat) (n : Numeral) :
    ds.foldl addWhole n = { n with whole := n.whole ++ ds } := by
  induction ds generalizing n with
  | nil => simp
  | cons d ds ih => simp [ih, addWhole]

theorem foldl_addPlace (ds : List Nat) (n : Numeral) :
    ds.foldl addPlace n = { n with fraction := n.fraction ++ ds } := by
  induction ds generalizing n with
  | nil => simp
  | cons d ds ih => simp [ih, addPlace]

theorem foldl_addExponent (ds : List Nat) (n : Numeral) {minus : Bool} {power : List Nat}
    (h : n.exponent = some (minus, power)) :
    ds.foldl addExponent n = { n with exponent := some (minus, power ++ ds) } := by
  induction ds generalizing n power with
  | nil => simp [← h]
  | cons d ds ih =>
    have hmore : (addExponent n d).exponent = some (minus, power ++ [d]) := by simp [addExponent, h]
    rw [List.foldl_cons, ih _ hmore]
    simp [addExponent, h]

/-- **An integer is read up to its last digit.** -/
theorem ofChars_integer {negative : Bool} {ds : List Nat} (h : Numeral.Integer negative ds cs)
    (rest : List Char) :
    ∃ next, (next = .zero ∨ next = .whole) ∧
      ofChars .between (cs ++ rest) = ofChars (.number next ⟨negative, ds, [], none⟩) rest := by
  obtain ⟨hsign, ⟨hne, hhead⟩, hdigits⟩ := h
  cases hdigits with
  | nil => exact absurd rfl hne
  | @cons d c ds cs hc hdigits =>
    rw [List.append_assoc, List.cons_append, ofChars_sign hsign hc]
    by_cases hzero : d = 0
    · have hds : d :: ds = [0] := hhead (congrArg some hzero)
      cases hds
      cases hdigits
      have hstep : step (.number .sign ⟨negative, [], [], none⟩) c
          = ([], .number .zero ⟨negative, [0], [], none⟩) := by
        simp only [step, extend, hc]
      exact ⟨.zero, .inl rfl, ofChars_cons hstep rest⟩
    · obtain ⟨k, rfl⟩ := Nat.exists_eq_succ_of_ne_zero hzero
      have hstep : step (.number .sign ⟨negative, [], [], none⟩) c
          = ([], .number .whole ⟨negative, [k + 1], [], none⟩) := by
        simp only [step, extend, hc]
      refine ⟨.whole, .inr rfl, ?_⟩
      rw [ofChars_cons hstep, List.nil_append,
        ofChars_digits addWhole (fun n c d hc => by simp only [extend, hc]; rfl) hdigits,
        foldl_addWhole]
      rfl

/-- **A fraction is read up to its last digit.** -/
theorem ofChars_fraction {stage : Stage} {negative : Bool} {ds places : List Nat}
    (hstage : stage = .zero ∨ stage = .whole) (h : Numeral.Fraction places cs) (rest : List Char) :
    ∃ next, (next = .zero ∨ next = .whole ∨ next = .fraction) ∧
      ofChars (.number stage ⟨negative, ds, [], none⟩) (cs ++ rest)
        = ofChars (.number next ⟨negative, ds, places, none⟩) rest := by
  cases h with
  | absent => exact ⟨stage, hstage.imp_right .inl, rfl⟩
  | present hne hdigits =>
    cases hdigits with
    | nil => exact absurd rfl hne
    | @cons d c places cs hc hdigits =>
      have hpoint : step (.number stage ⟨negative, ds, [], none⟩) '.'
          = ([], .number .point ⟨negative, ds, [], none⟩) := by
        rcases hstage with rfl | rfl <;> rfl
      have hfirst : step (.number .point ⟨negative, ds, [], none⟩) c
          = ([], .number .fraction ⟨negative, ds, [d], none⟩) := by
        simp only [step, extend, hc, List.nil_append]
      refine ⟨.fraction, .inr (.inr rfl), ?_⟩
      rw [List.cons_append, ofChars_cons hpoint, List.nil_append, List.cons_append,
        ofChars_cons hfirst, List.nil_append,
        ofChars_digits addPlace (fun n c d hc => by simp only [extend, hc]; rfl) hdigits,
        foldl_addPlace]
      rfl

/-- **An exponent is read up to its last digit.** -/
theorem ofChars_exponent {stage : Stage} {negative : Bool} {ds places : List Nat}
    {power : Option (Bool × List Nat)} (hstage : stage = .zero ∨ stage = .whole ∨ stage = .fraction)
    (h : Numeral.Exponent power cs) (rest : List Char) :
    ∃ next : Stage, next.complete = true ∧
      ofChars (.number stage ⟨negative, ds, places, none⟩) (cs ++ rest)
        = ofChars (.number next ⟨negative, ds, places, power⟩) rest := by
  cases h with
  | absent => exact ⟨stage, by rcases hstage with rfl | rfl | rfl <;> rfl, rfl⟩
  | @present minus ds' mark sign cs hmark hsign hne hdigits =>
    cases hdigits with
    | nil => exact absurd rfl hne
    | @cons d c power cs hc hdigits =>
      have hmarked : step (.number stage ⟨negative, ds, places, none⟩) mark
          = ([], .number .mark ⟨negative, ds, places, some (false, [])⟩) := by
        rcases hstage with rfl | rfl | rfl <;> rcases hmark with rfl | rfl <;> rfl
      -- The first digit comes after the mark or after a sign.
      have hfirst : ofChars (.number .mark ⟨negative, ds, places, some (false, [])⟩)
          (sign ++ c :: (cs ++ rest))
            = ofChars (.number .exponent ⟨negative, ds, places, some (minus, [d])⟩) (cs ++ rest) := by
        have hdigit : ∀ stage : Stage, stage = .mark ∨ stage = .markSign →
            step (.number stage ⟨negative, ds, places, some (minus, [])⟩) c
              = ([], .number .exponent ⟨negative, ds, places, some (minus, [d])⟩) := by
          rintro stage (rfl | rfl) <;> simp only [step, extend, hc] <;> rfl
        cases hsign with
        | absent => exact ofChars_cons (hdigit .mark (.inl rfl)) _
        | plus => exact ofChars_cons (hdigit .markSign (.inr rfl)) _
        | minus => exact ofChars_cons (hdigit .markSign (.inr rfl)) _
      refine ⟨.exponent, rfl, ?_⟩
      rw [List.cons_append, ofChars_cons hmarked, List.nil_append, List.append_assoc, List.cons_append,
        hfirst, ofChars_digits addExponent (fun n c d hc => by simp only [extend, hc]) hdigits,
        foldl_addExponent power _ rfl]
      rfl

/-- **A numeral is one token**, if what follows does not go on with it. -/
theorem ofChars_numeral {n : Numeral} (h : n.Written cs) (hrest : Delimited rest) :
    ofChars .between (cs ++ rest) = .number n :: ofChars .between rest := by
  obtain ⟨hinteger, hfraction, hexponent⟩ := h
  obtain ⟨stage, hstage, hread⟩ := ofChars_integer hinteger _
  rw [List.append_assoc, List.append_assoc, hread]
  obtain ⟨stage, hstage, hread⟩ := ofChars_fraction hstage hfraction _
  rw [hread]
  obtain ⟨stage, hcomplete, hread⟩ := ofChars_exponent hstage hexponent rest
  rw [hread, ofChars_of_delimited hcomplete hrest]

/-! ## Tokens -/

/-- The token is a numeral. -/
def IsNumeral (t : Token) : Prop := ∃ n, t = .number n

/-- **A token is found where it is spelled.** -/
theorem ofChars_written {t : Token} (h : t.Written cs) (hrest : t.IsNumeral → Delimited rest) :
    ofChars .between (cs ++ rest) = t :: ofChars .between rest := by
  cases h with
  | number h => exact ofChars_numeral h (hrest ⟨_, rfl⟩)
  | @text s cs h =>
    have hopen : ofChars .between ('"' :: (cs ++ ['"']) ++ rest)
        = ofChars (.text (some []) none) (cs ++ '"' :: rest) := by
      rw [List.cons_append, List.append_assoc, List.singleton_append]
      rfl
    rw [hopen, ofChars_letters h, List.append_nil]
    show [.text (some (String.ofList s.reverse.reverse))] ++ ofChars .between rest = _
    rw [List.reverse_reverse]
    rfl
  | openArray => rfl
  | closeArray => rfl
  | openObject => rfl
  | closeObject => rfl
  | colon => rfl
  | comma => rfl
  | null => rfl
  | true => rfl
  | false => rfl

/-! ## Whole texts -/

/-- The token is a bracket, a colon or a comma. -/
def IsPunctuation (t : Token) : Prop :=
  t ∈ [.openArray, .closeArray, .openObject, .closeObject, .colon, .comma]

/-- After every numeral comes punctuation, if anything does. -/
def Separated : List Token → Prop
  | [] => True
  | t :: ts => (t.IsNumeral → ∀ u ∈ ts.head?, u.IsPunctuation) ∧ Separated ts

theorem delimited_cons {c : Char} (h : c ∈ [' ', '\t', '\n', '\r', '[', ']', '\x7b', '\x7d', ':', ','])
    (rest : List Char) : Delimited (c :: rest) := by
  intro d hd
  cases hd
  simp only [List.mem_cons, List.not_mem_nil, or_false] at h
  rcases h with rfl | rfl | rfl | rfl | rfl | rfl | rfl | rfl | rfl | rfl <;> decide

theorem delimited_of_cut {ts : List Token} (h : Cut cs ts)
    (hfirst : ∀ t ∈ ts.head?, t.IsPunctuation) : Delimited cs := by
  cases h with
  | nil => exact fun c hc => nomatch hc
  | blank hc => exact delimited_cons (List.mem_append_left [_, _, _, _, _, _] hc) _
  | token ht =>
    have hpunctuation := hfirst _ rfl
    simp only [IsPunctuation, List.mem_cons, List.not_mem_nil, or_false] at hpunctuation
    rcases hpunctuation with rfl | rfl | rfl | rfl | rfl | rfl <;> cases ht <;>
      exact delimited_cons (by simp) _

/-- **A text is cut into its tokens**, if only punctuation comes after numerals. -/
theorem ofChars_of_cut {ts : List Token} (h : Cut cs ts) (hseparated : Separated ts) :
    ofChars .between cs = ts := by
  induction h with
  | nil => rfl
  | @blank c cs ts hc h ih =>
    have hstep : step .between c = ([], .between) := if_pos ((isBlank_iff c).mpr hc)
    rw [ofChars_cons hstep, List.nil_append, ih hseparated]
  | @token t cs rest ts ht h ih =>
    obtain ⟨hfirst, hrest⟩ := hseparated
    rw [ofChars_written ht fun hnumeral => delimited_of_cut h (hfirst hnumeral), ih hrest]

end Token

end Registrar.Json
