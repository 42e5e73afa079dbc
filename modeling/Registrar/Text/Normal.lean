import Registrar.Text.CombiningClass
import Registrar.Text.Decomposition.Forms
import Registrar.Text.Decomposition.Ideographs
import Registrar.Text.Decomposition.Letters
import Registrar.Text.Decomposition.Symbols

/-!
# Normal form

The compatibility decomposition of a text: every character is replaced by what it stands for, and
the marks after a letter are put in the order of their classes. `normal_of_ascii` says that ASCII
text is its own normal form.
-/

namespace Registrar.Text

/-- What a syllable block stands for: two or three letters. -/
def syllable (n : Nat) : List Nat :=
  let i := n - 0xAC00
  let first := [0x1100 + i / 588, 0x1161 + i % 588 / 28]
  if i % 28 = 0 then first else first ++ [0x11A7 + i % 28]

open Decomposition in
/-- What a code point stands for, down to the last character. -/
def decompose (n : Nat) : List Nat :=
  let found (single : Table Nat) (sequence : Table (List Nat)) : List Nat :=
    match single.find? n with
    | some m => [m]
    | none => (sequence.find? n).getD [n]
  if n < 0xA0 then [n]
  else if n < 0x400 then found latinSingle latinSequence
  else if n < 0x2000 then found scriptsSingle scriptsSequence
  else if n < 0x3000 then found symbolsSingle symbolsSequence
  else if 0xAC00 ≤ n ∧ n ≤ 0xD7A3 then syllable n
  else if n < 0xF900 then found kanaSingle kanaSequence
  else if n < 0xFB00 then found ideographsSingle []
  else if n < 0x10000 then found formsSingle formsSequence
  else if n < 0x20000 then found alphanumericsSingle alphanumericsSequence
  else found supplementSingle []

/-- Puts a mark after the marks of lower or equal class at the end of a reversed text. -/
def insertMark (n : Nat) : List Nat → List Nat
  | [] => [n]
  | m :: rest =>
    if combiningClass n < combiningClass m then m :: insertMark n rest else n :: m :: rest

/-- Appends a code point to a reversed text in order. -/
def append (reversed : List Nat) (n : Nat) : List Nat :=
  if combiningClass n = 0 then n :: reversed else insertMark n reversed

/-- The normal form of code points. -/
def normalPoints (ns : List Nat) : List Nat := ((ns.flatMap decompose).foldl append []).reverse

/-- The normal form of a list of characters. -/
def normal (cs : List Char) : List Char := (normalPoints (cs.map Char.toNat)).map Char.ofNat

theorem decompose_of_lt {n : Nat} (h : n < 0xA0) : decompose n = [n] := by
  simp [decompose, h]

theorem append_of_lt {n : Nat} (h : n < 0x300) (reversed : List Nat) :
    append reversed n = n :: reversed := by
  simp [append, combiningClass, h]

/-- Text of ASCII characters is its own normal form. -/
theorem normal_of_ascii {cs : List Char} (h : ∀ c ∈ cs, c.toNat < 0x80) : normal cs = cs := by
  have same : (cs.map Char.toNat).flatMap decompose = cs.map Char.toNat := by
    induction cs with
    | nil => rfl
    | cons c cs ih =>
      have first := decompose_of_lt (n := c.toNat) (by have := h c (by simp); omega)
      have rest := ih fun d hd => h d (by simp [hd])
      simp [first, rest]
  have kept : ∀ (ns reversed : List Nat), (∀ n ∈ ns, n < 0x300) →
      ns.foldl append reversed = ns.reverse ++ reversed := by
    intro ns
    induction ns with
    | nil => simp
    | cons n ns ih =>
      intro reversed small
      rw [List.foldl_cons, append_of_lt (small n (by simp)),
        ih _ fun m hm => small m (by simp [hm])]
      simp
  have small : ∀ n ∈ cs.map Char.toNat, n < 0x300 := by
    intro n hn
    obtain ⟨c, hc, rfl⟩ := List.mem_map.1 hn
    have := h c hc
    omega
  rw [normal, normalPoints, same, kept _ _ small]
  simp [Function.comp_def, Char.ofNat_toNat]

end Registrar.Text
