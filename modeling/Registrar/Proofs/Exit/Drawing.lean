import Registrar.Proofs.Exit.Recombination

/-!
# Drawing scalars

A scalar is drawn from a tape in blocks of 32 bytes. The highest bit of a block is cleared, and a block
that is no scalar even so is passed over. What is drawn are therefore the first blocks of the tape that
are scalars, in their order, and nothing behind the last of them is used up.

## Contents

- `Bytes.toNat_clearHighBit`: a number of 32 bytes without its highest bit;
- `Tape.candidate`, the number of a block, with `drawScalar?_of_lt` and `drawScalar?_of_le`;
- `Drawn`, the scalars among the first blocks of a tape, with `drawn_succ_of_lt` and `drawn_succ_of_le`: what
  one block adds;
- `drawScalars?_eq_some_iff`: these scalars are drawn.
-/

namespace Registrar

/-! ## Blocks -/

namespace Bytes

/-- The bytes with the highest bit of the first one cleared. -/
def clearHighBit : Bytes → Bytes
  | [] => []
  | b :: bs => (b &&& 0x7F) :: bs

theorem natOfLittleEndian_concat (bs : Bytes) (b : UInt8) :
    natOfLittleEndian (bs ++ [b]) = natOfLittleEndian bs + 256 ^ bs.length * b.toNat := by
  induction bs with
  | nil => simp [natOfLittleEndian]
  | cons c bs ih =>
    rw [List.cons_append, natOfLittleEndian, natOfLittleEndian, ih, List.length_cons, Nat.pow_succ']
    ring

theorem natOfLittleEndian_lt (bs : Bytes) : natOfLittleEndian bs < 256 ^ bs.length := by
  induction bs with
  | nil => simp [natOfLittleEndian]
  | cons b bs ih =>
    have hb := b.toNat_lt
    rw [natOfLittleEndian, List.length_cons, Nat.pow_succ']
    omega

theorem toNat_cons (b : UInt8) (bs : Bytes) :
    toNat (b :: bs) = toNat bs + 256 ^ bs.length * b.toNat := by
  rw [toNat, List.reverse_cons, natOfLittleEndian_concat, List.length_reverse]
  rfl

theorem toNat_lt (bs : Bytes) : toNat bs < 256 ^ bs.length := by
  rw [← List.length_reverse]
  exact natOfLittleEndian_lt bs.reverse

/-- Without its highest bit a number of 32 bytes is the remainder that is left of it. -/
theorem toNat_clearHighBit {bs : Bytes} (h : bs.length = 32) :
    toNat bs.clearHighBit = toNat bs % (1 <<< 255) := by
  cases bs with
  | nil => cases h
  | cons b bs =>
    have hlength : bs.length = 31 := Nat.succ.inj h
    have hbyte : (b &&& 0x7F).toNat = b.toNat % 128 := by
      rw [UInt8.toNat_and]
      exact Nat.and_two_pow_sub_one_eq_mod b.toNat 7
    have hlow := toNat_lt bs
    have hhigh : (1 <<< 255 : Nat) = 256 ^ 31 * 128 := rfl
    rw [clearHighBit, toNat_cons, toNat_cons, hbyte, hlength, hhigh, Nat.mod_mul]
    rw [hlength] at hlow
    rw [Nat.add_mul_mod_self_left, Nat.mod_eq_of_lt hlow, Nat.add_mul_div_left _ _ (by norm_num),
      Nat.div_eq_of_lt hlow, Nat.zero_add]

end Bytes

namespace Tape

variable {t : Tape}

/-- The tape after `n` more bytes. -/
def skip (n : Nat) (t : Tape) : Tape := { t with next := t.next + n }

/-- The `j`-th of the blocks of 32 bytes that come next. -/
def block (t : Tape) (j : Nat) : Bytes := (List.range 32).map fun i => t.byte (t.next + 32 * j + i)

/-- The number that a block spells once its highest bit is cleared. -/
def candidate (t : Tape) (j : Nat) : Nat := Bytes.toNat (t.block j).clearHighBit

@[simp] theorem left_skip (n : Nat) (t : Tape) : (t.skip n).left = t.left - n := by
  show t.size - (t.next + n) = t.size - t.next - n
  omega

@[simp] theorem skip_skip (m n : Nat) (t : Tape) : (t.skip m).skip n = t.skip (m + n) := by
  simp only [skip, Nat.add_assoc]

@[simp] theorem candidate_skip (t : Tape) (m j : Nat) :
    (t.skip (32 * m)).candidate j = t.candidate (m + j) := by
  have hblock : (t.skip (32 * m)).block j = t.block (m + j) := by
    apply List.map_congr_left
    intro i _
    show t.byte (t.next + 32 * m + 32 * j + i) = t.byte (t.next + 32 * (m + j) + i)
    congr 1
    omega
  rw [candidate, candidate, hblock]

/-- The next block, and the tape after it. -/
theorem take?_block (h : 32 ≤ t.left) : t.take? 32 = some (t.block 0, t.skip 32) := by
  have hfits : t.next + 32 ≤ t.size := by
    rw [left] at h
    omega
  rw [take?, if_pos hfits]
  rfl

theorem take?_of_lt (h : t.left < 32) : t.take? 32 = none := by
  cases htake : t.take? 32 with
  | none => rfl
  | some found =>
    have hleft := left_of_take? (show t.take? 32 = some (found.1, found.2) from htake)
    omega

end Tape

namespace Exit

open Tape (candidate skip)

variable {t t' : Tape} {s : Scalar} {ss : List Scalar} {blocks : Nat}

/-! ## Drawing -/

theorem drawScalar?_of_lt (h : t.left < 32) : drawScalar? t = none := by
  rw [drawScalar?]
  split
  · rfl
  · next bs rest htake =>
    rw [Tape.take?_of_lt h] at htake
    cases htake

/-- **The next block is a scalar or passed over.** -/
theorem drawScalar?_of_le (h : 32 ≤ t.left) :
    drawScalar? t = if hsmall : t.candidate 0 < groupOrder then some (⟨t.candidate 0, hsmall⟩, t.skip 32)
      else drawScalar? (t.skip 32) := by
  have hnumber : Bytes.toNat (t.block 0) % (1 <<< 255) = t.candidate 0 :=
    (Bytes.toNat_clearHighBit (by simp [Tape.block])).symm
  rw [drawScalar?]
  split
  · next hnone =>
    rw [Tape.take?_block h] at hnone
    cases hnone
  · next bs rest htake =>
    rw [Tape.take?_block h] at htake
    cases htake
    simp only [hnumber]

/-- The numbers of the first blocks that are scalars. -/
def accepted (t : Tape) (blocks : Nat) : List Nat :=
  ((List.range blocks).map t.candidate).filter (· < groupOrder)

/-- The scalars are the first blocks of a tape, without those that are no scalars. The last of the blocks
    is the last of the scalars: fewer blocks do not give as many. -/
structure Drawn (t : Tape) (blocks : Nat) (ss : List Scalar) : Prop where
  fits : 32 * blocks ≤ t.left
  values : ss.map Fin.val = accepted t blocks
  last : ∀ fewer < blocks, (accepted t fewer).length < ss.length

theorem accepted_zero (t : Tape) : accepted t 0 = [] := by
  rw [accepted, List.range_zero, List.map_nil, List.filter_nil]

/-- The blocks are the first one and those after it. -/
theorem map_candidate_succ (t : Tape) (blocks : Nat) :
    (List.range (blocks + 1)).map t.candidate
      = t.candidate 0 :: (List.range blocks).map (t.skip 32).candidate := by
  have hrest : (List.range blocks).map (t.candidate ∘ Nat.succ)
      = (List.range blocks).map (t.skip 32).candidate := by
    apply List.map_congr_left
    intro j _
    rw [Function.comp_apply, Nat.succ_eq_one_add]
    exact (Tape.candidate_skip t 1 j).symm
  rw [List.range_succ_eq_map, List.map_cons, List.map_map, hrest]

theorem accepted_succ_of_lt (h : t.candidate 0 < groupOrder) :
    accepted t (blocks + 1) = t.candidate 0 :: accepted (t.skip 32) blocks := by
  rw [accepted, map_candidate_succ, List.filter_cons, if_pos (decide_eq_true h), accepted]

theorem accepted_succ_of_le (h : groupOrder ≤ t.candidate 0) :
    accepted t (blocks + 1) = accepted (t.skip 32) blocks := by
  rw [accepted, map_candidate_succ, List.filter_cons, if_neg (by simpa using h), accepted]

theorem drawn_nil_iff : Drawn t blocks [] ↔ blocks = 0 := by
  constructor
  · intro h
    by_contra hne
    exact absurd (h.last 0 (Nat.pos_of_ne_zero hne)) (Nat.not_lt_zero _)
  · rintro rfl
    refine ⟨by omega, (accepted_zero t).symm, ?_⟩
    intro fewer hfewer
    exact absurd hfewer (Nat.not_lt_zero fewer)

/-- No scalar comes from no blocks. -/
theorem not_drawn_zero : ¬ Drawn t 0 (s :: ss) := by
  intro h
  cases h.values.trans (accepted_zero t)

/-- **A block that is a scalar is drawn**, and the others are drawn from the blocks after it. -/
theorem drawn_succ_of_lt (hsmall : t.candidate 0 < groupOrder) :
    Drawn t (blocks + 1) (s :: ss) ↔
      32 ≤ t.left ∧ t.candidate 0 = s.val ∧ Drawn (t.skip 32) blocks ss := by
  constructor
  · rintro ⟨hfits, hvalues, hlast⟩
    rw [List.map_cons, accepted_succ_of_lt hsmall] at hvalues
    obtain ⟨hvalue, hothers⟩ := List.cons.inj hvalues
    refine ⟨by omega, hvalue.symm, ?_, hothers, ?_⟩
    · rw [Tape.left_skip]
      omega
    · intro fewer hfewer
      have hcount := hlast (fewer + 1) (Nat.succ_lt_succ hfewer)
      rw [accepted_succ_of_lt hsmall] at hcount
      exact Nat.lt_of_succ_lt_succ hcount
  · rintro ⟨hroom, hvalue, hfits, hvalues, hlast⟩
    rw [Tape.left_skip] at hfits
    refine ⟨by omega, ?_, ?_⟩
    · rw [List.map_cons, accepted_succ_of_lt hsmall, hvalue, hvalues]
    · intro fewer hfewer
      cases fewer with
      | zero =>
        rw [accepted_zero]
        exact Nat.succ_pos _
      | succ fewer =>
        rw [accepted_succ_of_lt hsmall]
        exact Nat.succ_lt_succ (hlast fewer (Nat.lt_of_succ_lt_succ hfewer))

/-- **A block that is no scalar is passed over.** -/
theorem drawn_succ_of_le (hlarge : groupOrder ≤ t.candidate 0) :
    Drawn t (blocks + 1) (s :: ss) ↔ 32 ≤ t.left ∧ Drawn (t.skip 32) blocks (s :: ss) := by
  constructor
  · rintro ⟨hfits, hvalues, hlast⟩
    rw [accepted_succ_of_le hlarge] at hvalues
    refine ⟨by omega, ?_, hvalues, ?_⟩
    · rw [Tape.left_skip]
      omega
    · intro fewer hfewer
      rw [← accepted_succ_of_le hlarge]
      exact hlast (fewer + 1) (Nat.succ_lt_succ hfewer)
  · rintro ⟨hroom, hfits, hvalues, hlast⟩
    rw [Tape.left_skip] at hfits
    refine ⟨by omega, ?_, ?_⟩
    · rw [accepted_succ_of_le hlarge, hvalues]
    · intro fewer hfewer
      cases fewer with
      | zero =>
        rw [accepted_zero]
        exact Nat.succ_pos _
      | succ fewer =>
        rw [accepted_succ_of_le hlarge]
        exact hlast fewer (Nat.lt_of_succ_lt_succ hfewer)

/-- The first block is the next scalar. -/
theorem drawScalars?_succ_of_lt {n : Nat} (h : 32 ≤ t.left) (hsmall : t.candidate 0 < groupOrder) :
    drawScalars? (n + 1) t
      = (drawScalars? n (t.skip 32)).map fun (ss, t') => (⟨t.candidate 0, hsmall⟩ :: ss, t') := by
  rw [drawScalars?, drawScalar?_of_le h, dif_pos hsmall]

/-- The first block is passed over. -/
theorem drawScalars?_succ_of_le {n : Nat} (h : 32 ≤ t.left) (hlarge : groupOrder ≤ t.candidate 0) :
    drawScalars? (n + 1) t = drawScalars? (n + 1) (t.skip 32) := by
  rw [drawScalars?, drawScalars?, drawScalar?_of_le h, dif_neg (Nat.not_lt.mpr hlarge)]

theorem exists_drawn_of_drawScalars? {n : Nat} (h : drawScalars? n t = some (ss, t')) :
    ∃ blocks, Drawn t blocks ss ∧ t' = t.skip (32 * blocks) := by
  -- Each block that is read shortens the tape, whether it is a scalar or not.
  induction hleft : t.left using Nat.strongRecOn generalizing t n ss with
  | _ left ih =>
    subst hleft
    cases n with
    | zero =>
      cases h
      exact ⟨0, drawn_nil_iff.mpr rfl, rfl⟩
    | succ n =>
      by_cases hshort : t.left < 32
      · rw [drawScalars?, drawScalar?_of_lt hshort] at h
        cases h
      have hroom := Nat.le_of_not_lt hshort
      have hless : (t.skip 32).left < t.left := by
        rw [Tape.left_skip]
        omega
      by_cases hsmall : t.candidate 0 < groupOrder
      · rw [drawScalars?_succ_of_lt hroom hsmall] at h
        obtain ⟨⟨others, rest⟩, hothers, heq⟩ := Option.map_eq_some_iff.mp h
        cases heq
        obtain ⟨blocks, hdrawn, rfl⟩ := ih _ hless hothers rfl
        refine ⟨blocks + 1, (drawn_succ_of_lt hsmall).mpr ⟨hroom, rfl, hdrawn⟩, ?_⟩
        rw [Tape.skip_skip, Nat.mul_succ, Nat.add_comm]
      · have hlarge := Nat.le_of_not_lt hsmall
        have hlength := length_drawScalars? h
        rw [drawScalars?_succ_of_le hroom hlarge] at h
        obtain ⟨blocks, hdrawn, rfl⟩ := ih _ hless h rfl
        cases ss with
        | nil => cases hlength
        | cons s ss =>
          refine ⟨blocks + 1, (drawn_succ_of_le hlarge).mpr ⟨hroom, hdrawn⟩, ?_⟩
          rw [Tape.skip_skip, Nat.mul_succ, Nat.add_comm]

theorem Drawn.drawScalars?_eq (h : Drawn t blocks ss) :
    drawScalars? ss.length t = some (ss, t.skip (32 * blocks)) := by
  induction blocks generalizing t ss with
  | zero =>
    cases ss with
    | nil => rfl
    | cons s ss => exact absurd h not_drawn_zero
  | succ blocks ih =>
    cases ss with
    | nil => cases drawn_nil_iff.mp h
    | cons s ss =>
      by_cases hsmall : t.candidate 0 < groupOrder
      · obtain ⟨hroom, hvalue, hothers⟩ := (drawn_succ_of_lt hsmall).mp h
        have hs : (⟨t.candidate 0, hsmall⟩ : Scalar) = s := Fin.ext hvalue
        rw [List.length_cons, drawScalars?_succ_of_lt hroom hsmall, ih hothers, hs, Option.map_some,
          Tape.skip_skip, Nat.mul_succ, Nat.add_comm]
      · have hlarge := Nat.le_of_not_lt hsmall
        obtain ⟨hroom, hrest⟩ := (drawn_succ_of_le hlarge).mp h
        have hskipped := ih hrest
        rw [List.length_cons] at hskipped ⊢
        rw [drawScalars?_succ_of_le hroom hlarge, hskipped, Tape.skip_skip, Nat.mul_succ, Nat.add_comm]

/-- **What is drawn** are the first scalars of the tape, and the tape goes on behind the last of them. -/
theorem drawScalars?_eq_some_iff {n : Nat} :
    drawScalars? n t = some (ss, t') ↔
      ss.length = n ∧ ∃ blocks, Drawn t blocks ss ∧ t' = t.skip (32 * blocks) := by
  constructor
  · intro h
    exact ⟨length_drawScalars? h, exists_drawn_of_drawScalars? h⟩
  · rintro ⟨rfl, blocks, hdrawn, rfl⟩
    exact hdrawn.drawScalars?_eq

end Exit

end Registrar
