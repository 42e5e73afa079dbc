import Mathlib.Tactic.IntervalCases
import Registrar.Crypto.Keccak

/-!
# The sponge with a name for each lane

A vector of lanes is read by position, and each position is computed anew whenever a hash is evaluated.
Here the lanes have names, so that a step is one record in terms of another and a hash of a known string
is evaluated in the kernel within a second.

## Contents

- `Lanes` and the state that they stand for, `Lanes.state`;
- `round_state`, `permute_state`, `absorb_state`: each step on the vector is the step on the names;
- `keccak256_eq`, by which a hash is evaluated.
-/

namespace Registrar.Keccak

/-! ## Vectors written out -/

theorem ofFn_columns {α : Type} (f : Fin 5 → α) : Vector.ofFn f = #v[f 0, f 1, f 2, f 3, f 4] := by
  ext i hi
  rw [Vector.getElem_ofFn]
  interval_cases i <;> rfl

theorem ofFn_lanes {α : Type} (f : Fin 25 → α) : Vector.ofFn f = #v[
    f 0, f 1, f 2, f 3, f 4, f 5, f 6, f 7, f 8, f 9, f 10, f 11, f 12, f 13, f 14, f 15, f 16, f 17,
    f 18, f 19, f 20, f 21, f 22, f 23, f 24] := by
  ext i hi
  rw [Vector.getElem_ofFn]
  interval_cases i <;> rfl

/-! ## Named lanes -/

/-- The five lanes of one row. -/
structure Row where
  (a b c d e : UInt64)

/-- The five rows of the state. -/
structure Lanes where
  (p q r s t : Row)

namespace Lanes

/-- The state that the lanes stand for. -/
def state (s : Lanes) : State := #v[
  s.p.a, s.p.b, s.p.c, s.p.d, s.p.e,
  s.q.a, s.q.b, s.q.c, s.q.d, s.q.e,
  s.r.a, s.r.b, s.r.c, s.r.d, s.r.e,
  s.s.a, s.s.b, s.s.c, s.s.d, s.s.e,
  s.t.a, s.t.b, s.t.c, s.t.d, s.t.e]

/-- Each column is mixed with its two neighbours. -/
def mix (s : Lanes) : Lanes :=
  let a := s.p.a ^^^ s.q.a ^^^ s.r.a ^^^ s.s.a ^^^ s.t.a
  let b := s.p.b ^^^ s.q.b ^^^ s.r.b ^^^ s.s.b ^^^ s.t.b
  let c := s.p.c ^^^ s.q.c ^^^ s.r.c ^^^ s.s.c ^^^ s.t.c
  let d := s.p.d ^^^ s.q.d ^^^ s.r.d ^^^ s.s.d ^^^ s.t.d
  let e := s.p.e ^^^ s.q.e ^^^ s.r.e ^^^ s.s.e ^^^ s.t.e
  let row (x : Row) : Row :=
    ⟨x.a ^^^ e ^^^ rotate b 1, x.b ^^^ a ^^^ rotate c 1, x.c ^^^ b ^^^ rotate d 1,
      x.d ^^^ c ^^^ rotate e 1, x.e ^^^ d ^^^ rotate a 1⟩
  ⟨row s.p, row s.q, row s.r, row s.s, row s.t⟩

/-- Each lane is turned and moved to its new place. -/
def move (s : Lanes) : Lanes where
  p := ⟨rotate s.p.a 0, rotate s.q.b 44, rotate s.r.c 43, rotate s.s.d 21, rotate s.t.e 14⟩
  q := ⟨rotate s.p.d 28, rotate s.q.e 20, rotate s.r.a 3, rotate s.s.b 45, rotate s.t.c 61⟩
  r := ⟨rotate s.p.b 1, rotate s.q.c 6, rotate s.r.d 25, rotate s.s.e 8, rotate s.t.a 18⟩
  s := ⟨rotate s.p.e 27, rotate s.q.a 36, rotate s.r.b 10, rotate s.s.c 15, rotate s.t.d 56⟩
  t := ⟨rotate s.p.c 62, rotate s.q.d 55, rotate s.r.e 39, rotate s.s.a 41, rotate s.t.b 2⟩

/-- The lanes of each row are combined. -/
def combine (s : Lanes) : Lanes :=
  let row (x : Row) : Row :=
    ⟨x.a ^^^ (~~~ x.b &&& x.c), x.b ^^^ (~~~ x.c &&& x.d), x.c ^^^ (~~~ x.d &&& x.e),
      x.d ^^^ (~~~ x.e &&& x.a), x.e ^^^ (~~~ x.a &&& x.b)⟩
  ⟨row s.p, row s.q, row s.r, row s.s, row s.t⟩

/-- One round. -/
def round (s : Lanes) (constant : UInt64) : Lanes :=
  let out := s.mix.move.combine
  { out with p := { out.p with a := out.p.a ^^^ constant } }

/-- The permutation. -/
def permute (s : Lanes) : Lanes := roundConstants.foldl round s

/-- Takes in one block. -/
def absorb (s : Lanes) (block : Bytes) : Lanes :=
  let words := (Bytes.chunksOf 7 block).map fun w => UInt64.ofNat (Bytes.natOfLittleEndian w)
  let row (x : Row) (i : Nat) : Row :=
    ⟨x.a ^^^ words.getD i 0, x.b ^^^ words.getD (i + 1) 0, x.c ^^^ words.getD (i + 2) 0,
      x.d ^^^ words.getD (i + 3) 0, x.e ^^^ words.getD (i + 4) 0⟩
  permute ⟨row s.p 0, row s.q 5, row s.r 10, row s.s 15, row s.t 20⟩

/-- The state before the first block. -/
def start : Lanes :=
  let row : Row := ⟨0, 0, 0, 0, 0⟩
  ⟨row, row, row, row, row⟩

/-- The state after the last block of a message. -/
def after (bs : Bytes) : Lanes :=
  (Bytes.chunksOf (rate - 1) (bs ++ padding bs.length)).foldl absorb start

end Lanes

/-! ## Steps on names are steps on vectors -/

theorem round_state (s : Lanes) (constant : UInt64) :
    round s.state constant = (s.round constant).state := by
  unfold round
  simp only [ofFn_lanes, ofFn_columns]
  rfl

theorem permute_state (s : Lanes) : permute s.state = s.permute.state := by
  unfold permute Lanes.permute
  generalize roundConstants = constants
  induction constants generalizing s with
  | nil => rfl
  | cons constant constants ih => rw [List.foldl_cons, round_state, ih, List.foldl_cons]

theorem absorb_state (s : Lanes) (block : Bytes) : absorb s.state block = (s.absorb block).state := by
  unfold absorb Lanes.absorb
  simp only [ofFn_lanes]
  rw [← permute_state]
  rfl

/-- **A hash is what the named lanes hold after the last block.** -/
theorem keccak256_eq (bs : Bytes) : keccak256 bs = squeeze (Lanes.after bs).state := by
  have hstart : (Vector.replicate 25 0 : State) = Lanes.start.state := rfl
  simp only [keccak256, Lanes.after, hstart]
  generalize Bytes.chunksOf (rate - 1) (bs ++ padding bs.length) = blocks
  generalize Lanes.start = s
  congr 1
  induction blocks generalizing s with
  | nil => rfl
  | cons block blocks ih => rw [List.foldl_cons, absorb_state, ih, List.foldl_cons]

example : keccak256 []
    = .ofNat 32 0xc5d2460186f7233c927e7db2dcc703c0e500b653ca82273b7bfad8045d85a470 := by
  rw [keccak256_eq]
  decide +kernel

end Registrar.Keccak
