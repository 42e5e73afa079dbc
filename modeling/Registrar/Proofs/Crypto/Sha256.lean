import Mathlib.Tactic.IntervalCases
import Registrar.Crypto.Sha256

/-!
# SHA-256 with a name for each word

The running hash and the window over the message schedule with a name for each word, so that a round is
one record in terms of another and a hash of a known string is evaluated in the kernel within a second.

## Contents

- `Window` and `Words`, with the vectors that they stand for;
- `rounds_cons` and `rounds_state`, by induction on the rounds, and `absorb_state`;
- `sha256_eq`, by which a hash is evaluated.
-/

namespace Registrar.Sha256

/-! ## Vectors written out -/

theorem ofFn_window {α : Type} (f : Fin 16 → α) : Vector.ofFn f = #v[
    f 0, f 1, f 2, f 3, f 4, f 5, f 6, f 7, f 8, f 9, f 10, f 11, f 12, f 13, f 14, f 15] := by
  ext i hi
  rw [Vector.getElem_ofFn]
  interval_cases i <;> rfl

theorem ofFn_words {α : Type} (f : Fin 8 → α) :
    Vector.ofFn f = #v[f 0, f 1, f 2, f 3, f 4, f 5, f 6, f 7] := by
  ext i hi
  rw [Vector.getElem_ofFn]
  interval_cases i <;> rfl

/-! ## Named words -/

/-- Four words of the schedule. -/
structure Quad where
  (a b c d : UInt32)

/-- The next 16 words of the schedule. -/
structure Window where
  (p q r s : Quad)

/-- The eight words of the running hash. -/
structure Words where
  (a b c d e f g h : UInt32)

namespace Window

/-- The vector that the window stands for. -/
def vector (w : Window) : Vector UInt32 16 := #v[
  w.p.a, w.p.b, w.p.c, w.p.d, w.q.a, w.q.b, w.q.c, w.q.d,
  w.r.a, w.r.b, w.r.c, w.r.d, w.s.a, w.s.b, w.s.c, w.s.d]

/-- The window one word on. -/
def shift (w : Window) : Window :=
  let s0 := rotate w.p.b 7 ^^^ rotate w.p.b 18 ^^^ (w.p.b >>> 3)
  let s1 := rotate w.s.c 17 ^^^ rotate w.s.c 19 ^^^ (w.s.c >>> 10)
  ⟨⟨w.p.b, w.p.c, w.p.d, w.q.a⟩, ⟨w.q.b, w.q.c, w.q.d, w.r.a⟩, ⟨w.r.b, w.r.c, w.r.d, w.s.a⟩,
    ⟨w.s.b, w.s.c, w.s.d, w.p.a + s0 + w.r.b + s1⟩⟩

/-- The words of a block. -/
def ofBlock (block : Bytes) : Window :=
  let words := (Bytes.chunksOf 3 block).map fun w => UInt32.ofNat (Bytes.toNat w)
  let quad (i : Nat) : Quad :=
    ⟨words.getD i 0, words.getD (i + 1) 0, words.getD (i + 2) 0, words.getD (i + 3) 0⟩
  ⟨quad 0, quad 4, quad 8, quad 12⟩

end Window

namespace Words

/-- The state that the words stand for. -/
def state (s : Words) : State := #v[s.a, s.b, s.c, s.d, s.e, s.f, s.g, s.h]

/-- One round. -/
def round (s : Words) (constant word : UInt32) : Words :=
  let t1 := s.h + (rotate s.e 6 ^^^ rotate s.e 11 ^^^ rotate s.e 25)
    + ((s.e &&& s.f) ^^^ (~~~ s.e &&& s.g)) + constant + word
  let t2 := (rotate s.a 2 ^^^ rotate s.a 13 ^^^ rotate s.a 22)
    + ((s.a &&& s.b) ^^^ (s.a &&& s.c) ^^^ (s.b &&& s.c))
  ⟨t1 + t2, s.a, s.b, s.c, s.d + t1, s.e, s.f, s.g⟩

/-- All rounds. -/
def rounds : List UInt32 → Window → Words → Words
  | [], _, s => s
  | k :: ks, w, s => rounds ks w.shift (s.round k w.p.a)

/-- Takes in one block. -/
def absorb (s : Words) (block : Bytes) : Words :=
  let out := rounds roundConstants (.ofBlock block) s
  ⟨s.a + out.a, s.b + out.b, s.c + out.c, s.d + out.d, s.e + out.e, s.f + out.f, s.g + out.g,
    s.h + out.h⟩

/-- The state before the first block. -/
def start : Words :=
  ⟨0x6a09e667, 0xbb67ae85, 0x3c6ef372, 0xa54ff53a, 0x510e527f, 0x9b05688c, 0x1f83d9ab, 0x5be0cd19⟩

/-- The state after the last block of a message. -/
def after (bs : Bytes) : Words :=
  (Bytes.chunksOf 63 (bs ++ padding bs.length)).foldl absorb start

end Words

/-! ## Steps on names are steps on vectors -/

/-- A round takes the first word of the window, which moves on. -/
theorem rounds_cons (k : UInt32) (ks : List UInt32) (w : Window) (s : Words) :
    rounds (k :: ks) w.vector s.state = rounds ks w.shift.vector (s.round k w.p.a).state := by
  rw [rounds, ofFn_window]
  rfl

theorem rounds_state (ks : List UInt32) (w : Window) (s : Words) :
    rounds ks w.vector s.state = (Words.rounds ks w s).state := by
  induction ks generalizing w s with
  | nil => rfl
  | cons k ks ih =>
    rw [rounds_cons]
    exact ih w.shift (s.round k w.p.a)

theorem absorb_state (s : Words) (block : Bytes) : absorb s.state block = (s.absorb block).state := by
  have hwindow : (Vector.ofFn fun i : Fin 16 => ((Bytes.chunksOf 3 block).map fun w =>
      UInt32.ofNat (Bytes.toNat w)).getD i.val 0) = (Window.ofBlock block).vector := by
    rw [ofFn_window]
    rfl
  unfold absorb
  dsimp only
  rw [hwindow, rounds_state, ofFn_words]
  rfl

/-- **A hash is what the named words hold after the last block.** -/
theorem sha256_eq (bs : Bytes) : sha256 bs = finish (Words.after bs).state := by
  have hstart : start = Words.start.state := rfl
  simp only [sha256, Words.after, hstart]
  generalize Bytes.chunksOf 63 (bs ++ padding bs.length) = blocks
  generalize Words.start = s
  congr 1
  induction blocks generalizing s with
  | nil => rfl
  | cons block blocks ih => rw [List.foldl_cons, absorb_state, ih, List.foldl_cons]

example : sha256 []
    = .ofNat 32 0xe3b0c44298fc1c149afbf4c8996fb92427ae41e4649b934ca495991b7852b855 := by
  rw [sha256_eq]
  decide +kernel

end Registrar.Sha256
