import Mathlib.Algebra.Group.Nat.Defs
import Registrar.Bytes.Chunks

/-!
# Laws of byte strings

`toNat_bigEndian` says that reading back the bytes of a number gives the number modulo `256 ^ n`, and
`toNat_inj` that byte strings of one length are different numbers. `xor_left_cancel` says what the same
string combined with two others tells about them. `Octets.le_trans`, `Octets.le_antisymm` and
`Octets.le_total` say that the strings of one length are in a row, and `Octets.pairwise_mergeSort` that
sorting by them puts things in that row.
-/

namespace Registrar

namespace Bytes

/-- Reading the little-endian form back gives the number modulo `256 ^ n`. -/
theorem natOfLittleEndian_littleEndian (n k : Nat) :
    natOfLittleEndian (littleEndian n k) = k % 256 ^ n := by
  induction n generalizing k with
  | zero => simp [littleEndian, natOfLittleEndian, Nat.mod_one]
  | succ n ih =>
    have byte : (UInt8.ofNat k).toNat = k % 256 := rfl
    rw [littleEndian, natOfLittleEndian, ih, byte, Nat.pow_succ', Nat.mod_mul]

/-- Reading the big-endian form back gives the number modulo `256 ^ n`. -/
theorem toNat_bigEndian (n k : Nat) : toNat (bigEndian n k) = k % 256 ^ n := by
  simp [toNat, bigEndian, natOfLittleEndian_littleEndian]

theorem natOfLittleEndian_inj {a b : Bytes} (hlength : a.length = b.length)
    (h : natOfLittleEndian a = natOfLittleEndian b) : a = b := by
  induction a generalizing b with
  | nil => exact (List.length_eq_zero_iff.mp hlength.symm).symm
  | cons x a ih =>
    cases b with
    | nil => cases hlength
    | cons y b =>
      rw [natOfLittleEndian, natOfLittleEndian] at h
      have hx := x.toNat_lt
      have hy := y.toNat_lt
      have hbyte : x = y := UInt8.toNat_inj.mp (by omega)
      have hrest : a = b := ih (Nat.succ.inj hlength) (by omega)
      rw [hbyte, hrest]

/-- Byte strings of one length are different numbers. -/
theorem toNat_inj {a b : Bytes} (hlength : a.length = b.length) (h : toNat a = toNat b) : a = b :=
  List.reverse_inj.mp (natOfLittleEndian_inj (by simpa using hlength) h)

theorem xor_comm (a b : Bytes) : xor a b = xor b a := List.zipWith_comm_of_comm UInt8.xor_comm

/-- A string combined with two others as long as it gives the same only if they are the same. -/
theorem xor_left_cancel {a b c : Bytes} (hb : b.length = a.length) (hc : c.length = a.length)
    (h : xor a b = xor a c) : b = c :=
  calc b = xor (xor b a) a := (xor_xor (Nat.le_of_eq hb)).symm
    _ = xor (xor a c) a := by rw [xor_comm b, h]
    _ = xor (xor c a) a := by rw [xor_comm a]
    _ = c := xor_xor (Nat.le_of_eq hc)

end Bytes

/-! ## The order of strings of one length -/

namespace Octets

variable {n : Nat} {a b c : Octets n}

theorem le_trans (hab : a ≤ b) (hbc : b ≤ c) : a ≤ c := List.le_trans hab hbc

theorem le_antisymm (hab : a ≤ b) (hba : b ≤ a) : a = b := Octets.ext (List.le_antisymm hab hba)

theorem le_total (a b : Octets n) : a ≤ b ∨ b ≤ a := List.le_total a.toList b.toList

theorem le_refl (a : Octets n) : a ≤ a := (le_total a a).elim id id

theorem lt_of_le_of_ne (hle : a ≤ b) (hne : a ≠ b) : a < b := by
  rcases List.le_iff_lt_or_eq.mp hle with hlt | heq
  · exact hlt
  · exact absurd (Octets.ext heq) hne

/-! ### Sorting -/

section Sorting

variable {α : Type} (key : α → Octets n)

theorem ascends_trans (x y z : α) (hxy : decide (key x ≤ key y)) (hyz : decide (key y ≤ key z)) :
    decide (key x ≤ key z) :=
  decide_eq_true (le_trans (of_decide_eq_true hxy) (of_decide_eq_true hyz))

theorem ascends_total (x y : α) : decide (key x ≤ key y) || decide (key y ≤ key x) := by
  rw [Bool.or_eq_true, decide_eq_true_eq, decide_eq_true_eq]
  exact le_total (key x) (key y)

/-- **What is sorted by a key stands by ascending keys.** -/
theorem pairwise_mergeSort (xs : List α) :
    (xs.mergeSort fun x y => decide (key x ≤ key y)).Pairwise fun x y => key x ≤ key y :=
  (List.pairwise_mergeSort (ascends_trans key) (ascends_total key) xs).imp of_decide_eq_true

end Sorting

end Octets

end Registrar
