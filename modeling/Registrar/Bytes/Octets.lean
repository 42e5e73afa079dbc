/-!
# Byte strings and their fixed-width form

`Bytes` is a byte string of any length, `Octets n` one of exactly `n` bytes: hashes are `Octets 32`,
addresses `Octets 20`, keys `Octets 48` and signatures `Octets 96`. Numbers are written in `n` bytes
with the high byte first (`bigEndian`) or last (`littleEndian`).
-/

namespace Registrar

/-- A string of bytes. -/
abbrev Bytes := List UInt8

namespace Bytes

/-! ## Numbers as bytes -/

/-- The low `n` bytes of `k`, low byte first. -/
def littleEndian : (n k : Nat) → Bytes
  | 0, _ => []
  | n + 1, k => UInt8.ofNat k :: littleEndian n (k / 256)

/-- The low `n` bytes of `k`, high byte first. -/
def bigEndian (n k : Nat) : Bytes := (littleEndian n k).reverse

/-- The number whose bytes, low byte first, are `bs`. -/
def natOfLittleEndian : Bytes → Nat
  | [] => 0
  | b :: bs => b.toNat + 256 * natOfLittleEndian bs

/-- The number whose bytes, high byte first, are `bs`. -/
def toNat (bs : Bytes) : Nat := natOfLittleEndian bs.reverse

@[simp] theorem length_littleEndian (n k : Nat) : (littleEndian n k).length = n := by
  induction n generalizing k with
  | zero => rfl
  | succ n ih => simp [littleEndian, ih]

@[simp] theorem length_bigEndian (n k : Nat) : (bigEndian n k).length = n := by
  simp [bigEndian]

end Bytes

/-! ## Strings of a fixed length -/

/-- A string of exactly `n` bytes. -/
structure Octets (n : Nat) where
  toList : Bytes
  length_toList : toList.length = n
deriving DecidableEq

namespace Octets

variable {n m : Nat}

@[ext] theorem ext {a b : Octets n} (h : a.toList = b.toList) : a = b := by
  cases a; cases b; cases h; rfl

/-- `bs` as a string of `n` bytes, if that is its length. -/
def ofList? (n : Nat) (bs : Bytes) : Option (Octets n) :=
  if h : bs.length = n then some ⟨bs, h⟩ else none

/-- `n` copies of one byte. -/
def replicate (n : Nat) (b : UInt8) : Octets n := ⟨List.replicate n b, by simp⟩

/-- `n` zero bytes. -/
def zero (n : Nat) : Octets n := replicate n 0

instance : Inhabited (Octets n) := ⟨zero n⟩

/-- The low `n` bytes of `k`, high byte first. -/
def ofNat (n k : Nat) : Octets n := ⟨Bytes.bigEndian n k, by simp⟩

/-- The low `n` bytes of `k`, low byte first. -/
def ofNatLittle (n k : Nat) : Octets n := ⟨Bytes.littleEndian n k, by simp⟩

/-- The number written by the bytes, high byte first. -/
def toNat (a : Octets n) : Nat := Bytes.toNat a.toList

/-- One string after the other. -/
def append (a : Octets n) (b : Octets m) : Octets (n + m) :=
  ⟨a.toList ++ b.toList, by simp [a.length_toList, b.length_toList]⟩

instance : HAppend (Octets n) (Octets m) (Octets (n + m)) := ⟨append⟩

/-- The first `k` bytes. -/
def take (k : Nat) (a : Octets n) (h : k ≤ n := by omega) : Octets k :=
  ⟨a.toList.take k, by simp [a.length_toList, Nat.min_eq_left h]⟩

/-- Strings of one length are compared byte by byte from the left. -/
instance : LT (Octets n) := ⟨fun a b => a.toList < b.toList⟩

instance : LE (Octets n) := ⟨fun a b => a.toList ≤ b.toList⟩

instance (a b : Octets n) : Decidable (a < b) :=
  inferInstanceAs (Decidable (a.toList < b.toList))

instance (a b : Octets n) : Decidable (a ≤ b) :=
  inferInstanceAs (Decidable (a.toList ≤ b.toList))

@[simp] theorem toList_append (a : Octets n) (b : Octets m) :
    (a ++ b).toList = a.toList ++ b.toList := rfl

theorem ofList?_toList (a : Octets n) : ofList? n a.toList = some a := by
  simp [ofList?, a.length_toList]

theorem toList_of_ofList? {bs : Bytes} {a : Octets n} (h : ofList? n bs = some a) :
    a.toList = bs := by
  unfold ofList? at h
  split at h
  · cases h; rfl
  · cases h

end Octets

/-- A 32-byte hash. -/
abbrev Hash := Octets 32

/-- A 20-byte account address. -/
abbrev Address := Octets 20

end Registrar
