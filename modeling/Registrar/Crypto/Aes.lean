import Registrar.Bytes.Chunks

/-!
# AES-128 in counter mode

The block cipher on sixteen bytes and the stream that it makes from a counter: block `i` of the key
stream is the encryption of the start value plus `i`, a 128-bit number with the high byte first.
`counterMode_counterMode` says that applying the stream twice gives the message back.
-/

namespace Registrar.Aes

/-- The substitution of bytes: the inverse in the field of 256 elements, then an affine map. -/
def substitution : Array UInt8 := #[
  0x63, 0x7C, 0x77, 0x7B, 0xF2, 0x6B, 0x6F, 0xC5, 0x30, 0x01, 0x67, 0x2B, 0xFE, 0xD7, 0xAB, 0x76,
  0xCA, 0x82, 0xC9, 0x7D, 0xFA, 0x59, 0x47, 0xF0, 0xAD, 0xD4, 0xA2, 0xAF, 0x9C, 0xA4, 0x72, 0xC0,
  0xB7, 0xFD, 0x93, 0x26, 0x36, 0x3F, 0xF7, 0xCC, 0x34, 0xA5, 0xE5, 0xF1, 0x71, 0xD8, 0x31, 0x15,
  0x04, 0xC7, 0x23, 0xC3, 0x18, 0x96, 0x05, 0x9A, 0x07, 0x12, 0x80, 0xE2, 0xEB, 0x27, 0xB2, 0x75,
  0x09, 0x83, 0x2C, 0x1A, 0x1B, 0x6E, 0x5A, 0xA0, 0x52, 0x3B, 0xD6, 0xB3, 0x29, 0xE3, 0x2F, 0x84,
  0x53, 0xD1, 0x00, 0xED, 0x20, 0xFC, 0xB1, 0x5B, 0x6A, 0xCB, 0xBE, 0x39, 0x4A, 0x4C, 0x58, 0xCF,
  0xD0, 0xEF, 0xAA, 0xFB, 0x43, 0x4D, 0x33, 0x85, 0x45, 0xF9, 0x02, 0x7F, 0x50, 0x3C, 0x9F, 0xA8,
  0x51, 0xA3, 0x40, 0x8F, 0x92, 0x9D, 0x38, 0xF5, 0xBC, 0xB6, 0xDA, 0x21, 0x10, 0xFF, 0xF3, 0xD2,
  0xCD, 0x0C, 0x13, 0xEC, 0x5F, 0x97, 0x44, 0x17, 0xC4, 0xA7, 0x7E, 0x3D, 0x64, 0x5D, 0x19, 0x73,
  0x60, 0x81, 0x4F, 0xDC, 0x22, 0x2A, 0x90, 0x88, 0x46, 0xEE, 0xB8, 0x14, 0xDE, 0x5E, 0x0B, 0xDB,
  0xE0, 0x32, 0x3A, 0x0A, 0x49, 0x06, 0x24, 0x5C, 0xC2, 0xD3, 0xAC, 0x62, 0x91, 0x95, 0xE4, 0x79,
  0xE7, 0xC8, 0x37, 0x6D, 0x8D, 0xD5, 0x4E, 0xA9, 0x6C, 0x56, 0xF4, 0xEA, 0x65, 0x7A, 0xAE, 0x08,
  0xBA, 0x78, 0x25, 0x2E, 0x1C, 0xA6, 0xB4, 0xC6, 0xE8, 0xDD, 0x74, 0x1F, 0x4B, 0xBD, 0x8B, 0x8A,
  0x70, 0x3E, 0xB5, 0x66, 0x48, 0x03, 0xF6, 0x0E, 0x61, 0x35, 0x57, 0xB9, 0x86, 0xC1, 0x1D, 0x9E,
  0xE1, 0xF8, 0x98, 0x11, 0x69, 0xD9, 0x8E, 0x94, 0x9B, 0x1E, 0x87, 0xE9, 0xCE, 0x55, 0x28, 0xDF,
  0x8C, 0xA1, 0x89, 0x0D, 0xBF, 0xE6, 0x42, 0x68, 0x41, 0x99, 0x2D, 0x0F, 0xB0, 0x54, 0xBB, 0x16]

/-- The substitute of a byte. -/
def substitute (b : UInt8) : UInt8 := substitution.getD b.toNat 0

/-- A block: sixteen bytes, column after column. -/
abbrev Block := Vector UInt8 16

/-- Twice a field element. -/
def double (b : UInt8) : UInt8 := (b <<< 1) ^^^ (if b &&& 0x80 = 0 then 0 else 0x1B)

/-- The exclusive or of two blocks. -/
def add (a b : Block) : Block := a.zipWith (· ^^^ ·) b

/-- Each byte is substituted and each row moved left by its number. -/
def substituteAndShift (s : Block) : Block :=
  .ofFn fun i => substitute (s[(i.val + 4 * (i.val % 4)) % 16])

/-- Each column is multiplied by the fixed polynomial. -/
def mixColumns (s : Block) : Block :=
  .ofFn fun i =>
    let column := i.val / 4 * 4
    have : column < 13 := by omega
    let row := i.val % 4
    let b0 := s[column + row]
    let b1 := s[column + (row + 1) % 4]
    let b2 := s[column + (row + 2) % 4]
    let b3 := s[column + (row + 3) % 4]
    double b0 ^^^ (double b1 ^^^ b1) ^^^ b2 ^^^ b3

/-- The next round key: each column is the exclusive or of the old column and its new left
neighbour, which for the first column is the last one turned, substituted and marked. -/
def nextKey (k : Block) (mark : UInt8) : Block :=
  let first (i : Nat) (h : i < 4) : UInt8 :=
    k[i] ^^^ substitute k[12 + (i + 1) % 4] ^^^ (if i = 0 then mark else 0)
  .ofFn fun i =>
    let row := i.val % 4
    have : row < 4 := by omega
    let column := i.val / 4
    let start := first row this
    let second := k[row + 4] ^^^ start
    let third := k[row + 8] ^^^ second
    if column = 0 then start
    else if column = 1 then second
    else if column = 2 then third
    else k[row + 12] ^^^ third

/-- The marks of the round keys. -/
def marks : List UInt8 := [0x01, 0x02, 0x04, 0x08, 0x10, 0x20, 0x40, 0x80, 0x1B, 0x36]

/-- The rounds that remain, given the key of the round before them; the last one mixes no
columns. -/
def rounds (key : Block) : List UInt8 → Block → Block
  | [], s => s
  | [mark], s => add (substituteAndShift s) (nextKey key mark)
  | mark :: more, s =>
    let key := nextKey key mark
    rounds key more (add (mixColumns (substituteAndShift s)) key)

/-- The encryption of one block. -/
def encryptBlock (key s : Block) : Block := rounds key marks (add s key)

/-! ## Counter mode -/

/-- Sixteen bytes as a block. -/
def block (a : Octets 16) : Block := ⟨a.toList.toArray, by simp [a.length_toList]⟩

/-- The first `n` bytes of the key stream. -/
def keyStream (key start : Octets 16) (n : Nat) : Bytes :=
  ((List.range ((n + 15) / 16)).flatMap fun i =>
    (encryptBlock (block key) (block (Octets.ofNat 16 (start.toNat + i)))).toList).take n

theorem length_keyStream (key start : Octets 16) (n : Nat) :
    (keyStream key start n).length = n := by
  have whole : ∀ m, ((List.range m).flatMap fun i =>
      (encryptBlock (block key) (block (Octets.ofNat 16 (start.toNat + i)))).toList).length
        = 16 * m := by
    intro m
    induction m with
    | zero => rfl
    | succ m ih =>
      rw [List.range_succ, List.flatMap_append, List.length_append, ih]
      simp
      omega
  simp only [keyStream, List.length_take, whole]
  omega

/-- The message combined with the key stream of its length. -/
def counterMode (key start : Octets 16) (message : Bytes) : Bytes :=
  Bytes.xor message (keyStream key start message.length)

@[simp] theorem length_counterMode (key start : Octets 16) (message : Bytes) :
    (counterMode key start message).length = message.length := by
  simp [counterMode, Bytes.length_xor, length_keyStream]

/-- Applying the stream twice gives the message back. -/
theorem counterMode_counterMode (key start : Octets 16) (message : Bytes) :
    counterMode key start (counterMode key start message) = message := by
  have same : (counterMode key start message).length = message.length := by simp
  rw [counterMode, same]
  exact Bytes.xor_xor (by simp [length_keyStream])

end Registrar.Aes
