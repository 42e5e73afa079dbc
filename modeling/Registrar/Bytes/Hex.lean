import Registrar.Bytes.Octets
import Registrar.Text.Quoted

/-!
# Hexadecimal text

Two digits a byte, high digit first. `encode` writes lower-case digits; `decode` reads digits of
either case and names the first fault. `decode_encode` says that nothing is lost, and
`length_of_decode` that a text read successfully has two digits for each byte.
-/

namespace Registrar.Hex

/-- What keeps a text from being hexadecimal. -/
inductive Fault where
  /-- The text has an odd number of bytes. -/
  | oddLength
  /-- The byte `byte`, at offset `offset` of the text, is no digit. -/
  | badDigit (byte : UInt8) (offset : Nat)
deriving DecidableEq

/-- The wording of a fault; a byte is shown as the character of its number. -/
def Fault.message : Fault → String
  | .oddLength => "Odd number of digits"
  | .badDigit byte offset =>
    "Invalid character " ++ Text.Quoted.char (Char.ofNat byte.toNat) ++ " at position "
      ++ toString offset

/-! ## Digits -/

/-- The lower-case digit of a number below 16. -/
def digit (n : Nat) : Char :=
  if n < 10 then Char.ofNat (48 + n) else Char.ofNat (87 + n)

/-- The value of a digit of either case. -/
def digit? (c : Char) : Option Nat :=
  let n := c.toNat
  if 48 ≤ n ∧ n ≤ 57 then some (n - 48)
  else if 97 ≤ n ∧ n ≤ 102 then some (n - 87)
  else if 65 ≤ n ∧ n ≤ 70 then some (n - 55)
  else none

theorem digit?_digit {n : Nat} (h : n < 16) : digit? (digit n) = some n := by
  revert n; decide

theorem lt_of_digit? {c : Char} {n : Nat} (h : digit? c = some n) : n < 16 := by
  simp only [digit?] at h
  repeat' split at h
  all_goals first | (cases h; omega) | cases h

/-! ## Writing -/

/-- The two digits of a byte. -/
def encodeByte (b : UInt8) : List Char := [digit (b.toNat / 16), digit (b.toNat % 16)]

/-- The digits of a byte string. -/
def encode (bs : Bytes) : List Char := bs.flatMap encodeByte

/-- The digits of a byte string after the marker `0x`. -/
def encode0x (bs : Bytes) : String := String.ofList ('0' :: 'x' :: encode bs)

/-! ## Reading -/

/-- The first byte of a character's UTF-8 form. -/
def leadByte (c : Char) : UInt8 := (String.singleton c).toUTF8.toList.headD 0

/-- Reads pairs of digits; `offset` counts the digits read before. -/
def decodePairs (offset : Nat) : List Char → Except Fault Bytes
  | [] => .ok []
  | [c] => if (digit? c).isSome then .error .oddLength else .error (.badDigit (leadByte c) offset)
  | c :: d :: rest =>
    match digit? c, digit? d with
    | none, _ => .error (.badDigit (leadByte c) offset)
    | some _, none => .error (.badDigit (leadByte d) (offset + 1))
    | some high, some low =>
      match decodePairs (offset + 2) rest with
      | .ok bs => .ok (UInt8.ofNat (16 * high + low) :: bs)
      | .error fault => .error fault

/-- The number of bytes in the UTF-8 form of a text. -/
def utf8Length : List Char → Nat
  | [] => 0
  | c :: rest => c.utf8Size + utf8Length rest

/-- Reads hexadecimal text. An odd number of UTF-8 bytes is the first fault looked for. -/
def decode (s : List Char) : Except Fault Bytes :=
  if utf8Length s % 2 = 1 then .error .oddLength else decodePairs 0 s

/-! ## Laws -/

theorem utf8Size_digit {n : Nat} (h : n < 16) : (digit n).utf8Size = 1 := by
  revert n; decide

@[simp] theorem length_encode (bs : Bytes) : (encode bs).length = 2 * bs.length := by
  induction bs with
  | nil => rfl
  | cons b bs ih =>
    simp only [encode] at ih
    simp [encode, encodeByte, ih]
    omega

theorem decodePairs_encode (offset : Nat) (bs : Bytes) :
    decodePairs offset (encode bs) = .ok bs := by
  induction bs generalizing offset with
  | nil => rfl
  | cons b bs ih =>
    have small : b.toNat < 256 := b.toNat_lt
    have high := digit?_digit (n := b.toNat / 16) (by omega)
    have low := digit?_digit (n := b.toNat % 16) (by omega)
    have whole : UInt8.ofNat (16 * (b.toNat / 16) + b.toNat % 16) = b := by
      rw [Nat.div_add_mod]; exact UInt8.ofNat_toNat
    have step := ih (offset + 2)
    simp only [encode] at step
    simp [encode, encodeByte, decodePairs, high, low, step, whole]

theorem utf8Length_encode (bs : Bytes) : utf8Length (encode bs) = 2 * bs.length := by
  induction bs with
  | nil => rfl
  | cons b bs ih =>
    have small : b.toNat < 256 := b.toNat_lt
    have high := utf8Size_digit (n := b.toNat / 16) (by omega)
    have low := utf8Size_digit (n := b.toNat % 16) (by omega)
    simp only [encode] at ih
    simp only [encode, encodeByte, List.flatMap_cons, List.cons_append, List.nil_append, utf8Length,
      high, low, ih, List.length_cons]
    omega

/-- Reading what was written gives the bytes back. -/
theorem decode_encode (bs : Bytes) : decode (encode bs) = .ok bs := by
  simp [decode, utf8Length_encode, decodePairs_encode]

theorem length_of_decodePairs {offset : Nat} {s : List Char} {bs : Bytes}
    (h : decodePairs offset s = .ok bs) : s.length = 2 * bs.length := by
  fun_induction decodePairs offset s generalizing bs with
  | case1 => cases h; rfl
  | case2 => cases h
  | case3 => cases h
  | case4 => cases h
  | case5 => cases h
  | case6 offset c d rest high hc low hd bs' hrest ih =>
    cases h
    simp [ih hrest]; omega
  | case7 => cases h

/-- A text read successfully has two digits for each byte. -/
theorem length_of_decode {s : List Char} {bs : Bytes} (h : decode s = .ok bs) :
    s.length = 2 * bs.length := by
  unfold decode at h
  split at h
  · cases h
  · exact length_of_decodePairs h

/-! ## Byte strings of a fixed length -/

/-- The digits of a hash or key after the marker `0x`. -/
def ofOctets {n : Nat} (a : Octets n) : String := encode0x a.toList

end Registrar.Hex
