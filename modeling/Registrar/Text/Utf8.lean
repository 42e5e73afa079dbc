import Registrar.Bytes.Octets

/-!
# Texts as bytes

The UTF-8 form of a text, and the two ways to read bytes: `read?` refuses bytes that are not UTF-8,
`readLossy` puts a replacement character for each part that is not. `read?_write` says that a
written text reads back.
-/

namespace Registrar.Text.Utf8

/-- The UTF-8 bytes of a text. -/
def write (s : String) : Bytes := s.toUTF8.data.toList

/-- The text that UTF-8 bytes spell. -/
def read? (bs : Bytes) : Option String := String.fromUTF8? ⟨bs.toArray⟩

/-- A written text reads back. -/
theorem read?_write (s : String) : read? (write s) = some s := by
  have whole : (⟨(write s).toArray⟩ : ByteArray) = s.toUTF8 := by simp [write]
  simp [read?, whole, String.fromUTF8?, String.fromUTF8, s.isValidUTF8]

/-! ## Faulty bytes -/

/-- The bytes that may follow a first byte, by position, before the text is known to be faulty; also
the number of bytes that make the character. -/
def shape (b : UInt8) : Option (Nat × (UInt8 × UInt8)) :=
  if b < 0xC2 then none
  else if b < 0xE0 then some (1, (0x80, 0xBF))
  else if b = 0xE0 then some (2, (0xA0, 0xBF))
  else if b = 0xED then some (2, (0x80, 0x9F))
  else if b < 0xF0 then some (2, (0x80, 0xBF))
  else if b = 0xF0 then some (3, (0x90, 0xBF))
  else if b < 0xF4 then some (3, (0x80, 0xBF))
  else if b = 0xF4 then some (3, (0x80, 0x8F))
  else none

/-- How many of the bytes after a first byte belong to its character. -/
def follow (count : Nat) (range : UInt8 × UInt8) : Bytes → Nat
  | [] => 0
  | b :: bs =>
    match count with
    | 0 => 0
    | count + 1 =>
      if range.1 ≤ b ∧ b ≤ range.2 then follow count (0x80, 0xBF) bs + 1 else 0

/-- The code point that a first byte and the bytes after it spell. -/
def codePoint (b : UInt8) (rest : Bytes) : Nat :=
  let high := match rest.length with
    | 1 => b.toNat % 32
    | 2 => b.toNat % 16
    | _ => b.toNat % 8
  rest.foldl (fun n c => n * 64 + c.toNat % 64) high

/-- The characters that at most `fuel` bytes spell, with U+FFFD for each longest part that starts a
character and does not finish it, and for each byte that starts none. -/
def lossyChars : (fuel : Nat) → Bytes → List Char
  | 0, _ => []
  | _ + 1, [] => []
  | fuel + 1, b :: bs =>
    if b < 0x80 then Char.ofNat b.toNat :: lossyChars fuel bs
    else match shape b with
      | none => '\ufffd' :: lossyChars fuel bs
      | some (count, range) =>
        let found := follow count range bs
        let c := if found = count then Char.ofNat (codePoint b (bs.take count)) else '\ufffd'
        c :: lossyChars fuel (bs.drop found)

/-- The text that bytes spell, faulty parts replaced. -/
def readLossy (bs : Bytes) : String := String.ofList (lossyChars bs.length bs)

end Registrar.Text.Utf8
