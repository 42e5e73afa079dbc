import Registrar.Text.Printable

/-!
# Quoted text

How a character or a text is shown inside a message: between quotes, with an escape for what could
not be read there. The two shapes differ in one point: a character in single quotes escapes the
single quote, a text in double quotes the double quote.
-/

namespace Registrar.Text

/-- The lower-case hexadecimal digits of a number, without leading zeros. -/
def hexDigits (n : Nat) : List Char := Nat.toDigits 16 n

namespace Quoted

/-- One character as it stands between two of the quotes `quote`. -/
def escape (quote c : Char) : List Char :=
  if c = quote then ['\\', c]
  else if c = '\\' then ['\\', '\\']
  else if c.toNat = 0 then ['\\', '0']
  else if c = '\t' then ['\\', 't']
  else if c = '\r' then ['\\', 'r']
  else if c = '\n' then ['\\', 'n']
  else if Printable.isPrintable c && !Printable.isExtending c then [c]
  else ['\\', 'u', '\x7b'] ++ hexDigits c.toNat ++ ['\x7d']

/-- A character in single quotes. -/
def char (c : Char) : String := String.ofList (['\x27'] ++ escape '\x27' c ++ ['\x27'])

/-- A text in double quotes. -/
def text (s : String) : String := String.ofList (['"'] ++ s.toList.flatMap (escape '"') ++ ['"'])

/-- A visible ASCII character other than the quote and the backslash is shown as itself. -/
theorem escape_of_visible_ascii {quote c : Char} (low : 0x20 ≤ c.toNat) (high : c.toNat < 0x7F)
    (plain : c ≠ quote) (straight : c ≠ '\\') : escape quote c = [c] := by
  have tab : c ≠ '\t' := by rintro rfl; revert low; decide
  have ret : c ≠ '\r' := by rintro rfl; revert low; decide
  have newline : c ≠ '\n' := by rintro rfl; revert low; decide
  have printable := Printable.isPrintable_of_visible_ascii low high
  have narrow : Printable.isExtending c = false := by
    simp [Printable.isExtending]; omega
  have nonzero : c.toNat ≠ 0 := by omega
  simp [escape, plain, straight, nonzero, tab, ret, newline, printable, narrow]

end Quoted

end Registrar.Text
