import Registrar.Bytes.Hex
import Registrar.Text.Normal
import Registrar.Text.Printable
import Registrar.Text.Utf8
import Registrar.Url.Numeric
import Registrar.Url.Punycode

/-!
# Domains

What makes a text the name of a domain. Escaped bytes are put back first. Then letters are made
small, other characters are replaced by what they stand for, and some are passed over; what is left
must not hold a character that has a meaning in a locator. Labels that are spelled in ASCII must
stand for something.
-/

namespace Registrar.Url.Domain

/-- The bytes of a text with its escapes put back. A sign that starts no escape stands for
itself. -/
def unescape : List Char → Bytes
  | [] => []
  | '%' :: c :: d :: rest =>
    match Hex.digit? c, Hex.digit? d with
    | some high, some low => UInt8.ofNat (16 * high + low) :: unescape rest
    | _, _ => UInt8.ofNat '%'.toNat :: unescape (c :: d :: rest)
  | c :: rest => Text.Utf8.write (String.singleton c) ++ unescape rest

/-- The ASCII characters that no domain has. -/
def isForbidden (c : Char) : Bool :=
  decide (c.toNat ≤ 0x20) || decide (c.toNat = 0x7F) || "%#/:<>?@[\\]^|".toList.contains c

/-- Characters that are passed over: soft hyphens, joiners and selectors. -/
def passedOver : Text.Ranges := [
  (0xAD, 0xAD), (0x34F, 0x34F), (0x180B, 0x180D), (0x180F, 0x180F), (0x200B, 0x200B),
  (0x2060, 0x2060), (0x2064, 0x2064), (0xFE00, 0xFE0F), (0xFEFF, 0xFEFF), (0xE0100, 0xE01EF)]

/-- A letter of ASCII in lower case; the ideographic stop counts as a point. -/
def fold (c : Char) : Char := if c = '\u3002' then '.' else c.toLower

/-- What the characters of a domain stand for. -/
def mapped (cs : List Char) : List Char :=
  (Text.normal (cs.filter fun c => !passedOver.contains c.toNat)).map fold

/-- Whether a label can be part of a domain: its characters can be shown, and it does not start with
a mark that belongs to a character before it. -/
def isLabel (cs : List Char) : Bool :=
  (cs.all fun c => Text.Printable.isPrintable c || Text.Printable.isExtending c)
    && !(cs.head?.any Text.Printable.isExtending)

/-- Whether a label that is spelled in ASCII stands for one that is not. -/
def isSpelledLabel (cs : List Char) : Bool :=
  match cs with
  | 'x' :: 'n' :: '-' :: '-' :: rest =>
    match Punycode.decode? rest with
    | some label => label.any (fun c => decide (0x7F < c.toNat)) && isLabel label
    | none => false
  | _ => true

/-- The domain that a text names. -/
def read? (cs : List Char) : Option (List Char) :=
  match Text.Utf8.read? (unescape cs) with
  | none => none
  | some s =>
    let name := mapped s.toList
    if (s.toList.all fun c => decide (c.toNat < 0x80) || Text.Printable.isPrintable c
          || Text.Printable.isExtending c || passedOver.contains c.toNat)
        && !name.any isForbidden
        && (splitAt '.' name).all fun label => isLabel label && isSpelledLabel label then
      some name
    else none

end Registrar.Url.Domain
