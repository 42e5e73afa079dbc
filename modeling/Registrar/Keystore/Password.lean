import Registrar.Text.Normal
import Registrar.Text.Utf8

/-!
# Passwords

A password is used as the UTF-8 bytes of its normal form without control characters, so that
different ways to type the same text unlock the same container.
-/

namespace Registrar.Keystore

/-- Whether the character is a control character. -/
def isControl (c : Char) : Bool :=
  c.toNat ≤ 0x1F || (0x7F ≤ c.toNat && c.toNat ≤ 0x9F)

/-- The bytes that a password stands for. -/
def passwordBytes (password : String) : Bytes :=
  Text.Utf8.write (String.ofList ((Text.normal password.toList).filter fun c => !isControl c))

end Registrar.Keystore
