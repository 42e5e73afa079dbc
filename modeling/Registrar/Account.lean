import Registrar.Bytes.Hex
import Registrar.Crypto.Keccak

/-!
# Addresses as text

An address is shown with digits of mixed case: a letter is a capital where the hash of the
lower-case digits has a digit of at least 8. The case so guards against a mistyped address.
-/

namespace Registrar.Account

/-- The upper-case form of a hexadecimal digit. -/
def capital (c : Char) : Char := if 'a' ≤ c ∧ c ≤ 'f' then Char.ofNat (c.toNat - 32) else c

/-- The address with its case as a checksum. -/
def checksummed (a : Address) : String :=
  let digits := Hex.encode a.toList
  let marks := Hex.encode (keccak256 (digits.map fun c => UInt8.ofNat c.toNat)).toList
  let cased := digits.zipWith (fun c mark => if '8' ≤ mark then capital c else c) marks
  String.ofList ('0' :: 'x' :: cased)

end Registrar.Account
