import Registrar.Bytes.Hex
import Registrar.Crypto.Keccak

/-!
# Leaves

A leaf commits to a byte string and a number below `2 ^ 256`. Contents:

- `Leaf.encode`, the parameter encoding of the pair `(bytes, uint256)`: an offset, the number, the
  length, and the bytes padded to whole words;
- `Leaf.hash`, the hash of the hash of that encoding;
- `Leaf.members`, the two members as text.
-/

namespace Registrar.Merkle

/-- A byte string and its number. -/
structure Leaf where
  data : Bytes
  index : BitVec 256
deriving DecidableEq

namespace Leaf

/-- A number as a word of 32 bytes, high byte first. -/
def word (n : Nat) : Bytes := Bytes.bigEndian 32 n

/-- The zero bytes that fill the last word of a byte string of length `len`. -/
def fill (len : Nat) : Bytes := List.replicate ((32 - len % 32) % 32) 0

/-- The parameter encoding of the pair: the byte string starts after two words. -/
def encode (v : Leaf) : Bytes :=
  word 64 ++ word v.index.toNat ++ word v.data.length ++ v.data ++ fill v.data.length

/-- The hash of a leaf. Hashing twice keeps leaves apart from pairs of nodes. -/
def hash (v : Leaf) : Hash := keccak256 (keccak256 v.encode).toList

/-- The names of the types of the two members. -/
def memberTypes : List String := ["bytes", "uint256"]

/-- The members as text: hexadecimal digits after `0x`, and a decimal number. -/
def members (v : Leaf) : List String := [Hex.encode0x v.data, toString v.index.toNat]

end Leaf

end Registrar.Merkle
