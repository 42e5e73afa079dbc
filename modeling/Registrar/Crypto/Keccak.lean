import Registrar.Bytes.Chunks

/-!
# Keccak-256

The sponge of 25 lanes of 64 bits with a rate of 136 bytes and an output of 32. The padding is a
one bit, zeros and a one bit, without the suffix that later standards put before it. Lane `(x, y)`
has the index `x + 5 * y`.
-/

namespace Registrar

namespace Keccak

/-- The state of the sponge. -/
abbrev State := Vector UInt64 25

/-- The bits of a word turned left by `k` places. -/
def rotate (w : UInt64) (k : UInt64) : UInt64 := (w <<< k) ||| (w >>> (64 - k))

/-- The constants added to the first lane, one a round. -/
def roundConstants : List UInt64 := [
  0x0000000000000001, 0x0000000000008082, 0x800000000000808A, 0x8000000080008000,
  0x000000000000808B, 0x0000000080000001, 0x8000000080008081, 0x8000000000008009,
  0x000000000000008A, 0x0000000000000088, 0x0000000080008009, 0x000000008000000A,
  0x000000008000808B, 0x800000000000008B, 0x8000000000008089, 0x8000000000008003,
  0x8000000000008002, 0x8000000000000080, 0x000000000000800A, 0x800000008000000A,
  0x8000000080008081, 0x8000000000008080, 0x0000000080000001, 0x8000000080008008]

/-- The distance by which each lane is turned. -/
def rotations : Vector UInt64 25 := #v[
  0, 1, 62, 28, 27,
  36, 44, 6, 55, 20,
  3, 10, 43, 25, 39,
  41, 45, 15, 21, 8,
  18, 2, 61, 56, 14]

/-- One round: columns are mixed, lanes turned and moved, rows combined, a constant added. -/
def round (a : State) (constant : UInt64) : State :=
  let column : Vector UInt64 5 := .ofFn fun x =>
    a[x.val] ^^^ a[x.val + 5] ^^^ a[x.val + 10] ^^^ a[x.val + 15] ^^^ a[x.val + 20]
  let mixed : State := .ofFn fun i =>
    a[i] ^^^ column[(i.val + 4) % 5] ^^^ rotate column[(i.val + 1) % 5] 1
  let moved : State := .ofFn fun i =>
    let x := i.val % 5
    let y := i.val / 5
    have : y < 5 := by omega
    let source := (x + 3 * y) % 5 + 5 * x
    have : source < 25 := by omega
    rotate mixed[source] rotations[source]
  let combined : State := .ofFn fun i =>
    let x := i.val % 5
    let y := i.val / 5
    have : y < 5 := by omega
    moved[i] ^^^ (~~~ moved[(x + 1) % 5 + 5 * y] &&& moved[(x + 2) % 5 + 5 * y])
  combined.set 0 (combined[0] ^^^ constant)

/-- The permutation of the state. -/
def permute (a : State) : State := roundConstants.foldl round a

/-- The number of bytes taken in before each permutation. -/
def rate : Nat := 136

/-- The bytes that follow a message of `len` bytes to fill its last block. -/
def padding (len : Nat) : Bytes :=
  let free := rate - len % rate
  if free = 1 then [0x81] else 0x01 :: (List.replicate (free - 2) 0 ++ [0x80])

/-- Takes in one block of 136 bytes. -/
def absorb (a : State) (block : Bytes) : State :=
  let lanes := (Bytes.chunksOf 7 block).map fun w => UInt64.ofNat (Bytes.natOfLittleEndian w)
  permute (.ofFn fun i => a[i] ^^^ lanes.getD i.val 0)

/-- The first 32 bytes of the state. -/
def squeeze (a : State) : Octets 32 :=
  let word (i : Fin 25) : Octets 8 := Octets.ofNatLittle 8 a[i].toNat
  (word 0).append ((word 1).append ((word 2).append (word 3)))

end Keccak

/-- The Keccak-256 hash of a byte string. -/
def keccak256 (bs : Bytes) : Hash :=
  let blocks := Bytes.chunksOf (Keccak.rate - 1) (bs ++ Keccak.padding bs.length)
  Keccak.squeeze (blocks.foldl Keccak.absorb (Vector.replicate 25 0))

end Registrar
