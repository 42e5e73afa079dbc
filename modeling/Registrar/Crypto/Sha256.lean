import Registrar.Bytes.Chunks

/-!
# SHA-256

The hash of eight 32-bit words over blocks of 64 bytes. `Sha256.pair` hashes two hashes side by
side, the step of every tree of hashes.
-/

namespace Registrar

namespace Sha256

/-- The running hash: eight words. -/
abbrev State := Vector UInt32 8

/-- The bits of a word turned right by `k` places. -/
def rotate (w k : UInt32) : UInt32 := (w >>> k) ||| (w <<< (32 - k))

/-- The state before the first block. -/
def start : State := #v[
  0x6a09e667, 0xbb67ae85, 0x3c6ef372, 0xa54ff53a, 0x510e527f, 0x9b05688c, 0x1f83d9ab, 0x5be0cd19]

/-- The constants of the 64 rounds. -/
def roundConstants : List UInt32 := [
  0x428a2f98, 0x71374491, 0xb5c0fbcf, 0xe9b5dba5, 0x3956c25b, 0x59f111f1, 0x923f82a4, 0xab1c5ed5,
  0xd807aa98, 0x12835b01, 0x243185be, 0x550c7dc3, 0x72be5d74, 0x80deb1fe, 0x9bdc06a7, 0xc19bf174,
  0xe49b69c1, 0xefbe4786, 0x0fc19dc6, 0x240ca1cc, 0x2de92c6f, 0x4a7484aa, 0x5cb0a9dc, 0x76f988da,
  0x983e5152, 0xa831c66d, 0xb00327c8, 0xbf597fc7, 0xc6e00bf3, 0xd5a79147, 0x06ca6351, 0x14292967,
  0x27b70a85, 0x2e1b2138, 0x4d2c6dfc, 0x53380d13, 0x650a7354, 0x766a0abb, 0x81c2c92e, 0x92722c85,
  0xa2bfe8a1, 0xa81a664b, 0xc24b8b70, 0xc76c51a3, 0xd192e819, 0xd6990624, 0xf40e3585, 0x106aa070,
  0x19a4c116, 0x1e376c08, 0x2748774c, 0x34b0bcb5, 0x391c0cb3, 0x4ed8aa4a, 0x5b9cca4f, 0x682e6ff3,
  0x748f82ee, 0x78a5636f, 0x84c87814, 0x8cc70208, 0x90befffa, 0xa4506ceb, 0xbef9a3f7, 0xc67178f2]

/-- The word that a window of 16 words produces. -/
def nextWord (window : Vector UInt32 16) : UInt32 :=
  let early := window[1]
  let late := window[14]
  let s0 := rotate early 7 ^^^ rotate early 18 ^^^ (early >>> 3)
  let s1 := rotate late 17 ^^^ rotate late 19 ^^^ (late >>> 10)
  window[0] + s0 + window[9] + s1

/-- One round with its constant and the next word of the message. -/
def round (s : State) (constant word : UInt32) : State :=
  let a := s[0]; let b := s[1]; let c := s[2]; let d := s[3]
  let e := s[4]; let f := s[5]; let g := s[6]; let h := s[7]
  let t1 := h + (rotate e 6 ^^^ rotate e 11 ^^^ rotate e 25) + ((e &&& f) ^^^ (~~~ e &&& g))
    + constant + word
  let t2 := (rotate a 2 ^^^ rotate a 13 ^^^ rotate a 22) + ((a &&& b) ^^^ (a &&& c) ^^^ (b &&& c))
  #v[t1 + t2, a, b, c, d + t1, e, f, g]

/-- All rounds; the window holds the next 16 words of the message schedule. -/
def rounds : List UInt32 → Vector UInt32 16 → State → State
  | [], _, s => s
  | k :: ks, window, s =>
    let shifted : Vector UInt32 16 :=
      .ofFn fun i => if h : i.val < 15 then window[i.val + 1] else nextWord window
    rounds ks shifted (round s k window[0])

/-- Takes in one block of 64 bytes. -/
def absorb (s : State) (block : Bytes) : State :=
  let words := (Bytes.chunksOf 3 block).map fun w => UInt32.ofNat (Bytes.toNat w)
  let out := rounds roundConstants (.ofFn fun i => words.getD i.val 0) s
  .ofFn fun i => s[i] + out[i]

/-- The bytes that follow a message of `len` bytes: a one bit, zeros, the length in bits. -/
def padding (len : Nat) : Bytes :=
  0x80 :: (List.replicate ((119 - len % 64) % 64) 0 ++ Bytes.bigEndian 8 (8 * len))

/-- The state as bytes. -/
def finish (s : State) : Octets 32 :=
  let word (i : Fin 8) : Octets 4 := Octets.ofNat 4 s[i].toNat
  (word 0).append ((word 1).append ((word 2).append ((word 3).append ((word 4).append
    ((word 5).append ((word 6).append (word 7)))))))

end Sha256

/-- The SHA-256 hash of a byte string. -/
def sha256 (bs : Bytes) : Hash :=
  let blocks := Bytes.chunksOf 63 (bs ++ Sha256.padding bs.length)
  Sha256.finish (blocks.foldl Sha256.absorb Sha256.start)

/-- The hash of two hashes, the left one first. -/
def Sha256.pair (a b : Hash) : Hash := sha256 (a.toList ++ b.toList)

end Registrar
