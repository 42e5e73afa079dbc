import Registrar.Crypto.Sha256
import Registrar.Curve.Point

/-!
# Messages as points

A message is expanded to 256 bytes, which make two elements of the extension field. Each is mapped
to a curve that is easier to reach, both are carried over by a map of degree three, and their sum is
multiplied into the group of prime order.
-/

namespace Registrar.Curve

/-- The name under which messages are hashed for signatures. -/
def signatureDomain : Bytes :=
  ("BLS_SIG_BLS12381G2_XMD:SHA-256_SSWU_RO_POP_".toList.map fun c => UInt8.ofNat c.toNat)

/-! ## Expansion -/

/-- The blocks after the first one: each is the hash of the first block combined with the block
before it, a counter and the domain. -/
def expandBlocks (first : Bytes) (domain : Bytes) : (count : Nat) → (number : Nat) → Bytes → Bytes
  | 0, _, _ => []
  | count + 1, number, before =>
    let block := (sha256 (Bytes.xor first before ++ [UInt8.ofNat number] ++ domain)).toList
    block ++ expandBlocks first domain count (number + 1) block

/-- 256 bytes from a message. -/
def expand (message : Bytes) : Bytes :=
  let domain := signatureDomain ++ [UInt8.ofNat signatureDomain.length]
  let first := (sha256 (List.replicate 64 0 ++ message ++ [1, 0, 0] ++ domain)).toList
  let start := (sha256 (first ++ [1] ++ domain)).toList
  start ++ expandBlocks first domain 7 2 start

/-- The element that the 64 bytes from a place spell. -/
def elementAt (place : Nat) (bs : Bytes) : Fp := Fp.ofNat (Bytes.toNat ((bs.drop place).take 64))

/-! ## The map to the curve -/

/-- The coefficient of `x` in the curve that is reached first. -/
def reachA : Fp2 := ⟨0, Fp.ofNat 240⟩

/-- The constant of that curve. -/
def reachB : Fp2 := ⟨Fp.ofNat 1012, Fp.ofNat 1012⟩

/-- The number that is no square, by which the map moves on. -/
def reachZ : Fp2 := -⟨Fp.ofNat 2, 1⟩

/-- A point, by its coordinates, of the curve that is reached first. -/
def reach (u : Fp2) : Fp2 × Fp2 :=
  let value (x : Fp2) : Fp2 := (x * x + reachA) * x + reachB
  let zuu := reachZ * (u * u)
  let t := (zuu * zuu + zuu).inverse
  let x1 :=
    if t = 0 then reachB * (reachZ * reachA).inverse
    else -(reachB * reachA.inverse) * (1 + t)
  let x2 := zuu * x1
  let (x, y) := match (value x1).root? with
    | some y => (x1, y)
    | none => (x2, (value x2).root?.getD 0)
  (x, if u.isOdd = y.isOdd then y else -y)

/-- The value of a polynomial with the given coefficients, the constant one first. -/
def polynomial (coefficients : List Fp2) (x : Fp2) : Fp2 :=
  coefficients.foldr (fun c value => value * x + c) 0

/-- An element of the prime field from a number with a sign. -/
def Fp.ofInt (n : Int) : Fp := Fp.ofNat (n % (fieldPrime : Int)).toNat

/-- An element of the extension from two numbers. -/
def element (re im : Int) : Fp2 := ⟨Fp.ofInt re, Fp.ofInt im⟩

/-- What the first coordinate is multiplied out to. -/
def abscissa : List Fp2 := [element 304 304, element 0 (-24), element 12 (-12), 1]

/-- What the second coordinate is multiplied by. -/
def slope : List Fp2 := [element 752 752, element 0 264, element (-18) 18, -1]

/-- A point of the first curve carried over by the map of degree three, whose kernel lies at
`x = -6 + 6 i`. -/
def carry (p : Fp2 × Fp2) : Point Fp2 :=
  let distance := p.1 + element 6 (-6)
  if distance = 0 then .infinity
  else
    let s := (element 3 0 * distance).inverse
    .affine (polynomial abscissa p.1 * (s * s)) (p.2 * polynomial slope p.1 * (s * s * s))

/-- The number, without its sign, from which the curve is made. -/
def curveParameter : Nat := 0xd201000000010000

/-- A power of that number with a factor and the lower powers with theirs, the highest one first. -/
def ofPowers (factors : List Int) : Int :=
  factors.foldl (fun sum factor => sum * curveParameter + factor) 0

/-- The factor that leads into the group of prime order. -/
def cofactor : Nat :=
  (ofPowers [1, 0, -1] * (ofPowers [1, 4, 5, 0, -4, -6, -4, 4, 13] / 3)).toNat

/-- The point of a message. -/
def hashToCurve (message : Bytes) : Point Fp2 :=
  let bs := expand message
  let p := carry (reach ⟨elementAt 0 bs, elementAt 64 bs⟩)
  let q := carry (reach ⟨elementAt 128 bs, elementAt 192 bs⟩)
  (p.add q).multiple cofactor

end Registrar.Curve
