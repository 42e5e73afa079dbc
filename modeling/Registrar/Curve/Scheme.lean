import Registrar.Curve.Encoding
import Registrar.Curve.HashToCurve
import Registrar.Curve.Scalar

/-!
# Signature schemes

What signing and recombination need of a group: its operations, its points as bytes, and the point
of a message. A signature is the point of a message multiplied by the secret key. The curve over the
extension field is the group that is used.
-/

namespace Registrar

/-- A group for signatures. -/
class SignatureScheme (G : Type) where
  zero : G
  add : G → G → G
  multiple : Scalar → G → G
  decode? : Octets 96 → Option G
  encode : G → Octets 96
  pointOf : Bytes → G
  publicKey : Scalar → Octets 48

namespace Curve

/-- The first coordinate of the generator of the group of public keys. -/
def generatorX : Fp := Fp.ofNat
  0x17f1d3a73197d7942695638c4fa9ac0fc3688c4f9774b905a14e3a3f171bac586c55e83ff97a1aeffb3af00adb22c6bb

/-- Its second coordinate. -/
def generatorY : Fp := Fp.ofNat
  0x08b3f481e3aaa0f1a09e30ed741d8ae4fcf5e095d5d00af600db18cb2c04b3edd03cc744a2888ae40caa232946c5e7e1

/-- The group of signatures. -/
abbrev Signatures := Point Fp2

instance : SignatureScheme Signatures where
  zero := .infinity
  add := Point.add
  multiple s p := p.multiple s.val
  decode? := decodeLarge?
  encode := encodeLarge
  pointOf := hashToCurve
  publicKey s := encodeSmall ((Point.affine generatorX generatorY).multiple s.val)

end Curve

end Registrar
