import Registrar.Ssz

/-!
# Voluntary exits

The exit of one validator on one network, and the root that is signed for it: the exit's own root
beside a domain, which is made of the kind of message and of 28 bytes of the fork's root.
-/

namespace Registrar

/-- A voluntary exit, under the fork with this version that is in force from this epoch. -/
structure Exit where
  validatorIndex : UInt64
  version : Octets 4
  epoch : UInt64
  genesisRoot : Hash
deriving DecidableEq

namespace Exit

/-- The root of the epoch and the validator. -/
def objectRoot (e : Exit) : Hash := Sha256.pair (Ssz.number e.epoch) (Ssz.number e.validatorIndex)

/-- The root of the fork and the network. -/
def forkRoot (e : Exit) : Hash := Sha256.pair (Ssz.chunk e.version.toList) e.genesisRoot

/-- The kind of message and the first 28 bytes of the fork's root. -/
def domain (e : Exit) : Hash :=
  ⟨[0x04, 0x00, 0x00, 0x00] ++ e.forkRoot.toList.take 28, by simp [e.forkRoot.length_toList]⟩

/-- The root that is signed. -/
def signingRoot (e : Exit) : Hash := Sha256.pair e.objectRoot e.domain

end Exit

end Registrar
