import Registrar.Crypto.Sha256

/-!
# Chunks of serialised data

The roots of containers are trees of hashes over chunks of 32 bytes. Numbers are written with the
low byte first; what does not fill a chunk is followed by zeros.
-/

namespace Registrar.Ssz

/-- The first chunk of a byte string, with zeros after its end. -/
def chunk (bs : Bytes) : Hash :=
  ⟨(bs ++ List.replicate 32 0).take 32, by simp⟩

/-- A number of 64 bits as a chunk. -/
def number (n : UInt64) : Hash := chunk (Bytes.littleEndian 8 n.toNat)

end Registrar.Ssz
