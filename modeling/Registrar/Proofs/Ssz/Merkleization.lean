import Mathlib.Data.List.GetD
import Mathlib.Data.Nat.Log
import Registrar.Exit.Message
import Registrar.Proofs.Deposit.Preimage

/-!
# Roots of values in general

The root of any value by one rule. Bytes are cut into chunks, numbers are their digits to the base 256 with
the low one first, and a container has the roots of its fields for chunks; zero chunks fill up a list to the
next power of two, and its neighbours are hashed layer by layer until one hash is left. Nothing of this is
taken from the roots of deposits and of exits, which are written out hash by hash; they are the roots of
containers.

## Contents

- `layer`, `apex` and `merkleize`, with `merkleize_append` (a list of chunks twice as long has the pair of
  the two halves' roots) and `merkleize_fill` (zero chunks at the end change nothing);
- `window`, `pack` and `digits`, with `window_eq_chunkAt` and `digits_eq_littleEndian`;
- `Value` and `Value.root`, with the roots of byte strings and numbers;
- the containers `depositData`, `voluntaryExit`, `forkData` and `signingData` with their roots;
- `depositRoot_signingRoot_eq_root`.
-/

namespace Registrar.Ssz

/-! ## Lists of chunks -/

/-- The hashes of neighbours, two by two. -/
def layer : List Hash → List Hash
  | a :: b :: rest => Sha256.pair a b :: layer rest
  | rest => rest

/-- The hash that is left after so many layers. -/
def apex : Nat → List Hash → Hash
  | 0, hashes => hashes.headD (Octets.zero 32)
  | height + 1, hashes => apex height (layer hashes)

/-- The chunks, and zero chunks up to the next power of two. -/
def fill (chunks : List Hash) : List Hash :=
  chunks ++ List.replicate (2 ^ Nat.clog 2 chunks.length - chunks.length) (Octets.zero 32)

/-- The root of a list of chunks. -/
def merkleize (chunks : List Hash) : Hash := apex (Nat.clog 2 chunks.length) (fill chunks)

variable {a b chunks : List Hash} {height : Nat}

/-! ### Layers -/

/-- A layer is half as long as the one below. -/
theorem length_layer (hashes : List Hash) : (layer hashes).length = (hashes.length + 1) / 2 := by
  fun_induction layer hashes with
  | case1 x y rest ih =>
    rw [List.length_cons, List.length_cons, List.length_cons, ih]
    omega
  | case2 hashes hshort =>
    rcases hashes with _ | ⟨x, _ | ⟨y, rest⟩⟩
    · rfl
    · simp
    · exact absurd rfl (hshort x y rest)

/-- Neighbours stay on their sides of an even boundary. -/
theorem layer_append (ha : a.length % 2 = 0) (b : List Hash) : layer (a ++ b) = layer a ++ layer b := by
  fun_induction layer a with
  | case1 x y rest ih =>
    have hrest : rest.length % 2 = 0 := by
      rw [List.length_cons, List.length_cons] at ha
      omega
    show Sha256.pair x y :: layer (rest ++ b) = Sha256.pair x y :: (layer rest ++ layer b)
    rw [ih hrest]
  | case2 a hshort =>
    rcases a with _ | ⟨x, _ | ⟨y, rest⟩⟩
    · rfl
    · -- A single hash would pair up with the first one of the other side.
      cases ha
    · exact absurd rfl (hshort x y rest)

/-- **The apex over two halves is the pair of theirs.** The induction is on the height: the first layer of the
    whole is made of the first layers of the halves, which are halves of it. -/
theorem apex_append (ha : a.length = 2 ^ height) (hb : b.length = 2 ^ height) :
    apex (height + 1) (a ++ b) = Sha256.pair (apex height a) (apex height b) := by
  induction height generalizing a b with
  | zero =>
    obtain ⟨x, rfl⟩ := List.length_eq_one_iff.mp ha
    obtain ⟨y, rfl⟩ := List.length_eq_one_iff.mp hb
    rfl
  | succ height ih =>
    rw [Nat.pow_succ'] at ha hb
    have hlayer : layer (a ++ b) = layer a ++ layer b := layer_append (by omega) b
    have ha' : (layer a).length = 2 ^ height := by
      rw [length_layer]
      omega
    have hb' : (layer b).length = 2 ^ height := by
      rw [length_layer]
      omega
    calc apex (height + 2) (a ++ b)
      _ = apex (height + 1) (layer a ++ layer b) := by rw [apex, hlayer]
      _ = Sha256.pair (apex (height + 1) a) (apex (height + 1) b) := ih ha' hb'

/-! ### Roots of lists -/

theorem length_fill (chunks : List Hash) : (fill chunks).length = 2 ^ Nat.clog 2 chunks.length := by
  have hle : chunks.length ≤ 2 ^ Nat.clog 2 chunks.length := Nat.le_pow_clog Nat.one_lt_two _
  rw [fill, List.length_append, List.length_replicate]
  omega

/-- A list whose length is a power of two is full. -/
theorem merkleize_eq_apex (h : chunks.length = 2 ^ height) : merkleize chunks = apex height chunks := by
  have hheight : Nat.clog 2 chunks.length = height := by rw [h, Nat.clog_pow 2 height Nat.one_lt_two]
  rw [merkleize, fill, hheight, h, Nat.sub_self, List.replicate_zero, List.append_nil]

/-- **Twice as many chunks have the pair of the two halves' roots.** -/
theorem merkleize_append (ha : a.length = 2 ^ height) (hb : b.length = 2 ^ height) :
    merkleize (a ++ b) = Sha256.pair (merkleize a) (merkleize b) := by
  have hlength : (a ++ b).length = 2 ^ (height + 1) := by
    rw [List.length_append, ha, hb, Nat.pow_succ']
    omega
  rw [merkleize_eq_apex ha, merkleize_eq_apex hb, merkleize_eq_apex hlength]
  exact apex_append ha hb

/-- **Filling up changes nothing.** -/
theorem merkleize_fill (chunks : List Hash) : merkleize (fill chunks) = merkleize chunks :=
  merkleize_eq_apex (length_fill chunks)

theorem merkleize_singleton (x : Hash) : merkleize [x] = x := by
  have hlength : [x].length = 2 ^ 0 := rfl
  rw [merkleize_eq_apex hlength]
  rfl

theorem merkleize_two (x y : Hash) : merkleize [x, y] = Sha256.pair x y := by
  have hx : [x].length = 2 ^ 0 := rfl
  have hy : [y].length = 2 ^ 0 := rfl
  rw [← List.singleton_append, merkleize_append hx hy, merkleize_singleton, merkleize_singleton]

theorem merkleize_four (x y z w : Hash) :
    merkleize [x, y, z, w] = Sha256.pair (Sha256.pair x y) (Sha256.pair z w) := by
  have hleft : [x, y].length = 2 ^ 1 := rfl
  have hright : [z, w].length = 2 ^ 1 := rfl
  calc merkleize ([x, y] ++ [z, w])
    _ = Sha256.pair (merkleize [x, y]) (merkleize [z, w]) := merkleize_append hleft hright
    _ = Sha256.pair (Sha256.pair x y) (Sha256.pair z w) := by rw [merkleize_two, merkleize_two]

/-- A zero chunk takes the fourth place. -/
theorem merkleize_three (x y z : Hash) :
    merkleize [x, y, z] = Sha256.pair (Sha256.pair x y) (Sha256.pair z (Octets.zero 32)) := by
  have hfill : fill [x, y, z] = [x, y, z, Octets.zero 32] := by
    have hheight : Nat.clog 2 3 = 2 := by decide
    show [x, y, z] ++ List.replicate (2 ^ Nat.clog 2 3 - 3) (Octets.zero 32) = _
    rw [hheight]
    rfl
  rw [← merkleize_fill, hfill, merkleize_four]

/-! ## Packing -/

/-- The 32 bytes from a place of a byte string on; beyond its end there are zeros. -/
def window (bs : Bytes) (place : Nat) : Hash :=
  ⟨(List.range 32).map fun i => bs.getD (place + i) 0, by simp⟩

/-- The chunks of a byte string, as many as it takes to have all of its bytes. -/
def pack (bs : Bytes) : List Hash :=
  (List.range ((bs.length + 31) / 32)).map fun i => window bs (32 * i)

/-- The lowest digits of a number to the base 256, low digit first. -/
def digits (width n : Nat) : Bytes := (List.range width).map fun i => UInt8.ofNat (n / 256 ^ i)

/-- A window is cut out and filled up. -/
theorem window_eq_chunkAt (bs : Bytes) (place : Nat) : window bs place = Deposit.chunkAt place bs := by
  apply Octets.ext
  show (List.range 32).map (fun i => bs.getD (place + i) 0)
    = ((bs.drop place).take 32 ++ List.replicate 32 0).take 32
  apply List.ext_getElem
  · simp
  intro i hi _
  rw [List.length_map, List.length_range] at hi
  rw [List.getElem_map, List.getElem_range, List.getElem_take, List.getElem_append]
  split
  · rw [List.getElem_take, List.getElem_drop, List.getD_eq_getElem]
  · next hout =>
    rw [List.length_take, List.length_drop] at hout
    have hbeyond : bs.length ≤ place + i := by omega
    rw [List.getElem_replicate, List.getD_eq_default bs 0 hbeyond]

/-- The digits of a number are its bytes. -/
theorem digits_eq_littleEndian (width n : Nat) : digits width n = Bytes.littleEndian width n := by
  induction width generalizing n with
  | zero => rfl
  | succ width ih =>
    have hrest : (List.range width).map (fun i => UInt8.ofNat (n / 256 ^ (i + 1)))
        = digits width (n / 256) := by
      refine List.map_congr_left fun i _ => ?_
      rw [Nat.div_div_eq_div_mul, Nat.pow_succ']
    rw [digits, List.range_succ_eq_map, List.map_cons, List.map_map, Nat.pow_zero, Nat.div_one,
      Bytes.littleEndian, ← ih]
    exact congrArg (_ :: ·) hrest

/-- What fits a chunk is packed into one. -/
theorem pack_of_length_le {bs : Bytes} (hne : bs ≠ []) (h : bs.length ≤ 32) : pack bs = [chunk bs] := by
  have hpos := List.length_pos_iff.mpr hne
  have hcount : (bs.length + 31) / 32 = 1 := by omega
  have hfirst : Deposit.chunkAt 0 bs = chunk bs := by
    rw [Deposit.chunkAt, List.drop_zero, List.take_of_length_le h]
  rw [pack, hcount, List.range_one, List.map_singleton, Nat.mul_zero, window_eq_chunkAt, hfirst]

/-! ## Values -/

/-- A number in so many bytes, a string of bytes, or a container of values. -/
inductive Value where
  | number (width : Nat) (n : Nat)
  | bytes (bs : Bytes)
  | container (fields : List Value)

namespace Value

mutual

/-- The root of a value. -/
def root : Value → Hash
  | number width n => merkleize (pack (digits width n))
  | bytes bs => merkleize (pack bs)
  | container fields => merkleize (roots fields)

/-- The roots of the fields of a container. -/
def roots : List Value → List Hash
  | [] => []
  | field :: fields => field.root :: roots fields

end

/-- A container has the roots of its fields for chunks. -/
theorem root_container (fields : List Value) :
    (container fields).root = merkleize (fields.map Value.root) := by
  have hroots : roots fields = fields.map Value.root := by
    induction fields with
    | nil => rfl
    | cons field fields ih => rw [roots, ih, List.map_cons]
  rw [root, hroots]

theorem root_container_two (x y : Value) : (container [x, y]).root = Sha256.pair x.root y.root := by
  rw [root_container, List.map_cons, List.map_singleton, merkleize_two]

end Value

/-- A chunk made of 32 bytes is these bytes. -/
theorem chunk_toList (h : Hash) : chunk h.toList = h := by
  apply Octets.ext
  show (h.toList ++ List.replicate 32 0).take 32 = h.toList
  exact List.take_left' h.length_toList

/-! ### Roots of byte strings and numbers -/

namespace Value

theorem root_of_length_le {bs : Bytes} (hne : bs ≠ []) (h : bs.length ≤ 32) :
    (bytes bs).root = chunk bs := by
  rw [root, pack_of_length_le hne h, merkleize_singleton]

theorem root_octets {n : Nat} (a : Octets n) (hpos : 0 < n) (hle : n ≤ 32) :
    (bytes a.toList).root = chunk a.toList := by
  have hlength := a.length_toList
  apply root_of_length_le
  · exact List.ne_nil_of_length_pos (by omega)
  · omega

theorem root_hash (h : Hash) : (bytes h.toList).root = h := by
  rw [root_octets h (by decide) (by decide), chunk_toList]

theorem root_number (n : UInt64) : (number 8 n.toNat).root = Ssz.number n := by
  rw [root, digits_eq_littleEndian]
  exact root_octets (Octets.ofNatLittle 8 n.toNat) (by decide) (by decide)

/-- A key takes two chunks. -/
theorem root_key (key : Octets 48) : (bytes key.toList).root = Deposit.keyRoot key := by
  have hlength := key.length_toList
  have hpack : pack key.toList = [Deposit.chunkAt 0 key.toList, Deposit.chunkAt 32 key.toList] := by
    simp only [pack, hlength, window_eq_chunkAt]
    rfl
  rw [root, hpack, merkleize_two]
  rfl

/-- A signature takes three chunks, beside which there is a zero one. -/
theorem root_signature (signature : Octets 96) :
    (bytes signature.toList).root = Deposit.signatureRoot signature := by
  have hlength := signature.length_toList
  have hpack : pack signature.toList = [Deposit.chunkAt 0 signature.toList,
      Deposit.chunkAt 32 signature.toList, Deposit.chunkAt 64 signature.toList] := by
    simp only [pack, hlength, window_eq_chunkAt]
    rfl
  rw [root, hpack, merkleize_three]
  rfl

end Value

/-! ## Containers -/

/-- A deposit. -/
def depositData (key : Octets 48) (credentials : Hash) (amount : UInt64) (signature : Octets 96) :
    Value :=
  .container [.bytes key.toList, .bytes credentials.toList, .number 8 amount.toNat,
    .bytes signature.toList]

/-- The exit of a validator. -/
def voluntaryExit (epoch validatorIndex : UInt64) : Value :=
  .container [.number 8 epoch.toNat, .number 8 validatorIndex.toNat]

/-- A fork of a network. -/
def forkData (version : Octets 4) (genesisRoot : Hash) : Value :=
  .container [.bytes version.toList, .bytes genesisRoot.toList]

/-- What is signed: the root of a value, and what it is signed for. -/
def signingData (objectRoot : Hash) (domain : Bytes) : Value :=
  .container [.bytes objectRoot.toList, .bytes domain]

theorem root_depositData (key : Octets 48) (credentials : Hash) (amount : UInt64)
    (signature : Octets 96) : (depositData key credentials amount signature).root
      = Deposit.depositRoot key credentials amount signature := by
  rw [depositData, Value.root_container, List.map_cons, List.map_cons, List.map_cons, List.map_singleton,
    merkleize_four, Value.root_key, Value.root_hash, Value.root_number, Value.root_signature]
  exact Deposit.depositRoot_eq.symm

theorem root_voluntaryExit (e : Exit) :
    (voluntaryExit e.epoch e.validatorIndex).root = e.objectRoot := by
  rw [voluntaryExit, Value.root_container_two, Value.root_number, Value.root_number]
  rfl

theorem root_forkData (e : Exit) : (forkData e.version e.genesisRoot).root = e.forkRoot := by
  rw [forkData, Value.root_container_two, Value.root_octets e.version (by decide) (by decide),
    Value.root_hash]
  rfl

theorem root_signingData (objectRoot domain : Hash) :
    (signingData objectRoot domain.toList).root = Sha256.pair objectRoot domain := by
  rw [signingData, Value.root_container_two, Value.root_hash, Value.root_hash]

/-- **The roots of deposits and of exits are the roots of containers.** That of an exit is signed together
    with a domain, which is the kind of message and 28 bytes of the root of the fork. -/
theorem depositRoot_signingRoot_eq_root :
    (∀ (key : Octets 48) (credentials : Hash) (amount : UInt64) (signature : Octets 96),
      Deposit.depositRoot key credentials amount signature
        = (depositData key credentials amount signature).root) ∧
    ∀ e : Exit, e.signingRoot
      = (signingData (voluntaryExit e.epoch e.validatorIndex).root
          ([0x04, 0x00, 0x00, 0x00] ++ (forkData e.version e.genesisRoot).root.toList.take 28)).root := by
  constructor
  · intro key credentials amount signature
    exact (root_depositData key credentials amount signature).symm
  · intro e
    have hdomain : [0x04, 0x00, 0x00, 0x00] ++ e.forkRoot.toList.take 28 = e.domain.toList := rfl
    rw [root_voluntaryExit, root_forkData, hdomain, root_signingData]
    rfl

end Registrar.Ssz
