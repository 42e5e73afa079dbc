import Registrar.Deposit.Validator
import Registrar.FileTree
import Registrar.Merkle.Tree

/-!
# Rosters of validators

A roster holds the validators of one deposit data file and the tree that commits to them: leaf `i`
is the encoding of validator `i` with the number `i`.

## Contents

- `readEntries`, `Roster.ofEntries?` and `Roster.load`, which read a file and build its roster;
- `Roster.proof` and `Roster.batchProof`, proofs of validators that the roster knows;
- `Roster.verify`, the check of a batch proof against the roster's root.
-/

namespace Registrar.Deposit

/-- Why a roster cannot be built or asked. -/
inductive RosterFault where
  /-- The file cannot be read. -/
  | unreadable (path : String) (fault : FileFault)
  /-- The text is no array. -/
  | notArray (fault : Json.Fault)
  /-- An entry is wrong. -/
  | badEntry (index : Nat) (fault : EntryFault)
  /-- A validator is not, or not so, in the roster. -/
  | unknown (publicKey : String)
  /-- The tree refuses. -/
  | tree (fault : Merkle.TreeFault)
deriving DecidableEq

/-- The wording of a fault. -/
def RosterFault.message : RosterFault → String
  | .unreadable path fault => "Failed to read deposit data file " ++ path ++ ": " ++ fault.message
  | .notArray fault => "Deposit data is not a JSON array: " ++ fault.message
  | .badEntry index fault =>
    "Invalid deposit data entry " ++ toString index ++ ": " ++ fault.message
  | .unknown publicKey => "Validator " ++ publicKey ++ " is not part of the deposit data"
  | .tree fault => "Tree error: " ++ fault.message

/-! ## Reading -/

/-- Converts the elements of an array, which start at position `index`. -/
def entriesFrom (index : Nat) : List Json.Value → Except RosterFault (List Entry)
  | [] => .ok []
  | v :: rest =>
    match Entry.format.ofValue v with
    | .error fault => .error (.badEntry index (.shape fault))
    | .ok e =>
      match entriesFrom (index + 1) rest with
      | .error fault => .error fault
      | .ok es => .ok (e :: es)

/-- The entries that a text holds. The whole text has to be an array before any entry is looked
at. -/
def readEntries (text : String) : Except RosterFault (List Entry) :=
  match (Json.Format.list .value).ofText text with
  | .error fault => .error (.notArray fault)
  | .ok values => entriesFrom 0 values

/-! ## Building -/

/-- The number of a leaf. -/
def leafNumber (i : Nat) : BitVec 256 := .ofNat 256 i

/-- The leaves of validators. -/
def leavesOf (credentials : Hash) (amount : UInt64) :
    List Validator → Except RosterFault (List Merkle.Leaf)
  | [] => .ok []
  | v :: rest =>
    match v.encode credentials amount with
    | .error fault => .error (.badEntry v.index fault)
    | .ok data =>
      match leavesOf credentials amount rest with
      | .error fault => .error fault
      | .ok leaves => .ok (⟨data, leafNumber v.index⟩ :: leaves)

/-- The validators of a file and the tree over them. -/
structure Roster where
  credentials : Hash
  amount : UInt64
  validators : List Validator
  tree : Merkle.Tree

namespace Roster

/-- The roster of a list of entries; each deposit is of `amount` and withdrawn to `vault`. -/
def ofEntries? (vault : Address) (amount : UInt64) (entries : List Entry) :
    Except RosterFault Roster :=
  let credentials := withdrawalCredentials vault
  let validators := entries.zipIdx.map fun (e, i) => Validator.ofEntry i e
  match leavesOf credentials amount validators with
  | .error fault => .error fault
  | .ok leaves =>
    match Merkle.Tree.ofLeaves? leaves with
    | .error fault => .error (.tree fault)
    | .ok tree => .ok { credentials, amount, validators, tree }

/-- The roster of a file. -/
def load (files : Workspace) (vault : Address) (path : String) (amount : UInt64) :
    Except RosterFault Roster :=
  match files.readText path with
  | .error fault => .error (.unreadable path fault)
  | .ok text =>
    match readEntries text with
    | .error fault => .error fault
    | .ok entries => ofEntries? vault amount entries

variable (d : Roster)

/-- The root that commits to all validators. -/
def root : Hash := d.tree.root

/-- The encoding of a validator under the roster's credentials and amount. -/
def encode (v : Validator) : Except RosterFault Bytes :=
  match v.encode d.credentials d.amount with
  | .ok data => .ok data
  | .error fault => .error (.badEntry v.index fault)

/-- Whether the roster has exactly this validator. -/
def knows (v : Validator) : Bool := d.validators[v.index]? = some v

/-! ## Proofs -/

/-- The siblings of one validator. -/
def proof (v : Validator) : Except RosterFault (List Hash) :=
  if d.knows v then
    match d.tree.proof? v.index with
    | .ok siblings => .ok siblings
    | .error fault => .error (.tree fault)
  else .error (.unknown v.publicKey)

end Roster

/-- A proof for a batch of validators: their encodings and positions in proof order. -/
structure BatchProof where
  encodings : List Bytes
  proof : List Hash
  flags : List Bool
  positions : List UInt64
deriving DecidableEq

namespace Roster

variable (d : Roster)

/-- The proof for a batch of validators. -/
def batchProof (batch : List Validator) : Except RosterFault BatchProof :=
  match batch.find? fun v => !d.knows v with
  | some v => .error (.unknown v.publicKey)
  | none =>
    match d.tree.multiProof (batch.map (·.index)) with
    | .error fault => .error (.tree fault)
    | .ok p => .ok {
        encodings := p.leaves.map (·.data)
        proof := p.proof
        flags := p.flags
        positions := p.indices.map UInt64.ofNat }

/-- The leaves that a batch proof claims; the shorter of the two lists decides their number. -/
def claimedLeaves (p : BatchProof) : List Merkle.Leaf :=
  p.encodings.zipWith (fun data position => ⟨data, leafNumber position.toNat⟩) p.positions

/-- Whether a batch proof leads to the roster's root. -/
def verify (p : BatchProof) : Except RosterFault Bool :=
  match Merkle.rootOf ((claimedLeaves p).map (·.hash)) p.proof p.flags with
  | .ok root => .ok (root = d.root)
  | .error fault => .error (.tree (.badProof fault))

end Roster

end Registrar.Deposit
