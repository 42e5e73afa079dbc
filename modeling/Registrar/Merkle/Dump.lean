import Registrar.Json.Format
import Registrar.Merkle.Tree

/-!
# Dumps

A snapshot of a tree for other programs: all nodes from the root on, and each leaf with its members
and its node.
-/

namespace Registrar.Merkle

/-- A leaf in a dump: its members as text, and the node that holds its hash. -/
structure DumpedLeaf where
  members : List String
  node : Nat
deriving DecidableEq

/-- A snapshot of a tree. -/
structure Dump where
  nodes : List String
  leaves : List DumpedLeaf
deriving DecidableEq

/-- The snapshot of a tree. -/
def Tree.dump (t : Tree) : Dump where
  nodes := t.nodes.map Hex.ofOctets
  leaves := t.leaves.zipIdx.map fun (v, i) => ⟨v.members, t.place i⟩

namespace Dump

open Json (Value)

/-- A list of texts. -/
def texts (ss : List String) : Value := .array (ss.map .text)

/-- The snapshot as data. -/
def toValue (d : Dump) : Value := .object [
  ("format", .text "standard-v1"),
  ("tree", texts d.nodes),
  ("values", .array (d.leaves.map fun v => .object [
    ("value", texts v.members),
    ("treeIndex", .number (.natural (UInt64.ofNat v.node)))])),
  ("leafEncoding", texts Leaf.memberTypes)]

end Dump

/-! ## Nodes as text -/

/-- Why a text names no node. -/
inductive NodeFault where
  | notHex (fault : Hex.Fault)
  | length (found : Nat)
deriving DecidableEq

/-- The wording of a fault. -/
def NodeFault.message : NodeFault → String
  | .notHex fault => fault.message
  | .length found => "Invalid hash: expected 32 bytes, got " ++ toString found

/-- The node that hexadecimal digits name, with or without a marker before them. -/
def nodeOfText? (s : String) : Except NodeFault Hash :=
  let digits := match s.toList with
    | '0' :: 'x' :: rest => rest
    | rest => rest
  match Hex.decode digits with
  | .error fault => .error (.notHex fault)
  | .ok bs =>
    match Octets.ofList? 32 bs with
    | some node => .ok node
    | none => .error (.length bs.length)

end Registrar.Merkle
