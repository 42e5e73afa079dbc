import Registrar.Json.Node
import Registrar.Text.Quoted

/-!
# What is wrong with a document

A document that is no JSON at all is `malformed`; the other faults are about data of the wrong
shape.
-/

namespace Registrar.Json

/-- What stands in a document. -/
inductive Found where
  | null
  | bool (b : Bool)
  | number (n : Number)
  | text (s : String)
  | sequence
  | map
deriving DecidableEq

namespace Found

/-- What a node is, unless it is malformed or has no value. -/
def ofNode? : Node → Option Found
  | .null => some .null
  | .bool b => some (.bool b)
  | .number n => n.map .number
  | .text s => s.map .text
  | .array _ _ => some .sequence
  | .object _ _ => some .map
  | .fault => none

/-- How it is named in a message. -/
def description : Found → String
  | .null => "null"
  | .bool true => "boolean `true`"
  | .bool false => "boolean `false`"
  | .number (.real x) => "floating point `" ++ String.ofList x.text ++ "`"
  | .number n => "integer `" ++ String.ofList n.text ++ "`"
  | .text s => "string " ++ Text.Quoted.text s
  | .sequence => "sequence"
  | .map => "map"

end Found

/-- Why a document does not hold the data that is wanted. -/
inductive Fault where
  /-- The text is no JSON document, or one that cannot be represented. -/
  | malformed
  /-- Something of another type stands there. -/
  | wrongType (found : Found) (expected : String)
  /-- A number out of range stands there. -/
  | wrongValue (found : Found) (expected : String)
  /-- A sequence ends too early. -/
  | wrongLength (count : Nat) (expected : String)
  /-- A sequence has more items than the record has fields. -/
  | excess (count : Nat)
  /-- A field is missing. -/
  | missing (field : String)
  /-- A field is given twice. -/
  | duplicate (field : String)
  /-- A byte string is not written as one. -/
  | noBytes
deriving DecidableEq

namespace Fault

/-- The wording of a fault. -/
def message : Fault → String
  | .malformed => "<malformed>"
  | .wrongType found expected => "invalid type: " ++ found.description ++ ", expected " ++ expected
  | .wrongValue found expected =>
    "invalid value: " ++ found.description ++ ", expected " ++ expected
  | .wrongLength count expected =>
    "invalid length " ++ toString count ++ ", expected " ++ expected
  | .excess count =>
    "invalid length " ++ toString count ++ ", expected fewer elements in array"
  | .missing field => "missing field `" ++ field ++ "`"
  | .duplicate field => "duplicate field `" ++ field ++ "`"
  | .noBytes => "<malformed>"

/-- The fault of a node where something else is expected. -/
def ofNode (v : Node) (expected : String) : Fault :=
  match Found.ofNode? v with
  | some found => .wrongType found expected
  | none => .malformed

end Fault

end Registrar.Json
