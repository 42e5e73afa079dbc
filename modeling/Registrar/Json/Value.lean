import Registrar.Json.Fault
import Registrar.Keyed

/-!
# Values

A `Value` is a complete piece of data. `ofNode` reads one, which keeps the last of several members
with one key and sorts members by key; `compact` and `pretty` write one, with its members in the
order in which they stand.

One key is reserved. An object with this key in front stands for the data in a text: the member is
a document of its own, which is read in the place of the object. Behind other members the key is
one like any other.
-/

namespace Registrar.Json

/-- Data: objects are lists of members. -/
inductive Value where
  | null
  | bool (b : Bool)
  | number (n : Number)
  | text (s : String)
  | array (items : List Value)
  | object (members : List (String × Value))

/-- The number of levels that a document may have, and one more. -/
def fullRoom : Nat := 128

namespace Value

/-! ## Reading -/

/-- Members sorted by key, the last of several with one key. -/
def sorted (members : List (String × Value)) : List (String × Value) :=
  members.foldl (fun sofar (key, v) => Keyed.insert key v sofar) []

/-- The key that stands in front of data in a text. -/
def rawKey : String := "$serde_json::private::RawValue"

/-- The value behind the reserved key, if this key comes first, and the members after it. -/
def raw? : List (Option String × Node) → Option (Node × List (Option String × Node))
  | (some key, v) :: rest => if key = rawKey then some (v, rest) else none
  | _ => none

/-- The data behind the reserved key, where `inner` reads the data in a text. -/
def ofRaw (inner : String → Except Fault Value) : Node → Except Fault Value
  | .text (some s) => inner s
  | v => .error (.ofNode v "raw value")

mutual
/-- The data of a node, or the first fault. `room` is the number of levels left, and a level that
would use up the last one is refused. -/
def ofNode (inner : String → Except Fault Value) (room : Nat) : Node → Except Fault Value
  | .null => .ok .null
  | .bool b => .ok (.bool b)
  | .number (some n) => .ok (.number n)
  | .text (some s) => .ok (.text s)
  | .array items closed =>
    if room ≤ 1 then .error .malformed
    else match ofItems inner (room - 1) items with
      | .error fault => .error fault
      | .ok vs => if closed then .ok (.array vs) else .error .malformed
  | .object members closed =>
    if room ≤ 1 then .error .malformed
    else match raw? members with
      | some (v, rest) =>
        match ofRaw inner v with
        | .error fault => .error fault
        | .ok w => if closed && rest.isEmpty then .ok w else .error .malformed
      | none =>
        match ofMembers inner (room - 1) members with
        | .error fault => .error fault
        | .ok ms => if closed then .ok (.object (sorted ms)) else .error .malformed
  | .number none | .text none | .fault => .error .malformed

/-- The data of all items. -/
def ofItems (inner : String → Except Fault Value) (room : Nat) :
    List Node → Except Fault (List Value)
  | [] => .ok []
  | v :: rest =>
    match ofNode inner room v with
    | .error fault => .error fault
    | .ok v =>
      match ofItems inner room rest with
      | .error fault => .error fault
      | .ok vs => .ok (v :: vs)

/-- The data of all members. -/
def ofMembers (inner : String → Except Fault Value) (room : Nat) :
    List (Option String × Node) → Except Fault (List (String × Value))
  | [] => .ok []
  | (none, _) :: _ => .error .malformed
  | (some key, v) :: rest =>
    match ofNode inner room v with
    | .error fault => .error fault
    | .ok v =>
      match ofMembers inner room rest with
      | .error fault => .error fault
      | .ok ms => .ok ((key, v) :: ms)
end

/-- The data in a text. A text in it is shorter, as `ofText_eq` shows, so that the recursion comes
to an end. -/
def ofText (s : String) : Except Fault Value :=
  let document := Document.ofText s
  let inner (t : String) :=
    if _shorter : t.length < s.length then ofText t else .error .malformed
  match ofNode inner fullRoom document.node with
  | .error fault => .error fault
  | .ok v => if document.trailing then .error .malformed else .ok v
termination_by s.length

/-- The data of a node, if it has any. -/
def ofNode? (room : Nat) (v : Node) : Option Value := (ofNode ofText room v).toOption

mutual
/-- The node of a piece of data. -/
def toNode : Value → Node
  | .null => .null
  | .bool b => .bool b
  | .number n => .number (some n)
  | .text s => .text (some s)
  | .array items => .array (nodesOfItems items) true
  | .object members => .object (nodesOfMembers members) true

/-- The nodes of items. -/
def nodesOfItems : List Value → List Node
  | [] => []
  | v :: rest => v.toNode :: nodesOfItems rest

/-- The nodes of members. -/
def nodesOfMembers : List (String × Value) → List (Option String × Node)
  | [] => []
  | (key, v) :: rest => (some key, v.toNode) :: nodesOfMembers rest
end

/-! ## Writing -/

/-- One character of a text between quotes. -/
def escape (c : Char) : List Char :=
  if c = '"' then ['\\', '"']
  else if c = '\\' then ['\\', '\\']
  else if c = '\x08' then ['\\', 'b']
  else if c = '\x0c' then ['\\', 'f']
  else if c = '\n' then ['\\', 'n']
  else if c = '\r' then ['\\', 'r']
  else if c = '\t' then ['\\', 't']
  else if c.toNat < 0x20 then
    ['\\', 'u', '0', '0', Hex.digit (c.toNat / 16), Hex.digit (c.toNat % 16)]
  else [c]

/-- A text between quotes. -/
def quote (s : String) : List Char := '"' :: (s.toList.flatMap escape ++ ['"'])

mutual
/-- The data without blanks. -/
def compact : Value → List Char
  | .null => ['n', 'u', 'l', 'l']
  | .bool true => ['t', 'r', 'u', 'e']
  | .bool false => ['f', 'a', 'l', 's', 'e']
  | .number n => n.text
  | .text s => quote s
  | .array items => '[' :: (compactItems items ++ [']'])
  | .object members => '\x7b' :: (compactMembers members ++ ['\x7d'])

/-- Items with commas between them. -/
def compactItems : List Value → List Char
  | [] => []
  | [v] => v.compact
  | v :: rest => v.compact ++ ',' :: compactItems rest

/-- Members with commas between them. -/
def compactMembers : List (String × Value) → List Char
  | [] => []
  | [(key, v)] => quote key ++ ':' :: v.compact
  | (key, v) :: rest => quote key ++ ':' :: (v.compact ++ ',' :: compactMembers rest)
end

/-- A new line at a depth, two blanks for each level. -/
def newline (depth : Nat) : List Char := '\n' :: List.replicate (2 * depth) ' '

mutual
/-- The data with each item and member on a line of its own. -/
def pretty (depth : Nat) : Value → List Char
  | .array [] => ['[', ']']
  | .array (v :: rest) =>
    '[' :: (newline (depth + 1) ++ v.pretty (depth + 1) ++ prettyItems depth rest ++ newline depth
      ++ [']'])
  | .object [] => ['\x7b', '\x7d']
  | .object ((key, v) :: rest) =>
    '\x7b' :: (newline (depth + 1) ++ quote key ++ [':', ' '] ++ v.pretty (depth + 1)
      ++ prettyMembers depth rest ++ newline depth ++ ['\x7d'])
  | .null => ['n', 'u', 'l', 'l']
  | .bool true => ['t', 'r', 'u', 'e']
  | .bool false => ['f', 'a', 'l', 's', 'e']
  | .number n => n.text
  | .text s => quote s

/-- Further items, each after a comma. -/
def prettyItems (depth : Nat) : List Value → List Char
  | [] => []
  | v :: rest => ',' :: (newline (depth + 1) ++ v.pretty (depth + 1) ++ prettyItems depth rest)

/-- Further members, each after a comma. -/
def prettyMembers (depth : Nat) : List (String × Value) → List Char
  | [] => []
  | (key, v) :: rest =>
    ',' :: (newline (depth + 1) ++ quote key ++ [':', ' '] ++ v.pretty (depth + 1)
      ++ prettyMembers depth rest)
end

/-- The data in one line. -/
def compactText (v : Value) : String := String.ofList v.compact

/-- The data in lines. -/
def prettyText (v : Value) : String := String.ofList (v.pretty 0)

end Value

end Registrar.Json
