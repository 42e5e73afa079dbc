import Registrar.Json.Token

/-!
# Documents as far as they are well formed

A `Node` is what can be made out of a text that may break off or go wrong at any point: an array or
object that does not end properly is not `closed`, and a member without a value has a `fault`. Data
can so be read in the order of the text up to the point where the text is no longer well formed.

`Document.ofText` reads a text; `Node.whole` tells whether a node is well formed throughout.
-/

namespace Registrar.Json

/-- A value of a document, as far as it is well formed. -/
inductive Node where
  | null
  | bool (b : Bool)
  | number (n : Option Number)
  | text (s : Option String)
  | array (items : List Node) (closed : Bool)
  | object (members : List (Option String × Node)) (closed : Bool)
  | fault

namespace Node

mutual
/-- Whether the value is well formed throughout. -/
def whole : Node → Bool
  | .array items closed => closed && wholeItems items
  | .object members closed => closed && wholeMembers members
  | .fault => false
  | _ => true

/-- Whether all items are well formed. -/
def wholeItems : List Node → Bool
  | [] => true
  | v :: rest => v.whole && wholeItems rest

/-- Whether all members are well formed. -/
def wholeMembers : List (Option String × Node) → Bool
  | [] => true
  | (_, v) :: rest => v.whole && wholeMembers rest
end

end Node

/-! ## Reading -/

/-- A value around the one being read: what stands before it, the last one first. -/
inductive Frame where
  | item (before : List Node)
  | member (before : List (Option String × Node)) (key : Option String)

/-- What may come next. -/
inductive Phase where
  /-- A value. -/
  | value
  /-- The first item of an array, or its end. -/
  | firstItem
  /-- A comma or the end of an array. -/
  | afterItem (before : List Node)
  /-- A key or, before the first one, the end of an object. -/
  | key (before : List (Option String × Node))
  /-- The colon after a key. -/
  | colon (before : List (Option String × Node)) (key : Option String)
  /-- A comma or the end of an object. -/
  | afterMember (before : List (Option String × Node))
  /-- Nothing more. -/
  | done (node : Node)

/-- A document: its value, and whether something follows it. -/
structure Document where
  node : Node
  trailing : Bool

namespace Document

/-- Goes on after a complete value. -/
def settle (v : Node) : List Frame → Phase × List Frame
  | [] => (.done v, [])
  | .item before :: frames => (.afterItem (v :: before), frames)
  | .member before key :: frames => (.afterMember ((key, v) :: before), frames)

/-- The whole value, when the text goes wrong inside a part of it. -/
def abandon (v : Node) : List Frame → Node
  | [] => v
  | .item before :: frames => abandon (.array (v :: before).reverse false) frames
  | .member before key :: frames => abandon (.object ((key, v) :: before).reverse false) frames

/-- Goes on after a token where a value is wanted. -/
def value? (frames : List Frame) : Token → Option (Phase × List Frame)
  | .null => some (settle .null frames)
  | .bool b => some (settle (.bool b) frames)
  | .number n => some (settle (.number n.number?) frames)
  | .text s => some (settle (.text s) frames)
  | .openArray => some (.firstItem, frames)
  | .openObject => some (.key [], frames)
  | _ => none

/-- Goes on after a token, unless it may not stand here. -/
def step? (phase : Phase) (frames : List Frame) (t : Token) : Option (Phase × List Frame) :=
  match phase with
  | .value => value? frames t
  | .firstItem =>
    if t = .closeArray then some (settle (.array [] true) frames)
    else value? (.item [] :: frames) t
  | .afterItem before =>
    match t with
    | .comma => some (.value, .item before :: frames)
    | .closeArray => some (settle (.array before.reverse true) frames)
    | _ => none
  | .key before =>
    match t with
    | .text key => some (.colon before key, frames)
    | .closeObject =>
      if before.isEmpty then some (settle (.object [] true) frames) else none
    | _ => none
  | .colon before key => if t = .colon then some (.value, .member before key :: frames) else none
  | .afterMember before =>
    match t with
    | .comma => some (.key before, frames)
    | .closeObject => some (settle (.object before.reverse true) frames)
    | _ => none
  | .done _ => none

/-- The document, when nothing more can be read. -/
def stop (phase : Phase) (frames : List Frame) : Node :=
  match phase with
  | .value => abandon .fault frames
  | .firstItem => abandon (.array [] false) frames
  | .afterItem before => abandon (.array before.reverse false) frames
  | .key before => abandon (.object before.reverse false) frames
  | .colon before key => abandon (.object ((key, .fault) :: before).reverse false) frames
  | .afterMember before => abandon (.object before.reverse false) frames
  | .done v => v

/-- Reads tokens to the end or to the first one that may not stand where it stands. -/
def ofTokens (phase : Phase) (frames : List Frame) : List Token → Document
  | [] => ⟨stop phase frames, false⟩
  | t :: ts =>
    match step? phase frames t with
    | some (phase, frames) => ofTokens phase frames ts
    | none => ⟨stop phase frames, true⟩

/-- The document that a text holds. -/
def ofText (s : String) : Document := ofTokens .value [] (Token.ofText s)

end Document

end Registrar.Json
