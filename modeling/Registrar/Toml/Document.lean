import Registrar.Toml.Moment
import Registrar.Toml.Number
import Registrar.Toml.Quoted

/-!
# Settings files

Reads a document in TOML: lines that give a key a value, and lines that begin a table. A text that
is not such a document is refused as a whole.

## Contents

- `keyPath?`, `scalar?` and `value?`, the parts of a line;
- `Progress` and `statement?`, one line;
- `read?`, a whole document.
-/

namespace Registrar.Toml

/-! ## Blanks -/

/-- The text after the blanks at its start. -/
def skipBlanks (cs : List Char) : List Char := cs.dropWhile fun c => c = ' ' || c = '\t'

/-- The text after the rest of a line that holds at most a comment; the line break stays. -/
def skipComment? (cs : List Char) : Option (List Char) :=
  match skipBlanks cs with
  | '#' :: rest =>
    let after := rest.dropWhile Quoted.isPlain
    match after with
    | [] | '\n' :: _ | '\r' :: '\n' :: _ => some after
    | _ => none
  | cs => some cs

/-- The text after the end of a line that holds at most a comment. -/
def endLine? (cs : List Char) : Option (List Char) :=
  match skipComment? cs with
  | some [] => some []
  | some ('\n' :: rest) | some ('\r' :: '\n' :: rest) => some rest
  | _ => none

/-- The text after any number of blanks, comments and line breaks. -/
def skipLines? : (fuel : Nat) → List Char → Option (List Char)
  | 0, cs => some cs
  | fuel + 1, cs =>
    match skipComment? cs with
    | some ('\n' :: rest) | some ('\r' :: '\n' :: rest) => skipLines? fuel rest
    | found => found

/-! ## Keys -/

/-- Whether a character may stand in a key without quotes. -/
def isKeyChar (c : Char) : Bool := c.isAlphanum || c = '_' || c = '-'

/-- A key at the start of a text, and the text after it. -/
def key? (cs : List Char) : Option (String × List Char) :=
  match cs with
  | '"' :: _ | '\x27' :: _ => (Quoted.short? cs).map fun (s, rest) => (String.ofList s, rest)
  | cs =>
    let name := cs.takeWhile isKeyChar
    if name = [] then none else some (String.ofList name, cs.dropWhile isKeyChar)

/-- Keys with points between them, and the text after them. -/
def keys? : (fuel : Nat) → List Char → Option (List String × List Char)
  | 0, _ => none
  | fuel + 1, cs =>
    match key? (skipBlanks cs) with
    | none => none
    | some (key, rest) =>
      match skipBlanks rest with
      | '.' :: rest => (keys? fuel rest).map fun (more, rest) => (key :: more, rest)
      | rest => some ([key], rest)

/-- A path of keys: the tables to go through, the last key, and the text after it. -/
def keyPath? (cs : List Char) : Option (List String × String × List Char) :=
  match keys? (cs.length + 1) cs with
  | none => none
  | some (ks, rest) => ks.getLast?.map fun last => (ks.dropLast, last, rest)

/-! ## Values -/

/-- Whether a character may stand in a value without quotes. -/
def isScalarChar (c : Char) : Bool :=
  c.isAlphanum || c = '_' || c = '+' || c = '-' || c = '.' || c = ':'

/-- What a run of characters stands for. -/
def scalarOf? (cs : List Char) : Option Value :=
  if cs = "true".toList then some (.bool true)
  else if cs = "false".toList then some (.bool false)
  else
    match Moment.ofChars? cs with
    | some m => some (.moment (String.ofList m))
    | none => number? cs

/-- A value without quotes and brackets, and the text after it. A date may go on after a space. -/
def scalar? (cs : List Char) : Option (Value × List Char) :=
  let run := cs.takeWhile isScalarChar
  let rest := cs.dropWhile isScalarChar
  let more := (rest.drop 1).takeWhile isScalarChar
  let long := if rest.head? = some ' ' then Moment.ofChars? (run ++ ' ' :: more) else none
  match long with
  | some m => some (.moment (String.ofList m), (rest.drop 1).dropWhile isScalarChar)
  | none => (scalarOf? run).map fun v => (v, rest)

mutual
/-- A value at the start of a text, and the text after it; `room` is the number of levels left. -/
def value? : (fuel room : Nat) → List Char → Option (Value × List Char)
  | 0, _, _ => none
  | fuel + 1, room, cs =>
    match cs with
    | '"' :: _ | '\x27' :: _ =>
      (Quoted.read? cs).map fun (s, rest) => (.text (String.ofList s), rest)
    | '[' :: rest =>
      match room with
      | 0 => none
      | room + 1 => (items? fuel room rest).map fun (vs, rest) => (.array vs, rest)
    | '\x7b' :: rest =>
      match room with
      | 0 => none
      | room + 1 =>
        match skipBlanks rest with
        | '\x7d' :: rest => some (.table [], rest)
        | rest =>
          (members? fuel room [] rest).map fun (es, rest) => (.table (Draft.finished es), rest)
    | cs => scalar? cs

/-- The items up to a closing bracket. -/
def items? : (fuel room : Nat) → List Char → Option (List Value × List Char)
  | 0, _, _ => none
  | fuel + 1, room, cs =>
    match skipLines? cs.length cs with
    | none => none
    | some (']' :: rest) => some ([], rest)
    | some cs =>
      match value? fuel room cs with
      | none => none
      | some (v, rest) =>
        match skipLines? rest.length rest with
        | some (',' :: rest) => (items? fuel room rest).map fun (vs, rest) => (v :: vs, rest)
        | some (']' :: rest) => some ([v], rest)
        | _ => none

/-- The entries up to a closing brace, put to those before them. -/
def members? : (fuel room : Nat) → Draft.Entries → List Char →
    Option (Draft.Entries × List Char)
  | 0, _, _, _ => none
  | fuel + 1, room, es, cs =>
    match keyPath? cs with
    | some (path, key, '=' :: rest) =>
      match value? fuel room (skipBlanks rest) with
      | none => none
      | some (v, rest) =>
        match Draft.put path key v .header es with
        | none => none
        | some (_, es) =>
          match skipBlanks rest with
          | ',' :: rest => members? fuel room es rest
          | '\x7d' :: rest => some (es, rest)
          | _ => none
    | _ => none
end

/-! ## Documents -/

/-- What has been read: all tables, and the path of the one that is being filled. -/
structure Progress where
  root : Draft.Entries
  here : List String

namespace Progress

/-- Nothing has been read. -/
def start : Progress := ⟨[], []⟩

/-- Gives a key of the current table a value. -/
def assign (p : Progress) (path : List String) (key : String) (v : Value) : Option Progress :=
  (Draft.alter false (Draft.put path key v) p.here .header p.root).map fun (_, es) =>
    { p with root := es }

/-- Goes on with a table. -/
def enter (p : Progress) (path : List String) (key : String) (root : Option Draft.Entries) :
    Option Progress :=
  root.map fun es => { p with root := es, here := path ++ [key] }

end Progress

/-- The number of levels that a value may have. -/
def levels : Nat := 80

/-- Reads one line with content. -/
def statement? (p : Progress) (cs : List Char) : Option (Progress × List Char) :=
  match cs with
  | '[' :: '[' :: rest =>
    match keyPath? rest with
    | some (path, key, ']' :: ']' :: rest) =>
      (p.enter path key (Draft.append path key p.root)).bind fun p =>
        (endLine? rest).map fun rest => (p, rest)
    | _ => none
  | '[' :: rest =>
    match keyPath? rest with
    | some (path, key, ']' :: rest) =>
      (p.enter path key (Draft.start path key p.root)).bind fun p =>
        (endLine? rest).map fun rest => (p, rest)
    | _ => none
  | cs =>
    match keyPath? cs with
    | some (path, key, '=' :: rest) =>
      match value? (2 * rest.length + 2) levels (skipBlanks rest) with
      | some (v, rest) =>
        (p.assign path key v).bind fun p => (endLine? rest).map fun rest => (p, rest)
      | none => none
    | _ => none

/-- Reads line by line. -/
def statements? : (fuel : Nat) → Progress → List Char → Option Progress
  | 0, p, _ => some p
  | fuel + 1, p, cs =>
    match skipLines? cs.length cs with
    | none => none
    | some [] => some p
    | some cs =>
      match statement? p cs with
      | some (p, rest) => statements? fuel p rest
      | none => none

/-- The text without the mark that may stand at its start. -/
def withoutMark : List Char → List Char
  | '\ufeff' :: rest => rest
  | cs => cs

/-- The entries of the document that a text spells. -/
def read? (s : String) : Option (List (String × Value)) :=
  let cs := withoutMark s.toList
  (statements? (cs.length + 1) .start cs).map fun p => Draft.finished p.root

end Registrar.Toml
