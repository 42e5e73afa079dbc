import Registrar.FileTree
import Registrar.Settings.Environment
import Registrar.Text.Blank

/-!
# Variables from a file

A file named `.env`, in the current directory or the nearest one above it, may hold more variables,
one a line. Those that are there already keep their texts. A text may be quoted, in single quotes
as it is, in double quotes with escapes; `$NAME` and `${NAME}` outside single quotes stand for other
variables. The first line that is not well formed ends the file.

## Contents

- `Draft` with `Draft.step?` and `text?`, the text of a variable;
- `line?`, what a line holds;
- `extend`, the variables with those of the file.
-/

namespace Registrar.VariableFile

open Environment (Variables)

/-! ## Texts -/

/-- Where in a text a character stands: outside quotes, in single quotes, after a backslash, in the
name of a variable, in such a name between braces, or after the end. -/
inductive Mode where
  | plain
  | single
  | escape
  | name (reversed : List Char)
  | braced (reversed : List Char)
  | ended
deriving DecidableEq

/-- The text so far, its last character first. `quoted` tells whether a double quote is open. -/
structure Draft where
  mode : Mode
  quoted : Bool
  reversed : List Char

/-- The text of a variable; empty if there is none. -/
def lookUp (vars : Variables) (name : List Char) : List Char :=
  ((vars.find? (·.1.toList = name)).map (·.2.toList)).getD []

namespace Draft

/-- Adds the text of the variable whose reversed name was read. -/
def insert (vars : Variables) (reversed : List Char) (d : Draft) : Draft :=
  { d with mode := .plain, reversed := (lookUp vars reversed.reverse).reverse ++ d.reversed }

/-- Adds a character. -/
def push (c : Char) (d : Draft) : Draft := { d with mode := .plain, reversed := c :: d.reversed }

/-- The draft after one more character, unless that character must not stand there. The character
after the name of a variable is taken as it is. -/
def step? (vars : Variables) (d : Draft) (c : Char) : Option Draft :=
  match d.mode with
  | .ended => if c = ' ' ∨ c = '\t' then some d else none
  | .escape =>
    if "\\\x27\"$ ".toList.contains c then some (d.push c)
    else if c = 'n' then some (d.push '\n')
    else none
  | .single =>
    if c = '\x27' then some { d with mode := .plain }
    else some { d with reversed := c :: d.reversed }
  | .name reversed =>
    if c.isAlphanum then some { d with mode := .name (c :: reversed) }
    else if c = '\x7b' ∧ reversed = [] then some { d with mode := .braced [] }
    else if c = '$' then some { d.insert vars reversed with mode := .name [] }
    else some ((d.insert vars reversed).push c)
  | .braced reversed =>
    if c = '\x7d' then some (d.insert vars reversed)
    else some { d with mode := .braced (c :: reversed) }
  | .plain =>
    if c = '$' then some { d with mode := .name [] }
    else if c = '\\' then some { d with mode := .escape }
    else if d.quoted then some (if c = '"' then { d with quoted := false } else d.push c)
    else if c = '\x27' then some { d with mode := .single }
    else if c = '"' then some { d with quoted := true }
    else if c = ' ' ∨ c = '\t' then some { d with mode := .ended }
    else some (d.push c)

/-- The text of a draft at the end of the line. -/
def finish? (vars : Variables) (d : Draft) : Option (List Char) :=
  if d.quoted then none
  else match d.mode with
    | .single | .braced _ => none
    | .name reversed => some (d.insert vars reversed).reversed.reverse
    | _ => some d.reversed.reverse

end Draft

/-- The text of a variable from the characters after the equals sign. After its end there may be a
remark. -/
def textFrom? (vars : Variables) (d : Draft) : List Char → Option (List Char)
  | [] => d.finish? vars
  | c :: rest =>
    if d.mode = .ended ∧ c = '#' then d.finish? vars
    else (d.step? vars c).bind fun d => textFrom? vars d rest

/-- The text of a variable. A remark in its place leaves it empty. -/
def text? (vars : Variables) (cs : List Char) : Option (List Char) :=
  if cs.head? = some '#' then some [] else textFrom? vars ⟨.plain, false, []⟩ cs

/-! ## Lines -/

/-- The name of a variable at the start of a line, and what follows after blanks. -/
def name? (cs : List Char) : Option (List Char × List Char) :=
  let isPart (c : Char) : Bool := c.isAlphanum || c = '_' || c = '.'
  if cs.head?.any fun c => c.isAlpha || c = '_' then
    some (cs.takeWhile isPart, Text.trimStart (cs.dropWhile isPart))
  else none

/-- The characters after an equals sign. -/
def afterEquals? : List Char → Option (List Char)
  | '=' :: rest => some rest
  | _ => none

/-- The name of a variable and what follows its equals sign, from the first name in a line and the
text after it: if there is no sign, the first name has to be the word `export`. -/
def named? (first : List Char) (rest : List Char) : Option (List Char × List Char) :=
  match afterEquals? rest with
  | some rest => some (first, rest)
  | none =>
    if first = "export".toList then
      (name? rest).bind fun (name, rest) => (afterEquals? rest).map (name, ·)
    else none

/-- What a line holds: nothing, or a variable. -/
def line? (vars : Variables) (cs : List Char) : Option (Option (String × String)) :=
  let cs := Text.trimChars cs
  if cs = [] ∨ cs.head? = some '#' then some none
  else do
    let (name, rest) ← name? cs
    let (name, rest) ← named? name rest
    return some (String.ofList name, String.ofList (← text? vars (Text.trimStart rest)))

/-- The variables with those of lines, up to the first line that is not well formed. -/
def extendBy : List Bytes → Variables → Variables
  | [], vars => vars
  | bs :: rest, vars =>
    match (Text.Utf8.read? bs).bind fun s => line? vars s.toList with
    | none => vars
    | some none => extendBy rest vars
    | some (some (name, text)) =>
      if vars.any (·.1 = name) then extendBy rest vars
      else extendBy rest (vars ++ [(name, text)])

/-- The lines of a file. -/
def lines (bs : Bytes) : List Bytes :=
  bs.foldr (fun b found =>
    match found with
    | [] => if b = 10 then [[], []] else [[b]]
    | part :: more => if b = 10 then [] :: part :: more else (b :: part) :: more) [[]]

/-! ## Files -/

/-- The content of the file in the nearest directory; `above` tells how many directories to climb
at most. -/
def nearest? (files : Workspace) : (above : Nat) → (directory : String) → Option Bytes
  | above, directory =>
    let path := Path.join directory ".env"
    if files.isFile path then (files.read path).toOption
    else match above with
      | 0 => none
      | above + 1 => nearest? files above (Path.join directory "..")

/-- The variables with those of the file. -/
def extend (files : Workspace) (vars : Variables) : Variables :=
  match nearest? files files.current.length "." with
  | some content => extendBy (lines content) vars
  | none => vars

end Registrar.VariableFile
