import Registrar.Text.Utf8

/-!
# Files and directories

A snapshot of files as data. A `Workspace` is a root directory and a current one, from which
relative paths start. Looking up, reading, listing and writing fail with the cause that a file
system would give.
-/

namespace Registrar

/-- A file or a directory. -/
inductive FileTree where
  | file (content : Bytes)
  | directory (entries : List (String × FileTree))

/-- Why a file cannot be used. -/
inductive FileFault where
  | notFound
  | notDirectory
  | isDirectory
  | notText
  | badPath
deriving DecidableEq

/-- The wording of a fault. -/
def FileFault.message : FileFault → String
  | .notFound => "No such file or directory (os error 2)"
  | .notDirectory => "Not a directory (os error 20)"
  | .isDirectory => "Is a directory (os error 21)"
  | .notText => "stream did not contain valid UTF-8"
  | .badPath => "file name contained an unexpected NUL byte"

/-! ## Paths -/

namespace Path

/-- The path of an entry of a directory. -/
def join (directory name : String) : String :=
  if name.toList.head? = some '/' then name
  else if directory = "" ∨ directory.toList.getLast? = some '/' then directory ++ name
  else directory ++ "/" ++ name

/-- The parts of a path between slashes. -/
def parts (path : List Char) : List (List Char) :=
  path.foldr (fun c found =>
    match found with
    | [] => if c = '/' then [[], []] else [[c]]
    | part :: more => if c = '/' then [] :: part :: more else (c :: part) :: more) [[]]

/-- The last part of a path that is not empty. -/
def fileName (path : String) : String :=
  String.ofList (((parts path.toList).filter (· ≠ [])).getLast?.getD [])

end Path

/-! ## Snapshots -/

namespace FileTree

/-- The entry of a name. -/
def entry? (name : String) (entries : List (String × FileTree)) : Option FileTree :=
  (entries.find? (·.1 = name)).map (·.2)

/-- Follows the parts of a path. `above` are the directories passed through, the last one first;
`here` is the way to the place reached. -/
def follow (above : List FileTree) (here : List String) (t : FileTree) :
    List String → Except FileFault (List String × FileTree)
  | [] => .ok (here, t)
  | part :: rest =>
    match t with
    | .file _ => .error .notDirectory
    | .directory entries =>
      if part = "" ∨ part = "." then follow above here t rest
      else if part = ".." then
        match above with
        | [] => follow [] [] t rest
        | parent :: above => follow above here.dropLast parent rest
      else match entry? part entries with
        | some found => follow (t :: above) (here ++ [part]) found rest
        | none => .error .notFound

/-- The tree with another one put at a place. Directories on the way are made. -/
def put (new : FileTree) : (place : List String) → FileTree → FileTree
  | [], _ => new
  | part :: rest, .directory entries =>
    match entry? part entries with
    | some below =>
      .directory (entries.map fun e => if e.1 = part then (part, put new rest below) else e)
    | none => .directory (entries ++ [(part, put new rest (.directory []))])
  | _ :: _, .file old => .file old

end FileTree

/-- Files as a program sees them. -/
structure Workspace where
  root : FileTree
  current : List String

namespace Workspace

/-- What a path leads to, and the way to it from the root. -/
def locate (w : Workspace) (path : String) : Except FileFault (List String × FileTree) :=
  let chars := path.toList
  if chars = [] then .error .notFound
  else if chars.contains '\x00' then .error .badPath
  else
    let parts := (Path.parts chars).map String.ofList
    if chars.head? = some '/' then FileTree.follow [] [] w.root parts
    else FileTree.follow [] [] w.root (w.current ++ parts)

/-- The bytes of a file. -/
def read (w : Workspace) (path : String) : Except FileFault Bytes :=
  match w.locate path with
  | .error fault => .error fault
  | .ok (_, .file content) => .ok content
  | .ok (_, .directory _) => .error .isDirectory

/-- The text of a file. -/
def readText (w : Workspace) (path : String) : Except FileFault String :=
  match w.read path with
  | .error fault => .error fault
  | .ok content =>
    match Text.Utf8.read? content with
    | some s => .ok s
    | none => .error .notText

/-- A text that was written to a file is read. -/
theorem readText_of_read {w : Workspace} {path text : String}
    (h : w.read path = .ok (Text.Utf8.write text)) : w.readText path = .ok text := by
  simp only [readText, h, Text.Utf8.read?_write]

/-- Whether a path leads to a file. -/
def isFile (w : Workspace) (path : String) : Bool :=
  match w.locate path with
  | .ok (_, .file _) => true
  | _ => false

/-- The names in a directory. -/
def list (w : Workspace) (path : String) : Except FileFault (List String) :=
  match w.locate path with
  | .error fault => .error fault
  | .ok (_, .directory entries) => .ok (entries.map (·.1))
  | .ok (_, .file _) => .error .notDirectory

/-- The files after one has been written. -/
def write (w : Workspace) (path : String) (content : Bytes) : Except FileFault Workspace :=
  match w.locate path with
  | .ok (_, .directory _) => .error .isDirectory
  | .ok (place, .file _) => .ok { w with root := FileTree.put (.file content) place w.root }
  | .error .notFound =>
    let parts := Path.parts path.toList
    let name := String.ofList (parts.getLast?.getD [])
    let above := parts.dropLast.map String.ofList
    let start := if path.toList.head? = some '/' then [] else w.current
    match FileTree.follow [] [] w.root (start ++ above) with
    | .ok (place, .directory _) =>
      if name = "" then .error .isDirectory
      else .ok { w with root := FileTree.put (.file content) (place ++ [name]) w.root }
    | .ok (_, .file _) => .error .notDirectory
    | .error fault => .error fault
  | .error fault => .error fault

end Workspace

end Registrar
