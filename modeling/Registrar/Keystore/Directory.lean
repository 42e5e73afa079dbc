import Registrar.FileTree
import Registrar.Keystore.Container
import Registrar.Text.Blank

/-!
# Containers in a directory

Which files of a directory are containers, and with which password each of them is opened: the one
in the text file of the same name if there is one, else the one in a common password file, which is
read once.

## Contents

- `Source`, where containers and passwords lie;
- `nextPassword` and `resolveFrom`, the passwords one after the other;
- `lockedFiles`, the containers in order of their names, each with its password.
-/

namespace Registrar.Keystore

/-- Where containers and passwords lie, and how many containers are opened at a time. -/
structure Source where
  directory : String
  passwordDirectory : Option String
  passwordFile : Option String
  poolSize : Nat
deriving DecidableEq

/-- Where the text files with single passwords lie. -/
def Source.sidecarDirectory (s : Source) : String := s.passwordDirectory.getD s.directory

/-- A container file with its password. -/
structure LockedFile where
  name : String
  path : String
  password : String
deriving DecidableEq

/-- Why a container cannot be found or opened. -/
inductive KeyFault where
  | badContainer (name : String) (fault : FormatFault)
  | wrongPassword (name : String)
  | badSecret (name : String)
  | noPassword (name : String)
  | unreadable (path : String) (fault : FileFault)
deriving DecidableEq

/-- The wording of a fault. -/
def KeyFault.message : KeyFault → String
  | .badContainer name fault => "Invalid keystore format in " ++ name ++ ": " ++ fault.message
  | .wrongPassword name => "Invalid password for keystore " ++ name
  | .badSecret name => "Keystore " ++ name ++ " does not hold a valid BLS secret key"
  | .noPassword name => "No password found for keystore " ++ name
  | .unreadable path fault => "Failed to read " ++ path ++ ": " ++ fault.message

/-! ## Names -/

/-- The end of the name of a container. -/
def nameEnd : List Char := ".json".toList

/-- Whether a name is that of a container. -/
def isContainerName (name : String) : Bool :=
  "keystore".toList.isPrefixOf name.toList && nameEnd.isSuffixOf name.toList

/-- The name of the text file with the password of a container. -/
def sidecarName (name : String) : String :=
  String.ofList (name.toList.take (name.toList.length - nameEnd.length)) ++ ".txt"

/-- The names of the containers among the entries of a directory, in ascending order. -/
def containerNames (files : Workspace) (directory : String) (entries : List String) :
    List String :=
  (entries.filter fun name =>
    isContainerName name && files.isFile (Path.join directory name)).mergeSort
      fun a b => decide (a ≤ b)

/-! ## Passwords -/

/-- The password in a file: its text without the blanks at its ends. -/
def readPassword (files : Workspace) (path : String) : Except KeyFault String :=
  match files.readText path with
  | .ok text => .ok (Text.trim text)
  | .error fault => .error (.unreadable path fault)

/-- The password of a container, and the common password if it is known then. The common one is read
for the first container without a text file of its own. -/
def nextPassword (files : Workspace) (s : Source) (known : Option String) (name : String) :
    Except KeyFault (String × Option String) :=
  let sidecar := Path.join s.sidecarDirectory (sidecarName name)
  if files.isFile sidecar then
    match readPassword files sidecar with
    | .ok password => .ok (password, known)
    | .error fault => .error fault
  else match s.passwordFile with
    | none => .error (.noPassword name)
    | some path =>
      match known with
      | some password => .ok (password, known)
      | none =>
        match readPassword files path with
        | .ok password => .ok (password, some password)
        | .error fault => .error fault

/-- The containers of the given names in a directory, up to the first without a password. Each password
is found with what is known after the one before. -/
def resolveFrom (directory : String)
    (password : Option String → String → Except KeyFault (String × Option String))
    (known : Option String) : List String → Except KeyFault (List LockedFile)
  | [] => .ok []
  | name :: rest =>
    match password known name with
    | .error fault => .error fault
    | .ok (found, known) =>
      match resolveFrom directory password known rest with
      | .error fault => .error fault
      | .ok others => .ok (⟨name, Path.join directory name, found⟩ :: others)

/-- The containers of a directory with their passwords. -/
def lockedFiles (files : Workspace) (s : Source) : Except KeyFault (List LockedFile) :=
  match files.list s.directory with
  | .error fault => .error (.unreadable s.directory fault)
  | .ok entries =>
    resolveFrom s.directory (nextPassword files s) none (containerNames files s.directory entries)

end Registrar.Keystore
