import Registrar.Command.Help

/-!
# Command lines

What the arguments of the program ask for: a command with its options, a text about the program, or
nothing that can be done.

## Contents

- `Command` and `CommandLine`;
- `CommandLine.value?`, the value of an option, and `CommandLine.ofArguments`.
-/

namespace Registrar

/-- What the program can do. -/
inductive Command where
  | verifyKeystores
  | depositData (dump : Option String)
  | requestApprovals (request oracles : String)
deriving DecidableEq

/-- What arguments ask for. -/
inductive CommandLine where
  | run (settingsFile : Option String) (command : Command)
  | say (text : String)
  | refused
deriving DecidableEq

namespace CommandLine

/-! ## Options -/

/-- One argument after the dashes: the name of an option, and the value that stands after an equals
sign. -/
def splitOption (cs : List Char) : String × Option String :=
  let name := String.ofList (cs.takeWhile (· ≠ '='))
  match cs.dropWhile (· ≠ '=') with
  | [] => (name, none)
  | _ :: value => (name, some (String.ofList value))

/-- Whether an argument can be a value: it is not empty, and it does not look like an option. -/
def isValue (s : String) : Bool :=
  match s.toList with
  | [] => false
  | ['-'] => true
  | '-' :: _ => false
  | _ => true

/-- The value of an option and the arguments after it: it is attached to the option or comes
next. -/
def value? (attached : Option String) (rest : List String) : Option (String × List String) :=
  match attached, rest with
  | some value, rest => if value = "" then none else some (value, rest)
  | none, value :: rest => if isValue value then some (value, rest) else none
  | none, [] => none

/-! ## Options of commands -/

/-- The options of a command that is asked for, in any order: each may be given once. `names` are
the options with a value; `help` is said when it is asked for. -/
def options (help : String) (names : List String) (finish : List (String × String) → CommandLine) :
    (fuel : Nat) → (found : List (String × String)) → List String → CommandLine
  | _, found, [] => finish found
  | 0, _, _ :: _ => .refused
  | fuel + 1, found, arg :: rest =>
    match arg.toList with
    | '-' :: '-' :: cs =>
      let (name, attached) := splitOption cs
      if name = "help" ∧ attached = none then .say help
      else if names.contains name ∧ !found.any (·.1 = name) then
        match value? attached rest with
        | some (value, rest) => options help names finish fuel (found ++ [(name, value)]) rest
        | none => .refused
      else .refused
    | '-' :: 'h' :: _ => .say help
    | _ => .refused

/-- The value of an option that was given. -/
def given? (name : String) (found : List (String × String)) : Option String :=
  (found.find? (·.1 = name)).map (·.2)

/-- A command with its arguments. -/
def ofCommand (settingsFile : Option String) (name : String) (rest : List String) : CommandLine :=
  let fuel := rest.length
  match name with
  | "verify-keystores" =>
    options Help.verifyKeystores [] (fun _ => .run settingsFile .verifyKeystores) fuel [] rest
  | "deposit-data" =>
    options Help.depositData ["dump"]
      (fun found => .run settingsFile (.depositData (given? "dump" found))) fuel [] rest
  | "request-approvals" =>
    options Help.requestApprovals ["request", "oracles"]
      (fun found =>
        match given? "request" found, given? "oracles" found with
        | some request, some oracles => .run settingsFile (.requestApprovals request oracles)
        | _, _ => .refused) fuel [] rest
  | "help" =>
    match rest with
    | [] => .say Help.general
    | ["verify-keystores"] => .say Help.verifyKeystores
    | ["deposit-data"] => .say Help.depositData
    | ["request-approvals"] => .say Help.requestApprovals
    | _ => .refused
  | _ => .refused

/-! ## Options of the program -/

/-- The value attached to a short option; an equals sign does not count. -/
def attached? : List Char → Option String
  | [] => none
  | '=' :: cs => some (String.ofList cs)
  | cs => some (String.ofList cs)

/-- Reads arguments up to the command. -/
def ofArgumentsFrom : (fuel : Nat) → (settingsFile : Option String) → List String → CommandLine
  | _, _, [] => .refused
  | 0, _, _ :: _ => .refused
  | fuel + 1, settingsFile, arg :: rest =>
    let withFile (attached : Option String) : CommandLine :=
      if settingsFile.isSome then .refused
      else match value? attached rest with
        | some (value, rest) => ofArgumentsFrom fuel (some value) rest
        | none => .refused
    match arg.toList with
    | '-' :: '-' :: cs =>
      match splitOption cs with
      | ("config", attached) => withFile attached
      | ("help", none) => .say Help.general
      | ("version", none) => .say Help.version
      | _ => .refused
    | '-' :: 'c' :: cs => withFile (attached? cs)
    | '-' :: 'h' :: _ => .say Help.general
    | '-' :: 'V' :: _ => .say Help.version
    | '-' :: _ => .refused
    | _ => ofCommand settingsFile arg rest

/-- What arguments ask for. -/
def ofArguments (args : List String) : CommandLine := ofArgumentsFrom args.length none args

end CommandLine

end Registrar
