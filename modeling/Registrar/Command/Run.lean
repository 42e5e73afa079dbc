import Registrar.Approval.Consensus
import Registrar.Command.Line
import Registrar.Deposit.Roster
import Registrar.Keystore.Loading
import Registrar.Merkle.Dump
import Registrar.Registry.Reader
import Registrar.Settings
import Registrar.Settings.VariableFile

/-!
# Running commands

What each command prints, and what it says if it fails. The surroundings of the program are data:
files, variables, the network and random bytes.

## Contents

- `Command.Fault` and `Command.Output`;
- `Command.listKeys`, `Command.summarize` and `Command.writeDump`, the local commands;
- `Prepared`, a round that can be run, with `Command.prepare`, `Command.servicesOf` and
  `Command.conclude`;
- `Surroundings`, `Command.settings`, `Command.run` and `Command.execute`.
-/

namespace Registrar.Command

/-- Why a command fails. -/
inductive Fault where
  | settings (fault : SettingsFault)
  | load (fault : Keystore.LoadFault)
  | roster (fault : Deposit.RosterFault)
  | noDump (path : String)
  | unreadable (path : String)
  | unparsable (path : String)
  | oracleSet (fault : OracleSetFault)
  | registry (fault : Registry.Fault)
  | consensus (fault : Approval.ConsensusFault)
  | noRandomness
deriving DecidableEq

/-- The wording of a fault. -/
def Fault.message : Fault → String
  | .settings fault => fault.message
  | .load fault => fault.message
  | .roster fault => fault.message
  | .noDump path => "Failed to write tree dump to " ++ path
  | .unreadable path => "Failed to read " ++ path
  | .unparsable path => "Failed to parse " ++ path
  | .oracleSet fault => fault.message
  | .registry fault => fault.message
  | .consensus fault => fault.message
  | .noRandomness => "Failed to draw random bytes"

/-! ## Local commands -/

/-- Opens all containers and lists their keys. -/
def listKeys (G : Type) [SignatureScheme G] (files : Workspace) (s : Settings)
    (schedule : Keystore.Schedule) : Except Fault String :=
  match Keystore.load G files s.keystores schedule with
  | .error fault => .error (.load fault)
  | .ok ring =>
    .ok ("Loaded " ++ toString ring.size ++ " keystores\n"
      ++ String.join (ring.publicKeys.map (· ++ "\n")))

/-- Builds the roster. Also the text of the dump of its tree. -/
def summarize (files : Workspace) (s : Settings) : Except Fault (String × String) :=
  match Deposit.Roster.load files s.vault.address s.vault.depositDataFile s.vault.depositAmount with
  | .error fault => .error (.roster fault)
  | .ok roster =>
    .ok ("Validators: " ++ toString roster.validators.length ++ "\nRoot: "
      ++ Hex.ofOctets roster.root ++ "\n", roster.tree.dump.toValue.prettyText)

/-- Writes a dump to a file. -/
def writeDump (files : Workspace) (path dump : String) : Except Fault Workspace :=
  match files.write path (Text.Utf8.write dump) with
  | .ok files => .ok files
  | .error _ => .error (.noDump path)

/-! ## Approvals -/

/-- A round that can be run. -/
structure Prepared where
  request : Approval.Request
  set : OracleSet
  reader : Registry.Reader
  client : Approval.Client

/-- Reads data from a file. -/
def readData {α : Type} (files : Workspace) (format : Json.Format α) (path : String) :
    Except Fault α :=
  match files.readText path with
  | .error _ => .error (.unreadable path)
  | .ok text =>
    match format.ofText text with
    | .error _ => .error (.unparsable path)
    | .ok a => .ok a

/-- Reads a request and a set of oracles, and checks them. -/
def prepare (files : Workspace) (s : Settings) (request oracles : String) :
    Except Fault Prepared := do
  let request ← readData files Approval.Request.format request
  let set ← readData files OracleSet.format oracles
  (set.check).mapError .oracleSet
  let reader ← (Registry.Reader.ofEndpoint? s.execution.endpoint s.execution.registry
    s.execution.fromBlock).mapError .registry
  return {
    request, set, reader
    client := ⟨s.oracles.retryPolicy, s.oracles.timeoutMillis⟩ }

/-- The services of a network with replicas and a node. -/
def servicesOf (reader : Registry.Reader) (network : String → Bytes → Reply) :
    Approval.Services Unit where
  reply _ endpoint payload w := (.through (fun e => network e payload) endpoint, w)
  root w := ((reader.root (.ofNetwork network reader.endpoint)).mapError (·.message), w)
  index w := ((reader.nextIndex (.ofNetwork network reader.endpoint)).mapError (·.message), w)

/-- What is printed after a round. -/
def conclude (found : Except Approval.ConsensusFault CombinedApproval) : Except Fault String :=
  match found with
  | .ok a => .ok (a.toValue.prettyText ++ "\n")
  | .error fault => .error (.consensus fault)

/-! ## The program -/

/-- What surrounds the program. -/
structure Surroundings where
  files : Workspace
  vars : Environment.Variables
  cores : Nat
  schedule : Keystore.Schedule
  tape : Tape
  network : String → Bytes → Reply

/-- What the program leaves behind: its exit code, what it printed, why it failed, and the files. -/
structure Output where
  exit : Nat
  printed : String
  fault : Option Fault
  files : Workspace

/-- Runs a command with settings. -/
def run (G : Type) [SignatureScheme G] (around : Surroundings) (s : Settings) (command : Command) :
    Output :=
  let failed (printed : String) (fault : Fault) : Output := ⟨1, printed, some fault, around.files⟩
  let done (printed : String) (files : Workspace) : Output := ⟨0, printed, none, files⟩
  match command with
  | .verifyKeystores =>
    match listKeys G around.files s around.schedule with
    | .ok printed => done printed around.files
    | .error fault => failed "" fault
  | .depositData path =>
    match summarize around.files s, path with
    | .error fault, _ => failed "" fault
    | .ok (printed, _), none => done printed around.files
    | .ok (printed, dump), some path =>
      match writeDump around.files path dump with
      | .ok files => done printed files
      | .error fault => failed printed fault
  | .requestApprovals request oracles =>
    match prepare around.files s request oracles with
    | .error fault => failed "" fault
    | .ok p =>
      let services := servicesOf p.reader around.network
      match p.client.requestApprovals? services p.set p.request around.tape () with
      | none => failed "" .noRandomness
      | some (found, _, _) =>
        match conclude found with
        | .ok printed => done printed around.files
        | .error fault => failed "" fault

/-- The settings of the program. -/
def settings (files : Workspace) (vars : Environment.Variables) (cores : Nat)
    (path : Option String) : Except Fault Settings :=
  (Settings.load files (VariableFile.extend files vars) cores path).mapError .settings

/-- The whole program. Arguments that cannot be understood give the exit code 2. -/
def execute (G : Type) [SignatureScheme G] (around : Surroundings) (args : List String) : Output :=
  match CommandLine.ofArguments args with
  | .refused => ⟨2, "", none, around.files⟩
  | .say text => ⟨0, text, none, around.files⟩
  | .run settingsFile command =>
    match settings around.files around.vars around.cores settingsFile with
    | .error fault => ⟨1, "", some fault, around.files⟩
    | .ok s => run G around s command

end Registrar.Command
