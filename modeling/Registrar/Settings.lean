import Registrar.Approval.Walk
import Registrar.FileTree
import Registrar.Keystore.Directory
import Registrar.Settings.Environment
import Registrar.Toml.Document
import Registrar.Url

/-!
# Settings

Where keystores, deposit data, the node and the registry are, and how rounds are run. Settings come
from a file and from the environment, which comes second and wins; most of them have a default.

## Contents

- `Settings` with its parts, and `SettingsFault`;
- `Settings.ofDatum?`, which reads loose data;
- `Settings.check`, which refuses limits of zero and an endpoint that is no locator;
- `Settings.load`, which reads file and environment.
-/

namespace Registrar

/-- The vault whose validators are registered, and the file with their deposit data. -/
structure VaultSettings where
  address : Address
  depositDataFile : String
  depositAmount : UInt64
deriving DecidableEq

/-- The node, the registry, and the first block with deposits. -/
structure ExecutionSettings where
  endpoint : String
  registry : Address
  fromBlock : UInt64
deriving DecidableEq

/-- How rounds are run: seconds for a whole round, milliseconds before a replica is tried again, and
how often it is tried. -/
structure OracleSettings where
  timeout : UInt64
  retryDelay : UInt64
  maxAttempts : UInt32
deriving DecidableEq

/-- How often replicas are tried. -/
def OracleSettings.retryPolicy (s : OracleSettings) : Approval.RetryPolicy :=
  .ofLimits s.maxAttempts s.retryDelay

/-- The milliseconds that a round may take. -/
def OracleSettings.timeoutMillis (s : OracleSettings) : Nat := 1000 * s.timeout.toNat

/-- All settings. -/
structure Settings where
  keystores : Keystore.Source
  vault : VaultSettings
  execution : ExecutionSettings
  oracles : OracleSettings
  logLevel : String
deriving DecidableEq

/-- Why there are no settings. -/
inductive SettingsFault where
  /-- There is no file at the given path. -/
  | noFile (path : String)
  /-- The file is no document. -/
  | badFile (path : String)
  /-- A setting without a default is not given. -/
  | missing (setting : String)
  /-- A setting is given as something else. -/
  | badSetting (setting : String)
  /-- A limit of zero. -/
  | zero (setting : String)
  /-- The endpoint of the node is no locator. -/
  | badEndpoint (endpoint : String) (fault : Url.Fault)
deriving DecidableEq

namespace SettingsFault

/-- Whether settings were read, but are refused. -/
def isRefusal : SettingsFault → Bool
  | .zero _ | .badEndpoint _ _ => true
  | _ => false

/-- The wording of a fault. -/
def message : SettingsFault → String
  | .noFile path => "Failed to load configuration: configuration file \"" ++ path ++ "\" not found"
  | .badFile path => "Failed to load configuration: invalid configuration file " ++ path
  | .missing setting =>
    "Failed to load configuration: missing configuration field \"" ++ setting ++ "\""
  | .badSetting setting => "Failed to load configuration: invalid type for key `" ++ setting ++ "`"
  | .zero setting => "Invalid configuration: " ++ setting ++ " must be greater than zero"
  | .badEndpoint endpoint fault =>
    "Invalid configuration: execution.endpoint is not a valid URL (" ++ endpoint ++ "): "
      ++ fault.message

end SettingsFault

namespace Settings

/-! ## Defaults -/

/-- The amount of a deposit, in billionths of a coin. -/
def defaultAmount : UInt64 := 32000000000

/-- How rounds are run unless settings say otherwise. -/
def defaultOracles : OracleSettings := ⟨10, 1000, 3⟩

/-- What is logged unless settings say otherwise. -/
def defaultLogLevel : String := "info"

/-- The file that is read if no other one is named. -/
def defaultFile : String := "config.toml"

/-! ## Reading -/

/-- A part of a section; `none` if it is not given. -/
def part (sectionName name : String) (position : Nat) (d : Datum) :
    Except SettingsFault (Option Datum) :=
  match d.part? name position with
  | some found => .ok found
  | none => .error (.badSetting sectionName)

variable {α : Type}

/-- A setting that must be given. -/
def required (sectionName name : String) (position : Nat) (read : Datum → Option α) (d : Datum) :
    Except SettingsFault α :=
  match part sectionName name position d with
  | .error fault => .error fault
  | .ok none => .error (.missing (sectionName ++ "." ++ name))
  | .ok (some v) =>
    match read v with
    | some a => .ok a
    | none => .error (.badSetting (sectionName ++ "." ++ name))

/-- A setting that may be left out. -/
def withDefault (sectionName name : String) (position : Nat) (blank : α) (read : Datum → Option α)
    (d : Datum) : Except SettingsFault α :=
  match part sectionName name position d with
  | .error fault => .error fault
  | .ok none => .ok blank
  | .ok (some v) =>
    match read v with
    | some a => .ok a
    | none => .error (.badSetting (sectionName ++ "." ++ name))

/-- A text, or nothing where nothing is given. -/
def optionalText? : Datum → Option (Option String)
  | .absent => some none
  | d => d.text?.map some

/-- A number of 64 bits. -/
def word64? (d : Datum) : Option UInt64 := d.number?.map UInt64.ofNat

/-- A number of 32 bits; of a greater one the low bits count. -/
def word32? (d : Datum) : Option UInt32 := d.number?.map UInt32.ofNat

/-- Where keystores lie; `cores` are opened at a time by default. -/
def readKeystores (cores : Nat) (d : Datum) : Except SettingsFault Keystore.Source := do
  return {
    directory := ← required "keystores" "keystores_dir" 0 Datum.text? d
    passwordDirectory := ← withDefault "keystores" "password_dir" 1 none optionalText? d
    passwordFile := ← withDefault "keystores" "password_file" 2 none optionalText? d
    poolSize := ← withDefault "keystores" "pool_size" 3 cores Datum.number? d }

/-- The settings of the vault. -/
def readVault (d : Datum) : Except SettingsFault VaultSettings := do
  return {
    address := ← required "vault" "address" 0 Datum.address? d
    depositDataFile := ← required "vault" "deposit_data_file" 1 Datum.text? d
    depositAmount := ← withDefault "vault" "deposit_amount_gwei" 2 defaultAmount word64? d }

/-- The settings of the node. -/
def readExecution (d : Datum) : Except SettingsFault ExecutionSettings := do
  return {
    endpoint := ← required "execution" "endpoint" 0 Datum.text? d
    registry := ← required "execution" "validators_registry" 1 Datum.address? d
    fromBlock := ← withDefault "execution" "deposits_from_block" 2 0 word64? d }

/-- The settings of rounds. -/
def readOracles (d : Datum) : Except SettingsFault OracleSettings := do
  return {
    timeout := ← withDefault "oracles" "timeout_secs" 0 defaultOracles.timeout word64? d
    retryDelay := ← withDefault "oracles" "retry_delay_ms" 1 defaultOracles.retryDelay word64? d
    maxAttempts := ← withDefault "oracles" "max_attempts" 2 defaultOracles.maxAttempts word32? d }

/-- A section that must be given. -/
def requiredSection (name : String) (read : Datum → Except SettingsFault α) (d : Datum) :
    Except SettingsFault α :=
  match Datum.member? name d.entries with
  | some v => read v
  | none => .error (.missing name)

/-- A section that may be left out. -/
def optionalSection (name : String) (blank : α) (read : Datum → Except SettingsFault α)
    (d : Datum) : Except SettingsFault α :=
  match Datum.member? name d.entries with
  | some v => read v
  | none => .ok blank

/-- The settings in loose data. -/
def ofDatum? (cores : Nat) (d : Datum) : Except SettingsFault Settings := do
  return {
    keystores := ← requiredSection "keystores" (readKeystores cores) d
    vault := ← requiredSection "vault" readVault d
    execution := ← requiredSection "execution" readExecution d
    oracles := ← optionalSection "oracles" defaultOracles readOracles d
    logLevel := ← optionalSection "logging" defaultLogLevel
      (withDefault "logging" "level" 0 defaultLogLevel Datum.text?) d }

/-! ## Checks -/

/-- Refuses settings with which nothing could be done. -/
def check (s : Settings) : Except SettingsFault Unit :=
  if s.keystores.poolSize = 0 then .error (.zero "keystores.pool_size")
  else if s.oracles.maxAttempts = 0 then .error (.zero "oracles.max_attempts")
  else if s.oracles.timeout = 0 then .error (.zero "oracles.timeout_secs")
  else
    match Url.read s.execution.endpoint with
    | .ok _ => .ok ()
    | .error fault => .error (.badEndpoint s.execution.endpoint fault)

/-! ## Files -/

/-- The ending of the name of a settings file. -/
def fileEnding : List Char := ".toml".toList

/-- The file that a path names: the one there, or the one with the ending added. -/
def filePath? (files : Workspace) (path : String) : Option String :=
  if files.isFile path then some path
  else
    let longer := path ++ String.ofList fileEnding
    if files.isFile longer then some longer else none

/-- Whether a path names a settings file: more than the ending. -/
def isSettingsPath (path : String) : Bool :=
  let name := (Path.fileName path).toList
  fileEnding.isSuffixOf name && name ≠ fileEnding

/-- The data in a file. -/
def readFile (files : Workspace) (path : String) : Except SettingsFault Datum :=
  match files.read path with
  | .error _ => .error (.noFile path)
  | .ok content =>
    if isSettingsPath path then
      match Toml.read? (Text.Utf8.readLossy content) with
      | none => .error (.badFile path)
      | some es =>
        .ok (es.foldl (fun d (key, v) => Datum.put key.toList (.ofToml v) d) (.section []))
    else .error (.badFile path)

/-- The data of the settings file: the one that is named, which must be there, or else the default
one. -/
def readSource (files : Workspace) (path : Option String) : Except SettingsFault Datum :=
  match filePath? files (path.getD defaultFile) with
  | some found => readFile files found
  | none =>
    match path with
    | some path => .error (.noFile path)
    | none => .ok (.section [])

/-- The settings of a file, overlaid with those of the environment. -/
def load (files : Workspace) (vars : Environment.Variables) (cores : Nat)
    (path : Option String) : Except SettingsFault Settings :=
  match readSource files path with
  | .error fault => .error fault
  | .ok d =>
    match ofDatum? cores (Environment.overlay vars d) with
    | .error fault => .error fault
    | .ok s => s.check.map fun () => s

end Settings

end Registrar
