import Registrar.Command.Run
import Registrar.Http.Exchange
import Std.Async.DNS
import Std.Async.TCP
import Std.Async.Timer

/-!
# The program

What the commands need of the world: files are looked at before a command runs, documents are posted
over connections, and the tasks of a round run side by side until its deadline.

## Contents

- `Program.snapshot`, files as data;
- `Program.exchange`, one document posted;
- `Program.perform`, a session with real calls, and `Program.approve`, a round;
- `main`.
-/

namespace Registrar.Program

/-! ## Files -/

/-- The way from the root that a path leads, when `current` is where relative paths start. -/
def place (current : List String) (path : String) : List String :=
  let start := if path.toList.head? = some '/' then [] else current
  ((Path.parts path.toList).map String.ofList).foldl (fun here part =>
    if part = "" ∨ part = "." then here
    else if part = ".." then here.dropLast
    else here ++ [part]) start

/-- What lies at a path; of a directory, the files directly in it. What cannot be read counts as
absent. -/
def look (path : String) : IO (Option FileTree) := do
  let here := (← IO.currentDir) / path
  try
    if ← here.isDir then
      let mut entries : List (String × FileTree) := []
      for entry in ← here.readDir do
        try
          let found ←
            if ← entry.path.isDir then pure (FileTree.directory [])
            else pure (.file (← IO.FS.readBinFile entry.path).toList)
          entries := (entry.fileName, found) :: entries
        catch _ => pure ()
      return some (.directory entries)
    else return some (.file (← IO.FS.readBinFile here).toList)
  catch _ => return none

/-- The files at some paths. Directories come before what lies in them. -/
def snapshot (paths : List String) : IO Workspace := do
  let current := place [] (← IO.currentDir).toString
  let mut found : List (List String × FileTree) := [(current, .directory [])]
  for path in paths do
    if let some t ← look path then found := found ++ [(place current path, t)]
  let inOrder := found.mergeSort fun a b => a.1.length ≤ b.1.length
  return ⟨inOrder.foldl (fun root (place, t) => FileTree.put t place root) (.directory []), current⟩

/-- The paths of the files that settings may come from. -/
def settingsPaths (current : List String) (path : Option String) : List String :=
  let path := path.getD Settings.defaultFile
  [path, path ++ String.ofList Settings.fileEnding]
    ++ (List.range (current.length + 1)).map fun above =>
      String.join (List.replicate above "../") ++ ".env"

/-- The paths of the files that a command with settings may read. -/
def commandPaths (s : Settings) : Command → List String
  | .verifyKeystores =>
    [s.keystores.directory, s.keystores.sidecarDirectory] ++ s.keystores.passwordFile.toList
  | .depositData _ => [s.vault.depositDataFile]
  | .requestApprovals request oracles => [request, oracles]

/-- The variables of the environment. -/
def surroundingVariables : IO Environment.Variables := do
  let found ← (IO.FS.readBinFile "/proc/self/environ").toBaseIO
  let bytes := match found with
    | .ok bytes => bytes.toList
    | .error _ => []
  let entries := bytes.foldr (fun b (es : List Bytes) =>
    match es with
    | [] => if b = 0 then [] else [[b]]
    | e :: rest => if b = 0 then [] :: e :: rest else (b :: e) :: rest) [[]]
  return entries.filterMap fun bs =>
    match (Text.Utf8.read? bs).map String.toList with
    | some cs =>
      let text := (cs.dropWhile (· ≠ '=')).drop 1
      if cs.contains '=' then
        some (String.ofList (cs.takeWhile (· ≠ '=')), String.ofList text)
      else none
    | none => none

/-! ## Connections -/

/-- Waits for something, up to a time in milliseconds; fails after it. -/
def before {α : Type} (deadline : Nat) (action : Std.Async.Async α) : IO α := do
  let left := deadline - (← IO.monoMsNow)
  if left = 0 then throw (IO.userError "too late")
  let late : Std.Async.Async (Option α) := do
    Std.Async.sleep (.ofNat left)
    return none
  match ← (Std.Async.Async.race (action.map some) late).block with
  | some a => return a
  | none => throw (IO.userError "too late")

/-- Posts a document and waits for the reply. Fails at the deadline only. -/
def exchange (deadline : Nat) (endpoint : String) (document : Bytes) : IO Reply := do
  match Http.Destination.ofEndpoint? endpoint with
  | none => return Reply.through (fun _ => .noAnswer) endpoint
  | some d =>
    let post : Std.Async.Async Reply := do
      try
        let addresses ← Std.Async.DNS.getAddrInfo d.host.text (toString d.port)
        match addresses[0]? with
        | none => return .noAnswer
        | some address =>
          let port := UInt16.ofNat d.port
          let client ← Std.Async.TCP.Socket.Client.mk
          client.connect (match address with
            | .v4 a => .v4 ⟨a, port⟩
            | .v6 a => .v6 ⟨a, port⟩)
          client.send ⟨(Http.posting d document).toArray⟩
          let mut received : Bytes := []
          repeat
            let more ← try client.recv? 65536 catch _ => pure none
            received := received ++ (more.map ByteArray.toList).getD []
            if let some reply := Http.replyOf? received more.isNone then return reply
          return .noAnswer
      catch _ => return .noAnswer
    before deadline post

/-! ## Rounds -/

/-- Plays a session with real calls, until it is done. Fails at the deadline only. -/
def perform {α : Type} (reader : Registry.Reader) (delay deadline : Nat) :
    Approval.Session α → IO α
  | .done result => return result
  | .post endpoint payload next => do
    let reply ← exchange deadline endpoint payload
    perform reader delay deadline (next reply)
  | .readRoot next => do
    let reply ← exchange deadline reader.endpoint reader.rootQuery.payload
    let answer := reader.root fun _ => Registry.Node.resultOfReply? reply
    perform reader delay deadline (next (answer.mapError (·.message)))
  | .readIndex next => do
    let reply ← exchange deadline reader.endpoint reader.eventsQuery.payload
    let answer := reader.nextIndex fun _ => Registry.Node.resultOfReply? reply
    perform reader delay deadline (next (answer.mapError (·.message)))
  | .pause next => do
    if 0 < delay then before deadline (Std.Async.sleep (.ofNat delay))
    perform reader delay deadline next

/-- The number of random bytes for a round. -/
def randomSize : Nat := 65536

/-- Asks all oracles at once. A task that is not done at the deadline stays as it was. -/
def approve (p : Command.Prepared) : IO (Except Command.Fault String) := do
  let random ← IO.getRandomBytes (.ofNat randomSize)
  let tape : Tape := ⟨fun i => random[i]?.getD 0, 0, random.size⟩
  match Approval.plans? (p.set.members.map (·.2)) tape with
  | none => return .error .noRandomness
  | some (plans, _) =>
    let deadline := (← IO.monoMsNow) + p.client.timeout
    let sessions := plans.map (Approval.walk p.client.retry p.request)
    let tasks ← sessions.mapM fun session =>
      IO.asTask (perform p.reader p.client.retry.delay.toNat deadline session) .dedicated
    let left ← (sessions.zip tasks).mapM fun (session, task) => do
      match ← IO.wait task with
      | .ok outcome => return .done outcome
      | .error _ => return session
    return Command.conclude
      ((Approval.Report.ofTasks p.set.members left).combine p.set.threshold.toNat)

/-! ## Commands -/

/-- Says why a command failed. -/
def fail (fault : Command.Fault) : IO UInt32 := do
  IO.eprintln ("Error: " ++ fault.message)
  return 1

/-- Prints a text, or says why there is none. -/
def say (found : Except Command.Fault String) : IO UInt32 := do
  match found with
  | .ok printed =>
    IO.print printed
    return 0
  | .error fault => fail fault

/-- Runs a command with settings. -/
def run (s : Settings) (command : Command) : IO UInt32 := do
  let files ← snapshot (commandPaths s command)
  match command with
  | .verifyKeystores =>
    say (Command.listKeys (Curve.Point Curve.Fp2) files s fun _ => 0)
  | .depositData path =>
    match Command.summarize files s, path with
    | .error fault, _ => fail fault
    | .ok (printed, _), none => say (.ok printed)
    | .ok (printed, dump), some path =>
      IO.print printed
      match ← (IO.FS.writeFile path dump).toBaseIO with
      | .ok _ => return 0
      | .error _ => fail (.noDump path)
  | .requestApprovals request oracles =>
    match Command.prepare files s request oracles with
    | .error fault => fail fault
    | .ok p => say (← approve p)

end Registrar.Program

open Registrar in
/-- Reads the arguments and does what they ask for. -/
def main (args : List String) : IO UInt32 := do
  match CommandLine.ofArguments args with
  | .say text =>
    IO.print text
    return 0
  | .refused =>
    IO.eprint Help.general
    return 2
  | .run settingsFile command =>
    let current := Program.place [] (← IO.currentDir).toString
    let files ← Program.snapshot (Program.settingsPaths current settingsFile)
    match Command.settings files (← Program.surroundingVariables) 1 settingsFile with
    | .error fault => Program.fail fault
    | .ok s => Program.run s command
