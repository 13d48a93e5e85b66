import SpendLedger.Calendar.Clock
import SpendLedger.Command.Run
import SpendLedger.Form.Store
import SpendLedger.Journal.Filter
import SpendLedger.Json.Reader
import Std.Time.DateTime.Timestamp

/-!
# The program

Reads the home directory, the environment and the clock, runs the command line on them, and writes back what has changed.
The program has no way to a provider of its own: every exchange goes unanswered.
-/

namespace SpendLedger

namespace Program

/-- The variables that commands look at. -/
def variableNames : List String :=
  [Provider.azure, .aws, .gcp].flatMap (fun p => [p.accountVariable, p.credentialVariable]) ++
    ["AWS_ACCESS_KEY_ID", "AWS_SECRET_ACCESS_KEY", "AWS_SESSION_TOKEN"]

/-- The environment. -/
def environment : IO (Table String) := do
  let entries ← variableNames.filterMapM fun name => do
    return (← IO.getEnv name).map fun value => (name, value)
  return Table.ofList entries

/-- The clock. -/
def clock : IO Instant := do
  let now ← Std.Time.Timestamp.now
  return (Instant.ofSeconds? now.toSecondsSinceUnixEpoch.val).getD ⟨Date.min, 0, 0, 0⟩

/-- The text of a file, if there is one. -/
def fileText? (path : String) : IO (Option String) :=
  try
    return some (← IO.FS.readFile path)
  catch _ =>
    return none

/-- The directory above a path. -/
def directoryOf (path : String) : String :=
  String.ofList ((path.toList.reverse.dropWhile (· != '/')).drop 1).reverse

/-- Writes a file, with the directory it is in. -/
def writeText (path text : String) : IO Unit := do
  let directory := directoryOf path
  if directory ≠ "" then IO.FS.createDirAll directory
  IO.FS.writeFile path text

/-- The home directory: the one that is named, or the place for the data of programs, or else one where the program was
started. -/
def homePath : IO String := do
  if let some path ← IO.getEnv "CLOUDSPEND_HOME" then return path
  let place ← match ← IO.getEnv "XDG_DATA_HOME" with
    | some path => pure (some path)
    | none => do pure ((← IO.getEnv "HOME").map (· ++ "/.local/share"))
  let beside : IO String := do return (← IO.currentDir).toString ++ "/.cloudspend"
  match place with
  | none => beside
  | some place =>
    try
      let path := place ++ "/cloudspend"
      IO.FS.createDirAll path
      return path
    catch _ => beside

/-- The path of the configuration's file. -/
def configPath (home : String) : String := home ++ "/config/config.toml"

/-- The store at a path, if there is one. -/
def storeAt (path : String) : IO (Table (Store Float)) := do
  match ← fileText? path with
  | none => return Table.empty
  | some text =>
    match (Json.readWhole? text).bind Store.ofTree? with
    | some store => return Table.empty.insert path store
    | none => throw (IO.userError (path ++ " holds no store"))

/-- What is in the home directory, with the store that its configuration names. -/
def readHome : IO Home := do
  let path ← homePath
  let config ← fileText? (configPath path)
  let home : Home := { path, config, freeTier := none, stores := Table.empty }
  let freeTier ← fileText? home.freeTierPath
  let storePath := match Config.load config with
    | .ok (c, _) => home.storePath c
    | .error _ => home.usualStorePath
  return { home with freeTier, stores := ← storeAt storePath }

/-- Writes the home directory, as far as it has changed. -/
def writeHome (before after : Home) : IO Unit := do
  if after.config ≠ before.config then
    if let some text := after.config then writeText (configPath after.path) text
  for (path, store) in after.stores.entries do
    if before.stores.get? path ≠ some store then writeText path (Json.compact store.toTree)

/-- Runs a command line: prints what it answers and tells what happened. -/
def run (words : List String) : IO UInt32 := do
  let home ← readHome
  let session : Session :=
    { home, clock := ← clock, environment := ← environment, keyStore := .detached
      network := { up := false, replies := [], contacts := [] }, journal := [] }
  let (ending, after) := Command.runLine words session
  writeHome home after.home
  let rules := Filter.ofDirective (← IO.getEnv "CLOUDSPEND_LOG")
  for event in after.journal.filter (Filter.shows rules) do
    IO.eprintln event.line
  match ending with
  | .done text => IO.print text
  | .failed failure => IO.eprintln ("Error: " ++ failure.diagnostic)
  | .refused => IO.eprintln "error: this command line is not understood, try --help"
  return ending.code.toUInt32

end Program

end SpendLedger

/-- The program. -/
def main (words : List String) : IO UInt32 :=
  SpendLedger.Program.run words
