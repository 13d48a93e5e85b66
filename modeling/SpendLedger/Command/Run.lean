import SpendLedger.Command.Basic
import SpendLedger.Command.Home
import SpendLedger.Print.Ledger

/-!
# Running commands

What each command does to the home and what it prints. A command that fails prints nothing.
-/

namespace SpendLedger

namespace Command

open Session

/-! ## Values from the command line -/

/-- The day that an option gives, if it is given. -/
def dateOption (name : String) : Option String → Except Failure (Option Date)
  | none => .ok none
  | some raw =>
    match Date.ofText? raw with
    | some d => .ok (some d)
    | none => .error (.config ("Invalid --" ++ name ++ " date '" ++ raw ++ "'. Use YYYY-MM-DD."))

/-- The way in which records are exported. -/
def exportFormat (raw : String) : Except Failure OutputFormat :=
  match OutputFormat.ofExportName? raw with
  | some format => .ok format
  | none => .error (.config "Unsupported export format. Use json or csv")

/-- Whether a key is kept in the store and not in the file. -/
def isStored (key : String) : Bool :=
  key == Service.accountSetting

/-! ## What the user has set -/

/-- The value of a key, stored or from the file. -/
def configValue (c : Config) (stored : Option String) (key : String) : Except Failure String :=
  if isStored key then .ok ((stored.or (c.get? key)).getD "")
  else if Config.keys.contains key then .ok ((c.get? key).getD "")
  else .error (Config.unknownKey key)

/-- All keys with their values; what is stored goes before what the file says. -/
def configEntries (c : Config) (settings : Table String) : List (String × String) :=
  c.entries.map fun e => (e.1, (settings.get? e.1).getD e.2)

/-- All keys with their values, printed. -/
def printConfig (entries : List (String × String)) : OutputFormat → String
  | .json => Print.document (Tree.ofTable Tree.text (Table.ofList entries))
  | .csv => Print.rows ["key", "value"] (entries.map fun e => [e.1, Csv.field e.2])
  | .table => Print.lines (entries.map fun e => Text.padEnd 12 e.1 ++ " " ++ e.2)

/-- Shows the value of a key. -/
def runConfigGet (key : String) : Action Session String := do
  ensureHome
  let c ← loadConfig
  let stored ← onStore c fun _ => World.ask fun w => w.store.setting? key
  return Print.lines [← configValue c stored key]

/-- Gives a key a value. -/
def runConfigSet (key value : String) : Action Session String := do
  ensureHome
  let c ← loadConfig
  if isStored key then onStore c fun _ => Service.setSetting key (Text.trim value)
  else saveConfig (← c.apply key value)
  return Print.lines ["Set " ++ key ++ "."]

/-- Shows all keys with their values. -/
def runConfigList (format : OutputFormat) : Action Session String := do
  ensureHome
  let c ← loadConfig
  let settings ← onStore c fun _ => World.ask fun w => w.store.settings
  return printConfig (configEntries c settings) format

/-! ## Credentials -/

/-- Gives the key store a credential. -/
def runSetCredential (provider : Option String) (secret : String) : Action Session String := do
  ensureHome
  let c ← loadConfig
  let name := Provider.normalName (provider.getD c.provider)
  let _ ← Provider.ofName name
  modify fun s => { s with keyStore := s.keyStore.put name secret }
  return Print.lines ["Credential for '" ++ name ++ "' stored."]

/-- Has the key store forget a credential. -/
def runDeleteCredential (provider : Option String) : Action Session String := do
  let c ← loadConfig
  let name := Provider.normalName (provider.getD c.provider)
  modify fun s => { s with keyStore := s.keyStore.remove name }
  return Print.lines ["Credential for '" ++ name ++ "' removed."]

/-! ## Costs -/

/-- Fetches the costs of some days, or else of the current month. -/
def runFetch (first last : Option String) (s : Service) : Action World String := do
  let (monthFirst, monthLast) := (← get).today.wholeMonth
  let first := (← dateOption "start" first).getD monthFirst
  let last := (← dateOption "end" last).getD monthLast
  if last < first then throw (.config "--start must not be after --end.")
  let inserted ← s.fetch first last
  return Print.lines ["Stored " ++ toString inserted ++ " cost records from " ++ s.provider.name ++ " for " ++
    first.toText ++ " to " ++ last.toText ++ "."]

/-- The sum of the costs of records. -/
def costTotal {α : Type} [Amount α] (records : List (CostRecord α)) : α :=
  Amount.sum (records.map CostRecord.cost)

/-- Sums up some days, of one service or of all. -/
def runSummary (first last service : Option String) (format : OutputFormat) (s : Service) : Action World String := do
  let selection : Selection := ⟨⟨← dateOption "start" first, ← dateOption "end" last⟩, service⟩
  match service with
  | none => return Print.summary (← s.summary selection) format
  | some name =>
    let records ← World.read fun store => store.query selection
    match format with
    | .table =>
      return Print.lines [name ++ ": " ++ Print.amount (costTotal records) ++ " " ++ s.config.currency ++ " across " ++
        toString records.length ++ " records (" ++ selection.window.label ++ ")"]
    | format => return Print.records records format

/-- A command on costs, once the store is open. -/
def onCosts (action : Service → Action World String) : Action Session String := do
  ensureHome
  onStore (← loadConfig) action

/-! ## Alerts -/

/-- The threshold that is given, or the amount of the preset that is named. -/
def thresholdOf (threshold : Option Float) (preset : Option String) (limits : Except Failure (FreeTier Float)) :
    Except Failure Float :=
  match threshold, preset with
  | some t, _ => .ok t
  | none, some name => do
    match (← limits).budget? name with
    | some b => .ok b.amount
    | none => .error (.config ("Unknown budget preset '" ++ name ++ "'."))
  | none, none => .error (.config "Provide a threshold or --preset.")

/-- Sets up an alert. -/
def runAlertAdd (name : String) (threshold : Option Float) (preset : Option String) : Action Session String := do
  ensureHome
  let c ← loadConfig
  let home := (← get).home
  let alert ← onStore c fun s => do
    let threshold ← thresholdOf threshold preset (FreeTier.load home.freeTierPath home.freeTier)
    s.createAlert name threshold
  return Print.lines ["Alert '" ++ alert.name ++ "' created at " ++ Print.amount alert.threshold ++ "."]

/-- Removes the alert of a name. -/
def runAlertDelete (name : String) : Action World String := do
  if ← Service.deleteAlert name then return Print.lines ["Alert '" ++ name ++ "' deleted."]
  else throw (.config ("No alert named '" ++ name ++ "'."))

/-! ## All commands -/

/-- What a command does, and what it prints. -/
def run (format : OutputFormat) : Command → Action Session String
  | .init => do
    ensureHome
    return Print.lines ["Initialized cloudspend config and data directories."]
  | .configGet key => runConfigGet key
  | .configSet key value => runConfigSet key value
  | .configList => runConfigList format
  | .setCredential provider secret => runSetCredential provider secret
  | .deleteCredential provider => runDeleteCredential provider
  | .fetch first last => onCosts (runFetch first last)
  | .summary first last service => onCosts (runSummary first last service format)
  | .current => onCosts fun s => return Print.summary (← s.current) format
  | .history months => onCosts fun s => return Print.summary (← s.history months) format
  | .forecast => onCosts fun s => return Print.forecast (← s.forecast) s.config.currency format
  | .trend => onCosts fun _ => return Print.trend (← Service.trend) format
  | .report => onCosts fun s => return Print.report (← s.report) format
  | .alertList => onCosts fun _ => return Print.alerts (← World.ask fun w => w.store.listAlerts) format
  | .alertAdd name threshold preset => runAlertAdd name threshold preset
  | .alertDelete name => onCosts fun _ => runAlertDelete name
  | .alertCheck => onCosts fun s => return Print.evaluation (← s.checkAlerts) format
  | .freeTier service usage => do
    ensureHome
    let limits ← loadFreeTier
    onStore (← loadConfig) fun _ => return Print.usage (.of service usage (limits.limitFor? service)) format
  | .exportRecords name => do
    ensureHome
    let format ← exportFormat name
    onStore (← loadConfig) fun _ => return Print.records (← World.read Store.allRecords) format

/-- How a run ends. -/
inductive Ending where
  | refused
  | failed (failure : Failure)
  | done (text : String)

/-- The code with which the program ends. -/
def Ending.code : Ending → Nat
  | refused => 2
  | failed _ => 1
  | done _ => 0

/-- Runs the command that the words of a command line stand for. -/
def runLine (words : List String) (s : Session) : Ending × Session :=
  match CommandLine.read grammar [] .start words with
  | .refused => (.refused, s)
  | .help path => (.done (Print.lines (CommandLine.help grammar [programName] path)), s)
  | .accepted invocations =>
    match ofInvocations? invocations with
    | none => (.refused, s)
    | some command =>
      match StateT.run (ExceptT.run (command.run (formatOf invocations))) s with
      | (.ok text, s) => (.done text, s)
      | (.error failure, s) => (.failed failure, s)

end Command

end SpendLedger
