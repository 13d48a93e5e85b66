import SpendLedger.CommandLine.Help
import SpendLedger.Print.Basic

/-!
# The commands

What the program can be told to do, and how that is written on a command line.
-/

namespace SpendLedger

/-- What the program is told to do. -/
inductive Command where
  | init
  | configGet (key : String)
  | configSet (key value : String)
  | configList
  | setCredential (provider : Option String) (secret : String)
  | deleteCredential (provider : Option String)
  | fetch (first last : Option String)
  | summary (first last service : Option String)
  | current
  | history (months : Nat)
  | forecast
  | trend
  | report
  | alertList
  /-- Set up an alert, with a threshold or the amount of a preset. -/
  | alertAdd (name : String) (threshold : Option Float) (preset : Option String)
  | alertDelete (name : String)
  | alertCheck
  /-- Hold a usage against its free limit. -/
  | freeTier (service : String) (usage : Float)
  | exportRecords (format : String)

namespace Command

open CommandLine

/-- The name of the program. -/
def programName : String := "cloudspend"

/-- How many months a history has if nothing else is said. -/
def usualMonths : Nat := 3

/-- The option that every command has: how answers are printed. -/
def outputOption : Opt :=
  { name := "output", kind := .oneOf ["table", "json", "csv"], usual := some "table", required := false, place := 0 }

/-- An option with any text. -/
def textOption (name : String) (place : Nat) : Opt :=
  { name, kind := .text, usual := none, required := false, place }

/-- An argument that must be given. -/
def argument (name : String) (kind : Kind) : Argument :=
  { name, kind, required := true }

/-- A command without commands below it. -/
def leaf (name : String) (options : List Opt) (arguments : List Argument) : Grammar :=
  .command name none (outputOption :: options) arguments [] []

/-- A command that stands for those below it. -/
def group (name : String) (members : List Grammar) : Grammar :=
  .command name none [outputOption] [] [] members

/-- The commands on what the user has set. -/
def configGrammar : Grammar :=
  group "config"
    [leaf "get" [] [argument "key" .text], leaf "set" [] [argument "key" .text, argument "value" .text],
      leaf "list" [] []]

/-- The commands on costs. -/
def costGrammar : Grammar :=
  group "cost"
    [.command "fetch" (some "Pull costs from the provider into the local store (defaults to the current month)")
        [outputOption, textOption "start" 0, textOption "end" 1] [] [] [],
      leaf "summary" [textOption "start" 0, textOption "end" 1, textOption "service" 2] [],
      leaf "current" [] [],
      leaf "history"
        [{ name := "months", kind := .count, usual := some (toString usualMonths), required := false, place := 0 }] [],
      leaf "forecast" [] [], leaf "trend" [] [], leaf "report" [] []]

/-- The commands on alerts. -/
def alertGrammar : Grammar :=
  group "alert"
    [leaf "list" [] [],
      .command "add" none [outputOption, textOption "preset" 2]
        [argument "name" .text, { name := "threshold", kind := .number, required := false }]
        [("threshold", "preset")] [],
      leaf "delete" [] [argument "name" .text], leaf "check" [] []]

/-- The whole command line. -/
def grammar : Grammar :=
  .command programName (some "Cloud billing costs, forecasts and budget alerts") [outputOption] [] []
    [leaf "init" [] [], configGrammar,
      leaf "set-credential" [textOption "provider" 0, { textOption "secret" 1 with required := true }] [],
      leaf "delete-credential" [textOption "provider" 0] [], costGrammar, alertGrammar,
      leaf "free-tier" [] [argument "service" .text, argument "usage" .number],
      leaf "export" [{ textOption "format" 0 with usual := some "json" }] []]

/-- The command that the invocations of a line stand for. -/
def ofInvocations? (invocations : List Invocation) : Option Command :=
  match invocations.map Invocation.name, invocations.getLast? with
  | _ :: names, some last =>
    match names with
    | ["init"] => some .init
    | ["config", "get"] => (last.value? "key").map .configGet
    | ["config", "set"] => do pure (.configSet (← last.value? "key") (← last.value? "value"))
    | ["config", "list"] => some .configList
    | ["set-credential"] => (last.value? "secret").map fun secret => .setCredential (last.value? "provider") secret
    | ["delete-credential"] => some (.deleteCredential (last.value? "provider"))
    | ["cost", "fetch"] => some (.fetch (last.value? "start") (last.value? "end"))
    | ["cost", "summary"] => some (.summary (last.value? "start") (last.value? "end") (last.value? "service"))
    | ["cost", "current"] => some .current
    | ["cost", "history"] => some (.history (((last.value? "months").bind count?).getD usualMonths))
    | ["cost", "forecast"] => some .forecast
    | ["cost", "trend"] => some .trend
    | ["cost", "report"] => some .report
    | ["alert", "list"] => some .alertList
    | ["alert", "add"] =>
      (last.value? "name").map fun name =>
        .alertAdd name ((last.value? "threshold").bind fun s => Decimal.read? s.toList) (last.value? "preset")
    | ["alert", "delete"] => (last.value? "name").map .alertDelete
    | ["alert", "check"] => some .alertCheck
    | ["free-tier"] => do
      let usage ← (last.value? "usage").bind fun s => Decimal.read? s.toList
      pure (.freeTier (← last.value? "service") usage)
    | ["export"] => some (.exportRecords ((last.value? "format").getD "json"))
    | _ => none
  | _, _ => none

/-- How answers are printed: the first invocation that says so decides. -/
def formatOf (invocations : List Invocation) : OutputFormat :=
  ((invocations.findSome? fun l => l.value? "output").bind OutputFormat.ofName?).getD .table

end Command

end SpendLedger
