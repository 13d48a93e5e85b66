import SpendLedger.CommandLine.Grammar

/-!
# Help

The text that explains a command: what it is for, how it is called, the commands below it, its arguments and its
options.
-/

namespace SpendLedger

namespace CommandLine

/-- A name as it stands for a value. -/
def placeholder (name : String) : String :=
  Text.upper name

/-- How an argument stands in a call. -/
def Argument.usage (a : Argument) : String :=
  if a.required then "<" ++ placeholder a.name ++ ">" else "[" ++ placeholder a.name ++ "]"

/-- How an option stands in a call. -/
def Opt.usage (o : Opt) : String :=
  "--" ++ o.name ++ " <" ++ placeholder o.name ++ ">"

/-- What is said about an option: its usual value and the names it may have. -/
def Opt.remark (o : Opt) : String :=
  let usual := (o.usual.map fun v => ["[default: " ++ v ++ "]"]).getD []
  let choices := match o.kind with
    | .oneOf names => ["[possible values: " ++ Text.joined ", " names ++ "]"]
    | _ => []
  Text.joined " " (usual ++ choices)

/-- Entries with their explanations in one column. -/
def columns (entries : List (String × String)) : List String :=
  let width := (entries.map fun e => e.1.toList.length).foldl Nat.max 0
  entries.map fun e => Text.padEnd width e.1 ++ "  " ++ e.2

/-- A part of help, unless it has no entries. -/
def helpPart (title : String) (entries : List (String × String)) : List String :=
  if entries.isEmpty then [] else "" :: title :: columns entries

/-- What the command for help is for. -/
def helpAbout : String := "Print this message or the help of the given subcommand(s)"

/-- How a command is called. -/
def usageLine (path : List String) (g : Grammar) : String :=
  Text.joined " " <|
    "Usage:" :: path ++ (if g.options.any fun o => !o.required then ["[OPTIONS]"] else []) ++
      ((g.options.filter Opt.required).map Opt.usage) ++ g.arguments.map Argument.usage ++
      (if g.subcommands.isEmpty then [] else ["<COMMAND>"])

/-- The options of a command in the order of help. -/
def listedOptions (g : Grammar) : List Opt :=
  g.options.mergeSort fun a b =>
    decide (a.place < b.place) || (decide (a.place = b.place) && decide (a.name ≤ b.name))

/-- The help on a command. -/
def helpLines (path : List String) (g : Grammar) : List String :=
  (match g.about with
    | none => []
    | some about => [about, ""]) ++
  [usageLine path g] ++
  (if g.subcommands.isEmpty then []
    else helpPart "Commands:"
      (g.subcommands.map (fun b => ("  " ++ b.name, b.about.getD "")) ++ [("  help", helpAbout)])) ++
  helpPart "Arguments:" (g.arguments.map fun a => ("  " ++ a.usage, "")) ++
  helpPart "Options:"
    ((listedOptions g).map (fun o => ("      " ++ o.usage, o.remark)) ++ [("  -h, --help", "Print help")])

/-- The help on the command for help. -/
def helpOnHelp (path : List String) : List String :=
  [helpAbout, "", Text.joined " " ("Usage:" :: path ++ ["[COMMAND]..."])] ++
    helpPart "Arguments:" [("  [COMMAND]...", "Print help for the subcommand(s)")]

/-- The help on the command at the end of a path. -/
def help (g : Grammar) (walked : List String) : List String → List String
  | [] => helpLines walked g
  | name :: rest =>
    match g.subcommand? name with
    | some b => help b (walked ++ [name]) rest
    | none => helpOnHelp (walked ++ [name])

end CommandLine

end SpendLedger
