import SpendLedger.Number.Decimal
import SpendLedger.Number.Word

/-!
# Command lines

What a command line may look like: commands with named options, arguments in order and commands below them. A line is
read from left to right. Values are checked one word late, when the next option or argument comes or the line ends; what
asks for help is answered at once.
-/

namespace SpendLedger

namespace CommandLine

/-- What a value may be. -/
inductive Kind where
  | text
  | oneOf (names : List String)
  | number
  | count
deriving DecidableEq, Repr

/-- A whole number in 32 bits; a plus or minus sign may stand before it. -/
def count? (s : String) : Option Nat :=
  let (negative, digits) := match s.toList with
    | '-' :: rest => (true, rest)
    | '+' :: rest => (false, rest)
    | rest => (false, rest)
  let n := Text.digitsValue digits
  if digits.isEmpty || !digits.all Char.isDigit then none
  else if negative then (if n = 0 then some 0 else none)
  else if Word.holds 32 n then some n
  else none

/-- Whether a value may stand. -/
def Kind.accepts (s : String) : Kind → Bool
  | text => true
  | oneOf names => names.contains s
  | number => (Decimal.read? s.toList).isSome
  | count => (count? s).isSome

/-- A named value. -/
structure Opt where
  name : String
  kind : Kind
  /-- The value if none is given. -/
  usual : Option String
  required : Bool
  /-- Where help lists the option; options of one place are listed by name. -/
  place : Nat
deriving DecidableEq, Repr

/-- A value without a name. -/
structure Argument where
  name : String
  kind : Kind
  required : Bool
deriving DecidableEq, Repr

/-- A command with what may follow it. -/
inductive Grammar where
  /-- A command: name, purpose, options, arguments, pairs of names that exclude each other, commands below. -/
  | command (name : String) (about : Option String) (options : List Opt) (arguments : List Argument)
      (exclusive : List (String × String)) (below : List Grammar)

namespace Grammar

/-- The name of a command. -/
def name : Grammar → String
  | command n .. => n

/-- What a command is for. -/
def about : Grammar → Option String
  | command _ a .. => a

/-- The options of a command. -/
def options : Grammar → List Opt
  | command _ _ os .. => os

/-- The arguments of a command. -/
def arguments : Grammar → List Argument
  | command _ _ _ as .. => as

/-- The names that exclude each other. -/
def exclusive : Grammar → List (String × String)
  | command _ _ _ _ es _ => es

/-- The commands below a command. -/
def subcommands : Grammar → List Grammar
  | command _ _ _ _ _ gs => gs

/-- The command of a name below a command. -/
def subcommand? (g : Grammar) (name : String) : Option Grammar :=
  g.subcommands.find? fun b => b.name = name

/-- The option of a name. -/
def option? (g : Grammar) (name : String) : Option Opt :=
  g.options.find? fun o => o.name = name

/-- What the value of a name may be. -/
def kindOf? (g : Grammar) (name : String) : Option Kind :=
  ((g.option? name).map Opt.kind).or ((g.arguments.find? fun a => a.name = name).map Argument.kind)

end Grammar

/-- One command of a line with the values given to it. -/
structure Invocation where
  name : String
  values : List (String × String)
deriving DecidableEq, Repr

/-- The value of a name. -/
def Invocation.value? (l : Invocation) (name : String) : Option String :=
  l.values.lookup name

/-- What a line comes to. -/
inductive Outcome where
  | help (path : List String)
  | refused
  | accepted (invocations : List Invocation)
deriving DecidableEq, Repr

/-- One command of a line on its way. -/
structure Reading where
  values : List (String × String)
  /-- The value that is not checked yet, or the option that has no value yet. -/
  pending : Option (String × Option String)
  used : Nat
  onlyArguments : Bool

namespace Reading

/-- Nothing read. -/
def start : Reading := ⟨[], none, 0, false⟩

/-- The option that waits for its value. -/
def awaiting? (r : Reading) : Option String :=
  match r.pending with
  | some (name, none) => some name
  | _ => none

/-- A value checked and kept, if it may stand and its name was not used before. -/
def keep? (g : Grammar) (r : Reading) (name value : String) : Option Reading :=
  if (g.kindOf? name).any (Kind.accepts value) && (r.values.lookup name).isNone then
    some { r with values := r.values ++ [(name, value)] }
  else none

/-- The pending value checked and kept. -/
def settle? (g : Grammar) (r : Reading) : Option Reading :=
  match r.pending with
  | none => some r
  | some (_, none) => none
  | some (name, some value) => keep? g { r with pending := none } name value

/-- The end of a command's own part: all that is required was given, and nothing that excludes each other. -/
def finish? (g : Grammar) (r : Reading) : Option Invocation := do
  let r ← r.settle? g
  let isGiven (name : String) : Bool := (r.values.lookup name).isSome
  if g.options.all (fun o => !o.required || isGiven o.name) && g.arguments.all (fun a => !a.required || isGiven a.name) &&
      g.exclusive.all (fun e => !(isGiven e.1 && isGiven e.2)) then
    some ⟨g.name, r.values⟩
  else none

/-- A word taken as the next argument. -/
def argument? (g : Grammar) (r : Reading) (word : String) : Option Reading := do
  let a ← g.arguments[r.used]?
  let r ← r.settle? g
  pure { r with pending := some (a.name, some word), used := r.used + 1 }

/-- A word taken as an option, behind its two hyphens. -/
def option? (g : Grammar) (r : Reading) (word : List Char) : Option Reading := do
  let (name, value) := Text.cut '=' word
  let o ← g.option? (String.ofList name)
  let r ← r.settle? g
  match value with
  | some value => keep? g r o.name (String.ofList value)
  | none => pure { r with pending := some (o.name, none) }

end Reading

/-- What a word may be, apart from the name of a command. -/
inductive Word where
  | endOfOptions
  | help
  | option (text : List Char)
  | unknown
  | plain

/-- What a word is. -/
def classify (word : String) : Word :=
  match word.toList with
  | ['-', '-'] => .endOfOptions
  | '-' :: '-' :: rest => if rest = "help".toList then .help else .option rest
  | '-' :: 'h' :: _ => .help
  | '-' :: _ :: _ => .unknown
  | _ => .plain

/-- The command that words name, one below the other. -/
def helpPath (g : Grammar) (path : List String) : List String → Outcome
  | [] => .help path
  | word :: rest =>
    match g.subcommand? word with
    | some b => helpPath b (path ++ [word]) rest
    | none => if word = "help" ∧ !g.subcommands.isEmpty ∧ rest.isEmpty then .help (path ++ [word]) else .refused

/-- Reads the words that follow a command; `path` are the commands up to it. -/
def read (g : Grammar) (path : List String) (r : Reading) : List String → Outcome
  | [] =>
    if !g.subcommands.isEmpty then .refused
    else match r.finish? g with
      | some invocation => .accepted [invocation]
      | none => .refused
  | word :: rest =>
    let continueWith (next : Option Reading) : Outcome :=
      match next with
      | some r => read g path r rest
      | none => .refused
    match r.awaiting? with
    | some name =>
      match classify word with
      | .plain => continueWith (some { r with pending := some (name, some word) })
      | _ => .refused
    | none =>
      if r.onlyArguments then continueWith (r.argument? g word)
      else if word = "help" ∧ !g.subcommands.isEmpty then helpPath g path rest
      else match g.subcommand? word with
        | some b =>
          match read b (path ++ [word]) .start rest with
          | .accepted invocations =>
            match r.finish? g with
            | some invocation => .accepted (invocation :: invocations)
            | none => .refused
          | other => other
        | none =>
          match classify word with
          | .endOfOptions => continueWith (some { r with onlyArguments := true })
          | .help => if (r.settle? g).isSome then .help path else .refused
          | .option text => continueWith (r.option? g text)
          | .unknown => .refused
          | .plain => continueWith (r.argument? g word)

end CommandLine

end SpendLedger
