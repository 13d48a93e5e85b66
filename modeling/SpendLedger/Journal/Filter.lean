import SpendLedger.Journal.Basic
import SpendLedger.Text.Basic

/-!
# Filters of the journal

A filter is a list of rules with commas between them. A rule is a level, or the beginning of a channel's path with the
level that holds for it. The rule with the longest path that fits a channel decides, and where no rule fits, nothing is
shown.
-/

namespace SpendLedger

namespace Filter

/-- A rule: the paths it is for, if not all, and the rank up to which their events are shown. -/
structure Rule where
  path : Option String
  /-- The highest rank that is shown; zero shows nothing. -/
  rank : Nat
deriving DecidableEq, Repr

/-- The rank that a level's name or number gives. -/
def rank? (cs : List Char) : Option Nat :=
  let digits := match cs with
    | '+' :: rest => rest
    | rest => rest
  if !digits.isEmpty && digits.all Char.isDigit then
    let n := Text.digitsValue digits
    if n ≤ 5 then some n else none
  else if cs.isEmpty then some 1
  else
    let name := Text.lower (String.ofList cs)
    [("off", 0), ("error", 1), ("warn", 2), ("info", 3), ("debug", 4), ("trace", 5)].lookup name

/-- Whether a path may begin with a character. -/
def startsPath (c : Char) : Bool :=
  c == '-' || c == ':' || c == '_' || c.isAlphanum || (127 < c.toNat && !Text.isBlank c)

/-- What the text after a level's sign means: nothing means every event. -/
def rankAfterSign? (cs : List Char) : Option Nat :=
  if cs.isEmpty then some 5 else rank? cs

/-- What follows a part in brackets: nothing, or a sign and a level. -/
def afterSpan : List Char → Option Unit
  | [] => some ()
  | '=' :: rest => (rankAfterSign? rest).map fun _ => ()
  | _ => none

/-- A rule for events inside some stretch of work, which no event of the ledger is part of. -/
def readSpan (cs : List Char) : Option Unit :=
  let (_, rest) := Text.cut ']' cs
  rest.bind afterSpan

/-- A rule; nothing inside if it is for a stretch of work. The blanks around it count, and where there are some before
it, the parts are cut that much too early. -/
def readRule (cs : List Char) : Option (Option Rule) :=
  let trimmed := Text.trimEnd (Text.trimStart cs)
  match trimmed with
  | [] => none
  | '[' :: rest => (readSpan rest).map fun _ => none
  | c :: _ =>
    if !startsPath c then none
    else
      let head := trimmed.takeWhile fun c => c != '=' && c != '['
      match trimmed.drop head.length with
      | '=' :: _ =>
        (rankAfterSign? (cs.drop (head.length + 1))).map fun rank =>
          some ⟨some (String.ofList (cs.take head.length)), rank⟩
      | '[' :: rest => (readSpan rest).map fun _ => none
      | _ =>
        match rank? cs with
        | some rank => some (some ⟨none, rank⟩)
        | none => some (some ⟨some (String.ofList cs), 5⟩)

/-- The rules of a filter; nothing if one of them cannot be read. -/
def readRules (s : String) : Option (List (Option Rule)) :=
  ((Text.pieces ',' s.toList).filter fun piece => !piece.isEmpty).mapM readRule

/-- The rules that hold when none can be read: warnings and errors. -/
def usual : List Rule := [⟨none, 2⟩]

/-- The rules that a directive sets up. Without a rule of any kind, errors are shown. -/
def ofDirective : Option String → List Rule
  | none => usual
  | some s =>
    match readRules s with
    | none => usual
    | some [] => [⟨none, 1⟩]
    | some rules => rules.filterMap id

/-- How long the path of a rule is; rules for all paths come last. -/
def Rule.weight (r : Rule) : Nat :=
  match r.path with
  | none => 0
  | some p => p.toList.length + 1

/-- Whether a rule is for a channel. -/
def Rule.fits (r : Rule) (c : Channel) : Bool :=
  match r.path with
  | none => true
  | some p => p.toList.isPrefixOf c.path.toList

/-- The rule that decides about a channel: of those that fit, the last one of the longest path. -/
def decisive? (rules : List Rule) (c : Channel) : Option Rule :=
  (rules.filter fun r => r.fits c).foldl
    (fun best r => match best with
      | none => some r
      | some b => if b.weight ≤ r.weight then some r else some b) none

/-- Whether a filter shows an event. -/
def shows (rules : List Rule) (e : Event) : Bool :=
  match decisive? rules e.channel with
  | some r => decide (e.level.rank ≤ r.rank)
  | none => false

end Filter

end SpendLedger
