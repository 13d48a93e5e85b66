import SpendLedger.Number.Decimal
import SpendLedger.Text.Basic
import SpendLedger.Tree.Basic

/-!
# Writing JSON

Two layouts of the same tree: without any space, and with one value a line, two spaces deeper in each group. Numbers
that are not finite are written as `null`.
-/

namespace SpendLedger

namespace Json

/-- A digit of a hexadecimal number. -/
def hexDigit (n : Nat) : Char :=
  if n < 10 then Char.ofNat (48 + n) else Char.ofNat (87 + n)

/-- A character inside a text. -/
def escaped (c : Char) : List Char :=
  if c = '"' then ['\\', '"']
  else if c = '\\' then ['\\', '\\']
  else if c.toNat = 8 then ['\\', 'b']
  else if c.toNat = 9 then ['\\', 't']
  else if c.toNat = 10 then ['\\', 'n']
  else if c.toNat = 12 then ['\\', 'f']
  else if c.toNat = 13 then ['\\', 'r']
  else if c.toNat < 32 then ['\\', 'u', '0', '0', hexDigit (c.toNat / 16), hexDigit (c.toNat % 16)]
  else [c]

/-- A text in quotes. -/
def textLiteral (s : String) : String :=
  String.ofList ('"' :: s.toList.flatMap escaped ++ ['"'])

/-- A double, `null` if it is not finite. -/
def numberLiteral (x : Float) : String :=
  if x.isFinite then Decimal.json x else "null"

mutual

/-- A tree without any space. -/
def compact : Tree → String
  | .null | .foreign => "null"
  | .bool b => if b then "true" else "false"
  | .integer n => toString n
  | .real x => numberLiteral x
  | .text s => textLiteral s
  | .list items => "[" ++ compactItems items ++ "]"
  | .fields entries => "\x7b" ++ compactEntries entries ++ "\x7d"

/-- Values with commas between them. -/
def compactItems : List Tree → String
  | [] => ""
  | [t] => compact t
  | t :: rest => compact t ++ "," ++ compactItems rest

/-- Named values with commas between them. -/
def compactEntries : List (String × Tree) → String
  | [] => ""
  | [(key, t)] => textLiteral key ++ ":" ++ compact t
  | (key, t) :: rest => textLiteral key ++ ":" ++ compact t ++ "," ++ compactEntries rest

end

/-- A line break and the space before a line at a depth. -/
def newline (depth : Nat) : String :=
  "\n" ++ String.ofList (List.replicate (2 * depth) ' ')

mutual

/-- A tree with one value a line, inside `depth` groups. -/
def prettyAt (depth : Nat) : Tree → String
  | .list [] => "[]"
  | .list items => "[" ++ newline (depth + 1) ++ prettyItems (depth + 1) items ++ newline depth ++ "]"
  | .fields [] => "\x7b\x7d"
  | .fields entries => "\x7b" ++ newline (depth + 1) ++ prettyEntries (depth + 1) entries ++ newline depth ++ "\x7d"
  | .null | .foreign => "null"
  | .bool b => if b then "true" else "false"
  | .integer n => toString n
  | .real x => numberLiteral x
  | .text s => textLiteral s

/-- Values, one a line. -/
def prettyItems (depth : Nat) : List Tree → String
  | [] => ""
  | [t] => prettyAt depth t
  | t :: rest => prettyAt depth t ++ "," ++ newline depth ++ prettyItems depth rest

/-- Named values, one a line. -/
def prettyEntries (depth : Nat) : List (String × Tree) → String
  | [] => ""
  | [(key, t)] => textLiteral key ++ ": " ++ prettyAt depth t
  | (key, t) :: rest =>
    textLiteral key ++ ": " ++ prettyAt depth t ++ "," ++ newline depth ++ prettyEntries depth rest

end

/-- A tree with one value a line. -/
def pretty (t : Tree) : String :=
  prettyAt 0 t

end Json

end SpendLedger
