import SpendLedger.Csv.Basic
import SpendLedger.Json.Writer

/-!
# Printed answers

An answer is printed in one of three ways. Every printed text is a row of lines, each ended by a line feed.
-/

namespace SpendLedger

/-- How an answer is printed. -/
inductive OutputFormat where
  | table
  | json
  | csv
deriving DecidableEq, Repr

namespace OutputFormat

/-- The way of printing of a name. -/
def ofName? (s : String) : Option OutputFormat :=
  [("table", table), ("json", json), ("csv", csv)].lookup s

/-- The way in which records are exported, in small letters or capitals; a table cannot be exported. -/
def ofExportName? (s : String) : Option OutputFormat :=
  [("json", json), ("csv", csv)].lookup (Text.lower s)

end OutputFormat

namespace Print

/-- Lines as one text. -/
def lines (ls : List String) : String :=
  String.join (ls.map fun l => l ++ "\n")

/-- A document. -/
def document (t : Tree) : String :=
  Json.pretty t ++ "\n"

/-- Rows of values under a row of names; every text value stands as a field. -/
def rows (header : List String) (rs : List (List String)) : String :=
  lines ((header :: rs).map Csv.row)

/-- An amount with two places. -/
def amount (x : Float) : String := Decimal.fixed 2 x

/-- An amount with two places at the right edge of a column. -/
def amountColumn (width : Nat) (x : Float) : String := Text.padStart width (amount x)

/-- A truth value. -/
def truth (b : Bool) : String := if b then "true" else "false"

end Print

end SpendLedger
