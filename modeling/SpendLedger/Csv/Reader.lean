import SpendLedger.Csv.Basic

/-!
# Reading comma separated values

The usual reading of such a text, said without the writer: rows end with a line break, fields with a comma, and a field
that begins with a quote ends with the next quote that does not come twice. Nothing may stand between that quote and the
end of the field, and a field without quotes has none inside. The last row may lack its line break.
-/

namespace SpendLedger

namespace Csv

/-- Where a reader stands. -/
inductive Place where
  | rowStart
  | fieldStart
  | bare
  | quoted
  /-- Behind a quote that may be the last one of its field. -/
  | closed
deriving DecidableEq, Repr

/-- Rows of fields, each field as its characters. -/
abbrev Rows := List (List (List Char))

/-- Rows with one character more at the front of their first field. -/
def consChar (c : Char) : Rows → Rows
  | (field :: fields) :: rows => ((c :: field) :: fields) :: rows
  | rows => rows

/-- Rows with an empty field before the first one. -/
def consField : Rows → Rows
  | fields :: rows => ([] :: fields) :: rows
  | [] => []

/-- Rows after a row of one empty field. -/
def consRow (rows : Rows) : Rows := [[]] :: rows

/-- The rows that follow a place; the first field is what is left of the one that the reader stands in. -/
def readFrom : Place → List Char → Option Rows
  | .rowStart, [] => some []
  | .quoted, [] => none
  | _, [] => some [[[]]]
  | .quoted, c :: cs =>
    if c = '"' then readFrom .closed cs else (readFrom .quoted cs).map (consChar c)
  | place, c :: cs =>
    if c = ',' then (readFrom .fieldStart cs).map consField
    else if c = '\n' then (readFrom .rowStart cs).map consRow
    else if c = '\r' then
      match cs with
      | '\n' :: cs => (readFrom .rowStart cs).map consRow
      | _ => none
    else if c = '"' then
      match place with
      | .closed => (readFrom .quoted cs).map (consChar '"')
      | .bare => none
      | _ => readFrom .quoted cs
    else if place = .closed then none
    else (readFrom .bare cs).map (consChar c)

/-- The rows of a text, if it is well formed. -/
def read? (s : String) : Option (List (List String)) :=
  (readFrom .rowStart s.toList).map fun rows => rows.map fun fields => fields.map String.ofList

end Csv

end SpendLedger
