/-!
# Comma separated values

A field stands as it is, unless it has a comma, a quote or a line break; then it stands in quotes, and every quote in it
is written twice. A line ends with a line feed.
-/

namespace SpendLedger

namespace Csv

/-- Whether a character makes quotes necessary. -/
def needsQuotes (c : Char) : Bool :=
  c == ',' || c == '"' || c == '\n' || c == '\r'

/-- The characters of a quoted field, each quote written twice. -/
def doubleQuotes : List Char → List Char
  | [] => []
  | c :: cs => if c = '"' then '"' :: '"' :: doubleQuotes cs else c :: doubleQuotes cs

/-- A field as it is written. -/
def field (s : String) : String :=
  if s.toList.any needsQuotes then String.ofList ('"' :: doubleQuotes s.toList ++ ['"']) else s

/-- Fields as they are written, with commas between them. -/
def row (fields : List String) : String :=
  ",".intercalate fields

end Csv

end SpendLedger
