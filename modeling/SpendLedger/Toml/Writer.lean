import SpendLedger.Json.Writer

/-!
# Writing TOML

Texts under plain names, one a line. A text stands in the plainest quotes that need no escapes: double quotes, single
quotes, then the quotes of several lines; a text that has controls is escaped.
-/

namespace SpendLedger

namespace Toml

/-- The longest row of a character. -/
def longestRow (c : Char) (cs : List Char) : Nat :=
  (cs.foldl (fun (best, row) x => if x = c then (Nat.max best (row + 1), row + 1) else (best, 0)) (0, 0)).1

/-- Whether a character can only be written as an escape. -/
def needsEscape (c : Char) : Bool :=
  (c.toNat < 32 && c != '\t' && c != '\n') || c.toNat == 127

/-- A character that cannot stand in double quotes as it is, as an escape. -/
def escaped? (c : Char) : Option (List Char) :=
  if c = '\\' then some ['\\', '\\']
  else if c.toNat = 8 then some ['\\', 'b']
  else if c = '\t' then some ['\\', 't']
  else if c.toNat = 12 then some ['\\', 'f']
  else if c = '\r' then some ['\\', 'r']
  else if needsEscape c then
    some ['\\', 'u', '0', '0', (Json.hexDigit (c.toNat / 16)).toUpper, (Json.hexDigit (c.toNat % 16)).toUpper]
  else none

/-- Characters in double quotes on one line. -/
def basicChars (cs : List Char) : List Char :=
  cs.flatMap fun c =>
    if c = '"' then ['\\', '"'] else if c = '\n' then ['\\', 'n'] else (escaped? c).getD [c]

/-- Characters in double quotes on several lines, `row` quotes before them: every third quote in a row is escaped. -/
def longBasicChars (row : Nat) : List Char → List Char
  | [] => []
  | c :: cs =>
    if c = '"' then
      if row < 2 then '"' :: longBasicChars (row + 1) cs else '\\' :: '"' :: longBasicChars 0 cs
    else (escaped? c).getD [c] ++ longBasicChars 0 cs

/-- Characters between quotes. -/
def between (quotes : List Char) (cs : List Char) : String :=
  String.ofList (quotes ++ cs ++ quotes)

/-- A text in the plainest quotes. -/
def textLiteral (s : String) : String :=
  let cs := s.toList
  let controls := cs.any needsEscape
  let backslash := cs.contains '\\'
  let breaks := cs.contains '\n'
  let doubles := longestRow '"' cs
  let singles := longestRow '\'' cs
  let first : List Char := if breaks then ['\n'] else []
  if !controls && !backslash && doubles == 0 && !breaks then between ['"'] (basicChars cs)
  else if !controls && singles == 0 && !breaks then between ['\''] cs
  else if !controls && !backslash && doubles ≤ 2 then between ['"', '"', '"'] (first ++ longBasicChars 0 cs)
  else if !controls && singles ≤ 2 then between ['\'', '\'', '\''] (first ++ cs)
  else if breaks then between ['"', '"', '"'] (first ++ longBasicChars 0 cs)
  else between ['"'] (basicChars cs)

/-- Texts under plain names, one a line. -/
def write (entries : List (String × String)) : String :=
  String.join (entries.map fun e => e.1 ++ " = " ++ textLiteral e.2 ++ "\n")

end Toml

end SpendLedger
