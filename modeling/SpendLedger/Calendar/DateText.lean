import SpendLedger.Calendar.Date
import SpendLedger.Number.Word
import SpendLedger.Text.Basic

/-!
# Dates as text

A date is written as year, month and day with hyphens between them. Years from 0 to 9999 have four digits and no sign,
all others a sign and at least four digits. Reading is laxer: blanks may stand before a number, months and days may
have one digit, and years with a sign may have any number of digits.
-/

namespace SpendLedger

namespace Date

/-- Why a text is no date. -/
inductive Fault where
  | invalid
  | tooShort
  | tooLong
  | outOfRange
deriving DecidableEq, Repr

/-- The wording of a fault. -/
def Fault.message : Fault → String
  | invalid => "input contains invalid characters"
  | tooShort => "premature end of input"
  | tooLong => "trailing input"
  | outOfRange => "input is out of range"

/-! ## Writing -/

/-- The text of a year. -/
def yearText (year : Int) : String :=
  if 0 ≤ year ∧ year ≤ 9999 then Text.zeroPadded 4 year.natAbs
  else (if year < 0 then "-" else "+") ++ Text.zeroPadded 4 year.natAbs

/-- The text of a date. -/
def toText (d : Date) : String :=
  yearText d.year ++ "-" ++ Text.zeroPadded 2 d.month ++ "-" ++ Text.zeroPadded 2 d.day

/-- The text of a date without hyphens. -/
def toCompactText (d : Date) : String :=
  yearText d.year ++ Text.zeroPadded 2 d.month ++ Text.zeroPadded 2 d.day

/-! ## Reading -/

/-- At least one and at most `limit` digits at the front; a number of more than 63 bits is out of range. -/
def digits (limit : Nat) (cs : List Char) : Except Fault (Nat × List Char) :=
  let front := (cs.take limit).takeWhile Char.isDigit
  if cs.isEmpty then .error .tooShort
  else if front.isEmpty then .error .invalid
  else if Word.holds 63 (Text.digitsValue front) then .ok (Text.digitsValue front, cs.drop front.length)
  else .error .outOfRange

/-- A number with its sign: four digits at most without a sign, any number with one. -/
def readSigned (cs : List Char) : Except Fault (Int × List Char) :=
  match Text.trimStart cs with
  | '-' :: cs => (digits cs.length cs).map fun found => (-(found.1 : Int), found.2)
  | '+' :: cs => (digits cs.length cs).map fun found => ((found.1 : Int), found.2)
  | cs => (digits 4 cs).map fun found => ((found.1 : Int), found.2)

/-- A year, which is kept in 32 bits. -/
def readYear (cs : List Char) : Except Fault (Int × List Char) := do
  let (year, rest) ← readSigned cs
  if Word.holdsSigned 32 year then pure (year, rest) else .error .outOfRange

/-- A number of one or two digits from 1 to `last`. -/
def readField (last : Nat) (cs : List Char) : Except Fault (Nat × List Char) := do
  let (n, rest) ← digits 2 (Text.trimStart cs)
  if 1 ≤ n ∧ n ≤ last then pure (n, rest) else .error .outOfRange

/-- The hyphen between two numbers. -/
def readHyphen : List Char → Except Fault (List Char)
  | [] => .error .tooShort
  | '-' :: rest => .ok rest
  | _ :: _ => .error .invalid

/-- A date at the front of a text, with `skip` applied after each of the three numbers. -/
def readWith (skip : List Char → List Char) (cs : List Char) : Except Fault Date := do
  let (year, rest) ← readYear cs
  let rest ← readHyphen (skip rest)
  let (month, rest) ← readField 12 rest
  let rest ← readHyphen (skip rest)
  let (day, rest) ← readField 31 rest
  if !(skip rest).isEmpty then .error .tooLong
  else match of? year month day with
    | some d => .ok d
    | none => .error .outOfRange

/-- Reads a date that is the whole text. -/
def read (s : String) : Except Fault Date :=
  readWith id s.toList

/-- Reads a date that may have blanks after its numbers too, as in stored documents. -/
def readLoose (s : String) : Except Fault Date :=
  readWith Text.trimStart s.toList

/-- Reads a date with blanks around it, or nothing. -/
def ofText? (s : String) : Option Date :=
  (read (Text.trim s)).toOption

/-- The date that eight digits name: four of the year, two of the month, two of the day. -/
def ofCompact? (cs : List Char) : Option Date :=
  of? (Text.digitsValue (cs.take 4)) (Text.digitsValue ((cs.drop 4).take 2)) (Text.digitsValue (cs.drop 6))

/-- The date in the first ten bytes of a text, whatever follows. -/
def ofLeadingText? (s : String) : Option Date :=
  (Text.takeBytes? 10 s.toList).bind fun cs => (readWith id cs).toOption

end Date

/-- The clock's reading as reports show it. -/
def Instant.toText (t : Instant) : String :=
  t.date.toText ++ " " ++ Text.zeroPadded 2 t.hour ++ ":" ++ Text.zeroPadded 2 t.minute ++ ":" ++
    Text.zeroPadded 2 t.second

/-- The clock's reading without separators, as signatures need it. -/
def Instant.toCompactText (t : Instant) : String :=
  t.date.toCompactText ++ "T" ++ Text.zeroPadded 2 t.hour ++ Text.zeroPadded 2 t.minute ++
    Text.zeroPadded 2 t.second ++ "Z"

end SpendLedger
