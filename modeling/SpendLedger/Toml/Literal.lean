import SpendLedger.Calendar.Date
import SpendLedger.Number.Decimal
import SpendLedger.Number.Word
import SpendLedger.Tree.Basic

/-!
# Texts, numbers and times of TOML

The single values of TOML, each read from the front of the characters.
-/

namespace SpendLedger

namespace Toml

/-- Whether a character may stand between the parts of a line. -/
def isSpace (c : Char) : Bool :=
  c == ' ' || c == '\t'

/-- The characters from the next part of the line on. -/
def skip (cs : List Char) : List Char :=
  cs.dropWhile isSpace

/-- Whether a character may stand in a text or a comment as it is. -/
def isPrintable (c : Char) : Bool :=
  c == '\t' || (32 ≤ c.toNat && c.toNat ≠ 127)

/-- What follows a line break, if one stands at the front. -/
def afterBreak? : List Char → Option (List Char)
  | '\n' :: rest => some rest
  | '\r' :: '\n' :: rest => some rest
  | _ => none

/-- Characters without a line break at their front. -/
def withoutBreak (cs : List Char) : List Char :=
  (afterBreak? cs).getD cs

/-! ## Texts -/

/-- The character that hexadecimal digits name. -/
def codePoint? (digits : List Char) : Option Char :=
  (Text.hexDigitsValue? digits).bind Text.charOf?

/-- The character of an escape without digits. -/
def simpleEscape? : Char → Option Char
  | 'b' => some '\x08'
  | 't' => some '\t'
  | 'n' => some '\n'
  | 'f' => some '\x0c'
  | 'r' => some '\r'
  | '"' => some '"'
  | '\\' => some '\\'
  | _ => none

/-- The character of an escape, and what follows it; the characters are those behind the backslash. -/
def escape? : List Char → Option (Char × List Char)
  | 'u' :: a :: b :: c :: d :: rest => (codePoint? [a, b, c, d]).map fun x => (x, rest)
  | 'U' :: a :: b :: c :: d :: e :: f :: g :: h :: rest =>
    (codePoint? [a, b, c, d, e, f, g, h]).map fun x => (x, rest)
  | c :: rest => (simpleEscape? c).map fun x => (x, rest)
  | [] => none

/-- The rest of a text in double quotes. -/
def basicText : Nat → List Char → Option (List Char × List Char)
  | 0, _ => none
  | fuel + 1, cs =>
    match cs with
    | '"' :: rest => some ([], rest)
    | '\\' :: rest => do
      let (c, rest) ← escape? rest
      let (more, rest) ← basicText fuel rest
      pure (c :: more, rest)
    | c :: rest =>
      if isPrintable c then (basicText fuel rest).map fun (more, rest) => (c :: more, rest) else none
    | [] => none

/-- The rest of a text in single quotes. -/
def literalText : List Char → Option (List Char × List Char)
  | '\'' :: rest => some ([], rest)
  | c :: rest =>
    if isPrintable c then (literalText rest).map fun (more, rest) => (c :: more, rest) else none
  | [] => none

/-- The characters from the first one that is neither space nor a line break. -/
def skipBreaks : List Char → List Char
  | '\r' :: '\n' :: rest => skipBreaks rest
  | c :: rest => if isSpace c || c == '\n' then skipBreaks rest else c :: rest
  | [] => []

/-- The quotes at the end of a text of several lines: up to two of them belong to it. -/
def closingQuotes (quote : Char) (cs : List Char) : Option (List Char × List Char) :=
  let n := (cs.takeWhile (· == quote)).length
  if n < 3 then none
  else if n ≤ 5 then some (List.replicate (n - 3) quote, cs.drop n)
  else some ([quote, quote], cs.drop 5)

/-- The rest of a text of several lines in double quotes. -/
def longBasicText : Nat → List Char → Option (List Char × List Char)
  | 0, _ => none
  | fuel + 1, cs =>
    let keep (c : Char) (rest : List Char) : Option (List Char × List Char) :=
      (longBasicText fuel rest).map fun (more, rest) => (c :: more, rest)
    match closingQuotes '"' cs with
    | some found => some found
    | none =>
      match cs with
      | '\\' :: rest =>
        match afterBreak? (skip rest) with
        | some rest => longBasicText fuel (skipBreaks rest)
        | none =>
          match escape? rest with
          | some (c, rest) => keep c rest
          | none => none
      | c :: rest =>
        match afterBreak? (c :: rest) with
        | some rest => keep '\n' rest
        | none => if isPrintable c then keep c rest else none
      | [] => none

/-- The rest of a text of several lines in single quotes. -/
def longLiteralText : Nat → List Char → Option (List Char × List Char)
  | 0, _ => none
  | fuel + 1, cs =>
    match closingQuotes '\'' cs with
    | some found => some found
    | none =>
      match cs with
      | c :: rest =>
        match afterBreak? (c :: rest) with
        | some rest => (longLiteralText fuel rest).map fun (more, rest) => ('\n' :: more, rest)
        | none =>
          if isPrintable c then (longLiteralText fuel rest).map fun (more, rest) => (c :: more, rest) else none
      | [] => none

/-- A text in quotes of any kind. -/
def readText? (cs : List Char) : Option (List Char × List Char) :=
  match cs with
  | '"' :: '"' :: '"' :: rest => longBasicText (rest.length + 1) (withoutBreak rest)
  | '\'' :: '\'' :: '\'' :: rest => longLiteralText (rest.length + 1) (withoutBreak rest)
  | '"' :: rest => basicText (rest.length + 1) rest
  | '\'' :: rest => literalText rest
  | _ => none

/-! ## Numbers -/

/-- Digits with single underscores between them, and what follows. -/
def spanGrouped (isDigit : Char → Bool) : List Char → List Char × List Char
  | c :: '_' :: d :: rest =>
    if isDigit c then
      if isDigit d then
        let (more, rest) := spanGrouped isDigit (d :: rest)
        (c :: more, rest)
      else ([c], '_' :: d :: rest)
    else ([], c :: '_' :: d :: rest)
  | c :: rest =>
    if isDigit c then
      let (more, rest) := spanGrouped isDigit rest
      (c :: more, rest)
    else ([], c :: rest)
  | [] => ([], [])

/-- A whole number in 64 bits with a sign. -/
def word64? (n : Int) : Option Tree :=
  if Word.holdsSigned 64 n then some (.integer n) else none

/-- A whole number in another base, behind its two characters of introduction. -/
def basedNumber? (base : Nat) (isDigit : Char → Bool) (cs : List Char) : Option (Tree × List Char) := do
  let (digits, rest) := spanGrouped isDigit cs
  if digits.isEmpty then none
  else
    let n := digits.foldl (fun n c => n * base + (Text.hexValue? c).getD 0) 0
    pure (← word64? n, rest)

/-- The fraction of a number, if one stands there: its digits, and what follows. -/
def fraction? : List Char → Option (Option (List Char) × List Char)
  | '.' :: rest =>
    let (digits, rest) := spanGrouped Char.isDigit rest
    if digits.isEmpty then none else some (some digits, rest)
  | rest => some (none, rest)

/-- The exponent of a number, if one stands there, and what follows. -/
def exponent? (cs : List Char) : Option (Option Int × List Char) :=
  match cs with
  | [] => some (none, [])
  | c :: rest =>
    if c = 'e' ∨ c = 'E' then
      let (negative, rest) := match rest with
        | '-' :: rest => (true, rest)
        | '+' :: rest => (false, rest)
        | rest => (false, rest)
      let (digits, rest) := spanGrouped Char.isDigit rest
      if digits.isEmpty then none
      else
        let n : Int := Text.digitsValue digits
        some (some (if negative then -n else n), rest)
    else some (none, c :: rest)

/-- A decimal number behind its sign. What is larger than every double is refused, but only above zero. -/
def decimalNumber? (negative : Bool) (cs : List Char) : Option (Tree × List Char) := do
  let (whole, rest) := spanGrouped Char.isDigit cs
  if whole.isEmpty || (whole.head? == some '0' && 1 < whole.length) then none
  else
    let (fraction, rest) ← fraction? rest
    let (exponent, rest) ← exponent? rest
    match fraction, exponent with
    | none, none =>
      let n : Int := Text.digitsValue whole
      pure (← word64? (if negative then -n else n), rest)
    | fraction, exponent =>
      let fraction := fraction.getD []
      let x := Decimal.nearest (Text.digitsValue (whole ++ fraction)) (exponent.getD 0 - fraction.length)
      if x.isInf && !negative then none else pure (.real (Binary64.signed negative x), rest)

/-- A number, with or without a sign. -/
def number? : List Char → Option (Tree × List Char)
  | '0' :: 'x' :: rest => basedNumber? 16 (fun c => (Text.hexValue? c).isSome) rest
  | '0' :: 'o' :: rest => basedNumber? 8 (fun c => '0' ≤ c && c ≤ '7') rest
  | '0' :: 'b' :: rest => basedNumber? 2 (fun c => c == '0' || c == '1') rest
  | cs =>
    let (negative, body) := match cs with
      | '-' :: rest => (true, rest)
      | '+' :: rest => (false, rest)
      | rest => (false, rest)
    match body with
    | 'i' :: 'n' :: 'f' :: rest => some (.real (Binary64.signed negative Decimal.infinity), rest)
    | 'n' :: 'a' :: 'n' :: rest => some (.real Decimal.notANumber, rest)
    | body => decimalNumber? negative body

/-! ## Times -/

/-- A number of exactly `width` digits. -/
def fixedDigits? (width : Nat) (cs : List Char) : Option (Nat × List Char) :=
  let digits := cs.take width
  if digits.length = width ∧ digits.all Char.isDigit then some (Text.digitsValue digits, cs.drop width) else none

/-- What follows a given character. -/
def after? (c : Char) : List Char → Option (List Char)
  | x :: rest => if x = c then some rest else none
  | [] => none

/-- What follows a day. -/
def afterDate? (cs : List Char) : Option (List Char) := do
  let (year, rest) ← fixedDigits? 4 cs
  let (month, rest) ← fixedDigits? 2 (← after? '-' rest)
  let (day, rest) ← fixedDigits? 2 (← after? '-' rest)
  if 1 ≤ month ∧ month ≤ 12 ∧ 1 ≤ day ∧ day ≤ daysInMonth year month then some rest else none

/-- What follows a time of day. -/
def afterTime? (cs : List Char) : Option (List Char) := do
  let (hour, rest) ← fixedDigits? 2 cs
  let (minute, rest) ← fixedDigits? 2 (← after? ':' rest)
  let (second, rest) ← fixedDigits? 2 (← after? ':' rest)
  let rest ← match rest with
    | '.' :: rest =>
      let (digits, rest) := Decimal.spanDigits rest
      if digits.isEmpty then none else some rest
    | rest => some rest
  if hour < 24 ∧ minute < 60 ∧ second ≤ 60 then some rest else none

/-- What follows the distance from universal time, if it is given. -/
def afterOffset? (cs : List Char) : Option (List Char) :=
  match cs with
  | 'Z' :: rest | 'z' :: rest => some rest
  | c :: rest =>
    if c = '+' ∨ c = '-' then do
      let (hour, rest) ← fixedDigits? 2 rest
      let (minute, rest) ← fixedDigits? 2 (← after? ':' rest)
      if hour < 24 ∧ minute < 60 then some rest else none
    else some (c :: rest)
  | [] => some []

/-- A day, a time of day, or both; such a value has no place in the ledger. -/
def time? (cs : List Char) : Option (Tree × List Char) :=
  match afterDate? cs with
  | some rest =>
    match rest with
    | c :: later =>
      if c = 'T' ∨ c = 't' ∨ (c = ' ' ∧ (later.head?.map Char.isDigit).getD false) then
        ((afterTime? later).bind afterOffset?).map fun rest => (.foreign, rest)
      else some (.foreign, rest)
    | [] => some (.foreign, [])
  | none => (afterTime? cs).map fun rest => (.foreign, rest)

end Toml

end SpendLedger
