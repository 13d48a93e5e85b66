import SpendLedger.Number.Binary64

/-!
# Decimal text of doubles

Reading a decimal to the nearest double, the fewest digits that read back, and the ways in which they are laid out:
plain, with a decimal point always, as JSON writes numbers, and with a fixed number of places.
-/

namespace SpendLedger

namespace Decimal

/-- The double nearest to `significand * 10 ^ exponent`; far outside the range it is zero or infinite, so that no
power of ten is larger than the digits need. -/
def nearest (significand : Nat) (exponent : Int) : Float :=
  let size : Int := (Nat.toDigits 10 significand).length
  if significand = 0 ∨ size + exponent < -400 then Float.ofNat 0
  else if 400 < size + exponent then Float.ofBits 0x7FF0000000000000
  else if exponent < 0 then Float.ofScientific significand true exponent.natAbs
  else Float.ofScientific significand false exponent.natAbs

/-- The positive infinity. -/
def infinity : Float := Float.ofBits 0x7FF0000000000000

/-- The value that is no number. -/
def notANumber : Float := Float.ofBits 0x7FF8000000000000

/-! ## Reading -/

/-- The digits at the front and what follows them. -/
def spanDigits (cs : List Char) : List Char × List Char :=
  (cs.takeWhile Char.isDigit, cs.dropWhile Char.isDigit)

/-- An exponent with its optional sign: at least one digit, and nothing after it. -/
def exponent? : List Char → Option Int
  | '-' :: cs => if !cs.isEmpty && cs.all Char.isDigit then some (-(Text.digitsValue cs : Int)) else none
  | '+' :: cs => if !cs.isEmpty && cs.all Char.isDigit then some (Text.digitsValue cs) else none
  | cs => if !cs.isEmpty && cs.all Char.isDigit then some (Text.digitsValue cs) else none

/-- An unsigned decimal: digits with at most one point among or around them, then perhaps `e` and an exponent. -/
def unsigned? (cs : List Char) : Option Float :=
  let (whole, rest) := spanDigits cs
  let (fraction, rest) := match rest with
    | '.' :: rest => spanDigits rest
    | rest => ([], rest)
  if whole.isEmpty && fraction.isEmpty then none
  else
    let significand := Text.digitsValue (whole ++ fraction)
    match rest with
    | [] => some (nearest significand (-(fraction.length : Int)))
    | e :: rest =>
      if e = 'e' ∨ e = 'E' then (exponent? rest).map fun k => nearest significand (k - fraction.length) else none

/-- A number with its optional sign, or one of the names `inf`, `infinity` and `nan` in any case. -/
def read? (cs : List Char) : Option Float :=
  let (negative, body) := match cs with
    | '-' :: rest => (true, rest)
    | '+' :: rest => (false, rest)
    | rest => (false, rest)
  let name := body.map Char.toLower
  if name = "inf".toList ∨ name = "infinity".toList then some (Binary64.signed negative infinity)
  else if name = "nan".toList then some notANumber
  else (unsigned? body).map (Binary64.signed negative)

/-! ## The fewest digits -/

/-- A positive decimal `significand * 10 ^ exponent`. -/
structure Digits where
  significand : Nat
  exponent : Int
deriving Repr, DecidableEq

/-- A fraction of naturals that equals `significand * base ^ exponent`. -/
def scaled (significand base : Nat) (exponent : Int) : Nat × Nat :=
  if exponent < 0 then (significand, Nat.pow base exponent.natAbs) else (significand * Nat.pow base exponent.natAbs, 1)

/-- The number of digits before the point of `n / d`, counted below zero when zeros follow the point. -/
def magnitude (n d : Nat) : Int :=
  let k : Int := (Nat.toDigits 10 n).length - (Nat.toDigits 10 d).length
  let below := if k < 0 then decide (n * Nat.pow 10 k.natAbs < d) else decide (n < d * Nat.pow 10 k.natAbs)
  if below then k else k + 1

/-- Which of two equally near decimals is written. -/
inductive Tie where
  | up
  /-- The one whose last digit is even. -/
  | even
deriving Repr, DecidableEq

/-- Whether a remainder of a division by `b` is better dropped than rounded up, after the quotient `low`. -/
def Tie.keepsLow (tie : Tie) (low remainder b : Nat) : Bool :=
  decide (2 * remainder < b) || (decide (2 * remainder = b) && tie = .even && low % 2 == 0)

/-- The decimal among the two neighbours of `n / d` with power of ten `k` that reads back as `x`, the nearer of both. -/
def neighbour? (tie : Tie) (x : Float) (n d : Nat) (k : Int) : Option Digits :=
  let (a, b) := if k < 0 then (n * Nat.pow 10 k.natAbs, d) else (n, d * Nat.pow 10 k.natAbs)
  let low := a / b
  let lowReads := decide (nearest low k = x)
  let highReads := decide (nearest (low + 1) k = x)
  if lowReads && (!highReads || tie.keepsLow low (a % b) b) then some ⟨low, k⟩
  else if highReads then some ⟨low + 1, k⟩
  else none

/-- The first answer of a search through the digit counts, `fuel` of them from `count`. -/
def searchDigits (tie : Tie) (x : Float) (n d : Nat) (size : Int) : Nat → Nat → Option Digits
  | 0, _ => none
  | fuel + 1, count => (neighbour? tie x n d (size - count)).or (searchDigits tie x n d size fuel (count + 1))

/-- A decimal without the zeros at its end. -/
def stripZeros (significand : Nat) (exponent : Int) : Digits :=
  if h : significand % 10 = 0 ∧ 0 < significand then stripZeros (significand / 10) (exponent + 1)
  else ⟨significand, exponent⟩
termination_by significand
decreasing_by omega

/-- The decimal with the fewest digits that reads back as a positive finite double, and of these the nearest. Seventeen
digits are always enough; should none of them read back, every digit is written. -/
def shortest (tie : Tie) (x : Float) : Digits :=
  let p := Binary64.parts x
  let (n, d) := scaled p.significand 2 p.exponent
  match searchDigits tie x n d (magnitude n d) 17 1 with
  | some found => stripZeros found.significand found.exponent
  | none =>
    if p.exponent < 0 then stripZeros (p.significand * Nat.pow 5 p.exponent.natAbs) p.exponent else stripZeros n 0

/-! ## Layouts -/

/-- The text of the values that are not finite. -/
def specialText (x : Float) : String :=
  if x.isNaN then "NaN" else if Binary64.isNegative x then "-inf" else "inf"

/-- The sign that stands before a number. -/
def sign (x : Float) : String :=
  if Binary64.isNegative x then "-" else ""

/-- Zeros in a row. -/
def zeros (n : Nat) : List Char :=
  List.replicate n '0'

/-- Digits with the point after the first `point` of them, and zeros where digits are missing. -/
def positional (digits : List Char) (point : Int) : List Char × List Char :=
  if point ≤ 0 then (['0'], zeros point.natAbs ++ digits)
  else if digits.length ≤ point.natAbs then (digits ++ zeros (point.natAbs - digits.length), [])
  else (digits.take point.natAbs, digits.drop point.natAbs)

/-- How the digits of a positive double are written and where its point stands. -/
def digitsAndPoint (tie : Tie) (x : Float) : List Char × Int :=
  let s := shortest tie x
  let digits := Nat.toDigits 10 s.significand
  (digits, digits.length + s.exponent)

/-- A positional number whose point is left out when nothing follows it. -/
def withoutEmptyPoint : List Char × List Char → String
  | (whole, []) => String.ofList whole
  | (whole, fraction) => String.ofList (whole ++ '.' :: fraction)

/-- A positional number with at least one digit after its point. -/
def withPoint : List Char × List Char → String
  | (whole, []) => String.ofList (whole ++ ['.', '0'])
  | (whole, fraction) => String.ofList (whole ++ '.' :: fraction)

/-- Digits in scientific notation: one digit, the others after a point, `e` and the exponent. -/
def scientific (digits : List Char) (exponentText : String) : String :=
  match digits with
  | [] => "0e" ++ exponentText
  | [c] => String.ofList [c] ++ "e" ++ exponentText
  | c :: rest => String.ofList (c :: '.' :: rest) ++ "e" ++ exponentText

/-- A number written out in full, never with an exponent. -/
def plain (x : Float) : String :=
  if !x.isFinite then specialText x
  else if x == Float.ofNat 0 then sign x ++ "0"
  else
    let (digits, point) := digitsAndPoint .up x.abs
    sign x ++ withoutEmptyPoint (positional digits point)

/-- A number as diagnostics show it: with a point always, and with an exponent below `0.0001` and from `1e16` on. -/
def diagnostic (x : Float) : String :=
  if !x.isFinite then specialText x
  else if x == Float.ofNat 0 then sign x ++ "0.0"
  else
    let (digits, point) := digitsAndPoint .up x.abs
    if point ≤ -4 ∨ 16 < point then sign x ++ scientific digits (toString (point - 1))
    else sign x ++ withPoint (positional digits point)

/-- A finite number as JSON shows it: with a point always, and with a signed exponent below `0.00001` and from `1e16`
on. -/
def json (x : Float) : String :=
  if x == Float.ofNat 0 then sign x ++ "0.0"
  else
    let (digits, point) := digitsAndPoint .even x.abs
    if point ≤ -5 ∨ 16 < point then
      sign x ++ scientific digits ((if 0 < point then "+" else "") ++ toString (point - 1))
    else sign x ++ withPoint (positional digits point)

/-- A number with a fixed count of places, the exact value rounded with halves to the even neighbour. -/
def fixed (places : Nat) (x : Float) : String :=
  if !x.isFinite then specialText x
  else
    let p := Binary64.parts x
    let (n, d) := scaled p.significand 2 p.exponent
    let digits := Nat.toDigits 10 (Binary64.divHalfEven (n * Nat.pow 10 places) d)
    let digits := zeros (places + 1 - digits.length) ++ digits
    let whole := digits.take (digits.length - places)
    let fraction := digits.drop (digits.length - places)
    sign x ++ withoutEmptyPoint (whole, fraction)

/-- A number with a fixed count of places and a sign always, unless it is no number. -/
def fixedSigned (places : Nat) (x : Float) : String :=
  if x.isNaN || Binary64.isNegative x then fixed places x else "+" ++ fixed places x

end Decimal

end SpendLedger
