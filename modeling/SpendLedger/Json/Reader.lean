import SpendLedger.Number.Decimal
import SpendLedger.Number.Word
import SpendLedger.Tree.Basic

/-!
# Reading JSON

Every part is read from the front of the characters and gives back what follows it. A number's digits are taken into a
word of 64 bits as long as they fit and then scaled by a power of ten, so that very long numbers may end up beside the
nearest double.
-/

namespace SpendLedger

namespace Json

/-- Whether a character may stand between two parts. -/
def isSpace (c : Char) : Bool :=
  c == ' ' || c == '\n' || c == '\t' || c == '\r'

/-- The characters from the next part on. -/
def skip (cs : List Char) : List Char :=
  cs.dropWhile isSpace

/-! ## Texts -/

/-- The code units between two quotes, and what follows the second: characters as they are, escapes resolved. -/
def units : List Char → Option (List Nat × List Char)
  | [] => none
  | '"' :: rest => some ([], rest)
  | '\\' :: 'u' :: a :: b :: c :: d :: rest => do
    let unit ← Text.hexDigitsValue? [a, b, c, d]
    let (more, rest) ← units rest
    pure (unit :: more, rest)
  | '\\' :: e :: rest => do
    let unit ← match e with
      | '"' => some 0x22
      | '\\' => some 0x5C
      | '/' => some 0x2F
      | 'b' => some 8
      | 'f' => some 12
      | 'n' => some 10
      | 'r' => some 13
      | 't' => some 9
      | _ => none
    let (more, rest) ← units rest
    pure (unit :: more, rest)
  | c :: rest =>
    if c.toNat < 32 then none
    else do
      let (more, rest) ← units rest
      pure (c.toNat :: more, rest)

/-- The characters that code units stand for, if no half of a pair stands alone. -/
def characters? : List Nat → Option (List Char)
  | [] => some []
  | [unit] => (Text.charOf? unit).map fun c => [c]
  | unit :: low :: rest =>
    if 0xD800 ≤ unit ∧ unit < 0xDC00 ∧ 0xDC00 ≤ low ∧ low < 0xE000 then do
      let c ← Text.charOf? (0x10000 + (unit - 0xD800) * 0x400 + (low - 0xDC00))
      let more ← characters? rest
      pure (c :: more)
    else do
      let c ← Text.charOf? unit
      let more ← characters? (low :: rest)
      pure (c :: more)

/-! ## Numbers -/

/-- Digits appended to a word of 64 bits, and how many of them did not fit. -/
def fill (word : Nat) : List Char → Nat × Nat
  | [] => (word, 0)
  | c :: cs =>
    let next := word * 10 + (c.toNat - '0'.toNat)
    if Word.holds 64 next then fill next cs else (word, cs.length + 1)

/-- A word times a power of ten, each step rounded; nothing above the largest double. -/
def scale? (word : Nat) (exponent : Int) : Option Float :=
  let f := Float.ofNat word
  let power (k : Nat) : Float := Decimal.nearest 1 k
  if 0 ≤ exponent then
    if exponent ≤ 308 then
      let scaled := f * power exponent.natAbs
      if scaled.isInf then none else some scaled
    else if word = 0 then some f else none
  else if exponent.natAbs ≤ 308 then some (f / power exponent.natAbs)
  else if exponent.natAbs ≤ 616 then some (f / power 308 / power (exponent.natAbs - 308))
  else some (Float.ofNat 0)

/-- The exponent of a number, if one stands there: its value, and what follows. -/
def readExponent : List Char → Option (Int × List Char)
  | [] => some (0, [])
  | c :: cs =>
    if c = 'e' ∨ c = 'E' then
      let (negative, cs) := match cs with
        | '-' :: cs => (true, cs)
        | '+' :: cs => (false, cs)
        | cs => (false, cs)
      let (digits, rest) := Decimal.spanDigits cs
      if digits.isEmpty then none
      else some (if negative then -(Text.digitsValue digits : Int) else Text.digitsValue digits, rest)
    else some (0, c :: cs)

/-- A whole number without a fraction or exponent: inside 64 bits it stays whole, and `-0` is a double. -/
def wholeNumber (negative : Bool) (digits : List Char) : Tree :=
  let n := Text.digitsValue digits
  if negative then
    if n = 0 then .real (-Float.ofNat 0)
    else if Word.holdsSigned 64 (-(n : Int)) then .integer (-(n : Int))
    else realNumber
  else if Word.holds 64 n then .integer n
  else realNumber
where
  realNumber : Tree :=
    let (word, dropped) := fill 0 digits
    match scale? word dropped with
    | some x => .real (Binary64.signed negative x)
    | none => .foreign

/-- A number after its sign. -/
def readUnsigned (negative : Bool) (cs : List Char) : Option (Tree × List Char) := do
  let (whole, rest) := Decimal.spanDigits cs
  if whole.isEmpty || (whole.head? == some '0' && 1 < whole.length) then none
  else
    let (fraction, rest) ← match rest with
      | '.' :: rest =>
        let (fraction, rest) := Decimal.spanDigits rest
        if fraction.isEmpty then none else some (some fraction, rest)
      | rest => some (none, rest)
    let hasExponent := match rest with
      | c :: _ => c == 'e' || c == 'E'
      | [] => false
    if fraction.isNone && !hasExponent then pure (wholeNumber negative whole, rest)
    else
      let (exponent, rest) ← readExponent rest
      let (word, dropped) := fill 0 whole
      let (word, used) := match fraction with
        | none => (word, 0)
        | some fraction =>
          let (word, left) := fill word fraction
          (word, fraction.length - left)
      let value := match scale? word (exponent + dropped - used) with
        | some x => .real (Binary64.signed negative x)
        | none => .foreign
      pure (value, rest)

/-- A number. -/
def readNumber : List Char → Option (Tree × List Char)
  | '-' :: cs => readUnsigned true cs
  | cs => readUnsigned false cs

/-! ## Values -/

mutual

/-- A value at the front; `fuel` bounds the parts that are read. -/
def readValue : Nat → List Char → Option (Tree × List Char)
  | 0, _ => none
  | fuel + 1, cs =>
    match skip cs with
    | '"' :: rest => do
      let (units, rest) ← units rest
      pure (match characters? units with
        | some cs => (.text (String.ofList cs), rest)
        | none => (.foreign, rest))
    | '[' :: rest =>
      match skip rest with
      | ']' :: rest => some (.list [], rest)
      | rest => (readItems fuel rest).map fun (items, rest) => (.list items, rest)
    | '{' :: rest =>
      match skip rest with
      | '}' :: rest => some (.fields [], rest)
      | rest => do
        let (entries, complete, rest) ← readMembers fuel rest
        pure (if complete then .fields entries else .foreign, rest)
    | 'n' :: 'u' :: 'l' :: 'l' :: rest => some (.null, rest)
    | 't' :: 'r' :: 'u' :: 'e' :: rest => some (.bool true, rest)
    | 'f' :: 'a' :: 'l' :: 's' :: 'e' :: rest => some (.bool false, rest)
    | rest => readNumber rest

/-- The values of a list that is not empty, up to its closing bracket. -/
def readItems : Nat → List Char → Option (List Tree × List Char)
  | 0, _ => none
  | fuel + 1, cs => do
    let (item, rest) ← readValue fuel cs
    match skip rest with
    | ',' :: rest => do
      let (items, rest) ← readItems fuel rest
      pure (item :: items, rest)
    | ']' :: rest => pure ([item], rest)
    | _ => none

/-- The named values of a group that is not empty, up to its closing brace, and whether all names are whole. -/
def readMembers : Nat → List Char → Option (List (String × Tree) × Bool × List Char)
  | 0, _ => none
  | fuel + 1, cs =>
    match skip cs with
    | '"' :: rest => do
      let (units, rest) ← units rest
      let key := characters? units
      match skip rest with
      | ':' :: rest => do
        let (value, rest) ← readValue fuel rest
        let entry := (String.ofList (key.getD []), value)
        match skip rest with
        | ',' :: rest => do
          let (entries, complete, rest) ← readMembers fuel rest
          pure (entry :: entries, key.isSome && complete, rest)
        | '}' :: rest => pure ([entry], key.isSome, rest)
        | _ => none
      | _ => none
    | _ => none

end

/-- Reads a document: one value with nothing but space around it. -/
def read? (s : String) : Option Tree := do
  let cs := s.toList
  let (value, rest) ← readValue (cs.length + 1) cs
  if (skip rest).isEmpty then pure value else none

/-- The depth from which on a document is refused when it is kept whole. -/
def maxDepth : Nat := 128

/-- Reads a document that is kept whole: every value must have a place, and of a name that comes twice the last value
counts. -/
def readWhole? (s : String) : Option Tree := do
  let tree ← read? s
  if tree.depth < maxDepth then tree.settled? else none

end Json

end SpendLedger
