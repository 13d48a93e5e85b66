import SpendLedger.Url.Encoding
import SpendLedger.Url.Punycode

/-!
# Hosts

The name or the number of the machine that an address leads to. A name whose last label is a number is read as an
address of four bytes, and what stands in brackets as one of eight words.
-/

namespace SpendLedger

namespace Url

/-- Why a text is no address. -/
inductive Fault where
  | relative
  | emptyHost
  | port
  | ipv6
  | ipv4
  | hostCharacter
  | internationalName
deriving DecidableEq, Repr

/-- The wording of a fault. -/
def Fault.message : Fault → String
  | relative => "relative URL without a base"
  | emptyHost => "empty host"
  | port => "invalid port number"
  | ipv6 => "invalid IPv6 address"
  | ipv4 => "invalid IPv4 address"
  | hostCharacter => "invalid domain character"
  | internationalName => "invalid international domain name"

/-! ## Four bytes -/

/-- A number in decimal, or in the base that its beginning names. -/
def ipv4Number? (cs : List Char) : Option Nat :=
  match cs with
  | [] => none
  | '0' :: 'x' :: rest | '0' :: 'X' :: rest => Text.hexDigitsValue? rest
  | '0' :: c :: rest =>
    if (c :: rest).all fun c => '0' ≤ c && c ≤ '7' then
      some ((c :: rest).foldl (fun n c => n * 8 + (c.toNat - '0'.toNat)) 0)
    else none
  | cs => if cs.all Char.isDigit then some (Text.digitsValue cs) else none

/-- The labels of a name, without an empty one at its end. -/
def labels (name : List Char) : List (List Char) :=
  let all := Text.pieces '.' name
  if all.getLast? = some [] then all.dropLast else all

/-- Whether a name ends in a number. -/
def endsInNumber (name : List Char) : Bool :=
  match (labels name).getLast? with
  | none => false
  | some last => (!last.isEmpty && last.all Char.isDigit) || (ipv4Number? last).isSome

/-- An address of four bytes: the last number fills all bytes that are left. -/
def readIpv4 (name : List Char) : Except Fault (List Char) :=
  let parts := labels name
  match parts.mapM ipv4Number? with
  | none => .error .ipv4
  | some numbers =>
    let firsts := numbers.dropLast
    let last := numbers.getLast?.getD 0
    if 4 < parts.length ∨ firsts.any (255 < ·) ∨ Nat.pow 256 (4 - firsts.length) ≤ last then .error .ipv4
    else
      let value := firsts.zipIdx.foldl (fun sum p => sum + p.1 * Nat.pow 256 (3 - p.2)) last
      let bytes := [value / Nat.pow 256 3 % 256, value / Nat.pow 256 2 % 256, value / 256 % 256, value % 256]
      .ok (Text.joined "." (bytes.map toString)).toList

/-! ## Eight words -/

/-- A word of at most four hexadecimal digits. -/
def word? (cs : List Char) : Option Nat :=
  if cs.isEmpty || 4 < cs.length then none else Text.hexDigitsValue? cs

/-- Four decimal bytes without leading zeros, as two words. -/
def embedded? (cs : List Char) : Option (List Nat) :=
  match (Text.pieces '.' cs).mapM fun p =>
      if p.isEmpty || !p.all Char.isDigit || (1 < p.length && p.head? == some '0') || 255 < Text.digitsValue p then none
      else some (Text.digitsValue p) with
  | some [a, b, c, d] => some [a * 256 + b, c * 256 + d]
  | _ => none

/-- Words with colons between them; the last one may be four bytes instead. -/
def words? : List (List Char) → Option (List Nat)
  | [] => some []
  | [last] => if last.contains '.' then embedded? last else (word? last).map fun w => [w]
  | w :: rest => do
    let w ← word? w
    let rest ← words? rest
    pure (w :: rest)

/-- Words with colons between them, or none. -/
def wordGroup? (cs : List Char) : Option (List Nat) :=
  if cs.isEmpty then some [] else words? (Text.pieces ':' cs)

/-- What stands before and after the first double colon. -/
def splitGap : List Char → Option (List Char × List Char)
  | [] => none
  | ':' :: ':' :: rest => some ([], rest)
  | c :: rest => (splitGap rest).map fun (a, b) => (c :: a, b)

/-- The eight words of an address; a double colon stands for zeros. -/
def ipv6Words? (cs : List Char) : Option (List Nat) :=
  match splitGap cs with
  | none => do
    let ws ← wordGroup? cs
    if ws.length = 8 then some ws else none
  | some (before, after) => do
    let a ← if before.contains '.' then none else wordGroup? before
    let b ← wordGroup? after
    if a.length + b.length < 8 then some (a ++ List.replicate (8 - a.length - b.length) 0 ++ b) else none

/-- The length of the row of zeros at the front. -/
def zerosAt (ws : List Nat) : Nat :=
  (ws.takeWhile (· == 0)).length

/-- Where the longest row of at least two zeros starts, and its length; the first of several. -/
def longestZeros (ws : List Nat) : Nat × Nat :=
  (List.range 8).foldl (fun best i =>
    let n := zerosAt (ws.drop i)
    if best.2 < n ∧ 1 < n then (i, n) else best) (0, 0)

/-- Words in hexadecimal with colons between them. -/
def wordsText (ws : List Nat) : String :=
  Text.joined ":" (ws.map fun w => String.ofList (Nat.toDigits 16 w))

/-- An address of eight words, its longest row of zeros left out. -/
def ipv6Text (ws : List Nat) : String :=
  let (start, length) := longestZeros ws
  if length = 0 then wordsText ws
  else wordsText (ws.take start) ++ "::" ++ wordsText (ws.drop (start + length))

/-! ## Names -/

/-- The characters that no name has. -/
def forbiddenInName (c : Char) : Bool :=
  isControl c || [' ', '%', '#', '/', ':', '<', '>', '?', '@', '[', '\\', ']', '^', '|'].contains c

/-- The characters that no host has whose scheme gives it no meaning. -/
def forbiddenInOpaqueHost (c : Char) : Bool :=
  ['\x00', '\t', '\n', '\r', ' ', '#', '/', ':', '<', '>', '?', '@', '[', '\\', ']', '^', '|'].contains c

/-- The address in brackets, when a host begins with one. -/
def readBracketed (cs : List Char) : Except Fault (List Char) :=
  if cs.getLast? = some ']' then
    match ipv6Words? cs.dropLast with
    | some ws => .ok ("[" ++ ipv6Text ws ++ "]").toList
    | none => .error .ipv6
  else .error .ipv6

/-- The host of an address with a common scheme. -/
def readHost : List Char → Except Fault (List Char)
  | '[' :: rest => readBracketed rest
  | cs => do
    let some name := decoded? cs | .error .internationalName
    let name := name.map Char.toLower
    if name.any forbiddenInName then .error .internationalName
    else
      let name := List.intercalate ['.'] ((Text.pieces '.' name).map Punycode.encode)
      if name.isEmpty then .error .emptyHost
      else if endsInNumber name then readIpv4 name
      else pure name

/-- The host of an address with any other scheme. -/
def readOpaqueHost : List Char → Except Fault (List Char)
  | '[' :: rest => readBracketed rest
  | cs => if cs.any forbiddenInOpaqueHost then .error .hostCharacter else .ok (encoded isControl cs)

end Url

end SpendLedger
