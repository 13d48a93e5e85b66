import SpendLedger.Text.Basic

/-!
# Names outside ASCII

The bootstring code by which a label of a domain is written in ASCII: first its ASCII characters, then, in the order of
their code points, the distances to the places of all others.
-/

namespace SpendLedger

namespace Url

namespace Punycode

/-- A digit below 36: letters first, then decimal digits. -/
def digit (n : Nat) : Char :=
  if n < 26 then Char.ofNat (97 + n) else Char.ofNat (22 + n)

/-- The threshold of the digit at a position. -/
def threshold (k bias : Nat) : Nat :=
  if k ≤ bias then 1 else if bias + 26 ≤ k then 26 else k - bias

/-- The distance divided down until it is small, and the bias gathered on the way. -/
def shrink (delta k : Nat) : Nat × Nat :=
  if 455 < delta then shrink (delta / 35) (k + 36) else (delta, k)
termination_by delta
decreasing_by exact Nat.div_lt_self (by omega) (by omega)

/-- The bias for the next distance. -/
def adapt (delta count : Nat) (isFirst : Bool) : Nat :=
  let delta := if isFirst then delta / 700 else delta / 2
  let (delta, k) := shrink (delta + delta / count) 0
  k + 36 * delta / (delta + 38)

/-- A distance in digits of changing base; `fuel` bounds their number. -/
def digits (bias : Nat) : Nat → Nat → Nat → List Char
  | 0, _, _ => []
  | fuel + 1, k, q =>
    let t := threshold k bias
    if q < t then [digit q]
    else digit (t + (q - t) % (36 - t)) :: digits bias fuel (k + 36) ((q - t) / (36 - t))

/-- The code on its way through a label. -/
structure Progress where
  /-- What is written so far. -/
  written : List Char
  /-- The distance since the last character that was written. -/
  delta : Nat
  bias : Nat
  handled : Nat

/-- One character seen while those with code point `n` are written. -/
def visit (basic n : Nat) (p : Progress) (c : Char) : Progress :=
  if c.toNat < n then { p with delta := p.delta + 1 }
  else if c.toNat = n then
    { written := p.written ++ digits p.bias (p.delta + 2) 36 p.delta
      delta := 0
      bias := adapt p.delta (p.handled + 1) (p.handled == basic)
      handled := p.handled + 1 }
  else p

/-- The code of the characters with the given code points, which increase; `n` is where the last one left off. -/
def writeFrom (label : List Char) (basic : Nat) : List Nat → Nat → Progress → List Char
  | [], _, p => p.written
  | m :: later, n, p =>
    let p := label.foldl (visit basic m) { p with delta := p.delta + (m - n) * (p.handled + 1) }
    writeFrom label basic later (m + 1) { p with delta := p.delta + 1 }

/-- A label in ASCII. -/
def encode (label : List Char) : List Char :=
  let basic := label.filter fun c => c.toNat < 128
  let others := ((label.filter fun c => 128 ≤ c.toNat).map Char.toNat).mergeSort.eraseDups
  if others.isEmpty then label
  else
    let start := if basic.isEmpty then [] else basic ++ ['-']
    ['x', 'n', '-', '-'] ++
      writeFrom label basic.length others 128 ⟨start, 0, 72, basic.length⟩

end Punycode

end Url

end SpendLedger
