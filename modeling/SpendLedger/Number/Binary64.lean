import SpendLedger.Number.Word
import SpendLedger.Text.Basic

/-!
# Doubles, exactly

What a double is as an exact number, and the two operations on it that need this: rounding to a whole number with
halves away from zero, and the place of a double in the total order of all of them.
-/

namespace SpendLedger

namespace Binary64

/-- A finite double, read as `significand * 2 ^ exponent` with a sign. -/
structure Parts where
  negative : Bool
  /-- The significand, below `2 ^ 53`. -/
  significand : Nat
  /-- The power of two, at least `-1074`. -/
  exponent : Int
deriving Repr, DecidableEq

/-- The parts of a finite double; of the others the answer has no meaning. -/
def parts (x : Float) : Parts :=
  let bits := x.toBits.toNat
  let field : Nat := bits / Word.values 52 % Word.values 11
  let fraction : Nat := bits % Word.values 52
  { negative := !Word.holds 63 bits
    significand := if field = 0 then fraction else fraction + Word.values 52
    exponent := Int.ofNat (if field = 0 then 1 else field) - 1075 }

/-- Whether the sign bit is set; also true of `-0.0`. -/
def isNegative (x : Float) : Bool :=
  !Word.holds 63 x.toBits.toNat

/-- A double with a sign put before it. -/
def signed (negative : Bool) (x : Float) : Float :=
  if negative then -x else x

/-- The quotient of two numbers, rounded to the nearest whole number, halves up. -/
def divHalfUp (n d : Nat) : Nat :=
  (2 * n + d) / (2 * d)

/-- The quotient of two numbers, rounded to the nearest whole number, halves to the even neighbour. -/
def divHalfEven (n d : Nat) : Nat :=
  let q := n / d
  let r := n % d
  if 2 * r < d then q else if d < 2 * r then q + 1 else q + q % 2

/-- The nearest whole number, halves away from zero; the sign stays, so `-0.3` gives `-0.0`. -/
def roundHalfAway (x : Float) : Float :=
  let p := parts x
  if x.isFinite && decide (p.exponent < 0) then
    signed p.negative (Float.ofNat (divHalfUp p.significand (Nat.pow 2 p.exponent.natAbs)))
  else x

/-- The place of a double among all of them: negative ones first, `-0.0` just before `0.0`, the infinities outermost
but for the values that are no number. -/
def rank (x : Float) : Int :=
  let bits := x.toBits.toNat
  if Word.holds 63 bits then bits else (Word.values 63 : Int) - 1 - bits

end Binary64

end SpendLedger
