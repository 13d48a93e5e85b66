import SpendLedger.Number.Binary64

/-!
# Amounts

The numbers that a ledger keeps. The ledger that runs keeps doubles; its sums, projections and comparisons are said for
every type of amounts, so that the same definitions can be read over exact rationals, where rounding does not disturb
the laws of arithmetic.
-/

namespace SpendLedger

/-- What the ledger asks of its numbers. -/
class Amount (α : Type) extends Add α, Sub α, Mul α, Div α where
  ofNat : Nat → α
  emptySum : α
  lt : α → α → Bool
  le : α → α → Bool
  isNaN : α → Bool
  isFinite : α → Bool
  roundHalfAway : α → α
  atLeast : α → α → Bool

/-- A rational rounded to the nearest whole number, halves away from zero. -/
def Rat.roundHalfAway (x : Rat) : Rat :=
  if x < 0 then -((-x + 1 / 2).floor : Rat) else ((x + 1 / 2).floor : Rat)

/-- Doubles: the sum of none of them is `-0.0`, which leaves every first summand as it is. -/
instance : Amount Float where
  ofNat := Float.ofNat
  emptySum := -Float.ofNat 0
  lt := Float.lt
  le := Float.le
  isNaN := Float.isNaN
  isFinite := Float.isFinite
  roundHalfAway := Binary64.roundHalfAway
  atLeast x y := decide (Binary64.rank y ≤ Binary64.rank x)

/-- Exact rationals, all of them finite numbers. -/
instance : Amount Rat where
  ofNat n := n
  emptySum := 0
  lt x y := decide (x < y)
  le x y := decide (x ≤ y)
  isNaN _ := false
  isFinite _ := true
  roundHalfAway := Rat.roundHalfAway
  atLeast x y := decide (y ≤ x)

namespace Amount

variable {α : Type} [Amount α]

/-- No amount. -/
def zero : α := ofNat 0

/-- The sum of a list, from the left. -/
def sum (xs : List α) : α :=
  xs.foldl (· + ·) emptySum

/-- An amount, or zero when it is below zero or no number. -/
def atLeastZero (x : α) : α :=
  if isNaN x || lt x zero then zero else x

/-- An amount rounded to hundredths, halves away from zero. -/
def roundCents (x : α) : α :=
  roundHalfAway (x * ofNat 100) / ofNat 100

/-- Whether an amount is finite and above zero. -/
def isPositive (x : α) : Bool :=
  isFinite x && lt zero x

/-- The distance from zero. -/
def magnitude (x : α) : α :=
  if lt x zero then zero - x else x

/-- A running sum with the part that rounding has cut off so far. -/
structure Compensated (α : Type) where
  sum : α
  lost : α

/-- One more summand; the smaller of sum and summand is the one that loses digits. -/
def Compensated.add (acc : Compensated α) (x : α) : Compensated α :=
  let t := acc.sum + x
  let cut := if lt (magnitude x) (magnitude acc.sum) then (acc.sum - t) + x else (x - t) + acc.sum
  { sum := t, lost := acc.lost + cut }

/-- The sum of a list with the lost digits given back at the end. -/
def compensatedSum (xs : List α) : α :=
  let acc := xs.foldl Compensated.add { sum := zero, lost := zero }
  if isFinite acc.lost then acc.sum + acc.lost else acc.sum

end Amount

end SpendLedger
