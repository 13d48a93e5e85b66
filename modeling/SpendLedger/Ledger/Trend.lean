import SpendLedger.Amount
import SpendLedger.Ledger.Record

/-!
# Trend and projection

The line through the months, in the order in which they are given, and its value one step further; the change from the
second month to the first; and the confidence that a number of months earns.
-/

namespace SpendLedger

/-- How many months back the trend and the forecast look. -/
def historyMonths : Nat := 6

/-- How many months back a report looks. -/
def reportMonths : Nat := 12

/-- The confidence that a number of months earns. -/
def Confidence.ofCount (points : Nat) : Confidence :=
  if points ≤ 3 then .low else if points ≤ 5 then .medium else .high

namespace Trend

variable {α : Type} [Amount α]

/-- The sums that determine a line through points. -/
structure Moments (α : Type) where
  x : α
  y : α
  xy : α
  xx : α

/-- The sums with the point at place `i` added. -/
def Moments.add (m : Moments α) (y : α) (i : Nat) : Moments α :=
  let x := Amount.ofNat i
  { x := m.x + x, y := m.y + y, xy := m.xy + x * y, xx := m.xx + x * x }

/-- The sums over the points `(0, y₀), (1, y₁), …`. -/
def moments (ys : List α) : Moments α :=
  ys.zipIdx.foldl (fun m p => m.add p.1 p.2) ⟨Amount.zero, Amount.zero, Amount.zero, Amount.zero⟩

/-- The value at `n` of the line that fits `n` values at the places `0, …, n - 1` best, in the sense of least squares.
Fewer than two values have no line; the answer is then zero. -/
def project (ys : List α) : α :=
  if ys.length < 2 then Amount.zero
  else
    let n : α := Amount.ofNat ys.length
    let m := moments ys
    let slope := (n * m.xy - m.x * m.y) / (n * m.xx - m.x * m.x)
    let intercept := (m.y - slope * m.x) / n
    slope * n + intercept

/-- The projection, never below zero, in hundredths. -/
def projection (months : List (MonthTotal α)) : α :=
  Amount.roundCents (Amount.atLeastZero (project (months.map MonthTotal.total)))

/-- The change from one amount to another in percent; from zero or below there is none. -/
def changePercent (previous current : α) : α :=
  if Amount.lt Amount.zero previous then (current - previous) / previous * Amount.ofNat 100 else Amount.zero

/-- Which way a change of so many percent goes: up to five percent it goes nowhere. -/
def ofChange (change : α) : Trend :=
  if Amount.lt (Amount.ofNat 5) change then .increasing
  else if Amount.lt change (Amount.zero - Amount.ofNat 5) then .decreasing
  else .stable

end Trend

variable {α : Type} [Amount α]

/-- What is said when there are no months. -/
def TrendAnalysis.none : TrendAnalysis α where
  currentMonth := Amount.zero
  previousMonth := Amount.zero
  changePercent := Amount.zero
  trend := .noData
  averageMonthly := Amount.zero
  projection := Amount.zero

/-- The first month beside the second, the average and the projection; figures in hundredths, while the trend is told from
the exact change. -/
def TrendAnalysis.ofMonths (months : List (MonthTotal α)) : TrendAnalysis α :=
  match months with
  | [] => TrendAnalysis.none
  | current :: earlier =>
    let previous := (earlier.head?.map MonthTotal.total).getD Amount.zero
    let change := Trend.changePercent previous current.total
    { currentMonth := Amount.roundCents current.total
      previousMonth := Amount.roundCents previous
      changePercent := Amount.roundCents change
      trend := Trend.ofChange change
      averageMonthly := Amount.roundCents
        (Amount.sum (months.map MonthTotal.total) / Amount.ofNat months.length)
      projection := Trend.projection months }

/-- The forecast that the months themselves allow. -/
def Forecast.ofMonths (months : List (MonthTotal α)) : Forecast α where
  nextMonth := Trend.projection months
  confidence := Confidence.ofCount months.length

end SpendLedger
