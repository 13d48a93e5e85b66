import SpendLedger.Calendar.DateText

/-!
# Windows of days

The stretches of days that summaries, histories and alerts look at.
-/

namespace SpendLedger

/-- A stretch of days with both ends inside it; an end that is left out is open. -/
structure Window where
  first : Option Date
  last : Option Date
deriving DecidableEq

namespace Window

/-- All days. -/
def always : Window := ⟨none, none⟩

/-- The days from one to another. -/
def between (first last : Date) : Window := ⟨some first, some last⟩

/-- How a window is called in summaries. -/
def label (w : Window) : String :=
  (w.first.map Date.toText).getD "beginning" ++ " to " ++ (w.last.map Date.toText).getD "today"

end Window

namespace Date

/-- The first day of a day's month and the first day of the month after it. -/
def monthRange (today : Date) : Date × Date :=
  let first := today.firstOfMonth
  (first, (first.addMonths? 1).getD first)

/-- The first and the last day of a day's month. -/
def wholeMonth (today : Date) : Date × Date :=
  let (first, next) := today.monthRange
  (first, next.previous?.getD first)

/-- The day some months back, or the earliest date when there is no such day. -/
def monthsBack (today : Date) (months : Nat) : Date :=
  (today.subMonths? months).getD min

/-- The first and the last day of the month after a day's month. -/
def followingMonth (today : Date) : Date × Date :=
  let (first, _) := today.monthRange
  let first := (first.addMonths? 1).getD first
  (first, ((first.addMonths? 1).bind previous?).getD first)

end Date

end SpendLedger
