/-!
# Dates

Days of the Gregorian calendar, extended to negative years, in the years that the ledger can hold.
-/

namespace SpendLedger

/-- Whether a year has a 29th of February. -/
def isLeapYear (year : Int) : Bool :=
  year % 4 == 0 && (year % 100 != 0 || year % 400 == 0)

/-- The number of days of a month. -/
def daysInMonth (year : Int) (month : Nat) : Nat :=
  if month = 2 then (if isLeapYear year then 29 else 28)
  else if month = 4 ∨ month = 6 ∨ month = 9 ∨ month = 11 then 30
  else 31

/-- The earliest year of a date. -/
def minYear : Int := -262143

/-- The last year of a date. -/
def maxYear : Int := 262142

/-- Whether three numbers name a day. -/
def IsDay (year : Int) (month day : Nat) : Prop :=
  (minYear ≤ year ∧ year ≤ maxYear) ∧ (1 ≤ month ∧ month ≤ 12) ∧ 1 ≤ day ∧ day ≤ daysInMonth year month

instance (year : Int) (month day : Nat) : Decidable (IsDay year month day) :=
  inferInstanceAs (Decidable (_ ∧ _ ∧ _ ∧ _))

/-- A day of the calendar. -/
structure Date where
  /-- The year; year 0 is the year before year 1. -/
  year : Int
  month : Nat
  day : Nat
  isDay : IsDay year month day
deriving DecidableEq

/-- Every month has at least 28 days. -/
theorem le_daysInMonth (year : Int) (month : Nat) : 28 ≤ daysInMonth year month := by
  unfold daysInMonth
  split
  · split <;> decide
  · split <;> decide

namespace Date

/-- The day that three numbers name, if they name one. -/
def of? (year : Int) (month day : Nat) : Option Date :=
  if h : IsDay year month day then some ⟨year, month, day, h⟩ else none

/-- The earliest date. -/
def min : Date := ⟨minYear, 1, 1, by decide⟩

/-- The last date. -/
def max : Date := ⟨maxYear, 12, 31, by decide⟩

/-- The place of a date in the order of time: later days have larger numbers. Not every number has a day. -/
def position (d : Date) : Int :=
  (d.year * 12 + d.month) * 31 + d.day

instance : LE Date where
  le a b := a.position ≤ b.position

instance : LT Date where
  lt a b := a.position < b.position

instance (a b : Date) : Decidable (a ≤ b) :=
  inferInstanceAs (Decidable (a.position ≤ b.position))

instance (a b : Date) : Decidable (a < b) :=
  inferInstanceAs (Decidable (a.position < b.position))

/-- Twelve times the year and the months before this one: neighbouring months have neighbouring numbers. -/
def monthIndex (d : Date) : Int :=
  d.year * 12 + d.month - 1

/-- The first day of the month. -/
def firstOfMonth (d : Date) : Date where
  year := d.year
  month := d.month
  day := 1
  isDay := ⟨d.isDay.1, d.isDay.2.1, Nat.le_refl 1, Nat.le_trans (by decide) (le_daysInMonth _ _)⟩

/-- The same day in the month with a given number, or that month's last day if it has no such day. -/
def inMonth? (d : Date) (index : Int) : Option Date :=
  let year := index / 12
  let month := (index % 12).toNat + 1
  of? year month (Nat.min d.day (daysInMonth year month))

/-- The same day some months later, or the last day of a shorter month. -/
def addMonths? (d : Date) (months : Nat) : Option Date :=
  d.inMonth? (d.monthIndex + months)

/-- The same day some months earlier, or the last day of a shorter month. -/
def subMonths? (d : Date) (months : Nat) : Option Date :=
  d.inMonth? (d.monthIndex - months)

/-- The day after, if there is one. -/
def next? (d : Date) : Option Date :=
  if d.day < daysInMonth d.year d.month then of? d.year d.month (d.day + 1)
  else if d.month < 12 then of? d.year (d.month + 1) 1
  else of? (d.year + 1) 1 1

/-- The day before, if there is one. -/
def previous? (d : Date) : Option Date :=
  if 1 < d.day then of? d.year d.month (d.day - 1)
  else if 1 < d.month then of? d.year (d.month - 1) (daysInMonth d.year (d.month - 1))
  else of? (d.year - 1) 12 31

end Date

/-- A moment on the clock, to the second, in universal time. -/
structure Instant where
  date : Date
  hour : Nat
  minute : Nat
  second : Nat

end SpendLedger
