import SpendLedger.Calendar.Date

/-!
# The clock

Moments as the machine counts them: in seconds from the beginning of the year 1970.
-/

namespace SpendLedger

/-- The days from the first of March of the year 0 to the first of January 1970. -/
def epochOffset : Int := 719468

/-- The days of four hundred years. -/
def daysOfCycle : Int := 146097

/-- The date some days after the first of January 1970. Years are counted from March on, so that the day that not every
year has is the last one of its year. -/
def Date.ofDays? (days : Int) : Option Date :=
  let shifted := days + epochOffset
  let cycle := shifted / daysOfCycle
  let inCycle := shifted % daysOfCycle
  let yearOfCycle := (inCycle - inCycle / 1460 + inCycle / 36524 - inCycle / 146096) / 365
  let inYear := inCycle - (365 * yearOfCycle + yearOfCycle / 4 - yearOfCycle / 100)
  let shiftedMonth := (5 * inYear + 2) / 153
  let day := inYear - (153 * shiftedMonth + 2) / 5 + 1
  let month := if shiftedMonth < 10 then shiftedMonth + 3 else shiftedMonth - 9
  let year := yearOfCycle + cycle * 400 + (if month ≤ 2 then 1 else 0)
  Date.of? year month.toNat day.toNat

/-- The moment some seconds after the beginning of the year 1970. -/
def Instant.ofSeconds? (seconds : Int) : Option Instant :=
  let inDay := (seconds % 86400).toNat
  (Date.ofDays? (seconds / 86400)).map fun date => ⟨date, inDay / 3600, inDay / 60 % 60, inDay % 60⟩

end SpendLedger
