import SpendLedger.Calendar.Window
import SpendLedger.Proofs.Calendar.TextOrder

/-!
# Looking back some months

A look back reaches the same day of an earlier month, or that month's last day if it is shorter, or the earliest date if the
month is before all dates. Between the day that is reached and the day it started from there are no more months than were
asked for, and the one it started in.
-/

namespace SpendLedger

namespace Date

/-- The day that is reached some months back: the same day of the month, the last day of a shorter month, or the earliest
date. -/
def IsMonthsBack (today : Date) (months : Nat) (cutoff : Date) : Prop :=
  cutoff.monthIndex = today.monthIndex - months ∧
      cutoff.day = Nat.min today.day (daysInMonth cutoff.year cutoff.month) ∨
    today.monthIndex - months < Date.min.monthIndex ∧ cutoff = Date.min

/-- The first month of all dates is the first month of the earliest date, the last that of the last date. -/
theorem monthIndex_bounds (d : Date) : Date.min.monthIndex ≤ d.monthIndex ∧ d.monthIndex ≤ Date.max.monthIndex := by
  have hday := d.isDay
  unfold IsDay at hday
  unfold monthIndex
  simp only [Date.min, Date.max]
  omega

/-- A month that dates can have has the day, or an earlier one that is its last. -/
theorem inMonth?_eq_some (d : Date) {index : Int} (h : Date.min.monthIndex ≤ index ∧ index ≤ Date.max.monthIndex) :
    ∃ e, d.inMonth? index = some e ∧ e.monthIndex = index ∧ e.day = Nat.min d.day (daysInMonth e.year e.month) := by
  have hd := d.isDay
  have hlast := le_daysInMonth (index / 12) ((index % 12).toNat + 1)
  have hday : IsDay (index / 12) ((index % 12).toNat + 1)
      (Nat.min d.day (daysInMonth (index / 12) ((index % 12).toNat + 1))) := by
    unfold IsDay at hd ⊢
    simp only [monthIndex, Date.min, Date.max, minYear, maxYear] at h ⊢
    refine ⟨by omega, by omega, ?_, Nat.min_le_right _ _⟩
    exact Nat.le_min.2 ⟨hd.2.2.1, by omega⟩
  refine ⟨⟨_, _, _, hday⟩, dif_pos hday, ?_, rfl⟩
  unfold monthIndex
  dsimp only
  omega

/-- A month that no date can have has no day. -/
theorem inMonth?_eq_none (d : Date) {index : Int} (h : index < Date.min.monthIndex) : d.inMonth? index = none := by
  refine dif_neg fun hday => ?_
  unfold IsDay at hday
  simp only [monthIndex, Date.min, minYear] at h hday
  omega

/-- A look back reaches the day that it is said to reach. -/
theorem isMonthsBack_monthsBack (today : Date) (months : Nat) : today.IsMonthsBack months (today.monthsBack months) := by
  have hbounds := monthIndex_bounds today
  unfold IsMonthsBack monthsBack subMonths?
  by_cases hearly : today.monthIndex - months < Date.min.monthIndex
  · rw [inMonth?_eq_none today hearly]
    exact Or.inr ⟨hearly, rfl⟩
  · obtain ⟨e, he, hindex, hday⟩ := inMonth?_eq_some today (show Date.min.monthIndex ≤ today.monthIndex - months ∧
      today.monthIndex - months ≤ Date.max.monthIndex by omega)
    rw [he]
    exact Or.inl ⟨hindex, hday⟩

example : monthsBack ⟨2024, 3, 31, by decide⟩ 1 = ⟨2024, 2, 29, by decide⟩ := by decide +kernel

example : monthsBack ⟨2024, 3, 31, by decide⟩ 4294967295 = Date.min := by decide +kernel

/-- A look back does not reach a later year. -/
theorem year_monthsBack_le (today : Date) (months : Nat) : (today.monthsBack months).year ≤ today.year := by
  have hcutoff := (today.monthsBack months).isDay
  have htoday := today.isDay
  unfold IsDay at hcutoff htoday
  rcases isMonthsBack_monthsBack today months with ⟨hindex, _⟩ | ⟨_, hmin⟩
  · unfold monthIndex at hindex
    omega
  · rw [hmin]
    exact htoday.1.1

theorem min_le (d : Date) : Date.min ≤ d := by
  have hd := d.isDay
  unfold IsDay at hd
  show Date.min.position ≤ d.position
  simp only [position, Date.min, minYear] at hd ⊢
  omega

/-- A look back of one month or more reaches all days of the month that it starts from. -/
theorem monthsBack_le {today d : Date} {months : Nat} (hmonths : 1 ≤ months) (h : d.monthIndex = today.monthIndex) :
    today.monthsBack months ≤ d := by
  rcases isMonthsBack_monthsBack today months with ⟨hindex, _⟩ | ⟨_, hmin⟩
  · refine le_iff_not_lt.2 fun hlt => ?_
    have hle : d.monthIndex ≤ (today.monthsBack months).monthIndex :=
      monthIndex_le (le_iff_not_lt.2 (Int.lt_asymm hlt))
    omega
  · rw [hmin]
    exact min_le d

/-- A day from the day that a look back reaches up to the one that it starts from is in one of the months between. -/
theorem exists_months_back {today d : Date} {months : Nat} (hfirst : today.monthsBack months ≤ d) (hlast : d ≤ today) :
    ∃ back ≤ months, d.monthIndex = today.monthIndex - back := by
  have hindex : today.monthIndex - months ≤ d.monthIndex := by
    rcases isMonthsBack_monthsBack today months with ⟨hindex, _⟩ | ⟨hearly, _⟩
    · exact hindex ▸ monthIndex_le hfirst
    · have hbounds := monthIndex_bounds d
      omega
  have hupto := monthIndex_le hlast
  exact ⟨(today.monthIndex - d.monthIndex).toNat, by omega, by omega⟩

end Date

end SpendLedger
