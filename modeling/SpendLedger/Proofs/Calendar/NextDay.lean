import SpendLedger.Proofs.Calendar.WholeMonth

/-!
# The next day and the next month

The days before the next day are those up to a day, and the days from the first of a month to the first of the next one are
those of the month: the same stretches of days told with the day after them instead of their last day.
-/

namespace SpendLedger

namespace Date

/-- A day that is not the last of its month is followed by one of the same month. -/
theorem next?_of_lt_daysInMonth {d : Date} (h : d.day < daysInMonth d.year d.month) :
    ∃ next, d.next? = some next ∧ next.year = d.year ∧ next.month = d.month ∧ next.day = d.day + 1 := by
  have hd := d.isDay
  unfold IsDay at hd
  have hnext : IsDay d.year d.month (d.day + 1) := ⟨hd.1, hd.2.1, Nat.le_add_left 1 d.day, h⟩
  refine ⟨⟨_, _, _, hnext⟩, ?_, rfl, rfl, rfl⟩
  unfold next?
  rw [if_pos h]
  exact dif_pos hnext

/-- The last day of a month is followed by the first day of the next one, if dates go so far. -/
theorem next?_of_daysInMonth_le {d : Date} (h : daysInMonth d.year d.month ≤ d.day)
    (hindex : d.monthIndex < Date.max.monthIndex) :
    ∃ next, d.next? = some next ∧ next.monthIndex = d.monthIndex + 1 ∧ next.day = 1 := by
  have hd := d.isDay
  unfold IsDay at hd
  have hfirst : ∀ year month, 1 ≤ daysInMonth year month := fun year month =>
    Nat.le_trans (by decide) (le_daysInMonth year month)
  unfold next?
  rw [if_neg (Nat.not_lt.2 h)]
  by_cases hmonth : d.month < 12
  · have hnext : IsDay d.year (d.month + 1) 1 := ⟨hd.1, ⟨by omega, by omega⟩, Nat.le_refl 1, hfirst _ _⟩
    refine ⟨⟨_, _, _, hnext⟩, ?_, ?_, rfl⟩
    · rw [if_pos hmonth]
      exact dif_pos hnext
    · unfold monthIndex
      push_cast
      omega
  · unfold monthIndex at hindex
    simp only [Date.max, maxYear] at hindex
    have hnext : IsDay (d.year + 1) 1 1 := ⟨⟨by omega, by simp only [maxYear]; omega⟩, by decide, Nat.le_refl 1, hfirst _ _⟩
    refine ⟨⟨_, _, _, hnext⟩, ?_, ?_, rfl⟩
    · rw [if_neg hmonth]
      exact dif_pos hnext
    · unfold monthIndex
      push_cast
      omega

/-- The last day of a month that is not the last day of all is in a month that is not the last one. -/
theorem monthIndex_lt_max {last : Date} (h : daysInMonth last.year last.month ≤ last.day) (hmax : last < Date.max) :
    last.monthIndex < Date.max.monthIndex :=
  Int.not_le.1 fun hle => le_iff_not_lt.1 ((le_last_iff h Date.max).2 hle) hmax

/-- The days before the next day are those up to a day, if it is not the last of all. -/
theorem lt_next_iff {d : Date} (h : d < Date.max) : ∃ next, d.next? = some next ∧ ∀ e, e < next ↔ e ≤ d := by
  -- inside a month the days are compared; at its end only the months are, since the next day is a first
  by_cases hday : d.day < daysInMonth d.year d.month
  · obtain ⟨next, hnext, hyear, hmonth, hafter⟩ := next?_of_lt_daysInMonth hday
    refine ⟨next, hnext, fun e => ?_⟩
    rw [le_iff_not_lt, lt_iff, lt_iff, hyear, hmonth, hafter]
    omega
  · have hlast := Nat.not_lt.1 hday
    obtain ⟨next, hnext, hmonth, hfirst⟩ := next?_of_daysInMonth_le hlast (monthIndex_lt_max hlast h)
    refine ⟨next, hnext, fun e => ?_⟩
    rw [lt_first_iff hfirst, le_last_iff hlast, hmonth]
    exact Int.lt_add_one_iff

/-- From the first of a month to the first of the next one there are the days of the month. -/
theorem month_holds {first next : Date} (hfirst : first.day = 1) (hnext : next.day = 1)
    (hindex : next.monthIndex = first.monthIndex + 1) (d : Date) :
    first ≤ d ∧ d < next ↔ d.monthIndex = first.monthIndex := by
  rw [le_iff_not_lt, lt_first_iff hfirst, lt_first_iff hnext, hindex]
  omega

/-- If two more months can be told, the stretch from the first to the last day of the following month and the one from its
first day to the first day of the month after it are the same, and hold the days of the following month. -/
theorem followingMonth_holds {today : Date} (h : today.monthIndex + 2 ≤ Date.max.monthIndex) (d : Date) :
    (today.followingMonth.1 ≤ d ∧ d ≤ today.followingMonth.2 ↔ d.monthIndex = today.monthIndex + 1) ∧
      (today.monthRange.2 ≤ d ∧ d < (today.monthRange.2.addMonths? 1).getD today.monthRange.2 ↔
        d.monthIndex = today.monthIndex + 1) := by
  have htoday : today.firstOfMonth.monthIndex = today.monthIndex := rfl
  obtain ⟨first, hfirst, hindex, hday⟩ := addMonths?_first today.firstOfMonth_day (by omega)
  obtain ⟨next, hnext, hlater, hday'⟩ := addMonths?_first hday (by omega)
  obtain ⟨last, hlast, hyear, hmonth, hend⟩ := previous?_first hday' hlater
  have hsame : last.monthIndex = first.monthIndex := monthIndex_eq_iff.2 ⟨hyear, hmonth⟩
  have hrange : today.monthRange.2 = first := by rw [monthRange, hfirst]; rfl
  have hfollowing : today.followingMonth = (first, last) := by
    simp only [followingMonth, monthRange, hfirst, hnext, Option.getD_some, Option.bind_some, hlast]
  have hlastDay : daysInMonth last.year last.month ≤ last.day := Nat.le_of_eq (by rw [hyear, hmonth, hend])
  rw [hrange, hfollowing, hnext, ← htoday, ← hindex]
  refine ⟨?_, month_holds hday hday' hlater d⟩
  rw [le_iff_not_lt, lt_first_iff hday, le_last_iff hlastDay, hsame]
  omega

end Date

end SpendLedger
