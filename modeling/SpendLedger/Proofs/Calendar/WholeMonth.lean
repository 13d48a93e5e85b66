import SpendLedger.Proofs.Calendar.LookBack

/-!
# The days of a month

The first and the last day of a month hold the days of this month between them and no others, whatever its length.
-/

namespace SpendLedger

namespace Date

/-! ## Months of days -/

/-- A day lies in its month: after all earlier months and before all later ones. -/
theorem position_eq (d : Date) : d.position = (d.monthIndex + 1) * 31 + d.day := by
  unfold position monthIndex
  omega

theorem firstOfMonth_day (today : Date) : today.firstOfMonth.day = 1 :=
  rfl

/-- A day is before the first of a month exactly if its month is earlier. -/
theorem lt_first_iff {first : Date} (h : first.day = 1) (d : Date) : d < first ↔ d.monthIndex < first.monthIndex := by
  have hd := d.isDay
  have hdays := daysInMonth_le d.year d.month
  unfold IsDay at hd
  show d.position < first.position ↔ _
  rw [position_eq, position_eq, h]
  omega

/-- A day is not after the last of a month exactly if its month is not later. -/
theorem le_last_iff {last : Date} (h : daysInMonth last.year last.month ≤ last.day) (d : Date) :
    d ≤ last ↔ d.monthIndex ≤ last.monthIndex := by
  refine ⟨monthIndex_le, fun hle => ?_⟩
  have hd := d.isDay
  have hl := last.isDay
  have hdays := daysInMonth_le d.year d.month
  unfold IsDay at hd hl
  show d.position ≤ last.position
  rw [position_eq, position_eq]
  rcases Int.lt_or_eq_of_le hle with hlt | hsame
  · omega
  · obtain ⟨hyear, hmonth⟩ := monthIndex_eq_iff.1 hsame
    rw [hyear, hmonth] at hd
    omega

/-! ## The first day of the next month -/

/-- In the month after a month there is a first day, if dates go so far. -/
theorem addMonths?_first {first : Date} (hfirst : first.day = 1) (h : first.monthIndex < Date.max.monthIndex) :
    ∃ next, first.addMonths? 1 = some next ∧ next.monthIndex = first.monthIndex + 1 ∧ next.day = 1 := by
  have hbounds := monthIndex_bounds first
  obtain ⟨next, hnext, hindex, hday⟩ := inMonth?_eq_some first
    (show Date.min.monthIndex ≤ first.monthIndex + 1 ∧ first.monthIndex + 1 ≤ Date.max.monthIndex by omega)
  refine ⟨next, hnext, hindex, ?_⟩
  rw [hday, hfirst]
  exact Nat.min_eq_left (Nat.le_trans (by decide) (le_daysInMonth _ _))

/-! ## The last day -/

/-- Before the first day of a month there is the last day of the month before. -/
theorem previous?_first {first d : Date} (hfirst : first.day = 1) (hindex : first.monthIndex = d.monthIndex + 1) :
    ∃ last, first.previous? = some last ∧ last.year = d.year ∧ last.month = d.month ∧
      last.day = daysInMonth d.year d.month := by
  have hd := d.isDay
  have hdays := le_daysInMonth d.year d.month
  have hlast : IsDay d.year d.month (daysInMonth d.year d.month) := by
    unfold IsDay at hd ⊢
    exact ⟨hd.1, hd.2.1, by omega, Nat.le_refl _⟩
  have hf := first.isDay
  unfold IsDay at hd hf
  unfold monthIndex at hindex
  refine ⟨⟨_, _, _, hlast⟩, ?_, rfl, rfl, rfl⟩
  unfold previous?
  rw [if_neg (by omega)]
  split
  next hmonth =>
    have hyear : first.year = d.year := by omega
    have hbefore : first.month - 1 = d.month := by omega
    rw [hyear, hbefore]
    exact dif_pos hlast
  next hmonth =>
    have hyear : first.year - 1 = d.year := by omega
    have hdecember : d.month = 12 := by omega
    have hlength : daysInMonth d.year d.month = 31 := by rw [hdecember]; rfl
    simp only [hyear, ← hlength, ← hdecember]
    exact dif_pos hlast

/-- The last day of a month is the day before the next month begins, if there is a next month. -/
theorem wholeMonth_eq {today : Date} (h : today.monthIndex < Date.max.monthIndex) :
    ∃ last, today.wholeMonth = (today.firstOfMonth, last) ∧ last.year = today.year ∧ last.month = today.month ∧
      last.day = daysInMonth today.year today.month := by
  obtain ⟨next, hnext, hindex, hfirst⟩ := addMonths?_first today.firstOfMonth_day h
  obtain ⟨last, hlast, hparts⟩ := previous?_first hfirst hindex
  refine ⟨last, ?_, hparts⟩
  simp only [wholeMonth, monthRange, hnext, Option.getD_some, hlast]

/-- From the first to the last day of a month there are the days of this month. -/
theorem wholeMonth_holds {today : Date} (h : today.monthIndex < Date.max.monthIndex) (d : Date) :
    today.wholeMonth.1 ≤ d ∧ d ≤ today.wholeMonth.2 ↔ d.monthIndex = today.monthIndex := by
  obtain ⟨last, hmonth, hyear, hnumber, hday⟩ := wholeMonth_eq h
  have hindex : last.monthIndex = today.monthIndex := monthIndex_eq_iff.2 ⟨hyear, hnumber⟩
  have hfirst : today.firstOfMonth.monthIndex = today.monthIndex := rfl
  have hlast : daysInMonth last.year last.month ≤ last.day := Nat.le_of_eq (by rw [hyear, hnumber, hday])
  rw [hmonth, le_iff_not_lt, lt_first_iff today.firstOfMonth_day, le_last_iff hlast, hfirst, hindex]
  omega

example : wholeMonth ⟨2024, 2, 10, by decide⟩ = (⟨2024, 2, 1, by decide⟩, ⟨2024, 2, 29, by decide⟩) := by decide +kernel

example : wholeMonth ⟨2023, 12, 31, by decide⟩ = (⟨2023, 12, 1, by decide⟩, ⟨2023, 12, 31, by decide⟩) := by
  decide +kernel

/-! ## Years without a sign -/

/-- The months of years without a sign are not the last ones of all. -/
theorem IsPlain.monthIndex_lt {d : Date} (h : d.IsPlain) : d.monthIndex < Date.max.monthIndex := by
  have hd := d.isDay
  unfold IsDay at hd
  unfold IsPlain at h
  unfold monthIndex
  simp only [Date.max, maxYear]
  omega

/-- The first and the last day of a month of a year without a sign are of this year. -/
theorem IsPlain.wholeMonth {today : Date} (h : today.IsPlain) :
    today.wholeMonth.1.IsPlain ∧ today.wholeMonth.2.IsPlain := by
  obtain ⟨last, hmonth, hyear, _⟩ := wholeMonth_eq h.monthIndex_lt
  rw [hmonth]
  unfold IsPlain at h ⊢
  exact ⟨h, hyear ▸ h⟩

end Date

end SpendLedger
