import SpendLedger.Ledger.Trend
import SpendLedger.Proofs.Number.Rounding

/-!
# A trend and its figures

The trend of the months is told from the exact change, the figures beside it are rounded to hundredths. Read over exact
rationals they never contradict each other: rounding keeps the order of amounts, and five percent is a whole number.
-/

namespace SpendLedger

namespace Trend

/-- From an amount above zero the change is the difference in percent of it. -/
theorem changePercent_of_pos {previous : Rat} (h : 0 < previous) (current : Rat) :
    changePercent previous current = (current - previous) / previous * 100 :=
  if_pos (decide_eq_true (Amount.zero_rat ▸ h))

/-- From zero or below there is no change. -/
theorem changePercent_of_not_pos {previous : Rat} (h : ¬0 < previous) (current : Rat) :
    changePercent previous current = 0 := by
  have hnone : ¬Amount.lt Amount.zero previous = true := fun hlt => h (Amount.zero_rat ▸ of_decide_eq_true hlt)
  exact (if_neg hnone).trans Amount.zero_rat

/-- The change is above five percent exactly from an amount above zero to one that is larger by more than a twentieth. -/
theorem five_lt_changePercent_iff {previous current : Rat} :
    5 < changePercent previous current ↔ 0 < previous ∧ 105 / 100 * previous < current := by
  by_cases h : 0 < previous
  · rw [changePercent_of_pos h, div_mul_eq_mul_div, lt_div_iff₀ h, and_iff_right h]
    constructor <;> intro hlt <;> linarith
  · rw [changePercent_of_not_pos h]
    exact iff_of_false (by norm_num) fun hpos => h hpos.1

/-- The change is below minus five percent exactly from an amount above zero to one that is smaller by more than a
twentieth. -/
theorem changePercent_lt_neg_five_iff {previous current : Rat} :
    changePercent previous current < -5 ↔ 0 < previous ∧ current < 95 / 100 * previous := by
  by_cases h : 0 < previous
  · rw [changePercent_of_pos h, div_mul_eq_mul_div, div_lt_iff₀ h, and_iff_right h]
    constructor <;> intro hlt <;> linarith
  · rw [changePercent_of_not_pos h]
    exact iff_of_false (by norm_num) fun hpos => h hpos.1

/-- The trend of an exact change. -/
theorem ofChange_rat (change : Rat) :
    ofChange change = if 5 < change then .increasing else if change < -5 then .decreasing else .stable := by
  have hfive : (Amount.ofNat 5 : Rat) = 5 := rfl
  simp [ofChange, Amount.lt, Amount.zero_rat, hfive]

/-- The trend is upward exactly if the change is above five percent. -/
theorem ofChange_eq_increasing_iff {change : Rat} : ofChange change = .increasing ↔ 5 < change := by
  rw [ofChange_rat]
  split
  next h => exact iff_of_true rfl h
  next h => exact iff_of_false (by split <;> nofun) h

/-- The trend is downward exactly if the change is below minus five percent. -/
theorem ofChange_eq_decreasing_iff {change : Rat} : ofChange change = .decreasing ↔ change < -5 := by
  rw [ofChange_rat]
  split
  next h => exact iff_of_false nofun (by linarith)
  next =>
    split
    next h => exact iff_of_true rfl h
    next h => exact iff_of_false nofun h

/-- The trend is neither upward nor downward exactly if the change is within five percent. -/
theorem ofChange_eq_stable_iff {change : Rat} : ofChange change = .stable ↔ -5 ≤ change ∧ change ≤ 5 := by
  rw [ofChange_rat]
  split
  next h => exact iff_of_false nofun fun hwithin => absurd hwithin.2 (not_le.2 h)
  next hup =>
    split
    next h => exact iff_of_false nofun fun hwithin => absurd hwithin.1 (not_le.2 h)
    next h => exact iff_of_true rfl ⟨not_lt.1 h, not_lt.1 hup⟩

/-- The trend from one amount to another, told from the amounts alone. -/
theorem ofChange_changePercent {previous current : Rat} :
    (ofChange (changePercent previous current) = .increasing ↔ 0 < previous ∧ 105 / 100 * previous < current) ∧
    (ofChange (changePercent previous current) = .decreasing ↔ 0 < previous ∧ current < 95 / 100 * previous) ∧
    (ofChange (changePercent previous current) = .stable ↔
      ¬(0 < previous ∧ 105 / 100 * previous < current) ∧ ¬(0 < previous ∧ current < 95 / 100 * previous)) := by
  refine ⟨?_, ?_, ?_⟩
  · rw [ofChange_eq_increasing_iff, five_lt_changePercent_iff]
  · rw [ofChange_eq_decreasing_iff, changePercent_lt_neg_five_iff]
  · rw [ofChange_eq_stable_iff, ← five_lt_changePercent_iff, ← changePercent_lt_neg_five_iff, not_lt, not_lt, and_comm]

/-- The trend from one amount to another does not contradict the change and the amounts in hundredths. -/
theorem ofChange_shown (previous current : Rat) :
    match ofChange (changePercent previous current) with
    | .increasing => 5 ≤ Amount.roundCents (changePercent previous current) ∧
        Amount.roundCents previous ≤ Amount.roundCents current
    | .decreasing => Amount.roundCents (changePercent previous current) ≤ -5 ∧
        Amount.roundCents current ≤ Amount.roundCents previous
    | .stable => -5 ≤ Amount.roundCents (changePercent previous current) ∧
        Amount.roundCents (changePercent previous current) ≤ 5
    | .noData => False := by
  -- five percent are shown as they are, so what is beyond them stays there, or falls on them
  have hfive : Amount.roundCents (5 : Rat) = 5 := by decide +kernel
  have hminus : Amount.roundCents (-5 : Rat) = -5 := by decide +kernel
  cases h : ofChange (changePercent previous current) with
  | increasing =>
    have hmore := ofChange_eq_increasing_iff.1 h
    obtain ⟨hpos, hup⟩ := five_lt_changePercent_iff.1 hmore
    exact ⟨hfive ▸ Amount.roundCents_mono hmore.le, Amount.roundCents_mono (by linarith)⟩
  | decreasing =>
    have hless := ofChange_eq_decreasing_iff.1 h
    obtain ⟨hpos, hdown⟩ := changePercent_lt_neg_five_iff.1 hless
    exact ⟨hminus ▸ Amount.roundCents_mono hless.le, Amount.roundCents_mono (by linarith)⟩
  | stable =>
    obtain ⟨hlower, hupper⟩ := ofChange_eq_stable_iff.1 h
    exact ⟨hminus ▸ Amount.roundCents_mono hlower, hfive ▸ Amount.roundCents_mono hupper⟩
  | noData =>
    rw [ofChange_rat] at h
    split at h
    · cases h
    · split at h <;> cases h

end Trend

/-- The average of amounts lies between the smallest and the largest of them. -/
theorem Amount.average_between {xs : List Rat} (h : xs ≠ []) : ∃ least ∈ xs, ∃ most ∈ xs,
    (∀ x ∈ xs, least ≤ x ∧ x ≤ most) ∧ least ≤ xs.sum / xs.length ∧ xs.sum / xs.length ≤ most := by
  obtain ⟨least, hleast, hlower⟩ := xs.toFinset.exists_min_image id (List.toFinset_nonempty_iff xs |>.2 h)
  obtain ⟨most, hmost, hupper⟩ := xs.toFinset.exists_max_image id (List.toFinset_nonempty_iff xs |>.2 h)
  simp only [List.mem_toFinset, id] at hleast hlower hmost hupper
  have hlength : (0 : Rat) < xs.length := Nat.cast_pos.2 (List.length_pos_iff.2 h)
  have hsum := List.card_nsmul_le_sum xs least hlower
  have hsum' := List.sum_le_card_nsmul xs most hupper
  rw [nsmul_eq_mul] at hsum hsum'
  refine ⟨least, hleast, most, hmost, fun x hx => ⟨hlower x hx, hupper x hx⟩, ?_, ?_⟩
  · rw [le_div_iff₀ hlength]
    linarith
  · rw [div_le_iff₀ hlength]
    linarith

/-- The average of months lies between the smallest and the largest of them, in hundredths too. -/
theorem TrendAnalysis.averageMonthly_between (current : MonthTotal Rat) (earlier : List (MonthTotal Rat)) :
    ∃ least ∈ current :: earlier, ∃ most ∈ current :: earlier,
      (∀ month ∈ current :: earlier, least.total ≤ month.total ∧ month.total ≤ most.total) ∧
        Amount.roundCents least.total ≤ (TrendAnalysis.ofMonths (current :: earlier)).averageMonthly ∧
        (TrendAnalysis.ofMonths (current :: earlier)).averageMonthly ≤ Amount.roundCents most.total := by
  have hmonths : (current :: earlier).map MonthTotal.total ≠ [] := List.cons_ne_nil _ _
  obtain ⟨_, hleast, _, hmost, hall, hlower, hupper⟩ := Amount.average_between hmonths
  obtain ⟨least, hfirst, rfl⟩ := List.mem_map.1 hleast
  obtain ⟨most, hlast, rfl⟩ := List.mem_map.1 hmost
  have haverage : (TrendAnalysis.ofMonths (current :: earlier)).averageMonthly = Amount.roundCents
      (((current :: earlier).map MonthTotal.total).sum / ((current :: earlier).map MonthTotal.total).length) := by
    rw [← Amount.sum_rat, List.length_map]
    rfl
  rw [haverage]
  exact ⟨least, hfirst, most, hlast, List.forall_mem_map.1 hall, Amount.roundCents_mono hlower,
    Amount.roundCents_mono hupper⟩

/-- The trend and the figures of months agree, whatever the months are. Of the months from the newest on,
1. the trend is upward exactly if the month before is above zero and the newest is larger by more than a twentieth, downward
   exactly if it is above zero and the newest is smaller by more than a twentieth, and neither otherwise; without a month
   before, that one counts as zero;
2. an upward trend is shown with a change of five percent or more and a newest month that is not below the one before, a
   downward one with a change of minus five percent or less and a newest month that is not above it, and one that is neither
   with a change within five percent;
3. the average that is shown lies between the smallest and the largest month as they would be shown;
4. the projection that is shown is not below zero, and is the one of the forecast of these months. -/
theorem trend_agrees (current : MonthTotal Rat) (earlier : List (MonthTotal Rat)) :
    let months := current :: earlier
    let previous := (earlier.head?.map MonthTotal.total).getD 0
    let analysis := TrendAnalysis.ofMonths months
    let rises := 0 < previous ∧ 105 / 100 * previous < current.total
    let falls := 0 < previous ∧ current.total < 95 / 100 * previous
    ((analysis.trend = .increasing ↔ rises) ∧ (analysis.trend = .decreasing ↔ falls) ∧
      (analysis.trend = .stable ↔ ¬rises ∧ ¬falls)) ∧
    (match analysis.trend with
      | .increasing => 5 ≤ analysis.changePercent ∧ analysis.previousMonth ≤ analysis.currentMonth
      | .decreasing => analysis.changePercent ≤ -5 ∧ analysis.currentMonth ≤ analysis.previousMonth
      | .stable => -5 ≤ analysis.changePercent ∧ analysis.changePercent ≤ 5
      | .noData => False) ∧
    (∃ least ∈ months, ∃ most ∈ months,
      (∀ month ∈ months, least.total ≤ month.total ∧ month.total ≤ most.total) ∧
        Amount.roundCents least.total ≤ analysis.averageMonthly ∧
        analysis.averageMonthly ≤ Amount.roundCents most.total) ∧
    0 ≤ analysis.projection ∧ analysis.projection = (Forecast.ofMonths months).nextMonth := by
  intro months previous analysis rises falls
  have hzero : (earlier.head?.map MonthTotal.total).getD Amount.zero = previous := by rw [Amount.zero_rat]
  have htrend : analysis.trend = Trend.ofChange (Trend.changePercent previous current.total) := by rw [← hzero]; rfl
  have hchange : analysis.changePercent = Amount.roundCents (Trend.changePercent previous current.total) := by
    rw [← hzero]; rfl
  have hprevious : analysis.previousMonth = Amount.roundCents previous := by rw [← hzero]; rfl
  have hcurrent : analysis.currentMonth = Amount.roundCents current.total := rfl
  refine ⟨?_, ?_, TrendAnalysis.averageMonthly_between current earlier, ?_, rfl⟩
  · rw [htrend]
    exact Trend.ofChange_changePercent
  · rw [htrend, hchange, hprevious, hcurrent]
    exact Trend.ofChange_shown previous current.total
  · have hnothing : Amount.roundCents (0 : Rat) = 0 := by decide +kernel
    exact hnothing ▸ Amount.roundCents_mono (Amount.atLeastZero_nonneg _)

/-- A change of just five percent is none that counts. -/
example : (TrendAnalysis.ofMonths [⟨"2024-02", 105, "USD"⟩, ⟨"2024-01", (100 : Rat), "USD"⟩]).trend = .stable := by
  decide +kernel

end SpendLedger
