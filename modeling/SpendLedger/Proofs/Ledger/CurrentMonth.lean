import SpendLedger.Proofs.Calendar.WholeMonth
import SpendLedger.Proofs.Ledger.Alerts
import SpendLedger.Proofs.Ledger.Months
import SpendLedger.Proofs.Ledger.Summary

/-!
# The records of the current month

The records of a day's month are those that are summed from its first to its last day, and those that a look back of one month
or more counts under it. An evaluation of alerts on this day is one against the total of these records.
-/

namespace SpendLedger

variable {α : Type}

/-- Whether a record is of the month of a day. -/
def CostRecord.isInMonthOf (today : Date) (r : CostRecord α) : Bool :=
  r.date.year = today.year ∧ r.date.month = today.month

/-- A record is of the month of a day exactly if its month has the same number. -/
theorem CostRecord.isInMonthOf_iff {today : Date} {r : CostRecord α} :
    r.isInMonthOf today = true ↔ r.date.monthIndex = today.monthIndex := by
  rw [isInMonthOf, decide_eq_true_iff, Date.monthIndex_eq_iff]

/-- In years without a sign a record is of the month of a day exactly if its month has the same text. -/
theorem CostRecord.monthText_eq_iff {today : Date} {r : CostRecord α} (hr : r.date.IsPlain) (htoday : today.IsPlain) :
    r.date.monthText = today.monthText ↔ r.isInMonthOf today = true := by
  rw [isInMonthOf_iff, Date.monthText_inj hr htoday]

namespace Store

variable [Amount α]

/-- From the first to the last day of a month the records of this month are summed, along the days. -/
theorem walk_wholeMonth (calls : List (Call α)) {today : Date} (hrecorded : ∀ r ∈ recorded calls, r.date.IsPlain)
    (htoday : today.IsPlain) :
    let counted := ((ofHistory calls).walk (.between today.wholeMonth.1 today.wholeMonth.2)).map CostRow.entry
    counted.Perm ((recorded calls).filter fun r => r.isInMonthOf today) ∧ counted.Pairwise fun a b => b.Newer a := by
  obtain ⟨hfirst, hlast⟩ := htoday.wholeMonth
  refine (walk_between calls hrecorded hfirst hlast).imp_left fun hperm => hperm.trans (List.Perm.of_eq ?_)
  refine List.filter_congr fun r _ => ?_
  rw [CostRecord.isInMonthOf, decide_eq_decide, Date.wholeMonth_holds htoday.monthIndex_lt, Date.monthIndex_eq_iff]

/-- What a look back of one month or more sees of the month that it starts from is what is summed from the first to the last
day of this month. -/
theorem filter_since (calls : List (Call α)) {today : Date} {months : Nat} (hmonths : 1 ≤ months)
    (hrecorded : ∀ r ∈ recorded calls, r.date.IsPlain) (htoday : today.IsPlain) :
    (((ofHistory calls).since today months).map CostRow.entry).filter (fun r => r.isInMonthOf today) =
      ((ofHistory calls).walk (.between today.wholeMonth.1 today.wholeMonth.2)).map CostRow.entry := by
  obtain ⟨hseen, hordered⟩ := since_ofHistory calls months hrecorded htoday
  obtain ⟨hcounted, hordered'⟩ := walk_wholeMonth calls hrecorded htoday
  refine CostRecord.eq_of_along (hordered.filter _) hordered' (((hseen.filter _).trans ?_).trans hcounted.symm)
  rw [List.filter_filter]
  refine List.Perm.of_eq (List.filter_congr fun r _ => ?_)
  cases hmonth : r.isInMonthOf today with
  | false => rfl
  | true =>
    have hreached := Date.monthsBack_le hmonths (CostRecord.isInMonthOf_iff.1 hmonth)
    simp [hreached]

/-- Alerts are evaluated against the total of the records that are summed from the first to the last day of the month. -/
theorem checkAlerts_walk (s : Store α) (today : Date) (currency : String) :
    let counted := (s.walk (.between today.wholeMonth.1 today.wholeMonth.2)).map CostRow.entry
    match s.checkAlerts today currency with
    | .ok evaluation => evaluation = Evaluation.of (CostRecord.totalByService counted) s.listAlerts
    | .error e => e = .persistence .readingAggregates .sumUndefined ∧
        ∃ dimension, ∃ sum ∈ CostRecord.sumsBy dimension counted, Amount.isNaN sum.2 = true := by
  intro counted
  have hsummary := summary_walk s (.between today.wholeMonth.1 today.wholeMonth.2) currency
  rw [checkAlerts_eq]
  cases hanswer : s.summary (.between today.wholeMonth.1 today.wholeMonth.2) currency with
  | error e =>
    rw [hanswer] at hsummary
    exact hsummary
  | ok summary =>
    rw [hanswer] at hsummary
    obtain ⟨_, _, _, _, htotal⟩ := hsummary
    show Evaluation.of summary.total s.listAlerts = _
    rw [htotal]
    rfl

/-- The sums that a look back of one month or more lists under the month that it starts from are those of the records of this
month, each of which is in one of them, and no other record that is seen is. -/
theorem monthTotals_of_today (calls : List (Call α)) {today : Date} {months : Nat} (hmonths : 1 ≤ months)
    (hrecorded : ∀ r ∈ recorded calls, r.date.IsPlain) (htoday : today.IsPlain) {counted : List (CostRecord α)}
    (hcounted : counted = ((ofHistory calls).walk (.between today.wholeMonth.1 today.wholeMonth.2)).map CostRow.entry) :
    ∃ seen : List (CostRecord α), seen.Perm ((recorded calls).filter fun r => today.monthsBack months ≤ r.date) ∧
      seen.filter (fun r => r.isInMonthOf today) = counted ∧
      match (ofHistory calls).monthTotals today months with
      | .ok totals =>
        (∀ r ∈ seen, totals.countP (fun t => r.isOf t.month t.currency) = 1) ∧
          (∀ r ∈ seen, ∀ t ∈ totals, r.isOf t.month t.currency = true → (t.month = today.monthText ↔ r ∈ counted)) ∧
          ∀ t ∈ totals, t.month = today.monthText →
            t.total = CostRecord.sum (counted.filter fun r => r.currency = t.currency)
      | .error e => e = .persistence .readingMonths .sumUndefined ∧
          ∃ r ∈ seen, Amount.isNaN (CostRecord.sum (seen.filter fun q => q.isOf r.date.monthText r.currency)) = true := by
  have hofToday := filter_since calls hmonths hrecorded htoday
  rw [← hcounted] at hofToday
  generalize hseen : ((ofHistory calls).since today months).map CostRow.entry = seen at hofToday
  have hperm : seen.Perm ((recorded calls).filter fun r => today.monthsBack months ≤ r.date) :=
    hseen ▸ (since_ofHistory calls months hrecorded htoday).1
  have hplain : ∀ r ∈ seen, r.date.IsPlain :=
    fun r hr => hrecorded r (List.mem_filter.1 (hperm.mem_iff.1 hr)).1
  have hmonth : ∀ r ∈ seen, r.date.monthText = today.monthText ↔ r.isInMonthOf today = true :=
    fun r hr => CostRecord.monthText_eq_iff (hplain r hr) htoday
  have htotals := monthTotals_ofHistory calls today months hseen.symm hplain
  refine ⟨seen, hperm, hofToday, ?_⟩
  cases hanswer : (ofHistory calls).monthTotals today months with
  | error e =>
    rw [hanswer] at htotals
    exact htotals
  | ok totals =>
    rw [hanswer] at htotals
    obtain ⟨honce, hsums, _⟩ := htotals
    refine ⟨honce, ?_, ?_⟩
    · intro r hr t _ hof
      obtain ⟨hdate, _⟩ := of_decide_eq_true hof
      rw [← hdate, hmonth r hr, ← hofToday, List.mem_filter]
      exact ⟨fun h => ⟨hr, h⟩, fun h => h.2⟩
    · intro t ht htext
      obtain ⟨_, hsum, _⟩ := hsums t ht
      rw [hsum, ← hofToday, List.filter_filter]
      refine congrArg CostRecord.sum (List.filter_congr fun r hr => ?_)
      rw [CostRecord.isOf, htext, Bool.decide_and, Bool.and_comm, decide_eq_decide.2 (hmonth r hr), Bool.decide_coe]

end Store

end SpendLedger
