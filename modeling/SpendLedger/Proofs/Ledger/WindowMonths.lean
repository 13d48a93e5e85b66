import SpendLedger.Proofs.Ledger.Months
import SpendLedger.Proofs.Ledger.Summary
import SpendLedger.Proofs.Ledger.Totals

/-!
# The months of a window

The window of the last months and the look back over as many months start from one day, but only the window ends with today.
Where the store has nothing after today they see the same rows in the same order: what a summary of the window counts by
service and by group, the look back counts by month and currency.
-/

namespace SpendLedger

namespace Store

/-- A store without a row after today has the rows of a look back in the window from the day that is reached to today. -/
theorem walk_eq_since {α : Type} {s : Store α} {today : Date} (hpast : ∀ row ∈ s.rows, row.dateText ≤ today.toText)
    (months : Nat) : s.walk (.between (today.monthsBack months) today) = s.since today months := by
  have hwalk : s.walk (.between (today.monthsBack months) today) =
      (s.within (.between (today.monthsBack months) today)).mergeSort CostRow.precedes := if_neg nofun
  have hrows : s.within (.between (today.monthsBack months) today) =
      s.rows.filter fun row => (today.monthsBack months).toText ≤ row.dateText := by
    refine List.filter_congr fun row hrow => ?_
    simp [CostRow.isIn, Window.between, hpast row hrow]
  rw [hwalk, hrows]
  rfl

/-! ## Exact sums -/

/-- Over exact rationals every look back has its months, and their sums add up to the costs of the rows that are seen. -/
theorem monthTotals_rat (s : Store Rat) (today : Date) (months : Nat) :
    ∃ totals, s.monthTotals today months = .ok totals ∧
      (totals.map MonthTotal.total).sum = ((s.since today months).map CostRow.cost).sum := by
  have hnumbers : ∀ b ∈ buckets (s.since today months),
      Amount.isNaN (total ((s.since today months).filter fun row => row.isOf b.1 b.2)) = false := fun _ _ => rfl
  refine ⟨_, (monthTotals_eq s today months).trans (if_pos hnumbers), ?_⟩
  have hsums := sum_groups (fun row : CostRow Rat => (row.month, row.currency)) CostRow.cost
    (nodup_eraseDups _ : (buckets (s.since today months)).Nodup)
    fun row hrow => (mem_buckets _ (row.month, row.currency)).2 ⟨row, hrow, decide_eq_true ⟨rfl, rfl⟩⟩
  rw [← hsums, List.map_map]
  refine congrArg List.sum (List.map_congr_left fun b _ => ?_)
  have hrows : ((s.since today months).filter fun row => row.isOf b.1 b.2) =
      (s.since today months).filter fun row => (row.month, row.currency) = b :=
    List.filter_congr fun row _ => decide_eq_decide.2 ⟨fun h => Prod.ext h.1 h.2, fun h => h ▸ ⟨rfl, rfl⟩⟩
  exact (Amount.compensatedSum_rat _).trans (by rw [hrows])

/-- Over exact rationals every range has a summary, and its total adds up the costs of the rows of the range. -/
theorem summary_rat (s : Store Rat) (selection : Selection) (currency : String) :
    ∃ summary, s.summary selection currency = .ok summary ∧
      summary.total = ((s.walk selection.window).map CostRow.cost).sum := by
  have hcounted := summary_walk s selection currency
  cases hanswer : s.summary selection currency with
  | error e =>
    rw [hanswer] at hcounted
    obtain ⟨_, _, _, _, hnan⟩ := hcounted
    cases hnan
  | ok summary =>
    rw [hanswer] at hcounted
    obtain ⟨_, _, _, _, htotal⟩ := hcounted
    obtain ⟨sums, hsums, _⟩ := aggregate_rat s .service selection.window
    have hentries := aggregate_walk s .service selection.window
    rw [hsums] at hentries
    have hvalues : sums.values.sum = summary.total := by
      rw [htotal, CostRecord.totalByService, ← hentries.1, Amount.sum_rat]
      rfl
    refine ⟨summary, rfl, ?_⟩
    rw [← hvalues, sum_values hsums, ((walk_perm s selection.window).map CostRow.cost).sum_eq]

/-! ## The same rows -/

/-- In a store without a row after today, the summary of the window of the last months and the look back over as many months
count the same rows, those from the day on that is reached, and take them in one order: the summary by service and by group,
its total the sum of those by service, and the look back by month and currency, each row in one of them. Either answer fails
only if one of its own sums is no number. Read over exact rationals both answer, and the total of the summary is the sum of
all months, which is that of the costs of these rows. The day that is reached is the earliest date if there is none so many
months back. -/
theorem window_months (today : Date) (months : Nat) (currency : String) :
    let cutoff := today.monthsBack months
    (∀ {α : Type} [Amount α] (s : Store α), (∀ row ∈ s.rows, row.dateText ≤ today.toText) →
      ∃ counted : List (CostRow α),
        counted.Perm (s.rows.filter fun row => cutoff.toText ≤ row.dateText) ∧
        (match s.summary (.between cutoff today) currency with
          | .ok summary =>
            summary.byService.entries = CostRecord.sumsBy .service (counted.map CostRow.entry) ∧
              summary.byGroup.entries = CostRecord.sumsBy .group (counted.map CostRow.entry) ∧
              summary.total = CostRecord.totalByService (counted.map CostRow.entry)
          | .error e => e = .persistence .readingAggregates .sumUndefined ∧
              ∃ dimension, ∃ sum ∈ CostRecord.sumsBy dimension (counted.map CostRow.entry),
                Amount.isNaN sum.2 = true) ∧
        let sumAt month currency := total (counted.filter fun row => row.isOf month currency)
        match s.monthTotals today months with
        | .ok totals =>
          (∀ row ∈ counted, totals.countP (fun t => row.isOf t.month t.currency) = 1) ∧
            ∀ t ∈ totals, (∃ row ∈ counted, row.isOf t.month t.currency = true) ∧ t.total = sumAt t.month t.currency
        | .error e => e = .persistence .readingMonths .sumUndefined ∧
            ∃ row ∈ counted, Amount.isNaN (sumAt row.month row.currency) = true) ∧
    ∀ s : Store Rat, (∀ row ∈ s.rows, row.dateText ≤ today.toText) →
      ∃ summary totals, s.summary (.between cutoff today) currency = .ok summary ∧
        s.monthTotals today months = .ok totals ∧ summary.total = (totals.map MonthTotal.total).sum ∧
        summary.total = ((s.rows.filter fun row => cutoff.toText ≤ row.dateText).map CostRow.cost).sum := by
  intro cutoff
  refine ⟨fun {α} _ s hpast => ?_, fun s hpast => ?_⟩
  · have hwalk := walk_eq_since hpast months
    have hsummary := summary_walk s (.between cutoff today) currency
    have hmonths := monthTotals_rows s today months
    refine ⟨s.since today months, List.mergeSort_perm _ _, ?_, ?_⟩
    · cases hanswer : s.summary (.between cutoff today) currency with
      | error e =>
        rw [hanswer] at hsummary
        exact hwalk ▸ hsummary
      | ok summary =>
        rw [hanswer] at hsummary
        obtain ⟨_, _, hservices, hgroups, htotal⟩ := hsummary
        exact hwalk ▸ ⟨hservices, hgroups, htotal⟩
    · cases hanswer : s.monthTotals today months with
      | error e =>
        rw [hanswer] at hmonths
        exact hmonths
      | ok totals =>
        rw [hanswer] at hmonths
        obtain ⟨honce, hsums, _⟩ := hmonths
        exact ⟨honce, fun t ht => ⟨(hsums t ht).1, (hsums t ht).2.1⟩⟩
  · obtain ⟨summary, hsummary, htotal⟩ := summary_rat s (.between cutoff today) currency
    obtain ⟨totals, htotals, hsum⟩ := monthTotals_rat s today months
    have hwalk : s.walk (Selection.between cutoff today).window = s.since today months := walk_eq_since hpast months
    refine ⟨summary, totals, hsummary, htotals, by rw [htotal, hsum, hwalk], ?_⟩
    rw [htotal, hwalk]
    exact ((List.mergeSort_perm _ _).map CostRow.cost).sum_eq

/-- The window of the last month before the end of a March counts two of three costs, and so do its months. -/
theorem window_leapCosts :
    ∃ (counted : List (CostRow Rat)) (summary : Summary Rat) (totals : List (MonthTotal Rat)),
      counted.Perm ((ofHistory [.insertBatch leapCosts]).rows.take 2) ∧
      (ofHistory [.insertBatch leapCosts]).summary (.between leapDay ⟨2024, 3, 31, by decide⟩) "USD" = .ok summary ∧
      (ofHistory [.insertBatch leapCosts]).monthTotals ⟨2024, 3, 31, by decide⟩ 1 = .ok totals ∧
      summary.total = 3 ∧ (totals.map MonthTotal.total).sum = 3 := by
  have hcutoff : Date.monthsBack ⟨2024, 3, 31, by decide⟩ 1 = leapDay := by decide +kernel
  have hpast : ∀ row ∈ (ofHistory [.insertBatch leapCosts]).rows, row.dateText ≤ Date.toText ⟨2024, 3, 31, by decide⟩ := by
    decide +kernel
  obtain ⟨hrows, hexact⟩ := window_months ⟨2024, 3, 31, by decide⟩ 1 "USD"
  obtain ⟨counted, hcounted, _⟩ := hrows _ hpast
  obtain ⟨summary, totals, hsummary, htotals, htotal, hcosts⟩ := hexact _ hpast
  rw [hcutoff] at hcounted hsummary hcosts
  have hthree : summary.total = 3 := hcosts.trans (by decide +kernel)
  exact ⟨counted, summary, totals, hcounted.trans (List.Perm.of_eq (by decide +kernel)), hsummary, htotals, hthree,
    htotal ▸ hthree⟩

end Store

end SpendLedger
