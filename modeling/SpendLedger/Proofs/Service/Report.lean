import SpendLedger.Proofs.Ledger.Months
import SpendLedger.Proofs.Ledger.Summary
import SpendLedger.Proofs.Service.Reads

/-!
# What a report covers

A report lists the months of a look back and is named after the first and the last of them, while its total and its ranking are
of all records, however old. The three agree exactly if no record is older than the look back reaches.
-/

namespace SpendLedger

namespace Service

/-- A report is made of answers of the store: the months of a year, the summary of all days, and the forecast. -/
theorem run_report (s : Service) (w : World) : (Action.run w s.report).1 = (do
    let monthly ← w.store.monthTotals w.today reportMonths
    let summary ← w.store.summary .all s.config.currency
    let forecast := (w.store.monthTotals w.today historyMonths).toOption.map Forecast.ofMonths
    pure { generatedAt := w.clock.toText
           period := reportPeriod monthly
           total := summary.total
           currency := summary.currency
           forecast := (forecast.map Forecast.nextMonth).getD Amount.zero
           monthly
           ranking := ranking summary }) := by
  have hmonths := run_months w reportMonths
  unfold report
  cases hmonthly : w.store.monthTotals w.today reportMonths with
  | error e =>
    rw [hmonthly] at hmonths
    rw [Action.run_bind_of_error hmonths]
    rfl
  | ok monthly =>
    rw [hmonthly] at hmonths
    rw [Action.run_bind_of_ok hmonths]
    obtain ⟨told, hsummary⟩ := run_summary s w .all
    cases hanswer : w.store.summary .all s.config.currency with
    | error e =>
      rw [hanswer] at hsummary
      rw [Action.run_bind_of_error hsummary]
      rfl
    | ok summary =>
      rw [hanswer] at hsummary
      obtain ⟨journal, hforecast⟩ := run_ownForecast_eq_ok { w with journal := told }
      rw [Action.run_bind_of_ok hsummary, Action.run_bind_of_ok hforecast]
      rfl

/-- The services of a summary are ranked each once, with its sum. -/
theorem ranking_perm (summary : Summary Float) :
    ((ranking summary).map fun c => (c.service, c.cost)).Perm summary.byService.entries := by
  refine ((List.mergeSort_perm _ _).map _).trans (List.Perm.of_eq ?_)
  rw [List.map_map]
  exact List.map_id _

/-- A report is named after the months of two records that are seen, of which one is in the first and one in the last month
of all that are seen; if none is seen, after the year that it looks back. -/
theorem reportPeriod_eq {seen : List (CostRecord Float)} {totals : List (MonthTotal Float)}
    (htally : MonthTotal.Tally seen totals) :
    seen = [] ∧ totals = [] ∧ reportPeriod totals = "Last 12 months" ∨
      ∃ oldest ∈ seen, ∃ newest ∈ seen,
        reportPeriod totals = oldest.date.monthText ++ " to " ++ newest.date.monthText ∧
        ∀ r ∈ seen, oldest.date.monthIndex ≤ r.date.monthIndex ∧ r.date.monthIndex ≤ newest.date.monthIndex := by
  by_cases hnone : totals = []
  · refine Or.inl ⟨List.eq_nil_iff_forall_not_mem.2 fun r hr => ?_, hnone, by rw [hnone]; decide⟩
    obtain ⟨t, ht, _⟩ := CostRecord.exists_isOf (htally.once r hr)
    exact List.not_mem_nil (hnone ▸ ht)
  · obtain ⟨first, hfirst⟩ := Option.isSome_iff_exists.1 (List.isSome_head?.2 hnone)
    obtain ⟨last, hlast⟩ := Option.isSome_iff_exists.1 (List.getLast?_isSome.2 hnone)
    obtain ⟨newest, hnewest, hofFirst⟩ := htally.record first (List.mem_of_mem_head? hfirst)
    obtain ⟨oldest, holdest, hofLast⟩ := htally.record last (List.mem_of_mem_getLast? hlast)
    have hnewestText : newest.date.monthText = first.month := (of_decide_eq_true hofFirst).1
    have holdestText : oldest.date.monthText = last.month := (of_decide_eq_true hofLast).1
    have hmonths : ∀ {a b : CostRecord Float}, a ∈ seen → b ∈ seen → a.date.monthText ≤ b.date.monthText →
        a.date.monthIndex ≤ b.date.monthIndex := by
      intro a b ha hb hle
      refine Int.not_lt.1 fun hlt => String.not_lt.2 hle ?_
      exact (Date.monthText_lt_iff (htally.plain b hb) (htally.plain a ha)).2 hlt
    refine Or.inr ⟨oldest, holdest, newest, hnewest, ?_, ?_⟩
    · unfold reportPeriod
      rw [hfirst, hlast, hnewestText, holdestText]
    · intro r hr
      obtain ⟨t, ht, htext, _⟩ := CostRecord.exists_isOf (htally.once r hr)
      have hlow := MonthTotal.getLast_le_month htally.sorted hlast t ht
      have hhigh := MonthTotal.month_le_head htally.sorted hfirst t ht
      rw [← holdestText, ← htext] at hlow
      rw [← hnewestText, ← htext] at hhigh
      exact ⟨hmonths holdest hr hlow, hmonths hr hnewest hhigh⟩

/-- Of the records of the months between the first and the last that are seen, those that are not seen are of the first month
and before the day that is reached. -/
theorem between_iff {recorded seen : List (CostRecord Float)} {cutoff : Date} {late : Prop}
    (hmem : ∀ r, r ∈ seen ↔ r ∈ recorded ∧ (cutoff ≤ r.date ∨ late)) {oldest newest r : CostRecord Float}
    (holdest : oldest ∈ seen)
    (hbetween : ∀ r ∈ seen, oldest.date.monthIndex ≤ r.date.monthIndex ∧ r.date.monthIndex ≤ newest.date.monthIndex)
    (hr : r ∈ recorded) :
    oldest.date.monthIndex ≤ r.date.monthIndex ∧ r.date.monthIndex ≤ newest.date.monthIndex ↔
      r ∈ seen ∨ r.date < cutoff ∧ r.date.monthIndex = oldest.date.monthIndex := by
  constructor
  · intro hnamed
    by_cases hreached : cutoff ≤ r.date ∨ late
    · exact Or.inl ((hmem r).2 ⟨hr, hreached⟩)
    · have hbefore : r.date < cutoff := Int.not_le.1 fun hle => hreached (Or.inl hle)
      have hafter : cutoff ≤ oldest.date :=
        ((hmem oldest).1 holdest).2.resolve_right fun hlate => hreached (Or.inr hlate)
      have hmonth := Date.monthIndex_le (Int.le_trans (Int.le_of_lt hbefore) hafter)
      exact Or.inr ⟨hbefore, Int.le_antisymm hmonth hnamed.1⟩
  · rintro (hseen | ⟨_, hmonth⟩)
    · exact hbetween r hseen
    · rw [hmonth]
      exact hbetween oldest holdest

/-- The months of a report are those of the look back, and its total and its ranking are of all that is recorded. It fails only
if the months cannot be read or one of the sums is no number. -/
theorem report_answer (s : Service) {w : World} {calls : List (Store.Call Float)}
    (hstore : w.store = Store.ofHistory calls) :
    match (World.run w s.report).1 with
    | .ok report =>
      w.store.monthTotals w.today reportMonths = .ok report.monthly ∧ report.period = reportPeriod report.monthly ∧
        report.total = CostRecord.totalByService (Store.recorded calls) ∧
        (report.ranking.map fun c => (c.service, c.cost)).Perm (CostRecord.sumsBy .service (Store.recorded calls))
    | .error e =>
      w.store.monthTotals w.today reportMonths = .error e ∨
        e = .persistence .readingAggregates .sumUndefined ∧
          ∃ dimension, ∃ sum ∈ CostRecord.sumsBy dimension (Store.recorded calls), Amount.isNaN sum.2 = true := by
  have hsummary := Store.summary_walk w.store .all s.config.currency
  have hall : (w.store.walk Selection.all.window).map CostRow.entry = Store.recorded calls := by
    rw [hstore]
    exact Store.walk_always calls
  rw [hall] at hsummary
  have hrun : (World.run w s.report).1 = _ := run_report s w
  rw [hrun]
  cases hmonthly : w.store.monthTotals w.today reportMonths with
  | error e => exact Or.inl rfl
  | ok monthly =>
    cases hanswer : w.store.summary .all s.config.currency with
    | error e =>
      rw [hanswer] at hsummary
      exact Or.inr hsummary
    | ok summary =>
      rw [hanswer] at hsummary
      obtain ⟨_, _, hservices, _, htotal⟩ := hsummary
      exact ⟨rfl, rfl, htotal, hservices ▸ ranking_perm summary⟩

/-- What the figures of a report are of, for costs of the years from 0 to 9999 and whatever the clock shows.
1. The look back sees the records from the day on that it reaches, which is the day of the month twelve months back, and no
   earlier one; after the year 9999 it sees all of them.
2. The total and the ranking are of all records, those included that are not seen.
3. The months are those of the records that are seen, each of which is counted in one of them.
4. The report is named after the first and the last month of a record that is seen. Of the records of the months between,
   those of the month that the look back reaches, but before the day, are not seen.
5. The total counts what the months count exactly if no record is too old to be seen.
An answer fails only if one of the sums is no number. -/
theorem report_figures (s : Service) {w : World} {calls : List (Store.Call Float)}
    (hstore : w.store = Store.ofHistory calls) (hrecorded : ∀ r ∈ Store.recorded calls, r.date.IsPlain) :
    let cutoff := w.today.monthsBack reportMonths
    ∃ seen : List (CostRecord Float),
      (seen.Perm ((Store.recorded calls).filter fun r => cutoff ≤ r.date ∨ 9999 < cutoff.year) ∧
        seen.Pairwise fun a b => b.Newer a) ∧
      let sumAt month currency := CostRecord.sum (seen.filter fun r => r.isOf month currency)
      match (World.run w s.report).1 with
      | .ok report =>
        (report.total = CostRecord.totalByService (Store.recorded calls) ∧
          (report.ranking.map fun c => (c.service, c.cost)).Perm (CostRecord.sumsBy .service (Store.recorded calls))) ∧
        ((∀ r ∈ seen, report.monthly.countP (fun t => r.isOf t.month t.currency) = 1) ∧
          ∀ t ∈ report.monthly, (∃ r ∈ seen, r.isOf t.month t.currency = true) ∧ t.total = sumAt t.month t.currency) ∧
        (seen = [] ∧ report.monthly = [] ∧ report.period = "Last 12 months" ∨
          ∃ oldest ∈ seen, ∃ newest ∈ seen,
            report.period = oldest.date.monthText ++ " to " ++ newest.date.monthText ∧
            ∀ r ∈ Store.recorded calls,
              oldest.date.monthIndex ≤ r.date.monthIndex ∧ r.date.monthIndex ≤ newest.date.monthIndex ↔
                r ∈ seen ∨ r.date < cutoff ∧ r.date.monthIndex = oldest.date.monthIndex) ∧
        ((∀ r ∈ Store.recorded calls, r ∈ seen) ↔ ∀ r ∈ Store.recorded calls, cutoff ≤ r.date ∨ 9999 < cutoff.year)
      | .error e =>
        e = .persistence .readingMonths .sumUndefined ∧
            (∃ r ∈ seen, Amount.isNaN (sumAt r.date.monthText r.currency) = true) ∨
          e = .persistence .readingAggregates .sumUndefined ∧
            ∃ dimension, ∃ sum ∈ CostRecord.sumsBy dimension (Store.recorded calls), Amount.isNaN sum.2 = true := by
  intro cutoff
  obtain ⟨hperm, hordered⟩ := Store.since_of_plain calls w.today reportMonths hrecorded
  generalize hseen : ((Store.ofHistory calls).since w.today reportMonths).map CostRow.entry = seen at hperm hordered
  have hmem : ∀ r, r ∈ seen ↔ r ∈ Store.recorded calls ∧ (cutoff ≤ r.date ∨ 9999 < cutoff.year) := by
    intro r
    rw [hperm.mem_iff, List.mem_filter, decide_eq_true_iff]
  have hplain : ∀ r ∈ seen, r.date.IsPlain := fun r hr => hrecorded r ((hmem r).1 hr).1
  have htotals := Store.monthTotals_ofHistory calls w.today reportMonths hseen.symm hplain
  rw [← hstore] at htotals
  have hanswer := report_answer s hstore
  refine ⟨seen, ⟨hperm, hordered⟩, ?_⟩
  intro sumAt
  cases hreport : (World.run w s.report).1 with
  | error e =>
    rw [hreport] at hanswer
    refine hanswer.imp_left fun hmonthly => ?_
    rw [hmonthly] at htotals
    exact htotals
  | ok report =>
    rw [hreport] at hanswer
    obtain ⟨hmonthly, hperiod, htotal, hranking⟩ := hanswer
    rw [hmonthly] at htotals
    obtain ⟨honce, hsums, hsorted⟩ := htotals
    refine ⟨⟨htotal, hranking⟩, ⟨honce, fun t ht => ?_⟩, ?_, ?_⟩
    · exact ⟨(hsums t ht).1, (hsums t ht).2.1⟩
    · rw [hperiod]
      refine (reportPeriod_eq ⟨hplain, honce, fun t ht => (hsums t ht).1, hsorted⟩).imp_right ?_
      rintro ⟨oldest, holdest, newest, hnewest, hnames, hbetween⟩
      exact ⟨oldest, holdest, newest, hnewest, hnames, fun r hr => between_iff hmem holdest hbetween hr⟩
    · exact forall₂_congr fun r hr => by rw [hmem, and_iff_right hr]

/-- A cost of four years ago and one of the current month. -/
def oldAndNew : List (CostRecord Float) :=
  [⟨none, "account", none, "Storage", 5, "USD", ⟨2020, 1, 5, by decide⟩⟩,
    ⟨none, "account", none, "Storage", 1, "USD", ⟨2024, 5, 2, by decide⟩⟩]

/-- A world in which these are stored. -/
def afterYears : World :=
  World.offline (Store.ofHistory [.insertBatch oldAndNew]) ⟨2024, 5, 16, by decide⟩

/-- The two costs as they are read. -/
theorem recorded_oldAndNew : Store.recorded [.insertBatch oldAndNew] =
    [{ oldAndNew[0] with id := some 1 }, { oldAndNew[1] with id := some 2 }] := by
  decide +kernel

/-- By service and by group they have one sum, which is six. -/
theorem sums_oldAndNew (dimension : Dimension) :
    (CostRecord.sumsBy dimension (Store.recorded [.insertBatch oldAndNew])).map Prod.snd = [6] := by
  rw [recorded_oldAndNew]
  cases dimension with
  | service =>
    rw [CostRecord.sumsBy_of_same (by decide) (show ∀ r ∈ _, _ = "Storage" by decide)]
    decide +kernel
  | group =>
    rw [CostRecord.sumsBy_of_same (by decide) (show ∀ r ∈ _, _ = "" by decide)]
    decide +kernel

/-- Neither of their sums is no number. -/
theorem not_isNaN_oldAndNew : ¬∃ dimension,
    ∃ sum ∈ CostRecord.sumsBy dimension (Store.recorded [.insertBatch oldAndNew]), Amount.isNaN sum.2 = true := by
  rintro ⟨dimension, sum, hsum, hnan⟩
  have hsix : sum.2 = 6 := List.mem_singleton.1 (sums_oldAndNew dimension ▸ List.mem_map_of_mem hsum)
  rw [hsix] at hnan
  revert hnan
  decide +kernel

/-- Only the second is seen, and the report is named after its month alone; the total is six all the same. -/
theorem report_oldAndNew : ∃ report, (World.run afterYears (Service.report ⟨.azure, Config.standard⟩)).1 = .ok report ∧
    report.total = 6 ∧ report.period = "2024-05 to 2024-05" := by
  have hstore : afterYears.store = Store.ofHistory [.insertBatch oldAndNew] := rfl
  obtain ⟨seen, ⟨hperm, _⟩, hanswer⟩ := report_figures ⟨.azure, Config.standard⟩ hstore (by decide +kernel)
  have hseen : seen = [{ oldAndNew[1] with id := some 2 }] :=
    List.perm_singleton.1 (hperm.trans (by decide +kernel))
  subst hseen
  cases hreport : (World.run afterYears (Service.report ⟨.azure, Config.standard⟩)).1 with
  | error e =>
    rw [hreport] at hanswer
    rcases hanswer with ⟨_, hnan⟩ | ⟨_, hnan⟩
    · exact absurd hnan (by decide +kernel)
    · exact absurd hnan not_isNaN_oldAndNew
  | ok report =>
    rw [hreport] at hanswer
    obtain ⟨⟨htotal, _⟩, _, hperiod, _⟩ := hanswer
    refine ⟨report, rfl, ?_, ?_⟩
    · rw [htotal, CostRecord.totalByService, sums_oldAndNew]
      decide +kernel
    · rcases hperiod with ⟨hnone, _⟩ | ⟨oldest, holdest, newest, hnewest, hperiod, _⟩
      · cases hnone
      · rw [hperiod, List.mem_singleton.1 holdest, List.mem_singleton.1 hnewest]
        decide +kernel

/-- The months of the report count the second alone. -/
theorem months_oldAndNew : ∃ totals, afterYears.store.monthTotals afterYears.today reportMonths = .ok totals ∧
    (Store.recorded [.insertBatch oldAndNew]).filter (fun r => totals.any fun t => r.isOf t.month t.currency) =
      [{ oldAndNew[1] with id := some 2 }] := by
  have hperm := (Store.since_of_plain [.insertBatch oldAndNew] afterYears.today reportMonths (by decide +kernel)).1
  have hseen := List.perm_singleton.1 (hperm.trans
    (show List.Perm _ [{ oldAndNew[1] with id := some 2 }] by decide +kernel))
  have htotals := Store.monthTotals_ofHistory [.insertBatch oldAndNew] afterYears.today reportMonths hseen.symm
    (by decide +kernel)
  have hstore : afterYears.store = Store.ofHistory [.insertBatch oldAndNew] := rfl
  rw [← hstore] at htotals
  cases hanswer : afterYears.store.monthTotals afterYears.today reportMonths with
  | error e =>
    rw [hanswer] at htotals
    exact absurd htotals.2 (by decide +kernel)
  | ok totals =>
    rw [hanswer] at htotals
    obtain ⟨honce, hsums, _⟩ := htotals
    refine ⟨totals, rfl, ?_⟩
    -- the month of each sum is that of the second cost
    have hnew : (totals.any fun t => CostRecord.isOf { oldAndNew[1] with id := some 2 } t.month t.currency) = true := by
      obtain ⟨t, ht, hof⟩ := CostRecord.exists_isOf (honce _ (List.mem_singleton.2 rfl))
      exact List.any_eq_true.2 ⟨t, ht, decide_eq_true hof⟩
    have hold : (totals.any fun t => CostRecord.isOf { oldAndNew[0] with id := some 1 } t.month t.currency) = false := by
      refine List.any_eq_false.2 fun t ht hof => ?_
      obtain ⟨r, hr, hof'⟩ := (hsums t ht).1
      rw [List.mem_singleton.1 hr] at hof'
      have hmonths := (of_decide_eq_true hof).1.trans (of_decide_eq_true hof').1.symm
      revert hmonths
      decide +kernel
    rw [recorded_oldAndNew, List.filter_cons, hold, List.filter_cons, hnew]
    rfl

/-- It is false that the total of a report is that of the records which its months count: of the two costs the months count
one. -/
theorem report_total_of_months_false :
    ¬∀ (s : Service) (w : World) (calls : List (Store.Call Float)) (report : Report Float),
      w.store = Store.ofHistory calls → (∀ r ∈ Store.recorded calls, r.date.IsPlain) →
      (World.run w s.report).1 = .ok report →
        report.total = CostRecord.totalByService ((Store.recorded calls).filter fun r =>
          report.monthly.any fun t => r.isOf t.month t.currency) := by
  intro h
  obtain ⟨totals, htotals, hcounted⟩ := months_oldAndNew
  have hstore : afterYears.store = Store.ofHistory [.insertBatch oldAndNew] := rfl
  have hanswer := report_answer ⟨.azure, Config.standard⟩ hstore
  cases hreport : (World.run afterYears (Service.report ⟨.azure, Config.standard⟩)).1 with
  | error e =>
    rw [hreport] at hanswer
    rcases hanswer with hmonthly | ⟨_, hnan⟩
    · rw [htotals] at hmonthly
      cases hmonthly
    · exact not_isNaN_oldAndNew hnan
  | ok report =>
    rw [hreport] at hanswer
    obtain ⟨hmonthly, _, htotal, _⟩ := hanswer
    rw [htotals] at hmonthly
    cases hmonthly
    have hfalse := h _ _ _ report hstore (by decide +kernel) hreport
    rw [htotal, hcounted, CostRecord.totalByService, CostRecord.totalByService, sums_oldAndNew,
      CostRecord.sumsBy_of_same (by decide) (show ∀ r ∈ _, _ = "Storage" by decide)] at hfalse
    revert hfalse
    decide +kernel

end Service

end SpendLedger
