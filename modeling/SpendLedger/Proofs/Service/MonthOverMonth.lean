import SpendLedger.Proofs.Ledger.MonthCount
import SpendLedger.Proofs.Service.ForecastChain

/-!
# Months behind the trend and the confidence

The trend sets the first sum of the look back against the second, and the confidence of the forecast is that of the number of
sums. With one currency the sums are months. With several currencies in a month they are not: the trend can set a month
against itself, and one month can earn the confidence of many (`month_over_month_false`).
-/

namespace SpendLedger

namespace Service

/-- What the trend and the confidence are taken from, whatever the store has been used for, if the costs or the day that the
look back reaches are in the years from 0 to 9999.
1. The look back sees the records of these years from the day on that it reaches, which is the day of the month six months
   back; if that day is later than these years it sees all of them.
2. The trend sets the first sum of the look back against the second. The records of the second are of an earlier month than
   those of the first exactly if the month of the first has one currency.
3. The confidence is that of the number of sums. There are at least as many sums as months with records that are seen, and no
   more exactly if every month has one currency; then the confidence is that of the number of months.
If one of the sums is no number, there is no trend and no forecast of the months. -/
theorem trend_and_confidence {w : World} {calls : List (Store.Call Float)} (hstore : w.store = Store.ofHistory calls)
    (hplain : (∀ r ∈ Store.recorded calls, r.date.IsPlain) ∨ (w.today.monthsBack historyMonths).IsPlain) :
    let cutoff := w.today.monthsBack historyMonths
    ∃ seen : List (CostRecord Float),
      (seen.Perm ((Store.recorded calls).filter fun r => r.date.IsPlain ∧ (cutoff ≤ r.date ∨ 9999 < cutoff.year)) ∧
        seen.Pairwise fun a b => b.Newer a) ∧
      match w.store.monthTotals w.today historyMonths with
      | .ok totals =>
        ((World.run w trend).1 = .ok (TrendAnalysis.ofMonths totals) ∧
          ∀ first second later, totals = first :: second :: later →
            (TrendAnalysis.ofMonths totals).currentMonth = Amount.roundCents first.total ∧
            (TrendAnalysis.ofMonths totals).previousMonth = Amount.roundCents second.total ∧
            ((∀ a ∈ seen, ∀ b ∈ seen, a.isOf first.month first.currency = true →
                b.isOf second.month second.currency = true → b.date.monthIndex < a.date.monthIndex) ↔
              ∀ a ∈ seen, ∀ b ∈ seen, a.date.monthText = first.month → b.date.monthText = first.month →
                a.currency = b.currency)) ∧
        ((∃ own, (World.run w ownForecast).1 = .ok (some own) ∧ own.confidence = Confidence.ofCount totals.length) ∧
          (CostRecord.months seen).length ≤ totals.length ∧
          ((CostRecord.months seen).length = totals.length ↔ CostRecord.OneCurrencyAMonth seen))
      | .error e =>
        (e = .persistence .readingMonths .sumUndefined ∧ ∃ r ∈ seen,
          Amount.isNaN (CostRecord.sum (seen.filter fun q => q.isOf r.date.monthText r.currency)) = true) ∧
        (World.run w trend).1 = .error e ∧ (World.run w ownForecast).1 = .ok none := by
  intro cutoff
  obtain ⟨hperm, hordered⟩ := Store.since_by_calendar calls w.today historyMonths hplain
  generalize hseen : ((Store.ofHistory calls).since w.today historyMonths).map CostRow.entry = seen at hperm hordered
  have hseenPlain : ∀ r ∈ seen, r.date.IsPlain := by
    intro r hr
    obtain ⟨_, hwanted⟩ := List.mem_filter.1 (hperm.mem_iff.1 hr)
    exact (of_decide_eq_true hwanted).1
  have htotals := Store.monthTotals_ofHistory calls w.today historyMonths hseen.symm hseenPlain
  rw [← hstore] at htotals
  have htrend : World.run w trend = _ := run_trend w
  obtain ⟨journal, hown⟩ := run_ownForecast_eq_ok w
  have hown : World.run w ownForecast = _ := hown
  refine ⟨seen, ⟨hperm, hordered⟩, ?_⟩
  rw [htrend, hown]
  cases hanswer : w.store.monthTotals w.today historyMonths with
  | error e =>
    rw [hanswer] at htotals
    exact ⟨htotals, rfl, rfl⟩
  | ok totals =>
    rw [hanswer] at htotals
    obtain ⟨honce, hsums, hsorted⟩ := htotals
    have htally : MonthTotal.Tally seen totals := ⟨hseenPlain, honce, fun t ht => (hsums t ht).1, hsorted⟩
    refine ⟨⟨rfl, ?_⟩, ⟨_, rfl, rfl⟩, htally.length_months_le, htally.length_months_eq_iff⟩
    intro first second later hlisted
    refine ⟨?_, ?_, (hlisted ▸ htally).second_earlier_iff⟩
    · rw [hlisted]
      rfl
    · rw [hlisted]
      rfl

/-- A cost of ten on a day, in some currency. -/
def tenOn (date : Date) (currency : String) : CostRecord Float :=
  ⟨none, "account", none, "Storage", 10, currency, date⟩

/-- Costs of May and of June, in one currency. -/
def mayAndJune : List (CostRecord Float) :=
  [tenOn ⟨2024, 5, 20, by decide⟩ "USD", tenOn ⟨2024, 6, 1, by decide⟩ "USD"]

/-- A world on a day of June, in which costs are stored. -/
def inJune (costs : List (CostRecord Float)) : World :=
  World.offline (Store.ofHistory [.insertBatch costs]) ⟨2024, 6, 15, by decide⟩

/-- Costs of two months in one currency have two sums. -/
theorem trend_mayAndJune : ∃ totals own,
    (inJune mayAndJune).store.monthTotals (inJune mayAndJune).today historyMonths = .ok totals ∧ totals.length = 2 ∧
      (World.run (inJune mayAndJune) ownForecast).1 = .ok (some own) ∧ own.confidence = .low := by
  have hstore : (inJune mayAndJune).store = Store.ofHistory [.insertBatch mayAndJune] := rfl
  obtain ⟨seen, ⟨hperm, hordered⟩, hanswer⟩ := trend_and_confidence hstore (Or.inl (by decide +kernel))
  have hseen : seen = [{ mayAndJune[0] with id := some 1 }, { mayAndJune[1] with id := some 2 }] :=
    CostRecord.eq_of_along hordered (by decide +kernel) (hperm.trans (by decide +kernel))
  subst hseen
  cases htotals : (inJune mayAndJune).store.monthTotals (inJune mayAndJune).today historyMonths with
  | error e =>
    rw [htotals] at hanswer
    exact absurd hanswer.1.2 (by decide +kernel)
  | ok totals =>
    rw [htotals] at hanswer
    obtain ⟨_, ⟨own, hown, hconfidence⟩, _, hlength⟩ := hanswer
    have htwo : totals.length = 2 := (hlength.2 (by decide +kernel)).symm.trans (by decide +kernel)
    exact ⟨totals, own, rfl, htwo, hown, by rw [hconfidence, htwo]; rfl⟩

/-- Costs of one day in four currencies. -/
def fourCurrencies : List (CostRecord Float) :=
  ["EUR", "GBP", "JPY", "USD"].map (tenOn ⟨2024, 6, 1, by decide⟩)

/-- The costs of the day have four sums at least, each of this day. -/
theorem months_fourCurrencies : ∃ totals,
    (inJune fourCurrencies).store.monthTotals (inJune fourCurrencies).today historyMonths = .ok totals ∧
      4 ≤ totals.length ∧
      ∀ t ∈ totals, ∃ r ∈ Store.recorded [.insertBatch fourCurrencies], r.isOf t.month t.currency = true := by
  obtain ⟨hperm, hordered⟩ := Store.since_by_calendar [.insertBatch fourCurrencies] (inJune fourCurrencies).today
    historyMonths (Or.inl (by decide +kernel))
  have hseen := CostRecord.eq_of_along hordered
    (show (Store.recorded [.insertBatch fourCurrencies]).Pairwise fun a b => b.Newer a by decide +kernel)
    (hperm.trans (by decide +kernel))
  have htotals := Store.monthTotals_ofHistory [.insertBatch fourCurrencies] (inJune fourCurrencies).today historyMonths
    hseen.symm (by decide +kernel)
  have hstore : (inJune fourCurrencies).store = Store.ofHistory [.insertBatch fourCurrencies] := rfl
  rw [← hstore] at htotals
  cases hanswer : (inJune fourCurrencies).store.monthTotals (inJune fourCurrencies).today historyMonths with
  | error e =>
    rw [hanswer] at htotals
    exact absurd htotals.2 (by decide +kernel)
  | ok totals =>
    rw [hanswer] at htotals
    obtain ⟨honce, hsums, _⟩ := htotals
    refine ⟨totals, rfl, ?_, fun t ht => (hsums t ht).1⟩
    have hcurrencies : ["EUR", "GBP", "JPY", "USD"] ⊆ totals.map MonthTotal.currency := by
      intro currency hcurrency
      have hmem : currency ∈ (Store.recorded [.insertBatch fourCurrencies]).map CostRecord.currency := by
        revert currency
        decide +kernel
      obtain ⟨r, hr, rfl⟩ := List.mem_map.1 hmem
      obtain ⟨t, ht, _, hsame⟩ := CostRecord.exists_isOf (honce r hr)
      exact hsame ▸ List.mem_map_of_mem ht
    have hlength := List.Nodup.length_le_of_subset (by decide) hcurrencies
    rwa [List.length_map] at hlength

/-- It is false that the trend always sets a month against an earlier one, and that the confidence is always that of the number
of months: of four currencies in one month the trend compares two, and together they earn the confidence of four months. -/
theorem month_over_month_false :
    (¬∀ (w : World) (calls : List (Store.Call Float)) (first second : MonthTotal Float) (later : List (MonthTotal Float)),
      w.store = Store.ofHistory calls → w.store.monthTotals w.today historyMonths = .ok (first :: second :: later) →
        ∀ a ∈ Store.recorded calls, ∀ b ∈ Store.recorded calls, a.isOf first.month first.currency = true →
          b.isOf second.month second.currency = true → b.date.monthIndex < a.date.monthIndex) ∧
    ¬∀ (w : World) (calls : List (Store.Call Float)) (own : Forecast Float),
      w.store = Store.ofHistory calls → (World.run w ownForecast).1 = .ok (some own) →
        own.confidence = Confidence.ofCount (CostRecord.months ((Store.recorded calls).filter fun r =>
          w.today.monthsBack historyMonths ≤ r.date)).length := by
  obtain ⟨totals, htotals, hfour, hrecord⟩ := months_fourCurrencies
  constructor
  · intro h
    match totals, hfour with
    | first :: second :: later, _ =>
      obtain ⟨a, ha, hofA⟩ := hrecord first List.mem_cons_self
      obtain ⟨b, hb, hofB⟩ := hrecord second (List.mem_cons_of_mem _ List.mem_cons_self)
      have hearlier := h _ _ first second later rfl htotals a ha b hb hofA hofB
      have hsame : ∀ r ∈ Store.recorded [.insertBatch fourCurrencies], r.date.monthIndex = 24293 := by decide +kernel
      rw [hsame a ha, hsame b hb] at hearlier
      exact Int.lt_irrefl _ hearlier
  · intro h
    obtain ⟨journal, hown⟩ := run_ownForecast_eq_ok (inJune fourCurrencies)
    rw [htotals] at hown
    have hconfidence := h _ _ (Forecast.ofMonths totals) rfl (congrArg Prod.fst hown)
    have hlow : (Forecast.ofMonths totals).confidence = .low := hconfidence.trans (by decide +kernel)
    exact Nat.not_lt.2 hfour (Confidence.ofCount_eq_low_iff.1 hlow)

end Service

end SpendLedger
