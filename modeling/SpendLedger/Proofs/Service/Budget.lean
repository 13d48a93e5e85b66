import SpendLedger.Proofs.Ledger.CurrentMonth
import SpendLedger.Proofs.Service.Reads

/-!
# Alerts against the current month

Alerts are checked against the costs of the month that the clock shows: the records of this month and no others, whatever its
length. Every enabled alert is looked at once.
-/

namespace SpendLedger

namespace Service

/-- How alerts stand is an answer of the store, and is told about. -/
theorem run_checkAlerts (s : Service) (w : World) :
    ∃ journal, Action.run w s.checkAlerts =
      (w.store.checkAlerts w.today s.config.currency, { w with journal }) := by
  obtain ⟨told, hsummary⟩ := run_summary s w (.between w.today.wholeMonth.1 w.today.wholeMonth.2)
  unfold checkAlerts
  rw [Action.run_bind_of_ok (Action.run_get w)]
  cases hanswer : w.store.summary (.between w.today.wholeMonth.1 w.today.wholeMonth.2) s.config.currency with
  | error e =>
    have hcheck : w.store.checkAlerts w.today s.config.currency = .error e := by
      rw [Store.checkAlerts_eq, hanswer]
      rfl
    refine ⟨told, ?_⟩
    rw [hanswer] at hsummary
    exact (Action.run_bind_of_error hsummary _).trans (by rw [hcheck])
  | ok summary =>
    obtain ⟨evaluation, hcheck⟩ : ∃ evaluation, w.store.checkAlerts w.today s.config.currency = .ok evaluation := by
      rw [Store.checkAlerts_eq, hanswer]
      exact ⟨_, rfl⟩
    rw [hanswer] at hsummary
    have hread : Action.run { w with journal := told } (World.read fun store =>
        store.checkAlerts w.today s.config.currency) = (.ok evaluation, { w with journal := told }) := by
      rw [World.run_read, hcheck]
    rw [hcheck]
    dsimp only
    rw [Action.run_bind_of_ok hsummary, Action.run_bind_of_ok hread]
    split
    · exact ⟨_, rfl⟩
    · exact ⟨told, rfl⟩

/-- Whatever a store has been used for, with costs of the years from 0 to 9999 and `today` in these years too, alerts are
checked against the records of the month of `today`, those of its first and its last day included.
1. These are the records of its year and month, each once, along the days.
2. The total is the sum of their sums by service.
3. Every enabled alert that is stored has one status, by name and of one name by number, and no other alert has one. The
   triggered alerts are those of them whose threshold is not above the total, in the same order and under their names.
4. They are also the records that a look back from `today` of one month or more counts under the month of `today`.
An answer fails only if one of its sums is no number. -/
theorem checkAlerts_current_month (s : Service) {w : World} {calls : List (Store.Call Float)}
    (hstore : w.store = Store.ofHistory calls) (hrecorded : ∀ r ∈ Store.recorded calls, r.date.IsPlain)
    (htoday : w.today.IsPlain) :
    ∃ counted : List (CostRecord Float),
      (counted.Perm ((Store.recorded calls).filter fun r =>
          r.date.year = w.today.year ∧ r.date.month = w.today.month) ∧
        counted.Pairwise fun a b => b.Newer a) ∧
      (match (World.run w s.checkAlerts).1 with
        | .ok evaluation => evaluation.total = CostRecord.totalByService counted ∧
            ∃ listed : List (Alert Float),
              listed.Perm (w.store.alerts.map AlertRow.alert) ∧ listed.Pairwise Alert.Before ∧
              evaluation.statuses = (listed.filter Alert.enabled).map (Alert.status evaluation.total) ∧
              evaluation.triggered = ((listed.filter Alert.enabled).filter fun alert =>
                Amount.le alert.threshold evaluation.total).map Alert.name
        | .error e => e = .persistence .readingAggregates .sumUndefined ∧
            ∃ dimension, ∃ sum ∈ CostRecord.sumsBy dimension counted, Amount.isNaN sum.2 = true) ∧
      ∀ months, 1 ≤ months → ∃ seen : List (CostRecord Float),
        seen.Perm ((Store.recorded calls).filter fun r => w.today.monthsBack months ≤ r.date) ∧
        seen.filter (fun r => r.isInMonthOf w.today) = counted ∧
        match w.store.monthTotals w.today months with
        | .ok totals =>
          (∀ r ∈ seen, totals.countP (fun t => r.isOf t.month t.currency) = 1) ∧
            (∀ r ∈ seen, ∀ t ∈ totals, r.isOf t.month t.currency = true →
              (t.month = w.today.monthText ↔ r ∈ counted)) ∧
            ∀ t ∈ totals, t.month = w.today.monthText →
              t.total = CostRecord.sum (counted.filter fun r => r.currency = t.currency)
        | .error e => e = .persistence .readingMonths .sumUndefined ∧
            ∃ r ∈ seen, Amount.isNaN (CostRecord.sum (seen.filter fun q => q.isOf r.date.monthText r.currency)) = true := by
  obtain ⟨journal, hrun⟩ := run_checkAlerts s w
  have hrun : (World.run w s.checkAlerts).1 = w.store.checkAlerts w.today s.config.currency := congrArg Prod.fst hrun
  have hanswer := Store.checkAlerts_walk w.store w.today s.config.currency
  rw [hrun]
  rw [hstore] at hanswer ⊢
  refine ⟨_, Store.walk_wholeMonth calls hrecorded htoday, ?_, ?_⟩
  · cases hcheck : (Store.ofHistory calls).checkAlerts w.today s.config.currency with
    | error e =>
      rw [hcheck] at hanswer
      exact hanswer
    | ok evaluation =>
      rw [hcheck] at hanswer
      have hevaluation : evaluation = Evaluation.of _ _ := hanswer
      subst hevaluation
      exact ⟨rfl, _, Store.listAlerts_perm _, (Store.alertsNumbered_ofHistory calls).pairwise_listAlerts, rfl,
        Evaluation.triggered_of _ _⟩
  · intro months hmonths
    obtain ⟨seen, hseen, hofToday, htotals⟩ :=
      Store.monthTotals_of_today calls hmonths hrecorded htoday rfl
    refine ⟨seen, hseen, hofToday, ?_⟩
    cases hanswer : (Store.ofHistory calls).monthTotals w.today months with
    | error e =>
      rw [hanswer] at htotals
      exact htotals
    | ok totals =>
      rw [hanswer] at htotals
      exact htotals

/-- Four costs about a February of 29 days: of the day before it, of its first and its last day, and of the day after it. -/
def aboutFebruary : List (CostRecord Float) :=
  [⟨none, "account", none, "Storage", 1, "USD", ⟨2020, 1, 31, by decide⟩⟩,
    ⟨none, "account", none, "Storage", 2, "USD", ⟨2020, 2, 1, by decide⟩⟩,
    ⟨none, "account", none, "Storage", 4, "USD", ⟨2020, 2, 29, by decide⟩⟩,
    ⟨none, "account", none, "Storage", 8, "USD", ⟨2020, 3, 1, by decide⟩⟩]

/-- The costs, an alert at six, one at seven, and one at five that is not looked at. -/
def februaryCalls : List (Store.Call Float) :=
  [.insertBatch aboutFebruary, .saveAlert ⟨none, "six", 6, "account", true⟩,
    .saveAlert ⟨none, "seven", 7, "account", true⟩, .saveAlert ⟨none, "five", 5, "account", false⟩]

/-- A world with this store, on a day of February. -/
def inFebruary : World :=
  World.offline (Store.ofHistory februaryCalls) ⟨2020, 2, 10, by decide⟩

/-- In this February six was spent, and the alert at six is triggered. -/
theorem checkAlerts_february : ∃ evaluation,
    (World.run inFebruary (checkAlerts ⟨.azure, Config.standard⟩)).1 = .ok evaluation ∧
      evaluation.total = 6 ∧ evaluation.triggered = ["six"] := by
  have hstore : inFebruary.store = Store.ofHistory februaryCalls := rfl
  obtain ⟨counted, ⟨hcounted, hordered⟩, hanswer, _⟩ :=
    checkAlerts_current_month ⟨.azure, Config.standard⟩ hstore (by decide +kernel) (by decide +kernel)
  have hrecords : counted = [{ aboutFebruary[1] with id := some 2 }, { aboutFebruary[2] with id := some 3 }] :=
    CostRecord.eq_of_along hordered (by decide +kernel) (hcounted.trans (by decide +kernel))
  have hservice : CostRecord.sumsBy .service counted = [("Storage", 6)] := by
    rw [hrecords, CostRecord.sumsBy_of_same (by decide) (show ∀ r ∈ _, _ = "Storage" by decide)]
    decide +kernel
  have hgroup : CostRecord.sumsBy .group counted = [("", 6)] := by
    rw [hrecords, CostRecord.sumsBy_of_same (by decide) (show ∀ r ∈ _, _ = "" by decide)]
    decide +kernel
  cases hcheck : (World.run inFebruary (checkAlerts ⟨.azure, Config.standard⟩)).1 with
  | error e =>
    rw [hcheck] at hanswer
    obtain ⟨_, dimension, hnan⟩ := hanswer
    cases dimension with
    | service => exact absurd hnan (by rw [hservice]; decide +kernel)
    | group => exact absurd hnan (by rw [hgroup]; decide +kernel)
  | ok evaluation =>
    rw [hcheck] at hanswer
    obtain ⟨htotal, listed, hlisted, _, _, htriggered⟩ := hanswer
    have hsix : evaluation.total = 6 := by
      rw [htotal, CostRecord.totalByService, hservice]
      decide +kernel
    refine ⟨evaluation, rfl, hsix, ?_⟩
    rw [htriggered, hsix]
    have hone := (((hlisted.filter Alert.enabled).filter fun alert => Amount.le alert.threshold 6).map Alert.name).trans
      (show List.Perm _ ["six"] by decide +kernel)
    exact List.perm_singleton.1 hone

end Service

end SpendLedger
