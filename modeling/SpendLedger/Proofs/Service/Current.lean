import SpendLedger.Proofs.Service.Operations

/-!
# Refreshing the current month

To refresh the current month is to fetch its costs, to sum it up and to ask for the forecast, one after the other. What is
fetched stays whatever comes after it. So a failure of the fetch leaves the store as it was, a forecast that cannot be had is
left out, but the summary can fail when the costs are stored already: that every failure leaves the store as it was is false
(`current_keeps_store_false`).
-/

namespace SpendLedger

/-- A summary that there is has sums by service that are all numbers, and no forecast yet. -/
theorem Store.summary_eq_ok {α : Type} [Amount α] {s : Store α} {selection : Selection} {currency : String}
    {summary : Summary α} (h : s.summary selection currency = .ok summary) :
    s.aggregate .service selection.window = .ok summary.byService ∧ summary.forecast = none := by
  unfold Store.summary at h
  cases hservice : s.aggregate .service selection.window with
  | error e =>
    rw [hservice] at h
    cases h
  | ok byService =>
    cases hgroup : s.aggregate .group selection.window with
    | error e =>
      rw [hservice, hgroup] at h
      cases h
    | ok byGroup =>
      rw [hservice, hgroup] at h
      obtain rfl := Except.ok.inj h
      exact ⟨rfl, rfl⟩

namespace Service

open SpendLedger.Action

/-! ## Step by step -/

/-- Where the fetch of the month fails, nothing else is done. -/
theorem run_current_of_error {s : Service} {w after : World} {e : Failure}
    (h : Action.run w (s.fetch w.today.wholeMonth.1 w.today.wholeMonth.2) = (.error e, after)) :
    Action.run w s.current = (.error e, after) := by
  rw [current_eq, run_bind_of_ok (run_get w)]
  exact run_bind_of_error h _

/-- Behind the fetch the month is summed up in the store that the fetch has left, and the forecast is put to it. -/
theorem run_current_of_ok {s : Service} {w fetched : World} {count : Nat}
    (h : Action.run w (s.fetch w.today.wholeMonth.1 w.today.wholeMonth.2) = (.ok count, fetched)) :
    ∃ journal, Action.run w s.current =
      match fetched.store.summary (.between w.today.wholeMonth.1 w.today.wholeMonth.2) s.config.currency with
      | .error e => (.error e, { fetched with journal })
      | .ok month => Action.run { fetched with journal } (s.withForecast month) := by
  obtain ⟨journal, hsummary⟩ := run_summary s fetched (.between w.today.wholeMonth.1 w.today.wholeMonth.2)
  refine ⟨journal, ?_⟩
  rw [current_eq, run_bind_of_ok (run_get w)]
  refine (run_bind_of_ok h _).trans ?_
  cases hmonth : fetched.store.summary (.between w.today.wholeMonth.1 w.today.wholeMonth.2) s.config.currency with
  | error e =>
    rw [hmonth] at hsummary
    exact run_bind_of_error hsummary _
  | ok month =>
    rw [hmonth] at hsummary
    exact run_bind_of_ok hsummary _

/-- A summary without a forecast always gets along: it has the forecast behind it if there is one, and the store stays. -/
theorem run_withForecast_eq_ok (s : Service) {month : Summary Float} (hnone : month.forecast = none) (w : World) :
    ∃ after, Action.run w (s.withForecast month) =
        (.ok { month with forecast := (Action.run w s.forecast).1.toOption }, after) ∧ after.store = w.store := by
  have hkept := keeps_forecast World.inner_store s w
  rw [run_withForecast]
  cases hforecast : Action.run w s.forecast with
  | mk answer after =>
    rw [hforecast] at hkept
    cases answer with
    | ok f => exact ⟨after, rfl, hkept⟩
    | error e =>
      have hmonth : month = { month with forecast := none } := by rw [← hnone]
      exact ⟨_, Prod.ext (congrArg Except.ok hmonth) rfl, hkept⟩

/-! ## The whole -/

/-- What a fetch that answers does: the provider was asked, and the records of the costs that it has told for the account stand
in the store behind all that was there, as many as the fetch answers with. -/
structure Appended (s : Service) (first last : Date) (w fetched : World) (count : Nat) : Prop where
  run : World.run w (s.fetch first last) = (.ok count, fetched)
  costs : ∃ account access journal middle costs, s.account w = .ok account ∧
    World.run { w with journal } (s.provider.costs access first last) = (.ok costs, middle) ∧
    count = costs.rows.length ∧ fetched.store = w.store.withBatch (costs.records account)

/-- A fetch that answers has appended its costs. -/
theorem appended_of_run {s : Service} {first last : Date} {w fetched : World} {count : Nat}
    (h : Action.run w (s.fetch first last) = (.ok count, fetched)) : s.Appended first last w fetched count := by
  obtain ⟨account, access, journal, middle, costs, hknown, htold, hcount, hstore, _⟩ := fetch_eq_ok h
  exact ⟨h, account, access, journal, middle, costs, hknown, htold, hcount, hstore⟩

/-- Refreshing the current month, whatever the world, the configuration and the provider. It fails in one of two ways: the
fetch fails, and the store is as it was; or what was fetched is appended, and then a sum of the month is no number, so that
there is no summary of it. Otherwise exactly what was fetched is appended, and the answer is the summary of the month in the
store with it, with the forecast if there is one; that there is none is no failure. From the first to the last day there are
the days of the month, unless it is the last month of all dates. -/
theorem current_outcome (s : Service) (w : World) :
    let first := w.today.wholeMonth.1
    let last := w.today.wholeMonth.2
    (w.today.monthIndex < Date.max.monthIndex → ∀ d, first ≤ d ∧ d ≤ last ↔ d.monthIndex = w.today.monthIndex) ∧
    match World.run w s.current with
    | (.error e, after) =>
      World.run w (s.fetch first last) = (.error e, after) ∧ after.store = w.store ∨
      (∃ fetched count, s.Appended first last w fetched count ∧ after.store = fetched.store) ∧
        after.store.summary (.between first last) s.config.currency = .error e ∧
        e = .persistence .readingAggregates .sumUndefined ∧
        ∃ dimension, ∃ sum ∈ CostRecord.sumsBy dimension ((after.store.walk (.between first last)).map CostRow.entry),
          Amount.isNaN sum.2 = true
    | (.ok summary, after) =>
      ∃ fetched count, s.Appended first last w fetched count ∧ after.store = fetched.store ∧
        ∃ journal month, after.store.summary (.between first last) s.config.currency = .ok month ∧
          summary = { month with forecast := (World.run { fetched with journal } s.forecast).1.toOption } := by
  intro first last
  refine ⟨Date.wholeMonth_holds, ?_⟩
  cases hfetch : World.run w (s.fetch first last) with
  | mk answer fetched =>
    cases answer with
    | error e =>
      have hrun : World.run w s.current = _ := run_current_of_error hfetch
      rw [hrun]
      exact .inl ⟨rfl, (fetch_eq_error hfetch).1⟩
    | ok count =>
      have happended := appended_of_run hfetch
      obtain ⟨journal, hcurrent⟩ := run_current_of_ok hfetch
      have hrun : World.run w s.current = _ := hcurrent
      rw [hrun]
      have hcounted := Store.summary_walk fetched.store (.between first last) s.config.currency
      cases hmonth : fetched.store.summary (.between first last) s.config.currency with
      | error e =>
        rw [hmonth] at hcounted
        exact .inr ⟨⟨fetched, count, happended, rfl⟩, hmonth, hcounted⟩
      | ok month =>
        obtain ⟨after, hanswer, hstore⟩ :=
          run_withForecast_eq_ok s (Store.summary_eq_ok hmonth).2 { fetched with journal }
        have hstore : after.store = fetched.store := hstore
        dsimp only
        rw [hanswer]
        exact ⟨fetched, count, happended, hstore, journal, month, hstore ▸ hmonth, rfl⟩

/-- What Azure tells of a month with two costs, both infinite and one of them below zero. -/
def infiniteDocument : Tree :=
  .fields [("properties", .fields [("columns", .list [.fields [("name", .text "Cost")]]),
    ("rows", .list [.list [.text "inf"], .list [.text "-inf"]])])]

/-- A world in which nothing is stored and this is what Azure tells. -/
def infiniteMay : World := World.answered infiniteDocument

/-- The costs as they are fetched. -/
def infiniteCosts : List (CostRecord Float) :=
  [⟨none, "subscription", none, "Unknown", Decimal.infinity, "USD", ⟨2024, 5, 1, by decide⟩⟩,
    ⟨none, "subscription", none, "Unknown", -Decimal.infinity, "USD", ⟨2024, 5, 1, by decide⟩⟩]

/-- The costs are fetched and stored. -/
theorem fetch_infinite : ∃ count fetched,
    Action.run infiniteMay (standard.fetch infiniteMay.today.wholeMonth.1 infiniteMay.today.wholeMonth.2) =
      (.ok count, fetched) ∧ fetched.store = Store.ofHistory [.insertBatch infiniteCosts] := by
  have hran : (Action.run infiniteMay
        (standard.fetch infiniteMay.today.wholeMonth.1 infiniteMay.today.wholeMonth.2)).1.toOption = some 2 ∧
      (Action.run infiniteMay
        (standard.fetch infiniteMay.today.wholeMonth.1 infiniteMay.today.wholeMonth.2)).2.store =
          Store.ofHistory [.insertBatch infiniteCosts] := by
    decide +kernel
  cases hfetch : Action.run infiniteMay
      (standard.fetch infiniteMay.today.wholeMonth.1 infiniteMay.today.wholeMonth.2) with
  | mk answer fetched =>
    rw [hfetch] at hran
    obtain ⟨hcount, hstore⟩ := hran
    cases answer with
    | error e => cases hcount
    | ok count => exact ⟨count, fetched, rfl, hstore⟩

/-- A month with these costs has no summary. -/
theorem no_summary_infinite (currency : String) (month : Summary Float) :
    (Store.ofHistory [.insertBatch infiniteCosts]).summary
      (.between infiniteMay.today.wholeMonth.1 infiniteMay.today.wholeMonth.2) currency ≠ .ok month := by
  intro h
  have hrecorded : ∀ r ∈ Store.recorded [.insertBatch infiniteCosts], r.date.IsPlain := by decide +kernel
  have htoday : infiniteMay.today.IsPlain := by decide +kernel
  obtain ⟨hcounted, hordered⟩ := Store.walk_wholeMonth [.insertBatch infiniteCosts] hrecorded htoday
  have hrecords := CostRecord.eq_of_along hordered
    (show [{ infiniteCosts[0] with id := some 1 }, { infiniteCosts[1] with id := some 2 }].Pairwise _ by decide +kernel)
    (hcounted.trans (by decide +kernel))
  have hservice : (Store.ofHistory [.insertBatch infiniteCosts]).aggregate .service
      (.between infiniteMay.today.wholeMonth.1 infiniteMay.today.wholeMonth.2) = .ok month.byService :=
    (Store.summary_eq_ok h).1
  have hsums := Store.aggregate_walk (Store.ofHistory [.insertBatch infiniteCosts]) .service
    (.between infiniteMay.today.wholeMonth.1 infiniteMay.today.wholeMonth.2)
  rw [hrecords, CostRecord.sumsBy_of_same (by decide) (show ∀ r ∈ _, _ = "Unknown" by decide), hservice] at hsums
  have hnumber := hsums.2 _ (List.mem_singleton.2 rfl)
  revert hnumber
  decide +kernel

/-- They are stored all the same, and the refresh fails. -/
theorem run_current_infinite : ∃ e after, World.run infiniteMay standard.current = (.error e, after) ∧
    after.store = Store.ofHistory [.insertBatch infiniteCosts] := by
  obtain ⟨count, fetched, hfetch, hstore⟩ := fetch_infinite
  obtain ⟨journal, hcurrent⟩ := run_current_of_ok hfetch
  have hmonth := no_summary_infinite standard.config.currency
  rw [← hstore] at hmonth
  cases hsummary : fetched.store.summary (.between infiniteMay.today.wholeMonth.1 infiniteMay.today.wholeMonth.2)
      standard.config.currency with
  | ok month => exact absurd hsummary (hmonth month)
  | error e =>
    rw [hsummary] at hcurrent
    exact ⟨e, _, hcurrent, hstore⟩

/-- It is false that every failure leaves the store as it was: here two costs are stored, and the sum of them is no number. -/
theorem current_keeps_store_false : ¬∀ (s : Service) (w after : World) (e : Failure),
    World.run w s.current = (.error e, after) → after.store.rows = w.store.rows := by
  intro h
  obtain ⟨e, after, hrun, hstore⟩ := run_current_infinite
  have hrows := h _ _ _ _ hrun
  rw [hstore] at hrows
  revert hrows
  decide +kernel

/-- The refresh of this month, which is that of all days in it, fails since a sum is no number. -/
theorem current_infinite :
    (∀ d, infiniteMay.today.wholeMonth.1 ≤ d ∧ d ≤ infiniteMay.today.wholeMonth.2 ↔
      d.monthIndex = infiniteMay.today.monthIndex) ∧
    ∃ after, World.run infiniteMay standard.current = (.error (.persistence .readingAggregates .sumUndefined), after) := by
  obtain ⟨hdays, houtcome⟩ := current_outcome standard infiniteMay
  refine ⟨hdays (by decide +kernel), ?_⟩
  obtain ⟨count, fetched, hfetch, _⟩ := fetch_infinite
  obtain ⟨e, after, hrun, _⟩ := run_current_infinite
  rw [hrun] at houtcome
  rcases houtcome with ⟨hfails, _⟩ | ⟨_, _, rfl, _⟩
  · exact absurd (hfetch.symm.trans hfails) nofun
  · exact ⟨after, hrun⟩

end Service

end SpendLedger
