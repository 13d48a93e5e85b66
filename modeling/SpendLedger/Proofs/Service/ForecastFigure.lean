import SpendLedger.Proofs.Number.Sign
import SpendLedger.Proofs.Service.ForecastChain

/-!
# Which forecasts can be spent

A forecast of the months is a number that is not below zero, whatever the months are. An estimate of the provider is only
rounded: it may be below zero, infinite or no number, and then the forecast is too. So it is false that every forecast can be
spent (`forecast_spend_false`); the forecast can be spent exactly if the figure that the provider tells can, but for the sign
of figures so small that nothing else is left of them.
-/

namespace SpendLedger

/-- What the months are projected to can be spent. -/
theorem Trend.isSpend_projection (months : List (MonthTotal Float)) : Amount.IsSpend (Trend.projection months) :=
  Binary64.isSpend_roundCents_iff.2 (.inl (Binary64.isSpend_atLeastZero _))

namespace Service

/-- What a forecast is and whether it can be spent, whatever the world, the configuration and the provider. It is that of the
months, which can always be spent; or it is an estimate in hundredths that a document tells which was received. Such a
forecast is no number exactly if the estimate is none, and can be spent exactly if the estimate can or what is left of it is
the negative zero. There is a forecast whenever the months can be read. -/
theorem forecast_figure (s : Service) (w : World) :
    let after := (World.run w s.forecast).2
    match (World.run w s.forecast).1 with
    | .ok f =>
      (∃ totals, w.store.monthTotals w.today historyMonths = .ok totals ∧ f = Forecast.ofMonths totals ∧
        Amount.IsSpend f.nextMonth) ∨
      ∃ body estimate, w.network.Received after.network [body] ∧
        s.provider.estimateOf? w.today body = some estimate ∧
        f = { nextMonth := Amount.roundCents estimate, confidence := .medium } ∧
        Amount.isNaN f.nextMonth = Amount.isNaN estimate ∧
        (Amount.IsSpend f.nextMonth ↔ Amount.IsSpend estimate ∨ f.nextMonth = -Float.ofNat 0)
    | .error _ => ∃ fault, w.store.monthTotals w.today historyMonths = .error fault := by
  intro after
  by_cases hfour : ∃ totals, w.store.monthTotals w.today historyMonths = .ok totals ∧ 4 ≤ totals.length
  · obtain ⟨totals, hhistory, hlength⟩ := hfour
    have hrun : World.run w s.forecast = (.ok (Forecast.ofMonths totals), w) := run_forecast_of_trusted s hhistory hlength
    rw [hrun]
    exact .inl ⟨totals, hhistory, rfl, Trend.isSpend_projection totals⟩
  · have hfew : ∀ totals, w.store.monthTotals w.today historyMonths = .ok totals → totals.length < 4 :=
      fun totals hhistory => Nat.lt_of_not_le fun hlength => hfour ⟨totals, hhistory, hlength⟩
    obtain ⟨told, found, journal, hremote, _, _, _, hrun⟩ := run_forecast_of_few s hfew
    have hrun : World.run w s.forecast = _ := hrun
    cases told with
    | ok estimate =>
      rw [run_ownForecast_snd w] at hremote
      obtain ⟨_, body, hreceived, hestimate⟩ := estimate_eq_ok hremote
      have hafter : after = found := congrArg Prod.snd hrun
      rw [hrun]
      exact .inr ⟨body, estimate, hafter ▸ hreceived, hestimate, rfl, Binary64.isNaN_roundCents estimate,
        Binary64.isSpend_roundCents_iff⟩
    | error cause =>
      cases hhistory : w.store.monthTotals w.today historyMonths with
      | ok totals =>
        rw [hrun, hhistory]
        exact .inl ⟨totals, rfl, rfl, Trend.isSpend_projection totals⟩
      | error fault =>
        rw [hrun, hhistory]
        exact ⟨fault, rfl⟩

/-- What Azure tells of a month in which more is paid back than spent: a cost of five below zero. -/
def refundDocument : Tree :=
  .fields [("properties", .fields [("columns", .list [.fields [("name", .text "Cost")]]),
    ("rows", .list [.list [.integer (-5)]])])]

/-- With this document the forecast is five below zero. -/
theorem forecast_refund : (World.run (World.answered refundDocument) standard.forecast).1.toOption =
    some { nextMonth := -5, confidence := .medium } := by
  decide +kernel

/-- It is false that every forecast can be spent: the estimate of a provider is not raised to zero. -/
theorem forecast_spend_false : ¬∀ (s : Service) (w : World) (f : Forecast Float),
    (World.run w s.forecast).1 = .ok f → Amount.IsSpend f.nextMonth := by
  intro h
  have hforecast := forecast_refund
  cases hrun : (World.run (World.answered refundDocument) standard.forecast).1 with
  | error e =>
    rw [hrun] at hforecast
    cases hforecast
  | ok f =>
    rw [hrun] at hforecast
    obtain rfl := Option.some.inj hforecast
    have hbelow := (h _ _ _ hrun).2
    revert hbelow
    decide +kernel

end Service

end SpendLedger
