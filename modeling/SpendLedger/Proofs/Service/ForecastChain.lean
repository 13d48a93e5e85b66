import SpendLedger.Proofs.Provider.Estimate
import SpendLedger.Proofs.Service.Reads

/-!
# Where a forecast comes from

A forecast is the months' own if there are four of them at least; then nobody is asked. Otherwise it is the provider's
estimate, and if there is none, again the months' own, little as it can be trusted. There is no forecast only if neither the
months can be read nor the provider has an estimate.
-/

namespace SpendLedger

/-- Up to three months earn the lowest confidence, and no others. -/
theorem Confidence.ofCount_eq_low_iff {points : Nat} : Confidence.ofCount points = .low ↔ points < 4 := by
  unfold Confidence.ofCount
  split
  next h => exact iff_of_true rfl (by omega)
  next h =>
    refine iff_of_false ?_ (by omega)
    split
    · exact nofun
    · exact nofun

namespace Forecast

/-- A forecast of the months that can be trusted is given, and nobody is asked. -/
theorem run_resolve_of_trusted {own : Forecast Float} (h : own.confidence ≠ .low) (w : World)
    (estimate : Action World Float) : Action.run w (resolve (some own) estimate) = (.ok own, w) := by
  have htrusted : (some own).filter (fun f => f.confidence ≠ .low) = some own := by simp [h]
  unfold resolve
  rw [htrusted]
  rfl

/-- Otherwise the provider is asked. Its estimate is given in hundredths and with medium confidence; without an estimate the
months' own forecast is given, if there is one. -/
theorem run_resolve_of_low {own : Option (Forecast Float)} (h : ∀ f ∈ own, f.confidence = .low) (w : World)
    (estimate : Action World Float) :
    ∃ journal, Action.run w (resolve own estimate) = match Action.run w estimate with
      | (.ok x, after) => (.ok { nextMonth := Amount.roundCents x, confidence := .medium }, after)
      | (.error e, after) => match own with
        | some f => (.ok f, { after with journal })
        | none => (.error (.forecast ("no local history and remote forecast failed: " ++ e.message)), after) := by
  have hlow : own.filter (fun f => f.confidence ≠ .low) = none := by
    cases own with
    | none => rfl
    | some f => simp [h f rfl]
  unfold resolve
  rw [hlow]
  dsimp only
  rw [Action.run_bind, Action.run_tryCatch, Action.run_bind]
  cases Action.run w estimate with
  | mk answer after =>
    cases answer with
    | ok x => exact ⟨w.journal, rfl⟩
    | error e =>
      cases own with
      | none => exact ⟨w.journal, rfl⟩
      | some f => exact ⟨_, rfl⟩

end Forecast

namespace Service

/-- The provider's estimate of the month to come, with the access of the account. -/
def estimate (s : Service) : Action World Float := do
  let access ← s.access (← get)
  s.provider.forecast access

/-- An estimate needs an access, and is told by a document that was received. -/
theorem estimate_eq_ok {s : Service} {w after : World} {estimate : Float}
    (h : Action.run w s.estimate = (.ok estimate, after)) :
    (∃ access, s.access w = .ok access) ∧
      ∃ body, w.network.Received after.network [body] ∧ s.provider.estimateOf? w.today body = some estimate := by
  unfold Service.estimate at h
  rw [Action.run_bind_of_ok (Action.run_get w)] at h
  obtain ⟨access, haccess, h⟩ := Action.run_lift_bind_eq_ok h
  exact ⟨⟨access, haccess⟩, Provider.forecast_eq_ok h⟩

/-- To ask for an estimate takes one request at most. -/
theorem requests_estimate (s : Service) : Action.RequestsAtMost 1 s.estimate :=
  .after .get fun w => .after (.lift (s.access w)) fun access => Provider.requests_forecast s.provider access

theorem store_estimate (s : Service) : Action.Keeps World.store s.estimate :=
  .bind .get fun w => .bind (.lift (s.access w)) fun access =>
    Provider.keeps_forecast World.inner_store s.provider access

/-- To try the months changes the journal alone. -/
theorem run_ownForecast_snd (w : World) :
    (Action.run w ownForecast).2 = { w with journal := (Action.run w ownForecast).2.journal } := by
  obtain ⟨journal, hown⟩ := run_ownForecast_eq_ok w
  rw [hown]

/-- What is done for a forecast: the months are tried, and what is found in them is weighed against the estimate. -/
theorem run_forecast (s : Service) (w : World) :
    let own := (w.store.monthTotals w.today historyMonths).toOption.map Forecast.ofMonths
    Action.run w s.forecast = Action.run (Action.run w ownForecast).2 (Forecast.resolve own s.estimate) := by
  intro own
  obtain ⟨journal, hown⟩ := run_ownForecast_eq_ok w
  rw [hown]
  exact Action.run_bind_of_ok hown _

/-- Four months make a forecast that nobody is asked about, whatever the provider, the account and the credential. -/
theorem run_forecast_of_trusted (s : Service) {w : World} {totals : List (MonthTotal Float)}
    (h : w.store.monthTotals w.today historyMonths = .ok totals) (hlength : 4 ≤ totals.length) :
    Action.run w s.forecast = (.ok (Forecast.ofMonths totals), w) := by
  have htrusted : (Forecast.ofMonths totals).confidence ≠ .low := fun hlow =>
    Nat.not_lt.2 hlength (Confidence.ofCount_eq_low_iff.1 hlow)
  rw [run_forecast, run_ownForecast, h]
  exact Forecast.run_resolve_of_trusted htrusted w s.estimate

/-- With fewer months, or months that cannot be read, the provider is asked, with one request at most. -/
theorem run_forecast_of_few (s : Service) {w : World}
    (h : ∀ totals, w.store.monthTotals w.today historyMonths = .ok totals → totals.length < 4) :
    ∃ told found journal, Action.run (Action.run w ownForecast).2 s.estimate = (told, found) ∧
      found.store = w.store ∧
      w.network.RequestsAtMost 1 found.network ∧
      (∀ x, told = .ok x →
        (∃ access, s.access w = .ok access) ∧ ∃ body, w.network.Received found.network [body]) ∧
      Action.run w s.forecast = match told, w.store.monthTotals w.today historyMonths with
        | .ok x, _ => (.ok { nextMonth := Amount.roundCents x, confidence := .medium }, found)
        | .error _, .ok totals => (.ok (Forecast.ofMonths totals), { found with journal })
        | .error e, .error _ =>
          (.error (.forecast ("no local history and remote forecast failed: " ++ e.message)), found) := by
  have hlow : ∀ f ∈ (w.store.monthTotals w.today historyMonths).toOption.map Forecast.ofMonths,
      f.confidence = .low := by
    cases hmonths : w.store.monthTotals w.today historyMonths with
    | error e => simp [Except.toOption]
    | ok totals =>
      intro f hf
      rw [← Option.some.inj hf]
      exact Confidence.ofCount_eq_low_iff.2 (h totals hmonths)
  have hrun := run_forecast s w
  have hasked := run_ownForecast_snd w
  generalize (Action.run w ownForecast).2 = asked at hrun hasked ⊢
  have hnetwork : asked.network = w.network := by rw [hasked]
  have haccess : s.access asked = s.access w := by
    rw [hasked]
    rfl
  have hkept : asked.store = w.store := by rw [hasked]
  have hstore := (store_estimate s asked).trans hkept
  have hrequests := requests_estimate s asked
  rw [hnetwork] at hrequests
  obtain ⟨journal, hresolve⟩ := Forecast.run_resolve_of_low hlow asked s.estimate
  cases hremote : Action.run asked s.estimate with
  | mk told found =>
    rw [hremote] at hstore hrequests
    have hneeds : ∀ x, told = .ok x →
        (∃ access, s.access w = .ok access) ∧ ∃ body, w.network.Received found.network [body] := by
      rintro x rfl
      obtain ⟨hknown, body, hreceived, _⟩ := estimate_eq_ok hremote
      rw [← haccess, ← hnetwork]
      exact ⟨hknown, body, hreceived⟩
    refine ⟨told, found, journal, rfl, hstore, hrequests, hneeds, ?_⟩
    rw [hrun, hresolve, hremote]
    cases told with
    | ok x => rfl
    | error e => cases w.store.monthTotals w.today historyMonths <;> rfl

end Service

end SpendLedger
