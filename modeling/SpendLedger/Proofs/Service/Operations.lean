import SpendLedger.Proofs.Service.Budget
import SpendLedger.Proofs.Service.Fetch
import SpendLedger.Proofs.Service.ForecastChain

/-!
# Runs of operations

What a service is asked for, one operation after the other. Between two operations the clock goes on, the environment, the key
store and the network may change, and another service with another configuration may go on with the same store. The operations
that only read keep the store as it is, and those that append costs keep the stored alerts.
-/

namespace SpendLedger

theorem World.inner_alerts : World.Inner fun w => w.store.alerts :=
  ⟨fun _ _ => rfl, fun _ _ => rfl⟩

namespace Service

open SpendLedger.Action

variable {γ : Type} {view : World → γ}

/-! ## Operations that only read -/

/-- An action that changes nothing but the journal keeps what is not seen of it. -/
theorem keeps_of_journal {α : Type} (hview : World.Inner view) {a : Action World α} {answer : World → Except Failure α}
    (h : ∀ w, ∃ journal, Action.run w a = (answer w, { w with journal })) : Keeps view a := by
  intro w
  obtain ⟨journal, hrun⟩ := h w
  rw [hrun]
  exact hview.journal w journal

/-- A summary keeps what is not seen of the network and the journal. -/
theorem keeps_summary (hview : World.Inner view) (s : Service) (selection : Selection) :
    Keeps view (s.summary selection) :=
  keeps_of_journal hview fun w => run_summary s w selection

theorem keeps_months (count : Nat) : Keeps view (months count) := by
  intro w
  rw [run_months]

theorem keeps_trend : Keeps view trend := by
  intro w
  rw [run_trend]

theorem keeps_ownForecast (hview : World.Inner view) : Keeps view ownForecast :=
  keeps_of_journal hview run_ownForecast_eq_ok

/-- To weigh an estimate against a forecast of the months keeps what the estimate keeps. -/
theorem keeps_resolve (hview : World.Inner view) (own : Option (Forecast Float)) {estimate : Action World Float}
    (hestimate : Keeps view estimate) : Keeps view (Forecast.resolve own estimate) := by
  intro w
  by_cases hlow : ∀ f ∈ own, f.confidence = .low
  · obtain ⟨journal, hrun⟩ := Forecast.run_resolve_of_low hlow w estimate
    have hkept := hestimate w
    rw [hrun]
    cases htold : Action.run w estimate with
    | mk answer after =>
      rw [htold] at hkept
      cases answer with
      | ok x => exact hkept
      | error e =>
        cases own with
        | none => exact hkept
        | some f => exact (hview.journal after journal).trans hkept
  · obtain ⟨f, hown, htrusted⟩ : ∃ f, own = some f ∧ f.confidence ≠ .low := by simpa using hlow
    rw [hown, Forecast.run_resolve_of_trusted htrusted]

theorem keeps_forecast (hview : World.Inner view) (s : Service) : Keeps view s.forecast :=
  .bind (keeps_ownForecast hview) fun own => keeps_resolve hview own <| .bind .get fun w => .bind (.lift (s.access w))
    fun access => Provider.keeps_forecast hview s.provider access

theorem keeps_report (hview : World.Inner view) (s : Service) : Keeps view s.report :=
  .bind (keeps_months _) fun _ => .bind (keeps_summary hview s _) fun _ => .bind (keeps_ownForecast hview) fun _ =>
    .bind .get fun _ => .pure _

theorem keeps_history (hview : World.Inner view) (s : Service) (count : Nat) : Keeps view (s.history count) :=
  .bind .get fun _ => .bind (keeps_summary hview s _) fun _ => .bind (keeps_months _) fun _ => .bind keeps_trend fun _ =>
    .pure _

theorem keeps_checkAlerts (hview : World.Inner view) (s : Service) : Keeps view s.checkAlerts :=
  keeps_of_journal hview fun w => run_checkAlerts s w

/-! ## Operations that append costs -/

/-- A fetch keeps the alerts. -/
theorem alerts_fetch (s : Service) (first last : Date) : Keeps (fun w => w.store.alerts) (s.fetch first last) := by
  intro w
  cases h : Action.run w (s.fetch first last) with
  | mk answer after =>
    cases answer with
    | error e => exact congrArg Store.alerts (fetch_eq_error h).1
    | ok count =>
      obtain ⟨_, _, _, _, _, _, _, _, hstore, _⟩ := fetch_eq_ok h
      have hkept := congrArg Store.alerts hstore
      exact hkept

/-- A summary with a forecast, if there is one; that there is none is told about. -/
def withForecast (s : Service) (summary : Summary Float) : Action World (Summary Float) := do
  try
    let forecast ← s.forecast
    return { summary with forecast := some forecast }
  catch failure =>
    World.note .warn .service "forecast unavailable" [("error", failure.message)]
    return summary

/-- The current month is fetched and summed up, and the forecast is put to it. -/
theorem current_eq (s : Service) : s.current = (do
    let (first, last) := (← get).today.wholeMonth
    let _ ← s.fetch first last
    let summary ← s.summary (.between first last)
    s.withForecast summary) := rfl

/-- A forecast that fails is left out, and only told about. -/
theorem run_withForecast (s : Service) (summary : Summary Float) (w : World) :
    Action.run w (s.withForecast summary) = match Action.run w s.forecast with
      | (.ok f, after) => (.ok { summary with forecast := some f }, after)
      | (.error e, after) => (.ok summary, { after with journal := after.journal ++
          [⟨.warn, .service, "forecast unavailable", [("error", e.message)]⟩] }) := by
  unfold withForecast
  rw [run_bind, run_tryCatch]
  cases h : Action.run w s.forecast with
  | mk answer after =>
    cases answer with
    | ok f =>
      rw [run_bind_of_ok h]
      rfl
    | error e =>
      rw [run_bind_of_error h]
      rfl

/-- To fetch the current month keeps the alerts. -/
theorem alerts_current (s : Service) : Keeps (fun w => w.store.alerts) s.current := by
  rw [current_eq]
  refine .bind .get fun w => .bind (alerts_fetch s _ _) fun _ =>
    .bind (keeps_summary World.inner_alerts s _) fun summary => ?_
  intro w
  have hkept := keeps_forecast World.inner_alerts s w
  rw [run_withForecast]
  cases hforecast : Action.run w s.forecast with
  | mk answer after =>
    rw [hforecast] at hkept
    cases answer with
    | ok f => exact hkept
    | error e => exact hkept

/-! ## Runs -/

/-- What a service can be asked for. What is read from the store alone, and all that can be done past the service but to save
an alert, is a call of the store. -/
inductive Operation where
  | fetch (first last : Date)
  | current
  | summary (selection : Selection)
  | history (count : Nat)
  | forecast
  | trend
  | report
  | checkAlerts
  | createAlert (name : String) (threshold : Float)
  | deleteAlert (name : String)
  | setSetting (key value : String)
  /-- Using the store past the service. -/
  | direct (call : Store.Call Float) (unsaved : ∀ alert, call ≠ .saveAlert alert)

/-- The world after an operation, whether it fails or not. -/
def Operation.after (s : Service) (w : World) : Operation → World
  | fetch first last => (World.run w (s.fetch first last)).2
  | current => (World.run w s.current).2
  | summary selection => (World.run w (s.summary selection)).2
  | history count => (World.run w (s.history count)).2
  | forecast => (World.run w s.forecast).2
  | trend => (World.run w Service.trend).2
  | report => (World.run w s.report).2
  | checkAlerts => (World.run w s.checkAlerts).2
  | createAlert name threshold => (World.run w (s.createAlert name threshold)).2
  | deleteAlert name => (World.run w (Service.deleteAlert name)).2
  | setSetting key value => (World.run w (Service.setSetting key value)).2
  | direct call _ => { w with store := (call.run w.store).2 }

/-- What happens to a world. -/
inductive Step where
  | operation (s : Service) (o : Operation)
  /-- Time goes on, and what is outside of the ledger changes. -/
  | elsewhere (clock : Instant) (environment : Table String) (keyStore : KeyStore) (network : Network)

/-- The world after a step. -/
def Step.after (w : World) : Step → World
  | operation s o => o.after s w
  | elsewhere clock environment keyStore network => { w with clock, environment, keyStore, network }

/-- The world after some steps. -/
def reached (w : World) (steps : List Step) : World :=
  steps.foldl Step.after w

end Service

end SpendLedger
