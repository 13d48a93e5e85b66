import SpendLedger.Proofs.World
import SpendLedger.Service.Basic

/-!
# Operations that only read

The months, the summary and the trend are answers of the store; an operation that asks for them leaves a world as it is but
for what it tells. What fails in an answer of the store fails in the operation.
-/

namespace SpendLedger

/-- A world with a store at the noon of a day, in which nobody can be reached. -/
def World.offline (store : Store Float) (today : Date) : World where
  store
  clock := ⟨today, 12, 0, 0⟩
  environment := Table.empty
  keyStore := .detached
  network := ⟨false, [], []⟩
  journal := []

/-- A world in which nothing is stored and Azure answers with a document, on a day of May. -/
def World.answered (document : Tree) : World where
  store := Store.empty
  clock := ⟨⟨2024, 5, 14, by decide⟩, 12, 0, 0⟩
  environment := Table.ofList [("AZURE_SUBSCRIPTION_ID", "subscription"), ("AZURE_ACCESS_TOKEN", "token")]
  keyStore := .detached
  network := ⟨true, [.answer 200 none (Json.compact document)], []⟩
  journal := []

namespace Service

/-- The service of a configuration in which nothing was set: it asks Azure at the address that Azure has. -/
def standard : Service := ⟨.azure, Config.standard⟩

/-- The months of a look back are an answer of the store. -/
@[simp] theorem run_months (w : World) (count : Nat) :
    Action.run w (months count) = (w.store.monthTotals w.today count, w) := by
  unfold months
  rw [Action.run_bind_of_ok (Action.run_get w)]
  exact World.run_read w fun store => store.monthTotals w.today count

/-- The trend is that of the months. -/
theorem run_trend (w : World) :
    Action.run w trend = ((w.store.monthTotals w.today historyMonths).map TrendAnalysis.ofMonths, w) := by
  unfold trend
  cases h : w.store.monthTotals w.today historyMonths with
  | error e =>
    have hmonths : Action.run w (months historyMonths) = (.error e, w) := by rw [run_months, h]
    rw [Action.run_bind_of_error hmonths]
    rfl
  | ok totals =>
    have hmonths : Action.run w (months historyMonths) = (.ok totals, w) := by rw [run_months, h]
    rw [Action.run_bind_of_ok hmonths]
    rfl

/-- Telling of several currencies changes the journal alone. -/
theorem run_noteCurrencies (w : World) (window : Window) :
    ∃ journal, Action.run w (noteCurrencies window) = (.ok (), { w with journal }) := by
  unfold noteCurrencies
  rw [Action.run_bind_of_ok (Action.run_get w)]
  dsimp only
  split
  · exact ⟨_, World.run_note _ _ _ _ _⟩
  · exact ⟨w.journal, rfl⟩

/-- The sums of a window are an answer of the store, and are told about. -/
theorem run_aggregate (w : World) (dimension : Dimension) (window : Window) :
    ∃ journal, Action.run w (aggregate dimension window) = (w.store.aggregate dimension window, { w with journal }) := by
  unfold aggregate
  rw [Action.run_bind_of_ok (World.run_note _ _ _ _ _), World.run_read]
  exact ⟨_, rfl⟩

/-- The summary of a selection is an answer of the store, and is told about. -/
theorem run_summary (s : Service) (w : World) (selection : Selection) :
    ∃ journal, Action.run w (s.summary selection) =
      (w.store.summary selection s.config.currency, { w with journal }) := by
  obtain ⟨told, hcurrencies⟩ := run_noteCurrencies w selection.window
  obtain ⟨first, hservice⟩ := run_aggregate { w with journal := told } .service selection.window
  obtain ⟨second, hgroup⟩ := run_aggregate { w with journal := first } .group selection.window
  unfold summary
  rw [Action.run_bind_of_ok hcurrencies]
  -- what the two readings of sums fail with, the summary fails with too
  cases hbyService : w.store.aggregate .service selection.window with
  | error e =>
    have hsummary : w.store.summary selection s.config.currency = .error e := by
      unfold Store.summary
      rw [hbyService]
      rfl
    rw [Action.run_bind_of_error (hservice.trans (by rw [hbyService])), hsummary]
    exact ⟨first, rfl⟩
  | ok byService =>
    rw [Action.run_bind_of_ok (hservice.trans (by rw [hbyService]))]
    cases hbyGroup : w.store.aggregate .group selection.window with
    | error e =>
      have hsummary : w.store.summary selection s.config.currency = .error e := by
        unfold Store.summary
        rw [hbyService, hbyGroup]
        rfl
      rw [Action.run_bind_of_error (hgroup.trans (by rw [hbyGroup])), hsummary]
      exact ⟨second, rfl⟩
    | ok byGroup =>
      rw [Action.run_bind_of_ok (hgroup.trans (by rw [hbyGroup]))]
      cases hsummary : w.store.summary selection s.config.currency with
      | error e =>
        rw [Action.run_bind_of_error (by rw [World.run_read, hsummary])]
        exact ⟨second, rfl⟩
      | ok summary =>
        rw [Action.run_bind_of_ok (by rw [World.run_read, hsummary]), Action.run_bind_of_ok (World.run_note _ _ _ _ _)]
        exact ⟨_, rfl⟩

/-- The forecast of the months, if they can be read; that they cannot is told about. -/
theorem run_ownForecast (w : World) :
    Action.run w ownForecast = match w.store.monthTotals w.today historyMonths with
      | .ok totals => (.ok (some (Forecast.ofMonths totals)), w)
      | .error e => (.ok none, { w with journal := w.journal ++
          [⟨.warn, .service, "could not read monthly history for local forecast", [("error", e.message)]⟩] }) := by
  unfold ownForecast
  rw [Action.run_bind, Action.run_tryCatch]
  cases h : w.store.monthTotals w.today historyMonths with
  | ok totals =>
    have hmonths : Action.run w (months historyMonths) = (.ok totals, w) := by rw [run_months, h]
    rw [Action.run_bind_of_ok hmonths]
    rfl
  | error e =>
    have hmonths : Action.run w (months historyMonths) = (.error e, w) := by rw [run_months, h]
    rw [Action.run_bind_of_error hmonths]
    rfl

/-- To try the months always has an answer, and changes the journal alone. -/
theorem run_ownForecast_eq_ok (w : World) :
    ∃ journal, Action.run w ownForecast =
      (.ok ((w.store.monthTotals w.today historyMonths).toOption.map Forecast.ofMonths), { w with journal }) := by
  rw [run_ownForecast]
  cases w.store.monthTotals w.today historyMonths with
  | ok totals => exact ⟨w.journal, rfl⟩
  | error e => exact ⟨_, rfl⟩

end Service

end SpendLedger
