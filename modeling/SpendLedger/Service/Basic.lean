import SpendLedger.Config.Basic
import SpendLedger.Provider.Query
import SpendLedger.Ledger.Evaluation
import SpendLedger.Ledger.FreeTier
import SpendLedger.Service.Forecast

/-!
# The operations of the ledger

What a user can ask for: fetching costs into the store, summaries and histories, forecasts, trends and reports, alerts and
settings. Each operation reads and changes a world and may fail.
-/

namespace SpendLedger

/-- A provider and what the user has set. -/
structure Service where
  provider : Provider
  config : Config

namespace Service

/-- The setting that holds the account. -/
def accountSetting : String := "account_id"

/-- The service that a configuration asks for. -/
def ofConfig (config : Config) : Except Failure Service := do
  let provider ← Provider.ofName config.provider
  pure { provider, config }

/-! ## Access -/

/-- What is said when no account is known. -/
def missingAccount (p : Provider) : Failure :=
  .config ("No account id configured for '" ++ p.name ++
    "'. Run \x60cloudspend config set account_id <id>\x60 or set " ++ p.accountVariable ++ ".")

/-- A text, unless it is blank. -/
def unlessBlank (s : Option String) : Option String :=
  s.filter fun s => !Text.isBlankText s

/-- The account: the stored setting, or else what the configuration says, or else the environment. -/
def account (s : Service) (w : World) : Except Failure String :=
  let known := (unlessBlank (w.store.setting? accountSetting)).or
    ((unlessBlank s.config.account).or (unlessBlank (w.environmentValue? s.provider.accountVariable)))
  match known with
  | some id => .ok id
  | none => .error (missingAccount s.provider)

/-- What exchanges with the provider need, for an account. -/
def accessFor (s : Service) (account : String) (w : World) : Except Failure Provider.Access := do
  let credential ← s.provider.credential w.keyStore w.environment
  pure { account, credential, region := s.config.region, baseUrl := s.config.baseUrl }

/-- What exchanges with the provider need. -/
def access (s : Service) (w : World) : Except Failure Provider.Access := do
  s.accessFor (← s.account w) w

/-! ## Costs -/

/-- Appends a batch of records to the store. -/
def appendBatch (records : List (CostRecord Float)) : Action World Nat := do
  let store ← World.read fun store => store.insertBatch records
  modify fun w => { w with store }
  World.note .debug .storage "cost batch committed" [("rows", toString records.length)]
  return records.length

/-- Tells when an account has costs of some days already. -/
def noteStored (account : String) (first last : Date) : Action World Unit := do
  let existing := (← get).store.count account (.between first last)
  if 0 < existing then
    World.note .warn .service "range already has stored costs; new rows are appended"
      [("account_id", account), ("existing", toString existing), ("start", first.toText), ("end", last.toText)]

/-- Asks the provider for the costs of some days and appends them to the store: the number of new records. -/
def ingest (s : Service) (account : String) (access : Provider.Access) (first last : Date) : Action World Nat := do
  let costs ← s.provider.costs access first last
  let inserted ← appendBatch (costs.records account)
  World.note .info .service "ingested cost records"
    [("provider", Text.quoted s.provider.name), ("rows", toString inserted),
      ("total", Decimal.diagnostic costs.total), ("currency", costs.currency)]
  return inserted

/-- Fetches the costs of some days, both ends inside, into the store: the number of new records. -/
def fetch (s : Service) (first last : Date) : Action World Nat := do
  let account ← s.account (← get)
  let access ← s.accessFor account (← get)
  noteStored account first last
  s.ingest account access first last

/-- Tells when costs in several currencies are summed. -/
def noteCurrencies (window : Window) : Action World Unit := do
  let currencies := (← get).store.currencies window
  if 1 < currencies.length then
    World.note .warn .aggregator "summing costs recorded in more than one currency"
      [("currencies", Text.joined "," currencies)]

/-- The sums of a window by service or by group. -/
def aggregate (dimension : Dimension) (window : Window) : Action World (Table Float) := do
  World.note .debug .storage "aggregating costs" [("dimension", Text.quoted dimension.column)]
  World.read fun store => store.aggregate dimension window

/-- The summary of the days that a selection asks for, in the configured currency. -/
def summary (s : Service) (selection : Selection) : Action World (Summary Float) := do
  noteCurrencies selection.window
  let _ ← aggregate .service selection.window
  let _ ← aggregate .group selection.window
  let summary ← World.read fun store => store.summary selection s.config.currency
  World.note .debug .aggregator "summary built"
    [("services", toString summary.byService.size), ("total_cost", Decimal.diagnostic summary.total)]
  return summary

/-- The months of a look back from today. -/
def months (count : Nat) : Action World (List (MonthTotal Float)) := do
  let today := (← get).today
  World.read fun store => store.monthTotals today count

/-! ## Forecasts and trends -/

/-- The forecast of the stored months, unless they cannot be read. -/
def ownForecast : Action World (Option (Forecast Float)) := do
  try
    return some (Forecast.ofMonths (← months historyMonths))
  catch failure =>
    World.note .warn .service "could not read monthly history for local forecast" [("error", failure.message)]
    return none

/-- The forecast of the month to come. -/
def forecast (s : Service) : Action World (Forecast Float) := do
  let own ← ownForecast
  Forecast.resolve own do
    let access ← s.access (← get)
    s.provider.forecast access

/-- The trend of the stored months. -/
def trend : Action World (TrendAnalysis Float) :=
  return TrendAnalysis.ofMonths (← months historyMonths)

/-! ## Reports -/

/-- The services of a summary, the most expensive first, services of one cost by name. -/
def ranking (summary : Summary Float) : List (ServiceCost Float) :=
  (summary.byService.entries.map fun e => { service := e.1, cost := e.2 }).mergeSort fun a b =>
    Amount.atLeast a.cost b.cost

/-- How the months of a report are called. -/
def reportPeriod (months : List (MonthTotal Float)) : String :=
  match months.getLast?, months.head? with
  | some oldest, some newest => oldest.month ++ " to " ++ newest.month
  | _, _ => "Last " ++ toString reportMonths ++ " months"

/-- The report of the year. -/
def report (s : Service) : Action World (Report Float) := do
  let monthly ← months reportMonths
  let summary ← s.summary .all
  let forecast ← ownForecast
  return { generatedAt := (← get).clock.toText
           period := reportPeriod monthly
           total := summary.total
           currency := summary.currency
           forecast := (forecast.map Forecast.nextMonth).getD Amount.zero
           monthly
           ranking := ranking summary }

/-- Fetches the costs of the current month and sums them up, with the forecast if there is one. -/
def current (s : Service) : Action World (Summary Float) := do
  let (first, last) := (← get).today.wholeMonth
  let _ ← s.fetch first last
  let summary ← s.summary (.between first last)
  try
    let forecast ← s.forecast
    return { summary with forecast := some forecast }
  catch failure =>
    World.note .warn .service "forecast unavailable" [("error", failure.message)]
    return summary

/-- The summary of some months up to today, with the months of the year and the trend. -/
def history (s : Service) (count : Nat) : Action World (Summary Float) := do
  let today := (← get).today
  let summary ← s.summary (.between (today.monthsBack count) today)
  let monthly ← months reportMonths
  let trend ← trend
  return { summary with monthly := if monthly.isEmpty then none else some monthly, trend := some trend }

/-! ## Alerts -/

/-- Why an alert cannot be set up, apart from an alert of the same name. -/
def alertRefusal? (name : String) (threshold : Float) : Option Failure :=
  if name = "" then some (.config "Alert name cannot be empty.")
  else if !Amount.isPositive threshold then
    some (.config ("Alert threshold must be greater than zero, got " ++ Decimal.plain threshold ++ "."))
  else none

/-- Sets up an alert under a new name. -/
def createAlert (s : Service) (name : String) (threshold : Float) : Action World (Alert Float) := do
  let name := Text.trim name
  if let some failure := alertRefusal? name threshold then throw failure
  if ((← get).store.alertNamed? name).isSome then
    throw (.config ("Alert '" ++ name ++ "' already exists."))
  let account := match s.account (← get) with
    | .ok id => id
    | .error _ => s.provider.name
  let alert : Alert Float := { id := none, name, threshold, account, enabled := true }
  let (store, id) ← World.read fun store => store.saveAlert alert
  modify fun w => { w with store }
  World.note .info .service "alert created" [("name", name), ("threshold", Decimal.diagnostic threshold)]
  return { alert with id := some id }

/-- Removes the alerts of a name; whether there were any. -/
def deleteAlert (name : String) : Action World Bool := do
  let (store, count) := (← get).store.deleteAlert (Text.trim name)
  modify fun w => { w with store }
  return decide (0 < count)

/-- How the alerts stand against the costs of the current month. What the summary of the month tells is told here too. -/
def checkAlerts (s : Service) : Action World (Evaluation Float) := do
  let today := (← get).today
  let (first, last) := today.wholeMonth
  let _ ← s.summary (.between first last)
  let evaluation ← World.read fun store => store.checkAlerts today s.config.currency
  if evaluation.anyTriggered then
    World.note .warn .service "budget alerts triggered"
      [("total", Decimal.diagnostic evaluation.total), ("triggered", Text.joined "," evaluation.triggered)]
  return evaluation

/-! ## Settings -/

/-- Gives a setting a value. -/
def setSetting (key value : String) : Action World Unit :=
  modify fun w => { w with store := w.store.setSetting key value }

end Service

end SpendLedger
