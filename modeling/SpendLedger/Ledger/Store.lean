import SpendLedger.Amount
import SpendLedger.Failure
import SpendLedger.Ledger.Record

/-!
# The store

Three tables: cost rows, alerts and settings. Rows are appended and never changed, and get increasing numbers that are
never used again. Dates are kept as text, and every comparison of dates in the store is one of texts.
-/

namespace SpendLedger

/-- A cost record as the store keeps it. -/
structure CostRow (α : Type) where
  id : Nat
  account : String
  group : Option String
  service : String
  cost : α
  currency : String
  dateText : String
deriving DecidableEq

/-- An alert as the store keeps it. -/
structure AlertRow (α : Type) where
  id : Nat
  name : String
  threshold : α
  account : String
  enabled : Bool
deriving DecidableEq

/-- All that is stored. -/
structure Store (α : Type) where
  /-- The cost rows, in the order of their numbers. -/
  rows : List (CostRow α)
  nextRow : Nat
  alerts : List (AlertRow α)
  nextAlert : Nat
  settings : Table String
deriving DecidableEq

/-- What cost rows are summed by. -/
inductive Dimension where
  | service
  | group
deriving DecidableEq, Repr

/-- The column that a dimension is read from. -/
def Dimension.column : Dimension → String
  | service => "service_name"
  | group => "resource_group"

variable {α : Type} [Amount α]

/-- The name under which a row is summed; rows without a group count to the empty one. -/
def CostRow.key (row : CostRow α) : Dimension → String
  | .service => row.service
  | .group => row.group.getD ""

/-- The month of a row, as text. -/
def CostRow.month (row : CostRow α) : String :=
  String.ofList (row.dateText.toList.take 7)

/-- The cost record in a row, unless its date cannot be read. -/
def CostRow.record (row : CostRow α) : Except Date.Fault (CostRecord α) := do
  let date ← Date.read row.dateText
  pure { id := some row.id, account := row.account, group := row.group, service := row.service, cost := row.cost,
         currency := row.currency, date }

/-- Whether the text of a row's day lies in a window. -/
def CostRow.isIn (window : Window) (row : CostRow α) : Bool :=
  window.first.all (fun d => decide (d.toText ≤ row.dateText)) &&
    window.last.all (fun d => decide (row.dateText ≤ d.toText))

/-- The order of rows along the days: by the text of the day, and of one day by number. -/
def CostRow.precedes (a b : CostRow α) : Bool :=
  decide (a.dateText < b.dateText) || (decide (a.dateText = b.dateText) && decide (a.id ≤ b.id))

/-- The alert in a row. -/
def AlertRow.alert (row : AlertRow α) : Alert α where
  id := some row.id
  name := row.name
  threshold := row.threshold
  account := row.account
  enabled := row.enabled

/-- Texts in increasing order, each once. -/
def distinct (names : List String) : List String :=
  (names.mergeSort fun a b => decide (a ≤ b)).eraseDups

namespace Store

/-- A store with nothing in it. -/
def empty : Store α := ⟨[], 1, [], 1, Table.empty⟩

/-! ## Appending -/

/-- The first rule that a record breaks. -/
def violation? (r : CostRecord α) : Option Constraint :=
  if Amount.isNaN r.cost then some .costPresent
  else if r.account = "" then some .accountGiven
  else if r.service = "" then some .serviceGiven
  else if r.currency = "" then some .currencyGiven
  else none

/-- A store with one row more, under the next number. A negative zero loses its sign. -/
def push (s : Store α) (account : String) (group : Option String) (service : String) (cost : α)
    (currency dateText : String) : Store α :=
  { s with
    rows := s.rows ++ [⟨s.nextRow, account, group, service, cost + Amount.zero, currency, dateText⟩]
    nextRow := s.nextRow + 1 }

/-- A store with one record more, if the record keeps all rules. -/
def append (s : Store α) (r : CostRecord α) : Except Failure (Store α) :=
  match violation? r with
  | some constraint => .error (.persistence .insertingBatch (.violated constraint))
  | none => .ok (s.push r.account r.group r.service r.cost r.currency r.date.toText)

/-- A store with all records of a batch, or none if one of them breaks a rule. -/
def insertBatch (s : Store α) (batch : List (CostRecord α)) : Except Failure (Store α) :=
  batch.foldlM append s

/-! ## Reading cost rows -/

/-- The rows whose day lies in a window. -/
def within (s : Store α) (window : Window) : List (CostRow α) :=
  s.rows.filter (CostRow.isIn window)

/-- The rows of a window in the order in which sums take them. Where a day bounds the window they are found along the
days; where none does, by number. Sums of doubles can tell the two apart. -/
def walk (s : Store α) (window : Window) : List (CostRow α) :=
  if window = Window.always then s.rows else (s.within window).mergeSort CostRow.precedes

/-- The rows that a selection asks for: later days first, and of one day the later rows first. -/
def select (s : Store α) (selection : Selection) : List (CostRow α) :=
  ((s.within selection.window).filter fun row => selection.service.all (· = row.service)).mergeSort
    fun a b => b.precedes a

/-- The records that a selection asks for. The first row whose date cannot be read makes the query fail. -/
def query (s : Store α) (selection : Selection) : Except Failure (List (CostRecord α)) :=
  (s.select selection).mapM fun row =>
    row.record.mapError fun fault => .persistence .readingRecords (.unreadableDate fault)

/-- All records. -/
def allRecords (s : Store α) : Except Failure (List (CostRecord α)) :=
  s.query Selection.all

/-- The sum of rows as they come, or a failure if it is no number. -/
def sumOf (activity : StoreActivity) (rows : List (CostRow α)) : Except Failure α :=
  let total := Amount.compensatedSum (rows.map CostRow.cost)
  if Amount.isNaN total then .error (.persistence activity .sumUndefined) else .ok total

/-- The sums of the rows in a window, by service or by group. Currencies are not told apart. -/
def aggregate (s : Store α) (dimension : Dimension) (window : Window) : Except Failure (Table α) := do
  let rows := s.walk window
  let entries ← (distinct (rows.map fun row => row.key dimension)).mapM fun key => do
    let total ← sumOf .readingAggregates (rows.filter fun row => row.key dimension = key)
    pure (key, total)
  pure (Table.ofList entries)

/-- The months and currencies of rows: later months first, in a month the currencies in increasing order, each pair
once. -/
def buckets (rows : List (CostRow α)) : List (String × String) :=
  ((rows.map fun row => (row.month, row.currency)).mergeSort fun a b =>
    decide (b.1 < a.1) || (decide (a.1 = b.1) && decide (a.2 ≤ b.2))).eraseDups

/-- The rows that a look back over some months sees, along the days. -/
def since (s : Store α) (today : Date) (months : Nat) : List (CostRow α) :=
  let cutoff := (today.monthsBack months).toText
  (s.rows.filter fun row => decide (cutoff ≤ row.dateText)).mergeSort CostRow.precedes

/-- The sums of the months in a look back, each month and currency by itself, newest month first. -/
def monthTotals (s : Store α) (today : Date) (months : Nat) : Except Failure (List (MonthTotal α)) :=
  let rows := s.since today months
  (buckets rows).mapM fun (month, currency) => do
    let total ← sumOf .readingMonths (rows.filter fun row => row.month = month ∧ row.currency = currency)
    pure { month, total, currency }

/-- How many rows an account has in a window. -/
def count (s : Store α) (account : String) (window : Window) : Nat :=
  ((s.within window).filter fun row => row.account = account).length

/-- The currencies of the rows in a window. -/
def currencies (s : Store α) (window : Window) : List String :=
  distinct ((s.within window).map CostRow.currency)

/-! ## Alerts -/

/-- A store with one alert more, and its number. -/
def saveAlert (s : Store α) (alert : Alert α) : Except Failure (Store α × Nat) :=
  if Amount.isNaN alert.threshold then .error (.persistence .savingAlert (.violated .thresholdPresent))
  else if Amount.lt Amount.zero alert.threshold then
    let row := ⟨s.nextAlert, alert.name, alert.threshold, alert.account, alert.enabled⟩
    .ok ({ s with alerts := s.alerts ++ [row], nextAlert := s.nextAlert + 1 }, s.nextAlert)
  else .error (.persistence .savingAlert (.violated .thresholdPositive))

/-- The order of alerts: by name, and of one name by number. -/
def alertPrecedes (a b : AlertRow α) : Bool :=
  decide (a.name < b.name) || (decide (a.name = b.name) && decide (a.id ≤ b.id))

/-- All alerts. -/
def listAlerts (s : Store α) : List (Alert α) :=
  (s.alerts.mergeSort alertPrecedes).map AlertRow.alert

/-- A store without the alerts of a name, and how many there were. -/
def deleteAlert (s : Store α) (name : String) : Store α × Nat :=
  ({ s with alerts := s.alerts.filter fun row => row.name ≠ name },
    (s.alerts.filter fun row => row.name = name).length)

/-- The oldest alert of a name. -/
def alertNamed? (s : Store α) (name : String) : Option (Alert α) :=
  (s.alerts.find? fun row => row.name = name).map AlertRow.alert

/-! ## Settings -/

/-- The value of a setting. -/
def setting? (s : Store α) (key : String) : Option String :=
  s.settings.get? key

/-- A store with a setting given a value. -/
def setSetting (s : Store α) (key value : String) : Store α :=
  { s with settings := s.settings.insert key value }

/-! ## Summaries -/

/-- The summary of the days that a selection asks for. It covers every service, also if the selection names one. -/
def summary (s : Store α) (selection : Selection) (currency : String) : Except Failure (Summary α) := do
  let byService ← s.aggregate .service selection.window
  let byGroup ← s.aggregate .group selection.window
  pure { period := selection.window.label, total := Amount.sum byService.values, currency, byService, byGroup,
         forecast := none, monthly := none, trend := none }

end Store

end SpendLedger
