import SpendLedger.Ledger.Store

/-!
# Alerts against a total

An alert is triggered when the total has reached its threshold. Alerts that are not enabled are left out.
-/

namespace SpendLedger

/-- How an alert stands. -/
structure AlertStatus (α : Type) where
  name : String
  threshold : α
  percent : α
  triggered : Bool
deriving DecidableEq

/-- How all enabled alerts stand. -/
structure Evaluation (α : Type) where
  total : α
  triggered : List String
  statuses : List (AlertStatus α)
deriving DecidableEq

variable {α : Type} [Amount α]

/-- How one alert stands against a total. -/
def Alert.status (total : α) (alert : Alert α) : AlertStatus α where
  name := alert.name
  threshold := alert.threshold
  percent := total / alert.threshold * Amount.ofNat 100
  triggered := Amount.le alert.threshold total

namespace Evaluation

/-- How alerts stand against a total. -/
def of (total : α) (alerts : List (Alert α)) : Evaluation α :=
  let statuses := (alerts.filter Alert.enabled).map (Alert.status total)
  { total
    triggered := (statuses.filter AlertStatus.triggered).map AlertStatus.name
    statuses }

/-- Whether any alert is triggered. -/
def anyTriggered (e : Evaluation α) : Bool :=
  !e.triggered.isEmpty

end Evaluation

/-- How the stored alerts stand against the costs of the month of a day. -/
def Store.checkAlerts (s : Store α) (today : Date) (currency : String) : Except Failure (Evaluation α) := do
  let (first, last) := today.wholeMonth
  let summary ← s.summary (.between first last) currency
  pure (Evaluation.of summary.total s.listAlerts)

end SpendLedger
