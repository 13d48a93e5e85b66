import SpendLedger.Calendar.DateText
import SpendLedger.Form.Basic
import SpendLedger.Ledger.Evaluation
import SpendLedger.Ledger.FreeTier
import SpendLedger.Ledger.Record

/-!
# Forms of the ledger's values

How the values of the ledger are written into documents and read from them. What a value does not have is left out or
written as null, as the form of the value says.
-/

namespace SpendLedger

/-- A day in a document. -/
def Date.toTree (d : Date) : Tree := .text d.toText

/-- A day from a document. -/
def Date.ofTree? : Tree → Option Date
  | .text s => (Date.readLoose s).toOption
  | _ => none

namespace CostRecord

/-- A cost record as a tree. -/
def toTree (r : CostRecord Float) : Tree :=
  .fields <| Tree.field? "id" Tree.integer r.id ++
    [("account_id", .text r.account), ("resource_group", Tree.ofOption Tree.text r.group),
      ("service_name", .text r.service), ("cost", .real r.cost), ("currency", .text r.currency),
      ("date", r.date.toTree)]

/-- A cost record from a tree. -/
def ofTree? (t : Tree) : Option (CostRecord Float) := do
  let p ← Parts.of? ["id", "account_id", "resource_group", "service_name", "cost", "currency", "date"] t
  let id ← p.orElse "id" (Parts.nullable Tree.word64?) none
  let account ← p.required "account_id" Tree.text?
  let group ← p.optional "resource_group" Tree.text?
  let service ← p.required "service_name" Tree.text?
  let cost ← p.required "cost" Tree.number?
  let currency ← p.required "currency" Tree.text?
  let date ← p.required "date" Date.ofTree?
  pure { id, account, group, service, cost, currency, date }

end CostRecord

namespace MonthTotal

/-- A month's sum as a tree. -/
def toTree (m : MonthTotal Float) : Tree :=
  .fields [("month", .text m.month), ("total_cost", .real m.total), ("currency", .text m.currency)]

/-- A month's sum from a tree. -/
def ofTree? (t : Tree) : Option (MonthTotal Float) := do
  let p ← Parts.of? ["month", "total_cost", "currency"] t
  let month ← p.required "month" Tree.text?
  let total ← p.required "total_cost" Tree.number?
  let currency ← p.required "currency" Tree.text?
  pure { month, total, currency }

end MonthTotal

namespace Confidence

/-- A confidence as a tree. -/
def toTree (c : Confidence) : Tree := .text c.name

/-- A confidence from a tree. -/
def ofTree? : Tree → Option Confidence :=
  Tree.choice? [("low", low), ("medium", medium), ("high", high)]

end Confidence

namespace Forecast

/-- A forecast as a tree. -/
def toTree (f : Forecast Float) : Tree :=
  .fields [("next_month", .real f.nextMonth), ("confidence", f.confidence.toTree)]

/-- A forecast from a tree. -/
def ofTree? (t : Tree) : Option (Forecast Float) := do
  let p ← Parts.of? ["next_month", "confidence"] t
  let nextMonth ← p.required "next_month" Tree.number?
  let confidence ← p.required "confidence" Confidence.ofTree?
  pure { nextMonth, confidence }

end Forecast

namespace Trend

/-- A trend as a tree. -/
def toTree (t : Trend) : Tree := .text t.name

/-- A trend from a tree. -/
def ofTree? : Tree → Option Trend :=
  Tree.choice? [("increasing", increasing), ("decreasing", decreasing), ("stable", stable), ("no_data", noData)]

end Trend

namespace TrendAnalysis

/-- A trend analysis as a tree. -/
def toTree (a : TrendAnalysis Float) : Tree :=
  .fields
    [("current_month", .real a.currentMonth), ("previous_month", .real a.previousMonth),
      ("change_percent", .real a.changePercent), ("trend", a.trend.toTree),
      ("average_monthly", .real a.averageMonthly), ("projection", .real a.projection)]

/-- A trend analysis from a tree. -/
def ofTree? (t : Tree) : Option (TrendAnalysis Float) := do
  let p ← Parts.of?
    ["current_month", "previous_month", "change_percent", "trend", "average_monthly", "projection"] t
  let currentMonth ← p.required "current_month" Tree.number?
  let previousMonth ← p.required "previous_month" Tree.number?
  let changePercent ← p.required "change_percent" Tree.number?
  let trend ← p.required "trend" Trend.ofTree?
  let averageMonthly ← p.required "average_monthly" Tree.number?
  let projection ← p.required "projection" Tree.number?
  pure { currentMonth, previousMonth, changePercent, trend, averageMonthly, projection }

end TrendAnalysis

namespace Summary

/-- A summary as a tree. -/
def toTree (s : Summary Float) : Tree :=
  .fields <|
    [("period", .text s.period), ("total_cost", .real s.total), ("currency", .text s.currency),
      ("by_service", Tree.ofTable Tree.real s.byService), ("by_resource_group", Tree.ofTable Tree.real s.byGroup)] ++
    Tree.field? "forecast" Forecast.toTree s.forecast ++
    Tree.field? "monthly_breakdown" (fun ms => .list (ms.map MonthTotal.toTree)) s.monthly ++
    Tree.field? "trend" TrendAnalysis.toTree s.trend

/-- A summary from a tree. -/
def ofTree? (t : Tree) : Option (Summary Float) := do
  let p ← Parts.of?
    ["period", "total_cost", "currency", "by_service", "by_resource_group", "forecast", "monthly_breakdown",
      "trend"] t
  let period ← p.required "period" Tree.text?
  let total ← p.required "total_cost" Tree.number?
  let currency ← p.required "currency" Tree.text?
  let byService ← p.required "by_service" (Tree.tableOf? Tree.number?)
  let byGroup ← p.required "by_resource_group" (Tree.tableOf? Tree.number?)
  let forecast ← p.orElse "forecast" (Parts.nullable Forecast.ofTree?) none
  let monthly ← p.orElse "monthly_breakdown" (Parts.nullable (Tree.listOf? MonthTotal.ofTree?)) none
  let trend ← p.orElse "trend" (Parts.nullable TrendAnalysis.ofTree?) none
  pure { period, total, currency, byService, byGroup, forecast, monthly, trend }

end Summary

namespace Alert

/-- An alert as a tree. -/
def toTree (a : Alert Float) : Tree :=
  .fields <| Tree.field? "id" Tree.integer a.id ++
    [("name", .text a.name), ("threshold", .real a.threshold), ("account_id", .text a.account),
      ("enabled", .bool a.enabled)]

/-- An alert from a tree. -/
def ofTree? (t : Tree) : Option (Alert Float) := do
  let p ← Parts.of? ["id", "name", "threshold", "account_id", "enabled"] t
  let id ← p.orElse "id" (Parts.nullable Tree.word64?) none
  let name ← p.required "name" Tree.text?
  let threshold ← p.required "threshold" Tree.number?
  let account ← p.required "account_id" Tree.text?
  let enabled ← p.required "enabled" Tree.bool?
  pure { id, name, threshold, account, enabled }

end Alert

namespace ServiceCost

/-- A service's cost as a tree. -/
def toTree (c : ServiceCost Float) : Tree :=
  .fields [("service", .text c.service), ("cost", .real c.cost)]

/-- A service's cost from a tree. -/
def ofTree? (t : Tree) : Option (ServiceCost Float) := do
  let p ← Parts.of? ["service", "cost"] t
  let service ← p.required "service" Tree.text?
  let cost ← p.required "cost" Tree.number?
  pure { service, cost }

end ServiceCost

namespace Report

/-- A report as a tree. -/
def toTree (r : Report Float) : Tree :=
  .fields
    [("generated_at", .text r.generatedAt), ("period", .text r.period), ("total_cost", .real r.total),
      ("currency", .text r.currency), ("forecast", .real r.forecast),
      ("monthly_data", .list (r.monthly.map MonthTotal.toTree)),
      ("top_services", .list (r.ranking.map ServiceCost.toTree))]

/-- A report from a tree. -/
def ofTree? (t : Tree) : Option (Report Float) := do
  let p ← Parts.of?
    ["generated_at", "period", "total_cost", "currency", "forecast", "monthly_data", "top_services"] t
  let generatedAt ← p.required "generated_at" Tree.text?
  let period ← p.required "period" Tree.text?
  let total ← p.required "total_cost" Tree.number?
  let currency ← p.required "currency" Tree.text?
  let forecast ← p.required "forecast" Tree.number?
  let monthly ← p.required "monthly_data" (Tree.listOf? MonthTotal.ofTree?)
  let ranking ← p.required "top_services" (Tree.listOf? ServiceCost.ofTree?)
  pure { generatedAt, period, total, currency, forecast, monthly, ranking }

end Report

namespace AlertStatus

/-- An alert's status as a tree. -/
def toTree (s : AlertStatus Float) : Tree :=
  .fields [("name", .text s.name), ("threshold", .real s.threshold), ("percent", .real s.percent),
    ("triggered", .bool s.triggered)]

/-- An alert's status from a tree. -/
def ofTree? (t : Tree) : Option (AlertStatus Float) := do
  let p ← Parts.of? ["name", "threshold", "percent", "triggered"] t
  let name ← p.required "name" Tree.text?
  let threshold ← p.required "threshold" Tree.number?
  let percent ← p.required "percent" Tree.number?
  let triggered ← p.required "triggered" Tree.bool?
  pure { name, threshold, percent, triggered }

end AlertStatus

namespace Evaluation

/-- An evaluation as a tree. -/
def toTree (e : Evaluation Float) : Tree :=
  .fields [("total", .real e.total), ("triggered", .list (e.triggered.map Tree.text)),
    ("statuses", .list (e.statuses.map AlertStatus.toTree))]

/-- An evaluation from a tree. -/
def ofTree? (t : Tree) : Option (Evaluation Float) := do
  let p ← Parts.of? ["total", "triggered", "statuses"] t
  let total ← p.required "total" Tree.number?
  let triggered ← p.required "triggered" (Tree.listOf? Tree.text?)
  let statuses ← p.required "statuses" (Tree.listOf? AlertStatus.ofTree?)
  pure { total, triggered, statuses }

end Evaluation

namespace ServiceLimit

/-- A service's limit as a tree. -/
def toTree (l : ServiceLimit Float) : Tree :=
  .fields [("description", .text l.description), ("limit", .real l.limit), ("unit", .text l.unit),
    ("duration", .text l.duration), ("warning_threshold", .real l.warningThreshold)]

/-- A service's limit from a tree. -/
def ofTree? (t : Tree) : Option (ServiceLimit Float) := do
  let p ← Parts.of? ["description", "limit", "unit", "duration", "warning_threshold"] t
  let description ← p.required "description" Tree.text?
  let limit ← p.required "limit" Tree.number?
  let unit ← p.required "unit" Tree.text?
  let duration ← p.required "duration" Tree.text?
  let warningThreshold ← p.orElse "warning_threshold" Tree.number? (Float.ofNat 0)
  pure { description, limit, unit, duration, warningThreshold }

end ServiceLimit

namespace BudgetPreset

/-- A budget preset as a tree. -/
def toTree (b : BudgetPreset Float) : Tree :=
  .fields [("amount", .real b.amount), ("description", .text b.description)]

/-- A budget preset from a tree. -/
def ofTree? (t : Tree) : Option (BudgetPreset Float) := do
  let p ← Parts.of? ["amount", "description"] t
  let amount ← p.required "amount" Tree.number?
  let description ← p.required "description" Tree.text?
  pure { amount, description }

end BudgetPreset

namespace FreeTier

/-- Limits and budgets as a tree. -/
def toTree (f : FreeTier Float) : Tree :=
  .fields [("services", Tree.ofTable ServiceLimit.toTree f.services),
    ("budgets", Tree.ofTable BudgetPreset.toTree f.budgets)]

/-- Limits and budgets from a tree. -/
def ofTree? (t : Tree) : Option (FreeTier Float) := do
  let p ← Parts.of? ["services", "budgets"] t
  let services ← p.orElse "services" (Tree.tableOf? ServiceLimit.ofTree?) Table.empty
  let budgets ← p.orElse "budgets" (Tree.tableOf? BudgetPreset.ofTree?) Table.empty
  pure { services, budgets }

end FreeTier

namespace UsageStatus

/-- A status of usage as a tree. -/
def toTree (s : UsageStatus) : Tree := .text s.name

/-- A status of usage from a tree. -/
def ofTree? : Tree → Option UsageStatus :=
  Tree.choice? [("free", free), ("warning", warning), ("overage", overage), ("unknown", unknown)]

end UsageStatus

namespace ServiceUsage

/-- A usage as a tree. -/
def toTree (u : ServiceUsage Float) : Tree :=
  .fields [("service_name", .text u.service), ("used", .real u.used), ("limit", .real u.limit),
    ("unit", .text u.unit), ("status", u.status.toTree), ("percent_used", Tree.ofOption Tree.real u.percentUsed)]

/-- A usage from a tree. -/
def ofTree? (t : Tree) : Option (ServiceUsage Float) := do
  let p ← Parts.of? ["service_name", "used", "limit", "unit", "status", "percent_used"] t
  let service ← p.required "service_name" Tree.text?
  let used ← p.required "used" Tree.number?
  let limit ← p.required "limit" Tree.number?
  let unit ← p.required "unit" Tree.text?
  let status ← p.required "status" UsageStatus.ofTree?
  let percentUsed ← p.optional "percent_used" Tree.number?
  pure { service, used, limit, unit, status, percentUsed }

end ServiceUsage

end SpendLedger
