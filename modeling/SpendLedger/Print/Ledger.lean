import SpendLedger.Form.Ledger
import SpendLedger.Print.Basic

/-!
# Printing the ledger's values

Each value in the three ways of printing. Rows of values repeat the value's own texts as fields; only a summary's currency
and a usage's unit are written as they are.
-/

namespace SpendLedger

namespace Print

/-! ## Summaries -/

/-- The name of a group as it is read. -/
def groupName (name : String) : String := if name = "" then "(none)" else name

/-- The sum of a service or a group. -/
def sumLine (name : String) (cost : Float) : String :=
  "  " ++ Text.padEnd 40 name ++ " " ++ amountColumn 12 cost

/-- The sum of a month. -/
def monthLine (m : MonthTotal Float) : String :=
  "  " ++ m.month ++ " " ++ amountColumn 12 m.total ++ " " ++ m.currency

/-- A block of lines under a title, with an empty line before it. -/
def block (title : String) (ls : List String) : List String :=
  "" :: title :: ls

/-- A block of lines, unless it has none. -/
def blockUnlessEmpty (title : String) (ls : List String) : List String :=
  if ls.isEmpty then [] else block title ls

/-- A summary for reading. -/
def summaryLines (s : Summary Float) : List String :=
  ["Period: " ++ s.period, "Total:  " ++ amount s.total ++ " " ++ s.currency] ++
    blockUnlessEmpty "By service:" (s.byService.entries.map fun e => sumLine e.1 e.2) ++
    blockUnlessEmpty "By resource group:" (s.byGroup.entries.map fun e => sumLine (groupName e.1) e.2) ++
    (match s.monthly with
      | none => []
      | some months => block "Monthly:" (months.map monthLine)) ++
    (match s.trend with
      | none => []
      | some t => ["", "Trend: " ++ t.trend.name ++ " (" ++ Decimal.fixedSigned 2 t.changePercent ++ "%)"]) ++
    (match s.forecast with
      | none => []
      | some f =>
        ["", "Forecast next month: " ++ amount f.nextMonth ++ " " ++ s.currency ++ " (" ++ f.confidence.name ++ ")"])

/-- The rows of one dimension of a summary. -/
def dimensionRows (dimension currency : String) (t : Table Float) : List (List String) :=
  t.entries.map fun e => [dimension, Csv.field e.1, amount e.2, currency]

/-- A summary. -/
def summary (s : Summary Float) : OutputFormat → String
  | .json => document s.toTree
  | .csv =>
    rows ["dimension", "name", "cost", "currency"]
      (dimensionRows "service" s.currency s.byService ++ dimensionRows "resource_group" s.currency s.byGroup)
  | .table => lines (summaryLines s)

/-! ## Forecasts and trends -/

/-- A forecast. -/
def forecast (f : Forecast Float) (currency : String) : OutputFormat → String
  | .json => document f.toTree
  | .csv => rows ["next_month", "confidence"] [[amount f.nextMonth, f.confidence.name]]
  | .table =>
    lines ["Forecast for next month: " ++ amount f.nextMonth ++ " " ++ currency ++ " (confidence: " ++
      f.confidence.name ++ ")"]

/-- A trend analysis. -/
def trend (a : TrendAnalysis Float) : OutputFormat → String
  | .json => document a.toTree
  | .csv =>
    rows ["current_month", "previous_month", "change_percent", "trend", "average_monthly", "projection"]
      [[amount a.currentMonth, amount a.previousMonth, amount a.changePercent, a.trend.name, amount a.averageMonthly,
        amount a.projection]]
  | .table =>
    lines
      ["Current month:   " ++ amount a.currentMonth, "Previous month:  " ++ amount a.previousMonth,
        "Change:          " ++ Decimal.fixedSigned 2 a.changePercent ++ "%", "Trend:           " ++ a.trend.name,
        "Monthly average: " ++ amount a.averageMonthly, "Projection:      " ++ amount a.projection]

/-! ## Reports -/

/-- A report. -/
def report (r : Report Float) : OutputFormat → String
  | .json => document r.toTree
  | .csv =>
    rows ["month", "total_cost", "currency"] (r.monthly.map fun m => [m.month, amount m.total, Csv.field m.currency])
  | .table =>
    lines <|
      ["Report generated " ++ r.generatedAt, "Period:   " ++ r.period,
        "Total:    " ++ amount r.total ++ " " ++ r.currency,
        "Forecast: " ++ amount r.forecast ++ " " ++ r.currency] ++
      blockUnlessEmpty "Monthly:" (r.monthly.map monthLine) ++
      blockUnlessEmpty "Top services:" (r.ranking.map fun s => sumLine s.service s.cost)

/-! ## Alerts -/

/-- Alerts. -/
def alerts (as : List (Alert Float)) : OutputFormat → String
  | .json => document (.list (as.map Alert.toTree))
  | .csv =>
    rows ["name", "threshold", "account_id", "enabled"]
      (as.map fun a => [Csv.field a.name, amount a.threshold, Csv.field a.account, truth a.enabled])
  | .table =>
    if as.isEmpty then lines ["No alerts configured."]
    else
      lines (as.map fun a =>
        Text.padEnd 24 a.name ++ " " ++ amountColumn 10 a.threshold ++ (if a.enabled then "" else " (disabled)"))

/-- How alerts stand. -/
def evaluation (e : Evaluation Float) : OutputFormat → String
  | .json => document e.toTree
  | .csv =>
    rows ["name", "threshold", "percent", "triggered"]
      (e.statuses.map fun s =>
        [Csv.field s.name, amount s.threshold, Decimal.fixed 1 s.percent, truth s.triggered])
  | .table =>
    lines <| ("Current month spend: " ++ amount e.total) :: e.statuses.map fun s =>
      "  " ++ Text.padEnd 24 s.name ++ " " ++ amountColumn 10 s.threshold ++ " " ++
        Text.padStart 7 (Decimal.fixed 1 s.percent) ++ "%  " ++ (if s.triggered then "TRIGGERED" else "ok")

/-! ## Usages and records -/

/-- A usage beside its limit. -/
def usage (u : ServiceUsage Float) (format : OutputFormat) : String :=
  let percent := (u.percentUsed.map (Decimal.fixed 1)).getD ""
  match format with
  | .json => document u.toTree
  | .csv =>
    rows ["service", "used", "limit", "unit", "status", "percent_used"]
      [[Csv.field u.service, Decimal.plain u.used, Decimal.plain u.limit, u.unit, u.status.name, percent]]
  | .table =>
    if u.percentUsed.isNone then lines [u.service ++ ": no free-tier limit known"]
    else
      lines [u.service ++ ": " ++ Decimal.plain u.used ++ " of " ++ Decimal.plain u.limit ++ " " ++ u.unit ++ " (" ++
        percent ++ "%) - " ++ u.status.name]

/-- The fields of a record. -/
def recordRow (r : CostRecord Float) : List String :=
  [toString (r.id.getD 0), Csv.field r.account, Csv.field (r.group.getD ""), Csv.field r.service, Decimal.fixed 8 r.cost,
    Csv.field r.currency, r.date.toText]

/-- Cost records; they have no form for reading. -/
def records (rs : List (CostRecord Float)) : OutputFormat → String
  | .json => document (.list (rs.map CostRecord.toTree))
  | _ =>
    rows ["id", "account_id", "resource_group", "service_name", "cost", "currency", "date"] (rs.map recordRow)

end Print

end SpendLedger
