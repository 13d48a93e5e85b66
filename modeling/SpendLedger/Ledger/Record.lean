import SpendLedger.Calendar.Window
import SpendLedger.Table

/-!
# Cost records and what is computed from them

The values that the ledger keeps and shows. Every type leaves its amounts open.
-/

namespace SpendLedger

/-- What one service cost an account on one day. -/
structure CostRecord (α : Type) where
  id : Option Int
  account : String
  group : Option String
  service : String
  cost : α
  currency : String
  date : Date
deriving DecidableEq

/-- What was spent in one month in one currency. -/
structure MonthTotal (α : Type) where
  month : String
  total : α
  currency : String
deriving DecidableEq

/-- How far a forecast can be trusted. -/
inductive Confidence where
  | low
  | medium
  | high
deriving DecidableEq, Repr

/-- The name of a confidence. -/
def Confidence.name : Confidence → String
  | low => "low"
  | medium => "medium"
  | high => "high"

/-- What next month is expected to cost. -/
structure Forecast (α : Type) where
  nextMonth : α
  confidence : Confidence
deriving DecidableEq

/-- Where spending goes. -/
inductive Trend where
  | increasing
  | decreasing
  | stable
  /-- Nothing was spent that could tell. -/
  | noData
deriving DecidableEq, Repr

/-- The name of a trend. -/
def Trend.name : Trend → String
  | increasing => "increasing"
  | decreasing => "decreasing"
  | stable => "stable"
  | noData => "no_data"

/-- The last month beside the one before and beside the average. -/
structure TrendAnalysis (α : Type) where
  currentMonth : α
  previousMonth : α
  changePercent : α
  trend : Trend
  averageMonthly : α
  projection : α
deriving DecidableEq

/-- What a stretch of days cost, by service and by group. -/
structure Summary (α : Type) where
  period : String
  total : α
  currency : String
  byService : Table α
  /-- The sum of each group; records without a group stand under the empty name. -/
  byGroup : Table α
  forecast : Option (Forecast α)
  monthly : Option (List (MonthTotal α))
  trend : Option (TrendAnalysis α)
deriving DecidableEq

/-- A budget that warns when a month's costs reach it. -/
structure Alert (α : Type) where
  id : Option Int
  name : String
  threshold : α
  account : String
  enabled : Bool
deriving DecidableEq

/-- What one service cost. -/
structure ServiceCost (α : Type) where
  service : String
  cost : α
deriving DecidableEq

/-- The year in figures. -/
structure Report (α : Type) where
  generatedAt : String
  period : String
  total : α
  currency : String
  forecast : α
  monthly : List (MonthTotal α)
  ranking : List (ServiceCost α)
deriving DecidableEq

/-- Which records are asked for. -/
structure Selection where
  window : Window
  service : Option String
deriving DecidableEq

namespace Selection

/-- Every record. -/
def all : Selection := ⟨Window.always, none⟩

/-- The records of the days from one to another. -/
def between (first last : Date) : Selection := ⟨Window.between first last, none⟩

/-- A window stands for the selection of all its records. -/
instance : Coe Window Selection := ⟨fun window => ⟨window, none⟩⟩

end Selection

end SpendLedger
