import SpendLedger.Amount
import SpendLedger.Failure
import SpendLedger.Table
import SpendLedger.Text.Basic

/-!
# Free tier

How much of a service may be used without charge, and where a given usage stands. The limits and the budget presets come
from a file; where the file has none, those built in here hold.
-/

namespace SpendLedger

/-- How much of a service is free. -/
structure ServiceLimit (α : Type) where
  description : String
  limit : α
  unit : String
  duration : String
  /-- The share of the limit from which on a usage is worth a warning; none if it is not above zero. -/
  warningThreshold : α
deriving DecidableEq

/-- A budget with a name. -/
structure BudgetPreset (α : Type) where
  amount : α
  description : String
deriving DecidableEq

/-- The limits and the budgets in use. -/
structure FreeTier (α : Type) where
  services : Table (ServiceLimit α)
  budgets : Table (BudgetPreset α)
deriving DecidableEq

/-- Where a usage stands. -/
inductive UsageStatus where
  | free
  | warning
  | overage
  | unknown
deriving DecidableEq, Repr

/-- The name of a status. -/
def UsageStatus.name : UsageStatus → String
  | free => "free"
  | warning => "warning"
  | overage => "overage"
  | unknown => "unknown"

/-- A usage beside its limit. -/
structure ServiceUsage (α : Type) where
  service : String
  used : α
  limit : α
  unit : String
  status : UsageStatus
  percentUsed : Option α
deriving DecidableEq

namespace FreeTier

/-- The words in a service's name that tell which limit it falls under, the first that occurs decides. -/
def keywords : List (String × String) :=
  [("virtual machines", "virtual_machines"), ("elastic compute cloud", "virtual_machines"),
    ("compute engine", "virtual_machines"), ("storage", "blob_storage"), ("functions", "functions"),
    ("lambda", "functions")]

/-- The key of the limit that a service falls under, told from its name. -/
def keyOf? (service : String) : Option String :=
  let name := (Text.lower service).toList
  (keywords.find? fun entry => Text.occursIn entry.1.toList name).map Prod.snd

variable {α : Type} [Amount α]

/-- Limits and budgets that are built in. -/
def builtIn (warningThreshold : α) : FreeTier α where
  services := Table.ofList
    [("virtual_machines", ⟨"B1s VM hours", Amount.ofNat 750, "hours", "12 months", warningThreshold⟩),
      ("blob_storage", ⟨"Hot Blob Storage", Amount.ofNat 5, "GB", "always free", warningThreshold⟩),
      ("functions", ⟨"Azure Functions", Amount.ofNat 1000000, "executions", "always free", warningThreshold⟩)]
  budgets := Table.ofList
    [("tiny", ⟨Amount.ofNat 1, "Strict budget"⟩), ("small", ⟨Amount.ofNat 5, "Small budget"⟩),
      ("medium", ⟨Amount.ofNat 10, "Medium budget"⟩), ("moderate", ⟨Amount.ofNat 20, "Higher budget"⟩)]

/-- The share of a limit at which the built-in limits warn, four fifths. -/
def usualThreshold : α := Amount.ofNat 4 / Amount.ofNat 5

/-- The limits and budgets that hold without a file. -/
def standard : FreeTier α := builtIn usualThreshold

/-- Refuses a limit or a budget that is not finite or not above zero; the first in the order of names is named. -/
def check (path : String) (tier : FreeTier α) : Except Failure Unit :=
  match tier.services.entries.find? fun e => !Amount.isPositive e.2.limit with
  | some (name, _) =>
    .error (.config ("Free-tier limit for '" ++ name ++ "' in " ++ path ++ " must be greater than zero."))
  | none =>
    match tier.budgets.entries.find? fun e => !Amount.isPositive e.2.amount with
    | some (name, _) =>
      .error (.config ("Budget preset '" ++ name ++ "' in " ++ path ++ " must be greater than zero."))
    | none => .ok ()

/-- What holds when a file gives some limits and budgets: a part that the file leaves empty stays as it is without one. -/
def orStandard (tier : FreeTier α) : FreeTier α where
  services := if tier.services.isEmpty then standard.services else tier.services
  budgets := if tier.budgets.isEmpty then standard.budgets else tier.budgets

/-- The limit for a service: the one under its name, or else the one that its name tells. -/
def limitFor? (tier : FreeTier α) (service : String) : Option (ServiceLimit α) :=
  (tier.services.get? service).or ((keyOf? service).bind tier.services.get?)

/-- The budget preset of a name; blanks around it and capitals do not matter. -/
def budget? (tier : FreeTier α) (name : String) : Option (BudgetPreset α) :=
  tier.budgets.get? (Text.lower (Text.trim name))

end FreeTier

variable {α : Type} [Amount α]

/-- Where a share of a limit stands. -/
def ServiceLimit.statusAt (limit : ServiceLimit α) (share : α) : UsageStatus :=
  if Amount.le (Amount.ofNat 1) share then .overage
  else if Amount.lt Amount.zero limit.warningThreshold && Amount.le limit.warningThreshold share then .warning
  else .free

/-- A usage beside the limit of its service. -/
def ServiceUsage.of (service : String) (used : α) : Option (ServiceLimit α) → ServiceUsage α
  | none =>
    { service, used, limit := Amount.zero, unit := "", status := .unknown, percentUsed := none }
  | some limit =>
    let share := used / limit.limit
    { service, used, limit := limit.limit, unit := limit.unit, status := limit.statusAt share
      percentUsed := some (share * Amount.ofNat 100) }

end SpendLedger
