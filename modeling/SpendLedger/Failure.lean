import SpendLedger.Calendar.DateText
import SpendLedger.Text.Quoted

/-!
# Failures

Why an operation of the ledger fails, what the user is told, and how a diagnostic shows it.
-/

namespace SpendLedger

/-- A rule of the store that a row can break. -/
inductive Constraint where
  | costPresent
  | accountGiven
  | serviceGiven
  | currencyGiven
  | thresholdPresent
  | thresholdPositive
deriving DecidableEq, Repr

/-- What the store says about a row that breaks a rule. -/
def Constraint.message : Constraint → String
  | costPresent => "NOT NULL constraint failed: cost_records.cost"
  | accountGiven => "CHECK constraint failed: account_id <> ''"
  | serviceGiven => "CHECK constraint failed: service_name <> ''"
  | currencyGiven => "CHECK constraint failed: currency <> ''"
  | thresholdPresent => "NOT NULL constraint failed: alerts.threshold"
  | thresholdPositive => "CHECK constraint failed: threshold > 0"

/-- What can go wrong inside the store. -/
inductive StoreFault where
  | violated (constraint : Constraint)
  | sumUndefined
  | unreadableDate (fault : Date.Fault)
  | queryWrites
deriving DecidableEq, Repr

/-- What the store says about a fault. -/
def StoreFault.message : StoreFault → String
  | violated constraint => constraint.message
  | sumUndefined => "Invalid column type Null at index: 1, name: SUM(cost)"
  | unreadableDate fault => "Conversion error from type Text at index: 6, " ++ fault.message
  | queryWrites => "Query is not read-only"

/-- What the store was doing when a fault came up. -/
inductive StoreActivity where
  | insertingBatch
  | readingRecords
  | readingAggregates
  | readingMonths
  | savingAlert
deriving DecidableEq, Repr

/-- The name of an activity. -/
def StoreActivity.name : StoreActivity → String
  | insertingBatch => "inserting cost batch"
  | readingRecords => "reading cost records"
  | readingAggregates => "reading aggregated costs"
  | readingMonths => "reading monthly totals"
  | savingAlert => "saving alert"

/-- Why an exchange with a provider brought no answer that can be read. -/
inductive HttpFault where
  /-- The request has a part that cannot be sent, or an address that leads nowhere. -/
  | unsendable (url : Option String)
  | unanswered (url : String)
  /-- Every answer pointed to another address. -/
  | movedTooOften (url : String)
  | unreadable
deriving DecidableEq, Repr

/-- The wording of such a fault. -/
def HttpFault.message : HttpFault → String
  | unsendable none => "builder error"
  | unsendable (some url) => "builder error for url (" ++ url ++ ")"
  | unanswered url => "error sending request for url (" ++ url ++ ")"
  | movedTooOften url => "error following redirect for url (" ++ url ++ ")"
  | unreadable => "error decoding response body"

/-- Why an operation fails. -/
inductive Failure where
  | config (message : String)
  /-- A provider answered with an error or not as agreed. -/
  | transport (provider : String) (status : Option Nat) (message : String)
  | persistence (activity : StoreActivity) (fault : StoreFault)
  | forecast (message : String)
  | http (fault : HttpFault)
  | files
  | jsonUnreadable
  | tomlUnreadable
deriving DecidableEq, Repr

namespace Failure

/-- The status of an answer, as messages mention it. -/
def statusText : Option Nat → String
  | none => ""
  | some status => " with HTTP status " ++ toString status

/-- What the user is told. -/
def message : Failure → String
  | config text => "config error: " ++ text
  | transport provider status text => provider ++ " request failed" ++ statusText status ++ ": " ++ text
  | persistence activity fault => "storage error while " ++ activity.name ++ ": " ++ fault.message
  | forecast text => "forecast unavailable: " ++ text
  | http fault => fault.message
  | files => "file not accessible"
  | jsonUnreadable => "document not readable as JSON"
  | tomlUnreadable => "document not readable as TOML"

/-- Whether a failure comes from an exchange with a provider. -/
def isTransport : Failure → Bool
  | transport .. | http _ => true
  | _ => false

/-- How a failure is shown to someone who looks for its cause. -/
def diagnostic : Failure → String
  | config text => "Config(" ++ Text.quoted text ++ ")"
  | transport provider status text =>
    "Transport \x7b provider: " ++ Text.quoted provider ++ ", status: " ++
      (match status with
        | none => "None"
        | some status => "Some(" ++ toString status ++ ")") ++
      ", message: " ++ Text.quoted text ++ " \x7d"
  | persistence activity fault =>
    "Persistence \x7b context: " ++ Text.quoted activity.name ++ ", source: " ++ Text.quoted fault.message ++ " \x7d"
  | forecast text => "Forecast(" ++ Text.quoted text ++ ")"
  | http fault => "Http(" ++ Text.quoted fault.message ++ ")"
  | files => "Io"
  | jsonUnreadable => "Json"
  | tomlUnreadable => "TomlDe"

end Failure

end SpendLedger
