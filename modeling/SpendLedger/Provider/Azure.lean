import SpendLedger.Number.Word
import SpendLedger.Provider.Exchange
import SpendLedger.Provider.Paging

/-!
# Azure

Costs come as a table whose columns are known by name, page after page. Days are written as numbers or as text.
-/

namespace SpendLedger

namespace Provider

namespace Azure

/-- Where requests go if nothing else is set. -/
def usualBase : String := "https://management.azure.com"

/-- The version of the interface. -/
def apiVersion : String := "2023-03-01"

/-- The address of an action on the costs of an account. -/
def endpoint (access : Access) (action : String) : Except Failure String :=
  let base := access.baseUrl.getD usualBase
  match Url.read base with
  | .error fault => .error (.config ("Invalid Azure base URL '" ++ base ++ "': " ++ fault.message))
  | .ok url =>
    let path := "/subscriptions/" ++ access.account ++ "/providers/Microsoft.CostManagement/" ++ action
    .ok ((url.withPath path).withQuery ("api-version=" ++ apiVersion)).toText

/-! ## Questions -/

/-- The days from one to another, both inside. -/
def period (first last : Date) : Tree :=
  .fields [("from", .text (first.toText ++ "T00:00:00Z")), ("to", .text (last.toText ++ "T23:59:59Z"))]

/-- The sum that is asked for. -/
def aggregation : Tree :=
  .fields [("totalCost", .fields [("function", .text "Sum"), ("name", .text "Cost")])]

/-- A dimension that costs are split by. -/
def grouping (name : String) : Tree :=
  .fields [("name", .text name), ("type", .text "Dimension")]

/-- The question for the costs of some days. -/
def costQuestion (first last : Date) : Tree :=
  .fields
    [("dataset", .fields
        [("aggregation", aggregation), ("granularity", .text "Daily"),
          ("grouping", .list [grouping "ServiceName", grouping "ResourceGroup"])]),
      ("timePeriod", period first last), ("timeframe", .text "Custom"), ("type", .text "ActualCost")]

/-- The question for the forecast of the month after a day's month. -/
def forecastQuestion (today : Date) : Tree :=
  let (first, last) := today.followingMonth
  .fields
    [("dataset", .fields [("aggregation", aggregation), ("granularity", .text "Monthly")]),
      ("includeActualCost", .bool false), ("includeFreshPartialCost", .bool false),
      ("timePeriod", period first last), ("timeframe", .text "Custom"), ("type", .text "ActualCost")]

/-! ## Answers -/

/-- What a column can hold. -/
inductive Role where
  | cost
  | date
  | service
  | group
  | currency
deriving DecidableEq, Repr

/-- What a column of a name holds. -/
def roleOf? (column : String) : Option Role :=
  if column ∈ ["Cost", "PreTaxCost", "CostUSD"] then some .cost
  else if column ∈ ["UsageDate", "BillingMonth"] then some .date
  else if column = "ServiceName" then some .service
  else if column ∈ ["ResourceGroup", "ResourceGroupName"] then some .group
  else if column = "Currency" then some .currency
  else none

/-- The names of the columns; a column without a name has the empty one. -/
def columnNames (properties : Tree) : List String :=
  (((properties.get? "columns").bind Tree.items?).getD []).map fun c => ((c.get? "name").bind Tree.text?).getD ""

/-- The last column that holds something. -/
def column? (names : List String) (role : Role) : Option Nat :=
  (names.zipIdx.filter fun c => roleOf? c.1 = some role).getLast?.map Prod.snd

/-- A whole number in 64 bits as a day: year, month and day in its decimal digits. The year is kept in 32 bits. -/
def dateOfNumber? (n : Int) : Option Date :=
  let year := Word.wrapSigned 32 (n.tdiv 10000)
  let rest := n.tmod 10000
  Date.of? year (Word.wrap 32 (rest.tdiv 100)) (Word.wrap 32 (rest.tmod 100))

/-- A day, as a number of eight digits, as the same digits in a text, or as a text that begins with year, month and day
with hyphens between them. -/
def usageDate? : Tree → Option Date
  | .integer n => if Word.holdsSigned 64 n then dateOfNumber? n else none
  | .text s =>
    let cs := s.toList
    if cs.length = 8 ∧ cs.all Char.isDigit then Date.ofCompact? cs else Date.ofLeadingText? s
  | _ => none

/-- The value of a row in the column that holds something. -/
def cell? (names : List String) (row : Tree) (role : Role) : Option Tree :=
  (column? names role).bind row.item?

/-- The text of a row in the column that holds something. -/
def cellText? (names : List String) (row : Tree) (role : Role) : Option String :=
  (cell? names row role).bind Tree.text?

/-- The cost of a row. -/
def amountOf? (names : List String) (row : Tree) : Option Float :=
  (cell? names row .cost).bind amount?

/-- A row of the table, if its cost can be read; what else is missing is filled in. -/
def usageRow? (names : List String) (fallback : Date) (row : Tree) : Option UsageRow := do
  let cost ← amountOf? names row
  pure
    { service := ((cellText? names row .service).filter (· ≠ "")).getD "Unknown"
      group := (cellText? names row .group).filter (· ≠ "")
      cost
      currency := (cellText? names row .currency).getD "USD"
      date := ((cell? names row .date).bind usageDate?).getD fallback }

/-- The rows of a table, as they stand in it. -/
def tableRows (properties : Tree) : List Tree :=
  ((properties.get? "rows").bind Tree.items?).getD []

/-- The rows of an answer. -/
def rowsOf (body : Tree) (fallback : Date) : List UsageRow :=
  match body.get? "properties" with
  | none => []
  | some properties => (tableRows properties).filterMap (usageRow? (columnNames properties) fallback)

/-- Where the next page is. -/
def nextLink? (body : Tree) : Option String :=
  (((body.get? "properties").bind (Tree.get? "nextLink")).bind Tree.text?).filter (· ≠ "")

/-- The sum of a forecast's rows; without any row there is no forecast. -/
def forecastTotal (body : Tree) (today : Date) : Except Failure Float :=
  match rowsOf body today.firstOfMonth with
  | [] => .error (.transport azure.name none "forecast response did not contain any cost rows")
  | rows => .ok (Amount.sum (rows.map UsageRow.cost))

/-! ## Exchanges -/

/-- The headers of a request. -/
def headers (access : Access) : List (String × String) :=
  [bearer access.credential, jsonContent]

/-- One page of costs, and where the next one is. -/
def page (access : Access) (first last : Date) (url : String) : Action World (List UsageRow × Option String) := do
  World.note .debug .azure "querying azure cost management" [("url", url)]
  let body ← azure.postTo url (headers access) (costQuestion first last)
  return (rowsOf body first, nextLink? body)

/-- The costs of some days. -/
def costs (access : Access) (first last : Date) : Action World ProviderCosts := do
  let url ← endpoint access "query"
  let rows ← collectPages azure url (page access first last)
  return .ofRows rows "USD"

/-- The forecast of the month to come. -/
def forecast (access : Access) : Action World Float := do
  let today := (← get).today
  let url ← endpoint access "forecast"
  let body ← azure.postTo url (headers access) (forecastQuestion today)
  forecastTotal body today

end Azure

end Provider

end SpendLedger
