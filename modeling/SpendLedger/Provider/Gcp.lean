import SpendLedger.Provider.Exchange

/-!
# GCP

Costs come as one sum for the whole project. There is no forecast.
-/

namespace SpendLedger

namespace Provider

namespace Gcp

/-- Where requests go if nothing else is set. -/
def usualBase : String := "https://cloudbilling.googleapis.com"

/-- The address of a project's costs. -/
def endpoint (access : Access) : Except Failure String :=
  let base := access.baseUrl.getD usualBase
  match Url.read base with
  | .error fault => .error (.config ("Invalid GCP base URL '" ++ base ++ "': " ++ fault.message))
  | .ok url => .ok (url.withPath ("/v1/projects/" ++ access.account ++ ":getCostInfo")).toText

/-- The question for the costs of some days. -/
def costQuestion (first last : Date) : Tree :=
  .fields [("reportConfig", .fields
    [("metrics", .list [.text "cost"]),
      ("timePeriod", .fields
        [("endTime", .text (last.toText ++ "T23:59:59Z")), ("startTime", .text (first.toText ++ "T00:00:00Z"))])])]

/-- The sum in an answer. -/
def amountOf? (body : Tree) : Option Float :=
  (body.get? "costAmountSum").bind amount?

/-- The costs in an answer: one row for all services. -/
def costsOf (body : Tree) (first : Date) : ProviderCosts :=
  let currency := (((body.get? "currencyCode").bind Tree.text?).filter (· ≠ "")).getD "USD"
  let row : UsageRow :=
    { service := "All Services"
      group := none
      cost := (amountOf? body).getD (Float.ofNat 0)
      currency
      date := (((body.get? "usageStartTime").bind Tree.text?).bind Date.ofLeadingText?).getD first }
  .ofRows [row] currency

/-- The costs of some days. -/
def costs (access : Access) (first last : Date) : Action World ProviderCosts := do
  let url ← endpoint access
  World.note .debug .gcp "querying gcp cost info" [("url", url)]
  let body ← gcp.postTo url [bearer access.credential, jsonContent] (costQuestion first last)
  return costsOf body first

/-- There is no forecast. -/
def forecast : Action World Float :=
  throw (.transport gcp.name none "billing API does not provide a spend forecast")

end Gcp

end Provider

end SpendLedger
