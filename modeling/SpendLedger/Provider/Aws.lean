import SpendLedger.Json.Writer
import SpendLedger.Provider.Exchange
import SpendLedger.Provider.Paging
import SpendLedger.Signing.Request

/-!
# AWS

Costs come by day and service, page after page, each page under the token that the one before it gave. Every request is
signed.
-/

namespace SpendLedger

namespace Provider

namespace Aws

/-- The region of requests if none is set. -/
def usualRegion : String := "us-east-1"

/-- The service that requests go to. -/
def signedService : String := "ce"

/-- The form of the documents. -/
def contentType : String := "application/x-amz-json-1.1"

/-- The region of requests. -/
def region (access : Access) : String :=
  (access.region.filter (· ≠ "")).getD usualRegion

/-- The keys in a credential. -/
def keys (access : Access) : Except Failure Signing.Keys :=
  match Signing.Keys.read? access.credential with
  | some keys => .ok keys
  | none => .error (.config "AWS credentials not configured. Set AWS_ACCESS_KEY_ID and AWS_SECRET_ACCESS_KEY.")

/-- Where requests go. -/
def endpoint (access : Access) : Except Failure Url :=
  let raw := access.baseUrl.getD ("https://ce." ++ region access ++ ".amazonaws.com/")
  match Url.read raw with
  | .ok url => .ok url
  | .error fault => .error (.config ("Invalid AWS endpoint '" ++ raw ++ "': " ++ fault.message))

/-- The headers of a signed request. -/
def headers (access : Access) (keys : Signing.Keys) (url : Url) (time : Instant) (target : String) (body : Tree) :
    Except Failure (List (String × String)) :=
  let own := [("content-type", contentType), ("x-amz-target", target)]
  if keys.token.all isHeaderText && Signing.isTarget url then
    .ok (own ++ Signing.sign keys (region access) signedService url time own (Json.compact body))
  else .error (.transport aws.name none "request signing failed: failed to create canonical request")

/-- Sends a signed document and reads the answer. -/
def call (access : Access) (target : String) (body : Tree) : Action World Tree := do
  let keys ← keys access
  let url ← endpoint access
  let headers ← headers access keys url (← get).clock target body
  World.note .debug .aws "calling aws cost explorer" [("url", url.toText), ("target", Text.quoted target)]
  aws.post url headers body

/-! ## Questions -/

/-- The days from one up to another that is no longer inside. -/
def period (first next : Date) : Tree :=
  .fields [("End", .text next.toText), ("Start", .text first.toText)]

/-- The question for the costs of some days, both ends inside, from the page of a token on. -/
def costQuestion (first last : Date) (token : Option String) : Tree :=
  .fields <|
    [("Granularity", .text "DAILY"),
      ("GroupBy", .list [.fields [("Key", .text "SERVICE"), ("Type", .text "DIMENSION")]]),
      ("Metrics", .list [.text "UnblendedCost"])] ++
    (match token with
      | none => []
      | some token => [("NextPageToken", .text token)]) ++
    [("TimePeriod", period first (last.next?.getD last))]

/-- The question for the forecast of the month after a day's month. -/
def forecastQuestion (today : Date) : Tree :=
  let (_, next) := today.monthRange
  .fields
    [("Granularity", .text "MONTHLY"), ("Metric", .text "UNBLENDED_COST"),
      ("TimePeriod", period next ((next.addMonths? 1).getD next))]

/-! ## Answers -/

/-- The service of a cost. -/
def serviceOf? (group : Tree) : Option String :=
  ((group.get? "Keys").bind Tree.first?).bind Tree.text?

/-- The part of a cost that holds its amount and its unit. -/
def metricOf? (group : Tree) : Option Tree :=
  (group.get? "Metrics").bind (Tree.get? "UnblendedCost")

/-- The amount of a cost. -/
def amountOf? (group : Tree) : Option Float :=
  ((metricOf? group).bind (Tree.get? "Amount")).bind amount?

/-- The currency of a cost. -/
def unitOf? (group : Tree) : Option String :=
  ((metricOf? group).bind (Tree.get? "Unit")).bind Tree.text?

/-- A cost of one day; what is missing is filled in. -/
def usageRow (date : Date) (group : Tree) : UsageRow where
  service := (serviceOf? group).getD "Unknown"
  group := none
  cost := (amountOf? group).getD (Float.ofNat 0)
  currency := (unitOf? group).getD "USD"
  date

/-- The day of some costs, if it can be read. -/
def dayOf? (result : Tree) : Option Date :=
  (((result.get? "TimePeriod").bind (Tree.get? "Start")).bind Tree.text?).bind fun start => (Date.read start).toOption

/-- The costs of one day. -/
def groupsOf (result : Tree) : List Tree :=
  ((result.get? "Groups").bind Tree.items?).getD []

/-- The rows of one day; none if the day cannot be read. -/
def dayRows (result : Tree) : List UsageRow :=
  match dayOf? result with
  | none => []
  | some date => (groupsOf result).map (usageRow date)

/-- The days of an answer. -/
def resultsOf (body : Tree) : List Tree :=
  ((body.get? "ResultsByTime").bind Tree.items?).getD []

/-- The rows of an answer. -/
def rowsOf (body : Tree) : List UsageRow :=
  (resultsOf body).flatMap dayRows

/-- The token of the next page. -/
def nextToken? (body : Tree) : Option String :=
  ((body.get? "NextPageToken").bind Tree.text?).filter (· ≠ "")

/-- The forecast in an answer: the total, or else the mean of the first stretch of time. -/
def forecastOf? (body : Tree) : Option Float :=
  (((body.get? "Total").bind (Tree.get? "Amount")).bind amount?).or <|
    (((body.get? "ForecastResultsByTime").bind Tree.first?).bind (Tree.get? "MeanValue")).bind amount?

/-! ## Exchanges -/

/-- One page of costs, and the token of the next one. -/
def page (access : Access) (first last : Date) (token : Option String) :
    Action World (List UsageRow × Option (Option String)) := do
  let body ← call access "AWSInsightsIndexService.GetCostAndUsage" (costQuestion first last token)
  return (rowsOf body, (nextToken? body).map some)

/-- The costs of some days. -/
def costs (access : Access) (first last : Date) : Action World ProviderCosts := do
  let rows ← collectPages aws none (page access first last)
  return .ofRows rows "USD"

/-- The forecast of the month to come. -/
def forecast (access : Access) : Action World Float := do
  let body ← call access "AWSInsightsIndexService.GetCostForecast" (forecastQuestion (← get).today)
  match forecastOf? body with
  | some estimate => return estimate
  | none => throw (.transport aws.name none "forecast response did not contain a total")

end Aws

end Provider

end SpendLedger
