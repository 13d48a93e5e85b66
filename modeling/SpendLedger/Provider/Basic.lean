import SpendLedger.Text.Basic
import SpendLedger.World

/-!
# Providers

The three billing services that costs are fetched from, and what they have in common: where their account and their
credential come from, and what a page of costs is.
-/

namespace SpendLedger

/-- A billing service. -/
inductive Provider where
  | azure
  | aws
  | gcp
deriving DecidableEq, Repr

/-- What one service cost on one day, as a provider tells it. -/
structure UsageRow where
  service : String
  group : Option String
  cost : Float
  currency : String
  date : Date
deriving DecidableEq

/-- All rows of an answer, with their sum and the currency that stands for them. -/
structure ProviderCosts where
  rows : List UsageRow
  total : Float
  /-- The currency of the first row, or the usual one. -/
  currency : String
deriving DecidableEq

namespace ProviderCosts

/-- Rows with their sum. -/
def ofRows (rows : List UsageRow) (usualCurrency : String) : ProviderCosts where
  rows
  total := Amount.sum (rows.map UsageRow.cost)
  currency := (rows.head?.map UsageRow.currency).getD usualCurrency

/-- The records of an account that the rows become; an empty group is none. -/
def records (costs : ProviderCosts) (account : String) : List (CostRecord Float) :=
  costs.rows.map fun row =>
    { id := none, account, group := row.group.filter (· ≠ ""), service := row.service, cost := row.cost
      currency := row.currency, date := row.date }

end ProviderCosts

namespace Provider

/-- The name of a provider. -/
def name : Provider → String
  | azure => "azure"
  | aws => "aws"
  | gcp => "gcp"

/-- The variable that names the account. -/
def accountVariable : Provider → String
  | azure => "AZURE_SUBSCRIPTION_ID"
  | aws => "AWS_ACCOUNT_ID"
  | gcp => "GCP_PROJECT_ID"

/-- The variable that holds the credential. -/
def credentialVariable : Provider → String
  | azure => "AZURE_ACCESS_TOKEN"
  | aws => "AWS_CREDENTIALS"
  | gcp => "GOOGLE_AUTH_TOKEN"

/-- The name of a provider as it is compared: without blanks around it, in small letters. -/
def normalName (name : String) : String :=
  Text.lower (Text.trim name)

/-- The provider of a name. -/
def ofName (name : String) : Except Failure Provider :=
  match normalName name with
  | "azure" => .ok azure
  | "aws" => .ok aws
  | "gcp" => .ok gcp
  | other => .error (.config ("Unsupported provider '" ++ other ++ "'. Use azure, aws or gcp."))

/-- What is said when there is no credential. -/
def missingCredential (p : Provider) : Failure :=
  .config ("No credential found for provider '" ++ p.name ++ "'. Run \x60cloudspend set-credential\x60 or set " ++
    p.credentialVariable ++ ".")

/-- The credential for a provider: what the key store has, or else what the environment has. The two keys of AWS may come in
variables of their own, and a token with them; then the key store is not asked. -/
def credential (p : Provider) (keyStore : KeyStore) (environment : Table String) : Except Failure String :=
  let given (name : String) : Option String := (environment.get? name).filter (· ≠ "")
  let kept := (keyStore.secrets.get? p.name).filter (· ≠ "")
  let single := match kept.or (given p.credentialVariable) with
    | some value => .ok value
    | none => .error p.missingCredential
  match p, given "AWS_ACCESS_KEY_ID", given "AWS_SECRET_ACCESS_KEY" with
  | aws, some id, some secret =>
    .ok (id ++ ":" ++ secret ++ ":" ++ (environment.get? "AWS_SESSION_TOKEN").getD "")
  | _, _, _ => single

/-- What an exchange with a provider needs. -/
structure Access where
  account : String
  credential : String
  region : Option String
  baseUrl : Option String

/-- A number that is written as such or as a text. -/
def amount? : Tree → Option Float
  | .integer n => some (Float.ofInt n)
  | .real x => some x
  | .text s => Decimal.read? (Text.trim s).toList
  | _ => none

/-- A text without blanks around it, cut after a number of characters. -/
def shortened (limit : Nat) (s : String) : String :=
  let cs := (Text.trim s).toList
  if limit < cs.length then String.ofList (cs.take limit) ++ "..." else String.ofList cs

end Provider

end SpendLedger
