import SpendLedger.Provider.Aws
import SpendLedger.Provider.Azure
import SpendLedger.Provider.Gcp

/-!
# Asking a provider

The two questions that every provider is asked.
-/

namespace SpendLedger

namespace Provider

/-- The costs of some days, both ends inside. -/
def costs (p : Provider) (access : Access) (first last : Date) : Action World ProviderCosts :=
  match p with
  | azure => Azure.costs access first last
  | aws => Aws.costs access first last
  | gcp => Gcp.costs access first last

/-- The provider's own estimate of the month to come. -/
def forecast (p : Provider) (access : Access) : Action World Float :=
  match p with
  | azure => Azure.forecast access
  | aws => Aws.forecast access
  | gcp => Gcp.forecast

end Provider

end SpendLedger
