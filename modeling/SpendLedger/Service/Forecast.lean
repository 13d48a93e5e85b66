import SpendLedger.Ledger.Trend
import SpendLedger.World

/-!
# Which forecast is given

The months' own forecast is given if it can be trusted at all; else the provider is asked. Only if the provider has no
answer either, and there is a forecast of the months, that one is given although it can hardly be trusted.
-/

namespace SpendLedger

namespace Forecast

/-- The forecast of the months if it is worth more than nothing, or else the provider's estimate. -/
def resolve (own : Option (Forecast Float)) (estimate : Action World Float) : Action World (Forecast Float) := do
  match own.filter fun f => f.confidence ≠ .low with
  | some f => return f
  | none =>
    try
      let x ← estimate
      return { nextMonth := Amount.roundCents x, confidence := .medium }
    catch failure =>
      match own with
      | some f =>
        World.note .warn .forecast "remote forecast failed, using low-confidence local forecast"
          [("error", failure.message), ("transport", if failure.isTransport then "true" else "false")]
        return f
      | none => throw (.forecast ("no local history and remote forecast failed: " ++ failure.message))

end Forecast

end SpendLedger
