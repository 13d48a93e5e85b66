import SpendLedger.Form.Ledger
import SpendLedger.Toml.Reader

/-!
# The file of limits and budgets

Limits and budgets as a file gives them: every amount in it is checked, and what it leaves out is filled up with what is
built in.
-/

namespace SpendLedger

namespace FreeTier

/-- The limits and budgets that hold with a file, if there is one; its path is mentioned in failures. -/
def load (path : String) (file : Option String) : Except Failure (FreeTier Float) :=
  match file with
  | none => .ok standard
  | some text =>
    match (Toml.read? text).bind ofTree? with
    | none => .error .tomlUnreadable
    | some tier => do
      tier.check path
      pure tier.orStandard

end FreeTier

end SpendLedger
