import SpendLedger.Number.Decimal
import SpendLedger.Text.Quoted

/-!
# The journal

What the ledger tells about its work besides its answers: events with a level, the channel they come from, a sentence and
some values.
-/

namespace SpendLedger

/-- How much an event matters. -/
inductive Level where
  | error
  | warn
  | info
  | debug
  | trace
deriving DecidableEq, Repr

/-- The name of a level. -/
def Level.name : Level → String
  | error => "ERROR"
  | warn => "WARN"
  | info => "INFO"
  | debug => "DEBUG"
  | trace => "TRACE"

/-- How talkative a level is. -/
def Level.rank : Level → Nat
  | error => 1
  | warn => 2
  | info => 3
  | debug => 4
  | trace => 5

/-- Where events come from. -/
inductive Channel where
  | storage
  | aggregator
  | forecast
  | service
  | azure
  | aws
  | gcp
deriving DecidableEq, Repr

/-- The path of a channel, by which filters select it. -/
def Channel.path : Channel → String
  | storage => "cloudspend::storage"
  | aggregator => "cloudspend::aggregator"
  | forecast => "cloudspend::forecast"
  | service => "cloudspend::service"
  | azure => "cloudspend::providers::azure"
  | aws => "cloudspend::providers::aws"
  | gcp => "cloudspend::providers::gcp"

/-- Something that happened. -/
structure Event where
  level : Level
  channel : Channel
  message : String
  values : List (String × String)
deriving DecidableEq

/-- An event as a line. -/
def Event.line (e : Event) : String :=
  Text.joined " " (e.level.name :: e.message :: e.values.map fun v => v.1 ++ "=" ++ v.2)

end SpendLedger
