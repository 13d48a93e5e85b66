import SpendLedger.Journal.Basic
import SpendLedger.Ledger.Store
import SpendLedger.Network

/-!
# The world of an operation

What an operation of the ledger reads and changes: the store, the clock, the environment, the key store, the network and the
journal.
An operation that fails keeps what it has changed so far.
-/

namespace SpendLedger

/-- A step that reads and changes a state and may fail. -/
abbrev Action (σ α : Type) := ExceptT Failure (StateM σ) α

/-- The key store of the system: secrets, under the names of providers. -/
structure KeyStore where
  secrets : Table String
  /-- Whether it keeps what it is given. One that is not connected to a system keeps nothing. -/
  isLasting : Bool

namespace KeyStore

/-- A key store that is not connected to a system. -/
def detached : KeyStore := ⟨Table.empty, false⟩

/-- A key store that was given a secret. -/
def put (k : KeyStore) (provider secret : String) : KeyStore :=
  if k.isLasting then { k with secrets := k.secrets.insert provider secret } else k

/-- A key store that was told to forget a secret. -/
def remove (k : KeyStore) (provider : String) : KeyStore :=
  if k.isLasting then { k with secrets := k.secrets.erase provider } else k

end KeyStore

/-- What an operation reads and changes. -/
structure World where
  store : Store Float
  clock : Instant
  environment : Table String
  keyStore : KeyStore
  network : Network
  journal : List Event

namespace World

/-- The day on the clock. -/
def today (w : World) : Date := w.clock.date

/-- The value of a variable. -/
def environmentValue? (w : World) (name : String) : Option String :=
  w.environment.get? name

/-- Tells about something. -/
def note (level : Level) (channel : Channel) (message : String) (values : List (String × String)) :
    Action World Unit :=
  modify fun w => { w with journal := w.journal ++ [⟨level, channel, message, values⟩] }

/-- A fact about the world. -/
def ask {α : Type} (f : World → α) : Action World α := do
  return f (← get)

/-- An answer of the store. -/
def read {α : Type} (f : Store Float → Except Failure α) : Action World α := do
  match f (← get).store with
  | .ok a => return a
  | .error e => throw e

/-- What an action does to a world: its answer and the world after it. -/
def run {α : Type} (w : World) (a : Action World α) : Except Failure α × World :=
  StateT.run (ExceptT.run a) w

end World

end SpendLedger
