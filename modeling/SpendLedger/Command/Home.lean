import SpendLedger.Command.StoreName
import SpendLedger.Config.Basic
import SpendLedger.Config.FreeTierFile
import SpendLedger.Service.Basic

/-!
# The home directory

What stays between two runs of the program: the file of the configuration, the file of limits and budgets, and the
stores. A command works on the home and on the world around it; while it works on a store, that store is taken out of
the home.
-/

namespace SpendLedger

/-- What stays between two runs. -/
structure Home where
  path : String
  /-- The text of the configuration's file, if there is one. -/
  config : Option String
  freeTier : Option String
  stores : Table (Store Float)

namespace Home

/-- The path of the file of limits and budgets. -/
def freeTierPath (h : Home) : String := h.path ++ "/config/free_tier_limits.toml"

/-- The path of the store if nothing else is set. -/
def usualStorePath (h : Home) : String := h.path ++ "/data/costs.sqlite"

/-- The path of the store. -/
def storePath (h : Home) (c : Config) : String := c.storePath.getD h.usualStorePath

/-- Whether a path stands for a store that no other run sees. -/
def isPrivatePath (path : String) : Bool :=
  match StoreName.uri? path with
  | none => StoreName.isFileless path
  | some uri =>
    StoreName.isFileless uri.path || uri.last? "mode" == some "memory" || uri.last? "vfs" == some "memdb"

end Home

/-- What a command reads and changes. -/
structure Session where
  home : Home
  clock : Instant
  environment : Table String
  keyStore : KeyStore
  network : Network
  journal : List Event

namespace Session

/-- The world of an operation on a store. -/
def world (s : Session) (store : Store Float) : World where
  store
  clock := s.clock
  environment := s.environment
  keyStore := s.keyStore
  network := s.network
  journal := s.journal

/-- The session after an operation on the store at a path. -/
def keep (s : Session) (path : String) (w : World) : Session :=
  { s with
    network := w.network
    journal := w.journal
    home := { s.home with
      stores := if Home.isPrivatePath path then s.home.stores else s.home.stores.insert path w.store } }

/-- Makes sure that there is a configuration file. -/
def ensureHome : Action Session Unit :=
  modify fun s => { s with home := { s.home with config := some (Config.ensureFile s.home.config) } }

/-- The configuration, whose file is brought into normal form. -/
def loadConfig : Action Session Config := do
  let home := (← get).home
  let (config, file) ← Config.load home.config
  modify fun s => { s with home := { s.home with config := file } }
  return config

/-- Writes the configuration's file. -/
def saveConfig (c : Config) : Action Session Unit :=
  modify fun s => { s with home := { s.home with config := some c.toFile } }

/-- The limits and budgets. -/
def loadFreeTier : Action Session (FreeTier Float) := do
  let home := (← get).home
  FreeTier.load home.freeTierPath home.freeTier

/-- Works on the store that the configuration names; a store that is not there yet is made. -/
def onStore {α : Type} (c : Config) (action : Service → Action World α) : Action Session α := do
  let path := (← get).home.storePath c
  let store := ((← get).home.stores.get? path).getD Store.empty
  modify fun s => s.keep path (s.world store)
  let service ← Service.ofConfig c
  let (answer, world) := ((← get).world store).run (action service)
  modify fun s => s.keep path world
  match answer with
  | .ok a => return a
  | .error failure => throw failure

end Session

end SpendLedger
