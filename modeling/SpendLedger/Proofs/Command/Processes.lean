import SpendLedger.Command.Run
import SpendLedger.Proofs.Config.NormalForm
import SpendLedger.Proofs.Table

/-!
# Commands as processes

Each command is run by a process of its own: it starts with nothing told, and only the home goes on to the next one. A process
finds the configuration in the home's file and the settings in the store that the configuration names, unless that store ends
with the process that made it.
-/

namespace SpendLedger

open SpendLedger.Action

/-! ## The store of a home -/

/-- The store at the path that a configuration names; one that is not there is empty. -/
def Home.storeFor (h : Home) (c : Config) : Store Float :=
  (h.stores.get? (h.storePath c)).getD Store.empty

theorem Home.storePath_congr {h h' : Home} {c c' : Config} (hhome : h'.path = h.path)
    (hpath : c'.storePath = c.storePath) : h'.storePath c' = h.storePath c := by
  unfold Home.storePath Home.usualStorePath
  rw [hhome, hpath]

namespace Session

variable {α : Type}

@[simp] theorem storePath_keep (s : Session) (path : String) (w : World) (c : Config) :
    (s.keep path w).home.storePath c = s.home.storePath c := rfl

/-- A store is there after it was worked on, unless no other run sees it. -/
theorem storeFor_keep (s : Session) (c : Config) (w : World) :
    (s.keep (s.home.storePath c) w).home.storeFor c =
      if Home.isPrivatePath (s.home.storePath c) then s.home.storeFor c else w.store := by
  unfold Home.storeFor
  rw [storePath_keep]
  simp only [keep]
  split
  · rfl
  · rw [Table.get?_insert, if_pos rfl, Option.getD_some]

/-- A store is not there any more if its name says that it ends with the process. -/
example : ["", ":memory:", "file::memory:", "file:costs?mode=memory&cache=shared", "file:costs"].map Home.isPrivatePath =
    [true, true, true, true, false] := by decide

/-- Work on the store that a configuration names goes as it does on the store alone, and the store is kept. -/
theorem run_onStore {s : Session} {c : Config} {p : Provider} (hp : Provider.ofName c.provider = .ok p)
    {action : Service → Action World α} {x : α} {w : World}
    (haction : Action.run (s.world (s.home.storeFor c)) (action ⟨p, c⟩) = (.ok x, w)) :
    Action.run s (onStore c action) =
      (.ok x, (s.keep (s.home.storePath c) (s.world (s.home.storeFor c))).keep (s.home.storePath c) w) := by
  have hservice : Service.ofConfig c = .ok ⟨p, c⟩ := by
    rw [Service.ofConfig, hp]
    rfl
  have hworld : World.run ((s.keep (s.home.storePath c) (s.world (s.home.storeFor c))).world (s.home.storeFor c))
      (action ⟨p, c⟩) = (.ok x, w) := haction
  unfold onStore
  rw [run_bind_of_ok (run_get s), run_bind_of_ok (run_get s), run_bind_of_ok (run_modify s _), hservice,
    run_bind_of_ok (run_lift _ _), run_bind_of_ok (run_get _)]
  unfold Home.storeFor at hworld ⊢
  rw [hworld]
  exact run_bind_of_ok (run_modify _ _) _

/-- A question to the store that a configuration names is answered as by the store alone. -/
theorem run_onStore_ask {s : Session} {c : Config} {p : Provider} (hp : Provider.ofName c.provider = .ok p)
    (f : World → α) :
    ∃ after, Action.run s (onStore c fun _ => World.ask f) = (.ok (f (s.world (s.home.storeFor c))), after) :=
  ⟨_, run_onStore hp rfl⟩

/-- What a command finds in the file, whether it was there before or not: a text that holds the configuration as it is. -/
theorem run_open {s : Session} {c : Config} {file : Option String} (hload : Config.load s.home.config = .ok (c, file)) :
    ∃ text, Config.ofFile? text = some c ∧ c.normal = c ∧ ∀ {β : Type} (f : Config → Action Session β),
      Action.run s (ensureHome >>= fun _ => loadConfig >>= f) = Action.run (s.withFile (some text)) (f c) := by
  obtain ⟨text, hread, hholds, hnormal⟩ : ∃ text,
      Config.load (some (Config.ensureFile s.home.config)) = .ok (c, some text) ∧ Config.ofFile? text = some c ∧
        c.normal = c := by
    rcases Config.load_cases s.home.config with ⟨c', file', hload', hloaded⟩ | ⟨hfail, _⟩
    · rw [hload] at hload'
      cases hload'
      cases hconfig : s.home.config with
      | none =>
        rw [hconfig] at hloaded
        cases hloaded
        exact ⟨_, Config.load_toFile Config.normal_standard, Config.ofFile?_toFile _, Config.normal_standard⟩
      | some before =>
        rw [hconfig] at hloaded hload
        cases hloaded with
        | file hnormal hholds => exact ⟨_, hload, hholds, hnormal⟩
    · rw [hload] at hfail
      cases hfail
  refine ⟨text, hholds, hnormal, fun f => ?_⟩
  have hensure : Action.run s ensureHome = (.ok (), s.withFile (some (Config.ensureFile s.home.config))) := rfl
  have hloaded : Action.run (s.withFile (some (Config.ensureFile s.home.config))) loadConfig =
      (.ok c, s.withFile (some text)) := by
    rw [run_loadConfig]
    simp only [withFile, hread]
  rw [run_bind_of_ok hensure, run_bind_of_ok hloaded]

end Session

/-! ## What config commands find -/

/-- What config commands find in a home: its configuration, which names a provider that there is, and the account in its
store, which has no other setting. -/
structure Home.Finds (h : Home) (c : Config) (account : Option String) : Prop where
  loaded : ∃ file, Config.load h.config = .ok (c, file)
  supported : ∃ p, Provider.ofName c.provider = .ok p
  settings : ∀ key, (h.storeFor c).setting? key = if key = Service.accountSetting then account else none

/-- A home finds what is in a file that holds it in normal form. -/
theorem Home.Finds.withFile {s : Session} {c c' : Config} {account : Option String} (h : s.home.Finds c account)
    {text : String} (htext : Config.ofFile? text = some c') (hc : c'.normal = c')
    (hsupported : ∃ p, Provider.ofName c'.provider = .ok p) (hpath : c'.storePath = c.storePath) :
    (s.withFile (some text)).home.Finds c' account where
  loaded := ⟨_, Config.load_of_normal htext hc⟩
  supported := hsupported
  settings := by
    have hstore : (s.withFile (some text)).home.storeFor c' = s.home.storeFor c := by
      unfold Home.storeFor Home.storePath
      rw [hpath]
      rfl
    rw [hstore]
    exact h.settings

namespace Command

open Session

/-- What a process finds besides the home. -/
structure Outside where
  clock : Instant
  environment : Table String
  keyStore : KeyStore
  network : Network

/-- The session in which a process starts. -/
def Outside.session (o : Outside) (h : Home) : Session where
  home := h
  clock := o.clock
  environment := o.environment
  keyStore := o.keyStore
  network := o.network
  journal := []

/-- What a process prints that runs a command, or its failure, and the home that it leaves. -/
def process (o : Outside) (format : OutputFormat) (command : Command) (h : Home) : Except Failure String × Home :=
  let ran := Action.run (o.session h) (command.run format)
  (ran.1, ran.2.home)

/-- What is shown for a key: what is stored, or else what the configuration says, or else nothing. -/
def shown (c : Config) (account : Option String) (key : String) : String :=
  ((if key = Service.accountSetting then account else none).or (c.get? key)).getD ""

/-- The value of a key is what is shown for it. -/
theorem configValue_eq {key : String} (hkey : key ∈ Config.keys) (c : Config) (account : Option String) :
    configValue c (if key = Service.accountSetting then account else none) key = .ok (shown c account key) := by
  unfold configValue isStored shown
  by_cases hstored : key = Service.accountSetting
  · rw [if_pos (beq_iff_eq.2 hstored)]
  · rw [if_neg (by simpa using hstored), if_pos (List.contains_iff_mem.2 hkey), if_neg hstored, Option.none_or]

/-- The values of all keys: what is stored for a key, or else what the configuration says. -/
theorem configEntries_map (c : Config) (settings : Table String) :
    configEntries c settings = Config.keys.map fun key => (key, (settings.get? key).getD ((c.get? key).getD "")) := by
  rw [configEntries, Config.entries, List.map_map]
  rfl

/-- The values of all keys are what is shown for them. -/
theorem configEntries_eq {c : Config} {account : Option String} {settings : Table String}
    (hsettings : ∀ key, settings.get? key = if key = Service.accountSetting then account else none) :
    configEntries c settings = Config.keys.map fun key => (key, shown c account key) := by
  rw [configEntries_map]
  refine List.map_congr_left fun key _ => ?_
  rw [hsettings, shown, Option.getD_or]

section

variable {h : Home} {c : Config} {file : Option String} {p : Provider}

/-- The command that asks for a key prints its value in the store or in the configuration, or fails if there is no such key. -/
theorem process_configGet_eq (hload : Config.load h.config = .ok (c, file)) (hp : Provider.ofName c.provider = .ok p)
    (o : Outside) (format : OutputFormat) (key : String) :
    (process o format (.configGet key) h).1 =
      (configValue c ((h.storeFor c).setting? key) key).map fun value => Print.lines [value] := by
  obtain ⟨text, _, _, hopen⟩ := run_open (s := o.session h) hload
  obtain ⟨after, hstored⟩ := run_onStore_ask (s := (o.session h).withFile (some text)) hp fun w => w.store.setting? key
  have hstore : ((o.session h).withFile (some text)).home.storeFor c = h.storeFor c := rfl
  show (Action.run (o.session h) (runConfigGet key)).1 = _
  rw [runConfigGet, hopen, run_bind_of_ok hstored, hstore]
  dsimp only [Session.world]
  cases configValue c ((h.storeFor c).setting? key) key <;> rfl

/-- The command that lists all keys prints their values in the store or in the configuration. -/
theorem process_configList_eq (hload : Config.load h.config = .ok (c, file)) (hp : Provider.ofName c.provider = .ok p)
    (o : Outside) (format : OutputFormat) :
    (process o format .configList h).1 = .ok (printConfig (configEntries c (h.storeFor c).settings) format) := by
  obtain ⟨text, _, _, hopen⟩ := run_open (s := o.session h) hload
  obtain ⟨after, hstored⟩ := run_onStore_ask (s := (o.session h).withFile (some text)) hp fun w => w.store.settings
  show (Action.run (o.session h) (runConfigList format)).1 = _
  rw [runConfigList, hopen, run_bind_of_ok hstored]
  rfl

/-- The command that asks for a key prints what is shown for it. -/
theorem process_configGet {account : Option String} (hfinds : h.Finds c account) {key : String} (hkey : key ∈ Config.keys)
    (o : Outside) (format : OutputFormat) :
    (process o format (.configGet key) h).1 = .ok (Print.lines [shown c account key]) := by
  obtain ⟨file, hload⟩ := hfinds.loaded
  obtain ⟨p, hp⟩ := hfinds.supported
  rw [process_configGet_eq hload hp, hfinds.settings key, configValue_eq hkey]
  rfl

/-- The command that lists all keys prints what is shown for each of them. -/
theorem process_configList {account : Option String} (hfinds : h.Finds c account) (o : Outside) (format : OutputFormat) :
    (process o format .configList h).1 =
      .ok (printConfig (Config.keys.map fun key => (key, shown c account key)) format) := by
  obtain ⟨file, hload⟩ := hfinds.loaded
  obtain ⟨p, hp⟩ := hfinds.supported
  rw [process_configList_eq hload hp, configEntries_eq hfinds.settings]

end

end Command

end SpendLedger
