import SpendLedger.Command.Home
import SpendLedger.Proofs.Text.Case
import SpendLedger.Proofs.Toml.Document
import SpendLedger.Proofs.World

/-!
# The normal form of the configuration

The file that is written holds the configuration as it is. Reading a file brings what it says into normal form, and setting a
value keeps that form, so that the configuration at hand is in normal form after every run of steps, and the file is rewritten
by the first reading at most.
-/

namespace SpendLedger

namespace Config

/-! ## The file -/

/-- What the file says: the keys that have a value, with it. -/
def fileEntries (c : Config) : List (String × String) :=
  keys.filterMap fun key => (c.get? key).map fun value => (key, value)

/-- The names in the file are keys, each at most once. -/
theorem fileEntries_names (c : Config) : (c.fileEntries.map Prod.fst).Sublist keys := by
  have hnames : c.fileEntries.map Prod.fst = keys.filter fun key => (c.get? key).isSome := by
    unfold fileEntries
    induction keys with
    | nil => rfl
    | cons key later ih =>
      cases hvalue : c.get? key with
      | none => simpa [hvalue] using ih
      | some value => simpa [hvalue] using ih
  rw [hnames]
  exact List.filter_sublist

/-- What the file says is all there is to a configuration. -/
theorem ofTree?_fileEntries (c : Config) :
    ofTree? (.fields (c.fileEntries.map fun e => (e.1, .text e.2))) = some c := by
  obtain ⟨provider, account, region, currency, baseUrl, storePath⟩ := c
  cases account <;> cases region <;> cases baseUrl <;> cases storePath <;> rfl

/-- The file of a configuration holds this configuration. -/
@[simp] theorem ofFile?_toFile (c : Config) : ofFile? c.toFile = some c := by
  have hnames := c.fileEntries_names
  have hbare : ∀ e ∈ c.fileEntries, Toml.IsBareName e.1 := fun e he =>
    have hkeys : ∀ key ∈ keys, Toml.IsBareName key := by decide
    hkeys e.1 (hnames.subset (List.mem_map_of_mem he))
  have hnodup : (c.fileEntries.map Prod.fst).Nodup := by
    have hkeys : keys.Nodup := by decide
    exact hkeys.sublist hnames
  have hread : Toml.read? c.toFile = some (.fields (c.fileEntries.map fun e => (e.1, .text e.2))) :=
    Toml.read?_write hbare hnodup
  rw [ofFile?, hread, Option.bind_some, ofTree?_fileEntries]

/-! ## The normal form -/

/-- A value that is not blank is not blank when it is looked at again. -/
theorem bind_unlessBlank_unlessBlank (value : Option String) :
    (value.bind unlessBlank).bind unlessBlank = value.bind unlessBlank := by
  cases value with
  | none => rfl
  | some value =>
    rw [Option.bind_some]
    by_cases hblank : Text.isBlankText value = true
    · rw [unlessBlank, if_pos hblank, Option.bind_none]
    · have hkept : unlessBlank value = some value := by rw [unlessBlank, if_neg hblank]
      rw [hkept, Option.bind_some, hkept]

@[simp] theorem normal_normal (c : Config) : c.normal.normal = c.normal := by
  unfold normal Provider.normalName
  simp only [Text.lower_trim_lower_trim, Text.upper_trim_upper_trim, bind_unlessBlank_unlessBlank]

theorem normal_standard : standard.normal = standard := by decide

/-- The provider, the currency and the account are what a normal form is about. -/
theorem normal_eq_self_iff {c : Config} :
    c.normal = c ↔ Provider.normalName c.provider = c.provider ∧ Text.upper (Text.trim c.currency) = c.currency ∧
      c.account.bind unlessBlank = c.account := by
  obtain ⟨provider, account, region, currency, baseUrl, storePath⟩ := c
  simp only [normal, Config.mk.injEq]
  grind

/-- The ways in which a value can be set. -/
inductive Applied (c : Config) (value : String) : String → Config → Prop where
  | provider (p : Provider) (supported : Provider.ofName (Provider.normalName value) = .ok p) :
      Applied c value "provider" { c with provider := Provider.normalName value }
  | region : Applied c value "region" { c with region := unlessBlank value }
  | currency : Applied c value "currency" { c with currency := Text.upper (Text.trim value) }
  | baseUrl : Applied c value "base_url" { c with baseUrl := unlessBlank value }
  | storePath : Applied c value "db_path" { c with storePath := unlessBlank value }

/-- The ways in which a value can be refused. -/
inductive Refused (value : String) : String → Failure → Prop where
  | provider (e : Failure) (unsupported : Provider.ofName (Provider.normalName value) = .error e) :
      Refused value "provider" e
  | key (key : String) (unknown : key ∉ ["provider", "region", "currency", "base_url", "db_path"]) :
      Refused value key (unknownKey key)

/-- A value is set in one of these ways or refused in one of these. -/
theorem apply_cases (c : Config) (key value : String) :
    (∃ c', c.apply key value = .ok c' ∧ Applied c value key c') ∨
      ∃ e, c.apply key value = .error e ∧ Refused value key e := by
  unfold apply
  split
  · dsimp only
    cases hname : Provider.ofName (Provider.normalName value) with
    | ok p => exact Or.inl ⟨{ c with provider := Provider.normalName value }, rfl, .provider p hname⟩
    | error e => exact Or.inr ⟨e, rfl, .provider e hname⟩
  · exact Or.inl ⟨{ c with region := unlessBlank value }, rfl, .region⟩
  · exact Or.inl ⟨{ c with currency := Text.upper (Text.trim value) }, rfl, .currency⟩
  · exact Or.inl ⟨{ c with baseUrl := unlessBlank value }, rfl, .baseUrl⟩
  · exact Or.inl ⟨{ c with storePath := unlessBlank value }, rfl, .storePath⟩
  · next hprovider hregion hcurrency hbaseUrl hstorePath =>
    refine Or.inr ⟨unknownKey key, rfl, .key key ?_⟩
    simp only [List.mem_cons, List.not_mem_nil, or_false, not_or]
    exact ⟨hprovider, hregion, hcurrency, hbaseUrl, hstorePath⟩

/-- Where there is such a reason the value is refused. -/
theorem Refused.apply_eq {key value : String} {e : Failure} (h : Refused value key e) (c : Config) :
    c.apply key value = .error e := by
  cases h with
  | provider e hname =>
    unfold apply
    dsimp only
    rw [hname]
    rfl
  | key key hunknown =>
    simp only [List.mem_cons, List.not_mem_nil, or_false, not_or] at hunknown
    unfold apply
    split <;> grind

/-- A value that is set keeps the normal form. -/
theorem Applied.normal_eq_self {c c' : Config} {key value : String} (h : Applied c value key c')
    (hc : c.normal = c) : c'.normal = c' := by
  obtain ⟨hprovider, hcurrency, haccount⟩ := normal_eq_self_iff.1 hc
  rw [normal_eq_self_iff]
  cases h with
  | provider p _ => exact ⟨Text.lower_trim_lower_trim value, hcurrency, haccount⟩
  | region => exact ⟨hprovider, hcurrency, haccount⟩
  | currency => exact ⟨hprovider, Text.upper_trim_upper_trim value, haccount⟩
  | baseUrl => exact ⟨hprovider, hcurrency, haccount⟩
  | storePath => exact ⟨hprovider, hcurrency, haccount⟩

/-! ## Reading -/

theorem load_of_normal {text : String} {c : Config} (htext : ofFile? text = some c) (hc : c.normal = c) :
    load (some text) = .ok (c, some text) := by
  simp only [load, htext, hc, if_true]

theorem load_toFile {c : Config} (hc : c.normal = c) : load (some c.toFile) = .ok (c, some c.toFile) :=
  load_of_normal (ofFile?_toFile c) hc

/-- What is read: without a file the standard configuration, and else one that is in normal form and that the file holds from
then on. -/
inductive Loaded : Option String → Config → Option String → Prop where
  | standard : Loaded none standard none
  | file {before after : String} {c : Config} (normal : c.normal = c) (holds : ofFile? after = some c) :
      Loaded (some before) c (some after)

/-- Reading fails exactly if there is a file and it holds no configuration. -/
theorem load_cases (file : Option String) :
    (∃ c after, load file = .ok (c, after) ∧ Loaded file c after) ∨
      load file = .error .tomlUnreadable ∧ ∃ text ∈ file, ofFile? text = none := by
  cases file with
  | none => exact Or.inl ⟨_, _, rfl, .standard⟩
  | some text =>
    cases hread : ofFile? text with
    | none => exact Or.inr ⟨by simp only [load, hread], text, rfl, hread⟩
    | some c =>
      by_cases hc : c.normal = c
      · exact Or.inl ⟨c, some text, load_of_normal hread hc, .file hc hread⟩
      · refine Or.inl ⟨c.normal, some c.normal.toFile, ?_, .file c.normal_normal (ofFile?_toFile _)⟩
        simp only [load, hread, if_neg hc]

/-- A currency in small letters is read as one in capitals, and the file is written anew. -/
example : (load (some "currency = \"eur \"\n")).toOption =
    some ({ standard with currency := "EUR" }, some "provider = \"azure\"\ncurrency = \"EUR\"\n") := by
  decide +kernel

/-- What was read is in normal form. -/
theorem Loaded.normal_eq_self {before after : Option String} {c : Config} (h : Loaded before c after) :
    c.normal = c := by
  cases h with
  | standard => exact normal_standard
  | file hc _ => exact hc

/-- The file holds what was read. -/
theorem Loaded.holds {before after : Option String} {c : Config} (h : Loaded before c after) :
    ∀ text ∈ after, ofFile? text = some c := by
  intro text htext
  cases h with
  | standard => cases htext
  | file _ hholds =>
    cases htext
    exact hholds

/-- Without a file what was read is the standard configuration. -/
theorem Loaded.eq_standard {before after : Option String} {c : Config} (h : Loaded before c after)
    (hnone : after = none) : c = Config.standard := by
  cases h with
  | standard => rfl
  | file _ _ => cases hnone

/-- What was read is read again, and the file stays. -/
theorem Loaded.load_eq {before after : Option String} {c : Config} (h : Loaded before c after) :
    load after = .ok (c, after) := by
  cases h with
  | standard => rfl
  | file hc hholds => exact load_of_normal hholds hc

/-! ## Sessions -/

end Config

namespace Session

open SpendLedger.Action

/-- A session in whose home the configuration's file is another one. -/
def withFile (s : Session) (file : Option String) : Session :=
  { s with home := { s.home with config := file } }

/-- To read the configuration reads its file, and changes nothing but that. -/
theorem run_loadConfig (s : Session) :
    Action.run s loadConfig = match Config.load s.home.config with
      | .ok (c, file) => (.ok c, s.withFile file)
      | .error e => (.error e, s) := by
  unfold loadConfig
  rw [run_bind_of_ok (run_get s)]
  cases hload : Config.load s.home.config with
  | error e => exact run_bind_of_error (by rw [run_lift, hload]) _
  | ok read => exact run_bind_of_ok (by rw [run_lift, hload]) _

/-- To write the configuration writes its file. -/
theorem run_saveConfig (s : Session) (c : Config) : Action.run s (saveConfig c) = (.ok (), s.withFile c.toFile) := rfl

end Session

namespace Config

/-! ## Steps -/

/-- The configuration at hand, and the session with the file. -/
structure Desk where
  current : Config
  session : Session

/-- What can be done with a configuration. -/
inductive Step where
  | load
  | apply (key value : String)
  | save

/-- What a step answers, the configuration at hand after it, and what it leaves behind. -/
def Step.run (d : Desk) : Step → Except Failure Config × Desk
  | .load =>
    match Action.run d.session Session.loadConfig with
    | (.ok c, session) => (.ok c, ⟨c, session⟩)
    | (.error e, session) => (.error e, ⟨d.current, session⟩)
  | .apply key value =>
    match d.current.apply key value with
    | .ok c => (.ok c, ⟨c, d.session⟩)
    | .error e => (.error e, d)
  | .save =>
    match Action.run d.session (Session.saveConfig d.current) with
    | (.ok _, session) => (.ok d.current, ⟨d.current, session⟩)
    | (.error e, session) => (.error e, ⟨d.current, session⟩)

/-- Where steps lead to. A step that fails does not keep the later ones from being made. -/
def reached (d : Desk) (steps : List Step) : Desk :=
  steps.foldl (fun d step => (step.run d).2) d

/-- Why a step fails. -/
inductive Step.Fails (d : Desk) : Step → Failure → Prop where
  | unreadable (text : String) (file : d.session.home.config = some text) (holds : ofFile? text = none) :
      Fails d .load .tomlUnreadable
  | refused (key value : String) (e : Failure) (reason : Refused value key e) : Fails d (.apply key value) e

/-- What a step does: it fails for a reason and nothing happens, or it reads, sets or writes. -/
inductive Step.Outcome (d : Desk) : Step → Except Failure Config × Desk → Prop where
  | failed (step : Step) (e : Failure) (reason : step.Fails d e) : Outcome d step (.error e, d)
  | read (c : Config) (after : Option String) (loaded : Loaded d.session.home.config c after) :
      Outcome d .load (.ok c, ⟨c, d.session.withFile after⟩)
  | set (key value : String) (c : Config) (applied : Applied d.current value key c) :
      Outcome d (.apply key value) (.ok c, ⟨c, d.session⟩)
  | written : Outcome d .save (.ok d.current, ⟨d.current, d.session.withFile d.current.toFile⟩)

/-- All that a step can do. -/
theorem Step.outcome (d : Desk) (step : Step) : Outcome d step (step.run d) := by
  cases step with
  | load =>
    rw [run, Session.run_loadConfig]
    rcases load_cases d.session.home.config with ⟨c, after, hload, hloaded⟩ | ⟨hload, text, htext, hread⟩
    · rw [hload]
      exact .read c after hloaded
    · rw [hload]
      exact .failed .load .tomlUnreadable (.unreadable text htext hread)
  | apply key value =>
    rw [run]
    rcases apply_cases d.current key value with ⟨c, happly, happlied⟩ | ⟨e, happly, hrefused⟩
    · rw [happly]
      exact .set key value c happlied
    · rw [happly]
      exact .failed (.apply key value) e (.refused key value e hrefused)
  | save => exact .written

/-- A step fails exactly for such a reason, and then nothing happens. -/
theorem Step.run_eq_error_iff {d after : Desk} {step : Step} {e : Failure} :
    step.run d = (.error e, after) ↔ step.Fails d e ∧ after = d := by
  constructor
  · intro hrun
    have houtcome := step.outcome d
    rw [hrun] at houtcome
    cases houtcome with
    | failed _ _ hreason => exact ⟨hreason, rfl⟩
  · rintro ⟨hreason, rfl⟩
    cases hreason with
    | unreadable text hfile hholds =>
      rw [run, Session.run_loadConfig, hfile]
      simp only [Config.load, hholds]
    | refused key value e hrefused => rw [run, hrefused.apply_eq]

/-- A step keeps the configuration at hand in normal form. -/
theorem Step.normal_eq_self {d : Desk} (h : d.current.normal = d.current) (step : Step) :
    (step.run d).2.current.normal = (step.run d).2.current := by
  have houtcome := step.outcome d
  generalize step.run d = ran at houtcome ⊢
  cases houtcome with
  | failed _ e _ => exact h
  | read c after hloaded => exact hloaded.normal_eq_self
  | set key value c happlied => exact happlied.normal_eq_self h
  | written => exact h

/-- A run keeps the configuration at hand in normal form. -/
theorem normal_eq_self_reached {d : Desk} (h : d.current.normal = d.current) (steps : List Step) :
    (reached d steps).current.normal = (reached d steps).current := by
  induction steps generalizing d with
  | nil => exact h
  | cons step later ih => exact ih (step.normal_eq_self h)

theorem run_save (d : Desk) :
    Step.save.run d = (.ok d.current, ⟨d.current, d.session.withFile d.current.toFile⟩) := rfl

/-- To read right after writing answers what was written, and nothing happens. -/
theorem run_load_saved {d : Desk} (h : d.current.normal = d.current) :
    Step.load.run ⟨d.current, d.session.withFile d.current.toFile⟩ =
      (.ok d.current, ⟨d.current, d.session.withFile d.current.toFile⟩) := by
  rw [Step.run, Session.run_loadConfig]
  simp only [Session.withFile, load_toFile h]

/-- To read right after reading answers what was read, and nothing happens. -/
theorem run_load_loaded {s : Session} {c : Config} {after : Option String} (h : Loaded s.home.config c after) :
    Step.load.run ⟨c, s.withFile after⟩ = (.ok c, ⟨c, s.withFile after⟩) := by
  rw [Step.run, Session.run_loadConfig]
  simp only [Session.withFile, h.load_eq]

/-- Whatever was read, set and written from the standard configuration on, with any file at the beginning:
1. The configuration at hand is its own normal form, and a file that holds it is read as it is and stays.
2. Writing it cannot fail. To read right after that answers the configuration that was written and changes nothing, so that the
   file keeps its text.
3. A reading that answers leaves a configuration in normal form at hand, and a file, if there is one, that holds just this
   configuration. To read once more answers the same and changes nothing.
4. A step fails exactly if it reads a file that holds no configuration, names a provider that there is not, or a key that
   cannot be set, and says so. Neither the configuration at hand nor the file nor anything else is changed then. -/
theorem normal_form_survives_file (session : Session) (steps : List Step) :
    let now := reached ⟨standard, session⟩ steps
    (now.current.normal = now.current ∧
      ∀ text, ofFile? text = some now.current → load (some text) = .ok (now.current, some text)) ∧
    (∃ saved : Desk, Step.save.run now = (.ok now.current, saved) ∧
      saved.session.home.config = some now.current.toFile ∧ Step.load.run saved = (.ok now.current, saved)) ∧
    (match Step.load.run now with
      | (.ok c, read) => read.current = c ∧ c.normal = c ∧ (∀ text ∈ read.session.home.config, ofFile? text = some c) ∧
          (read.session.home.config = none → c = standard) ∧ Step.load.run read = (.ok c, read)
      | (.error _, left) => left = now) ∧
    ∀ step e after, Step.run now step = (.error e, after) ↔ step.Fails now e ∧ after = now := by
  intro now
  have hnormal : now.current.normal = now.current :=
    normal_eq_self_reached (d := ⟨standard, session⟩) normal_standard steps
  clear_value now
  refine ⟨⟨hnormal, fun text htext => load_of_normal htext hnormal⟩, ?_, ?_, fun step e after => Step.run_eq_error_iff⟩
  · exact ⟨_, run_save now, rfl, run_load_saved hnormal⟩
  · have houtcome := Step.load.outcome now
    generalize Step.load.run now = ran at houtcome ⊢
    cases houtcome with
    | failed _ e _ => rfl
    | read c after hloaded =>
      exact ⟨rfl, hloaded.normal_eq_self, hloaded.holds, hloaded.eq_standard, run_load_loaded hloaded⟩

end Config

end SpendLedger
