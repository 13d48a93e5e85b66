import SpendLedger.Proofs.Command.Settings

/-!
# The account that is used and the one that is shown

The account of a home is the stored one or, if none is stored or a blank one, the one in the file of the configuration. Commands
that show the account show a stored text whatever it is, so that a blank one hides the account that is used.
-/

namespace SpendLedger

/-- Where a home tells its account. -/
inductive Home.TellsAccount (h : Home) (c : Config) (id : String) : Prop where
  | stored (stored : (h.storeFor c).setting? Service.accountSetting = some id) (given : Text.isBlankText id = false)
  | configured
      (blank : ∀ text, (h.storeFor c).setting? Service.accountSetting = some text → Text.isBlankText text = true)
      (configured : c.account = some id) (given : Text.isBlankText id = false)

theorem Service.unlessBlank_of_given {s : String} (h : Text.isBlankText s = false) : unlessBlank (some s) = some s :=
  Option.filter_some_pos (by rw [h]; rfl)

theorem Service.unlessBlank_eq_none {o : Option String} (h : ∀ s, o = some s → Text.isBlankText s = true) :
    unlessBlank o = none :=
  Option.filter_eq_none_iff.2 fun s hs => by rw [h s hs]; decide

namespace Home.TellsAccount

variable {h : Home} {c : Config} {id : String}

/-- The account that a home tells is the one that is used, whatever a process finds besides the home. -/
theorem account_eq (hid : h.TellsAccount c id) (p : Provider) (o : Command.Outside) :
    Service.account ⟨p, c⟩ ((o.session h).world (h.storeFor c)) = .ok id := by
  unfold Service.account
  dsimp only [Session.world]
  cases hid with
  | stored stored given => rw [stored, Service.unlessBlank_of_given given, Option.some_or]
  | configured blank configured given =>
    rw [Service.unlessBlank_eq_none blank, configured, Service.unlessBlank_of_given given, Option.none_or, Option.some_or]

/-- An account is not blank. -/
theorem given (hid : h.TellsAccount c id) : Text.isBlankText id = false := by
  cases hid <;> assumption

/-- What is stored, or else what is configured, is what is stored, or else the account. -/
theorem stored_getD (hid : h.TellsAccount c id) :
    ((h.storeFor c).setting? Service.accountSetting).getD (c.account.getD "") =
      ((h.storeFor c).setting? Service.accountSetting).getD id := by
  cases hid with
  | stored stored given => rw [stored, Option.getD_some, Option.getD_some]
  | configured blank configured given => rw [configured, Option.getD_some]

/-- What is stored is the account, or else a blank text. -/
theorem stored_getD_eq_iff (hid : h.TellsAccount c id) :
    ((h.storeFor c).setting? Service.accountSetting).getD id = id ↔
      ∀ text, (h.storeFor c).setting? Service.accountSetting = some text → Text.isBlankText text = false := by
  cases hid with
  | stored stored given =>
    rw [stored, Option.getD_some]
    exact iff_of_true rfl fun text htext => Option.some.inj htext ▸ given
  | configured blank configured given =>
    cases hstored : (h.storeFor c).setting? Service.accountSetting with
    | none => exact iff_of_true rfl nofun
    | some text =>
      have hblank := blank text hstored
      rw [Option.getD_some]
      constructor
      · rintro rfl
        exact absurd given (by rw [hblank]; decide)
      · intro hgiven
        exact absurd (hgiven text rfl) (by rw [hblank]; decide)

end Home.TellsAccount

namespace Command

/-- The account that is used and the one that is shown, in a home whose configuration names a provider that there is, if it is the
stored one or the one in the configuration that is used:
1. It is used whatever the environment is.
2. What is shown for the account is what is stored, or else the account that is used.
3. The list of all keys shows the same for it, in every format.
4. So the account that is used is the one that is shown exactly if no blank text is stored. -/
theorem account_shown {h : Home} {c : Config} {file : Option String} {p : Provider} {id : String}
    (hloaded : Config.load h.config = .ok (c, file)) (hsupported : Provider.ofName c.provider = .ok p)
    (hid : h.TellsAccount c id) :
    (∀ o : Outside, Service.account ⟨p, c⟩ ((o.session h).world (h.storeFor c)) = .ok id) ∧
      ∃ value : String → String,
        value Service.accountSetting = ((h.storeFor c).setting? Service.accountSetting).getD id ∧
        Shows h Service.accountSetting (value Service.accountSetting) ∧
        (∀ (o : Outside) (format : OutputFormat), (process o format .configList h).1 =
          .ok (printConfig (Config.keys.map fun key => (key, value key)) format)) ∧
        (value Service.accountSetting = id ↔
          ∀ text, (h.storeFor c).setting? Service.accountSetting = some text → Text.isBlankText text = false) := by
  have hvalue := hid.stored_getD
  refine ⟨hid.account_eq p,
    fun key => ((h.storeFor c).settings.get? key).getD ((c.get? key).getD ""), hvalue, fun o format => ?_,
    fun o format => ?_, ?_⟩
  · have hget : (((h.storeFor c).setting? Service.accountSetting).or (c.get? Service.accountSetting)).getD "" =
        ((h.storeFor c).setting? Service.accountSetting).getD ((c.get? Service.accountSetting).getD "") := Option.getD_or
    rw [process_configGet_eq hloaded hsupported, configValue, if_pos (by rfl), hget]
    rfl
  · rw [process_configList_eq hloaded hsupported, configEntries_map]
  · show ((h.storeFor c).setting? Service.accountSetting).getD (c.account.getD "") = id ↔ _
    rw [hvalue, hid.stored_getD_eq_iff]

/-- A home whose configuration has an account. -/
def homeWithAccount : Home where
  path := "home"
  config := some "account_id = \"from-file\"\n"
  freeTier := none
  stores := Table.empty

/-- What is in its file. -/
def configWithAccount : Config :=
  { Config.standard with account := some "from-file" }

/-- The home after a process that sets the account. -/
def homeWithStored (account : String) : Home :=
  homeAfter homeWithAccount [⟨nowhere, .table, Service.accountSetting, account⟩]

theorem load_of_homeWithAccount {h : Home} (hfile : h.config = homeWithAccount.config) :
    Config.load h.config = .ok (configWithAccount, homeWithAccount.config) := by
  rw [hfile]
  exact Config.load_of_normal (by decide +kernel) (by decide +kernel)

/-- An account that is set is shown and used instead of the one in the file. -/
theorem account_shown_stored :
    (homeWithStored "stored").TellsAccount configWithAccount "stored" ∧
      Service.account ⟨.azure, configWithAccount⟩
        ((nowhere.session (homeWithStored "stored")).world ((homeWithStored "stored").storeFor configWithAccount)) =
          .ok "stored" ∧
      Shows (homeWithStored "stored") Service.accountSetting "stored" := by
  have hstored : ((homeWithStored "stored").storeFor configWithAccount).setting? Service.accountSetting = some "stored" := by
    decide +kernel
  have htells : (homeWithStored "stored").TellsAccount configWithAccount "stored" := .stored hstored (by decide)
  obtain ⟨hused, value, hvalue, hshown, -, -⟩ :=
    account_shown (p := .azure) (load_of_homeWithAccount (h := homeWithStored "stored") (by decide +kernel)) rfl htells
  rw [hvalue, hstored] at hshown
  exact ⟨htells, hused nowhere, hshown⟩

/-- That the account that is used is the one that is shown fails once an account is set to the empty text: the one in the file is
used, and none is shown. -/
theorem account_shown_false :
    ¬∀ (h : Home) (c : Config) (file : Option String) (p : Provider) (id : String),
      Config.load h.config = .ok (c, file) → Provider.ofName c.provider = .ok p → h.TellsAccount c id →
      (∀ o : Outside, Service.account ⟨p, c⟩ ((o.session h).world (h.storeFor c)) = .ok id) →
      Shows h Service.accountSetting id := by
  intro hall
  have hstored : ((homeWithStored "").storeFor configWithAccount).setting? Service.accountSetting = some "" := by
    decide +kernel
  have htells : (homeWithStored "").TellsAccount configWithAccount "from-file" := by
    refine .configured (fun text htext => ?_) rfl (by decide)
    rw [hstored] at htext
    cases htext
    rfl
  have hload := load_of_homeWithAccount (h := homeWithStored "") (by decide +kernel)
  have hshown : Shows (homeWithStored "") Service.accountSetting "from-file" :=
    hall _ _ _ .azure _ hload rfl htells (htells.account_eq .azure)
  have hnothing : (process nowhere .table (.configGet Service.accountSetting) (homeWithStored "")).1.toOption =
      some (Print.lines [""]) := by decide +kernel
  rw [hshown nowhere .table] at hnothing
  exact absurd hnothing (by decide +kernel)

end Command

end SpendLedger
