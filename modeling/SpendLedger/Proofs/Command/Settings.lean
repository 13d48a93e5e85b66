import SpendLedger.Proofs.Command.Processes

/-!
# What is set is what is shown

The account is kept in the store and all else in the file of the configuration. The command that sets a key, the one that asks
for it and the one that lists all keys agree on where a value is, so that a value that is set is shown from then on in its
normal form. Only an account in a store that ends with the process that made it is forgotten.
-/

namespace SpendLedger

open SpendLedger.Action

/-! ## One value -/

/-- Only the key that is set gets another value. -/
theorem Config.Applied.get?_of_ne {c c' : Config} {key value : String} (h : Applied c value key c') {k : String}
    (hk : k ≠ key) : c'.get? k = c.get? k := by
  unfold get?
  cases h with
  | provider p _ => split <;> first | exact absurd rfl hk | rfl
  | region => split <;> first | exact absurd rfl hk | rfl
  | currency => split <;> first | exact absurd rfl hk | rfl
  | baseUrl => split <;> first | exact absurd rfl hk | rfl
  | storePath => split <;> first | exact absurd rfl hk | rfl

theorem Config.Applied.storePath_eq {c c' : Config} {key value : String} (h : Applied c value key c')
    (hkey : key ≠ "db_path") : c'.storePath = c.storePath := by
  cases h with
  | provider p _ => rfl
  | region => rfl
  | currency => rfl
  | baseUrl => rfl
  | storePath => exact absurd rfl hkey

theorem Config.Applied.key_ne_account {c c' : Config} {key value : String} (h : Applied c value key c') :
    key ≠ Service.accountSetting := by
  cases h <;> decide

/-- A value that is set leaves a provider that there is. -/
theorem Config.Applied.supported {c c' : Config} {key value : String} (h : Applied c value key c')
    (hc : ∃ p, Provider.ofName c.provider = .ok p) : ∃ p, Provider.ofName c'.provider = .ok p := by
  cases h with
  | provider p hp => exact ⟨p, hp⟩
  | region => exact hc
  | currency => exact hc
  | baseUrl => exact hc
  | storePath => exact hc

namespace Command

open Session

/-- The normal form of a text that a key is set to. -/
def normalValue (value : String) : String → String
  | "provider" => Text.lower (Text.trim value)
  | "currency" => Text.upper (Text.trim value)
  | "account_id" => Text.trim value
  | _ => if Text.isBlankText value then "" else value

theorem getD_unlessBlank (value : String) :
    (Config.unlessBlank value).getD "" = if Text.isBlankText value then "" else value := by
  unfold Config.unlessBlank
  split <;> rfl

/-- A value that is set in the configuration is shown in its normal form, and nothing else is shown otherwise. -/
theorem shown_of_applied {c c' : Config} {key value : String} (h : Config.Applied c value key c')
    (account : Option String) (k : String) :
    shown c' account k = if k = key then normalValue value key else shown c account k := by
  by_cases hk : k = key
  · subst hk
    rw [if_pos rfl]
    cases h with
    | provider p _ => rfl
    | region => exact getD_unlessBlank value
    | currency => rfl
    | baseUrl => exact getD_unlessBlank value
    | storePath => exact getD_unlessBlank value
  · rw [if_neg hk, shown, shown, h.get?_of_ne hk]

/-- An account that is stored is shown trimmed, and nothing else is shown otherwise. -/
theorem shown_stored (c : Config) (account : Option String) (value k : String) :
    shown c (some (Text.trim value)) k =
      if k = Service.accountSetting then normalValue value Service.accountSetting else shown c account k := by
  unfold shown
  by_cases hk : k = Service.accountSetting
  · rw [if_pos hk, if_pos hk]
    rfl
  · rw [if_neg hk, if_neg hk, if_neg hk]

/-! ## One process -/

/-- A home finds the account that was put into the store, unless no other run sees that store. -/
theorem finds_stored {s : Session} {c : Config} {account : Option String} (h : s.home.Finds c account) (value : String) :
    ((s.keep (s.home.storePath c) (s.world (s.home.storeFor c))).keep (s.home.storePath c)
      (s.world ((s.home.storeFor c).setSetting Service.accountSetting value))).home.Finds c
        (if Home.isPrivatePath (s.home.storePath c) then account else some value) where
  loaded := h.loaded
  supported := h.supported
  settings key := by
    generalize hfirst : s.keep (s.home.storePath c) (s.world (s.home.storeFor c)) = first
    have hpath : s.home.storePath c = first.home.storePath c := by rw [← hfirst, storePath_keep]
    have hstore : first.home.storeFor c = s.home.storeFor c := by
      rw [← hfirst, storeFor_keep]
      split <;> rfl
    rw [hpath, storeFor_keep, hstore]
    split
    · exact h.settings key
    · show ((s.home.storeFor c).settings.insert Service.accountSetting value).get? key = _
      rw [Table.get?_insert]
      split
      · rfl
      · next hkey => exact (h.settings key).trans (if_neg hkey)

/-- What the command that sets a key can do to a home with a configuration and an account. -/
inductive SetOutcome (h : Home) (c : Config) (account : Option String) (key value : String) :
    Except Failure String × Home → Prop where
  | refused (e : Failure) (after : Home) (finds : after.Finds c account) (path : after.path = h.path) :
      SetOutcome h c account key value (.error e, after)
  | stored (text : String) (after : Home) (isAccount : key = Service.accountSetting) (path : after.path = h.path)
      (finds : after.Finds c (if Home.isPrivatePath (h.storePath c) then account else some (Text.trim value))) :
      SetOutcome h c account key value (.ok text, after)
  /-- The value is written to the file. The store is another one if the path of the store is what is set. -/
  | written (text : String) (after : Home) (c' : Config) (applied : Config.Applied c value key c')
      (path : after.path = h.path) (finds : key ≠ "db_path" → after.Finds c' account) :
      SetOutcome h c account key value (.ok text, after)

/-- All that the command that sets a key can do. -/
theorem setOutcome {h : Home} {c : Config} {account : Option String} (hfinds : h.Finds c account) (o : Outside)
    (format : OutputFormat) (key value : String) :
    SetOutcome h c account key value (process o format (.configSet key value) h) := by
  obtain ⟨file, hload⟩ := hfinds.loaded
  obtain ⟨p, hp⟩ := hfinds.supported
  obtain ⟨text, htext, hnormal, hopen⟩ := run_open (s := o.session h) hload
  have hopened := hfinds.withFile (s := o.session h) htext hnormal ⟨p, hp⟩ rfl
  generalize hs : (o.session h).withFile (some text) = s at hopen hopened
  have hhome : s.home.path = h.path ∧ s.home.storePath c = h.storePath c := by
    rw [← hs]
    exact ⟨rfl, rfl⟩
  have hrun : process o format (.configSet key value) h =
      ((Action.run (o.session h) (runConfigSet key value)).1, (Action.run (o.session h) (runConfigSet key value)).2.home) :=
    rfl
  rw [hrun, runConfigSet, hopen]
  dsimp only
  by_cases hkey : key = Service.accountSetting
  · subst hkey
    have hstored : Action.run s (onStore c fun _ => Service.setSetting Service.accountSetting (Text.trim value)) =
        (.ok (), (s.keep (s.home.storePath c) (s.world (s.home.storeFor c))).keep (s.home.storePath c)
          (s.world ((s.home.storeFor c).setSetting Service.accountSetting (Text.trim value)))) := run_onStore hp rfl
    have hfound := finds_stored hopened (Text.trim value)
    rw [if_pos (by rfl), run_bind_of_ok hstored]
    rw [hhome.2] at hfound ⊢
    exact .stored _ _ rfl hhome.1 hfound
  · rw [if_neg (by simpa [isStored] using hkey)]
    rcases Config.apply_cases c key value with ⟨c', happly, happlied⟩ | ⟨e, happly, hrefused⟩
    · have hset : Action.run s (liftM (c.apply key value) : Action Session Config) = (.ok c', s) := by
        rw [run_lift, happly]
      rw [run_bind_of_ok hset, run_bind_of_ok (run_saveConfig s c')]
      refine .written _ _ c' happlied hhome.1 fun hpath => ?_
      exact hopened.withFile (Config.ofFile?_toFile c') (happlied.normal_eq_self hnormal) (happlied.supported ⟨p, hp⟩)
        (happlied.storePath_eq hpath)
    · have hset : Action.run s (liftM (c.apply key value) : Action Session Config) = (.error e, s) := by
        rw [run_lift, happly]
      rw [run_bind_of_error hset]
      exact .refused e _ hopened hhome.1

/-! ## Runs -/

/-- A process that sets a key. -/
structure SetCall where
  outside : Outside
  format : OutputFormat
  key : String
  value : String

/-- What the process prints, and the home that it leaves. -/
def SetCall.run (call : SetCall) (h : Home) : Except Failure String × Home :=
  process call.outside call.format (.configSet call.key call.value) h

/-- The home that processes leave that set keys, one after the other. -/
def homeAfter (h : Home) (calls : List SetCall) : Home :=
  calls.foldl (fun h call => (call.run h).2) h

/-- The key that the process sets with the value, if it does not fail. -/
def SetCall.sets (call : SetCall) (h : Home) : List (String × String) :=
  match (call.run h).1 with
  | .ok _ => [(call.key, call.value)]
  | .error _ => []

/-- The keys that processes set with the values, one after the other. -/
def successes (h : Home) : List SetCall → List (String × String)
  | [] => []
  | call :: later => call.sets h ++ successes (call.run h).2 later

/-- The value that a key was set to last, if it was set. -/
def lastValue? (sets : List (String × String)) (key : String) : Option String :=
  ((sets.filter fun set => set.1 = key).getLast?).map Prod.snd

/-- What is shown for a key once keys were set: the last value in its normal form, or what was shown before if there is none.
An account that no other process sees is not shown. -/
def shownAfter (hidden : Bool) (sets : List (String × String)) (key before : String) : String :=
  if key = Service.accountSetting ∧ hidden then before
  else ((lastValue? sets key).map fun value => normalValue value key).getD before

/-- What is set later is shown instead of what was shown till then. -/
theorem shownAfter_append (hidden : Bool) (earlier later : List (String × String)) (key before : String) :
    shownAfter hidden (earlier ++ later) key before =
      shownAfter hidden later key (shownAfter hidden earlier key before) := by
  unfold shownAfter
  by_cases hforgotten : key = Service.accountSetting ∧ hidden
  · simp only [if_pos hforgotten]
  · have hlast : lastValue? (earlier ++ later) key = (lastValue? later key).or (lastValue? earlier key) := by
      unfold lastValue?
      rw [List.filter_append, List.getLast?_append, Option.map_or]
    simp only [if_neg hforgotten, hlast]
    cases lastValue? later key <;> rfl

/-- What is shown when one key was set. -/
theorem shownAfter_singleton (hidden : Bool) (k value key before : String) :
    shownAfter hidden [(k, value)] key before =
      if key = k ∧ ¬(key = Service.accountSetting ∧ hidden) then normalValue value key else before := by
  unfold shownAfter lastValue?
  by_cases hkey : k = key
  · rw [List.filter_cons_of_pos (by simpa using hkey)]
    grind
  · rw [List.filter_cons_of_neg (by simpa using hkey)]
    grind

/-- A process that sets a key but the path of the store leaves a home with the same store, in which the value is found. -/
theorem SetCall.finds {h : Home} {c : Config} {account : Option String} (hfinds : h.Finds c account) (call : SetCall)
    (hpath : ∀ set ∈ call.sets h, set.1 ≠ "db_path") :
    ∃ c' account', (call.run h).2.Finds c' account' ∧ (call.run h).2.storePath c' = h.storePath c ∧
      ∀ k, shown c' account' k =
        shownAfter (Home.isPrivatePath (h.storePath c)) (call.sets h) k (shown c account k) := by
  have houtcome := setOutcome hfinds call.outside call.format call.key call.value
  unfold sets at hpath ⊢
  unfold run at hpath ⊢
  generalize process call.outside call.format (.configSet call.key call.value) h = ran at houtcome hpath ⊢
  cases houtcome with
  | refused e after hafter hhome =>
    refine ⟨c, account, hafter, Home.storePath_congr hhome rfl, fun k => ?_⟩
    unfold shownAfter
    exact (ite_self _).symm
  | stored text after haccount hhome hafter =>
    refine ⟨c, _, hafter, Home.storePath_congr hhome rfl, fun k => ?_⟩
    rw [shownAfter_singleton, haccount]
    by_cases hhidden : Home.isPrivatePath (h.storePath c) = true
    · rw [if_pos hhidden, if_neg fun hk => hk.2 ⟨hk.1, hhidden⟩]
    · rw [if_neg hhidden, shown_stored c account]
      grind
  | written text after c' happlied hhome hafter =>
    have hkey : call.key ≠ "db_path" := hpath _ List.mem_cons_self
    refine ⟨c', account, hafter hkey, Home.storePath_congr hhome (happlied.storePath_eq hkey), fun k => ?_⟩
    rw [shownAfter_singleton, shown_of_applied happlied account]
    have hfile := happlied.key_ne_account
    grind

/-- A run that never sets the path of the store leaves a home in which every value is found that was set last. -/
theorem finds_homeAfter {h : Home} {c : Config} {account : Option String} (hfinds : h.Finds c account)
    (calls : List SetCall) (hpath : ∀ set ∈ successes h calls, set.1 ≠ "db_path") :
    ∃ c' account', (homeAfter h calls).Finds c' account' ∧
      ∀ k, shown c' account' k =
        shownAfter (Home.isPrivatePath (h.storePath c)) (successes h calls) k (shown c account k) := by
  induction calls generalizing h c account with
  | nil =>
    refine ⟨c, account, hfinds, fun k => ?_⟩
    unfold shownAfter
    exact (ite_self _).symm
  | cons call later ih =>
    obtain ⟨c', account', hfirst, hstore, hshown⟩ :=
      call.finds hfinds fun set hset => hpath set (List.mem_append_left _ hset)
    obtain ⟨c'', account'', hlast, hall⟩ := ih hfirst fun set hset => hpath set (List.mem_append_right _ hset)
    refine ⟨c'', account'', hlast, fun k => ?_⟩
    rw [hall k, hshown k, hstore, successes, shownAfter_append]

/-- A home shows a value for a key: every process that is asked for the key prints it. -/
def Shows (h : Home) (key value : String) : Prop :=
  ∀ (o : Outside) (format : OutputFormat), (process o format (.configGet key) h).1 = .ok (Print.lines [value])

/-- A home in which keys can be set: its configuration names a provider that there is, its store has no setting but the account,
and if the name of the store is a URI, then one that opens the store for reading and writing. -/
structure IsConfigured (h : Home) (c : Config) : Prop where
  loaded : ∃ file, Config.load h.config = .ok (c, file)
  supported : ∃ p, Provider.ofName c.provider = .ok p
  settings : ∀ key value, (h.storeFor c).setting? key = some value → key = Service.accountSetting
  opening : ∀ uri ∈ StoreName.uri? (h.storePath c), uri.isOpening = true

/-- Whatever keys are set, each by a process of its own, in a home in which keys can be set, if none of them that does not fail
sets the path of the store:
1. For every key one value is shown before, and one after.
2. The value after is the normal form of the value that the key was set to last, or the value before if it was not set. The
   account alone keeps the value before, whatever it is set to, if the store is one that ends with the process that made it.
3. The list of all keys shows the same values, in every format. -/
theorem settings_shown {h : Home} {c : Config} (hhome : IsConfigured h c) (calls : List SetCall)
    (hpath : ∀ set ∈ successes h calls, set.1 ≠ "db_path") :
    ∃ before after : String → String,
      (∀ key ∈ Config.keys, Shows h key (before key) ∧ Shows (homeAfter h calls) key (after key)) ∧
      (∀ key ∈ Config.keys, after key =
        if key = Service.accountSetting ∧ Home.isPrivatePath (h.storePath c) then before key
        else match lastValue? (successes h calls) key with
          | some value => normalValue value key
          | none => before key) ∧
      ∀ (o : Outside) (format : OutputFormat), (process o format .configList (homeAfter h calls)).1 =
        .ok (printConfig (Config.keys.map fun key => (key, after key)) format) := by
  have hfinds : h.Finds c ((h.storeFor c).setting? Service.accountSetting) := by
    refine ⟨hhome.loaded, hhome.supported, fun key => ?_⟩
    by_cases hkey : key = Service.accountSetting
    · rw [if_pos hkey, hkey]
    · rw [if_neg hkey]
      cases hsetting : (h.storeFor c).setting? key with
      | none => rfl
      | some value => exact absurd (hhome.settings key value hsetting) hkey
  obtain ⟨c', account, hlast, hshown⟩ := finds_homeAfter hfinds calls hpath
  refine ⟨shown c ((h.storeFor c).setting? Service.accountSetting), shown c' account, fun key hkey => ⟨?_, ?_⟩,
    fun key _ => ?_, process_configList hlast⟩
  · exact process_configGet hfinds hkey
  · exact process_configGet hlast hkey
  · rw [hshown key, shownAfter]
    cases lastValue? (successes h calls) key <;> rfl

/-- A process that finds nothing besides the home. -/
def nowhere : Outside where
  clock := ⟨Date.min, 0, 0, 0⟩
  environment := Table.empty
  keyStore := .detached
  network := ⟨false, [], []⟩

/-- A home in which nothing was done yet. -/
def newHome : Home where
  path := "home"
  config := none
  freeTier := none
  stores := Table.empty

theorem isConfigured_newHome : IsConfigured newHome Config.standard where
  loaded := ⟨none, rfl⟩
  supported := ⟨.azure, rfl⟩
  settings := nofun
  opening := nofun

/-- A provider is set, an account, a provider that there is not, and a blank region. -/
def setCalls : List SetCall :=
  [⟨nowhere, .table, "provider", " AWS"⟩, ⟨nowhere, .table, "account_id", "first\t"⟩,
    ⟨nowhere, .json, "provider", "oracle"⟩, ⟨nowhere, .csv, "region", "  "⟩]

/-- Then the provider is shown that there is, the account without the blank, and no region. -/
theorem settings_shown_new : IsConfigured newHome Config.standard ∧
    successes newHome setCalls = [("provider", " AWS"), ("account_id", "first\t"), ("region", "  ")] ∧
    Shows (homeAfter newHome setCalls) "provider" "aws" ∧ Shows (homeAfter newHome setCalls) "account_id" "first" ∧
    Shows (homeAfter newHome setCalls) "region" "" := by
  have hsets : successes newHome setCalls = [("provider", " AWS"), ("account_id", "first\t"), ("region", "  ")] := by
    decide +kernel
  obtain ⟨before, after, hshown, hafter, -⟩ :=
    settings_shown isConfigured_newHome setCalls (by rw [hsets]; decide)
  have hkept : Home.isPrivatePath (newHome.storePath Config.standard) = false := by decide +kernel
  -- what was set last is shown in its normal form
  have hset : ∀ key value text, key ∈ Config.keys → lastValue? (successes newHome setCalls) key = some value →
      normalValue value key = text → Shows (homeAfter newHome setCalls) key text := by
    intro key value text hkey hlast hnormal
    have hvalue := hafter key hkey
    rw [hkept, if_neg (by simp), hlast] at hvalue
    have hafterwards := (hshown key hkey).2
    rw [hvalue] at hafterwards
    exact hnormal ▸ hafterwards
  rw [hsets] at hset
  exact ⟨isConfigured_newHome, hsets, hset "provider" " AWS" "aws" (by decide) (by decide) (by decide +kernel),
    hset "account_id" "first\t" "first" (by decide) (by decide) (by decide +kernel),
    hset "region" "  " "" (by decide) (by decide) (by decide +kernel)⟩

/-- A home whose store ends with the process that made it. -/
def memoryHome : Home where
  path := "home"
  config := some "db_path = \":memory:\"\n"
  freeTier := none
  stores := Table.empty

/-- That every value that was set last is shown fails for an account in such a home, although its configuration names a provider
that there is, its store has no settings, and the process that sets the account does not fail. -/
theorem settings_shown_false :
    (Config.load memoryHome.config).toOption = some
      ({ Config.standard with storePath := some ":memory:" }, memoryHome.config) ∧
    memoryHome.stores = Table.empty ∧
    successes memoryHome [⟨nowhere, .table, "account_id", "acct"⟩] = [("account_id", "acct")] ∧
    (process nowhere .table (.configGet "account_id")
      (homeAfter memoryHome [⟨nowhere, .table, "account_id", "acct"⟩])).1.toOption = some (Print.lines [""]) ∧
    Print.lines [""] ≠ Print.lines [normalValue "acct" "account_id"] := by
  refine ⟨?_, rfl, ?_, ?_, ?_⟩ <;> decide +kernel

end Command

end SpendLedger
