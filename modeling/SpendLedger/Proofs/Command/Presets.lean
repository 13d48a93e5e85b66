import SpendLedger.Proofs.Command.Settings
import SpendLedger.Proofs.Text.Case

/-!
# Budgets by name

An alert can be set up at the amount of a budget that has a name. The name is looked for without the blanks around it and in small
letters, but the budgets of a file have the names that the file writes. A budget whose name has capitals, or blanks around it, is
not found by its own name nor by any other; where it differs from another one in this alone, that one is found in its stead.
-/

namespace SpendLedger

open SpendLedger.Action

/-- Without a file the names of all budgets are looked for as they are. -/
theorem FreeTier.isFolded_of_standard {key : String} {preset : BudgetPreset Float}
    (h : (standard : FreeTier Float).budgets.get? key = some preset) : Text.IsFolded key := by
  have hnames : ∀ e ∈ (standard : FreeTier Float).budgets.entries, Text.lower (Text.trim e.1) = e.1 := by decide +kernel
  exact Text.lower_trim_eq_self_iff.1 (hnames (key, preset) (Table.mem_entries_iff.2 h))

/-- What is answered after work on a store is what the operation answers on some store. -/
theorem Session.run_onStore_eq_ok {α : Type} {s after : Session} {c : Config} {action : Service → Action World α} {x : α}
    (h : Action.run s (onStore c action) = (.ok x, after)) : ∃ service w, (Action.run w (action service)).1 = .ok x := by
  unfold onStore at h
  rw [run_bind_of_ok (run_get s), run_bind_of_ok (run_get s), run_bind_of_ok (run_modify s _)] at h
  obtain ⟨service, _, h⟩ := run_lift_bind_eq_ok h
  rw [run_bind_of_ok (run_get _)] at h
  generalize (s.keep _ _).world _ = w at h
  refine ⟨service, w, ?_⟩
  show (World.run w (action service)).1 = .ok x
  generalize World.run w (action service) = ran at h
  obtain ⟨answer, world⟩ := ran
  obtain ⟨_, _, _, h⟩ := run_bind_eq_ok h
  cases answer with
  | error e => cases h
  | ok y =>
    cases h
    rfl

namespace Command

open Session

/-- To set up an alert takes the budgets that the home has at the start. -/
theorem run_runAlertAdd (s : Session) (name : String) (threshold : Option Float) (preset : Option String) :
    Action.run s (runAlertAdd name threshold preset) = Action.run s (do
      ensureHome
      let c ← loadConfig
      let alert ← onStore c fun service => do
        let amount ← thresholdOf threshold preset (FreeTier.load s.home.freeTierPath s.home.freeTier)
        service.createAlert name amount
      return Print.lines ["Alert '" ++ alert.name ++ "' created at " ++ Print.amount alert.threshold ++ "."]) := by
  have hensure : Action.run s ensureHome = (.ok (), s.withFile (some (Config.ensureFile s.home.config))) := rfl
  unfold runAlertAdd
  rw [run_bind_of_ok hensure, run_bind_of_ok hensure]
  -- up to the store only the configuration's file changes, so the budgets that are asked for later are those of the start
  generalize hbefore : s.withFile (some (Config.ensureFile s.home.config)) = before
  have hconfig := run_loadConfig before
  cases hread : Config.load before.home.config with
  | error e =>
    rw [hread] at hconfig
    rw [run_bind_of_error hconfig, run_bind_of_error hconfig]
  | ok read =>
    rw [hread] at hconfig
    rw [run_bind_of_ok hconfig, run_bind_of_ok hconfig, run_bind_of_ok (run_get _), ← hbefore]
    rfl

section

variable {h : Home} {threshold threshold' : Option Float} {preset preset' : Option String}

/-- Two ways to say one amount set up the same alert. -/
theorem process_alertAdd_congr
    (hsame : thresholdOf threshold preset (FreeTier.load h.freeTierPath h.freeTier) =
      thresholdOf threshold' preset' (FreeTier.load h.freeTierPath h.freeTier))
    (o : Outside) (format : OutputFormat) (name : String) :
    process o format (.alertAdd name threshold preset) h = process o format (.alertAdd name threshold' preset') h := by
  have hrun : Action.run (o.session h) (runAlertAdd name threshold preset) =
      Action.run (o.session h) (runAlertAdd name threshold' preset') := by
    have hhome : (o.session h).home = h := rfl
    rw [run_runAlertAdd, run_runAlertAdd, hhome, hsame]
  exact congrArg (fun ran : Except Failure String × Session => (ran.1, ran.2.home)) hrun

/-- Without an amount no alert is set up. -/
theorem process_alertAdd_error {e : Failure}
    (hnone : thresholdOf threshold preset (FreeTier.load h.freeTierPath h.freeTier) = .error e)
    (o : Outside) (format : OutputFormat) (name : String) :
    ∃ e, (process o format (.alertAdd name threshold preset) h).1 = .error e := by
  cases hran : Action.run (o.session h) (runAlertAdd name threshold preset) with
  | mk answer after =>
    cases answer with
    | error e => exact ⟨e, congrArg Prod.fst hran⟩
    | ok text =>
      have hhome : (o.session h).home = h := rfl
      rw [run_runAlertAdd, hhome, hnone] at hran
      obtain ⟨_, s₁, _, hran⟩ := run_bind_eq_ok hran
      obtain ⟨c, s₂, _, hran⟩ := run_bind_eq_ok hran
      obtain ⟨alert, s₃, hstored, _⟩ := run_bind_eq_ok hran
      obtain ⟨service, w, hanswer⟩ := run_onStore_eq_ok hstored
      cases hanswer

end

/-- Which budgets can be used by their names, in a home with a file of budgets or without one.
1. A budget whose name has no capitals and no blanks around it is found by its name, and an alert that names it is set up as one
   that gives its amount.
2. Any other is found by no name. Where there is a budget of the name that trimming and making small leave of its own, an alert
   that names it is set up at the amount of that one; and where there is none, no alert is set up.
3. Without a file all budgets are of the first kind. -/
theorem preset_usable {h : Home} {tier : FreeTier Float} (hload : FreeTier.load h.freeTierPath h.freeTier = .ok tier)
    {key : String} {preset : BudgetPreset Float} (hkey : tier.budgets.get? key = some preset) :
    (Text.IsFolded key → tier.budget? key = some preset ∧
      ∀ (o : Outside) (format : OutputFormat) (name : String),
        process o format (.alertAdd name none (some key)) h = process o format (.alertAdd name (some preset.amount) none) h) ∧
    (¬Text.IsFolded key →
      (∀ name, ∃ other, other ≠ key ∧ tier.budget? name = tier.budgets.get? other) ∧
      match tier.budgets.get? (Text.lower (Text.trim key)) with
      | some other => tier.budget? key = some other ∧
        ∀ (o : Outside) (format : OutputFormat) (name : String),
          process o format (.alertAdd name none (some key)) h = process o format (.alertAdd name (some other.amount) none) h
      | none => tier.budget? key = none ∧
        ∀ (o : Outside) (format : OutputFormat) (name : String),
          ∃ e, (process o format (.alertAdd name none (some key)) h).1 = .error e) ∧
    (h.freeTier = none → Text.IsFolded key) := by
  have hfound : ∀ {found : BudgetPreset Float}, tier.budget? key = some found →
      thresholdOf none (some key) (FreeTier.load h.freeTierPath h.freeTier) =
        thresholdOf (some found.amount) none (FreeTier.load h.freeTierPath h.freeTier) := by
    intro found hbudget
    rw [hload]
    show (match tier.budget? key with
      | some b => Except.ok b.amount
      | none => .error _) = _
    rw [hbudget]
    rfl
  refine ⟨fun hfolded => ?_, fun hnot => ⟨fun name => ?_, ?_⟩, fun hfile => ?_⟩
  · have hbudget : tier.budget? key = some preset := by
      rw [FreeTier.budget?, Text.lower_trim_eq_self_iff.2 hfolded, hkey]
    exact ⟨hbudget, process_alertAdd_congr (hfound hbudget)⟩
  · refine ⟨_, fun hsame => hnot (Text.lower_trim_eq_self_iff.1 ?_), rfl⟩
    rw [← hsame, Text.lower_trim_lower_trim]
  · cases hother : tier.budgets.get? (Text.lower (Text.trim key)) with
    | some other => exact ⟨hother, process_alertAdd_congr (hfound hother)⟩
    | none =>
      refine ⟨hother, @process_alertAdd_error _ _ _ (.config ("Unknown budget preset '" ++ key ++ "'.")) ?_⟩
      rw [hload]
      show (match tier.budget? key with
        | some b => Except.ok b.amount
        | none => .error _) = _
      rw [FreeTier.budget?, hother]
  · rw [hfile] at hload
    cases hload
    exact FreeTier.isFolded_of_standard hkey

/-- A home whose file has two budgets, one of them with a capital in its name. -/
def homeWithBudgets : Home where
  path := "home"
  config := none
  freeTier := some ("[budgets.Travel]\namount = 5.0\ndescription = \"All trips\"\n\n" ++
    "[budgets.trip]\namount = 2.5\ndescription = \"One trip\"\n")
  stores := Table.empty

/-- The two budgets are loaded. -/
theorem load_homeWithBudgets : ∃ tier, FreeTier.load homeWithBudgets.freeTierPath homeWithBudgets.freeTier = .ok tier ∧
    tier.budgets.entries = [("Travel", ⟨5, "All trips"⟩), ("trip", ⟨2.5, "One trip"⟩)] := by
  have hbudgets : (FreeTier.load homeWithBudgets.freeTierPath homeWithBudgets.freeTier).toOption.map
      (fun tier => tier.budgets.entries) = some [("Travel", ⟨5, "All trips"⟩), ("trip", ⟨2.5, "One trip"⟩)] := by
    decide +kernel
  cases hload : FreeTier.load homeWithBudgets.freeTierPath homeWithBudgets.freeTier with
  | error e =>
    rw [hload] at hbudgets
    cases hbudgets
  | ok tier =>
    rw [hload] at hbudgets
    exact ⟨tier, rfl, Option.some.inj hbudgets⟩

/-- The one without a capital can be used; with the other no alert can be set up. -/
theorem preset_usable_trip : ∃ tier, FreeTier.load homeWithBudgets.freeTierPath homeWithBudgets.freeTier = .ok tier ∧
    (tier.budgets.get? "trip" = some ⟨2.5, "One trip"⟩ ∧ tier.budget? "trip" = some ⟨2.5, "One trip"⟩) ∧
    (tier.budgets.get? "Travel" = some ⟨5, "All trips"⟩ ∧ tier.budget? "Travel" = none) ∧
    ∃ e, (process nowhere .table (.alertAdd "limit" none (some "Travel")) homeWithBudgets).1 = .error e := by
  obtain ⟨tier, hload, hentries⟩ := load_homeWithBudgets
  have htrip : tier.budgets.get? "trip" = some ⟨2.5, "One trip"⟩ := Table.mem_entries_iff.1 (by rw [hentries]; simp)
  have htravel : tier.budgets.get? "Travel" = some ⟨5, "All trips"⟩ := Table.mem_entries_iff.1 (by rw [hentries]; simp)
  have hfolded : Text.IsFolded "trip" := Text.lower_trim_eq_self_iff.1 (by decide)
  have hcapital : ¬Text.IsFolded "Travel" := mt Text.lower_trim_eq_self_iff.2 (by decide)
  have hnone : tier.budgets.get? (Text.lower (Text.trim "Travel")) = none := by
    rw [show Text.lower (Text.trim "Travel") = "travel" by decide, Table.get?, hentries]
    decide
  obtain ⟨-, hunusable, -⟩ := preset_usable hload htravel
  obtain ⟨-, hlost⟩ := hunusable hcapital
  rw [hnone] at hlost
  exact ⟨tier, hload, ⟨htrip, ((preset_usable hload htrip).1 hfolded).1⟩, ⟨htravel, hlost.1⟩, hlost.2 nowhere .table "limit"⟩

/-- It is false that every budget that is loaded is found by its name. -/
theorem preset_usable_false :
    ¬∀ (path : String) (file : Option String) (tier : FreeTier Float) (key : String) (preset : BudgetPreset Float),
      FreeTier.load path file = .ok tier → tier.budgets.get? key = some preset → tier.budget? key = some preset := by
  intro hall
  obtain ⟨tier, hload, hentries⟩ := load_homeWithBudgets
  have hfound := hall _ _ tier "Travel" ⟨5, "All trips"⟩ hload (Table.mem_entries_iff.1 (by rw [hentries]; simp))
  rw [FreeTier.budget?, show Text.lower (Text.trim "Travel") = "travel" by decide, Table.get?, hentries] at hfound
  revert hfound
  decide

end Command

end SpendLedger
