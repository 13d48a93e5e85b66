import SpendLedger.Proofs.Config.FreeTierFile
import SpendLedger.Proofs.Service.AlertNames

/-!
# Three checks of one amount

The amount of a budget is checked when its file is loaded, the threshold of an alert when the alert is set up, and once more when
the alert is stored. The first two ask for the same, a finite amount above zero, and the last one for less: it takes an infinite
threshold too. So a budget that was loaded never fails as a threshold, and what the service lets through the store takes.
-/

namespace SpendLedger

namespace Service

/-- A threshold that the service lets through is stored. -/
theorem saveAlert_of_unrefused {name : String} {threshold : Float} (h : alertRefusal? (Text.trim name) threshold = none)
    (store : Store Float) {alert : Alert Float} (hthreshold : alert.threshold = threshold) :
    store.saveAlert alert = .ok (store.withAlert alert, store.nextAlert) := by
  obtain ⟨-, hfinite, hpositive⟩ := alertRefusal?_eq_none_iff.1 h
  subst hthreshold
  exact store.saveAlert_of_positive (Binary64.not_isNaN_of_isFinite hfinite) hpositive

/-- An alert that can be set up is. -/
theorem createAlert_eq_ok (s : Service) {w : World} {name : String} {threshold : Float}
    (h : CanCreate w.store.alerts name threshold) :
    ∃ alert after, World.run w (s.createAlert name threshold) = (.ok alert, after) ∧ alert.threshold = threshold ∧
      after.store = w.store.withAlert alert := by
  rcases createAlert_cases s w name threshold with ⟨_, _, hcannot⟩ | ⟨alert, journal, _, _, _, hthreshold, _, hrun⟩
  · exact absurd h hcannot
  · exact ⟨alert, _, hrun, hthreshold, rfl⟩

/-- How the three checks of an amount go together, for every file or none.
1. Of what is loaded there are limits and budgets, all of them finite and above zero. The amount of every budget is a threshold
   with which an alert of any name is set up that is not blank and not taken.
2. If a file writes a limit or an amount that is not a number which is finite and above zero, it is not loaded.
3. To set up an alert never fails in the store, whatever its name and its threshold are: it fails only for what was asked for.
4. What the service lets through, every store takes. -/
theorem thresholds_agree (path : String) (file : Option String) :
    (∀ tier, FreeTier.load path file = .ok tier → tier.IsSound ∧
      ∀ key preset, tier.budgets.get? key = some preset → ∀ (s : Service) (w : World) (name : String),
        Text.isBlankText name = false → (∀ row ∈ w.store.alerts, row.name ≠ Text.trim name) →
        ∃ alert after, World.run w (s.createAlert name preset.amount) = (.ok alert, after) ∧
          alert.threshold = preset.amount ∧ after.store = w.store.withAlert alert) ∧
    (∀ text t, file = some text → FreeTier.IsWritten text t →
      (¬∃ x, t.number? = some x ∧ x.isFinite = true ∧ 0 < x) → ∃ e, FreeTier.load path file = .error e) ∧
    (∀ (s : Service) (w : World) (name : String) (threshold : Float) (e : Failure),
      (World.run w (s.createAlert name threshold)).1 = .error e → ∃ message, e = .config message) ∧
    ∀ (name : String) (threshold : Float), alertRefusal? (Text.trim name) threshold = none →
      ∀ (store : Store Float) (alert : Alert Float), alert.threshold = threshold →
        ∃ after, store.saveAlert alert = .ok (after, store.nextAlert) := by
  refine ⟨fun tier htier => ?_, fun text t hfile hwritten hnot => ?_, fun s w name threshold e hfailed => ?_, ?_⟩
  · have hsound := FreeTier.isSound_of_load htier
    refine ⟨hsound, fun key preset hpreset s w name hname hfree => ?_⟩
    obtain ⟨hfinite, hpositive⟩ := hsound.amounts (key, preset) (Table.mem_entries_iff.2 hpreset)
    exact s.createAlert_eq_ok ⟨hname, hfinite, hpositive, hfree⟩
  · subst hfile
    cases hload : FreeTier.load path (some text) with
    | error e => exact ⟨e, rfl⟩
    | ok tier => exact absurd (hwritten.number hload) hnot
  · have hfailed : (Action.run w (s.createAlert name threshold)).1 = .error e := hfailed
    rcases createAlert_cases s w name threshold with ⟨message, hrun, _⟩ | ⟨alert, journal, _, _, _, _, _, hrun⟩
    · rw [hrun] at hfailed
      cases hfailed
      exact ⟨message, rfl⟩
    · rw [hrun] at hfailed
      cases hfailed
  · exact fun name threshold hlet store alert hthreshold => ⟨_, saveAlert_of_unrefused hlet store hthreshold⟩

/-- A file with one budget. -/
def travelBudget : String := "[budgets.travel]\namount = 2.5\ndescription = \"Trips\"\n"

/-- A file with a budget without bounds. -/
def endlessBudget : String := "[budgets.travel]\namount = inf\ndescription = \"Trips\"\n"

/-- A world in which there are no alerts. -/
def withoutAlerts : World := World.offline Store.empty Date.min

/-- The one budget is loaded and sets up an alert, which stores take. The other is not loaded, and does not set up an alert
either, though there is a store that takes it. -/
theorem thresholds_of_travel :
    (∃ tier, FreeTier.load "limits.toml" (some travelBudget) = .ok tier ∧ tier.IsSound ∧
      (∃ alert after, World.run withoutAlerts (createAlert ⟨.azure, Config.standard⟩ " trip" 2.5) = (.ok alert, after) ∧
        alert.threshold = 2.5 ∧ after.store = withoutAlerts.store.withAlert alert) ∧
      ∃ after, Store.empty.saveAlert (⟨none, "trip", 2.5, "account", true⟩ : Alert Float) = .ok (after, 1)) ∧
    (∃ e, FreeTier.load "limits.toml" (some endlessBudget) = .error e) ∧
    (∃ message, (World.run withoutAlerts (createAlert ⟨.azure, Config.standard⟩ "trip" Decimal.infinity)).1 =
      .error (.config message)) ∧
    ∃ after, Store.empty.saveAlert (⟨none, "trip", Decimal.infinity, "account", true⟩ : Alert Float) = .ok after := by
  obtain ⟨hloaded, -, hblamed, hstored⟩ := thresholds_agree "limits.toml" (some travelBudget)
  have hpreset : (FreeTier.load "limits.toml" (some travelBudget)).toOption.bind (fun tier => tier.budgets.get? "travel") =
      some ⟨2.5, "Trips"⟩ := by decide +kernel
  refine ⟨?_, ?_, ?_, ?_⟩
  · cases hload : FreeTier.load "limits.toml" (some travelBudget) with
    | error e =>
      rw [hload] at hpreset
      cases hpreset
    | ok tier =>
      rw [hload] at hpreset
      obtain ⟨hsound, hcreate⟩ := hloaded tier hload
      refine ⟨tier, rfl, hsound, hcreate _ _ hpreset _ _ _ (by decide) nofun, ?_⟩
      exact hstored " trip" 2.5 (by decide +kernel) Store.empty _ rfl
  · obtain ⟨t, hwritten, hnumber⟩ :=
      @FreeTier.IsWritten.of_get? endlessBudget "travel" Decimal.infinity (by decide +kernel)
    refine (thresholds_agree "limits.toml" (some endlessBudget)).2.1 _ t rfl hwritten ?_
    rintro ⟨x, hx, hfinite, -⟩
    cases hnumber.symm.trans hx
    revert hfinite
    decide +kernel
  · cases hran : (World.run withoutAlerts (createAlert ⟨.azure, Config.standard⟩ "trip" Decimal.infinity)).1 with
    | ok alert =>
      have hnone : (World.run withoutAlerts
          (createAlert ⟨.azure, Config.standard⟩ "trip" Decimal.infinity)).1.toOption.isNone = true := by decide +kernel
      rw [hran] at hnone
      cases hnone
    | error e =>
      obtain ⟨message, rfl⟩ := hblamed _ _ _ _ e hran
      exact ⟨message, rfl⟩
  · exact ⟨_, Store.saveAlert_of_positive _ (by decide +kernel) (by decide +kernel)⟩

end Service

end SpendLedger
