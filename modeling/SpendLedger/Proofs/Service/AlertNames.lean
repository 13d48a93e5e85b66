import SpendLedger.Proofs.Service.Operations
import SpendLedger.Proofs.Text.Trim

/-!
# The names of alerts

The store itself takes alerts of one name and names with blanks around them. A service trims a name before it compares and
before it stores it, so that the alerts of a service have different names, none of them blank or with blanks around it, and
thresholds that can be reached. This holds after every run of operations, and makes the alert that a name removes the only one.
-/

namespace SpendLedger

/-- An alert with a name that is not empty and has no blanks around it, and a threshold above zero that can be reached. -/
def AlertRow.IsSound (row : AlertRow Float) : Prop :=
  row.name ≠ "" ∧ Text.IsTrimmed row.name ∧ row.threshold.isFinite = true ∧ 0 < row.threshold

/-- Alerts that are all sound and have different names. -/
structure SoundAlerts (alerts : List (AlertRow Float)) : Prop where
  distinct : (alerts.map AlertRow.name).Nodup
  sound : ∀ row ∈ alerts, row.IsSound

namespace SoundAlerts

variable {alerts : List (AlertRow Float)}

/-- A sound alert of a new name can be added. -/
theorem append (h : SoundAlerts alerts) {row : AlertRow Float} (hrow : row.IsSound)
    (hnew : ∀ old ∈ alerts, old.name ≠ row.name) : SoundAlerts (alerts ++ [row]) := by
  constructor
  · rw [List.map_append, List.map_singleton, List.nodup_append]
    refine ⟨h.distinct, List.nodup_singleton _, fun name hname other hother => ?_⟩
    obtain ⟨old, hold, rfl⟩ := List.mem_map.1 hname
    rw [List.mem_singleton.1 hother]
    exact hnew old hold
  · intro old hold
    rcases List.mem_append.1 hold with hold | hold
    · exact h.sound old hold
    · rw [List.mem_singleton.1 hold]
      exact hrow

theorem filter (h : SoundAlerts alerts) (p : AlertRow Float → Bool) : SoundAlerts (alerts.filter p) :=
  ⟨h.distinct.sublist (List.filter_sublist.map AlertRow.name), fun row hrow => h.sound row (List.mem_filter.1 hrow).1⟩

/-- Where names are different, the alert of a name is the only one that has to go with it. -/
theorem filter_name (h : SoundAlerts alerts) {name : String} (hname : ∃ row ∈ alerts, row.name = name) :
    ∃ earlier row later, alerts = earlier ++ row :: later ∧ row.name = name ∧
      alerts.filter (fun row => row.name ≠ name) = earlier ++ later := by
  obtain ⟨row, hrow, rfl⟩ := hname
  obtain ⟨earlier, later, rfl⟩ := List.append_of_mem hrow
  have hdistinct := h.distinct
  rw [List.map_append, List.map_cons, List.nodup_append, List.nodup_cons] at hdistinct
  obtain ⟨_, ⟨hlater, _⟩, hearlier⟩ := hdistinct
  refine ⟨earlier, row, later, rfl, rfl, ?_⟩
  have hkeptEarlier : earlier.filter (fun r => r.name ≠ row.name) = earlier :=
    List.filter_eq_self.2 fun r hr => decide_eq_true
      (hearlier r.name (List.mem_map_of_mem hr) row.name List.mem_cons_self)
  have hkeptLater : later.filter (fun r => r.name ≠ row.name) = later :=
    List.filter_eq_self.2 fun r hr => decide_eq_true fun heq => hlater (heq ▸ List.mem_map_of_mem hr)
  rw [List.filter_append, List.filter_cons_of_neg (by simp), hkeptEarlier, hkeptLater]

end SoundAlerts

namespace Service

open SpendLedger.Action

/-! ## What one operation does -/

/-- What an alert can be set up with: a name that is not blank and not taken, and a threshold above zero that can be
reached. -/
def CanCreate (alerts : List (AlertRow Float)) (name : String) (threshold : Float) : Prop :=
  Text.isBlankText name = false ∧ threshold.isFinite = true ∧ 0 < threshold ∧ ∀ row ∈ alerts, row.name ≠ Text.trim name

/-- An alert is refused for its name or its threshold if the one is blank or the other cannot be reached. -/
theorem alertRefusal?_eq_none_iff {name : String} {threshold : Float} :
    alertRefusal? (Text.trim name) threshold = none ↔
      Text.isBlankText name = false ∧ threshold.isFinite = true ∧ 0 < threshold := by
  have hpositive : Amount.isPositive threshold = true ↔ threshold.isFinite = true ∧ 0 < threshold :=
    Bool.and_eq_true_iff
  unfold alertRefusal?
  by_cases hname : Text.trim name = ""
  · have hblank := Text.trim_eq_empty_iff.1 hname
    simp [hname, hblank]
  · have hblank : Text.isBlankText name = false := Bool.eq_false_iff.2 fun h => hname (Text.trim_eq_empty_iff.2 h)
    rw [if_neg hname, ← hpositive]
    simp [hblank]

/-- What refuses an alert for its name or its threshold blames what was asked for, not the store. -/
theorem alertRefusal?_eq_some {name : String} {threshold : Float} {failure : Failure}
    (h : alertRefusal? name threshold = some failure) : ∃ message, failure = .config message := by
  unfold alertRefusal? at h
  split at h
  · exact ⟨_, (Option.some.inj h).symm⟩
  · split at h
    · exact ⟨_, (Option.some.inj h).symm⟩
    · cases h

/-- An alert of a name is found exactly if there is one. -/
theorem isSome_alertNamed?_iff {store : Store Float} {name : String} :
    (store.alertNamed? name).isSome = true ↔ ∃ row ∈ store.alerts, row.name = name := by
  rw [Store.alertNamed?, Option.isSome_map, List.find?_isSome]
  simp

/-- All that setting up an alert can do: it is refused for what was asked for and nothing happens, or it is stored under its
trimmed name. -/
theorem createAlert_cases (s : Service) (w : World) (name : String) (threshold : Float) :
    (∃ message, Action.run w (s.createAlert name threshold) = (.error (.config message), w) ∧
        ¬CanCreate w.store.alerts name threshold) ∨
      ∃ (alert : Alert Float) (journal : List Event), CanCreate w.store.alerts name threshold ∧
        alert.id = some (w.store.nextAlert : Int) ∧ alert.name = Text.trim name ∧ alert.threshold = threshold ∧
        alert.enabled = true ∧
        Action.run w (s.createAlert name threshold) = (.ok alert, { w with store := w.store.withAlert alert, journal }) := by
  unfold createAlert
  dsimp only
  cases hrefused : alertRefusal? (Text.trim name) threshold with
  | some failure =>
    obtain ⟨message, rfl⟩ := alertRefusal?_eq_some hrefused
    refine Or.inl ⟨message, run_bind_of_error (run_throw w _) _, fun hcan => ?_⟩
    rw [alertRefusal?_eq_none_iff.2 ⟨hcan.1, hcan.2.1, hcan.2.2.1⟩] at hrefused
    cases hrefused
  | none =>
    obtain ⟨hname, hfinite, hpositive⟩ := alertRefusal?_eq_none_iff.1 hrefused
    dsimp only
    rw [run_bind_of_ok (run_get w)]
    by_cases htaken : (w.store.alertNamed? (Text.trim name)).isSome = true
    · rw [if_pos htaken]
      refine Or.inl ⟨_, run_bind_of_error (run_throw w _) _, fun hcan => ?_⟩
      obtain ⟨row, hrow, hsame⟩ := isSome_alertNamed?_iff.1 htaken
      exact hcan.2.2.2 row hrow hsame
    · have hfree : ∀ row ∈ w.store.alerts, row.name ≠ Text.trim name :=
        fun row hrow hsame => htaken (isSome_alertNamed?_iff.2 ⟨row, hrow, hsame⟩)
      rw [if_neg htaken, run_bind_of_ok (run_get w)]
      generalize hnew : Alert.mk none (Text.trim name) threshold _ true = alert
      have hthreshold : alert.threshold = threshold := hnew ▸ rfl
      have hsaved : w.store.saveAlert alert = .ok (w.store.withAlert alert, w.store.nextAlert) := by
        refine Store.saveAlert_of_positive _ ?_ ?_
        · rw [hthreshold]
          exact Binary64.not_isNaN_of_isFinite hfinite
        · rw [hthreshold]
          exact hpositive
      have hread := World.run_read w fun store => store.saveAlert alert
      rw [hsaved] at hread
      rw [run_bind_of_ok hread]
      subst hnew
      exact Or.inr ⟨_, _, ⟨hname, hfinite, hpositive, hfree⟩, rfl, rfl, rfl, rfl, rfl⟩

/-- To remove an alert removes all of its trimmed name, and tells whether there were any. -/
theorem run_deleteAlert (w : World) (name : String) :
    Action.run w (deleteAlert name) = (.ok (decide (∃ row ∈ w.store.alerts, row.name = Text.trim name)),
      { w with store := { w.store with alerts := w.store.alerts.filter fun row => row.name ≠ Text.trim name } }) := by
  have hcount : (0 < (w.store.alerts.filter fun row => row.name = Text.trim name).length) ↔
      ∃ row ∈ w.store.alerts, row.name = Text.trim name := by
    simp [List.length_pos_iff_exists_mem]
  rw [← decide_eq_decide.2 hcount]
  rfl

/-- What an operation can do to the stored alerts. -/
inductive AlertChange (before after : List (AlertRow Float)) : Prop where
  | kept (alerts : after = before)
  | added (row : AlertRow Float) (sound : row.IsSound) (new : ∀ old ∈ before, old.name ≠ row.name)
      (alerts : after = before ++ [row])
  | removed (stays : AlertRow Float → Bool) (alerts : after = before.filter stays)

/-- A change leaves sound alerts of different names. -/
theorem AlertChange.soundAlerts {before after : List (AlertRow Float)} (h : AlertChange before after)
    (hbefore : SoundAlerts before) : SoundAlerts after := by
  cases h with
  | kept halerts => exact halerts ▸ hbefore
  | added row hsound hnew halerts => exact halerts ▸ hbefore.append hsound hnew
  | removed stays halerts => exact halerts ▸ hbefore.filter stays

/-- An operation changes the stored alerts in one of these ways. -/
theorem Operation.alertChange (s : Service) (w : World) (o : Operation) :
    AlertChange w.store.alerts (o.after s w).store.alerts := by
  cases o with
  | fetch first last => exact .kept (alerts_fetch s first last w)
  | current => exact .kept (alerts_current s w)
  | summary selection => exact .kept (keeps_summary World.inner_alerts s selection w)
  | history count => exact .kept (keeps_history World.inner_alerts s count w)
  | forecast => exact .kept (keeps_forecast World.inner_alerts s w)
  | trend => exact .kept (congrArg (fun ran : _ × World => ran.2.store.alerts) (run_trend w))
  | report => exact .kept (keeps_report World.inner_alerts s w)
  | checkAlerts => exact .kept (keeps_checkAlerts World.inner_alerts s w)
  | setSetting key value => exact .kept rfl
  | createAlert name threshold =>
    have hafter : (Operation.createAlert name threshold).after s w = (Action.run w (s.createAlert name threshold)).2 := rfl
    rw [hafter]
    rcases createAlert_cases s w name threshold with ⟨e, hrun, _⟩ | ⟨alert, journal, hcan, _, hname, hthreshold, _, hrun⟩
    · rw [hrun]
      exact .kept rfl
    · rw [hrun]
      obtain ⟨hgiven, hfinite, hpositive, hfree⟩ := hcan
      refine .added ⟨w.store.nextAlert, alert.name, alert.threshold, alert.account, alert.enabled⟩ ?_ ?_ rfl
      · show alert.name ≠ "" ∧ Text.IsTrimmed alert.name ∧ alert.threshold.isFinite = true ∧ 0 < alert.threshold
        rw [hname, hthreshold]
        refine ⟨fun hempty => ?_, Text.isTrimmed_trim name, hfinite, hpositive⟩
        rw [Text.trim_eq_empty_iff.1 hempty] at hgiven
        cases hgiven
      · show ∀ old ∈ w.store.alerts, old.name ≠ alert.name
        rw [hname]
        exact hfree
  | deleteAlert name =>
    exact .removed _ (congrArg (fun ran : _ × World => ran.2.store.alerts) (run_deleteAlert w name))
  | direct call unsaved =>
    show AlertChange w.store.alerts (call.run w.store).2.alerts
    cases Store.outcome w.store call with
    | failed _ _ hrun | asked _ _ hrun | appended _ _ hrun | written _ _ _ hrun =>
      rw [hrun]
      exact .kept rfl
    | added alert hcall _ => exact absurd hcall (unsaved alert)
    | removed name _ hrun =>
      rw [hrun]
      exact .removed _ rfl

/-! ## What a run does -/

/-- A step leaves sound alerts of different names. -/
theorem Step.soundAlerts {w : World} (h : SoundAlerts w.store.alerts) (step : Step) :
    SoundAlerts (step.after w).store.alerts := by
  cases step with
  | operation s o => exact (o.alertChange s w).soundAlerts h
  | elsewhere clock environment keyStore network => exact h

/-- A run leaves sound alerts of different names. -/
theorem soundAlerts_reached {w : World} (h : SoundAlerts w.store.alerts) (steps : List Step) :
    SoundAlerts (reached w steps).store.alerts := by
  induction steps generalizing w with
  | nil => exact h
  | cons step later ih => exact ih (step.soundAlerts h)

/-- Whatever services have done from a store without alerts on, with any steps in between, but for alerts that are saved past
them:
1. The stored alerts have different names, none of them empty or with blanks around it, and finite thresholds above zero.
2. An alert is set up exactly if its name is not blank, its threshold is finite and above zero, and no stored alert has the
   trimmed name. It is stored under the trimmed name, behind the others, and nothing else in the store changes. An alert that
   is refused leaves the world as it was.
3. To remove an alert tells whether there is one of the trimmed name, removes this one and no other, and changes nothing else;
   to remove it once more tells that there is none. -/
theorem alert_names_unique {w : World} (hnone : w.store.alerts = []) (steps : List Step) :
    let now := reached w steps
    ((now.store.alerts.map AlertRow.name).Nodup ∧
      ∀ row ∈ now.store.alerts,
        row.name ≠ "" ∧ Text.IsTrimmed row.name ∧ row.threshold.isFinite = true ∧ 0 < row.threshold) ∧
    (∀ (s : Service) (name : String) (threshold : Float),
      match World.run now (s.createAlert name threshold) with
      | (.ok alert, after) =>
        (Text.isBlankText name = false ∧ threshold.isFinite = true ∧ 0 < threshold ∧
          ∀ row ∈ now.store.alerts, row.name ≠ Text.trim name) ∧
        alert.id = some (now.store.nextAlert : Int) ∧ alert.name = Text.trim name ∧ alert.threshold = threshold ∧
        alert.enabled = true ∧ after.store = now.store.withAlert alert
      | (.error _, after) =>
        ¬(Text.isBlankText name = false ∧ threshold.isFinite = true ∧ 0 < threshold ∧
          ∀ row ∈ now.store.alerts, row.name ≠ Text.trim name) ∧ after = now) ∧
    ∀ name : String, ∃ found after, World.run now (deleteAlert name) = (.ok found, after) ∧
      (found = true ↔ ∃ row ∈ now.store.alerts, row.name = Text.trim name) ∧
      (match found with
        | true => ∃ earlier row later, now.store.alerts = earlier ++ row :: later ∧ row.name = Text.trim name ∧
            after = { now with store := { now.store with alerts := earlier ++ later } }
        | false => after = now) ∧
      World.run after (deleteAlert name) = (.ok false, after) := by
  intro now
  have hsound : SoundAlerts now.store.alerts :=
    soundAlerts_reached (by rw [hnone]; exact ⟨List.nodup_nil, nofun⟩) steps
  clear_value now
  refine ⟨⟨hsound.distinct, hsound.sound⟩, fun s name threshold => ?_, fun name => ?_⟩
  · have hcases := createAlert_cases s now name threshold
    generalize hran : Action.run now (s.createAlert name threshold) = ran at hcases
    rw [show World.run now (s.createAlert name threshold) = ran from hran]
    rcases hcases with ⟨e, rfl, hcannot⟩ | ⟨alert, journal, hcan, hid, hname, hthreshold, henabled, rfl⟩
    · exact ⟨hcannot, rfl⟩
    · exact ⟨hcan, hid, hname, hthreshold, henabled, rfl⟩
  · refine ⟨_, _, run_deleteAlert now name, decide_eq_true_iff, ?_, ?_⟩
    · by_cases hfound : ∃ row ∈ now.store.alerts, row.name = Text.trim name
      · rw [decide_eq_true hfound]
        obtain ⟨earlier, row, later, halerts, hname, hleft⟩ := hsound.filter_name hfound
        exact ⟨earlier, row, later, halerts, hname, by rw [hleft]⟩
      · rw [decide_eq_false hfound]
        have hall : now.store.alerts.filter (fun row => row.name ≠ Text.trim name) = now.store.alerts :=
          List.filter_eq_self.2 fun row hrow => decide_eq_true fun hsame => hfound ⟨row, hrow, hsame⟩
        simp only [hall]
    · have hnone : ¬∃ row ∈ now.store.alerts.filter (fun row => row.name ≠ Text.trim name),
          row.name = Text.trim name := by
        rintro ⟨row, hrow, hsame⟩
        exact of_decide_eq_true (List.mem_filter.1 hrow).2 hsame
      refine (run_deleteAlert _ name).trans ?_
      simp only [decide_eq_false hnone, List.filter_filter, Bool.and_self]

/-- An alert is set up, and one that there is not is removed. -/
def budgetSteps : List Step :=
  [.operation ⟨.azure, Config.standard⟩ (.createAlert " budget" 5),
    .operation ⟨.aws, Config.standard⟩ (.deleteAlert "travel ")]

/-- Then the name of the alert is taken, with whatever blanks around it. -/
theorem budget_taken : (World.offline Store.empty Date.min).store.alerts = [] ∧
    (World.run (reached (World.offline Store.empty Date.min) budgetSteps)
      (createAlert ⟨.gcp, Config.standard⟩ "budget\t" 9)).2 =
        reached (World.offline Store.empty Date.min) budgetSteps := by
  have hname : "budget" ∈ (reached (World.offline Store.empty Date.min) budgetSteps).store.alerts.map AlertRow.name := by
    decide +kernel
  have hrules := alert_names_unique (w := World.offline Store.empty Date.min) rfl budgetSteps
  refine ⟨rfl, ?_⟩
  generalize reached (World.offline Store.empty Date.min) budgetSteps = now at hname hrules ⊢
  obtain ⟨_, hcreate, _⟩ := hrules
  have hagain := hcreate ⟨.gcp, Config.standard⟩ "budget\t" 9
  generalize World.run _ _ = ran at hagain ⊢
  obtain ⟨answer, after⟩ := ran
  cases answer with
  | error e => exact hagain.2
  | ok alert =>
    obtain ⟨row, hrow, hsame⟩ := List.mem_map.1 hname
    exact absurd (hsame.trans (by decide)) (hagain.1.2.2.2 row hrow)

end Service

end SpendLedger
