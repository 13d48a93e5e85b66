import SpendLedger.Proofs.Ledger.Alerts
import SpendLedger.Proofs.Number.Zero

/-!
# The table of alerts

The store takes alerts of one name more than once. The alerts that a history leaves are those that it saved and did not
remove later, each under the number that it was given. All of them are listed by name; the alert of a name is the first one
listed, and to remove a name removes what is listed under it and moves nothing else.
-/

namespace SpendLedger

variable {α : Type}

namespace Alert

/-- Of two alerts only one is listed before the other. -/
theorem Before.asymm {a b : Alert α} (h : a.Before b) : ¬b.Before a := by
  have hids : a.id < b.id → ¬b.id < a.id := by
    intro hab hba
    cases hi : a.id with
    | none => exact Option.not_lt_none (hi ▸ hba)
    | some i =>
      cases hj : b.id with
      | none => exact Option.not_lt_none (hj ▸ hab)
      | some j =>
        rw [hi, hj] at hab hba
        exact Int.lt_asymm hab hba
  rcases h with hlt | ⟨hname, hid⟩
  · rintro (hlt' | ⟨hname', _⟩)
    · exact List.lt_asymm hlt hlt'
    · rw [hname'] at hlt
      exact List.lt_irrefl _ hlt
  · rintro (hlt' | ⟨_, hid'⟩)
    · rw [hname] at hlt'
      exact List.lt_irrefl _ hlt'
    · exact hids hid hid'

/-- The same alerts can be listed in order in one way only. -/
theorem eq_of_before {l l' : List (Alert α)} (hl : l.Pairwise Before) (hl' : l'.Pairwise Before) (h : l.Perm l') :
    l = l' :=
  h.eq_of_pairwise (fun _ _ _ _ hab hba => absurd hba hab.asymm) hl hl'

end Alert

namespace Store

variable {s : Store α}

/-! ## Readers -/

/-- The alert of a name is the first one that is listed under it. -/
theorem AlertsNumbered.alertNamed?_eq (hs : s.AlertsNumbered) (name : String) :
    s.alertNamed? name = s.listAlerts.find? fun entry => entry.name = name := by
  have hordered : (s.alerts.filter fun row => row.name = name).Pairwise fun a b => alertPrecedes a b = true := by
    refine List.Pairwise.imp_of_mem ?_ (hs.increasing.filter _)
    intro a b ha hb hid
    have hsame : a.name = b.name :=
      (of_decide_eq_true (List.mem_filter.1 ha).2).trans (of_decide_eq_true (List.mem_filter.1 hb).2).symm
    exact (alertPrecedes_iff a b).2 (Or.inr ⟨hsame, Nat.le_of_lt hid⟩)
  have hkept := filter_mergeSort alertPrecedes_trans alertPrecedes_total hordered
  unfold alertNamed? listAlerts
  rw [List.find?_map, ← List.head?_filter, ← List.head?_filter, ← hkept]
  rfl

/-- As many alerts go with a name as are listed under it. -/
theorem deleteAlert_snd (s : Store α) (name : String) :
    (s.deleteAlert name).2 = s.listAlerts.countP fun entry => entry.name = name := by
  rw [(listAlerts_perm s).countP_eq, List.countP_map, List.countP_eq_length_filter]
  rfl

variable [Amount α]

/-- Without the alerts of a name, all others are listed as before. -/
theorem AlertsNumbered.listAlerts_deleteAlert (hs : s.AlertsNumbered) (name : String) :
    (s.deleteAlert name).1.listAlerts = s.listAlerts.filter fun entry => entry.name ≠ name := by
  have hleft : (s.deleteAlert name).1.AlertsNumbered := hs.run (.deleteAlert name)
  refine Alert.eq_of_before hleft.pairwise_listAlerts (hs.pairwise_listAlerts.filter _) ?_
  have hkept : (s.alerts.filter fun row => row.name ≠ name).map AlertRow.alert =
      (s.alerts.map AlertRow.alert).filter fun entry => entry.name ≠ name := by
    rw [List.filter_map]
    rfl
  have hrows : (s.deleteAlert name).1.listAlerts.Perm
      ((s.alerts.map AlertRow.alert).filter fun entry => entry.name ≠ name) := hkept ▸ listAlerts_perm _
  exact hrows.trans ((listAlerts_perm s).filter _).symm

/-- An alert is saved exactly if its threshold is a number above zero; it is appended under the next number. -/
theorem saveAlert_eq_ok_iff {t : Store α} {alert : Alert α} {id : Nat} : s.saveAlert alert = .ok (t, id) ↔
    (Amount.isNaN alert.threshold = false ∧ Amount.lt Amount.zero alert.threshold = true) ∧
      t = s.withAlert alert ∧ id = s.nextAlert := by
  constructor
  · intro h
    refine ⟨?_, saveAlert_eq_ok h⟩
    unfold saveAlert at h
    split at h
    next => cases h
    next hnumber =>
      split at h
      next hpositive => exact ⟨Bool.eq_false_iff.2 hnumber, hpositive⟩
      next => cases h
  · rintro ⟨⟨hnumber, hpositive⟩, rfl, rfl⟩
    exact saveAlert_of_positive s hnumber hpositive

/-! ## What a history saves -/

/-- The alert that a call saves, under the number that it answers. -/
def Call.saved? (s : Store α) (c : Call α) : Option (Alert α) :=
  match c, (c.run s).1 with
  | .saveAlert alert, .ok (.number id) => some { alert with id := some id }
  | _, _ => none

/-- Whether a call removes the alerts of a name. -/
def Call.removes (name : String) : Call α → Bool
  | .deleteAlert gone => name = gone
  | .insertBatch _ | .saveAlert _ | .setSetting _ _ | .ask _ => false

/-- The alerts that a history saves, in the order in which it saves them. -/
def saved : Store α → List (Call α) → List (Alert α)
  | _, [] => []
  | s, c :: later => (c.saved? s).toList ++ saved (c.run s).2 later

/-- The alerts that a history saves and does not remove later, in the order in which it saves them. -/
def standing : Store α → List (Call α) → List (Alert α)
  | _, [] => []
  | s, c :: later =>
    ((c.saved? s).filter fun alert => !later.any (Call.removes alert.name)).toList ++ standing (c.run s).2 later

/-! ## What one call does -/

/-- A call that neither saves nor removes alerts leaves them as they are. -/
theorem alerts_run_of_part {s : Store α} {c : Call α} (h : c.part? ≠ some .alerts) : (c.run s).2.alerts = s.alerts := by
  cases outcome s c with
  | added alert hcall _ => exact absurd (congrArg Call.part? hcall) h
  | removed name hcall _ => exact absurd (congrArg Call.part? hcall) h
  | failed _ _ hrun | asked _ _ hrun => rw [hrun]
  | appended _ _ hrun | written _ _ _ hrun =>
    rw [hrun]
    rfl

/-- All that a call does to alerts: it saves one under the next number and keeps all others, or it saves none and keeps those
that it does not remove. -/
theorem alerts_cases (s : Store α) (c : Call α) :
    (∃ alert, c = .saveAlert alert ∧ c.saved? s = some { alert with id := some (s.nextAlert : Int) } ∧
      (c.run s).2 = s.withAlert alert) ∨
    (c.saved? s = none ∧ (c.run s).2.alerts = s.alerts.filter fun row => !c.removes row.name) := by
  cases c with
  | saveAlert alert =>
    cases h : s.saveAlert alert with
    | error e => exact Or.inr ⟨by simp [Call.saved?, Call.run, h], by simp [Call.run, Call.removes, h]⟩
    | ok taken =>
      obtain ⟨t, id⟩ := taken
      obtain ⟨rfl, rfl⟩ := saveAlert_eq_ok h
      exact Or.inl ⟨alert, rfl, by simp [Call.saved?, Call.run, h], by simp [Call.run, h]⟩
  | deleteAlert name => exact Or.inr ⟨rfl, List.filter_congr fun row _ => decide_not⟩
  | insertBatch _ | setSetting _ _ | ask _ =>
    refine Or.inr ⟨rfl, ?_⟩
    rw [alerts_run_of_part (by simp [Call.part?])]
    simp [Call.removes]

/-- The alerts after a call are those before it that it does not remove, and the one that it saves. -/
theorem alerts_run (s : Store α) (c : Call α) : (c.run s).2.alerts.map AlertRow.alert =
    (s.alerts.map AlertRow.alert).filter (fun alert => !c.removes alert.name) ++ (c.saved? s).toList := by
  rcases alerts_cases s c with ⟨alert, rfl, hsaved, hrun⟩ | ⟨hsaved, halerts⟩
  · rw [hsaved, hrun]
    simp [withAlert, Call.removes, AlertRow.alert]
  · rw [hsaved, halerts, List.filter_map, Option.toList_none, List.append_nil]
    rfl

/-- What a call saves gets the next number, and the number after it is the next one then. -/
theorem id_of_saved? {c : Call α} {new : Alert α} (h : c.saved? s = some new) :
    new.id = some (s.nextAlert : Int) ∧ (c.run s).2.nextAlert = s.nextAlert + 1 := by
  rcases alerts_cases s c with ⟨alert, _, hsaved, hrun⟩ | ⟨hsaved, _⟩
  · rw [hsaved] at h
    cases h
    rw [hrun]
    exact ⟨rfl, rfl⟩
  · rw [hsaved] at h
    cases h

/-! ## What a history does -/

/-- The alerts after a history are those before it that it does not remove, and those that it saves and does not remove
later. -/
theorem alerts_after (s : Store α) (calls : List (Call α)) : (s.after calls).alerts.map AlertRow.alert =
    (s.alerts.map AlertRow.alert).filter (fun alert => !calls.any (Call.removes alert.name)) ++ standing s calls := by
  induction calls generalizing s with
  | nil => simp [after, standing]
  | cons c later ih =>
    -- what stays through the call and through the calls after it, and of what the call saves only what stays through these
    rw [after_cons, ih, alerts_run, List.filter_append, List.filter_filter, List.append_assoc, standing,
      Option.toList_filter]
    simp only [List.any_cons, Bool.not_or, Bool.and_comm]

/-- The alerts of a history are those that it saved and did not remove later. -/
theorem listAlerts_ofHistory (calls : List (Call α)) : (ofHistory calls).listAlerts.Perm (standing empty calls) := by
  have hleft := alerts_after empty calls
  exact (listAlerts_perm _).trans (.of_eq hleft)

example : standing (empty : Store Float)
    [.saveAlert ⟨none, "limit", 2, "account", true⟩, .saveAlert ⟨none, "alarm", 1, "account", true⟩,
      .deleteAlert "alarm", .saveAlert ⟨none, "limit", 0, "account", true⟩,
      .saveAlert ⟨none, "limit", 1, "account", false⟩] =
    [⟨some 1, "limit", 2, "account", true⟩, ⟨some 3, "limit", 1, "account", false⟩] := by
  decide

/-- The next number for an alert does not become smaller. -/
theorem nextAlert_le_after (s : Store α) (calls : List (Call α)) : s.nextAlert ≤ (s.after calls).nextAlert := by
  obtain ⟨n, _, hnext⟩ := along_eq_range' alertNumbers_eq s calls
  omega

/-- Whatever a history saves has a number below the next one. -/
theorem id_lt_of_mem_saved {calls : List (Call α)} {old : Alert α} (h : old ∈ saved s calls) :
    old.id < some ((s.after calls).nextAlert : Int) := by
  induction calls generalizing s with
  | nil => cases h
  | cons c later ih =>
    rcases List.mem_append.1 h with hnow | hlater
    · obtain ⟨hid, hnext⟩ := id_of_saved? (Option.mem_toList.1 hnow)
      have hle := nextAlert_le_after (c.run s).2 later
      rw [hid, Option.some_lt_some, after_cons]
      omega
    · exact ih hlater

/-- Whatever a store that was empty at first has been used for, with alerts of one name as often as one likes:
1. The alerts listed are those that were saved and not removed later, each once and with all that it was saved with, under the
   number that was answered. They stand in the order of the bytes of their names, those of one name by number.
2. The alert of a name is the first one listed under it, and there is none exactly if none is listed.
3. To remove a name answers how many are listed under it. Then the others are listed, in the order in which they were.
4. An alert is saved exactly if its threshold is above zero, which what is no number is not. Its number is larger than those of
   all alerts that were ever saved. -/
theorem alert_readers_agree (calls : List (Call Float)) :
    let now := ofHistory calls
    (now.listAlerts.Perm (standing empty calls) ∧ now.listAlerts.Pairwise Alert.Before) ∧
    (∀ name : String,
      now.alertNamed? name = now.listAlerts.find? (fun entry => entry.name = name) ∧
      (now.alertNamed? name = none ↔ ∀ entry ∈ now.listAlerts, entry.name ≠ name)) ∧
    (∀ name : String,
      (now.deleteAlert name).2 = now.listAlerts.countP (fun entry => entry.name = name) ∧
      (now.deleteAlert name).1.listAlerts = now.listAlerts.filter fun entry => entry.name ≠ name) ∧
    ∀ alert : Alert Float,
      match now.saveAlert alert with
      | .ok (_, id) =>
        0 < alert.threshold ∧ alert.threshold.isNaN = false ∧ ∀ old ∈ saved empty calls, old.id < some (id : Int)
      | .error _ => ¬0 < alert.threshold := by
  intro now
  have hs : now.AlertsNumbered := alertsNumbered_ofHistory calls
  refine ⟨⟨listAlerts_ofHistory calls, hs.pairwise_listAlerts⟩, fun name => ⟨hs.alertNamed?_eq name, ?_⟩,
    fun name => ⟨deleteAlert_snd now name, hs.listAlerts_deleteAlert name⟩, fun alert => ?_⟩
  · rw [hs.alertNamed?_eq name, List.find?_eq_none]
    simp
  · cases h : now.saveAlert alert with
    | ok taken =>
      obtain ⟨t, id⟩ := taken
      obtain ⟨⟨hnumber, hpositive⟩, _, rfl⟩ := saveAlert_eq_ok_iff.1 h
      exact ⟨hpositive, hnumber, fun old hold => id_lt_of_mem_saved hold⟩
    | error e =>
      intro hpositive
      rw [saveAlert_of_positive now (Binary64.not_isNaN_of_pos hpositive) hpositive] at h
      cases h

end Store

end SpendLedger
