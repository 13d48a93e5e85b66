import SpendLedger.Ledger.Evaluation
import SpendLedger.Proofs.Ledger.History
import SpendLedger.Proofs.Ledger.Order
import SpendLedger.Proofs.Text.Bytes

/-!
# Alerts in order

Alerts get increasing numbers and keep their places, whatever else a store is used for. They are listed by name, and of one
name the oldest first. An evaluation goes through the enabled ones in the order in which they are given.
-/

namespace SpendLedger

variable {α : Type}

/-- Alerts are listed in the order of the bytes of their names, those of one name by number. -/
def Alert.Before (a b : Alert α) : Prop :=
  Text.utf8 a.name < Text.utf8 b.name ∨ a.name = b.name ∧ a.id < b.id

namespace Store

variable {s : Store α}

/-- A store whose alerts stand in the order of their numbers, which have all been given out. -/
structure AlertsNumbered (s : Store α) : Prop where
  increasing : s.alerts.Pairwise fun a b => a.id < b.id
  given : ∀ row ∈ s.alerts, row.id < s.nextAlert

/-- The order of alerts as it is said of their names and numbers. -/
theorem alertPrecedes_iff (a b : AlertRow α) :
    alertPrecedes a b = true ↔ a.name < b.name ∨ a.name = b.name ∧ a.id ≤ b.id := by
  simp [alertPrecedes]

theorem alertPrecedes_trans (a b c : AlertRow α) (hab : alertPrecedes a b = true) (hbc : alertPrecedes b c = true) :
    alertPrecedes a c = true :=
  trans_of_two_keys AlertRow.name (· < ·) alertPrecedes_iff (fun _ _ _ => String.lt_trans) (fun _ _ _ => Nat.le_trans)
    a b c hab hbc

theorem alertPrecedes_total (a b : AlertRow α) : (alertPrecedes a b || alertPrecedes b a) = true :=
  total_of_two_keys AlertRow.name (· < ·) alertPrecedes_iff Text.trichotomy (fun a b => Nat.le_total a.id b.id) a b

theorem listAlerts_perm (s : Store α) : s.listAlerts.Perm (s.alerts.map AlertRow.alert) :=
  (List.mergeSort_perm _ _).map AlertRow.alert

/-- Alerts with different numbers are listed in order. -/
theorem AlertsNumbered.pairwise_listAlerts (hs : s.AlertsNumbered) : s.listAlerts.Pairwise Alert.Before := by
  have hsorted := List.pairwise_mergeSort alertPrecedes_trans alertPrecedes_total s.alerts
  have hids : (s.alerts.mergeSort alertPrecedes).Pairwise fun a b => a.id ≠ b.id :=
    ((List.mergeSort_perm _ _).pairwise_iff Ne.symm).2 (hs.increasing.imp Nat.ne_of_lt)
  refine List.pairwise_map.2 ((hsorted.and hids).imp ?_)
  intro a b ⟨hab, hid⟩
  rcases (alertPrecedes_iff a b).1 hab with hname | ⟨hname, hle⟩
  · exact Or.inl (Text.utf8_lt_iff.2 hname)
  · refine Or.inr ⟨hname, ?_⟩
    show (a.id : Int) < (b.id : Int)
    omega

variable [Amount α]

/-- A call leaves alerts in the order of their numbers. -/
theorem AlertsNumbered.run {s : Store α} (hs : s.AlertsNumbered) (c : Call α) : (c.run s).2.AlertsNumbered := by
  cases outcome s c with
  | added alert _ hrun =>
    rw [hrun]
    refine ⟨List.pairwise_append.2 ⟨hs.increasing, List.pairwise_singleton _ _, ?_⟩, ?_⟩
    · intro old hold new hnew
      rw [List.mem_singleton.1 hnew]
      exact hs.given old hold
    · intro row hrow
      rcases List.mem_append.1 hrow with hold | hnew
      · exact Nat.lt_succ_of_lt (hs.given row hold)
      · rw [List.mem_singleton.1 hnew]
        exact Nat.lt_succ_self s.nextAlert
  | removed name _ hrun =>
    rw [hrun]
    exact ⟨hs.increasing.filter _, fun row hrow => hs.given row (List.mem_filter.1 hrow).1⟩
  | failed _ _ hrun | asked _ _ hrun | appended _ _ hrun | written _ _ _ hrun =>
    rw [hrun]
    exact ⟨hs.increasing, hs.given⟩

/-- A history leaves alerts in the order of their numbers. -/
theorem AlertsNumbered.after {s : Store α} (hs : s.AlertsNumbered) (calls : List (Call α)) :
    (s.after calls).AlertsNumbered := by
  induction calls generalizing s with
  | nil => exact hs
  | cons c later ih => exact ih (hs.run c)

/-- A history that began with nothing leaves alerts in the order of their numbers. -/
theorem alertsNumbered_ofHistory (calls : List (Call α)) : (ofHistory calls).AlertsNumbered :=
  AlertsNumbered.after ⟨List.Pairwise.nil, fun _ hrow => absurd hrow List.not_mem_nil⟩ calls

end Store

variable [Amount α]

/-- The names of the triggered alerts are those of the enabled ones whose threshold is reached, in the same order. -/
theorem Evaluation.triggered_of (total : α) (alerts : List (Alert α)) : (Evaluation.of total alerts).triggered =
    ((alerts.filter Alert.enabled).filter fun alert => Amount.le alert.threshold total).map Alert.name := by
  show (((alerts.filter Alert.enabled).map (Alert.status total)).filter AlertStatus.triggered).map AlertStatus.name = _
  rw [List.filter_map, List.map_map]
  rfl

/-- Alerts are evaluated against the total of the summary of the month. -/
theorem Store.checkAlerts_eq (s : Store α) (today : Date) (currency : String) : s.checkAlerts today currency =
    (s.summary (.between today.wholeMonth.1 today.wholeMonth.2) currency).map fun summary =>
      Evaluation.of summary.total s.listAlerts := by
  unfold checkAlerts
  cases today.wholeMonth with
  | mk first last =>
    dsimp only
    cases s.summary (.between first last) currency with
    | error e => rfl
    | ok summary => rfl

end SpendLedger
