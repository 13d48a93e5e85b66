import SpendLedger.Proofs.Ledger.Alerts
import SpendLedger.Proofs.Ledger.Totals

/-!
# Spending more

Read over exact rationals, an evaluation of alerts goes against the sum of the costs of the month. A batch that is taken
raises this sum by the costs of its own records of the month, so that costs which are not below zero never silence an alert.
-/

namespace SpendLedger

/-- A larger total triggers what a smaller one triggers, in the same order. -/
theorem Evaluation.triggered_sublist {total later : Rat} (h : total ≤ later) (alerts : List (Alert Rat)) :
    (Evaluation.of total alerts).triggered.Sublist (Evaluation.of later alerts).triggered := by
  rw [triggered_of, triggered_of]
  refine (List.monotone_filter_right _ fun alert hreached => ?_).map Alert.name
  exact decide_eq_true ((of_decide_eq_true hreached).trans h)

/-- Whether the row of a record is found in a window: the text of its day decides. -/
def CostRecord.isFoundIn {α : Type} (window : Window) (r : CostRecord α) : Bool :=
  window.first.all (fun d => decide (d.toText ≤ r.date.toText)) &&
    window.last.all (fun d => decide (r.date.toText ≤ d.toText))

namespace Store

/-- Exact costs are kept as they are, so that the rows of a batch which are found in a window cost what its records cost. -/
theorem map_cost_numbered (window : Window) (first : Nat) (batch : List (CostRecord Rat)) :
    ((numbered first batch).filter (CostRow.isIn window)).map CostRow.cost =
      (batch.filter (CostRecord.isFoundIn window)).map CostRecord.cost := by
  induction batch generalizing first with
  | nil => rfl
  | cons r batch ih =>
    have hfound : (rowOf first r).isIn window = r.isFoundIn window := rfl
    have hcost : (rowOf first r).cost = r.cost := by
      show r.cost + Amount.zero = r.cost
      rw [Amount.zero_rat, add_zero]
    rw [numbered_cons, List.filter_cons, List.filter_cons, hfound]
    cases r.isFoundIn window with
    | true => rw [if_pos rfl, if_pos rfl, List.map_cons, List.map_cons, ih, hcost]
    | false => exact ih (first + 1)

/-- The costs that a window finds in a store with a batch are those from before and those of the batch. -/
theorem sum_within_withBatch (s : Store Rat) (batch : List (CostRecord Rat)) (window : Window) :
    (((s.withBatch batch).within window).map CostRow.cost).sum =
      ((s.within window).map CostRow.cost).sum +
        ((batch.filter (CostRecord.isFoundIn window)).map CostRecord.cost).sum := by
  have hwithin : (s.withBatch batch).within window =
      s.within window ++ (numbered s.nextRow batch).filter (CostRow.isIn window) := List.filter_append _ _
  rw [hwithin, List.map_append, List.sum_append, map_cost_numbered]

/-- Over exact rationals alerts can always be evaluated, and are evaluated against the sum of the costs from the first to the
last day of the month. -/
theorem checkAlerts_rat (s : Store Rat) (today : Date) (currency : String) :
    s.checkAlerts today currency = .ok (Evaluation.of
      ((s.within (.between today.wholeMonth.1 today.wholeMonth.2)).map CostRow.cost).sum s.listAlerts) := by
  generalize hwindow : Window.between today.wholeMonth.1 today.wholeMonth.2 = window
  obtain ⟨byService, hservice, _⟩ := aggregate_rat s .service window
  obtain ⟨byGroup, hgroup, _⟩ := aggregate_rat s .group window
  have htotal : Amount.sum byService.values = ((s.within window).map CostRow.cost).sum := by
    rw [Amount.sum_rat, sum_values hservice]
    exact ((select_perm_within s window).map CostRow.cost).sum_eq
  have hsummary : s.summary (.between today.wholeMonth.1 today.wholeMonth.2) currency = .ok
      { period := window.label, total := Amount.sum byService.values, currency, byService, byGroup,
        forecast := none, monthly := none, trend := none } := by
    unfold summary Selection.between
    rw [hwindow, hservice, hgroup]
    rfl
  rw [checkAlerts_eq, hsummary]
  show Except.ok (Evaluation.of (Amount.sum byService.values) s.listAlerts) = _
  rw [htotal]

/-- Whatever a store holds, and on every day, a batch that is taken raises the total that alerts are evaluated against by the
costs of its records in the month of the day, and by nothing else. If no cost of the batch is below zero, the total is not
lower than before, and every alert that was triggered still is, in the same order. -/
theorem checkAlerts_spending_more {s t : Store Rat} {batch : List (CostRecord Rat)} (htaken : s.insertBatch batch = .ok t)
    (hcosts : ∀ r ∈ batch, 0 ≤ r.cost) (today : Date) (currency : String) :
    ∃ before after : Evaluation Rat,
      s.checkAlerts today currency = .ok before ∧ t.checkAlerts today currency = .ok after ∧
      after.total = before.total + ((batch.filter
        (CostRecord.isFoundIn (.between today.wholeMonth.1 today.wholeMonth.2))).map CostRecord.cost).sum ∧
      before.total ≤ after.total ∧
      before.triggered.Sublist after.triggered := by
  obtain ⟨_, rfl⟩ := insertBatch_eq_ok_iff.1 htaken
  have hraised := sum_within_withBatch s batch (.between today.wholeMonth.1 today.wholeMonth.2)
  have hadded : 0 ≤ ((batch.filter
      (CostRecord.isFoundIn (.between today.wholeMonth.1 today.wholeMonth.2))).map CostRecord.cost).sum := by
    refine List.sum_nonneg fun cost hcost => ?_
    obtain ⟨r, hr, rfl⟩ := List.mem_map.1 hcost
    exact hcosts r (List.mem_filter.1 hr).1
  have hle := le_add_of_nonneg_right hadded (a := ((s.within
    (.between today.wholeMonth.1 today.wholeMonth.2)).map CostRow.cost).sum)
  rw [← hraised] at hle
  -- a batch leaves the alerts as they are, so that both evaluations go through the same list
  exact ⟨_, _, checkAlerts_rat s today currency, checkAlerts_rat (s.withBatch batch) today currency, hraised, hle,
    Evaluation.triggered_sublist hle s.listAlerts⟩

/-- A store with a cost of four on the first day of a February, an alert at four and one at ten. -/
def fourSpent : Store Rat :=
  { rows := [⟨1, "account", none, "Storage", 4, "USD", "2028-02-01"⟩]
    nextRow := 2
    alerts := [⟨1, "ten", 10, "account", true⟩, ⟨2, "four", 4, "account", true⟩]
    nextAlert := 3
    settings := Table.empty }

/-- Three more on the last day of this February, and eight on the day after it. -/
def aboutMarch : List (CostRecord Rat) :=
  [⟨none, "account", none, "Compute", 3, "EUR", ⟨2028, 2, 29, by decide⟩⟩,
    ⟨none, "account", none, "Storage", 8, "USD", ⟨2028, 3, 1, by decide⟩⟩]

/-- In this February four was spent, so that the alert at four is triggered. -/
theorem four_triggered {evaluation : Evaluation Rat}
    (h : fourSpent.checkAlerts ⟨2028, 2, 10, by decide⟩ "USD" = .ok evaluation) : "four" ∈ evaluation.triggered := by
  rw [← Except.ok.inj ((checkAlerts_rat fourSpent ⟨2028, 2, 10, by decide⟩ "USD").symm.trans h), Evaluation.triggered_of]
  refine List.mem_map.2 ⟨⟨some 2, "four", 4, "account", true⟩, ?_, rfl⟩
  rw [List.filter_filter, List.mem_filter, (listAlerts_perm fourSpent).mem_iff]
  exact ⟨by decide, by decide +kernel⟩

/-- Three more are spent in February, and the alert at four stays triggered. -/
theorem checkAlerts_threeMore : ∃ t before after,
    fourSpent.insertBatch aboutMarch = .ok t ∧ (∀ r ∈ aboutMarch, 0 ≤ r.cost) ∧
      fourSpent.checkAlerts ⟨2028, 2, 10, by decide⟩ "USD" = .ok before ∧
      t.checkAlerts ⟨2028, 2, 10, by decide⟩ "USD" = .ok after ∧
      after.total = before.total + 3 ∧ "four" ∈ before.triggered ∧ "four" ∈ after.triggered := by
  have htaken : fourSpent.insertBatch aboutMarch = .ok (fourSpent.withBatch aboutMarch) :=
    insertBatch_eq_ok_iff.2 ⟨by decide, rfl⟩
  have hcosts : ∀ r ∈ aboutMarch, 0 ≤ r.cost := by decide
  obtain ⟨before, after, hbefore, hafter, hraised, _, htriggered⟩ :=
    checkAlerts_spending_more htaken hcosts ⟨2028, 2, 10, by decide⟩ "USD"
  refine ⟨_, before, after, htaken, hcosts, hbefore, hafter, hraised.trans ?_, four_triggered hbefore,
    htriggered.subset (four_triggered hbefore)⟩
  exact congrArg (before.total + ·) (by decide +kernel)

end Store

end SpendLedger
