import SpendLedger.Command.Run
import SpendLedger.Proofs.Ledger.Readers
import SpendLedger.Proofs.Number.Exact

/-!
# The totals of a summary

Read over exact rationals, all totals of a range of days are one number: the total of its summary, the sum of the sums by
service, that of the sums by group, and the sum of the costs of its records; and the total of one service is its entry in
the summary. This holds whatever the rows are: without a group, of several currencies, with costs below zero.
-/

namespace SpendLedger

namespace Store

variable {s : Store Rat}

/-- Over exact rationals there is a sum for each name that occurs in a range. -/
theorem aggregate_rat (s : Store Rat) (dimension : Dimension) (window : Window) :
    ∃ sums, s.aggregate dimension window = .ok sums ∧
      sums.entries = (distinct ((s.walk window).map fun row => row.key dimension)).map fun key =>
        (key, (((s.walk window).filter fun row => row.key dimension = key).map CostRow.cost).sum) := by
  rcases aggregate_eq s dimension window with ⟨_, sums, hsums, hentries⟩ | ⟨⟨_, _, hnan⟩, _⟩
  · refine ⟨sums, hsums, hentries.trans (List.map_congr_left fun key _ => ?_)⟩
    exact congrArg (Prod.mk key) (Amount.compensatedSum_rat _)
  · cases hnan

/-- The sums by service, and those by group, add up to the costs of the rows of the range. -/
theorem sum_values {dimension : Dimension} {window : Window} {sums : Table Rat}
    (h : s.aggregate dimension window = .ok sums) :
    sums.values.sum = ((s.select ⟨window, none⟩).map CostRow.cost).sum := by
  obtain ⟨sums', hsums, hentries⟩ := aggregate_rat s dimension window
  cases h.symm.trans hsums
  have hvalues := sum_groups (fun row : CostRow Rat => row.key dimension) CostRow.cost
    ((pairwise_distinct ((s.walk window).map fun row => row.key dimension)).imp String.ne_of_lt)
    (fun row hrow => mem_distinct.2 (List.mem_map_of_mem hrow))
  rw [Table.values, hentries, List.map_map]
  exact hvalues.trans ((walk_perm s window).map CostRow.cost).sum_eq

/-- The sum of a service is that of the costs of its rows, and zero if it has none. -/
theorem get?_service {window : Window} {sums : Table Rat} (h : s.aggregate .service window = .ok sums) (name : String) :
    (sums.get? name).getD 0 = ((s.select ⟨window, some name⟩).map CostRow.cost).sum := by
  obtain ⟨sums', hsums, hentries⟩ := aggregate_rat s .service window
  cases h.symm.trans hsums
  have hrows : ((s.walk window).filter fun row => row.key .service = name).Perm (s.select ⟨window, some name⟩) :=
    ((walk_perm s window).filter _).trans (select_service_perm s window name).symm
  rw [← (hrows.map CostRow.cost).sum_eq]
  cases hget : sums.get? name with
  | some sum =>
    have hmem := Table.mem_entries_iff.2 hget
    rw [hentries, List.mem_map] at hmem
    obtain ⟨key, _, hpair⟩ := hmem
    obtain ⟨rfl, rfl⟩ := Prod.mk.inj hpair
    rfl
  | none =>
    have hnone : ((s.walk window).filter fun row => row.key .service = name) = [] := by
      rw [List.filter_eq_nil_iff]
      intro row hrow hname
      have hkey : name ∈ sums.keys := by
        rw [Table.keys, hentries, List.map_map, List.mem_map]
        exact ⟨name, mem_distinct.2 (List.mem_map.2 ⟨row, hrow, of_decide_eq_true hname⟩), rfl⟩
      obtain ⟨sum, hsum⟩ := Table.mem_keys_iff.1 hkey
      rw [hget] at hsum
      cases hsum
    rw [hnone]
    rfl

/-- The costs of the records that a query answers with are those of the rows that it selects. -/
theorem map_cost_of_query {selection : Selection} {records : List (CostRecord Rat)}
    (h : s.query selection = .ok records) : records.map CostRecord.cost = (s.select selection).map CostRow.cost := by
  have hcases := query_cases s selection
  rw [h] at hcases
  rw [show records = _ from hcases, List.map_map]
  rfl

/-- Over exact rationals every store has a summary of every range. Its total is the sum of the sums by service and that of
the sums by group. It is also the sum of the costs of the records of the range, whatever their service; and the total that is
told for one service is the sum under its name, zero if the name does not stand there. Such a query fails only if a row of
the store has no date that can be read. Which service a selection names makes no difference to the summary. -/
theorem summary_totals (s : Store Rat) (selection : Selection) (currency : String) :
    ∃ summary, s.summary selection currency = .ok summary ∧
      summary.total = summary.byService.values.sum ∧
      summary.total = summary.byGroup.values.sum ∧
      (match s.query ⟨selection.window, none⟩ with
        | .ok records => summary.total = (records.map CostRecord.cost).sum
        | .error _ => ∃ row ∈ s.rows, ∃ fault, Date.read row.dateText = .error fault) ∧
      (∀ name, match s.query ⟨selection.window, some name⟩ with
        | .ok records => Command.costTotal records = (summary.byService.get? name).getD 0
        | .error _ => ∃ row ∈ s.rows, ∃ fault, Date.read row.dateText = .error fault) ∧
      ∀ service, s.summary { selection with service } currency = .ok summary := by
  obtain ⟨byService, hservice, _⟩ := aggregate_rat s .service selection.window
  obtain ⟨byGroup, hgroup, _⟩ := aggregate_rat s .group selection.window
  have hsummary : ∀ service, s.summary { selection with service } currency = .ok
      { period := selection.window.label, total := Amount.sum byService.values, currency, byService, byGroup,
        forecast := none, monthly := none, trend := none } := by
    intro service
    unfold summary
    rw [hservice, hgroup]
    rfl
  have htotal : Amount.sum byService.values = ((s.select ⟨selection.window, none⟩).map CostRow.cost).sum :=
    (Amount.sum_rat _).trans (sum_values hservice)
  refine ⟨_, hsummary selection.service, Amount.sum_rat _, htotal.trans (sum_values hgroup).symm, ?_, fun name => ?_,
    hsummary⟩
  · have hcases := query_cases s ⟨selection.window, none⟩
    split
    next records hquery =>
      rw [map_cost_of_query hquery]
      exact htotal
    next hquery =>
      rw [hquery] at hcases
      exact hcases
  · have hcases := query_cases s ⟨selection.window, some name⟩
    split
    next records hquery =>
      rw [Command.costTotal, map_cost_of_query hquery, Amount.sum_rat]
      exact (get?_service hservice name).symm
    next hquery =>
      rw [hquery] at hcases
      exact hcases

end Store

end SpendLedger
