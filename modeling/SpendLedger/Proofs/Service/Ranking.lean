import SpendLedger.Proofs.Number.TotalOrder
import SpendLedger.Proofs.Service.Report
import SpendLedger.Proofs.Table
import SpendLedger.Proofs.Text.Bytes

/-!
# The ranking of a report

A report ranks the services of the summary of all days, each once. They are sorted by the ranks of their costs, the highest first;
sorting leaves services of one cost as the summary has them, by name.
-/

namespace SpendLedger

namespace ServiceCost

theorem atLeast_trans (a b c : ServiceCost Float) (hab : Amount.atLeast a.cost b.cost = true)
    (hbc : Amount.atLeast b.cost c.cost = true) : Amount.atLeast a.cost c.cost = true :=
  decide_eq_true (Int.le_trans (of_decide_eq_true hbc) (of_decide_eq_true hab))

theorem atLeast_total (a b : ServiceCost Float) :
    (Amount.atLeast a.cost b.cost || Amount.atLeast b.cost a.cost) = true := by
  rw [Bool.or_eq_true]
  exact (Int.le_total _ _).imp decide_eq_true decide_eq_true

/-- How a service stands before another in a ranking: it costs more, where the negative zero is less than the positive one, or it
costs the same, digit for digit, and its name is first in bytes. -/
def Precedes (a b : ServiceCost Float) : Prop :=
  (b.cost < a.cost ∨ a.cost = Float.ofNat 0 ∧ b.cost = -Float.ofNat 0) ∨
    a.cost = b.cost ∧ Text.utf8 a.service < Text.utf8 b.service

end ServiceCost

namespace Service

variable {summary : Summary Float}

/-- A ranked service has the cost of the summary. -/
theorem mem_ranking_iff {service : String} {cost : Float} :
    ⟨service, cost⟩ ∈ ranking summary ↔ summary.byService.get? service = some cost := by
  unfold ranking
  rw [List.mem_mergeSort, List.mem_map, ← Table.mem_entries_iff]
  constructor
  · rintro ⟨e, he, heq⟩
    cases heq
    exact he
  · exact fun he => ⟨_, he, rfl⟩

theorem nodup_ranking : ((ranking summary).map ServiceCost.service).Nodup := by
  have hperm := (ranking_perm summary).map Prod.fst
  rw [List.map_map] at hperm
  exact hperm.nodup_iff.2 summary.byService.nodup_keys

/-- Costs are ranked in the total order of doubles, the highest first. -/
theorem pairwise_rank_ranking :
    (ranking summary).Pairwise fun a b => Binary64.rank b.cost ≤ Binary64.rank a.cost :=
  (List.pairwise_mergeSort ServiceCost.atLeast_trans ServiceCost.atLeast_total _).imp of_decide_eq_true

/-- Services of one cost are ranked by name. -/
theorem pairwise_name_ranking :
    (ranking summary).Pairwise fun a b => a.cost = b.cost → a.service < b.service := by
  generalize hlisted : (summary.byService.entries.map fun e => (⟨e.1, e.2⟩ : ServiceCost Float)) = listed
  have hnames : listed.Pairwise fun a b => a.service < b.service := by
    rw [← hlisted]
    exact List.pairwise_map.2 summary.byService.increasing
  refine List.pairwise_iff_forall_sublist.2 fun {a b} hpair hcost => ?_
  -- the two stand among the services of their cost, which are in the order of the summary
  have htied : (ranking summary).filter (fun c => c.cost = a.cost) = listed.filter fun c => c.cost = a.cost := by
    unfold ranking
    rw [hlisted]
    refine filter_mergeSort ServiceCost.atLeast_trans ServiceCost.atLeast_total ?_
    refine List.pairwise_of_forall_mem_list fun x hx y hy => decide_eq_true ?_
    rw [of_decide_eq_true (List.mem_filter.1 hx).2, of_decide_eq_true (List.mem_filter.1 hy).2]
  have hkept := hpair.filter fun c => c.cost = a.cost
  rw [htied, List.filter_cons_of_pos (by simp), List.filter_cons_of_pos (by simp [hcost])] at hkept
  exact List.pairwise_iff_forall_sublist.1 hnames (hkept.trans List.filter_sublist)

/-- Of costs that are numbers, each is followed by lower ones and by the same with a later name. -/
theorem pairwise_precedes_ranking (hnumbers : ∀ c ∈ ranking summary, c.cost.isNaN = false) :
    (ranking summary).Pairwise ServiceCost.Precedes := by
  refine (pairwise_rank_ranking.and pairwise_name_ranking).imp_of_mem fun {a b} ha hb ⟨hrank, hname⟩ => ?_
  rcases Binary64.rank_le_cases (hnumbers a ha) (hnumbers b hb) hrank with hlt | hsame | hzeros
  · exact Or.inl (Or.inl hlt)
  · exact Or.inr ⟨hsame, Text.utf8_lt_iff.2 (hname hsame)⟩
  · exact Or.inl (Or.inr hzeros)

/-- The costs of a summary are numbers. -/
theorem not_isNaN_of_summary {store : Store Float} {selection : Selection} {currency : String}
    (h : store.summary selection currency = .ok summary) : ∀ c ∈ ranking summary, c.cost.isNaN = false := by
  have hsummary := store.summary_walk selection currency
  have hsums := store.aggregate_walk .service selection.window
  rw [h] at hsummary
  cases hbyService : store.aggregate .service selection.window with
  | error e =>
    unfold Store.summary at h
    rw [hbyService] at h
    cases h
  | ok byService =>
    rw [hbyService] at hsums
    intro c hc
    have hmem : (c.service, c.cost) ∈ summary.byService.entries := Table.mem_entries_iff.2 (mem_ranking_iff.1 hc)
    rw [hsummary.2.2.1] at hmem
    exact hsums.2 (c.service, c.cost) hmem

/-- The ranking of a report, whatever is stored.
1. Each service of the summary of all days is ranked once, with its cost.
2. The costs do not increase in the total order of doubles.
3. What this means for two services of which one is ranked before the other: it costs more, where the infinities stand outside of
   all finite costs and the negative zero is less than the positive one, or both cost the same and the names increase in bytes.
There is no ranking exactly if the months or the summary cannot be had. -/
theorem report_ranking (s : Service) (w : World) :
    match (World.run w s.report).1 with
    | .ok report => ∃ summary, (World.run w (s.summary .all)).1 = .ok summary ∧
        ((report.ranking.map ServiceCost.service).Nodup ∧
          ∀ service cost, ⟨service, cost⟩ ∈ report.ranking ↔ summary.byService.get? service = some cost) ∧
        (report.ranking.Pairwise fun a b => Binary64.rank b.cost ≤ Binary64.rank a.cost) ∧
        report.ranking.Pairwise ServiceCost.Precedes
    | .error e => (World.run w (months reportMonths)).1 = .error e ∨ (World.run w (s.summary .all)).1 = .error e := by
  have hrun : (World.run w s.report).1 = _ := run_report s w
  have hmonths : (World.run w (months reportMonths)).1 = w.store.monthTotals w.today reportMonths :=
    congrArg Prod.fst (run_months w reportMonths)
  have hsummary : (World.run w (s.summary .all)).1 = w.store.summary .all s.config.currency := by
    obtain ⟨journal, hanswer⟩ := run_summary s w .all
    exact congrArg Prod.fst hanswer
  rw [hrun, hmonths, hsummary]
  cases hmonthly : w.store.monthTotals w.today reportMonths with
  | error e => exact Or.inl rfl
  | ok monthly =>
    cases hanswer : w.store.summary .all s.config.currency with
    | error e => exact Or.inr rfl
    | ok summary =>
      exact ⟨summary, rfl, ⟨nodup_ranking, fun _ _ => mem_ranking_iff⟩, pairwise_rank_ranking,
        pairwise_precedes_ranking (not_isNaN_of_summary hanswer)⟩

end Service

end SpendLedger
