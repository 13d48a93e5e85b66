import SpendLedger.Proofs.Ledger.Order
import SpendLedger.Proofs.Table

/-!
# Sums of groups of rows

Rows are grouped by name or by month and currency, and the costs of each group are summed. Either all sums are numbers and
are listed with their groups, or one of them is none and there is no answer.
-/

namespace SpendLedger

variable {α : Type} [Amount α]

/-- The sum of the costs of records, as the store forms it. -/
def CostRecord.sum (records : List (CostRecord α)) : α :=
  Amount.compensatedSum (records.map CostRecord.cost)

namespace Store

/-- The sum of the costs of rows, as the store forms it. -/
def total (rows : List (CostRow α)) : α :=
  Amount.compensatedSum (rows.map CostRow.cost)

theorem sumOf_eq (activity : StoreActivity) (rows : List (CostRow α)) : sumOf activity rows =
    if Amount.isNaN (total rows) = true then .error (.persistence activity .sumUndefined) else .ok (total rows) :=
  rfl

/-- The sums of groups: an entry for each group if all sums are numbers, and otherwise a failure. -/
theorem mapM_sumOf {β γ : Type} (activity : StoreActivity) (keys : List β) (rowsOf : β → List (CostRow α))
    (entry : β → α → γ) :
    (keys.mapM fun key => do
      let total ← sumOf activity (rowsOf key)
      pure (entry key total)) =
      if ∀ key ∈ keys, Amount.isNaN (total (rowsOf key)) = false then
        .ok (keys.map fun key => entry key (total (rowsOf key)))
      else .error (.persistence activity .sumUndefined) := by
  induction keys with
  | nil => rfl
  | cons key keys ih =>
    rw [List.mapM_cons, ih, sumOf_eq]
    cases hkey : Amount.isNaN (total (rowsOf key)) with
    | true =>
      have hbad : ¬∀ k ∈ key :: keys, Amount.isNaN (total (rowsOf k)) = false :=
        fun hall => Bool.noConfusion (hkey.symm.trans (hall key List.mem_cons_self))
      rw [if_neg hbad]
      rfl
    | false =>
      by_cases hkeys : ∀ k ∈ keys, Amount.isNaN (total (rowsOf k)) = false
      · have hall : ∀ k ∈ key :: keys, Amount.isNaN (total (rowsOf k)) = false :=
          List.forall_mem_cons.2 ⟨hkey, hkeys⟩
        rw [if_pos hkeys, if_pos hall]
        rfl
      · rw [if_neg hkeys, if_neg fun hall => hkeys (List.forall_mem_cons.1 hall).2]
        rfl

/-- The sums of a window: an entry for each name that occurs in it if all sums are numbers, and otherwise a failure. -/
theorem aggregate_eq (s : Store α) (dimension : Dimension) (window : Window) :
    let keys := distinct ((s.walk window).map fun row => row.key dimension)
    let sumAt key := total ((s.walk window).filter fun row => row.key dimension = key)
    (∀ key ∈ keys, Amount.isNaN (sumAt key) = false) ∧
        (∃ sums, s.aggregate dimension window = .ok sums ∧ sums.entries = keys.map fun key => (key, sumAt key)) ∨
      (∃ key ∈ keys, Amount.isNaN (sumAt key) = true) ∧
        s.aggregate dimension window = .error (.persistence .readingAggregates .sumUndefined) := by
  intro keys sumAt
  have hentries := mapM_sumOf .readingAggregates keys
    (fun key => (s.walk window).filter fun row => row.key dimension = key) Prod.mk
  by_cases hall : ∀ key ∈ keys, Amount.isNaN (sumAt key) = false
  · rw [if_pos hall] at hentries
    refine Or.inl ⟨hall, _, congrArg (· >>= fun entries => pure (Table.ofList entries)) hentries, ?_⟩
    exact Table.entries_ofList (List.pairwise_map.2 (pairwise_distinct _))
  · rw [if_neg hall] at hentries
    refine Or.inr ⟨?_, congrArg (· >>= fun entries => pure (Table.ofList entries)) hentries⟩
    simpa using hall

end Store

end SpendLedger
