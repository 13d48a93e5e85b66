import Mathlib
import SpendLedger.Amount

/-!
# Sums of exact numbers

Read over exact rationals, every sum of the ledger is the sum of its summands: the correction of a running sum has nothing
to correct, and neither the order nor the grouping of the summands matters.
-/

namespace SpendLedger

namespace Amount

theorem zero_rat : (zero : Rat) = 0 :=
  Nat.cast_zero

theorem sum_rat (xs : List Rat) : sum xs = xs.sum :=
  List.sum_eq_foldl.symm

/-- One more exact summand is added in full, and nothing is lost. -/
theorem add_rat (acc : Compensated Rat) (x : Rat) : acc.add x = ⟨acc.sum + x, acc.lost⟩ := by
  have hcut : (if lt (magnitude x) (magnitude acc.sum) then (acc.sum - (acc.sum + x)) + x
      else (x - (acc.sum + x)) + acc.sum) = 0 := by
    split
    · ring
    · ring
  unfold Compensated.add
  rw [Compensated.mk.injEq]
  refine ⟨rfl, ?_⟩
  rw [hcut, add_zero]

theorem foldl_add_rat (acc : Compensated Rat) (xs : List Rat) :
    xs.foldl Compensated.add acc = ⟨acc.sum + xs.sum, acc.lost⟩ := by
  induction xs generalizing acc with
  | nil => rw [List.foldl_nil, List.sum_nil, add_zero]
  | cons x xs ih => rw [List.foldl_cons, ih, add_rat, List.sum_cons, add_assoc]

/-- The sum with its correction is the sum. -/
theorem compensatedSum_rat (xs : List Rat) : compensatedSum xs = xs.sum := by
  unfold compensatedSum
  rw [foldl_add_rat, zero_rat]
  show 0 + xs.sum + 0 = xs.sum
  ring

end Amount

/-! ## Groups -/

/-- The sums of the groups of a list add up to the sum of the list, if each of its members is in one of the groups. -/
theorem sum_groups {β κ : Type} [DecidableEq κ] (key : β → κ) (cost : β → Rat) {keys : List κ} (hkeys : keys.Nodup)
    {rows : List β} (hrows : ∀ row ∈ rows, key row ∈ keys) :
    (keys.map fun k => ((rows.filter fun row => key row = k).map cost).sum).sum = (rows.map cost).sum := by
  induction keys generalizing rows with
  | nil =>
    have hnone : rows = [] := List.eq_nil_iff_forall_not_mem.2 fun row hrow => List.not_mem_nil (hrows row hrow)
    rw [hnone]
    rfl
  | cons k keys ih =>
    obtain ⟨hk, hkeys⟩ := List.nodup_cons.1 hkeys
    have hothers : ∀ row ∈ rows.filter fun row => ¬key row = k, key row ∈ keys := by
      intro row hrow
      obtain ⟨hrow, hne⟩ := List.mem_filter.1 hrow
      exact (List.mem_cons.1 (hrows row hrow)).resolve_left (of_decide_eq_true hne)
    -- the groups of the other names do not see the rows of this one
    have hsame : ∀ k' ∈ keys, ((rows.filter fun row => key row = k').map cost).sum =
        (((rows.filter fun row => ¬key row = k).filter fun row => key row = k').map cost).sum := by
      intro k' hk'
      rw [List.filter_filter]
      congr 2
      refine List.filter_congr fun row _ => ?_
      by_cases hrow : key row = k'
      · have hne : k' ≠ k := fun heq => hk (heq ▸ hk')
        simp [hrow, hne]
      · simp [hrow]
    rw [List.map_cons, List.sum_cons, List.map_congr_left hsame, ih hkeys hothers,
      List.sum_map_filter_add_sum_map_filter_not]

end SpendLedger
