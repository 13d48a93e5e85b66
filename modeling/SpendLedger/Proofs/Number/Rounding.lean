import SpendLedger.Proofs.Number.Exact

/-!
# Exact numbers in hundredths

Read over exact rationals, rounding to hundredths keeps the order of amounts, and leaves those alone that are whole.
-/

namespace SpendLedger

/-- Rounding to whole numbers keeps the order. -/
theorem Rat.roundHalfAway_mono {x y : Rat} (h : x ≤ y) : Rat.roundHalfAway x ≤ Rat.roundHalfAway y := by
  unfold Rat.roundHalfAway
  split
  next hx =>
    split
    next hy =>
      have hfloor : (-y + 1 / 2).floor ≤ (-x + 1 / 2).floor := Rat.floor_monotone (by linarith)
      exact neg_le_neg (by exact_mod_cast hfloor)
    next hy =>
      -- below zero nothing is rounded above it, and nothing else below it
      have hbelow : 0 ≤ (-x + 1 / 2).floor := Rat.le_floor_iff.2 (by push_cast; linarith)
      have habove : 0 ≤ (y + 1 / 2).floor := Rat.le_floor_iff.2 (by push_cast; linarith)
      exact le_trans (neg_nonpos.2 (by exact_mod_cast hbelow)) (by exact_mod_cast habove)
  next hx =>
    have hy : ¬y < 0 := fun hy => hx (lt_of_le_of_lt h hy)
    have hfloor : (x + 1 / 2).floor ≤ (y + 1 / 2).floor := Rat.floor_monotone (by linarith)
    rw [if_neg hy]
    exact_mod_cast hfloor

namespace Amount

/-- Rounding to hundredths keeps the order. -/
theorem roundCents_mono {x y : Rat} (h : x ≤ y) : roundCents x ≤ roundCents y := by
  have hundred : (0 : Rat) ≤ 100 := by norm_num
  have hrounded := Rat.roundHalfAway_mono (mul_le_mul_of_nonneg_right h hundred)
  exact div_le_div_of_nonneg_right hrounded hundred

/-- What is raised to zero is not below it. -/
theorem atLeastZero_nonneg (x : Rat) : 0 ≤ atLeastZero x := by
  have hcases : atLeastZero x = if x < 0 then 0 else x := by
    simp [atLeastZero, isNaN, lt, zero_rat]
  rw [hcases]
  split
  next => exact le_rfl
  next h => exact not_lt.1 h

end Amount

end SpendLedger
