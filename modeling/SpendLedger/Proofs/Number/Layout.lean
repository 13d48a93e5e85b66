import SpendLedger.Number.Decimal
import SpendLedger.Proofs.Text.Digits

/-!
# Numbers with a fixed count of places

A finite number that is written with a fixed count of places has at least one digit before its point and exactly so many
behind it, whatever its size.
-/

namespace SpendLedger

namespace Decimal

/-- A number with a fixed count of places is its sign, digits and so many digits behind the point. -/
theorem fixed_eq {x : Float} (h : x.isFinite = true) (places : Nat) :
    ∃ whole fraction : List Char, fixed places x = sign x ++ withoutEmptyPoint (whole, fraction) ∧ whole ≠ [] ∧
      fraction.length = places ∧ ∀ c ∈ whole ++ fraction, c.isDigit = true := by
  unfold fixed
  rw [h, if_neg (by decide)]
  dsimp only
  generalize Binary64.divHalfEven _ _ = n
  have hdigits : zeros (places + 1 - (Nat.toDigits 10 n).length) ++ Nat.toDigits 10 n =
      (Text.zeroPadded (places + 1) n).toList := (Text.toList_zeroPadded _ _).symm
  have hlength : places + 1 ≤ (Text.zeroPadded (places + 1) n).toList.length := by
    rw [← hdigits, List.length_append, zeros, List.length_replicate]
    omega
  rw [hdigits]
  refine ⟨_, _, rfl, ?_, ?_, ?_⟩
  · rw [← List.length_pos_iff, List.length_take]
    omega
  · rw [List.length_drop]
    omega
  · rw [List.take_append_drop]
    exact Text.isDigit_zeroPadded _ _

end Decimal

end SpendLedger
