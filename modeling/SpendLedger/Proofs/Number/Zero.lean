import Mathlib
import SpendLedger.Amount

/-!
# Adding zero to a double

A double plus zero is the same double, bit for bit, but for the negative zero, which loses its sign. This is all that the
store does to a cost. The proof goes through the parts of a double: a sum with zero changes no part but the sign of a zero.
-/

namespace SpendLedger

namespace Binary64

open Float.Model.UnpackedFloat

/-! ## The parts of a double -/

/-- Taken apart and put together, a double is what it was. -/
theorem model_pack_unpack (x : Float.Model) : Float.Model.pack x.unpack = x := by
  obtain ⟨bits, hvalid⟩ := x
  have hbits : pack .binary64 (unpack .binary64 bits.toBitVec) = bits.toBitVec := pack_unpack_of_valid hvalid
  simp only [Float.Model.pack, Float.Model.unpack, hbits]

/-- A double is put together from its own parts. -/
theorem eq_of_parts {x : Float} {u : Float.Model.UnpackedFloat} (h : x.toModel.unpack = u) :
    x = .ofModel (.pack u) := by
  rw [← h, model_pack_unpack]

theorem not_isNaN_of_isFinite {x : Float} (h : x.isFinite = true) : x.isNaN = false := by
  have hparts : x.toModel.unpack.isFinite = true := h
  show x.toModel.unpack.isNaN = false
  cases hu : x.toModel.unpack with
  | notANumber =>
    rw [hu] at hparts
    cases hparts
  | infinity s | finite s m e hm | zero s => rfl

theorem not_isNaN_of_pos {x : Float} (h : 0 < x) : x.isNaN = false := by
  have hparts : (Float.ofNat 0).toModel.unpack.lt x.toModel.unpack = true := of_decide_eq_true h
  show x.toModel.unpack.isNaN = false
  cases hu : x.toModel.unpack with
  | notANumber =>
    rw [hu] at hparts
    cases hparts
  | infinity s | finite s m e hm | zero s => rfl

/-! ## The sum with zero -/

/-- A double as the store keeps it: the negative zero has lost its sign, all others are as they were. -/
def withoutZeroSign (x : Float) : Float :=
  if x = -Float.ofNat 0 then Float.ofNat 0 else x

/-- A double plus zero. -/
theorem add_zero (x : Float) : x + Float.ofNat 0 = withoutZeroSign x := by
  have hzero : (Float.ofNat 0).toModel.unpack = .zero .positive := by rfl
  have hsum : x + Float.ofNat 0 = .ofModel (.pack (add .binary64 x.toModel.unpack (.zero .positive))) := by
    rw [← hzero]
    rfl
  rw [hsum, withoutZeroSign]
  split
  next hx =>
    rw [hx]
    decide
  next hx =>
    -- every sum with the positive zero is the other summand, but for the negative zero, which `x` is not
    have hparts : add .binary64 x.toModel.unpack (.zero .positive) = x.toModel.unpack := by
      cases hu : x.toModel.unpack with
      | notANumber => rfl
      | infinity s => rfl
      | finite s m e hm => rfl
      | zero s =>
        cases s with
        | positive => rfl
        | negative => exact absurd ((eq_of_parts hu).trans (by decide)) hx
    rw [hparts, model_pack_unpack]

end Binary64

end SpendLedger
