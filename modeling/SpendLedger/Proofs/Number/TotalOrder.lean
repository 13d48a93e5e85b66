import SpendLedger.Proofs.Number.Parts

/-!
# The order of all doubles

Rankings compare doubles by their rank, which is read from the word. For numbers this is their order as numbers, refined where
that order does not tell two of them apart: the negative zero stands below the positive one, and no other two numbers have one rank
(`rank_le_cases`). Infinities stand outside of all finite numbers.

A number and its rank are compared through its level, which counts the doubles between zero and the number (`lt_iff_level`).
-/

namespace SpendLedger

namespace Binary64

open Float.Model.UnpackedFloat

/-! ## Levels -/

/-- How far a finite double without its sign is from zero, counted in doubles. -/
def distance (m : Nat) (e : Int) : Int := (e + 1074) * 2 ^ 52 + m

/-- How far a number is from zero, counted in doubles, with its sign; both zeros are at zero. -/
def level : Float.Model.UnpackedFloat → Int
  | .infinity s => s.apply (2047 * 2 ^ 52)
  | .finite s m e _ => s.apply (distance m e)
  | .zero _ | .notANumber => 0

/-- The parts of a finite double: the exponent lies between two bounds, and above the lower one the significand has its leading
digit. -/
structure IsPlaced (m : Nat) (e : Int) : Prop where
  pos : 0 < m
  fits : m < 2 ^ 53
  low : -1074 ≤ e
  high : e ≤ 971
  leading : e = -1074 ∨ 2 ^ 52 ≤ m

/-- The fields of a finite double are its distance from zero, and its parts are in their places. -/
theorem Reads.finite_eq {s t : Sign} {field fraction m : Nat} {e : Int} {hm : 0 < m}
    (h : Reads s field fraction (.finite t m e hm)) (hfraction : fraction < 2 ^ 52) :
    s = t ∧ IsPlaced m e ∧ distance m e = field * 2 ^ 52 + fraction := by
  cases h with
  | finite _ _ _ below significand exponent =>
    unfold distance
    split_ifs at significand exponent
    · exact ⟨rfl, ⟨hm, by omega, by omega, by omega, by omega⟩, by omega⟩
    · exact ⟨rfl, ⟨hm, by omega, by omega, by omega, by omega⟩, by omega⟩

namespace IsPlaced

variable {m m' : Nat} {e e' : Int}

/-- A finite double is above zero and below the infinity. -/
theorem distance_between (h : IsPlaced m e) : 0 < distance m e ∧ distance m e < 2047 * 2 ^ 52 := by
  obtain ⟨hpos, hfits, hlow, hhigh, _⟩ := h
  unfold distance
  omega

/-- Of finite doubles without their signs, the one with the smaller exponent is nearer to zero, and of those with one exponent
the one with the smaller significand. -/
theorem compare_eq (h : IsPlaced m e) (h' : IsPlaced m' e') :
    (compare e e').then (compare m m') = compare (distance m e) (distance m' e') := by
  obtain ⟨hpos, hfits, hlow, _, hleading⟩ := h
  obtain ⟨hpos', hfits', hlow', _, hleading'⟩ := h'
  unfold distance
  rcases Int.lt_trichotomy e e' with he | rfl | he
  · rw [Int.compare_eq_lt.2 he, Int.compare_eq_lt.2 (by omega)]
    rfl
  · rw [Int.compare_eq_eq.2 rfl, Ordering.then]
    rcases Nat.lt_trichotomy m m' with hlt | rfl | hgt
    · rw [Nat.compare_eq_lt.2 hlt, Int.compare_eq_lt.2 (by omega)]
    · rw [Nat.compare_eq_eq.2 rfl, Int.compare_eq_eq.2 rfl]
    · rw [Nat.compare_eq_gt.2 hgt, Int.compare_eq_gt.2 (by omega)]
  · rw [Int.compare_eq_gt.2 he, Int.compare_eq_gt.2 (by omega)]
    rfl

end IsPlaced

/-- Numbers are in order where their levels are. -/
theorem lt_iff_level {x y : Float} (hx : x.isNaN = false) (hy : y.isNaN = false) :
    x < y ↔ level x.toModel.unpack < level y.toModel.unpack := by
  have hlt : x < y ↔ (x.toModel.unpack.compare y.toModel.unpack == some .lt) = true := decide_eq_true_iff
  have hx : x.toModel.unpack.isNaN = false := hx
  have hy : y.toModel.unpack.isNaN = false := hy
  have hreads := reads_unpack x
  have hreads' := reads_unpack y
  have hfraction := fraction_lt x
  have hfraction' := fraction_lt y
  rw [hlt]
  generalize x.toModel.unpack = u at hx hreads ⊢
  generalize y.toModel.unpack = v at hy hreads' ⊢
  cases u with
  | notANumber => cases hx
  | infinity s | zero s =>
    cases v with
    | notANumber => cases hy
    | infinity t | zero t => cases s <;> cases t <;> decide
    | finite t m' e' hm' =>
      have hbetween' := (hreads'.finite_eq hfraction').2.1.distance_between
      cases s <;> cases t <;> simp [Float.Model.UnpackedFloat.compare, level, Sign.apply] <;> omega
  | finite s m e hm =>
    have hplaced := (hreads.finite_eq hfraction).2.1
    have hbetween := hplaced.distance_between
    cases v with
    | notANumber => cases hy
    | infinity t | zero t =>
      cases s <;> cases t <;> simp [Float.Model.UnpackedFloat.compare, level, Sign.apply] <;> omega
    | finite t m' e' hm' =>
      have hplaced' := (hreads'.finite_eq hfraction').2.1
      have hbetween' := hplaced'.distance_between
      simp only [Float.Model.UnpackedFloat.compare, level, beq_iff_eq]
      cases s <;> cases t <;>
        simp [Sign.apply, hplaced.compare_eq hplaced', Int.compare_eq_lt, Int.compare_eq_gt, Ordering.swap_eq_lt] <;> omega

/-! ## Ranks -/

/-- The rank is read from the word, backwards behind a negative sign. -/
theorem rank_word (x : Float) :
    rank x = if isNegative x then (2 : Int) ^ 63 - 1 - x.toBits.toNat else (x.toBits.toNat : Int) := by
  unfold rank isNegative Word.values
  dsimp only
  cases Word.holds 63 x.toBits.toNat <;> rfl

/-- Ranks below zero are those of doubles with the sign bit. -/
theorem rank_neg_iff {x : Float} : rank x < 0 ↔ isNegative x = true := by
  rw [rank_word, toBits_eq]
  cases isNegative x <;> simp <;> omega

theorem rank_inj {x y : Float} (h : rank x = rank y) : x = y := by
  have hsign : isNegative x = isNegative y := by
    rw [Bool.eq_iff_iff, ← rank_neg_iff, ← rank_neg_iff, h]
  rw [rank_word, rank_word, hsign] at h
  refine eq_of_toBits (UInt64.toNat_inj.1 ?_)
  split at h <;> omega

/-- The rank of a number is its level, one lower behind a negative sign. -/
theorem rank_eq {x : Float} (hx : x.isNaN = false) :
    rank x = level x.toModel.unpack - if isNegative x then 1 else 0 := by
  have hnumber : x.toModel.unpack.isNaN = false := hx
  have hreads := reads_unpack x
  rw [rank_word, toBits_eq]
  unfold signOf at hreads
  generalize x.toModel.unpack = u at hnumber hreads ⊢
  cases u with
  | notANumber => cases hnumber
  | infinity s =>
    cases hreads with
    | infinite highest empty => cases isNegative x <;> simp [level, Sign.apply, highest, empty]
  | zero s =>
    cases hreads with
    | zero lowest empty => cases isNegative x <;> simp [level, lowest, empty]
  | finite s m e hm =>
    obtain ⟨rfl, -, hdistance⟩ := hreads.finite_eq (fraction_lt x)
    simp only [level, hdistance]
    cases isNegative x with
    | false => simp [Sign.apply]
    | true =>
      simp only [if_true, Sign.apply]
      push_cast
      omega

/-- Where one number has no higher rank than another, it is the smaller of the two, or both are the same, or it is the negative
zero and the other the positive. -/
theorem rank_le_cases {x y : Float} (hx : x.isNaN = false) (hy : y.isNaN = false) (h : rank y ≤ rank x) :
    y < x ∨ x = y ∨ x = Float.ofNat 0 ∧ y = -Float.ofNat 0 := by
  have hrank := rank_eq hx
  have hrank' := rank_eq hy
  rw [lt_iff_level hy hx]
  rcases Int.lt_or_le (level y.toModel.unpack) (level x.toModel.unpack) with hlt | hle
  · exact Or.inl hlt
  · -- on one level only the signs can differ, and only at zero
    refine Or.inr ?_
    by_cases hbelow : rank y < 0
    · rw [if_pos (rank_neg_iff.1 hbelow)] at hrank'
      by_cases hbelow' : rank x < 0
      · rw [if_pos (rank_neg_iff.1 hbelow')] at hrank
        exact Or.inl (rank_inj (by omega))
      · rw [if_neg (mt rank_neg_iff.2 hbelow')] at hrank
        refine Or.inr ⟨rank_inj ?_, rank_inj ?_⟩
        · rw [show rank x = 0 by omega]
          decide
        · rw [show rank y = -1 by omega]
          decide
    · rw [if_neg (mt rank_neg_iff.2 hbelow)] at hrank'
      rw [if_neg (mt rank_neg_iff.2 (show ¬rank x < 0 by omega))] at hrank
      exact Or.inl (rank_inj (by omega))

end Binary64

end SpendLedger
