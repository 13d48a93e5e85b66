import SpendLedger.Proofs.Number.Zero

/-!
# The sign of a double

Every double but the value that is no number has a sign, zeros and infinities included. Products and quotients with a
positive finite double and rounding to whole numbers keep it, and make a number of nothing that is none. So an amount in
hundredths has the sign of the amount, and is no number exactly if the amount is none.

A sign is read from the parts of a double. What is put together from parts may lose digits or become infinite, but never
loses its sign (`sign?_ofModel`).
-/

namespace SpendLedger

namespace Binary64

open Float.Model.UnpackedFloat

/-- The sign of the parts of a double. -/
def partsSign? : Float.Model.UnpackedFloat → Option Sign
  | .notANumber => none
  | .infinity s | .zero s | .finite s _ _ _ => some s

/-- The sign of a double; a value that is no number has none. -/
def sign? (x : Float) : Option Sign :=
  partsSign? x.toModel.unpack

/-! ## Putting doubles together -/

/-- The sign bit is where it was put. -/
theorem unpackSign_packComponents (s : Sign) (e : BitVec 11) (m : BitVec 52) :
    unpackSign (packComponents .binary64 s e m) = s.toBitVec := by
  unfold unpackSign packComponents BitVec.extractLsb
  rw [BitVec.extractLsb'_append_eq_of_le (by decide), BitVec.extractLsb'_append_eq_of_le (by decide)]
  cases s <;> rfl

/-- Components without the highest exponent, or with it and nothing else, have the sign that they were put together with. -/
theorem partsSign?_packComponents (s : Sign) {e : BitVec 11} {m : BitVec 52} (h : e = -1#11 → m = 0#52) :
    partsSign? (unpack .binary64 (packComponents .binary64 s e m)) = some s := by
  have hsign : Sign.ofBitVec s.toBitVec = s := by
    cases s <;> rfl
  unfold unpack
  simp only [unpackMantissa_packComponents, unpackExponent_packComponents, unpackSign_packComponents, hsign]
  split
  next he =>
    rw [if_pos (h he)]
    rfl
  next =>
    split
    · split <;> rfl
    · rfl

/-- A double has the sign of the parts that it is put together from. -/
theorem sign?_ofModel (u : Float.Model.UnpackedFloat) : sign? (.ofModel (.pack u)) = partsSign? u := by
  show partsSign? (unpack .binary64 (pack .binary64 u)) = partsSign? u
  fun_cases pack with
  | case1 => rfl
  | case2 s => exact partsSign?_packComponents s fun _ => rfl
  | case3 s => exact partsSign?_packComponents s nofun
  | case4 s m e hm => exact partsSign?_packComponents s fun _ => rfl
  | case5 s m e hm bits exponent hfits =>
    -- an exponent that fits is not the highest one
    refine partsSign?_packComponents s fun he => absurd (congrArg BitVec.toNat he) ?_
    have hsmall : exponent + 1 < 2 ^ 11 := Nat.not_le.1 hfits
    rw [BitVec.toNat_ofNat, Nat.mod_eq_of_lt (by omega)]
    simp
    omega
  | case6 s m e hm => exact partsSign?_packComponents s nofun

/-- Rounding keeps the sign. -/
theorem partsSign?_roundWithAccuracy (f : Float.Model.Format) (s : Sign) (m : Nat) (e : Int) (a : Accuracy) :
    partsSign? (roundWithAccuracy f s m e a) = some s := by
  unfold roundWithAccuracy
  dsimp only
  split <;> rfl

/-- Behind a sign before it a double has that sign turned around. -/
theorem sign?_neg (x : Float) : sign? (-x) = (sign? x).map fun s => -s := by
  show sign? (.ofModel (.pack x.toModel.unpack.neg)) = (partsSign? x.toModel.unpack).map fun s => -s
  rw [sign?_ofModel]
  cases x.toModel.unpack <;> rfl

section Scale

variable {x c : Float} {m : Nat} {e : Int} {hm : 0 < m}

/-- A positive factor keeps the sign. -/
theorem sign?_mul (x : Float) (h : c.toModel.unpack = .finite .positive m e hm) : sign? (x * c) = sign? x := by
  show sign? (.ofModel (.pack (mul .binary64 x.toModel.unpack c.toModel.unpack))) = partsSign? x.toModel.unpack
  rw [sign?_ofModel, h]
  have hkept : ∀ s : Sign, s * Sign.positive = s := fun s => by cases s <;> rfl
  cases x.toModel.unpack with
  | notANumber => rfl
  | infinity s | zero s => exact congrArg some (hkept s)
  | finite s m' e' hm' => exact (partsSign?_roundWithAccuracy _ _ _ _ _).trans (congrArg some (hkept s))

/-- A positive divisor keeps the sign. -/
theorem sign?_div (x : Float) (h : c.toModel.unpack = .finite .positive m e hm) : sign? (x / c) = sign? x := by
  show sign? (.ofModel (.pack (div .binary64 x.toModel.unpack c.toModel.unpack))) = partsSign? x.toModel.unpack
  rw [sign?_ofModel, h]
  have hkept : ∀ s : Sign, s / Sign.positive = s := fun s => by cases s <;> rfl
  cases x.toModel.unpack with
  | notANumber => rfl
  | infinity s | zero s => exact congrArg some (hkept s)
  | finite s m' e' hm' => exact (partsSign?_roundWithAccuracy _ _ _ _ _).trans (congrArg some (hkept s))

end Scale

/-- A natural number is put together with the positive sign, also the zero. -/
theorem partsSign?_ofNat (f : Float.Model.Format) (n : Nat) :
    partsSign? (Float.Model.UnpackedFloat.normalize f n 0 .positive) = some .positive := by
  unfold Float.Model.UnpackedFloat.normalize
  split
  next h => exact absurd (Int.compare_eq_lt.1 h) (Int.not_lt.2 (Int.natCast_nonneg n))
  next => rfl
  next => exact partsSign?_roundWithAccuracy _ _ _ _ _

/-- A number without a sign is put together with the positive sign, whatever its power of ten. -/
theorem partsSign?_ofScientific (f : Float.Model.Format) (m : Nat) (e : Int) :
    partsSign? (ofScientific f m e) = some .positive := by
  unfold ofScientific
  split
  · rfl
  · split
    · rfl
    · split
      · rfl
      · split
        · rw [mul]
          exact partsSign?_roundWithAccuracy _ _ _ _ _
        · rw [div]
          exact partsSign?_roundWithAccuracy _ _ _ _ _

/-- A natural number as a double has the positive sign. -/
theorem sign?_ofNat (n : Nat) : sign? (Float.ofNat n) = some .positive := by
  show sign? (Float.ofScientific n false 0) = some .positive
  unfold Float.ofScientific
  split
  next =>
    have hone : (Float.ofBits 0x3FF0000000000000).toModel.unpack = .finite .positive 4503599627370496 (-52) (by decide) := by
      rfl
    refine (sign?_mul n.toUInt64.toFloat hone).trans ?_
    exact (sign?_ofModel _).trans (partsSign?_ofNat _ _)
  next => exact (sign?_ofModel _).trans (partsSign?_ofScientific _ _ _)

/-! ## The sign bit -/

/-- The sign of a word is that of its highest bit. -/
theorem sign_of_word (bits : BitVec 64) : Sign.ofBitVec (@unpackSign .binary64 bits) =
    if Word.holds 63 bits.toNat then .positive else .negative := by
  have hbit : @unpackSign .binary64 bits = 0#1 ↔ Word.holds 63 bits.toNat = true := by
    have hsize := bits.isLt
    unfold unpackSign Word.holds Word.values
    rw [← BitVec.toNat_inj, BitVec.toNat_cast, BitVec.extractLsb_toNat, Nat.shiftRight_eq_div_pow]
    simp
    omega
  exact if_congr hbit rfl rfl

/-- Parts that are taken from a word have its sign, if any. -/
theorem partsSign?_unpack (bits : BitVec 64) : ∀ s ∈ partsSign? (unpack .binary64 bits),
    s = Sign.ofBitVec (@unpackSign .binary64 bits) := by
  unfold unpack
  dsimp only
  split
  · split
    · exact fun s hs => (Option.some.inj hs).symm
    · exact fun s hs => nomatch hs
  · split
    · split
      · exact fun s hs => (Option.some.inj hs).symm
      · exact fun s hs => (Option.some.inj hs).symm
    · exact fun s hs => (Option.some.inj hs).symm

/-- No sign has only what is no number. -/
theorem sign?_eq_none_iff {x : Float} : sign? x = none ↔ x.isNaN = true := by
  show partsSign? x.toModel.unpack = none ↔ x.toModel.unpack.isNaN = true
  cases x.toModel.unpack with
  | notANumber => exact iff_of_true rfl rfl
  | infinity s | zero s | finite s m e hm => exact iff_of_false nofun nofun

/-- The sign of a number is that of its highest bit. -/
theorem sign?_of_isNegative {x : Float} (h : x.isNaN = false) :
    sign? x = some (if isNegative x then .negative else .positive) := by
  cases hsign : sign? x with
  | none =>
    rw [sign?_eq_none_iff.1 hsign] at h
    cases h
  | some s =>
    rw [partsSign?_unpack _ s hsign, sign_of_word, isNegative]
    show some (if Word.holds 63 x.toBits.toNat then _ else _) = _
    cases Word.holds 63 x.toBits.toNat <;> rfl

/-! ## Rounding -/

/-- Rounding to a whole number keeps the sign. -/
theorem sign?_roundHalfAway (x : Float) : sign? (roundHalfAway x) = sign? x := by
  unfold roundHalfAway
  dsimp only
  split
  next h =>
    have hfinite : x.isFinite = true := (Bool.and_eq_true_iff.1 h).1
    have hnegative : (parts x).negative = isNegative x := rfl
    rw [sign?_of_isNegative (not_isNaN_of_isFinite hfinite), hnegative]
    cases isNegative x with
    | false => exact sign?_ofNat _
    | true =>
      have hturned := sign?_neg (Float.ofNat (divHalfUp (parts x).significand (Nat.pow 2 (parts x).exponent.natAbs)))
      rw [sign?_ofNat] at hturned
      exact hturned
  next => rfl

/-- An amount in hundredths has the sign of the amount. -/
theorem sign?_roundCents (x : Float) : sign? (Amount.roundCents x) = sign? x := by
  have hhundred : (Float.ofNat 100).toModel.unpack = .finite .positive 7036874417766400 (-46) (by decide) := by rfl
  show sign? (roundHalfAway (x * Float.ofNat 100) / Float.ofNat 100) = sign? x
  rw [sign?_div _ hhundred, sign?_roundHalfAway, sign?_mul _ hhundred]

end Binary64

/-! ## Figures that can be spent -/

/-- A figure can be spent if it is a number and not below zero. -/
def Amount.IsSpend {α : Type} [Amount α] (x : α) : Prop :=
  isNaN x = false ∧ le zero x = true

namespace Binary64

open Float.Model.UnpackedFloat

/-- The negative zero has no parts but its sign. -/
theorem eq_negative_zero_iff {x : Float} : x = -Float.ofNat 0 ↔ x.toModel.unpack = .zero .negative := by
  constructor
  · rintro rfl
    rfl
  · intro h
    exact (eq_of_parts h).trans (by decide)

/-- Whether a double is not below zero can be told from its parts. -/
theorem zero_le_eq (x : Float) :
    Amount.le Amount.zero x = Float.Model.UnpackedFloat.le (.zero .positive) x.toModel.unpack :=
  Bool.decide_coe _

/-- Whether a double is below zero can be told from its parts. -/
theorem lt_zero_eq (x : Float) :
    Amount.lt x Amount.zero = Float.Model.UnpackedFloat.lt x.toModel.unpack (.zero .positive) :=
  Bool.decide_coe _

/-- The figures that can be spent are those with the positive sign, and the negative zero. -/
theorem isSpend_iff {x : Float} : Amount.IsSpend x ↔ sign? x = some .positive ∨ x = -Float.ofNat 0 := by
  have hspend : Amount.IsSpend x ↔ x.toModel.unpack.isNaN = false ∧
      Float.Model.UnpackedFloat.le (.zero .positive) x.toModel.unpack = true := by
    rw [← zero_le_eq]
    rfl
  rw [hspend, eq_negative_zero_iff, sign?]
  cases x.toModel.unpack with
  | notANumber => exact iff_of_false (fun h => nomatch h.1) (fun h => h.elim nofun nofun)
  | infinity s =>
    cases s with
    | negative => exact iff_of_false (fun h => nomatch h.2) (fun h => h.elim nofun nofun)
    | positive => exact iff_of_true ⟨rfl, rfl⟩ (.inl rfl)
  | zero s =>
    cases s with
    | negative => exact iff_of_true ⟨rfl, rfl⟩ (.inr rfl)
    | positive => exact iff_of_true ⟨rfl, rfl⟩ (.inl rfl)
  | finite s m e hm =>
    cases s with
    | negative => exact iff_of_false (fun h => nomatch h.2) (fun h => h.elim nofun nofun)
    | positive => exact iff_of_true ⟨rfl, rfl⟩ (.inl rfl)

/-- What is no number is neither below zero nor not, and all else is one of both. -/
theorem zero_le_eq_not_lt (x : Float) :
    Amount.le Amount.zero x = (!Amount.isNaN x && !Amount.lt x Amount.zero) := by
  rw [zero_le_eq, lt_zero_eq]
  show _ = (!x.toModel.unpack.isNaN && _)
  cases x.toModel.unpack with
  | notANumber => rfl
  | infinity s | zero s | finite s m e hm => cases s <;> rfl

/-- What is raised to zero, where it is below zero or no number, can be spent. -/
theorem isSpend_atLeastZero (x : Float) : Amount.IsSpend (Amount.atLeastZero x) := by
  unfold Amount.atLeastZero
  split
  next => exact ⟨by decide, by decide⟩
  next h =>
    rw [Bool.or_eq_true, not_or, Bool.not_eq_true, Bool.not_eq_true] at h
    refine ⟨h.1, ?_⟩
    rw [zero_le_eq_not_lt, h.1, h.2]
    rfl

/-- An amount in hundredths can be spent exactly if the amount can, or is so little below zero that nothing is left of it but
the sign. -/
theorem isSpend_roundCents_iff {x : Float} :
    Amount.IsSpend (Amount.roundCents x) ↔ Amount.IsSpend x ∨ Amount.roundCents x = -Float.ofNat 0 := by
  rw [isSpend_iff, sign?_roundCents, isSpend_iff, or_assoc]
  refine or_congr_right ⟨Or.inr, fun h => h.elim ?_ id⟩
  rintro rfl
  decide +kernel

/-- An amount in hundredths is no number exactly if the amount is none. -/
theorem isNaN_roundCents (x : Float) : Amount.isNaN (Amount.roundCents x) = Amount.isNaN x := by
  show (Amount.roundCents x).isNaN = x.isNaN
  rw [Bool.eq_iff_iff, ← sign?_eq_none_iff, ← sign?_eq_none_iff, sign?_roundCents]

end Binary64

end SpendLedger
