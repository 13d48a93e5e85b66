import SpendLedger.Proofs.Number.Sign

/-!
# The parts of a double

A double is taken apart twice: arithmetic reads from its word what kind of a double it is, the ledger reads a sign, a significand
and an exponent. Both read the same two fields below the sign (`reads_unpack`), so that the parts of a finite double are the same
either way. They tell its exact value, which is above zero where the double is.
-/

namespace SpendLedger

namespace Binary64

open Float.Model.UnpackedFloat

/-! ## The fields of a word -/

/-- The field of the exponent. -/
def field (x : Float) : Nat := x.toBits.toNat / 2 ^ 52 % 2 ^ 11

/-- The field of the fraction. -/
def fraction (x : Float) : Nat := x.toBits.toNat % 2 ^ 52

/-- The sign that the sign bit stands for. -/
def signOf (x : Float) : Sign := if isNegative x then .negative else .positive

theorem fraction_lt (x : Float) : fraction x < 2 ^ 52 := Nat.mod_lt _ (by decide)

theorem field_lt_values (x : Float) : field x < 2 ^ 11 := Nat.mod_lt _ (by decide)

/-- A word is its sign bit and its two fields. -/
theorem toBits_eq (x : Float) :
    x.toBits.toNat = (if isNegative x then 2 ^ 63 else 0) + field x * 2 ^ 52 + fraction x := by
  have hword := x.toBits.toNat_lt
  unfold isNegative field fraction Word.holds Word.values
  simp only [Nat.pow_eq, Bool.not_eq_true', decide_eq_false_iff_not]
  split <;> omega

/-- Doubles of one word are the same. -/
theorem eq_of_toBits {x y : Float} (h : x.toBits = y.toBits) : x = y := by
  obtain ⟨⟨word, _⟩⟩ := x
  obtain ⟨⟨other, _⟩⟩ := y
  cases (show word = other from h)
  rfl

/-! ## What the fields stand for -/

/-- What the fields of a word stand for, behind a sign. -/
inductive Reads (s : Sign) (field fraction : Nat) : Float.Model.UnpackedFloat → Prop where
  | infinite (highest : field = 2047) (empty : fraction = 0) : Reads s field fraction (.infinity s)
  | notANumber (highest : field = 2047) (given : 0 < fraction) : Reads s field fraction .notANumber
  | zero (lowest : field = 0) (empty : fraction = 0) : Reads s field fraction (.zero s)
  | finite (m : Nat) (e : Int) (hm : 0 < m) (below : field < 2047)
    (significand : m = if field = 0 then fraction else fraction + 2 ^ 52)
    (exponent : e = (if field = 0 then 1 else field : Nat) - 1075) : Reads s field fraction (.finite s m e hm)

/-- The fraction is the lowest bits of a word. -/
theorem toNat_unpackMantissa (bits : BitVec 64) : (@unpackMantissa .binary64 bits).toNat = bits.toNat % 2 ^ 52 := by
  unfold unpackMantissa
  rw [BitVec.toNat_cast, BitVec.extractLsb_toNat]
  rfl

/-- The exponent is the bits of a word between the fraction and the sign. -/
theorem toNat_unpackExponent (bits : BitVec 64) :
    (@unpackExponent .binary64 bits).toNat = bits.toNat / 2 ^ 52 % 2 ^ 11 := by
  unfold unpackExponent
  rw [BitVec.toNat_cast, BitVec.extractLsb_toNat, Nat.shiftRight_eq_div_pow]
  rfl

/-- Arithmetic reads the sign bit and the two fields. -/
theorem reads_unpack (x : Float) : Reads (signOf x) (field x) (fraction x) x.toModel.unpack := by
  have hsign : Sign.ofBitVec (@unpackSign .binary64 x.toBits.toBitVec) = signOf x := by
    rw [sign_of_word, signOf, isNegative]
    show (if Word.holds 63 x.toBits.toNat then _ else _) = _
    cases Word.holds 63 x.toBits.toNat <;> rfl
  have hfield : (@unpackExponent .binary64 x.toBits.toBitVec).toNat = field x := toNat_unpackExponent _
  have hfraction : (@unpackMantissa .binary64 x.toBits.toBitVec).toNat = fraction x := toNat_unpackMantissa _
  have hbelow : field x < 2048 := field_lt_values x
  have hbias : ((Float.Model.Format.binary64.exponentBias : Nat) : Int) = 1023 := rfl
  show Reads _ _ _ (unpack .binary64 x.toBits.toBitVec)
  unfold unpack
  simp only [hsign, ← BitVec.toNat_inj, hfield, hfraction, BitVec.toNat_append, BitVec.toNat_neg, BitVec.toNat_ofNat]
  norm_num only
  split_ifs with hhighest hempty hlowest hnone
  · exact .infinite hhighest hempty
  · exact .notANumber hhighest (Nat.pos_of_ne_zero hempty)
  · exact .zero hlowest hnone
  · refine .finite _ _ _ (by omega) (if_pos hlowest).symm ?_
    rw [if_pos hlowest, hlowest, hbias]
    rfl
  · refine .finite _ _ _ (by omega) ?_ ?_
    · rw [if_neg hlowest, ← Nat.shiftLeft_add_eq_or_of_lt (fraction_lt x), Nat.add_comm]
      rfl
    · rw [if_neg hlowest, hbias]
      rfl

section Finite

variable {x : Float} {s : Sign} {m : Nat} {e : Int} {hm : 0 < m}

/-- A finite double has the parts that arithmetic reads. -/
theorem parts_of_finite (h : x.toModel.unpack = .finite s m e hm) : parts x = ⟨isNegative x, m, e⟩ ∧ s = signOf x := by
  have hreads := reads_unpack x
  rw [h] at hreads
  cases hreads with
  | finite _ _ _ _ significand exponent =>
    refine ⟨?_, rfl⟩
    rw [significand, exponent]
    rfl

end Finite

/-! ## Exact values -/

/-- The exact value of a finite double; of the others the answer has no meaning. -/
def exact (x : Float) : Rat :=
  let p := parts x
  (if p.negative then -1 else 1) * p.significand * 2 ^ p.exponent

/-- An amount that is finite and above zero has the parts of a positive number. -/
theorem unpack_of_isPositive {x : Float} (h : Amount.isPositive x = true) :
    ∃ m e hm, x.toModel.unpack = .finite .positive m e hm := by
  obtain ⟨hfinite, habove⟩ := Bool.and_eq_true_iff.1 h
  have hfinite : x.toModel.unpack.isFinite = true := hfinite
  have habove : Float.Model.UnpackedFloat.lt (.zero .positive) x.toModel.unpack = true :=
    (Bool.decide_coe _).symm.trans habove
  generalize x.toModel.unpack = u at hfinite habove ⊢
  cases u with
  | notANumber | infinity s => cases hfinite
  | zero s => cases habove
  | finite s m e hm =>
    cases s with
    | negative => cases habove
    | positive => exact ⟨m, e, hm, rfl⟩

/-- An amount that is finite and above zero has an exact value above zero. -/
theorem exact_pos {x : Float} (h : Amount.isPositive x = true) : 0 < exact x := by
  obtain ⟨m, e, hm, hunpack⟩ := unpack_of_isPositive h
  obtain ⟨hparts, hsign⟩ := parts_of_finite hunpack
  have hnegative : isNegative x = false := by
    unfold signOf at hsign
    cases hneg : isNegative x with
    | false => rfl
    | true =>
      rw [hneg] at hsign
      cases hsign
  have hsignificand : (0 : Rat) < m := by exact_mod_cast hm
  unfold exact
  rw [hparts, hnegative]
  simp only [Bool.false_eq_true, if_false, one_mul]
  positivity

end Binary64

end SpendLedger
