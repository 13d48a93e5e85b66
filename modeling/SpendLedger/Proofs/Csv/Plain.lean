import SpendLedger.Csv.Basic
import SpendLedger.Proofs.Calendar.TextOrder
import SpendLedger.Proofs.Number.Layout

/-!
# Texts that need no quotes

Numbers and days are written without any character that would have to stand in quotes, so that they are fields as they are.
-/

namespace SpendLedger

namespace Csv

/-- A text without characters that make quotes necessary. -/
def IsPlain (s : String) : Prop := ∀ c ∈ s.toList, needsQuotes c = false

instance (s : String) : Decidable (IsPlain s) :=
  decidable_of_iff (s.toList.all fun c => !needsQuotes c) (by simp [IsPlain])

/-- A plain text stands as a field as it is. -/
theorem field_of_isPlain {s : String} (h : IsPlain s) : field s = s := by
  have hnone : s.toList.any needsQuotes = false := by simpa [IsPlain] using h
  rw [field, if_neg (by rw [hnone]; decide)]

theorem IsPlain.append {s t : String} (hs : IsPlain s) (ht : IsPlain t) : IsPlain (s ++ t) := by
  unfold IsPlain
  rw [String.toList_append]
  exact List.forall_mem_append.2 ⟨hs, ht⟩

/-- A digit needs no quotes. -/
theorem needsQuotes_of_isDigit {c : Char} (h : c.isDigit = true) : needsQuotes c = false := by
  have hrange : 48 ≤ c.toNat := (Text.toNat_of_isDigit h).1
  have hdistinct : ∀ d : Char, d.toNat < 48 → (c == d) = false := by
    intro d hd
    rw [beq_eq_false_iff_ne]
    rintro rfl
    omega
  simp only [needsQuotes, hdistinct ',' (by decide), hdistinct '"' (by decide), hdistinct '\n' (by decide),
    hdistinct '\r' (by decide), Bool.or_self]

theorem isPlain_of_isDigit {s : String} (h : ∀ c ∈ s.toList, c.isDigit = true) : IsPlain s :=
  fun c hc => needsQuotes_of_isDigit (h c hc)

/-- Characters that are digits or points are plain. -/
theorem isPlain_ofList {cs : List Char} (h : ∀ c ∈ cs, c.isDigit = true ∨ c = '.') : IsPlain (String.ofList cs) := by
  intro c hc
  rw [String.toList_ofList] at hc
  rcases h c hc with hdigit | rfl
  · exact needsQuotes_of_isDigit hdigit
  · decide

/-! ## Numbers and days -/

/-- A whole number is plain. -/
theorem isPlain_toString (n : Int) : IsPlain (toString n) := by
  have hnat (m : Nat) : IsPlain m.repr := by
    refine isPlain_of_isDigit fun c hc => ?_
    rw [Nat.toList_repr] at hc
    exact Nat.isDigit_of_mem_toDigits (by decide) (by decide) hc
  show IsPlain n.repr
  rw [Int.repr_eq_if]
  split
  · exact hnat _
  · exact .append (by decide) (hnat _)

theorem isPlain_sign (x : Float) : IsPlain (Decimal.sign x) := by
  unfold Decimal.sign
  split <;> decide

/-- What stands for a number that is not finite is plain. -/
theorem isPlain_specialText (x : Float) : IsPlain (Decimal.specialText x) := by
  unfold Decimal.specialText
  split
  · decide
  · split <;> decide

/-- Digits with a point between them, or without one, are plain. -/
theorem isPlain_withoutEmptyPoint {whole fraction : List Char} (h : ∀ c ∈ whole ++ fraction, c.isDigit = true) :
    IsPlain (Decimal.withoutEmptyPoint (whole, fraction)) := by
  obtain ⟨hwhole, hfraction⟩ := List.forall_mem_append.1 h
  cases fraction with
  | nil => exact isPlain_ofList fun c hc => Or.inl (hwhole c hc)
  | cons d fraction =>
    refine isPlain_ofList fun c hc => ?_
    rcases List.mem_append.1 hc with hc | hc
    · exact Or.inl (hwhole c hc)
    · rcases List.mem_cons.1 hc with rfl | hc
      · exact Or.inr rfl
      · exact Or.inl (hfraction c hc)

/-- A number with a fixed count of places is plain. -/
theorem isPlain_fixed (places : Nat) (x : Float) : IsPlain (Decimal.fixed places x) := by
  cases hfinite : x.isFinite with
  | true =>
    obtain ⟨whole, fraction, heq, _, _, hdigits⟩ := Decimal.fixed_eq hfinite places
    rw [heq]
    exact (isPlain_sign x).append (isPlain_withoutEmptyPoint hdigits)
  | false =>
    unfold Decimal.fixed
    rw [hfinite, if_pos (by decide)]
    exact isPlain_specialText x

/-- Digits with a point put between them stay digits. -/
theorem isDigit_positional {digits : List Char} (h : ∀ c ∈ digits, c.isDigit = true) (point : Int) :
    ∀ c ∈ (Decimal.positional digits point).1 ++ (Decimal.positional digits point).2, c.isDigit = true := by
  have hzeros (n : Nat) : ∀ c ∈ Decimal.zeros n, c.isDigit = true := by
    intro c hc
    rw [List.eq_of_mem_replicate hc]
    decide
  unfold Decimal.positional
  split
  · rw [List.singleton_append]
    exact List.forall_mem_cons.2 ⟨by decide, List.forall_mem_append.2 ⟨hzeros _, h⟩⟩
  · split
    · rw [List.append_nil]
      exact List.forall_mem_append.2 ⟨h, hzeros _⟩
    · rw [List.take_append_drop]
      exact h

/-- A number that is written out in full is plain. -/
theorem isPlain_plain (x : Float) : IsPlain (Decimal.plain x) := by
  unfold Decimal.plain
  split
  · exact isPlain_specialText x
  · split
    · exact (isPlain_sign x).append (by decide)
    · have hdigits : ∀ c ∈ (Decimal.digitsAndPoint .up x.abs).1, c.isDigit = true :=
        fun c hc => Nat.isDigit_of_mem_toDigits (by decide) (by decide) hc
      exact (isPlain_sign x).append (isPlain_withoutEmptyPoint (isDigit_positional hdigits _))

theorem isPlain_zeroPadded (width n : Nat) : IsPlain (Text.zeroPadded width n) :=
  isPlain_of_isDigit (Text.isDigit_zeroPadded width n)

/-- A day is plain. -/
theorem isPlain_toText (d : Date) : IsPlain d.toText := by
  have hhyphen : IsPlain "-" := by decide
  have hyear : IsPlain (Date.yearText d.year) := by
    unfold Date.yearText
    split
    · exact isPlain_zeroPadded _ _
    · refine .append ?_ (isPlain_zeroPadded _ _)
      split <;> decide
  have hmonth := (hyear.append hhyphen).append (isPlain_zeroPadded 2 d.month)
  exact (hmonth.append hhyphen).append (isPlain_zeroPadded 2 d.day)

end Csv

end SpendLedger
