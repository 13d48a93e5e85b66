import SpendLedger.Proofs.Calendar.EightDigits
import SpendLedger.Proofs.Provider.Columns

/-!
# How Azure writes a day

A day comes as a number of eight digits, as the same digits in a text, or as a text that begins with the day. In the years from
0 to 9999 all three are read as that day. The year of a number is kept in a word of 32 bits, so that numbers which are whole
periods apart are taken for one day: only below half a period a number is read as no day but the one whose digits it has.
-/

namespace SpendLedger

namespace Provider

namespace Azure

/-! ## Numbers -/

/-- How far apart the numbers are that are taken for one day. -/
def numberPeriod : Int := Word.values 32 * 10000

theorem numberPeriod_eq : numberPeriod = 42949672960000 := by decide

/-- A number of 64 bits is taken for a day: it is not negative, and it is the number of that day but for whole periods. -/
def IsTakenFor (n : Int) (d : Date) : Prop :=
  Word.holdsSigned 64 n = true ∧ 0 ≤ n ∧ numberPeriod ∣ n - d.number

/-- A number is read as a day exactly if it is not negative and the number of the day but for whole periods. -/
theorem dateOfNumber?_eq_some_iff {n : Int} {d : Date} :
    dateOfNumber? n = some d ↔ 0 ≤ n ∧ numberPeriod ∣ n - d.number := by
  have hday := d.isDay
  have hlast := Date.daysInMonth_le d.year d.month
  unfold IsDay at hday
  simp only [minYear, maxYear] at hday
  have hvalues : Word.values 32 = 4294967296 := by decide
  simp only [dateOfNumber?, Date.of?_eq_some_iff, Word.wrap, Word.wrapSigned, hvalues, numberPeriod_eq, Date.number]
  rcases Int.le_total 0 n with hn | hn
  · rw [Int.tdiv_eq_ediv_of_nonneg hn, Int.tmod_eq_emod_of_nonneg hn, Int.tdiv_eq_ediv_of_nonneg (by omega),
      Int.tmod_eq_emod_of_nonneg (by omega), eq_comm, Int.bmod_eq_iff (by decide)]
    omega
  · -- what is left of a number below zero is no day of a month: zero, or a word close to the largest one
    obtain ⟨m, rfl⟩ : ∃ m, n = -m := ⟨-n, by omega⟩
    rw [Int.neg_tmod, Int.neg_tmod, Int.tmod_eq_emod_of_nonneg (show 0 ≤ m by omega),
      Int.tmod_eq_emod_of_nonneg (by omega)]
    omega

/-- Below half a period a number is taken for no day but its own. -/
theorem isTakenFor_and_lt_iff {n : Int} {d : Date} :
    IsTakenFor n d ∧ n < numberPeriod / 2 ↔ 0 ≤ n ∧ n = d.number := by
  have hbounds := d.number_bounds
  have hword : Word.holdsSigned 64 n = true ↔ -9223372036854775808 ≤ n ∧ n < 9223372036854775808 := by
    rw [Word.holdsSigned, Bool.and_eq_true, decide_eq_true_iff, decide_eq_true_iff]
    rfl
  simp only [minYear, maxYear] at hbounds
  rw [IsTakenFor, hword, numberPeriod_eq]
  omega

/-- The numbers that are taken for one day are whole periods apart. -/
theorem IsTakenFor.iff_dvd_sub {n : Int} {d : Date} (h : IsTakenFor n d) {m : Int} :
    IsTakenFor m d ↔ Word.holdsSigned 64 m = true ∧ 0 ≤ m ∧ numberPeriod ∣ m - n := by
  have hapart : m - d.number = (m - n) + (n - d.number) := by omega
  rw [IsTakenFor, hapart, Int.dvd_add_left h.2.2]

/-- A number is read as the day that it is taken for. -/
theorem usageDate?_integer {n : Int} {d : Date} : usageDate? (.integer n) = some d ↔ IsTakenFor n d := by
  show (if Word.holdsSigned 64 n then dateOfNumber? n else none) = some d ↔ _
  unfold IsTakenFor
  by_cases hword : Word.holdsSigned 64 n = true
  · rw [if_pos hword, dateOfNumber?_eq_some_iff, and_iff_right hword]
  · rw [if_neg hword]
    exact iff_of_false nofun fun h => hword h.1

/-- The day of a row with a number in the column of the day is the one that the number is taken for, or the usual one. -/
theorem usageRow?_date {names : List String} {row : Tree} {fallback : Date} {u : UsageRow} {n : Int}
    (hrow : usageRow? names fallback row = some u) (hcell : cell? names row .date = some (.integer n)) :
    CostTable.IsFoundOr (IsTakenFor n) fallback u.date := by
  obtain ⟨cost, -, hu⟩ := Option.bind_eq_some_iff.1 hrow
  cases hu
  rw [hcell, Option.bind_some]
  exact CostTable.isFoundOr_getD (fun _ => usageDate?_integer) fallback

/-- How numbers are read as days.
1. A number is read exactly as the day that it is taken for.
2. It is taken for the day whose digits it has exactly if it lies below half a period; above, it is taken for a day whose digits
   it does not have, if it is taken for one.
3. The numbers that are read as the same day are those that are whole periods apart.
4. A row with a number in the column of the day has the day that the number is taken for, or the usual one if there is none. -/
theorem usageDate?_number (n : Int) :
    (∀ d, usageDate? (.integer n) = some d ↔ IsTakenFor n d) ∧
      (∀ d, IsTakenFor n d → (n = d.number ↔ n < numberPeriod / 2)) ∧
      (∀ d, IsTakenFor n d → ∀ m, usageDate? (.integer m) = some d ↔
        Word.holdsSigned 64 m = true ∧ 0 ≤ m ∧ numberPeriod ∣ m - n) ∧
      ∀ names row fallback u, usageRow? names fallback row = some u → cell? names row .date = some (.integer n) →
        CostTable.IsFoundOr (IsTakenFor n) fallback u.date := by
  refine ⟨fun d => usageDate?_integer, fun d h => ⟨fun hown => ?_, fun hlow => ?_⟩,
    fun d h m => usageDate?_integer.trans h.iff_dvd_sub, fun _ _ _ _ => usageRow?_date⟩
  · exact (isTakenFor_and_lt_iff.2 ⟨h.2.1, hown⟩).2
  · exact (isTakenFor_and_lt_iff.1 ⟨h, hlow⟩).2

/-- A leap day in a year that ends a century. -/
def leapDay : Date := ⟨2000, 2, 29, by decide⟩

/-- One period above the number of a day that day is read, and a row with such a number has that day and not the usual one. -/
theorem usageDate?_number_leapDay :
    usageDate? (.integer 42949692960229) = some leapDay ∧ (42949692960229 : Int) = leapDay.number + numberPeriod ∧
      42949692960229 ≠ leapDay.number ∧
      ∀ u, usageRow? ["Cost", "UsageDate"] Date.min (.list [.integer 1, .integer 42949692960229]) = some u →
        u.date = leapDay := by
  obtain ⟨hread, hown, -, hrow⟩ := usageDate?_number 42949692960229
  have htaken : IsTakenFor 42949692960229 leapDay := by
    unfold IsTakenFor
    decide +kernel
  refine ⟨(hread _).2 htaken, by decide, fun heq => absurd ((hown _ htaken).1 heq) (by decide), fun u hu => ?_⟩
  rcases hrow _ _ _ u hu rfl with hfound | ⟨hnone, -⟩
  · exact Option.some.inj (((hread _).2 hfound).symm.trans ((hread _).2 htaken))
  · exact absurd htaken (hnone _)

/-- That no number is read as a day but the one whose digits it has fails for a number of fourteen digits. -/
theorem usageDate?_number_false :
    ¬∀ (n : Int) (d : Date), Word.holdsSigned 64 n = true → usageDate? (.integer n) = some d →
      n = d.year * 10000 + d.month * 100 + d.day := by
  intro h
  have hread : usageDate? (.integer 42949692960229) = some leapDay := by decide +kernel
  exact absurd (h _ _ (by decide) hread) (by decide)

/-! ## Texts -/

/-- Eight digits are read as the day whose number they write. -/
theorem usageDate?_eightDigits {s : String} (hs : Text.IsEightDigits s) {d : Date} :
    usageDate? (.text s) = some d ↔ d.number = Text.digitsValue s.toList := by
  have hdigits : s.toList.length = 8 ∧ s.toList.all Char.isDigit = true := ⟨hs.1, List.all_eq_true.2 hs.2⟩
  show (if s.toList.length = 8 ∧ s.toList.all Char.isDigit = true then _ else _) = some d ↔ _
  rw [if_pos hdigits, Date.ofCompact?_eq_some_iff hs.1 hs.2]

/-- A text that begins with a day and its hyphens is read as that day. -/
theorem usageDate?_leading {d : Date} (h : d.IsPlain) (suffix : String) :
    usageDate? (.text (d.toText ++ suffix)) = some d := by
  have hhyphen : '-' ∈ (d.toText ++ suffix).toList := by
    rw [String.toList_append, Date.toList_toText]
    simp
  show (if _ ∧ (d.toText ++ suffix).toList.all Char.isDigit = true then _ else _) = some d
  rw [if_neg fun hdigits => absurd (List.all_eq_true.1 hdigits.2 _ hhyphen) (by decide)]
  exact Date.ofLeadingText?_append h suffix

/-- All ways of writing a day say the same.
1. Each day of the years from 0 to 9999 is read from the number with its digits, from the text of these eight digits, and from
   every text that begins with it, with hyphens.
2. Eight digits say the same as a text and as a number. They say the day whose digits they are, and nothing if there is none. -/
theorem usageDate?_encodings :
    (∀ d : Date, d.IsPlain →
      usageDate? (.integer (d.year * 10000 + d.month * 100 + d.day)) = some d ∧
        (Text.IsEightDigits d.toCompactText ∧ usageDate? (.text d.toCompactText) = some d) ∧
        ∀ suffix, usageDate? (.text (d.toText ++ suffix)) = some d) ∧
    ∀ s : String, Text.IsEightDigits s →
      usageDate? (.text s) = usageDate? (.integer (Text.digitsValue s.toList)) ∧
        ∀ d, usageDate? (.text s) = some d ↔ d.IsPlain ∧ s = d.toCompactText := by
  have hsame : ∀ {s : String}, Text.IsEightDigits s → ∀ d,
      usageDate? (.text s) = some d ↔ usageDate? (.integer (Text.digitsValue s.toList)) = some d := by
    intro s hs d
    have hsmall : (Text.digitsValue s.toList : Int) < numberPeriod / 2 := by
      have hvalue := Text.digitsValue_lt hs.2
      rw [hs.1] at hvalue
      exact Int.lt_trans (Int.ofNat_lt.2 hvalue) (by decide)
    have htaken := isTakenFor_and_lt_iff (n := Text.digitsValue s.toList) (d := d)
    rw [and_iff_left hsmall, and_iff_right (Int.natCast_nonneg _)] at htaken
    rw [usageDate?_eightDigits hs, usageDate?_integer, htaken, eq_comm]
  refine ⟨fun d hd => ?_, fun s hs => ⟨Option.ext (hsame hs), fun d => ?_⟩⟩
  · obtain ⟨hdigits, hvalue⟩ := Date.isEightDigits_toCompactText hd
    have htext := (usageDate?_eightDigits hdigits).2 hvalue.symm
    have hnumber := (hsame hdigits d).1 htext
    rw [hvalue] at hnumber
    exact ⟨hnumber, ⟨hdigits, htext⟩, usageDate?_leading hd⟩
  · exact (usageDate?_eightDigits hs).trans (Date.number_eq_digitsValue_iff hs)

/-- A leap day is read from all of these, and nothing from the digits of the day that the year 1900 does not have. -/
theorem usageDate?_encodings_leapDay :
    leapDay.IsPlain ∧ usageDate? (.integer 20000229) = some leapDay ∧ usageDate? (.text "20000229") = some leapDay ∧
      usageDate? (.text "2000-02-29T00:00:00") = some leapDay ∧ Text.IsEightDigits "19000229" ∧
      usageDate? (.text "19000229") = none ∧ usageDate? (.integer 19000229) = none := by
  obtain ⟨hdays, hdigits⟩ := usageDate?_encodings
  obtain ⟨hnumber, ⟨-, htext⟩, hleading⟩ := hdays leapDay (by decide)
  have height : Text.IsEightDigits "19000229" := ⟨by decide, List.all_eq_true.1 (by decide)⟩
  obtain ⟨hsame, -⟩ := hdigits "19000229" height
  have hnone : usageDate? (.text "19000229") = none := by decide +kernel
  exact ⟨by decide, hnumber, htext, hleading "T00:00:00", height, hnone, hsame.symm.trans hnone⟩

end Azure

end Provider

end SpendLedger
