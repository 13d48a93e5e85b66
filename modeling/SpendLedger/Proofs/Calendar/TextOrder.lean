import SpendLedger.Proofs.Calendar.RoundTrip

/-!
# The order of dates and of their texts

The store keeps days as texts and compares the texts. In the years from 0 to 9999, which are written with four digits and
without a sign, the order of the texts is the order of the calendar; every earlier year has a text that comes before them.
The same holds of the texts of months, of which each month of these years has its own.
-/

namespace SpendLedger

namespace Date

/-! ## The order of the calendar -/

/-- The days of a year are ordered by month, those of a month by day. -/
theorem lt_iff {a b : Date} :
    a < b ↔ a.year < b.year ∨ a.year = b.year ∧ (a.month < b.month ∨ a.month = b.month ∧ a.day < b.day) := by
  have ha := a.isDay
  have hb := b.isDay
  have hlast := daysInMonth_le a.year a.month
  have hlast' := daysInMonth_le b.year b.month
  unfold IsDay at ha hb
  show a.position < b.position ↔ _
  unfold position
  omega

theorem le_iff_not_lt {a b : Date} : a ≤ b ↔ ¬b < a :=
  Int.not_lt.symm

/-- Days are of one month exactly if they are of one year and of months of one number. -/
theorem monthIndex_eq_iff {a b : Date} : a.monthIndex = b.monthIndex ↔ a.year = b.year ∧ a.month = b.month := by
  have ha := a.isDay
  have hb := b.isDay
  unfold IsDay at ha hb
  unfold monthIndex
  omega

theorem monthIndex_lt_iff {a b : Date} :
    a.monthIndex < b.monthIndex ↔ a.year < b.year ∨ a.year = b.year ∧ a.month < b.month := by
  have ha := a.isDay
  have hb := b.isDay
  unfold IsDay at ha hb
  unfold monthIndex
  omega

/-! ## The texts of days -/

/-- The year is written as four digits, without a sign. -/
def IsPlain (d : Date) : Prop :=
  0 ≤ d.year ∧ d.year ≤ 9999

instance (d : Date) : Decidable d.IsPlain :=
  inferInstanceAs (Decidable (_ ∧ _))

theorem toText_inj {a b : Date} : a.toText = b.toText ↔ a = b := by
  constructor
  · intro h
    have hread := read_toText a
    rw [h, read_toText b] at hread
    exact (Except.ok.inj hread).symm
  · rintro rfl
    rfl

theorem toList_toText (d : Date) : d.toText.toList = (yearText d.year).toList ++
    '-' :: ((Text.zeroPadded 2 d.month).toList ++ '-' :: (Text.zeroPadded 2 d.day).toList) := by
  simp [toText]

theorem yearText_of_plain {d : Date} (h : d.IsPlain) : yearText d.year = Text.zeroPadded 4 d.year.natAbs :=
  if_pos h

/-- The texts of years without a sign are ordered as the years, and all of one length. -/
theorem yearText_order {a b : Date} (ha : a.IsPlain) (hb : b.IsPlain) :
    ((yearText a.year).toList < (yearText b.year).toList ↔ a.year < b.year) ∧
      ((yearText a.year).toList = (yearText b.year).toList ↔ a.year = b.year) ∧
      (yearText a.year).toList.length = 4 ∧ (yearText b.year).toList.length = 4 := by
  have hfits : a.year.natAbs < Nat.pow 10 4 ∧ b.year.natAbs < Nat.pow 10 4 := by
    unfold IsPlain at ha hb
    show _ < 10000 ∧ _ < 10000
    omega
  rw [yearText_of_plain ha, yearText_of_plain hb]
  refine ⟨?_, ?_, Text.length_zeroPadded (by decide) hfits.1, Text.length_zeroPadded (by decide) hfits.2⟩
  · rw [Text.zeroPadded_lt_iff (by decide) hfits.1 hfits.2]
    unfold IsPlain at ha hb
    omega
  · rw [Text.zeroPadded_inj]
    unfold IsPlain at ha hb
    omega

/-- A month and a day fit into two digits. -/
theorem field_lt (d : Date) : d.month < Nat.pow 10 2 ∧ d.day < Nat.pow 10 2 := by
  have hday := d.isDay
  have hlast := daysInMonth_le d.year d.month
  unfold IsDay at hday
  show _ < 100 ∧ _ < 100
  omega

/-- The texts of days in years without a sign are ordered as the days. -/
theorem toText_lt_iff {a b : Date} (ha : a.IsPlain) (hb : b.IsPlain) : a.toText < b.toText ↔ a < b := by
  obtain ⟨hyearLt, hyearEq, hlength, hlength'⟩ := yearText_order ha hb
  obtain ⟨hmonth, hday⟩ := field_lt a
  obtain ⟨hmonth', hday'⟩ := field_lt b
  have hmonthLength : (Text.zeroPadded 2 a.month).toList.length = (Text.zeroPadded 2 b.month).toList.length := by
    rw [Text.length_zeroPadded (by decide) hmonth, Text.length_zeroPadded (by decide) hmonth']
  rw [String.lt_iff, toList_toText, toList_toText, Text.append_lt_append_iff (hlength.trans hlength'.symm),
    List.cons_lt_cons_iff, Text.append_lt_append_iff hmonthLength, List.cons_lt_cons_iff, hyearLt, hyearEq,
    Text.zeroPadded_lt_iff (by decide) hmonth hmonth', Text.zeroPadded_inj,
    Text.zeroPadded_lt_iff (by decide) hday hday', lt_iff]
  simp only [Char.lt_irrefl, true_and, false_or]

/-- The text of a day outside the years from 0 to 9999 comes before those of the days inside: it begins with a sign. -/
theorem toText_lt_of_signed {a b : Date} (ha : ¬a.IsPlain) (hb : b.IsPlain) : a.toText < b.toText := by
  have hsign : ∃ sign : Char, sign.toNat < 48 ∧ (yearText a.year).toList =
      sign :: (Text.zeroPadded 4 a.year.natAbs).toList := by
    have hyear : ¬(0 ≤ a.year ∧ a.year ≤ 9999) := ha
    unfold yearText
    rw [if_neg hyear]
    split
    · exact ⟨'-', by decide, String.toList_append⟩
    · exact ⟨'+', by decide, String.toList_append⟩
  obtain ⟨sign, hbefore, hyear⟩ := hsign
  rw [String.lt_iff, toList_toText, toList_toText, hyear, yearText_of_plain hb]
  cases hdigits : (Text.zeroPadded 4 b.year.natAbs).toList with
  | nil => exact absurd hdigits (Text.zeroPadded_ne_nil 4 _)
  | cons c cs =>
    have hdigit := Text.toNat_of_isDigit (Text.isDigit_zeroPadded 4 b.year.natAbs c (hdigits ▸ List.mem_cons_self))
    refine List.cons_lt_cons_iff.2 (Or.inl ?_)
    show sign.toNat < c.toNat
    exact Nat.lt_of_lt_of_le hbefore hdigit.1

/-- The text of a day up to the year 9999 does not come after that of a day in a year without a sign exactly if the day
does not. -/
theorem toText_le_iff {a b : Date} (ha : a.year ≤ 9999) (hb : b.IsPlain) : a.toText ≤ b.toText ↔ a ≤ b := by
  rw [← String.not_lt, le_iff_not_lt]
  by_cases hneg : a.year < 0
  · have hbefore : ¬b < a := by
      rw [lt_iff]
      unfold IsPlain at hb
      omega
    have hsigned : ¬a.IsPlain := fun hplain => absurd hplain.1 (Int.not_le.2 hneg)
    exact iff_of_true (String.lt_asymm (toText_lt_of_signed hsigned hb)) hbefore
  · rw [toText_lt_iff hb ⟨by omega, ha⟩]

/-- A day whose text does not come before that of a day in a year without a sign is in such a year too. -/
theorem isPlain_of_toText_le {a b : Date} (ha : a.IsPlain) (h : a.toText ≤ b.toText) : b.IsPlain :=
  Decidable.byContradiction fun hsigned => String.not_lt.2 h (toText_lt_of_signed hsigned ha)

/-- The text of a day in a year without a sign does not come after that of another exactly if the other is in such a year
too and not before the day. -/
theorem toText_le_iff_of_plain {a b : Date} (ha : a.IsPlain) : a.toText ≤ b.toText ↔ b.IsPlain ∧ a ≤ b := by
  constructor
  · intro h
    have hb := isPlain_of_toText_le ha h
    exact ⟨hb, (toText_le_iff ha.2 hb).1 h⟩
  · exact fun ⟨hb, hle⟩ => (toText_le_iff ha.2 hb).2 hle

/-- The text of a day does not come after that of a day in a year without a sign exactly if the day does not, or is after
the year 9999. -/
theorem toText_le_plain_iff {a b : Date} (hb : b.IsPlain) : a.toText ≤ b.toText ↔ a ≤ b ∨ 9999 < a.year := by
  by_cases hyear : a.year ≤ 9999
  · rw [toText_le_iff hyear hb]
    exact ⟨Or.inl, fun h => h.resolve_right (Int.not_lt.2 hyear)⟩
  · have hsigned : ¬a.IsPlain := fun hplain => hyear hplain.2
    exact iff_of_true (String.lt_asymm (toText_lt_of_signed hsigned hb)) (Or.inr (Int.not_le.1 hyear))

/-! ## The texts of months -/

/-- The text of a month, with its number counted from the first month of the year 0. -/
def monthName (index : Int) : String :=
  yearText (index / 12) ++ "-" ++ Text.zeroPadded 2 ((index % 12).toNat + 1)

/-- The month of a day, as text. -/
def monthText (d : Date) : String :=
  yearText d.year ++ "-" ++ Text.zeroPadded 2 d.month

/-- The text of a day's month is that of the month's number. -/
theorem monthText_eq (d : Date) : d.monthText = monthName d.monthIndex := by
  have hday := d.isDay
  unfold IsDay at hday
  unfold monthText monthName monthIndex
  have hyear : (d.year * 12 + d.month - 1) / 12 = d.year := by omega
  have hmonth : ((d.year * 12 + d.month - 1) % 12).toNat + 1 = d.month := by omega
  rw [hyear, hmonth]

/-- The text of a day in a year without a sign begins with the text of its month, which has seven characters. -/
theorem take_toText {d : Date} (h : d.IsPlain) : String.ofList (d.toText.toList.take 7) = d.monthText := by
  obtain ⟨_, _, hyear, _⟩ := yearText_order h h
  have hmonth := Text.length_zeroPadded (by decide) (field_lt d).1
  have hfront : d.toText.toList = d.monthText.toList ++ '-' :: (Text.zeroPadded 2 d.day).toList := by
    simp [toText, monthText]
  have hlength : d.monthText.toList.length = 7 := by
    simp only [monthText, String.toList_append, List.length_append, hyear, hmonth]
    rfl
  rw [hfront, List.take_left' hlength, String.ofList_toList]

/-- The texts of the months of days in years without a sign are ordered as the months. -/
theorem monthText_lt_iff {a b : Date} (ha : a.IsPlain) (hb : b.IsPlain) :
    a.monthText < b.monthText ↔ a.monthIndex < b.monthIndex := by
  obtain ⟨hyearLt, hyearEq, hlength, hlength'⟩ := yearText_order ha hb
  have htext : ∀ d : Date, d.monthText.toList = (yearText d.year).toList ++ '-' :: (Text.zeroPadded 2 d.month).toList := by
    simp [monthText]
  rw [String.lt_iff, htext, htext, Text.append_lt_append_iff (hlength.trans hlength'.symm), List.cons_lt_cons_iff,
    hyearLt, hyearEq, Text.zeroPadded_lt_iff (by decide) (field_lt a).1 (field_lt b).1, monthIndex_lt_iff]
  simp only [Char.lt_irrefl, true_and, false_or]

/-- Days in years without a sign are of one month exactly if the texts of their months are the same. -/
theorem monthText_inj {a b : Date} (ha : a.IsPlain) (hb : b.IsPlain) :
    a.monthText = b.monthText ↔ a.monthIndex = b.monthIndex := by
  constructor
  · intro h
    have hab : ¬a.monthIndex < b.monthIndex := fun hlt => String.lt_irrefl _ (h ▸ (monthText_lt_iff ha hb).2 hlt)
    have hba : ¬b.monthIndex < a.monthIndex := fun hlt => String.lt_irrefl _ (h ▸ (monthText_lt_iff hb ha).2 hlt)
    omega
  · intro h
    rw [monthText_eq, monthText_eq, h]

theorem monthIndex_le {a b : Date} (h : a ≤ b) : a.monthIndex ≤ b.monthIndex := by
  have ha := a.isDay
  have hb := b.isDay
  rw [le_iff_not_lt, lt_iff] at h
  unfold IsDay at ha hb
  unfold monthIndex
  omega

end Date

end SpendLedger
