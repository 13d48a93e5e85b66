import SpendLedger.Calendar.DateText
import SpendLedger.Proofs.Text.Digits

/-!
# Dates read back

The text of a date is read as that date, whatever its year: years from 0 to 9999 are read as four digits, all others by
their sign, behind which any number of digits may stand.
-/

namespace SpendLedger

namespace Date

/-! ## The parts of a date's text -/

/-- A padded number is read as itself, if no digit follows within the limit. -/
theorem digits_zeroPadded {limit width n : Nat} {rest : List Char}
    (hlimit : (Text.zeroPadded width n).toList.length ≤ limit)
    (hrest : (rest.take (limit - (Text.zeroPadded width n).toList.length)).takeWhile Char.isDigit = [])
    (hn : Word.holds 63 n = true) : digits limit ((Text.zeroPadded width n).toList ++ rest) = .ok (n, rest) := by
  have hfront : (((Text.zeroPadded width n).toList ++ rest).take limit).takeWhile Char.isDigit =
      (Text.zeroPadded width n).toList := by
    rw [List.take_append, List.take_of_length_le hlimit,
      List.takeWhile_append_of_pos (Text.isDigit_zeroPadded width n), hrest, List.append_nil]
  have hne := Text.zeroPadded_ne_nil width n
  simp [digits, hfront, hne, Text.digitsValue_zeroPadded, hn]

theorem holds_of_lt {n : Nat} (h : n < 1000000) : Word.holds 63 n = true :=
  decide_eq_true (Nat.lt_of_lt_of_le h (by decide))

/-- A month or a day is read as itself. -/
theorem readField_zeroPadded {last n : Nat} {rest : List Char} (hn : 1 ≤ n ∧ n ≤ last) (hlast : last < 100) :
    readField last ((Text.zeroPadded 2 n).toList ++ rest) = .ok (n, rest) := by
  have hlength : (Text.zeroPadded 2 n).toList.length = 2 := Text.length_zeroPadded (by decide) (show n < 100 by omega)
  have hdigits : digits 2 ((Text.zeroPadded 2 n).toList ++ rest) = .ok (n, rest) :=
    digits_zeroPadded (Nat.le_of_eq hlength) (by simp [hlength]) (holds_of_lt (by omega))
  unfold readField
  rw [Text.trimStart_digits (Text.zeroPadded_ne_nil 2 n) (Text.isDigit_zeroPadded 2 n), hdigits]
  exact if_pos hn

theorem daysInMonth_le (year : Int) (month : Nat) : daysInMonth year month ≤ 31 := by
  unfold daysInMonth
  split
  · split <;> decide
  · split <;> decide

/-- A year that a date can have fits into the word that it is read into. -/
theorem holdsSigned_year {year : Int} (h : minYear ≤ year ∧ year ≤ maxYear) : Word.holdsSigned 32 year = true := by
  have hvalues : (Word.values 31 : Int) = 2147483648 := by decide
  simp only [minYear, maxYear] at h
  simp only [Word.holdsSigned, Bool.and_eq_true, decide_eq_true_eq, hvalues]
  omega

theorem readSigned_minus (cs : List Char) :
    readSigned ('-' :: cs) = (digits cs.length cs).map fun found => (-(found.1 : Int), found.2) := rfl

theorem readSigned_plus (cs : List Char) :
    readSigned ('+' :: cs) = (digits cs.length cs).map fun found => ((found.1 : Int), found.2) := rfl

/-- Without a sign at most four digits are read. -/
theorem readSigned_digits {ds : List Char} (hne : ds ≠ []) (hds : ∀ c ∈ ds, c.isDigit) (rest : List Char) :
    readSigned (ds ++ rest) = (digits 4 (ds ++ rest)).map fun found => ((found.1 : Int), found.2) := by
  unfold readSigned
  rw [Text.trimStart_digits hne hds]
  -- the text begins with a digit, so that none of the signs matches
  cases ds with
  | nil => exact absurd rfl hne
  | cons c cs =>
    have hc : c.isDigit := hds c List.mem_cons_self
    split
    next heq =>
      cases heq
      exact absurd hc (by decide)
    next heq =>
      cases heq
      exact absurd hc (by decide)
    next => rfl

/-- The text of a year is read as that year, with a sign before it or without. -/
theorem readSigned_yearText {year : Int} (hyear : minYear ≤ year ∧ year ≤ maxYear) (rest : List Char) :
    readSigned ((yearText year).toList ++ '-' :: rest) = .ok (year, '-' :: rest) := by
  have hsmall : year.natAbs < 1000000 := by
    simp only [minYear, maxYear] at hyear
    omega
  have hstop : ∀ k, (('-' :: rest).take k).takeWhile Char.isDigit = [] := by
    intro k
    cases k <;> rfl
  have hread : ∀ limit, (Text.zeroPadded 4 year.natAbs).toList.length ≤ limit →
      digits limit ((Text.zeroPadded 4 year.natAbs).toList ++ '-' :: rest) = .ok (year.natAbs, '-' :: rest) :=
    fun limit hlimit => digits_zeroPadded hlimit (hstop _) (holds_of_lt hsmall)
  have hlong := hread ((Text.zeroPadded 4 year.natAbs).toList ++ '-' :: rest).length (by simp)
  unfold yearText
  split
  next hplain =>
    have hlength : (Text.zeroPadded 4 year.natAbs).toList.length = 4 :=
      Text.length_zeroPadded (by decide) (show year.natAbs < 10000 by omega)
    have habs : (year.natAbs : Int) = year := by omega
    rw [readSigned_digits (Text.zeroPadded_ne_nil 4 year.natAbs) (Text.isDigit_zeroPadded 4 year.natAbs),
      hread 4 (Nat.le_of_eq hlength)]
    simp only [Except.map, habs]
  next hsigned =>
    rw [String.toList_append, List.append_assoc]
    split
    next hneg =>
      have habs : -(year.natAbs : Int) = year := by omega
      have hminus : "-".toList = ['-'] := rfl
      rw [hminus, List.cons_append, List.nil_append, readSigned_minus, hlong]
      simp only [Except.map, habs]
    next hpos =>
      have habs : (year.natAbs : Int) = year := by omega
      have hplus : "+".toList = ['+'] := rfl
      rw [hplus, List.cons_append, List.nil_append, readSigned_plus, hlong]
      simp only [Except.map, habs]

/-- The text of a year is read as that year, which fits into its word. -/
theorem readYear_yearText {year : Int} (hyear : minYear ≤ year ∧ year ≤ maxYear) (rest : List Char) :
    readYear ((yearText year).toList ++ '-' :: rest) = .ok (year, '-' :: rest) := by
  unfold readYear
  rw [readSigned_yearText hyear]
  exact if_pos (holdsSigned_year hyear)

/-! ## The whole -/

/-- The text of a date is read as that date, whatever is skipped after its numbers, as long as a hyphen is not. -/
theorem readWith_toText {skip : List Char → List Char} (hhyphen : ∀ rest, skip ('-' :: rest) = '-' :: rest)
    (hend : skip [] = []) (d : Date) : readWith skip d.toText.toList = .ok d := by
  have hday := d.isDay
  have hmonth : readField 12 ((Text.zeroPadded 2 d.month).toList ++ '-' :: (Text.zeroPadded 2 d.day).toList) =
      .ok (d.month, '-' :: (Text.zeroPadded 2 d.day).toList) := readField_zeroPadded hday.2.1 (by decide)
  have hlast : readField 31 ((Text.zeroPadded 2 d.day).toList ++ []) = .ok (d.day, []) :=
    readField_zeroPadded ⟨hday.2.2.1, Nat.le_trans hday.2.2.2 (daysInMonth_le d.year d.month)⟩ (by decide)
  have hof : of? d.year d.month d.day = some d := dif_pos hday
  have htext : d.toText.toList = (yearText d.year).toList ++
      '-' :: ((Text.zeroPadded 2 d.month).toList ++ '-' :: (Text.zeroPadded 2 d.day).toList) := by
    simp [toText]
  rw [List.append_nil] at hlast
  simp only [readWith, htext, readYear_yearText hday.1, readHyphen]
  simp [bind, Except.bind, hhyphen, hend, hmonth, hlast, hof]

/-- The text of a date is read as that date. -/
theorem read_toText (d : Date) : read d.toText = .ok d :=
  readWith_toText (fun _ => rfl) rfl d

theorem readLoose_toText (d : Date) : readLoose d.toText = .ok d :=
  readWith_toText (fun _ => rfl) rfl d

end Date

end SpendLedger
