import SpendLedger.Proofs.Calendar.TextOrder

/-!
# Days in eight digits

The digits of a year, a month and a day, one after the other, are those of the number of a day. In the years from 0 to 9999
eight digits are enough, and eight digits are read as the day of their number or, if there is no such day, not at all. The
first ten bytes of a text tell a day of these years with hyphens, whatever follows.
-/

namespace SpendLedger

namespace Text

/-- The digits before others count by their place. -/
theorem digitsValue_append (cs ds : List Char) :
    digitsValue (cs ++ ds) = digitsValue cs * Nat.pow 10 ds.length + digitsValue ds := by
  induction cs with
  | nil => simp [digitsValue]
  | cons c cs ih =>
    have hpow : Nat.pow 10 (cs.length + ds.length) = Nat.pow 10 cs.length * Nat.pow 10 ds.length := Nat.pow_add 10 _ _
    rw [List.cons_append, digitsValue_cons, digitsValue_cons, ih, List.length_append, hpow, Nat.add_mul, Nat.mul_assoc,
      Nat.add_assoc]

/-- Digits of one length that write one number are the same. -/
theorem digitsValue_inj {cs ds : List Char} (hcs : ∀ c ∈ cs, c.isDigit) (hds : ∀ d ∈ ds, d.isDigit)
    (hlength : cs.length = ds.length) : digitsValue cs = digitsValue ds ↔ cs = ds := by
  constructor
  · intro h
    refine List.le_antisymm (List.not_lt.1 fun hgt => ?_) (List.not_lt.1 fun hlt => ?_)
    · exact absurd ((digits_lt_iff hds hcs hlength.symm).1 hgt) (by omega)
    · exact absurd ((digits_lt_iff hcs hds hlength).1 hlt) (by omega)
  · rintro rfl
    rfl

theorem utf8Size_of_isDigit {c : Char} (h : c.isDigit) : c.utf8Size = 1 :=
  Char.utf8Size_eq_one_iff.2 (Nat.le_trans (toNat_of_isDigit h).2 (by decide))

/-- Characters of one byte each are as many bytes of a text that begins with them. -/
theorem takeBytes?_append {front : List Char} (h : ∀ c ∈ front, c.utf8Size = 1) (rest : List Char) :
    takeBytes? front.length (front ++ rest) = some front := by
  induction front with
  | nil => rw [List.length_nil, takeBytes?]
  | cons c front ih =>
    have hc := h c List.mem_cons_self
    rw [List.cons_append, List.length_cons, takeBytes?, hc, if_pos (by omega), Nat.add_sub_cancel,
      ih fun d hd => h d (List.mem_cons_of_mem _ hd), Option.map_some]

/-- A text of eight digits. -/
def IsEightDigits (s : String) : Prop :=
  s.toList.length = 8 ∧ ∀ c ∈ s.toList, c.isDigit

end Text

namespace Date

/-- Three numbers name a day exactly if they are its year, its month and its day of the month. -/
theorem of?_eq_some_iff {year : Int} {month day : Nat} {d : Date} :
    of? year month day = some d ↔ d.year = year ∧ d.month = month ∧ d.day = day := by
  unfold of?
  constructor
  · intro h
    split at h
    · cases h
      exact ⟨rfl, rfl, rfl⟩
    · cases h
  · rintro ⟨rfl, rfl, rfl⟩
    exact dif_pos d.isDay

theorem field_lt_hundred (d : Date) : d.month < 100 ∧ d.day < 100 :=
  field_lt d

/-! ## Numbers of days -/

/-- The number whose decimal digits are those of the year, of the month and of the day, one after the other. -/
def number (d : Date) : Int :=
  d.year * 10000 + d.month * 100 + d.day

/-- The numbers of days reach as far as the years do. -/
theorem number_bounds (d : Date) : minYear * 10000 ≤ d.number ∧ d.number < (maxYear + 1) * 10000 := by
  have hday := d.isDay
  have hlast := daysInMonth_le d.year d.month
  unfold IsDay at hday
  unfold number
  omega

/-! ## Texts of eight digits -/

/-- The text of a day without hyphens has eight digits, which write the number of the day. -/
theorem isEightDigits_toCompactText {d : Date} (h : d.IsPlain) :
    Text.IsEightDigits d.toCompactText ∧ (Text.digitsValue d.toCompactText.toList : Int) = d.number := by
  have hyear : d.year.natAbs < Nat.pow 10 4 := by
    unfold IsPlain at h
    show _ < 10000
    omega
  obtain ⟨hmonth, hday⟩ := field_lt d
  have htext : d.toCompactText.toList = (Text.zeroPadded 4 d.year.natAbs).toList ++
      ((Text.zeroPadded 2 d.month).toList ++ (Text.zeroPadded 2 d.day).toList) := by
    simp [toCompactText, yearText_of_plain h]
  have hlength := Text.length_zeroPadded (by decide : 0 < 4) hyear
  have hlength' := Text.length_zeroPadded (by decide : 0 < 2) hmonth
  have hlength'' := Text.length_zeroPadded (by decide : 0 < 2) hday
  refine ⟨⟨?_, fun c hc => ?_⟩, ?_⟩
  · rw [htext, List.length_append, List.length_append, hlength, hlength', hlength'']
  · rw [htext, List.mem_append, List.mem_append] at hc
    rcases hc with hc | hc | hc
    · exact Text.isDigit_zeroPadded _ _ c hc
    · exact Text.isDigit_zeroPadded _ _ c hc
    · exact Text.isDigit_zeroPadded _ _ c hc
  · rw [htext, Text.digitsValue_append, Text.digitsValue_append, List.length_append, hlength', hlength'',
      Text.digitsValue_zeroPadded, Text.digitsValue_zeroPadded, Text.digitsValue_zeroPadded]
    unfold IsPlain at h
    simp only [number, show Nat.pow 10 (2 + 2) = 10000 from rfl, show Nat.pow 10 2 = 100 from rfl]
    omega

/-- The numbers that eight digits write in fours and twos make up the one that they write together. -/
theorem digitsValue_parts {cs : List Char} (hlength : cs.length = 8) (hcs : ∀ c ∈ cs, c.isDigit) :
    (Text.digitsValue (cs.take 4) < 10000 ∧ Text.digitsValue ((cs.drop 4).take 2) < 100 ∧
      Text.digitsValue (cs.drop 6) < 100) ∧
    Text.digitsValue cs = Text.digitsValue (cs.take 4) * 10000 + Text.digitsValue ((cs.drop 4).take 2) * 100 +
      Text.digitsValue (cs.drop 6) := by
  have hwhole : cs.take 4 ++ ((cs.drop 4).take 2 ++ cs.drop 6) = cs := by
    rw [show 6 = 4 + 2 from rfl, ← List.drop_drop, List.take_append_drop, List.take_append_drop]
  have hfour : (cs.take 4).length = 4 := by simp [hlength]
  have htwo : ((cs.drop 4).take 2).length = 2 := by simp [hlength]
  have htwo' : (cs.drop 6).length = 2 := by simp [hlength]
  have hyear : ∀ c ∈ cs.take 4, c.isDigit := fun c hc => hcs c (List.mem_of_mem_take hc)
  have hmonth : ∀ c ∈ (cs.drop 4).take 2, c.isDigit := fun c hc => hcs c (List.mem_of_mem_drop (List.mem_of_mem_take hc))
  have hday : ∀ c ∈ cs.drop 6, c.isDigit := fun c hc => hcs c (List.mem_of_mem_drop hc)
  have hyearLt := hfour ▸ Text.digitsValue_lt hyear
  have hmonthLt := htwo ▸ Text.digitsValue_lt hmonth
  have hdayLt := htwo' ▸ Text.digitsValue_lt hday
  have hvalue := Text.digitsValue_append (cs.take 4) ((cs.drop 4).take 2 ++ cs.drop 6)
  rw [hwhole, Text.digitsValue_append, List.length_append, htwo, htwo'] at hvalue
  simp only [show Nat.pow 10 4 = 10000 from rfl, show Nat.pow 10 2 = 100 from rfl] at hyearLt hmonthLt hdayLt hvalue
  exact ⟨⟨hyearLt, hmonthLt, hdayLt⟩, hvalue.trans (Nat.add_assoc _ _ _).symm⟩

/-- Eight digits are read as the day whose number they write. -/
theorem ofCompact?_eq_some_iff {cs : List Char} (hlength : cs.length = 8) (hcs : ∀ c ∈ cs, c.isDigit) {d : Date} :
    ofCompact? cs = some d ↔ d.number = Text.digitsValue cs := by
  obtain ⟨hbounds, hvalue⟩ := digitsValue_parts hlength hcs
  obtain ⟨hmonth, hday⟩ := field_lt_hundred d
  rw [ofCompact?, of?_eq_some_iff, hvalue, number]
  omega

/-- Eight digits write the number of a day exactly if they are its text without hyphens, in the years from 0 to 9999. -/
theorem number_eq_digitsValue_iff {s : String} (hs : Text.IsEightDigits s) {d : Date} :
    d.number = Text.digitsValue s.toList ↔ d.IsPlain ∧ s = d.toCompactText := by
  constructor
  · intro h
    have hsmall : Text.digitsValue s.toList < Nat.pow 10 8 := hs.1 ▸ Text.digitsValue_lt hs.2
    have hplain : d.IsPlain := by
      obtain ⟨hmonth, hday⟩ := field_lt_hundred d
      rw [show Nat.pow 10 8 = 100000000 from rfl] at hsmall
      unfold number at h
      unfold IsPlain
      omega
    obtain ⟨hdigits, hvalue⟩ := isEightDigits_toCompactText hplain
    have hsame := (Text.digitsValue_inj hs.2 hdigits.2 (hs.1.trans hdigits.1.symm)).1 (by omega)
    exact ⟨hplain, String.toList_inj.1 hsame⟩
  · rintro ⟨hplain, rfl⟩
    exact (isEightDigits_toCompactText hplain).2.symm

/-! ## The first bytes of a text -/

/-- The text of a day in the years from 0 to 9999 has ten characters of one byte each. -/
theorem toText_bytes {d : Date} (h : d.IsPlain) :
    d.toText.toList.length = 10 ∧ ∀ c ∈ d.toText.toList, c.utf8Size = 1 := by
  obtain ⟨hmonth, hday⟩ := field_lt d
  obtain ⟨-, -, hyear, -⟩ := yearText_order h h
  have hdigits : ∀ c ∈ (yearText d.year).toList, c.isDigit := by
    rw [yearText_of_plain h]
    exact Text.isDigit_zeroPadded _ _
  rw [toList_toText]
  constructor
  · rw [List.length_append, List.length_cons, List.length_append, List.length_cons, hyear,
      Text.length_zeroPadded (by decide) hmonth, Text.length_zeroPadded (by decide) hday]
  · intro c hc
    simp only [List.mem_append, List.mem_cons] at hc
    rcases hc with hc | rfl | hc | rfl | hc
    · exact Text.utf8Size_of_isDigit (hdigits c hc)
    · decide
    · exact Text.utf8Size_of_isDigit (Text.isDigit_zeroPadded _ _ c hc)
    · decide
    · exact Text.utf8Size_of_isDigit (Text.isDigit_zeroPadded _ _ c hc)

/-- The first ten bytes of a text are read as the day whose text they are, whatever follows. -/
theorem ofLeadingText?_append {d : Date} (h : d.IsPlain) (suffix : String) :
    ofLeadingText? (d.toText ++ suffix) = some d := by
  obtain ⟨hlength, hbytes⟩ := toText_bytes h
  have hread : readWith id d.toText.toList = .ok d := read_toText d
  have hfront := Text.takeBytes?_append hbytes suffix.toList
  rw [hlength] at hfront
  rw [ofLeadingText?, String.toList_append, hfront, Option.bind_some, hread]
  rfl

end Date

end SpendLedger
