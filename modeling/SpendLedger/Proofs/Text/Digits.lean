import SpendLedger.Text.Basic

/-!
# Numbers written in digits

A natural number with zeros before it consists of digits only, has the width that it was given if it fits, and its digits
name the number again. Numbers padded to one width are ordered as texts as they are as numbers.
-/

namespace SpendLedger

namespace Text

/-- The value of digits is that of the library's reader of digits. -/
theorem digitsValue_eq (cs : List Char) : digitsValue cs = Nat.ofDigitChars 10 cs 0 := by
  simp only [digitsValue, Nat.ofDigitChars, Nat.mul_comm]

theorem toNat_of_isDigit {c : Char} (h : c.isDigit) : 48 ≤ c.toNat ∧ c.toNat ≤ 57 :=
  Char.isDigit_iff_toNat.1 h

theorem isBlank_of_isDigit {c : Char} (h : c.isDigit) : isBlank c = false := by
  have hrange := toNat_of_isDigit h
  simp only [isBlank, Bool.or_eq_false_iff, Bool.and_eq_false_iff, decide_eq_false_iff_not, beq_eq_false_iff_ne]
  omega

/-- No blanks are dropped before a digit. -/
theorem trimStart_digits {ds rest : List Char} (hne : ds ≠ []) (hds : ∀ c ∈ ds, c.isDigit) :
    trimStart (ds ++ rest) = ds ++ rest := by
  cases ds with
  | nil => exact absurd rfl hne
  | cons c ds => simp [trimStart, isBlank_of_isDigit (hds c List.mem_cons_self)]

/-- The characters of a padded number: zeros, then its digits. -/
theorem toList_zeroPadded (width n : Nat) : (zeroPadded width n).toList =
    List.replicate (width - (Nat.toDigits 10 n).length) '0' ++ Nat.toDigits 10 n :=
  String.toList_ofList

theorem isDigit_zeroPadded (width n : Nat) : ∀ c ∈ (zeroPadded width n).toList, c.isDigit := by
  intro c hc
  rw [toList_zeroPadded, List.mem_append] at hc
  rcases hc with hc | hc
  · rw [List.eq_of_mem_replicate hc]
    rfl
  · exact Nat.isDigit_of_mem_toDigits (by decide) (by decide) hc

theorem zeroPadded_ne_nil (width n : Nat) : (zeroPadded width n).toList ≠ [] := by
  rw [toList_zeroPadded]
  simp

theorem length_zeroPadded {width n : Nat} (hwidth : 0 < width) (hn : n < Nat.pow 10 width) :
    (zeroPadded width n).toList.length = width := by
  have := (Nat.length_toDigits_le_iff (by decide) hwidth).2 hn
  rw [toList_zeroPadded, List.length_append, List.length_replicate]
  omega

/-- The digits of a padded number name it again. -/
theorem digitsValue_zeroPadded (width n : Nat) : digitsValue (zeroPadded width n).toList = n := by
  rw [toList_zeroPadded, digitsValue_eq, Nat.ofDigitChars_append, Nat.ofDigitChars_replicate_zero, Nat.mul_zero,
    Nat.ofDigitChars_ten_toDigits]

/-- Padded to one width, different numbers are written differently. -/
theorem zeroPadded_inj {width m n : Nat} : (zeroPadded width m).toList = (zeroPadded width n).toList ↔ m = n := by
  constructor
  · intro h
    rw [← digitsValue_zeroPadded width m, h, digitsValue_zeroPadded]
  · rintro rfl
    rfl

/-! ## Order -/

/-- The first digit counts as often as there are numbers of the digits after it. -/
theorem digitsValue_cons (c : Char) (cs : List Char) :
    digitsValue (c :: cs) = (c.toNat - 48) * Nat.pow 10 cs.length + digitsValue cs := by
  rw [digitsValue_eq, digitsValue_eq, Nat.ofDigitChars_cons, Nat.mul_zero, Nat.zero_add,
    Nat.ofDigitChars_eq_ofDigitChars_zero, Nat.mul_comm]
  rfl

/-- Digits write a number that has no more digits. -/
theorem digitsValue_lt {ds : List Char} (hds : ∀ c ∈ ds, c.isDigit) : digitsValue ds < Nat.pow 10 ds.length := by
  induction ds with
  | nil => decide
  | cons c ds ih =>
    have hc := toNat_of_isDigit (hds c List.mem_cons_self)
    have hrest := ih fun d hd => hds d (List.mem_cons_of_mem _ hd)
    have hnine : c.toNat - 48 ≤ 9 := by omega
    have hscaled := Nat.mul_le_mul_right (Nat.pow 10 ds.length) hnine
    have hpow : Nat.pow 10 (c :: ds).length = Nat.pow 10 ds.length * 10 := rfl
    rw [digitsValue_cons, hpow]
    omega

/-- Of two texts of digits of one length, the one that writes the smaller number comes first. -/
theorem digits_lt_iff {ds es : List Char} (hds : ∀ c ∈ ds, c.isDigit) (hes : ∀ c ∈ es, c.isDigit)
    (hlength : ds.length = es.length) : ds < es ↔ digitsValue ds < digitsValue es := by
  induction ds generalizing es with
  | nil =>
    rw [List.eq_nil_of_length_eq_zero hlength.symm]
    simp
  | cons c ds ih =>
    cases es with
    | nil => cases hlength
    | cons e es =>
      have hds' : ∀ d ∈ ds, d.isDigit := fun d hd => hds d (List.mem_cons_of_mem _ hd)
      have hes' : ∀ d ∈ es, d.isDigit := fun d hd => hes d (List.mem_cons_of_mem _ hd)
      have hlength' : ds.length = es.length := Nat.succ.inj hlength
      have hrest := ih hds' hes' hlength'
      have hdslt := digitsValue_lt hds'
      have heslt := digitsValue_lt hes'
      have hc := toNat_of_isDigit (hds c List.mem_cons_self)
      have he := toNat_of_isDigit (hes e List.mem_cons_self)
      rw [List.cons_lt_cons_iff, digitsValue_cons, digitsValue_cons, hrest, hlength']
      rw [hlength'] at hdslt
      -- the first digits decide, unless they are the same
      rcases Nat.lt_trichotomy c.toNat e.toNat with hlt | heq | hgt
      · have hscaled := Nat.mul_le_mul_right (Nat.pow 10 es.length) (show c.toNat - 48 + 1 ≤ e.toNat - 48 by omega)
        rw [Nat.add_mul] at hscaled
        exact iff_of_true (Or.inl hlt) (by omega)
      · have hsame : c = e := Char.toNat_inj.1 heq
        subst hsame
        simp only [Char.lt_irrefl, true_and, false_or, Nat.add_lt_add_iff_left]
      · have hscaled := Nat.mul_le_mul_right (Nat.pow 10 es.length) (show e.toNat - 48 + 1 ≤ c.toNat - 48 by omega)
        rw [Nat.add_mul] at hscaled
        refine iff_of_false ?_ (by omega)
        rintro (hlt | ⟨rfl, _⟩)
        · exact Nat.lt_asymm hgt hlt
        · exact Nat.lt_irrefl _ hgt

/-- Of two numbers that are padded to one width and fit into it, the smaller one comes first. -/
theorem zeroPadded_lt_iff {width m n : Nat} (hwidth : 0 < width) (hm : m < Nat.pow 10 width)
    (hn : n < Nat.pow 10 width) : (zeroPadded width m).toList < (zeroPadded width n).toList ↔ m < n := by
  have hlength : (zeroPadded width m).toList.length = (zeroPadded width n).toList.length := by
    rw [length_zeroPadded hwidth hm, length_zeroPadded hwidth hn]
  rw [digits_lt_iff (isDigit_zeroPadded width m) (isDigit_zeroPadded width n) hlength, digitsValue_zeroPadded,
    digitsValue_zeroPadded]

/-- The order of two texts that begin with parts of one length: the first parts decide, unless they are the same. -/
theorem append_lt_append_iff {as bs : List Char} (h : as.length = bs.length) (cs ds : List Char) :
    as ++ cs < bs ++ ds ↔ as < bs ∨ as = bs ∧ cs < ds := by
  induction as generalizing bs with
  | nil =>
    rw [List.eq_nil_of_length_eq_zero h.symm]
    simp
  | cons a as ih =>
    cases bs with
    | nil => cases h
    | cons b bs =>
      rw [List.cons_append, List.cons_append, List.cons_lt_cons_iff, List.cons_lt_cons_iff, ih (Nat.succ.inj h),
        List.cons.injEq, and_or_left, or_assoc, and_assoc]

end Text

end SpendLedger
