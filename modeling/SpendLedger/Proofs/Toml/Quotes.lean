import SpendLedger.Toml.Literal
import SpendLedger.Toml.Writer

/-!
# Texts in quotes on one line

Between double quotes every character that could end the text or cannot stand in it is escaped, and each escape names its
character again. Between single quotes only texts are put that need no escape.
-/

namespace SpendLedger

namespace Toml

/-! ## Escapes -/

/-- The character of a code point is that character. -/
theorem charOf?_toNat (c : Char) : Text.charOf? c.toNat = some c := by
  have hvalid : c.toNat.isValidChar := c.valid
  rw [Text.charOf?, dif_pos hvalid]
  rfl

/-- Two hexadecimal digits name every number of seven bits. -/
theorem hexDigitsValue?_hexDigits : ∀ n < 128, Text.hexDigitsValue?
    ['0', '0', (Json.hexDigit (n / 16)).toUpper, (Json.hexDigit (n % 16)).toUpper] = some n := by
  decide +kernel

/-- An escape is a backslash with a code behind it that names the character, whatever follows, and that begins neither with a
space nor with a line break. -/
theorem escape?_of_escaped? {c : Char} {e : List Char} (h : escaped? c = some e) :
    ∃ code, e = '\\' :: code ∧ ∀ rest, escape? (code ++ rest) = some (c, rest) ∧
      afterBreak? (skip (code ++ rest)) = none := by
  unfold escaped? at h
  split at h
  · next hc => exact ⟨['\\'], (Option.some.inj h).symm, fun rest => ⟨by rw [hc]; rfl, rfl⟩⟩
  split at h
  · next hc =>
    have hc : c = '\x08' := Char.toNat_inj.1 hc
    exact ⟨['b'], (Option.some.inj h).symm, fun rest => ⟨by rw [hc]; rfl, rfl⟩⟩
  split at h
  · next hc => exact ⟨['t'], (Option.some.inj h).symm, fun rest => ⟨by rw [hc]; rfl, rfl⟩⟩
  split at h
  · next hc =>
    have hc : c = '\x0c' := Char.toNat_inj.1 hc
    exact ⟨['f'], (Option.some.inj h).symm, fun rest => ⟨by rw [hc]; rfl, rfl⟩⟩
  split at h
  · next hc => exact ⟨['r'], (Option.some.inj h).symm, fun rest => ⟨by rw [hc]; rfl, rfl⟩⟩
  split at h
  · next hc =>
    have hsmall : c.toNat < 128 := by
      simp only [needsEscape, Bool.or_eq_true, Bool.and_eq_true, decide_eq_true_eq, beq_iff_eq] at hc
      omega
    refine ⟨_, (Option.some.inj h).symm, fun rest => ⟨?_, rfl⟩⟩
    show (codePoint? _).map _ = _
    rw [codePoint?, hexDigitsValue?_hexDigits c.toNat hsmall, Option.bind_some, charOf?_toNat]
    rfl
  · cases h

/-- A character that needs no escape is a line break or can stand as it is. -/
theorem isPrintable_of_needsEscape {c : Char} (h : needsEscape c = false) (hbreak : c ≠ '\n') : isPrintable c = true := by
  simp only [needsEscape, Bool.or_eq_false_iff, Bool.and_eq_false_iff, decide_eq_false_iff_not, beq_eq_false_iff_ne,
    bne_eq_false_iff_eq, or_assoc] at h
  simp only [isPrintable, Bool.or_eq_true, Bool.and_eq_true, decide_eq_true_eq, beq_iff_eq]
  obtain ⟨hlarge | htab | hfeed, hdelete⟩ := h
  · exact Or.inr ⟨Nat.le_of_not_lt hlarge, hdelete⟩
  · exact Or.inl htab
  · exact absurd hfeed hbreak

/-- A character that has no escape is neither a backslash nor one that needs an escape. -/
theorem of_escaped?_eq_none {c : Char} (h : escaped? c = none) : c ≠ '\\' ∧ needsEscape c = false := by
  unfold escaped? at h
  split at h
  · cases h
  · next hbackslash =>
    refine ⟨hbackslash, ?_⟩
    rw [← Bool.not_eq_true]
    intro hneeds
    rw [if_pos hneeds] at h
    repeat' split at h
    all_goals cases h

/-! ## One line -/

/-- What is read with one character more at the front. -/
def prepend (c : Char) (read : Option (List Char × List Char)) : Option (List Char × List Char) :=
  read.map fun r => (c :: r.1, r.2)

/-- An escape in double quotes is read as its character. -/
theorem basicText_escape {code rest : List Char} {c : Char} (h : escape? code = some (c, rest)) (fuel : Nat) :
    basicText (fuel + 1) ('\\' :: code) = prepend c (basicText fuel rest) := by
  show ((escape? code).bind fun r => (basicText fuel r.2).bind fun m => some (r.1 :: m.1, m.2)) = _
  rw [h, Option.bind_some]
  cases basicText fuel rest <;> rfl

/-- A character that can stand between double quotes as it is, is read as it is. -/
theorem basicText_plain {c : Char} (hquote : c ≠ '"') (hbackslash : c ≠ '\\') (hprintable : isPrintable c = true)
    (fuel : Nat) (rest : List Char) : basicText (fuel + 1) (c :: rest) = prepend c (basicText fuel rest) := by
  rw [basicText]
  · rw [if_pos hprintable]
    rfl
  · exact hquote
  · exact hbackslash

/-- A character that is neither a quote nor a line break is read as it was, escaped or not. -/
theorem basicText_escaped {c : Char} (hquote : c ≠ '"') (hbreak : c ≠ '\n') (fuel : Nat) (rest : List Char) :
    basicText (fuel + 1) ((escaped? c).getD [c] ++ rest) = prepend c (basicText fuel rest) := by
  cases hescaped : escaped? c with
  | some e =>
    obtain ⟨code, rfl, hcode⟩ := escape?_of_escaped? hescaped
    exact basicText_escape (hcode rest).1 fuel
  | none =>
    obtain ⟨hbackslash, hneeds⟩ := of_escaped?_eq_none hescaped
    exact basicText_plain hquote hbackslash (isPrintable_of_needsEscape hneeds hbreak) fuel rest

/-- Characters between double quotes are read as they were. -/
theorem basicText_basicChars (cs rest : List Char) {fuel : Nat} (h : cs.length < fuel) :
    basicText fuel (basicChars cs ++ '"' :: rest) = some (cs, rest) := by
  induction cs generalizing fuel with
  | nil =>
    obtain ⟨fuel, rfl⟩ := Nat.exists_eq_succ_of_ne_zero (Nat.ne_zero_of_lt h)
    rfl
  | cons c cs ih =>
    obtain ⟨fuel, rfl⟩ := Nat.exists_eq_succ_of_ne_zero (Nat.ne_zero_of_lt h)
    have hrest : basicText fuel (basicChars cs ++ '"' :: rest) = some (cs, rest) := ih (by simpa using h)
    have hchars : basicChars (c :: cs) =
        (if c = '"' then ['\\', '"'] else if c = '\n' then ['\\', 'n'] else (escaped? c).getD [c]) ++ basicChars cs :=
      List.flatMap_cons
    rw [hchars, List.append_assoc]
    by_cases hquote : c = '"'
    · subst hquote
      show basicText (fuel + 1) ('\\' :: '"' :: (basicChars cs ++ '"' :: rest)) = _
      rw [basicText_escape rfl, hrest]
      rfl
    by_cases hbreak : c = '\n'
    · subst hbreak
      show basicText (fuel + 1) ('\\' :: 'n' :: (basicChars cs ++ '"' :: rest)) = _
      rw [basicText_escape rfl, hrest]
      rfl
    rw [if_neg hquote, if_neg hbreak, basicText_escaped hquote hbreak, hrest]
    rfl

/-- Characters between single quotes are read as they were, if they can stand there. -/
theorem literalText_append {cs : List Char} (h : ∀ c ∈ cs, c ≠ '\'' ∧ isPrintable c = true) (rest : List Char) :
    literalText (cs ++ '\'' :: rest) = some (cs, rest) := by
  induction cs with
  | nil => rfl
  | cons c cs ih =>
    obtain ⟨hquote, hprintable⟩ := h c List.mem_cons_self
    rw [List.cons_append, literalText]
    · rw [if_pos hprintable, ih fun d hd => h d (List.mem_cons_of_mem _ hd)]
      rfl
    · exact hquote

end Toml

end SpendLedger
