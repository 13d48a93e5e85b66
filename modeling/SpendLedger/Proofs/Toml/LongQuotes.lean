import SpendLedger.Proofs.Toml.Quotes

/-!
# Texts in quotes on several lines

Three quotes in a row close such a text, and up to two before them belong to it. Between double quotes every third quote in
a row is escaped, and between single quotes only texts are put that have no three of them in a row, so that the text is
never closed too early.
-/

namespace SpendLedger

namespace Toml

/-! ## Rows of quotes -/

/-- How many quotes stand at the front. -/
def quotesAhead (quote : Char) (cs : List Char) : Nat :=
  (cs.takeWhile (· == quote)).length

theorem quotesAhead_cons_self (quote : Char) (cs : List Char) :
    quotesAhead quote (quote :: cs) = quotesAhead quote cs + 1 := by
  simp [quotesAhead]

theorem quotesAhead_cons_of_ne {quote c : Char} (h : c ≠ quote) (cs : List Char) : quotesAhead quote (c :: cs) = 0 := by
  simp [quotesAhead, h]

/-- The longest row of a character so far and the row at hand, after one more character. -/
def countRow (quote : Char) (counted : Nat × Nat) (c : Char) : Nat × Nat :=
  if c = quote then (Nat.max counted.1 (counted.2 + 1), counted.2 + 1) else (counted.1, 0)

/-- The longest row is counted character by character. -/
theorem longestRow_eq (quote : Char) (cs : List Char) : longestRow quote cs = (cs.foldl (countRow quote) (0, 0)).1 := rfl

theorem countRow_self (quote : Char) (counted : Nat × Nat) :
    countRow quote counted quote = (Nat.max counted.1 (counted.2 + 1), counted.2 + 1) := if_pos rfl

theorem countRow_of_ne {quote c : Char} (h : c ≠ quote) (counted : Nat × Nat) :
    countRow quote counted c = (counted.1, 0) := if_neg h

/-- What was counted so far only grows. -/
theorem le_countRow (quote : Char) (cs : List Char) (counted : Nat × Nat) :
    counted.1 ≤ (cs.foldl (countRow quote) counted).1 := by
  induction cs generalizing counted with
  | nil => exact Nat.le_refl _
  | cons c cs ih =>
    refine Nat.le_trans ?_ (ih (countRow quote counted c))
    by_cases hc : c = quote
    · rw [hc, countRow_self]
      exact Nat.le_max_left _ _
    · exact Nat.le_of_eq (congrArg Prod.fst (countRow_of_ne hc counted)).symm

/-- The row at hand is counted to its end. -/
theorem quotesAhead_le_countRow (quote : Char) (cs : List Char) (counted : Nat × Nat) (h : counted.2 ≤ counted.1) :
    quotesAhead quote cs + counted.2 ≤ (cs.foldl (countRow quote) counted).1 := by
  induction cs generalizing counted with
  | nil => simpa [quotesAhead] using h
  | cons c cs ih =>
    by_cases hc : c = quote
    · subst hc
      rw [quotesAhead_cons_self, Nat.add_assoc, Nat.add_comm 1 counted.2, List.foldl_cons, countRow_self]
      exact ih (Nat.max counted.1 (counted.2 + 1), counted.2 + 1) (Nat.le_max_right counted.1 (counted.2 + 1))
    · rw [quotesAhead_cons_of_ne hc, Nat.zero_add]
      exact Nat.le_trans h (le_countRow quote (c :: cs) counted)

/-- No row of a character in what follows is longer than the longest row. -/
theorem quotesAhead_le_longestRow {quote : Char} {cs tail : List Char} (h : tail <:+ cs) :
    quotesAhead quote tail ≤ longestRow quote cs := by
  have hsuffix : ∀ counted : Nat × Nat, counted.2 ≤ counted.1 →
      quotesAhead quote tail ≤ (cs.foldl (countRow quote) counted).1 := by
    induction cs with
    | nil =>
      intro counted _
      rw [List.suffix_nil.1 h]
      exact Nat.zero_le _
    | cons c cs ih =>
      intro counted hle
      rcases List.suffix_cons_iff.1 h with rfl | h
      · exact Nat.le_trans (Nat.le_add_right _ counted.2) (quotesAhead_le_countRow quote (c :: cs) counted hle)
      · rw [List.foldl_cons]
        by_cases hc : c = quote
        · rw [hc, countRow_self]
          exact ih h _ (Nat.le_max_right counted.1 (counted.2 + 1))
        · rw [countRow_of_ne hc]
          exact ih h _ (Nat.zero_le _)
  rw [longestRow_eq]
  exact hsuffix (0, 0) (Nat.le_refl _)

/-- Without a row of a character there is no such character. -/
theorem not_mem_of_longestRow_eq_zero {quote : Char} {cs : List Char} (h : longestRow quote cs = 0) : quote ∉ cs := by
  intro hmem
  obtain ⟨before, after, rfl⟩ := List.append_of_mem hmem
  have hrow : quotesAhead quote (quote :: after) ≤ longestRow quote (before ++ quote :: after) :=
    quotesAhead_le_longestRow (List.suffix_append before (quote :: after))
  rw [h, quotesAhead_cons_self] at hrow
  omega

/-- Quotes in a row count up to the first other character. -/
theorem quotesAhead_replicate_append {quote : Char} {rest : List Char} (h : rest.head? ≠ some quote) (n : Nat) :
    quotesAhead quote (List.replicate n quote ++ rest) = n := by
  induction n with
  | zero =>
    cases rest with
    | nil => rfl
    | cons c rest => exact quotesAhead_cons_of_ne (fun hc => h (congrArg some hc)) rest
  | succ n ih => rw [List.replicate_succ, List.cons_append, quotesAhead_cons_self, ih]

/-- What follows characters that are not quotes only, adds no quote to those at their front. -/
theorem quotesAhead_append_of_ne {quote : Char} {cs : List Char} (h : cs ≠ List.replicate cs.length quote)
    (rest : List Char) : quotesAhead quote (cs ++ rest) = quotesAhead quote cs := by
  induction cs with
  | nil => exact absurd rfl h
  | cons c cs ih =>
    by_cases hc : c = quote
    · subst hc
      have hcs : cs ≠ List.replicate cs.length c := fun heq => h (congrArg (c :: ·) heq)
      rw [List.cons_append, quotesAhead_cons_self, quotesAhead_cons_self, ih hcs]
    · rw [List.cons_append, quotesAhead_cons_of_ne hc, quotesAhead_cons_of_ne hc]

/-- Fewer than three quotes do not close a text of several lines. -/
theorem closingQuotes_eq_none {quote : Char} {cs : List Char} (h : quotesAhead quote cs < 3) :
    closingQuotes quote cs = none :=
  if_pos h

/-- Three quotes close a text of several lines; up to two quotes before them belong to it. -/
theorem closingQuotes_closing {quote : Char} {k : Nat} (hk : k ≤ 2) {rest : List Char} (hrest : rest.head? ≠ some quote) :
    closingQuotes quote (List.replicate k quote ++ quote :: quote :: quote :: rest) =
      some (List.replicate k quote, rest) := by
  have hquotes : List.replicate k quote ++ quote :: quote :: quote :: rest = List.replicate (k + 3) quote ++ rest := by
    rw [← List.replicate_append_replicate, List.append_assoc]
    rfl
  have hcount : (List.takeWhile (· == quote) (List.replicate (k + 3) quote ++ rest)).length = k + 3 :=
    quotesAhead_replicate_append hrest (k + 3)
  unfold closingQuotes
  rw [hquotes, hcount]
  simp only
  rw [if_neg (by omega), if_pos (by omega), Nat.add_sub_cancel, List.drop_left' (List.length_replicate ..)]

/-! ## Several lines -/

/-- A character that breaks no line, stands alone at its place. -/
theorem afterBreak?_eq_none {c : Char} (hfeed : c ≠ '\n') (hreturn : c ≠ '\r') (rest : List Char) :
    afterBreak? (c :: rest) = none := by
  rw [afterBreak?.eq_def]
  split
  · next h => exact absurd (List.cons.inj h).1 hfeed
  · next h => exact absurd (List.cons.inj h).1 hreturn
  · rfl

/-- The quotes that close a text of several lines are read with those before them that belong to it. -/
theorem longLiteralText_closing {k : Nat} (hk : k ≤ 2) {rest : List Char} (hrest : rest.head? ≠ some '\'') (fuel : Nat) :
    longLiteralText (fuel + 1) (List.replicate k '\'' ++ '\'' :: '\'' :: '\'' :: rest) =
      some (List.replicate k '\'', rest) := by
  rw [longLiteralText.eq_def]
  simp only [closingQuotes_closing hk hrest]

/-- Before the quotes that close a text of several lines, a line break or a character that can stand there is read as it
is. -/
theorem longLiteralText_open {c : Char} (hc : c = '\n' ∨ (c ≠ '\r' ∧ isPrintable c = true)) {rest : List Char}
    (hopen : quotesAhead '\'' (c :: rest) < 3) (fuel : Nat) :
    longLiteralText (fuel + 1) (c :: rest) = prepend c (longLiteralText fuel rest) := by
  rw [longLiteralText, closingQuotes_eq_none hopen]
  by_cases hfeed : c = '\n'
  · subst hfeed
    rfl
  · obtain ⟨hreturn, hprintable⟩ := hc.resolve_left hfeed
    simp only [afterBreak?_eq_none hfeed hreturn, if_pos hprintable]
    rfl

/-- Characters in single quotes on several lines are read as they were, if they can stand there and no row of quotes among
them is longer than two. -/
theorem longLiteralText_append {cs : List Char}
    (hchars : ∀ c ∈ cs, c = '\n' ∨ (c ≠ '\r' ∧ isPrintable c = true))
    (hrows : ∀ tail, tail <:+ cs → quotesAhead '\'' tail ≤ 2) {rest : List Char} (hrest : rest.head? ≠ some '\'')
    {fuel : Nat} (h : cs.length < fuel) :
    longLiteralText fuel (cs ++ '\'' :: '\'' :: '\'' :: rest) = some (cs, rest) := by
  -- the quotes at the end belong to the text when nothing but quotes is left of it
  induction cs generalizing fuel with
  | nil =>
    obtain ⟨fuel, rfl⟩ := Nat.exists_eq_succ_of_ne_zero (Nat.ne_zero_of_lt h)
    exact longLiteralText_closing (Nat.zero_le 2) hrest fuel
  | cons c cs ih =>
    obtain ⟨fuel, rfl⟩ := Nat.exists_eq_succ_of_ne_zero (Nat.ne_zero_of_lt h)
    have hself := hrows (c :: cs) (List.suffix_refl _)
    by_cases hquotes : c :: cs = List.replicate (c :: cs).length '\''
    · have hcount : quotesAhead '\'' (c :: cs) = (c :: cs).length := by
        rw [hquotes, ← List.append_nil (List.replicate _ _), quotesAhead_replicate_append (by simp)]
        simp
      rw [hquotes]
      exact longLiteralText_closing (hcount ▸ hself) hrest fuel
    · have hopen := quotesAhead_append_of_ne hquotes ('\'' :: '\'' :: '\'' :: rest)
      rw [List.cons_append] at hopen ⊢
      rw [longLiteralText_open (hchars c List.mem_cons_self) (by omega),
        ih (fun d hd => hchars d (List.mem_cons_of_mem _ hd))
          (fun tail htail => hrows tail (htail.trans (List.suffix_cons c cs))) (by simpa using h)]
      rfl

/-! ## Several lines with escapes -/

/-- The quotes that close a text of several lines are read with those before them that belong to it. -/
theorem longBasicText_closing {k : Nat} (hk : k ≤ 2) {rest : List Char} (hrest : rest.head? ≠ some '"') (fuel : Nat) :
    longBasicText (fuel + 1) (List.replicate k '"' ++ '"' :: '"' :: '"' :: rest) =
      some (List.replicate k '"', rest) := by
  rw [longBasicText.eq_def]
  simp only [closingQuotes_closing hk hrest]

/-- An escape in a text of several lines is read as its character. -/
theorem longBasicText_escape {code rest : List Char} {c : Char} (h : escape? code = some (c, rest))
    (hspace : afterBreak? (skip code) = none) (fuel : Nat) :
    longBasicText (fuel + 1) ('\\' :: code) = prepend c (longBasicText fuel rest) := by
  have hopen : closingQuotes '"' ('\\' :: code) = none :=
    closingQuotes_eq_none (by rw [quotesAhead_cons_of_ne (by decide)]; decide)
  rw [longBasicText.eq_def]
  simp only [hopen, hspace, h]
  rfl

/-- Before the quotes that close a text of several lines, a line break or a character that can stand there is read as it
is. -/
theorem longBasicText_open {c : Char} (hbackslash : c ≠ '\\')
    (hc : c = '\n' ∨ (c ≠ '\r' ∧ isPrintable c = true)) {rest : List Char} (hopen : quotesAhead '"' (c :: rest) < 3)
    (fuel : Nat) : longBasicText (fuel + 1) (c :: rest) = prepend c (longBasicText fuel rest) := by
  rw [longBasicText, closingQuotes_eq_none hopen]
  · by_cases hfeed : c = '\n'
    · subst hfeed
      rfl
    · obtain ⟨hreturn, hprintable⟩ := hc.resolve_left hfeed
      simp only [afterBreak?_eq_none hfeed hreturn, if_pos hprintable]
      rfl
  · exact hbackslash

/-- With `row` quotes before them, characters are written with few quotes at the front: either nothing but so few quotes is
left that all of them stay as they are, or at most two quotes come together. -/
theorem quotesAhead_longBasicChars (cs rest : List Char) {row : Nat} (hrow : row ≤ 2) :
    (∃ k, cs = List.replicate k '"' ∧ k + row ≤ 2) ∨ quotesAhead '"' (longBasicChars row cs ++ rest) + row ≤ 2 := by
  induction cs generalizing row with
  | nil => exact Or.inl ⟨0, rfl, by omega⟩
  | cons c cs ih =>
    by_cases hquote : c = '"'
    · subst hquote
      by_cases hfew : row < 2
      · rcases ih (show row + 1 ≤ 2 by omega) with ⟨k, rfl, hk⟩ | hcount
        · exact Or.inl ⟨k + 1, rfl, by omega⟩
        · right
          rw [longBasicChars, if_pos rfl, if_pos hfew, List.cons_append, quotesAhead_cons_self]
          omega
      · right
        rw [longBasicChars, if_pos rfl, if_neg hfew, List.cons_append, quotesAhead_cons_of_ne (by decide)]
        omega
    · right
      rw [longBasicChars, if_neg hquote]
      cases hescaped : escaped? c with
      | some e =>
        obtain ⟨code, rfl, -⟩ := escape?_of_escaped? hescaped
        rw [Option.getD_some, List.cons_append, List.cons_append, quotesAhead_cons_of_ne (by decide)]
        omega
      | none =>
        rw [Option.getD_none, List.singleton_append, List.cons_append, quotesAhead_cons_of_ne hquote]
        omega

/-- So few quotes stay as they are. -/
theorem longBasicChars_replicate {k row : Nat} (h : k + row ≤ 2) :
    longBasicChars row (List.replicate k '"') = List.replicate k '"' := by
  induction k generalizing row with
  | zero => rfl
  | succ k ih => rw [List.replicate_succ, longBasicChars, if_pos rfl, if_pos (by omega), ih (by omega)]

/-- A carriage return has an escape. -/
theorem ne_return_of_escaped?_eq_none {c : Char} (h : escaped? c = none) : c ≠ '\r' := by
  rintro rfl
  cases h

/-- A character that is no quote is read as it was, escaped or not. -/
theorem longBasicText_escaped {c : Char} (hquote : c ≠ '"') (fuel : Nat) (rest : List Char) :
    longBasicText (fuel + 1) ((escaped? c).getD [c] ++ rest) = prepend c (longBasicText fuel rest) := by
  cases hescaped : escaped? c with
  | some e =>
    obtain ⟨code, rfl, hcode⟩ := escape?_of_escaped? hescaped
    exact longBasicText_escape (hcode rest).1 (hcode rest).2 fuel
  | none =>
    obtain ⟨hbackslash, hneeds⟩ := of_escaped?_eq_none hescaped
    have hc : c = '\n' ∨ (c ≠ '\r' ∧ isPrintable c = true) := by
      by_cases hfeed : c = '\n'
      · exact Or.inl hfeed
      · exact Or.inr ⟨ne_return_of_escaped?_eq_none hescaped, isPrintable_of_needsEscape hneeds hfeed⟩
    have hopen : quotesAhead '"' (c :: rest) < 3 := by
      rw [quotesAhead_cons_of_ne hquote]
      decide
    exact longBasicText_open hbackslash hc hopen fuel

/-- Characters in double quotes on several lines are read as they were, `row` quotes before them. -/
theorem longBasicText_longBasicChars (cs : List Char) {row : Nat} (hrow : row ≤ 2) {rest : List Char}
    (hrest : rest.head? ≠ some '"') {fuel : Nat} (h : cs.length < fuel) :
    longBasicText fuel (longBasicChars row cs ++ '"' :: '"' :: '"' :: rest) = some (cs, rest) := by
  induction cs generalizing row fuel with
  | nil =>
    obtain ⟨fuel, rfl⟩ := Nat.exists_eq_succ_of_ne_zero (Nat.ne_zero_of_lt h)
    exact longBasicText_closing (Nat.zero_le 2) hrest fuel
  | cons c cs ih =>
    obtain ⟨fuel, rfl⟩ := Nat.exists_eq_succ_of_ne_zero (Nat.ne_zero_of_lt h)
    have hlength : cs.length < fuel := by simpa using h
    rcases quotesAhead_longBasicChars (c :: cs) ('"' :: '"' :: '"' :: rest) hrow with ⟨k, hk, hfew⟩ | hopen
    · rw [hk, longBasicChars_replicate hfew]
      exact longBasicText_closing (by omega) hrest fuel
    rw [longBasicChars] at hopen ⊢
    by_cases hquote : c = '"'
    · subst hquote
      by_cases hfew : row < 2
      · rw [if_pos rfl, if_pos hfew, List.cons_append] at hopen ⊢
        rw [longBasicText_open (by decide) (Or.inr (by decide)) (by omega), ih (by omega) hlength]
        rfl
      · rw [if_pos rfl, if_neg hfew, List.cons_append, List.cons_append, longBasicText_escape rfl rfl,
          ih (by omega) hlength]
        rfl
    · rw [if_neg hquote, List.append_assoc, longBasicText_escaped hquote, ih (by omega) hlength]
      rfl

end Toml

end SpendLedger
