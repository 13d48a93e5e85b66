import SpendLedger.Proofs.Toml.LongQuotes

/-!
# The plainest quotes

Each kind of quotes is opened by what it is closed by, and whichever kind a text is given, the text is read back from it.
-/

namespace SpendLedger

namespace Toml

/-- A character that is put between double quotes on one line takes at least one character, and none of them is a quote at
the front. -/
theorem basicChars_cons (c : Char) (cs : List Char) :
    ∃ d more, basicChars (c :: cs) = d :: more ++ basicChars cs ∧ d ≠ '"' := by
  have hchars : basicChars (c :: cs) =
      (if c = '"' then ['\\', '"'] else if c = '\n' then ['\\', 'n'] else (escaped? c).getD [c]) ++ basicChars cs :=
    List.flatMap_cons
  rw [hchars]
  by_cases hquote : c = '"'
  · exact ⟨'\\', ['"'], by rw [if_pos hquote], by decide⟩
  rw [if_neg hquote]
  by_cases hbreak : c = '\n'
  · exact ⟨'\\', ['n'], by rw [if_pos hbreak], by decide⟩
  rw [if_neg hbreak]
  cases hescaped : escaped? c with
  | some e =>
    obtain ⟨code, rfl, -⟩ := escape?_of_escaped? hescaped
    exact ⟨'\\', code, rfl, by decide⟩
  | none => exact ⟨c, [], rfl, hquote⟩

/-- Escapes make no text shorter. -/
theorem length_le_basicChars (cs : List Char) : cs.length ≤ (basicChars cs).length := by
  induction cs with
  | nil => exact Nat.le_refl _
  | cons c cs ih =>
    obtain ⟨d, more, heq, -⟩ := basicChars_cons c cs
    rw [heq]
    simp only [List.length_cons, List.length_append]
    omega

/-- Escapes make no text of several lines shorter. -/
theorem length_le_longBasicChars (cs : List Char) (row : Nat) : cs.length ≤ (longBasicChars row cs).length := by
  induction cs generalizing row with
  | nil => exact Nat.le_refl _
  | cons c cs ih =>
    rw [longBasicChars]
    have hnext := ih (row + 1)
    have hafter := ih 0
    split
    · split <;> simp only [List.length_cons] <;> omega
    · cases hescaped : escaped? c with
      | some e =>
        obtain ⟨code, rfl, -⟩ := escape?_of_escaped? hescaped
        simp only [Option.getD_some, List.length_append, List.length_cons]
        omega
      | none =>
        simp only [Option.getD_none, List.length_append, List.length_cons, List.length_nil]
        omega

/-- Fewer than two quotes behind the first one open a text on one line. -/
theorem readText?_basic {cs : List Char} (h : quotesAhead '"' cs < 2) :
    readText? ('"' :: cs) = basicText (cs.length + 1) cs := by
  rw [readText?.eq_def]
  split
  · next heq =>
    obtain ⟨-, rfl⟩ := List.cons.inj heq
    rw [quotesAhead_cons_self, quotesAhead_cons_self] at h
    omega
  · next heq => cases heq
  · next heq =>
    obtain ⟨-, rfl⟩ := List.cons.inj heq
    rfl
  · next heq => cases heq
  · next hno _ => exact absurd rfl (hno cs)

/-- Fewer than two single quotes behind the first one open a text on one line. -/
theorem readText?_literal {cs : List Char} (h : quotesAhead '\'' cs < 2) :
    readText? ('\'' :: cs) = literalText cs := by
  rw [readText?.eq_def]
  split
  · next heq => cases heq
  · next heq =>
    obtain ⟨-, rfl⟩ := List.cons.inj heq
    rw [quotesAhead_cons_self, quotesAhead_cons_self] at h
    omega
  · next heq => cases heq
  · next heq =>
    obtain ⟨-, rfl⟩ := List.cons.inj heq
    rfl
  · next _ hno => exact absurd rfl (hno cs)

/-- Three quotes open a text of several lines. -/
theorem readText?_longBasic (cs : List Char) :
    readText? ('"' :: '"' :: '"' :: cs) = longBasicText (cs.length + 1) (withoutBreak cs) := rfl

theorem readText?_longLiteral (cs : List Char) :
    readText? ('\'' :: '\'' :: '\'' :: cs) = longLiteralText (cs.length + 1) (withoutBreak cs) := rfl

section Quoted

variable {rest : List Char}

theorem quotesAhead_quote {quote : Char} (h : rest.head? ≠ some quote) : quotesAhead quote (quote :: rest) = 1 :=
  quotesAhead_replicate_append h 1

/-- A text in double quotes on one line is read as it was. -/
theorem readText?_between_basic (cs : List Char) (hrest : rest.head? ≠ some '"') :
    readText? ((between ['"'] (basicChars cs)).toList ++ rest) = some (cs, rest) := by
  have hfew : quotesAhead '"' (basicChars cs ++ '"' :: rest) < 2 := by
    cases cs with
    | nil =>
      show quotesAhead '"' ('"' :: rest) < 2
      rw [quotesAhead_quote hrest]
      decide
    | cons c cs =>
      obtain ⟨d, more, heq, hd⟩ := basicChars_cons c cs
      rw [heq, List.cons_append, List.cons_append, quotesAhead_cons_of_ne hd]
      decide
  have hlength := length_le_basicChars cs
  rw [between, String.toList_ofList, List.append_assoc, List.append_assoc]
  refine (readText?_basic hfew).trans (basicText_basicChars cs rest ?_)
  rw [List.length_append]
  omega

/-- A text in single quotes on one line is read as it was, if it can stand there. -/
theorem readText?_between_literal {cs : List Char} (h : ∀ c ∈ cs, c ≠ '\'' ∧ isPrintable c = true)
    (hrest : rest.head? ≠ some '\'') : readText? ((between ['\''] cs).toList ++ rest) = some (cs, rest) := by
  have hfew : quotesAhead '\'' (cs ++ '\'' :: rest) < 2 := by
    cases cs with
    | nil =>
      show quotesAhead '\'' ('\'' :: rest) < 2
      rw [quotesAhead_quote hrest]
      decide
    | cons c cs =>
      rw [List.cons_append, quotesAhead_cons_of_ne (h c List.mem_cons_self).1]
      decide
  rw [between, String.toList_ofList, List.append_assoc, List.append_assoc]
  exact (readText?_literal hfew).trans (literalText_append h rest)

/-- The line break that stands at the front of a text with line breaks is not taken for one of them, and a text without any
has none at the front. -/
theorem withoutBreak_append {cs body : List Char} (h : cs.contains '\n' = false → afterBreak? body = none) :
    withoutBreak ((if cs.contains '\n' = true then ['\n'] else []) ++ body) = body := by
  split
  · rfl
  · next hnone =>
    rw [List.nil_append, withoutBreak, h (by simpa using hnone)]
    rfl

/-- A text in double quotes on several lines is read as it was. -/
theorem readText?_between_longBasic (cs : List Char) (hrest : rest.head? ≠ some '"') :
    readText? ((between ['"', '"', '"']
      ((if cs.contains '\n' = true then ['\n'] else []) ++ longBasicChars 0 cs)).toList ++ rest) = some (cs, rest) := by
  have hfront : cs.contains '\n' = false →
      afterBreak? (longBasicChars 0 cs ++ '"' :: '"' :: '"' :: rest) = none := by
    intro hnone
    cases cs with
    | nil => rfl
    | cons c cs =>
      have hfeed : c ≠ '\n' := by
        rintro rfl
        simp at hnone
      rw [longBasicChars]
      split
      · rfl
      · cases hescaped : escaped? c with
        | some e =>
          obtain ⟨code, rfl, -⟩ := escape?_of_escaped? hescaped
          rfl
        | none => exact afterBreak?_eq_none hfeed (ne_return_of_escaped?_eq_none hescaped) _
  have hlength := length_le_longBasicChars cs 0
  simp only [between, String.toList_ofList, List.append_assoc, List.cons_append, List.nil_append]
  rw [readText?_longBasic, withoutBreak_append hfront]
  refine longBasicText_longBasicChars cs (by omega) hrest ?_
  rw [List.length_append, List.length_append]
  omega

/-- A text in single quotes on several lines is read as it was, if it can stand there and has no three quotes in a row. -/
theorem readText?_between_longLiteral {cs : List Char} (hchars : ∀ c ∈ cs, needsEscape c = false)
    (hrows : ∀ tail, tail <:+ cs → quotesAhead '\'' tail ≤ 2) (hrest : rest.head? ≠ some '\'') :
    readText? ((between ['\'', '\'', '\'']
      ((if cs.contains '\n' = true then ['\n'] else []) ++ cs)).toList ++ rest) = some (cs, rest) := by
  have hreturn : ∀ c ∈ cs, c ≠ '\r' := by
    rintro c hc rfl
    exact absurd (hchars _ hc) (by decide)
  have hfront : cs.contains '\n' = false → afterBreak? (cs ++ '\'' :: '\'' :: '\'' :: rest) = none := by
    intro hnone
    cases cs with
    | nil => rfl
    | cons c cs =>
      have hfeed : c ≠ '\n' := by
        rintro rfl
        simp at hnone
      exact afterBreak?_eq_none hfeed (hreturn c List.mem_cons_self) _
  simp only [between, String.toList_ofList, List.append_assoc, List.cons_append, List.nil_append]
  rw [readText?_longLiteral, withoutBreak_append hfront]
  refine longLiteralText_append (fun c hc => ?_) hrows hrest ?_
  · by_cases hfeed : c = '\n'
    · exact Or.inl hfeed
    · exact Or.inr ⟨hreturn c hc, isPrintable_of_needsEscape (hchars c hc) hfeed⟩
  · rw [List.length_append, List.length_append]
    omega

/-- A text is read back from the quotes that were chosen for it, if no quote follows them. -/
theorem readText?_textLiteral (s : String) (hdouble : rest.head? ≠ some '"') (hsingle : rest.head? ≠ some '\'') :
    readText? ((textLiteral s).toList ++ rest) = some (s.toList, rest) := by
  have hcontrols : s.toList.any needsEscape = false → ∀ c ∈ s.toList, needsEscape c = false := by simp
  unfold textLiteral
  simp only
  split
  · exact readText?_between_basic _ hdouble
  split
  · next h =>
    simp only [Bool.and_eq_true, Bool.not_eq_true', beq_iff_eq] at h
    obtain ⟨⟨hplain, hsingles⟩, hbreaks⟩ := h
    refine readText?_between_literal (fun c hc => ⟨?_, isPrintable_of_needsEscape (hcontrols hplain c hc) ?_⟩) hsingle
    · rintro rfl
      exact not_mem_of_longestRow_eq_zero hsingles hc
    · rintro rfl
      simp [hc] at hbreaks
  split
  · exact readText?_between_longBasic _ hdouble
  split
  · next h =>
    simp only [Bool.and_eq_true, Bool.not_eq_true', decide_eq_true_eq] at h
    exact readText?_between_longLiteral (hcontrols h.1)
      (fun tail htail => Nat.le_trans (quotesAhead_le_longestRow htail) h.2) hsingle
  split
  · next hbreaks =>
    have hread := readText?_between_longBasic s.toList hdouble
    rw [if_pos hbreaks] at hread
    exact hread
  · exact readText?_between_basic _ hdouble

end Quoted

end Toml

end SpendLedger
