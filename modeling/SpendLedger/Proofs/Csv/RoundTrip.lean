import SpendLedger.Csv.Reader
import SpendLedger.Print.Basic
import SpendLedger.Proofs.Csv.Plain

/-!
# Reading what was written

The reader gives back every table that was written field by field: whatever characters a field has, none of them is taken for
a comma or a line break between fields, and none of these for a part of a field. A field is read from its own beginning to the
comma or the line feed behind it, a row to its line feed, and a text to its end.
-/

namespace SpendLedger

namespace Csv

/-! ## Characters -/

/-- A place where a field begins. -/
def Place.IsStart (place : Place) : Prop :=
  place = .rowStart ∨ place = .fieldStart

/-- Rows with characters at the front of their first field. -/
def consChars (cs : List Char) (rows : Rows) : Rows := cs.foldr consChar rows

/-- The first of several characters is put before the others. -/
theorem consChars_eq_comp (c : Char) (cs : List Char) : consChars (c :: cs) = consChar c ∘ consChars cs := rfl

/-- Characters are put before the first field of a first row. -/
theorem consChars_cons (cs field : List Char) (fields : List (List Char)) (rows : Rows) :
    consChars cs ((field :: fields) :: rows) = ((cs ++ field) :: fields) :: rows := by
  induction cs with
  | nil => rfl
  | cons c cs ih =>
    rw [consChars_eq_comp, Function.comp_apply, ih]
    rfl

theorem readFrom_comma {place : Place} (h : place ≠ .quoted) (cs : List Char) :
    readFrom place (',' :: cs) = (readFrom .fieldStart cs).map consField := by
  rw [readFrom.eq_def]
  cases place <;> first | contradiction | rfl

theorem readFrom_lineFeed {place : Place} (h : place ≠ .quoted) (cs : List Char) :
    readFrom place ('\n' :: cs) = (readFrom .rowStart cs).map consRow := by
  rw [readFrom.eq_def]
  cases place <;> first | contradiction | rfl

/-- A character that needs no quotes begins or continues a field without quotes. -/
theorem readFrom_plain {place : Place} (h : place ≠ .quoted) (hclosed : place ≠ .closed) {c : Char}
    (hc : needsQuotes c = false) (cs : List Char) :
    readFrom place (c :: cs) = (readFrom .bare cs).map (consChar c) := by
  simp only [needsQuotes, Bool.or_eq_false_iff, beq_eq_false_iff_ne] at hc
  obtain ⟨⟨⟨hcomma, hquote⟩, hfeed⟩, hreturn⟩ := hc
  rw [readFrom.eq_def]
  cases place <;> first | contradiction | simp only [if_neg hcomma, if_neg hfeed, if_neg hreturn, if_neg hquote]; rfl

theorem readFrom_start_quote {place : Place} (h : place.IsStart) (cs : List Char) :
    readFrom place ('"' :: cs) = readFrom .quoted cs := by
  rw [readFrom.eq_def]
  rcases h with rfl | rfl <;> rfl

theorem readFrom_quoted_quote (cs : List Char) : readFrom .quoted ('"' :: cs) = readFrom .closed cs := by
  rw [readFrom.eq_def]
  rfl

/-- Behind a quote that may close a field, another one stands for a quote in the field. -/
theorem readFrom_closed_quote (cs : List Char) :
    readFrom .closed ('"' :: cs) = (readFrom .quoted cs).map (consChar '"') := by
  rw [readFrom.eq_def]
  rfl

theorem readFrom_quoted {c : Char} (hc : c ≠ '"') (cs : List Char) :
    readFrom .quoted (c :: cs) = (readFrom .quoted cs).map (consChar c) := by
  rw [readFrom.eq_def]
  exact if_neg hc

/-! ## Fields -/

/-- What is written between quotes is read up to the quote that ends it. -/
theorem readFrom_doubleQuotes (cs rest : List Char) :
    readFrom .quoted (doubleQuotes cs ++ '"' :: rest) = (readFrom .closed rest).map (consChars cs) := by
  induction cs with
  | nil => exact (readFrom_quoted_quote rest).trans Option.map_id'.symm
  | cons c cs ih =>
    rw [consChars_eq_comp, ← Option.map_map, ← ih]
    by_cases hquote : c = '"'
    · subst hquote
      rw [doubleQuotes, if_pos rfl, List.cons_append, List.cons_append, readFrom_quoted_quote,
        readFrom_closed_quote]
    · rw [doubleQuotes, if_neg hquote, List.cons_append, readFrom_quoted hquote]

/-- Plain characters are read as they stand. -/
theorem readFrom_plains {cs : List Char} (hcs : cs.any needsQuotes = false) (rest : List Char) :
    readFrom .bare (cs ++ rest) = (readFrom .bare rest).map (consChars cs) := by
  induction cs with
  | nil => exact Option.map_id'.symm
  | cons c cs ih =>
    rw [List.any_cons, Bool.or_eq_false_iff] at hcs
    rw [List.cons_append, readFrom_plain (by decide) (by decide) hcs.1, ih hcs.2, Option.map_map, consChars_eq_comp]

/-- A field is read as the text that was written, if what follows it ends a field. -/
theorem readFrom_field {place : Place} (hstart : place.IsStart) (s : String) {rest : List Char} {more : Option Rows}
    (hend : ∀ place, place ≠ .quoted → readFrom place rest = more) :
    readFrom place ((field s).toList ++ rest) = more.map (consChars s.toList) := by
  have hopen : place ≠ .quoted ∧ place ≠ .closed := by
    rcases hstart with rfl | rfl <;> decide
  unfold field
  by_cases hquotes : s.toList.any needsQuotes = true
  · rw [if_pos hquotes, String.toList_ofList, List.cons_append, List.cons_append, readFrom_start_quote hstart,
      List.append_assoc, List.singleton_append, readFrom_doubleQuotes, hend .closed (by decide)]
  · rw [if_neg hquotes]
    rw [Bool.not_eq_true] at hquotes
    cases hcs : s.toList with
    | nil => exact (hend place hopen.1).trans Option.map_id'.symm
    | cons c cs =>
      rw [hcs, List.any_cons, Bool.or_eq_false_iff] at hquotes
      rw [List.cons_append, readFrom_plain hopen.1 hopen.2 hquotes.1, readFrom_plains hquotes.2, hend .bare (by decide),
        Option.map_map, consChars_eq_comp]

/-! ## Rows -/

/-- The fields of a row are read as the texts that were written. -/
theorem readFrom_row {place : Place} (hstart : place.IsStart) {fields : List String} (hne : fields ≠ [])
    (rest : List Char) :
    readFrom place ((row (fields.map field)).toList ++ '\n' :: rest) =
      (readFrom .rowStart rest).map fun rows => fields.map String.toList :: rows := by
  -- the last field ends at the line feed, every other one at a comma, behind which the next one begins
  induction fields generalizing place with
  | nil => contradiction
  | cons s fields ih =>
    cases fields with
    | nil =>
      have hrow : row ([s].map field) = field s := by simp [row]
      rw [hrow, readFrom_field hstart s fun place hplace => readFrom_lineFeed hplace rest, Option.map_map]
      congr 1
      funext rows
      show consChars s.toList ([[]] :: rows) = _
      rw [consChars_cons, List.append_nil]
      rfl
    | cons t fields =>
      have hrow : (row ((s :: t :: fields).map field)).toList =
          (field s).toList ++ ',' :: (row ((t :: fields).map field)).toList := by
        simp [row, String.intercalate_cons_cons, List.append_assoc]
      rw [hrow, List.append_assoc, List.cons_append,
        readFrom_field hstart s fun place hplace => readFrom_comma hplace _, ih (Or.inr rfl) (by simp), Option.map_map,
        Option.map_map]
      congr 1
      funext rows
      show consChars s.toList (([] :: (t :: fields).map String.toList) :: rows) = _
      rw [consChars_cons, List.append_nil]
      rfl

/-- A table that is written row by row and field by field is read as it was, if every row has a field. -/
theorem read?_lines {table : List (List String)} (h : ∀ fields ∈ table, fields ≠ []) :
    read? (Print.lines (table.map fun fields => row (fields.map field))) = some table := by
  have hrows : readFrom .rowStart (Print.lines (table.map fun fields => row (fields.map field))).toList =
      some (table.map fun fields => fields.map String.toList) := by
    induction table with
    | nil => rfl
    | cons fields table ih =>
      have hlines : (Print.lines ((fields :: table).map fun fields => row (fields.map field))).toList =
          (row (fields.map field)).toList ++
            '\n' :: (Print.lines (table.map fun fields => row (fields.map field))).toList := by
        simp [Print.lines, String.join_cons, List.append_assoc]
      rw [hlines, readFrom_row (Or.inl rfl) (h fields List.mem_cons_self),
        ih fun other hother => h other (List.mem_cons_of_mem _ hother)]
      rfl
  unfold read?
  rw [hrows, Option.map_some, List.map_map]
  congr 1
  simp [Function.comp_def]

example : read? "1,\"Storage, \"\"hot\"\" tier\"\n2,\n" = some [["1", "Storage, \"hot\" tier"], ["2", ""]] := by
  decide +kernel

/-- Rows under a row of plain names are read as they were. -/
theorem read?_rows {header : List String} (hheader : header ≠ []) (hplain : ∀ name ∈ header, IsPlain name)
    {table : List (List String)} (htable : ∀ fields ∈ table, fields ≠ []) :
    read? (Print.rows header (table.map fun fields => fields.map field)) = some (header :: table) := by
  have hnames : header.map field = header := by
    rw [List.map_congr_left fun name hname => field_of_isPlain (hplain name hname), List.map_id']
  have hrows : Print.rows header (table.map fun fields => fields.map field) =
      Print.lines ((header :: table).map fun fields => row (fields.map field)) := by
    rw [Print.rows, List.map_cons, List.map_cons, List.map_map, hnames]
    rfl
  rw [hrows, read?_lines (List.forall_mem_cons.2 ⟨hheader, htable⟩)]

end Csv

end SpendLedger
