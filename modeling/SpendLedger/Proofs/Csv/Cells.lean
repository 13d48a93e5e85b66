import Mathlib.Data.List.Induction
import SpendLedger.Proofs.Csv.RoundTrip

/-!
# Cells that are written as they are

A table may hold cells that are written without a look at their characters. Such a table is read as it was exactly when
each of its cells is written as a field, that is, when no cell that is written as it is would have needed quotes: a comma
or a line break cuts such a cell, a quote in it is refused or taken for an opening one, and none of this can give the
cell back, whatever follows it.
-/

namespace SpendLedger

namespace Csv

/-- A cell of a table: what it says, and how it is written, as a field or as it is. -/
structure Cell where
  text : String
  written : String
  written_eq : written = field text ∨ written = text

namespace Cell

/-- A cell that is written as a field. -/
def guarded (s : String) : Cell := ⟨s, field s, Or.inl rfl⟩

/-- A cell that is written as it is. -/
def raw (s : String) : Cell := ⟨s, s, Or.inr rfl⟩

/-- A cell that is written as a field, whether on purpose or because it needs no quotes. -/
def IsField (cell : Cell) : Prop := cell.written = field cell.text

end Cell

/-- Doubling quotes makes no text shorter. -/
theorem length_le_doubleQuotes (cs : List Char) : cs.length ≤ (doubleQuotes cs).length := by
  induction cs with
  | nil => exact Nat.le_refl _
  | cons c cs ih =>
    unfold doubleQuotes
    split <;> simp only [List.length_cons] <;> omega

/-- The texts that stand as fields as they are, are the plain ones. -/
theorem field_eq_self_iff {s : String} : field s = s ↔ IsPlain s := by
  refine ⟨fun h => ?_, field_of_isPlain⟩
  have hnone : s.toList.any needsQuotes = false := by
    rw [← Bool.not_eq_true]
    intro hany
    have hlength := congrArg (fun t : String => t.toList.length) h
    simp only [field, if_pos hany, String.toList_ofList, List.cons_append, List.length_cons, List.length_append,
      List.length_nil] at hlength
    have := length_le_doubleQuotes s.toList
    omega
  simpa [IsPlain] using hnone

/-- A cell that is written as it is stands as a field if its text is plain. -/
theorem Cell.isField_raw_iff {s : String} : (Cell.raw s).IsField ↔ IsPlain s :=
  eq_comm.trans field_eq_self_iff

/-! ## The first field that is read -/

/-- A character that is put before rows begins their first field, if they have one. -/
theorem eq_of_consChar {c d : Char} {rows : Rows} {cs : List Char} {fields : List (List Char)} {more : Rows}
    (h : consChar c rows = ((d :: cs) :: fields) :: more) : c = d ∧ rows = (cs :: fields) :: more := by
  unfold consChar at h
  split at h
  · simp only [List.cons.injEq] at h
    obtain ⟨⟨⟨rfl, rfl⟩, rfl⟩, rfl⟩ := h
    exact ⟨rfl, rfl⟩
  · next hshape => exact absurd h (hshape _ _ _)

/-- Characters that are put before rows begin their first field, if they have one. -/
theorem eq_of_consChars (cs : List Char) {rows : Rows} {first : List Char} {fields : List (List Char)} {more : Rows}
    (h : consChars cs rows = ((cs ++ first) :: fields) :: more) : rows = (first :: fields) :: more := by
  induction cs with
  | nil => exact h
  | cons c cs ih =>
    rw [consChars_eq_comp, Function.comp_apply] at h
    exact ih (eq_of_consChar h).2

/-- A character that is read begins the first field, and the rest of it is read behind the character. -/
theorem eq_of_map_consChar {c d : Char} {rows : Option Rows} {cs : List Char} {fields : List (List Char)} {more : Rows}
    (h : rows.map (consChar c) = some (((d :: cs) :: fields) :: more)) :
    c = d ∧ rows = some ((cs :: fields) :: more) := by
  obtain ⟨rows, rfl, hrows⟩ := Option.map_eq_some_iff.1 h
  obtain ⟨rfl, rfl⟩ := eq_of_consChar hrows
  exact ⟨rfl, rfl⟩

/-- Behind the comma that ends a field nothing is left of it, and the fields after it are read. -/
theorem eq_of_map_consField {rows : Option Rows} {first : List Char} {fields : List (List Char)} {more : Rows}
    (h : rows.map consField = some ((first :: fields) :: more)) : first = [] ∧ rows = some (fields :: more) := by
  obtain ⟨rows, rfl, hrows⟩ := Option.map_eq_some_iff.1 h
  cases rows with
  | nil => cases hrows
  | cons row rows =>
    simp only [consField, List.cons.injEq] at hrows
    obtain ⟨⟨rfl, rfl⟩, rfl⟩ := hrows
    exact ⟨rfl, rfl⟩

/-- Behind the line break that ends a row nothing is left of its last field, and the rows after it are read. -/
theorem eq_of_map_consRow {rows : Option Rows} {first : List Char} {fields : List (List Char)} {more : Rows}
    (h : rows.map consRow = some ((first :: fields) :: more)) : first = [] ∧ fields = [] ∧ rows = some more := by
  obtain ⟨rows, rfl, hrows⟩ := Option.map_eq_some_iff.1 h
  simp only [consRow, List.cons.injEq] at hrows
  obtain ⟨⟨rfl, rfl⟩, rfl⟩ := hrows
  exact ⟨rfl, rfl, rfl⟩

/-- A comma or a line break where a field may end leaves nothing of it, and any other character that makes quotes
necessary is refused behind a quote. -/
theorem firstField_eq_nil {place : Place} (hplace : place ≠ .quoted) {c : Char}
    (hc : needsQuotes c = true ∨ place = .closed) (hquote : c ≠ '"') {cs : List Char} {first : List Char}
    {fields : List (List Char)} {more : Rows} (h : readFrom place (c :: cs) = some ((first :: fields) :: more)) :
    first = [] := by
  by_cases hcomma : c = ','
  · subst hcomma
    exact (eq_of_map_consField ((readFrom_comma hplace cs).symm.trans h)).1
  by_cases hfeed : c = '\n'
  · subst hfeed
    exact (eq_of_map_consRow ((readFrom_lineFeed hplace cs).symm.trans h)).1
  rw [readFrom.eq_def] at h
  by_cases hreturn : c = '\r'
  · subst hreturn
    cases place <;> first
      | contradiction
      | (simp only [if_neg hcomma, if_neg hfeed, if_true] at h
         split at h
         · exact (eq_of_map_consRow h).1
         · cases h)
  · rcases hc with hc | rfl
    · simp [needsQuotes, hcomma, hfeed, hreturn, hquote] at hc
    · simp only [if_neg hcomma, if_neg hfeed, if_neg hreturn, if_neg hquote, if_true] at h
      cases h

/-- Between quotes, a text that has quotes put before it is never read from what is left of it: every quote that is read
costs two of the text. -/
theorem readFrom_quoted_ne {delimiter : Char} (hdelimiter : delimiter ≠ '"') (cs rest : List Char) (n : Nat)
    (fields : List (List Char)) (more : Rows) :
    readFrom .quoted (cs ++ delimiter :: rest) ≠
      some (((List.replicate (n + 1) '"' ++ cs) :: fields) :: more) := by
  intro h
  have hfirst {c : Char} {tail : List Char} {n : Nat} {cs : List Char} (hc : c ≠ '"')
      (h : readFrom .quoted (c :: tail) = some (((List.replicate (n + 1) '"' ++ cs) :: fields) :: more)) : False := by
    rw [readFrom_quoted hc] at h
    exact hc (eq_of_map_consChar h).1
  have hclosed {c : Char} {tail : List Char} {n : Nat} {cs : List Char} (hc : c ≠ '"')
      (h : readFrom .quoted ('"' :: c :: tail) = some (((List.replicate (n + 1) '"' ++ cs) :: fields) :: more)) :
      False := by
    rw [readFrom_quoted_quote] at h
    exact List.cons_ne_nil _ _ (firstField_eq_nil (by decide) (Or.inr rfl) hc h)
  -- two characters at a time, because a quote in the field is written as two
  induction cs using List.twoStepInduction generalizing n with
  | nil => exact hfirst hdelimiter h
  | singleton c =>
    by_cases hc : c = '"'
    · subst hc
      exact hclosed hdelimiter h
    · exact hfirst hc h
  | cons_cons c d cs ih _ =>
    by_cases hc : c = '"'
    · subst hc
      by_cases hd : d = '"'
      · subst hd
        rw [List.cons_append, List.cons_append, readFrom_quoted_quote, readFrom_closed_quote] at h
        have hquotes : List.replicate n '"' ++ '"' :: '"' :: cs = List.replicate (n + 2) '"' ++ cs := by
          rw [← List.replicate_append_replicate, List.append_assoc]
          rfl
        have hrest : readFrom .quoted (cs ++ delimiter :: rest) =
            some (((List.replicate n '"' ++ '"' :: '"' :: cs) :: fields) :: more) := (eq_of_map_consChar h).2
        rw [hquotes] at hrest
        exact ih (n + 1) hrest
      · exact hclosed hd h
    · exact hfirst hc h

/-- Without quotes, only plain characters are read as they stand. -/
theorem plain_of_readFrom_bare {cs rest : List Char} {fields : List (List Char)} {more : Rows}
    (h : readFrom .bare (cs ++ rest) = some ((cs :: fields) :: more)) : cs.any needsQuotes = false := by
  induction cs with
  | nil => rfl
  | cons c cs ih =>
    have hc : needsQuotes c = false := by
      rw [← Bool.not_eq_true]
      intro hc
      by_cases hquote : c = '"'
      · subst hquote
        rw [List.cons_append, readFrom.eq_def] at h
        cases h
      · exact List.cons_ne_nil _ _ (firstField_eq_nil (by decide) (Or.inl hc) hquote h)
    rw [List.cons_append, readFrom_plain (by decide) (by decide) hc] at h
    rw [List.any_cons, hc, ih (eq_of_map_consChar h).2]
    rfl

/-- A text that is written as it is and read as it was is plain. -/
theorem isPlain_of_readFrom {place : Place} (hstart : place.IsStart) {s : String} {delimiter : Char}
    (hdelimiter : delimiter ≠ '"') {rest : List Char} {fields : List (List Char)} {more : Rows}
    (h : readFrom place (s.toList ++ delimiter :: rest) = some ((s.toList :: fields) :: more)) : IsPlain s := by
  have hopen : place ≠ .quoted ∧ place ≠ .closed := by
    rcases hstart with rfl | rfl <;> decide
  have hnone : s.toList.any needsQuotes = false := by
    cases hcs : s.toList with
    | nil => rfl
    | cons c cs =>
      rw [hcs, List.cons_append] at h
      by_cases hquote : c = '"'
      · subst hquote
        rw [readFrom_start_quote hstart] at h
        exact absurd h (readFrom_quoted_ne hdelimiter cs rest 0 fields more)
      · have hc : needsQuotes c = false := by
          rw [← Bool.not_eq_true]
          exact fun hc => List.cons_ne_nil _ _ (firstField_eq_nil hopen.1 (Or.inl hc) hquote h)
        rw [readFrom_plain hopen.1 hopen.2 hc] at h
        rw [List.any_cons, hc, plain_of_readFrom_bare (eq_of_map_consChar h).2]
        rfl
  simpa [IsPlain] using hnone

/-! ## Rows and tables -/

/-- A cell that is read as it was is written as a field, and what follows it is read as the rest. -/
theorem isField_of_readFrom {place : Place} (hstart : place.IsStart) {cell : Cell} {delimiter : Char}
    (hdelimiter : delimiter ≠ '"') {rest : List Char} {end? : Option Rows}
    (hend : ∀ place, place ≠ .quoted → readFrom place (delimiter :: rest) = end?)
    {fields : List (List Char)} {more : Rows}
    (h : readFrom place (cell.written.toList ++ delimiter :: rest) = some ((cell.text.toList :: fields) :: more)) :
    cell.IsField ∧ end? = some (([] :: fields) :: more) := by
  have hfield : cell.IsField := by
    rcases cell.written_eq with hfield | hraw
    · exact hfield
    · rw [hraw] at h
      exact hraw.trans (field_of_isPlain (isPlain_of_readFrom hstart hdelimiter h)).symm
  rw [hfield, readFrom_field hstart cell.text hend] at h
  obtain ⟨rows, rfl, hrows⟩ := Option.map_eq_some_iff.1 h
  exact ⟨hfield, congrArg some (eq_of_consChars cell.text.toList (by rw [List.append_nil]; exact hrows))⟩

/-- A row that is read as it was has its cells written as fields, and what follows it is read as the rest. -/
theorem isField_of_readFrom_row {place : Place} (hstart : place.IsStart) {cells : List Cell} (hne : cells ≠ [])
    {rest : List Char} {more : Rows}
    (h : readFrom place ((row (cells.map Cell.written)).toList ++ '\n' :: rest) =
      some (cells.map (fun cell => cell.text.toList) :: more)) :
    (∀ cell ∈ cells, cell.IsField) ∧ readFrom .rowStart rest = some more := by
  -- the last cell ends at the line feed, every other one at a comma, behind which the next one begins
  induction cells generalizing place with
  | nil => contradiction
  | cons cell cells ih =>
    cases cells with
    | nil =>
      have hrow : row ([cell].map Cell.written) = cell.written := by simp [row]
      rw [hrow] at h
      obtain ⟨hfield, hrest⟩ := isField_of_readFrom hstart (by decide)
        (fun place hplace => readFrom_lineFeed hplace rest) h
      exact ⟨by simpa using hfield, (eq_of_map_consRow hrest).2.2⟩
    | cons next cells =>
      have hrow : (row ((cell :: next :: cells).map Cell.written)).toList =
          cell.written.toList ++ ',' :: (row ((next :: cells).map Cell.written)).toList := by
        simp [row, String.intercalate_cons_cons, List.append_assoc]
      rw [hrow, List.append_assoc, List.cons_append] at h
      obtain ⟨hfield, hrest⟩ := isField_of_readFrom hstart (by decide)
        (fun place hplace => readFrom_comma hplace _) h
      obtain ⟨hcells, hmore⟩ := ih (Or.inr rfl) (by simp) (eq_of_map_consField hrest).2
      exact ⟨List.forall_mem_cons.2 ⟨hfield, hcells⟩, hmore⟩

/-- A table that is written row by row is read as it was exactly when each of its cells is written as a field. -/
theorem read?_cells_iff (table : List (List Cell)) (h : ∀ cells ∈ table, cells ≠ []) :
    read? (Print.lines (table.map fun cells => row (cells.map Cell.written))) =
        some (table.map fun cells => cells.map Cell.text) ↔
      ∀ cells ∈ table, ∀ cell ∈ cells, cell.IsField := by
  constructor
  · intro hread
    obtain ⟨rows, hrows, htexts⟩ := Option.map_eq_some_iff.1 hread
    have hchars : rows = table.map fun cells => cells.map fun cell => cell.text.toList := by
      have := congrArg (List.map (List.map String.toList)) htexts
      simpa [Function.comp_def] using this
    rw [hchars] at hrows
    clear hread htexts hchars
    induction table with
    | nil => simp
    | cons cells table ih =>
      have hlines : (Print.lines ((cells :: table).map fun cells => row (cells.map Cell.written))).toList =
          (row (cells.map Cell.written)).toList ++
            '\n' :: (Print.lines (table.map fun cells => row (cells.map Cell.written))).toList := by
        simp [Print.lines, String.join_cons, List.append_assoc]
      rw [hlines] at hrows
      obtain ⟨hcells, hrest⟩ := isField_of_readFrom_row (Or.inl rfl) (h cells List.mem_cons_self) hrows
      exact List.forall_mem_cons.2
        ⟨hcells, ih (fun other hother => h other (List.mem_cons_of_mem _ hother)) hrest⟩
  · intro hfields
    have hwritten : table.map (fun cells => row (cells.map Cell.written)) =
        (table.map fun cells => cells.map Cell.text).map fun texts => row (texts.map field) := by
      rw [List.map_map]
      refine List.map_congr_left fun cells hcells => congrArg row ?_
      rw [List.map_map]
      exact List.map_congr_left fun cell hcell => hfields cells hcells cell hcell
    rw [hwritten]
    refine read?_lines fun texts htexts => ?_
    obtain ⟨cells, hcells, rfl⟩ := List.mem_map.1 htexts
    simpa using h cells hcells

/-- Rows under a row of plain names are read as they were exactly when each of their cells is written as a field. -/
theorem read?_rows_iff (header : List String) (hheader : header ≠ []) (hplain : ∀ name ∈ header, IsPlain name)
    (table : List (List Cell)) (htable : ∀ cells ∈ table, cells ≠ []) :
    read? (Print.rows header (table.map fun cells => cells.map Cell.written)) =
        some (header :: table.map fun cells => cells.map Cell.text) ↔
      ∀ cells ∈ table, ∀ cell ∈ cells, cell.IsField := by
  have htexts : (header.map Cell.raw :: table).map (fun cells => cells.map Cell.text) =
      header :: table.map fun cells => cells.map Cell.text := by
    rw [List.map_cons, List.map_map]
    congr 1
    exact List.map_id' header
  have hnames : (header.map Cell.raw).map Cell.written = header := by
    rw [List.map_map]
    exact List.map_id' header
  have hrows : Print.rows header (table.map fun cells => cells.map Cell.written) =
      Print.lines ((header.map Cell.raw :: table).map fun cells => row (cells.map Cell.written)) := by
    rw [Print.rows, List.map_cons, List.map_cons, List.map_map, hnames]
    rfl
  have hraw : ∀ cell ∈ header.map Cell.raw, cell.IsField := by
    intro cell hcell
    obtain ⟨name, hname, rfl⟩ := List.mem_map.1 hcell
    exact Cell.isField_raw_iff.2 (hplain name hname)
  have hread := read?_cells_iff (header.map Cell.raw :: table)
    (List.forall_mem_cons.2 ⟨by simpa using hheader, htable⟩)
  rw [← hrows, htexts, List.forall_mem_cons] at hread
  rw [hread]
  exact and_iff_right hraw

end Csv

end SpendLedger
