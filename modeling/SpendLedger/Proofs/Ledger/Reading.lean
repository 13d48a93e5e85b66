import SpendLedger.Proofs.Calendar.RoundTrip
import SpendLedger.Proofs.Ledger.History

/-!
# Records read back

Every row that a history of calls leaves in a store has the text of a date, so that every query succeeds and answers with
the records in the rows that it selects.
-/

namespace SpendLedger

variable {α : Type}

/-! ## Rows that can be read -/

/-- The record in a row whose date can be read; the earliest date stands for one that cannot. -/
def CostRow.entry (row : CostRow α) : CostRecord α where
  id := some row.id
  account := row.account
  group := row.group
  service := row.service
  cost := row.cost
  currency := row.currency
  date := (Date.read row.dateText).toOption.getD Date.min

/-- A row whose day is the text of a date is read without a failure. -/
theorem CostRow.record_eq {row : CostRow α} {d : Date} (h : row.dateText = d.toText) :
    row.record = .ok row.entry := by
  unfold CostRow.record CostRow.entry
  rw [h, Date.read_toText]
  rfl

/-- What stands for a date that was written is that date. -/
theorem CostRow.date_entry {row : CostRow α} {d : Date} (h : row.dateText = d.toText) : row.entry.date = d := by
  unfold CostRow.entry
  rw [h, Date.read_toText]
  rfl

/-- The records in the rows that are picked are those of all rows that are picked in the same way. -/
theorem CostRow.map_entry_filter {rows : List (CostRow α)} {p : CostRow α → Bool} {q : CostRecord α → Bool}
    (h : ∀ row ∈ rows, p row = q row.entry) :
    (rows.filter p).map CostRow.entry = (rows.map CostRow.entry).filter q := by
  rw [List.filter_map]
  exact congrArg (List.map CostRow.entry) (List.filter_congr h)

namespace Store

/-- A store whose rows all have the text of a date. -/
def Readable (s : Store α) : Prop :=
  ∀ row ∈ s.rows, ∃ d : Date, row.dateText = d.toText

theorem readable_empty : (empty : Store α).Readable :=
  nofun

/-- Reading rows that can be read answers with the record in each of them. -/
theorem mapM_record_eq {rows : List (CostRow α)} (h : ∀ row ∈ rows, ∃ d : Date, row.dateText = d.toText)
    (blame : Date.Fault → Failure) :
    rows.mapM (fun row => row.record.mapError blame) = .ok (rows.map CostRow.entry) := by
  induction rows with
  | nil => rfl
  | cons row rows ih =>
    obtain ⟨d, hd⟩ := h row List.mem_cons_self
    rw [List.mapM_cons, CostRow.record_eq hd, ih fun other hother => h other (List.mem_cons_of_mem _ hother)]
    rfl

theorem mem_rows_of_mem_select {s : Store α} {selection : Selection} {row : CostRow α}
    (h : row ∈ s.select selection) : row ∈ s.rows := by
  unfold select within at h
  exact (List.mem_filter.1 (List.mem_filter.1 (List.mem_mergeSort.1 h)).1).1

/-- A query of a readable store answers with the records in the rows that it selects. -/
theorem query_eq {s : Store α} (hs : s.Readable) (selection : Selection) :
    s.query selection = .ok ((s.select selection).map CostRow.entry) :=
  mapM_record_eq (fun row hrow => hs row (mem_rows_of_mem_select hrow)) _

/-- What reading rows can come to: the record in each of them, or a failure because one of them has no date. -/
theorem mapM_record_cases (rows : List (CostRow α)) (blame : Date.Fault → Failure) :
    match rows.mapM fun row => row.record.mapError blame with
    | .ok found => found = rows.map CostRow.entry
    | .error _ => ∃ row ∈ rows, ∃ fault, Date.read row.dateText = .error fault := by
  induction rows with
  | nil => rfl
  | cons row rows ih =>
    rw [List.mapM_cons]
    cases hdate : Date.read row.dateText with
    | error fault =>
      have hrow : row.record.mapError blame = .error (blame fault) := by
        unfold CostRow.record
        rw [hdate]
        rfl
      rw [hrow]
      exact ⟨row, List.mem_cons_self, fault, hdate⟩
    | ok d =>
      have hrow : row.record.mapError blame = .ok row.entry := by
        unfold CostRow.record CostRow.entry
        rw [hdate]
        rfl
      rw [hrow]
      cases hrows : rows.mapM fun row => row.record.mapError blame with
      | error e =>
        rw [hrows] at ih
        obtain ⟨other, hother, fault, hfault⟩ := ih
        exact ⟨other, List.mem_cons_of_mem _ hother, fault, hfault⟩
      | ok found =>
        rw [hrows] at ih
        exact congrArg (row.entry :: ·) ih

/-- What a query of any store can come to: the records in the rows that it selects, or a failure because a row has no
date. -/
theorem query_cases (s : Store α) (selection : Selection) :
    match s.query selection with
    | .ok found => found = (s.select selection).map CostRow.entry
    | .error _ => ∃ row ∈ s.rows, ∃ fault, Date.read row.dateText = .error fault := by
  have hcases := mapM_record_cases (s.select selection) fun fault =>
    Failure.persistence .readingRecords (.unreadableDate fault)
  unfold query
  split at hcases
  · exact hcases
  · obtain ⟨row, hrow, fault, hfault⟩ := hcases
    exact ⟨row, mem_rows_of_mem_select hrow, fault, hfault⟩

/-- The selection of all records leaves no row out. -/
theorem select_all_perm (s : Store α) : (s.select Selection.all).Perm s.rows := by
  have hwithin : s.within Selection.all.window = s.rows := List.filter_eq_self.2 fun _ _ => rfl
  have hservice : s.rows.filter (fun row => Selection.all.service.all (· = row.service)) = s.rows :=
    List.filter_eq_self.2 fun _ _ => rfl
  unfold select
  rw [hwithin, hservice]
  exact List.mergeSort_perm _ _

/-- All records of a readable store are those in its rows. -/
theorem allRecords_perm {s : Store α} (hs : s.Readable) :
    ∃ found, s.allRecords = .ok found ∧ found.Perm (s.rows.map CostRow.entry) :=
  ⟨_, query_eq hs Selection.all, (select_all_perm s).map CostRow.entry⟩

/-- Records that are read from rows in the order of their numbers have different numbers. -/
theorem nodup_map_id_entry {rows : List (CostRow α)} (h : (rows.map CostRow.id).Pairwise (· < ·)) :
    ((rows.map CostRow.entry).map CostRecord.id).Nodup := by
  rw [List.map_map, List.Nodup, List.pairwise_map]
  rw [List.pairwise_map] at h
  refine h.imp fun {a b} hlt heq => ?_
  have hid : (a.id : Int) = b.id := Option.some.inj heq
  omega

/-! ## What a history leaves -/

variable [Amount α]

/-- The rows of a batch have the texts of the days of its records. -/
theorem dateText_of_mem_numbered {first : Nat} {batch : List (CostRecord α)} {row : CostRow α}
    (h : row ∈ numbered first batch) : ∃ d : Date, row.dateText = d.toText := by
  obtain ⟨i, hi, hrow⟩ := List.mem_mapIdx.1 h
  exact ⟨batch[i].date, by rw [← hrow]; rfl⟩

/-- A call leaves a readable store readable. -/
theorem readable_run {s : Store α} (hs : s.Readable) (c : Call α) : (c.run s).2.Readable := by
  cases outcome s c with
  | appended batch _ hrun =>
    rw [hrun]
    intro row hrow
    rcases List.mem_append.1 hrow with hold | hnew
    · exact hs row hold
    · exact dateText_of_mem_numbered hnew
  | failed _ _ hrun | asked _ _ hrun | added _ _ hrun | removed _ _ hrun | written _ _ _ hrun =>
    rw [hrun]
    exact hs

/-- Every store that a history leaves is readable, if the one before it was. -/
theorem readable_after {s : Store α} (hs : s.Readable) (calls : List (Call α)) : (s.after calls).Readable := by
  induction calls generalizing s with
  | nil => exact hs
  | cons c later ih => exact ih (readable_run hs c)

/-- Every store that a history leaves is readable. -/
theorem readable_ofHistory (calls : List (Call α)) : (ofHistory calls).Readable :=
  readable_after readable_empty calls

/-- What is read from the row that a record becomes: the record, with its number and with the cost that is kept. -/
theorem entry_rowOf (id : Nat) (r : CostRecord α) :
    (rowOf id r).entry = { r with id := some (id : Int), cost := r.cost + Amount.zero } := by
  have hdate : (rowOf id r).entry.date = r.date := CostRow.date_entry rfl
  rw [CostRecord.mk.injEq]
  exact ⟨rfl, rfl, rfl, rfl, rfl, rfl, hdate⟩

/-- What is read from the rows of a batch. -/
theorem map_entry_numbered (first : Nat) (batch : List (CostRecord α)) :
    (numbered first batch).map CostRow.entry =
      batch.mapIdx fun i r => { r with id := some ((first + i : Nat) : Int), cost := r.cost + Amount.zero } := by
  refine List.ext_getElem (by simp) fun i _ _ => ?_
  rw [List.getElem_map, List.getElem_mapIdx]
  unfold numbered
  rw [List.getElem_mapIdx, entry_rowOf]

end Store

end SpendLedger
