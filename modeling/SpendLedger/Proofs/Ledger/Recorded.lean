import SpendLedger.Proofs.Ledger.Reading

/-!
# What a history has recorded

The cost rows that a history of calls leaves in a store that was empty at first are the records of the batches that were
taken, in the order in which they came and numbered from 1. What is read from the store can therefore be said in terms of
the records that were put into it.
-/

namespace SpendLedger

namespace Store

variable {α : Type} [Amount α]

/-! ## Records that were taken -/

/-- The records that a call brings into a store: those of a batch in which every record keeps the rules. -/
def Call.taken : Call α → List (CostRecord α)
  | insertBatch batch => if ∀ r ∈ batch, Admits r then batch else []
  | saveAlert _ | deleteAlert _ | setSetting _ _ | ask _ => []

/-- The records that a history brings into a store. -/
def taken (calls : List (Call α)) : List (CostRecord α) :=
  calls.flatMap Call.taken

/-- The records that a history leaves in a store, as they are read: under the numbers from 1 on and with the costs that
are kept. -/
def recorded (calls : List (Call α)) : List (CostRecord α) :=
  (taken calls).mapIdx fun i r => { r with id := some ((1 + i : Nat) : Int), cost := r.cost + Amount.zero }

/-! ## The rows of a history -/

theorem numbered_append (first : Nat) (earlier later : List (CostRecord α)) :
    numbered first (earlier ++ later) = numbered first earlier ++ numbered (first + earlier.length) later := by
  induction earlier generalizing first with
  | nil => rfl
  | cons r earlier ih =>
    have hlength : first + 1 + earlier.length = first + (r :: earlier).length := by
      rw [List.length_cons]
      omega
    rw [List.cons_append, numbered_cons, numbered_cons, ih, hlength, List.cons_append]

/-- A call that appends no batch leaves the cost rows and their next number as they are. -/
theorem rows_run_of_part {s : Store α} {c : Call α} (h : c.part? ≠ some .costs) :
    (c.run s).2.rows = s.rows ∧ (c.run s).2.nextRow = s.nextRow := by
  cases outcome s c with
  | appended batch hcall _ => exact absurd (congrArg Call.part? hcall) h
  | failed _ _ hrun | asked _ _ hrun | added _ _ hrun | removed _ _ hrun | written _ _ _ hrun =>
    rw [hrun]
    exact ⟨rfl, rfl⟩

/-- The rows that a call adds are those of the records that it brings. -/
theorem rows_run_taken (s : Store α) (c : Call α) :
    (c.run s).2.rows = s.rows ++ numbered s.nextRow c.taken ∧ (c.run s).2.nextRow = s.nextRow + c.taken.length := by
  cases c with
  | insertBatch batch =>
    cases h : s.insertBatch batch with
    | ok t =>
      obtain ⟨hadmits, rfl⟩ := insertBatch_eq_ok_iff.1 h
      rw [run_insertBatch s hadmits, Call.taken, if_pos hadmits]
      exact ⟨rfl, rfl⟩
    | error e =>
      obtain ⟨r, hr, hbad⟩ := exists_not_admits_of_error h
      rw [Call.taken, if_neg fun hall => hbad (hall r hr)]
      simp only [Call.run, h]
      exact ⟨(List.append_nil _).symm, rfl⟩
  | saveAlert _ | deleteAlert _ | setSetting _ _ | ask _ =>
    refine (rows_run_of_part ?_).imp_left fun hrows => hrows.trans (List.append_nil _).symm
    intro h
    cases h

/-- The rows that a history adds are those of the records that it brings. -/
theorem rows_after (s : Store α) (calls : List (Call α)) :
    (s.after calls).rows = s.rows ++ numbered s.nextRow (taken calls) := by
  induction calls generalizing s with
  | nil => exact (List.append_nil _).symm
  | cons c later ih =>
    obtain ⟨hrows, hnext⟩ := rows_run_taken s c
    have htaken : taken (c :: later) = c.taken ++ taken later := rfl
    rw [after_cons, ih, hrows, hnext, htaken, numbered_append, List.append_assoc]

/-- The rows of a history are the records that it brings, numbered from 1. -/
theorem rows_ofHistory (calls : List (Call α)) : (ofHistory calls).rows = numbered 1 (taken calls) :=
  rows_after empty calls

/-- What is read from the rows of a history is what it has recorded. -/
theorem map_entry_rows (calls : List (Call α)) : (ofHistory calls).rows.map CostRow.entry = recorded calls := by
  rw [rows_ofHistory, map_entry_numbered]
  rfl

end Store

end SpendLedger
