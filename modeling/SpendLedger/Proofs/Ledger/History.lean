import SpendLedger.Proofs.Ledger.Batch
import SpendLedger.Proofs.Table

/-!
# The history of a store

A store is used by calls that write into one of its three tables or ask a question about one of them. This module says
what any history of calls does to a store that was empty at first: cost rows stay as they are, numbers are never given
out again, a call that fails leaves no trace, settings hold what was last written, and the tables do not touch each
other.
-/

namespace SpendLedger

namespace Store

/-! ## Calls -/

/-- The tables of a store. -/
inductive Part where
  | costs
  | alerts
  | settings
deriving DecidableEq

/-- What a store can be asked. -/
inductive Question where
  | records (selection : Selection)
  | allRecords
  | sums (dimension : Dimension) (window : Window)
  | months (today : Date) (count : Nat)
  | count (account : String) (window : Window)
  | currencies (window : Window)
  | alerts
  | alert (name : String)
  | setting (key : String)
  | settings

/-- The table that a question is about. -/
def Question.part : Question → Part
  | records _ | allRecords | sums _ _ | months _ _ | count _ _ | currencies _ => .costs
  | alerts | alert _ => .alerts
  | setting _ | settings => .settings

/-- What a store answers. -/
inductive Answer (α : Type) where
  | records (found : List (CostRecord α))
  | sums (totals : Table α)
  | months (totals : List (MonthTotal α))
  /-- A number of things, or the number of a thing. -/
  | number (n : Nat)
  | texts (found : List String)
  | alerts (found : List (Alert α))
  | alert (found : Option (Alert α))
  | value (found : Option String)
  | settings (found : List (String × String))
  | done

variable {α : Type} [Amount α]

/-- The answer to a question. -/
def answer (s : Store α) : Question → Except Failure (Answer α)
  | .records selection => (s.query selection).map .records
  | .allRecords => s.allRecords.map .records
  | .sums dimension window => (s.aggregate dimension window).map .sums
  | .months today count => (s.monthTotals today count).map .months
  | .count account window => .ok (.number (s.count account window))
  | .currencies window => .ok (.texts (s.currencies window))
  | .alerts => .ok (.alerts s.listAlerts)
  | .alert name => .ok (.alert (s.alertNamed? name))
  | .setting key => .ok (.value (s.setting? key))
  | .settings => .ok (.settings s.settings.entries)

/-- What can be done with a store. -/
inductive Call (α : Type) where
  | insertBatch (batch : List (CostRecord α))
  | saveAlert (alert : Alert α)
  | deleteAlert (name : String)
  | setSetting (key value : String)
  | ask (question : Question)

namespace Call

/-- The table that a call writes into, if it writes. -/
def part? : Call α → Option Part
  | insertBatch _ => some .costs
  | saveAlert _ | deleteAlert _ => some .alerts
  | setSetting _ _ => some .settings
  | ask _ => none

/-- What a call answers, and the store after it. -/
def run (s : Store α) : Call α → Except Failure (Answer α) × Store α
  | insertBatch batch => match s.insertBatch batch with
    | .ok s' => (.ok (.number batch.length), s')
    | .error e => (.error e, s)
  | saveAlert alert => match s.saveAlert alert with
    | .ok (s', id) => (.ok (.number id), s')
    | .error e => (.error e, s)
  | deleteAlert name => (.ok (.number (s.deleteAlert name).2), (s.deleteAlert name).1)
  | setSetting key value => (.ok .done, s.setSetting key value)
  | ask question => (s.answer question, s)

/-- The numbers of the cost rows that a call adds. -/
def rowNumbers (s : Store α) (c : Call α) : List Nat :=
  ((c.run s).2.rows.drop s.rows.length).map CostRow.id

/-- The numbers of the alerts that a call adds. -/
def alertNumbers (s : Store α) (c : Call α) : List Nat :=
  ((c.run s).2.alerts.drop s.alerts.length).map AlertRow.id

end Call

/-- The store after a history of calls. -/
def after (s : Store α) (calls : List (Call α)) : Store α :=
  calls.foldl (fun s c => (c.run s).2) s

/-- The store that a history leaves, if there was nothing in it at first. -/
def ofHistory (calls : List (Call α)) : Store α :=
  empty.after calls

/-- The numbers that the calls of a history give out, each call in the store that the calls before it left. -/
def along (numbers : Store α → Call α → List Nat) : Store α → List (Call α) → List Nat
  | _, [] => []
  | s, c :: later => numbers s c ++ along numbers (c.run s).2 later

/-- The answers of a history. -/
def answers : Store α → List (Call α) → List (Except Failure (Answer α))
  | _, [] => []
  | s, c :: later => (c.run s).1 :: answers (c.run s).2 later

/-- The value that a history last gave to a setting, or the one that it had before. -/
def lastWritten (key : String) (before : Option String) (calls : List (Call α)) : Option String :=
  calls.foldl (fun value c => match c with
    | .setSetting k v => if k = key then some v else value
    | _ => value) before

/-! ## What one call does -/

/-- A store with an alert under the next number. -/
def withAlert (s : Store α) (alert : Alert α) : Store α :=
  { s with
    alerts := s.alerts ++ [⟨s.nextAlert, alert.name, alert.threshold, alert.account, alert.enabled⟩]
    nextAlert := s.nextAlert + 1 }

/-- An alert that is saved is appended, and its number is the answer. -/
theorem saveAlert_eq_ok {s t : Store α} {alert : Alert α} {id : Nat} (h : s.saveAlert alert = .ok (t, id)) :
    t = s.withAlert alert ∧ id = s.nextAlert := by
  unfold saveAlert at h
  split at h
  · cases h
  · split at h
    · cases h
      exact ⟨rfl, rfl⟩
    · cases h

/-- All that a call can do: it fails and leaves the store as it is, or it asks, or it changes one table in one way. -/
inductive Outcome (s : Store α) (c : Call α) : Prop where
  | failed (e : Failure) (part : c.part? ≠ some .settings) (run : c.run s = (.error e, s))
  | asked (q : Question) (call : c = .ask q) (run : c.run s = (s.answer q, s))
  | appended (batch : List (CostRecord α)) (call : c = .insertBatch batch)
      (run : c.run s = (.ok (.number batch.length), s.withBatch batch))
  | added (alert : Alert α) (call : c = .saveAlert alert) (run : c.run s = (.ok (.number s.nextAlert), s.withAlert alert))
  | removed (name : String) (call : c = .deleteAlert name)
      (run : c.run s = (.ok (.number (s.deleteAlert name).2), (s.deleteAlert name).1))
  | written (key value : String) (call : c = .setSetting key value) (run : c.run s = (.ok .done, s.setSetting key value))

/-- A call has one of the outcomes. -/
theorem outcome (s : Store α) (c : Call α) : Outcome s c := by
  cases c with
  | insertBatch batch =>
    cases h : s.insertBatch batch with
    | error e => exact .failed e nofun (by simp only [Call.run, h])
    | ok t =>
      obtain ⟨_, rfl⟩ := insertBatch_eq_ok_iff.1 h
      exact .appended batch rfl (by simp only [Call.run, h])
  | saveAlert alert =>
    cases h : s.saveAlert alert with
    | error e => exact .failed e nofun (by simp only [Call.run, h])
    | ok saved =>
      obtain ⟨t, id⟩ := saved
      obtain ⟨rfl, rfl⟩ := saveAlert_eq_ok h
      exact .added alert rfl (by simp only [Call.run, h])
  | deleteAlert name => exact .removed name rfl rfl
  | setSetting key value => exact .written key value rfl rfl
  | ask q => exact .asked q rfl rfl

/-- A batch whose records keep the rules is taken. -/
theorem run_insertBatch (s : Store α) {batch : List (CostRecord α)} (h : ∀ r ∈ batch, Admits r) :
    Call.run s (.insertBatch batch) = (.ok (.number batch.length), s.withBatch batch) := by
  simp only [Call.run, insertBatch_eq_ok_iff.2 ⟨h, rfl⟩]

/-- An alert with a threshold above zero is saved. -/
theorem saveAlert_of_positive (s : Store α) {alert : Alert α} (hnumber : Amount.isNaN alert.threshold = false)
    (hpositive : Amount.lt Amount.zero alert.threshold = true) :
    s.saveAlert alert = .ok (s.withAlert alert, s.nextAlert) := by
  unfold saveAlert
  rw [hnumber, hpositive]
  rfl

/-- An alert with a threshold above zero is taken. -/
theorem run_saveAlert (s : Store α) {alert : Alert α} (hnumber : Amount.isNaN alert.threshold = false)
    (hpositive : Amount.lt Amount.zero alert.threshold = true) :
    Call.run s (.saveAlert alert) = (.ok (.number s.nextAlert), s.withAlert alert) := by
  simp only [Call.run, saveAlert_of_positive s hnumber hpositive]

/-- A call that fails leaves the store as it is. -/
theorem run_eq_of_error {s : Store α} {c : Call α} {e : Failure} (h : (c.run s).1 = .error e) : (c.run s).2 = s := by
  cases outcome s c with
  | failed _ _ hrun | asked _ _ hrun => rw [hrun]
  | appended _ _ hrun | added _ _ hrun | removed _ _ hrun | written _ _ _ hrun =>
    rw [hrun] at h
    cases h

/-- A call appends cost rows under the next numbers, maybe none, and changes no row that is there. -/
theorem rows_run (s : Store α) (c : Call α) :
    ∃ new, (c.run s).2.rows = s.rows ++ new ∧ new.map CostRow.id = List.range' s.nextRow new.length ∧
      (c.run s).2.nextRow = s.nextRow + new.length := by
  cases outcome s c with
  | appended batch _ hrun =>
    rw [hrun]
    refine ⟨numbered s.nextRow batch, rfl, ?_, ?_⟩
    · rw [map_id_numbered, length_numbered]
    · rw [length_numbered]
      rfl
  | failed _ _ hrun | asked _ _ hrun | added _ _ hrun | removed _ _ hrun | written _ _ _ hrun =>
    rw [hrun]
    exact ⟨[], (List.append_nil _).symm, rfl, rfl⟩

/-- The numbers of the cost rows that a call adds are the next ones. -/
theorem rowNumbers_eq (s : Store α) (c : Call α) :
    ∃ n, c.rowNumbers s = List.range' s.nextRow n ∧ (c.run s).2.nextRow = s.nextRow + n := by
  obtain ⟨new, hrows, hids, hnext⟩ := rows_run s c
  refine ⟨new.length, ?_, hnext⟩
  rw [Call.rowNumbers, hrows, List.drop_left, hids]

/-- A call that leaves no more alerts than there were gives out no number for one. -/
theorem alertNumbers_eq_nil {s : Store α} {c : Call α} (h : (c.run s).2.alerts.length ≤ s.alerts.length) :
    c.alertNumbers s = [] := by
  rw [Call.alertNumbers, List.drop_of_length_le h]
  rfl

/-- A call that adds an alert gives out the next number. -/
theorem alertNumbers_of_withAlert {s : Store α} {c : Call α} {alert : Alert α}
    (h : (c.run s).2 = s.withAlert alert) : c.alertNumbers s = [s.nextAlert] := by
  rw [Call.alertNumbers, h]
  show ((s.alerts ++ _).drop s.alerts.length).map AlertRow.id = _
  rw [List.drop_left]
  rfl

/-- The numbers of the alerts that a call adds are the next ones. -/
theorem alertNumbers_eq (s : Store α) (c : Call α) :
    ∃ n, c.alertNumbers s = List.range' s.nextAlert n ∧ (c.run s).2.nextAlert = s.nextAlert + n := by
  cases outcome s c with
  | added alert _ hrun => exact ⟨1, alertNumbers_of_withAlert (by rw [hrun]), by rw [hrun]; rfl⟩
  | removed name _ hrun =>
    refine ⟨0, alertNumbers_eq_nil ?_, by rw [hrun]; rfl⟩
    rw [hrun]
    exact List.length_filter_le _ _
  | failed _ _ hrun | asked _ _ hrun | appended _ _ hrun | written _ _ _ hrun =>
    have hlength := congrArg (fun ran : _ × Store α => ran.2.alerts.length) hrun
    exact ⟨0, alertNumbers_eq_nil (Nat.le_of_eq hlength), congrArg (fun ran : _ × Store α => ran.2.nextAlert) hrun⟩

/-- Every alert after a call was there before or has a number that the call gave out. -/
theorem mem_alerts_run {s : Store α} {c : Call α} {row : AlertRow α} (h : row ∈ (c.run s).2.alerts) :
    row ∈ s.alerts ∨ row.id ∈ c.alertNumbers s := by
  cases outcome s c with
  | added alert _ hrun =>
    rw [alertNumbers_of_withAlert (by rw [hrun])]
    rw [hrun] at h
    rcases List.mem_append.1 h with hold | hnew
    · exact Or.inl hold
    · rw [List.mem_singleton.1 hnew]
      exact Or.inr List.mem_cons_self
  | removed name _ hrun =>
    rw [hrun] at h
    exact Or.inl (List.mem_filter.1 h).1
  | failed _ _ hrun | asked _ _ hrun | appended _ _ hrun | written _ _ _ hrun =>
    rw [hrun] at h
    exact Or.inl h

/-- A call that gives no setting a value leaves the settings as they are. -/
theorem settings_run_of_part {s : Store α} {c : Call α} (h : c.part? ≠ some .settings) :
    (c.run s).2.settings = s.settings := by
  cases outcome s c with
  | written key value hcall _ => exact absurd (congrArg Call.part? hcall) h
  | failed _ _ hrun | asked _ _ hrun => rw [hrun]
  | appended _ _ hrun | added _ _ hrun | removed _ _ hrun =>
    rw [hrun]
    rfl

/-- The value of a setting after a call: the one that the call wrote, or the one before. -/
theorem setting?_run (s : Store α) (c : Call α) (key : String) :
    (c.run s).2.setting? key = lastWritten key (s.setting? key) [c] := by
  cases c with
  | setSetting k v =>
    show (s.settings.insert k v).get? key = if k = key then some v else s.settings.get? key
    rw [Table.get?_insert]
    by_cases hk : k = key
    · rw [if_pos hk, if_pos hk.symm]
    · rw [if_neg hk, if_neg (Ne.symm hk)]
  | insertBatch _ | saveAlert _ | deleteAlert _ | ask _ =>
    exact congrArg (fun settings : Table String => settings.get? key) (settings_run_of_part nofun)

/-! ## Tables apart -/

/-- An answer depends on the table that the question is about only. -/
theorem answer_congr {s t : Store α} {q : Question} (hcosts : q.part = .costs → s.rows = t.rows)
    (halerts : q.part = .alerts → s.alerts = t.alerts) (hsettings : q.part = .settings → s.settings = t.settings) :
    s.answer q = t.answer q := by
  cases q with
  | records selection => simp only [answer, query, select, within, hcosts rfl]
  | allRecords => simp only [answer, allRecords, query, select, within, hcosts rfl]
  | sums dimension window => simp only [answer, aggregate, walk, within, hcosts rfl]
  | months today count => simp only [answer, monthTotals, since, hcosts rfl]
  | count account window => simp only [answer, Store.count, within, hcosts rfl]
  | currencies window => simp only [answer, Store.currencies, within, hcosts rfl]
  | alerts => simp only [answer, listAlerts, halerts rfl]
  | alert name => simp only [answer, alertNamed?, halerts rfl]
  | setting key => simp only [answer, setting?, hsettings rfl]
  | settings => simp only [answer, hsettings rfl]

/-- A call changes no answer about a table that it does not write into. -/
theorem answer_run_of_part {s : Store α} {c : Call α} {q : Question} (h : c.part? ≠ some q.part) :
    (c.run s).2.answer q = s.answer q := by
  cases outcome s c with
  | failed _ _ hrun | asked _ _ hrun => rw [hrun]
  | appended batch hcall hrun =>
    rw [hcall] at h
    rw [hrun]
    exact answer_congr (fun hq => absurd (congrArg some hq.symm) h) (fun _ => rfl) fun _ => rfl
  | added alert hcall hrun =>
    rw [hcall] at h
    rw [hrun]
    exact answer_congr (fun _ => rfl) (fun hq => absurd (congrArg some hq.symm) h) fun _ => rfl
  | removed name hcall hrun =>
    rw [hcall] at h
    rw [hrun]
    exact answer_congr (fun _ => rfl) (fun hq => absurd (congrArg some hq.symm) h) fun _ => rfl
  | written key value hcall hrun =>
    rw [hcall] at h
    rw [hrun]
    exact answer_congr (fun _ => rfl) (fun _ => rfl) fun hq => absurd (congrArg some hq.symm) h

/-! ## What a history does -/

theorem after_append (s : Store α) (earlier later : List (Call α)) :
    s.after (earlier ++ later) = (s.after earlier).after later :=
  List.foldl_append

theorem after_cons (s : Store α) (c : Call α) (later : List (Call α)) :
    s.after (c :: later) = (c.run s).2.after later := rfl

theorem along_append (numbers : Store α → Call α → List Nat) (s : Store α) (earlier later : List (Call α)) :
    along numbers s (earlier ++ later) = along numbers s earlier ++ along numbers (s.after earlier) later := by
  induction earlier generalizing s with
  | nil => rfl
  | cons c earlier ih => simp only [List.cons_append, along, ih, List.append_assoc, after_cons]

theorem answers_append (s : Store α) (earlier later : List (Call α)) :
    answers s (earlier ++ later) = answers s earlier ++ answers (s.after earlier) later := by
  induction earlier generalizing s with
  | nil => rfl
  | cons c earlier ih => simp only [List.cons_append, answers, ih, after_cons]

/-- Rows stay as they are and where they are. -/
theorem rows_prefix_after (s : Store α) (calls : List (Call α)) : s.rows <+: (s.after calls).rows := by
  induction calls generalizing s with
  | nil => exact List.prefix_refl _
  | cons c later ih =>
    obtain ⟨new, hrows, _, _⟩ := rows_run s c
    exact List.IsPrefix.trans ⟨new, hrows.symm⟩ (ih (c.run s).2)

/-- If each call gives out the next numbers, so does a history. -/
theorem along_eq_range' {numbers : Store α → Call α → List Nat} {next : Store α → Nat}
    (hstep : ∀ s c, ∃ n, numbers s c = List.range' (next s) n ∧ next (c.run s).2 = next s + n) (s : Store α)
    (calls : List (Call α)) :
    ∃ n, along numbers s calls = List.range' (next s) n ∧ next (s.after calls) = next s + n := by
  induction calls generalizing s with
  | nil => exact ⟨0, rfl, rfl⟩
  | cons c later ih =>
    obtain ⟨n, hnumbers, hnext⟩ := hstep s c
    obtain ⟨m, hlater, hafter⟩ := ih (c.run s).2
    refine ⟨n + m, ?_, ?_⟩
    · rw [along, hnumbers, hlater, hnext, List.range'_append_1]
    · rw [after_cons, hafter, hnext, Nat.add_assoc]

/-- If each call gives out the next numbers, the numbers of a history increase. -/
theorem pairwise_along {numbers : Store α → Call α → List Nat} {next : Store α → Nat}
    (hstep : ∀ s c, ∃ n, numbers s c = List.range' (next s) n ∧ next (c.run s).2 = next s + n) (s : Store α)
    (calls : List (Call α)) : (along numbers s calls).Pairwise (· < ·) := by
  obtain ⟨n, hnumbers, _⟩ := along_eq_range' hstep s calls
  rw [hnumbers]
  exact List.pairwise_lt_range'

/-- The rows of a store are those from before a history and those that got a number in it. -/
theorem map_id_rows_after (s : Store α) (calls : List (Call α)) :
    (s.after calls).rows.map CostRow.id = s.rows.map CostRow.id ++ along Call.rowNumbers s calls := by
  induction calls generalizing s with
  | nil => exact (List.append_nil _).symm
  | cons c later ih =>
    obtain ⟨new, hrows, _, _⟩ := rows_run s c
    rw [after_cons, ih, along, Call.rowNumbers, hrows, List.drop_left, List.map_append, List.append_assoc]

/-- The rows that a history leaves in a store that was empty stand in the order of their numbers. -/
theorem pairwise_id_rows (calls : List (Call α)) :
    ((ofHistory calls).rows.map CostRow.id).Pairwise (· < ·) := by
  unfold ofHistory
  rw [map_id_rows_after]
  exact pairwise_along rowNumbers_eq empty calls

/-- The alerts of a store were there before a history or got a number in it. -/
theorem mem_alerts_after {s : Store α} {calls : List (Call α)} {row : AlertRow α}
    (h : row ∈ (s.after calls).alerts) : row ∈ s.alerts ∨ row.id ∈ along Call.alertNumbers s calls := by
  induction calls generalizing s with
  | nil => exact Or.inl h
  | cons c later ih =>
    rcases ih h with hrow | hlater
    · rcases mem_alerts_run hrow with hold | hnew
      · exact Or.inl hold
      · exact Or.inr (List.mem_append_left _ hnew)
    · exact Or.inr (List.mem_append_right _ hlater)

/-- A setting has the value that was last written. -/
theorem setting?_after (s : Store α) (calls : List (Call α)) (key : String) :
    (s.after calls).setting? key = lastWritten key (s.setting? key) calls := by
  induction calls generalizing s with
  | nil => rfl
  | cons c later ih =>
    rw [after_cons, ih, setting?_run]
    rfl

/-- A call that fails gives out no number for a row. -/
theorem rowNumbers_eq_nil_of_error {s : Store α} {c : Call α} {e : Failure} (h : (c.run s).1 = .error e) :
    c.rowNumbers s = [] := by
  rw [Call.rowNumbers, run_eq_of_error h, List.drop_length]
  rfl

/-- A call that fails gives out no number for an alert. -/
theorem alertNumbers_eq_nil_of_error {s : Store α} {c : Call α} {e : Failure} (h : (c.run s).1 = .error e) :
    c.alertNumbers s = [] :=
  alertNumbers_eq_nil (Nat.le_of_eq (congrArg (fun t : Store α => t.alerts.length) (run_eq_of_error h)))

/-- A call that fails and gives out no number leaves the numbers of a history as they are. -/
theorem along_skip_error {numbers : Store α → Call α → List Nat}
    (hnone : ∀ {s : Store α} {c : Call α} {e : Failure}, (c.run s).1 = .error e → numbers s c = []) {s : Store α}
    {c : Call α} {e : Failure} {earlier : List (Call α)} (h : (c.run (s.after earlier)).1 = .error e)
    (later : List (Call α)) : along numbers s (earlier ++ c :: later) = along numbers s (earlier ++ later) := by
  rw [along_append, along_append, along, hnone h, List.nil_append, run_eq_of_error h]

/-- A call that fails might as well not have been made: the calls after it answer the same and leave the same store. -/
theorem after_skip_error {s : Store α} {c : Call α} {e : Failure} {earlier : List (Call α)}
    (h : (c.run (s.after earlier)).1 = .error e) (later : List (Call α)) :
    s.after (earlier ++ c :: later) = s.after (earlier ++ later) ∧
      answers s (earlier ++ c :: later) = answers s earlier ++ .error e :: answers (s.after earlier) later := by
  have hsame := run_eq_of_error h
  constructor
  · rw [after_append, after_append, after_cons, hsame]
  · rw [answers_append, answers, hsame, h]

/-- A batch that is taken stays in the store, whatever comes after it. -/
theorem batch_prefix_after (s : Store α) {batch : List (CostRecord α)} (h : ∀ r ∈ batch, Admits r)
    (later : List (Call α)) :
    s.rows ++ numbered s.nextRow batch <+: (s.after (.insertBatch batch :: later)).rows := by
  rw [after_cons, run_insertBatch s h]
  exact rows_prefix_after (s.withBatch batch) later

/-- What holds for every history of a store that was empty at first. A batch whose records keep the rules is taken, its
rows are appended, and every row stays as it is. The numbers of rows and those of alerts increase, each for itself, so
that none is given out twice, and every row and every alert has a number that was given out; an alert that keeps the
rules is taken under the number that is answered. A call that fails changes nothing, and the calls around it go as if it
had not been made: the same answers, the same numbers, the same store. Every setting stands once, with the value that
was last written. A call changes no answer about a table other than its own. -/
theorem history_laws :
    (∀ (earlier later : List (Call α)) (batch : List (CostRecord α)), (∀ r ∈ batch, Admits r) →
      (Call.run (ofHistory earlier) (.insertBatch batch)).1 = .ok (.number batch.length) ∧
      (ofHistory earlier).rows ++ numbered (ofHistory earlier).nextRow batch <+:
        (ofHistory (earlier ++ .insertBatch batch :: later)).rows) ∧
    (∀ earlier later : List (Call α), (ofHistory earlier).rows <+: (ofHistory (earlier ++ later)).rows) ∧
    (∀ calls : List (Call α),
      (along Call.rowNumbers empty calls).Pairwise (· < ·) ∧
      (ofHistory calls).rows.map CostRow.id = along Call.rowNumbers empty calls) ∧
    (∀ calls : List (Call α),
      (along Call.alertNumbers empty calls).Pairwise (· < ·) ∧
      (∀ row ∈ (ofHistory calls).alerts, row.id ∈ along Call.alertNumbers empty calls) ∧
      ∀ alert, Amount.isNaN alert.threshold = false → Amount.lt Amount.zero alert.threshold = true →
        ∃ id, (Call.run (ofHistory calls) (.saveAlert alert)).1 = .ok (.number id) ∧
          Call.alertNumbers (ofHistory calls) (.saveAlert alert) = [id] ∧
          (Call.run (ofHistory calls) (.saveAlert alert)).2.alerts =
            (ofHistory calls).alerts ++ [⟨id, alert.name, alert.threshold, alert.account, alert.enabled⟩]) ∧
    (∀ (earlier later : List (Call α)) (c : Call α) (e : Failure), (c.run (ofHistory earlier)).1 = .error e →
      (c.run (ofHistory earlier)).2 = ofHistory earlier ∧
      ofHistory (earlier ++ c :: later) = ofHistory (earlier ++ later) ∧
      answers empty (earlier ++ c :: later) =
        answers empty earlier ++ .error e :: answers (ofHistory earlier) later ∧
      along Call.rowNumbers empty (earlier ++ c :: later) = along Call.rowNumbers empty (earlier ++ later) ∧
      along Call.alertNumbers empty (earlier ++ c :: later) = along Call.alertNumbers empty (earlier ++ later)) ∧
    (∀ calls : List (Call α),
      (ofHistory calls).settings.keys.Nodup ∧
      ∀ key value, (key, value) ∈ (ofHistory calls).settings.entries ↔ lastWritten key none calls = some value) ∧
    ∀ (calls : List (Call α)) (c : Call α) (q : Question), c.part? ≠ some q.part →
      (c.run (ofHistory calls)).2.answer q = (ofHistory calls).answer q := by
  refine ⟨fun earlier later batch h => ⟨?_, ?_⟩, fun earlier later => ?_, fun calls => ⟨?_, ?_⟩,
    fun calls => ⟨?_, fun row hrow => ?_, fun alert hnumber hpositive => ?_⟩, fun earlier later c e h => ?_,
    fun calls => ⟨Table.nodup_keys _, fun key value => ?_⟩, fun calls c q h => answer_run_of_part h⟩
  · rw [run_insertBatch _ h]
  · unfold ofHistory
    rw [after_append]
    exact batch_prefix_after _ h later
  · unfold ofHistory
    rw [after_append]
    exact rows_prefix_after _ later
  · exact pairwise_along rowNumbers_eq empty calls
  · exact map_id_rows_after empty calls
  · exact pairwise_along alertNumbers_eq empty calls
  · rcases mem_alerts_after hrow with hnone | hrow
    · cases hnone
    · exact hrow
  · have hrun := run_saveAlert (ofHistory calls) hnumber hpositive
    exact ⟨_, congrArg Prod.fst hrun, alertNumbers_of_withAlert (congrArg Prod.snd hrun),
      congrArg (fun ran : _ × Store α => ran.2.alerts) hrun⟩
  · obtain ⟨hafter, hanswers⟩ := after_skip_error h later
    exact ⟨run_eq_of_error h, hafter, hanswers, along_skip_error rowNumbers_eq_nil_of_error h later,
      along_skip_error alertNumbers_eq_nil_of_error h later⟩
  · rw [Table.mem_entries_iff]
    show (ofHistory calls).setting? key = some value ↔ _
    unfold ofHistory
    rw [setting?_after]
    rfl

end Store

end SpendLedger
