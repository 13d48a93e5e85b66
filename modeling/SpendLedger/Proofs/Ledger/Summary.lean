import SpendLedger.Proofs.Ledger.Readers

/-!
# What a summary counts

A summary of a range of days counts the records of the range, in the order in which they are summed: the sums by service and
by group are theirs, and its total adds up the sums by service. A summary of all days counts all records, by number.
-/

namespace SpendLedger

variable {α : Type}

/-- A row is summed under the name of its record. -/
theorem CostRow.key_entry (row : CostRow α) (dimension : Dimension) : row.entry.key dimension = row.key dimension := by
  cases dimension with
  | service => rfl
  | group => rfl

variable [Amount α]

/-- The sums of records by service or by group: each name that occurs, with the sum of the records of this name. -/
def CostRecord.sumsBy (dimension : Dimension) (records : List (CostRecord α)) : List (String × α) :=
  (distinct (records.map fun r => r.key dimension)).map fun key =>
    (key, CostRecord.sum (records.filter fun r => r.key dimension = key))

/-- The total of records that are summed by service: the sum of the sums. -/
def CostRecord.totalByService (records : List (CostRecord α)) : α :=
  Amount.sum ((CostRecord.sumsBy .service records).map Prod.snd)

/-- Records that are summed under one name have one sum. -/
theorem CostRecord.sumsBy_of_same {dimension : Dimension} {records : List (CostRecord α)} {key : String}
    (hsome : records ≠ []) (hkey : ∀ r ∈ records, r.key dimension = key) :
    CostRecord.sumsBy dimension records = [(key, CostRecord.sum records)] := by
  have hnames : distinct (records.map fun r => r.key dimension) = [key] := by
    refine distinct_eq (List.pairwise_singleton _ _) ?_ ?_
    · intro name hname
      obtain ⟨r, hr, rfl⟩ := List.mem_map.1 hname
      exact List.mem_singleton.2 (hkey r hr)
    · intro name hname
      obtain ⟨r, hr⟩ := List.exists_mem_of_ne_nil records hsome
      rw [List.mem_singleton.1 hname]
      exact List.mem_map.2 ⟨r, hr, hkey r hr⟩
  have hall : records.filter (fun r => r.key dimension = key) = records :=
    List.filter_eq_self.2 fun r hr => decide_eq_true (hkey r hr)
  rw [CostRecord.sumsBy, hnames, List.map_singleton, hall]

namespace Store

/-- The sums of the rows of a range are those of their records. -/
theorem sumsBy_walk (s : Store α) (dimension : Dimension) (window : Window) :
    CostRecord.sumsBy dimension ((s.walk window).map CostRow.entry) =
      (distinct ((s.walk window).map fun row => row.key dimension)).map fun key =>
        (key, total ((s.walk window).filter fun row => row.key dimension = key)) := by
  have hnames : ((s.walk window).map CostRow.entry).map (fun r => r.key dimension) =
      (s.walk window).map fun row => row.key dimension := by
    rw [List.map_map]
    exact List.map_congr_left fun row _ => row.key_entry dimension
  unfold CostRecord.sumsBy
  rw [hnames]
  refine List.map_congr_left fun key _ => congrArg (Prod.mk key) ?_
  have hrecords : ((s.walk window).filter fun row => row.key dimension = key).map CostRow.entry =
      ((s.walk window).map CostRow.entry).filter fun r => r.key dimension = key := by
    refine CostRow.map_entry_filter fun row _ => ?_
    rw [row.key_entry]
  rw [CostRecord.sum, ← hrecords, List.map_map]
  rfl

/-- The sums of a range are those of the records that are summed in it, if all of these are numbers. -/
theorem aggregate_walk (s : Store α) (dimension : Dimension) (window : Window) :
    let sums := CostRecord.sumsBy dimension ((s.walk window).map CostRow.entry)
    match s.aggregate dimension window with
    | .ok table => table.entries = sums ∧ ∀ sum ∈ sums, Amount.isNaN sum.2 = false
    | .error e => e = .persistence .readingAggregates .sumUndefined ∧ ∃ sum ∈ sums, Amount.isNaN sum.2 = true := by
  intro sums
  have hsums : sums = _ := sumsBy_walk s dimension window
  rcases aggregate_eq s dimension window with ⟨hnumbers, table, htable, hentries⟩ | ⟨⟨key, hkey, hnan⟩, hfailed⟩
  · rw [htable]
    refine ⟨hentries.trans hsums.symm, ?_⟩
    rw [hsums]
    intro sum hsum
    obtain ⟨key, hkey, rfl⟩ := List.mem_map.1 hsum
    exact hnumbers key hkey
  · rw [hfailed]
    refine ⟨rfl, (key, _), ?_, hnan⟩
    rw [hsums]
    exact List.mem_map_of_mem hkey

/-- A summary counts the records that are summed in its range: its sums by service and by group are theirs, and its total is
the sum of those by service. There is no summary if one of the sums is no number. -/
theorem summary_walk (s : Store α) (selection : Selection) (currency : String) :
    let counted := (s.walk selection.window).map CostRow.entry
    match s.summary selection currency with
    | .ok summary => summary.period = selection.window.label ∧ summary.currency = currency ∧
        summary.byService.entries = CostRecord.sumsBy .service counted ∧
        summary.byGroup.entries = CostRecord.sumsBy .group counted ∧
        summary.total = CostRecord.totalByService counted
    | .error e => e = .persistence .readingAggregates .sumUndefined ∧
        ∃ dimension, ∃ sum ∈ CostRecord.sumsBy dimension counted, Amount.isNaN sum.2 = true := by
  intro counted
  have hservice := aggregate_walk s .service selection.window
  have hgroup := aggregate_walk s .group selection.window
  unfold summary
  cases hbyService : s.aggregate .service selection.window with
  | error e =>
    rw [hbyService] at hservice
    exact hservice.imp_right fun hnan => ⟨.service, hnan⟩
  | ok byService =>
    rw [hbyService] at hservice
    cases hbyGroup : s.aggregate .group selection.window with
    | error e =>
      rw [hbyGroup] at hgroup
      exact hgroup.imp_right fun hnan => ⟨.group, hnan⟩
    | ok byGroup =>
      rw [hbyGroup] at hgroup
      refine ⟨rfl, rfl, hservice.1, hgroup.1, ?_⟩
      show Amount.sum byService.values = _
      rw [CostRecord.totalByService, Table.values, hservice.1]

/-! ## Which records are summed -/

/-- Over all days what a history has recorded is summed, by number. -/
theorem walk_always (calls : List (Call α)) :
    ((ofHistory calls).walk Window.always).map CostRow.entry = recorded calls := by
  have hwalk : (ofHistory calls).walk Window.always = (ofHistory calls).rows := if_pos rfl
  rw [hwalk, map_entry_rows]

/-- From one day to another, what a history has recorded of these days is summed, along the days. -/
theorem walk_between (calls : List (Call α)) {first last : Date} (hrecorded : ∀ r ∈ recorded calls, r.date.IsPlain)
    (hfirst : first.IsPlain) (hlast : last.IsPlain) :
    let counted := ((ofHistory calls).walk (.between first last)).map CostRow.entry
    counted.Perm ((recorded calls).filter fun r => first ≤ r.date ∧ r.date ≤ last) ∧
      counted.Pairwise fun a b => b.Newer a := by
  have hwindow : (Window.between first last).IsPlain := ⟨fun d hd => Option.some.inj hd ▸ hfirst,
    fun d hd => Option.some.inj hd ▸ hlast⟩
  have hwalk : (ofHistory calls).walk (.between first last) =
      ((ofHistory calls).rows.filter (CostRow.isIn (.between first last))).mergeSort CostRow.precedes := if_neg nofun
  rw [hwalk]
  refine map_entry_along (fun row hrow => ?_) fun r hr _ => hrecorded r hr
  rw [CostRow.isIn_eq hwindow ((readable_ofHistory calls).dateText_eq hrow) (hrecorded _ (entry_mem_recorded hrow))]
  simp [Window.holds, Window.between]

end Store

end SpendLedger
