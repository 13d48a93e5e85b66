import SpendLedger.Proofs.Calendar.TextOrder
import SpendLedger.Proofs.Ledger.Order
import SpendLedger.Proofs.Ledger.Recorded
import SpendLedger.Proofs.Text.Bytes

/-!
# Selecting records by their days

A query of a store answers with the records that were put into it and lie in the days asked for, the latest day first. The
store filters and sorts by the texts of days; in the years that are written with four digits this is the order of the
calendar.
-/

namespace SpendLedger

variable {α : Type}

/-! ## The order of rows -/

namespace CostRow

/-- Later days come first: the row has a later text of its day than the other, or it is of the same day and has the larger
number. -/
def Newer (a b : CostRow α) : Prop :=
  b.dateText < a.dateText ∨ b.dateText = a.dateText ∧ b.id < a.id

instance (a b : CostRow α) : Decidable (a.Newer b) :=
  inferInstanceAs (Decidable (_ ∨ _))

theorem precedes_iff (a b : CostRow α) :
    a.precedes b = true ↔ a.dateText < b.dateText ∨ a.dateText = b.dateText ∧ a.id ≤ b.id := by
  simp [precedes]

theorem precedes_trans (a b c : CostRow α) (hab : a.precedes b = true) (hbc : b.precedes c = true) :
    a.precedes c = true :=
  trans_of_two_keys dateText (· < ·) precedes_iff (fun _ _ _ => String.lt_trans) (fun _ _ _ => Nat.le_trans) a b c hab hbc

theorem precedes_total (a b : CostRow α) : (a.precedes b || b.precedes a) = true :=
  total_of_two_keys dateText (· < ·) precedes_iff Text.trichotomy (fun a b => Nat.le_total a.id b.id) a b

/-- Of rows with different numbers, the one that does not come first along the days is the newer one. -/
theorem newer_of_precedes {a b : CostRow α} (h : b.precedes a = true) (hid : a.id ≠ b.id) : a.Newer b := by
  rcases (precedes_iff b a).1 h with hlt | ⟨hsame, hle⟩
  · exact Or.inl hlt
  · exact Or.inr ⟨hsame, by omega⟩

/-- Of two rows only one is newer. -/
theorem Newer.asymm {a b : CostRow α} (h : a.Newer b) : ¬b.Newer a := by
  rcases h with hlt | ⟨hsame, hid⟩
  · rintro (hlt' | ⟨hsame', _⟩)
    · exact String.lt_asymm hlt hlt'
    · exact String.lt_irrefl _ (hsame' ▸ hlt)
  · rintro (hlt' | ⟨_, hid'⟩)
    · exact String.lt_irrefl _ (hsame ▸ hlt')
    · omega

/-- The same rows can be put in order in one way only. -/
theorem eq_of_newer {l l' : List (CostRow α)} (hl : l.Pairwise Newer) (hl' : l'.Pairwise Newer) (h : l.Perm l') :
    l = l' :=
  h.eq_of_pairwise (fun _ _ _ _ hab hba => absurd hba hab.asymm) hl hl'

/-- Sorted along the days, rows with different numbers stand with the newest one last. -/
theorem pairwise_mergeSort {rows : List (CostRow α)} (h : rows.Pairwise fun a b => a.id ≠ b.id) :
    (rows.mergeSort precedes).Pairwise fun a b => b.Newer a := by
  have hsorted := List.pairwise_mergeSort precedes_trans precedes_total rows
  have hids := ((List.mergeSort_perm rows precedes).pairwise_iff Ne.symm).2 h
  exact (hsorted.and hids).imp fun ⟨hab, hid⟩ => newer_of_precedes hab (Ne.symm hid)

/-- Sorted against the days, rows with different numbers stand with the newest one first. -/
theorem pairwise_newer_mergeSort {rows : List (CostRow α)} (h : rows.Pairwise fun a b => a.id ≠ b.id) :
    (rows.mergeSort fun a b => b.precedes a).Pairwise Newer := by
  have hsorted : (rows.mergeSort fun a b => b.precedes a).Pairwise fun a b => b.precedes a = true :=
    List.pairwise_mergeSort (fun a b c hab hbc => precedes_trans c b a hbc hab) (fun a b => precedes_total b a) rows
  have hids := ((List.mergeSort_perm rows fun a b => b.precedes a).pairwise_iff Ne.symm).2 h
  exact (hsorted.and hids).imp fun ⟨hab, hid⟩ => newer_of_precedes hab hid

end CostRow

/-! ## Selected rows -/

namespace Store

/-- A store whose rows stand in the order of their numbers. -/
def Ordered (s : Store α) : Prop :=
  s.rows.Pairwise fun a b => a.id < b.id

/-- Whatever rows are picked from an ordered store have different numbers. -/
theorem Ordered.filter {s : Store α} (hs : s.Ordered) (p : CostRow α → Bool) :
    (s.rows.filter p).Pairwise fun a b => a.id ≠ b.id :=
  (List.Pairwise.filter p hs).imp Nat.ne_of_lt

/-- The rows of a window that are selected: all, or those of one service. -/
theorem select_perm (s : Store α) (selection : Selection) : (s.select selection).Perm
    (s.rows.filter fun row => row.isIn selection.window && selection.service.all (· = row.service)) := by
  unfold select within
  rw [List.filter_filter]
  simp only [Bool.and_comm]
  exact List.mergeSort_perm _ _

/-- Selected rows stand with the newest one first. -/
theorem pairwise_select {s : Store α} (hs : s.Ordered) (selection : Selection) :
    (s.select selection).Pairwise CostRow.Newer := by
  unfold select within
  rw [List.filter_filter]
  exact CostRow.pairwise_newer_mergeSort (hs.filter _)

end Store

/-! ## Days of the calendar -/

/-- Whether a day lies in a window. -/
def Window.holds (w : Window) (d : Date) : Bool :=
  w.first.all (fun first => decide (first ≤ d)) && w.last.all fun last => decide (d ≤ last)

/-- The bounds of a window are written without a sign. -/
def Window.IsPlain (w : Window) : Prop :=
  (∀ first ∈ w.first, first.IsPlain) ∧ ∀ last ∈ w.last, last.IsPlain

instance (w : Window) : Decidable w.IsPlain :=
  inferInstanceAs (Decidable (_ ∧ _))

/-- Whether a record is asked for. -/
def Selection.wants (selection : Selection) (r : CostRecord α) : Bool :=
  selection.window.holds r.date && selection.service.all (· = r.service)

/-- Later days come first, and of one day the records with larger numbers. -/
def CostRecord.Newer (a b : CostRecord α) : Prop :=
  b.date < a.date ∨ b.date = a.date ∧ b.id < a.id

instance (a b : CostRecord α) : Decidable (a.Newer b) :=
  inferInstanceAs (Decidable (b.date < a.date ∨ b.date = a.date ∧ Option.lt (· < ·) b.id a.id))

/-- Of two records only one is newer. -/
theorem CostRecord.Newer.asymm {a b : CostRecord α} (h : a.Newer b) : ¬b.Newer a := by
  have hday : ∀ d : Date, ¬d < d := fun d => Int.lt_irrefl d.position
  have hid : ∀ i j : Option Int, i < j → ¬j < i := by
    intro i j
    cases i <;> cases j <;> simp
    omega
  rcases h with hlt | ⟨hsame, hlt⟩
  · rintro (hlt' | ⟨hsame', _⟩)
    · exact Int.lt_asymm hlt hlt'
    · exact hday _ (hsame' ▸ hlt)
  · rintro (hlt' | ⟨_, hlt'⟩)
    · exact hday _ (hsame ▸ hlt')
    · exact hid _ _ hlt hlt'

/-- The same records can be put in order along the days in one way only. -/
theorem CostRecord.eq_of_along {l l' : List (CostRecord α)} (hl : l.Pairwise fun a b => b.Newer a)
    (hl' : l'.Pairwise fun a b => b.Newer a) (h : l.Perm l') : l = l' :=
  h.eq_of_pairwise (fun _ _ _ _ hab hba => absurd hba hab.asymm) hl hl'

/-- The text of a row's day lies in a window exactly if the day does. -/
theorem CostRow.isIn_eq {window : Window} (hwindow : window.IsPlain) {row : CostRow α} {d : Date}
    (hrow : row.dateText = d.toText) (hd : d.IsPlain) : row.isIn window = window.holds d := by
  obtain ⟨first, last⟩ := window
  have hfirst : first.all (fun bound => decide (bound.toText ≤ row.dateText)) =
      first.all fun bound => decide (bound ≤ d) := by
    cases first with
    | none => rfl
    | some bound =>
      have hbound : bound.IsPlain := hwindow.1 bound rfl
      simp only [Option.all_some, hrow, Date.toText_le_iff hbound.2 hd]
  have hlast : last.all (fun bound => decide (row.dateText ≤ bound.toText)) =
      last.all fun bound => decide (d ≤ bound) := by
    cases last with
    | none => rfl
    | some bound =>
      have hbound : bound.IsPlain := hwindow.2 bound rfl
      simp only [Option.all_some, hrow, Date.toText_le_iff hd.2 hbound]
  unfold CostRow.isIn Window.holds
  rw [hfirst, hlast]

namespace Store

/-- In a readable store the day of a row is written as the day of its record. -/
theorem Readable.dateText_eq {s : Store α} (hs : s.Readable) {row : CostRow α} (h : row ∈ s.rows) :
    row.dateText = row.entry.date.toText := by
  obtain ⟨d, hd⟩ := hs row h
  rw [CostRow.date_entry hd, hd]

/-- The record of a newer row is the newer one, in years without a sign. -/
theorem Readable.newer_entry {s : Store α} (hs : s.Readable) {a b : CostRow α} (ha : a ∈ s.rows) (hb : b ∈ s.rows)
    (hplain : b.entry.date.IsPlain) (hplain' : a.entry.date.IsPlain) (h : a.Newer b) : a.entry.Newer b.entry := by
  unfold CostRow.Newer at h
  rw [hs.dateText_eq ha, hs.dateText_eq hb, Date.toText_lt_iff hplain hplain', Date.toText_inj] at h
  refine h.imp_right fun ⟨hsame, hid⟩ => ⟨hsame, ?_⟩
  show (b.id : Int) < (a.id : Int)
  omega

variable [Amount α]

/-- Every store that a history leaves is ordered. -/
theorem ordered_ofHistory (calls : List (Call α)) : (ofHistory calls).Ordered :=
  List.pairwise_map.1 (pairwise_id_rows calls)

/-- The record in a row of a history is recorded. -/
theorem entry_mem_recorded {calls : List (Call α)} {row : CostRow α} (h : row ∈ (ofHistory calls).rows) :
    row.entry ∈ recorded calls := by
  rw [← map_entry_rows]
  exact List.mem_map_of_mem h

/-- Rows of a history that are picked and put in order along the days hold the records that are picked in the same way, the
latest day last if all of them are in years without a sign. -/
theorem map_entry_along {calls : List (Call α)} {p : CostRow α → Bool} {q : CostRecord α → Bool}
    (hpick : ∀ row ∈ (ofHistory calls).rows, p row = q row.entry)
    (hplain : ∀ r ∈ recorded calls, q r = true → r.date.IsPlain) :
    let found := (((ofHistory calls).rows.filter p).mergeSort CostRow.precedes).map CostRow.entry
    found.Perm ((recorded calls).filter q) ∧ found.Pairwise fun a b => b.Newer a := by
  have hreadable : (ofHistory calls).Readable := readable_ofHistory calls
  refine ⟨?_, ?_⟩
  · have hrecords : ((ofHistory calls).rows.filter p).map CostRow.entry = (recorded calls).filter q := by
      rw [← map_entry_rows]
      exact CostRow.map_entry_filter hpick
    exact ((List.mergeSort_perm _ _).map CostRow.entry).trans (List.Perm.of_eq hrecords)
  · have hrow : ∀ row ∈ ((ofHistory calls).rows.filter p).mergeSort CostRow.precedes,
        row ∈ (ofHistory calls).rows ∧ row.entry.date.IsPlain := by
      intro row hrow
      obtain ⟨hrow, hp⟩ := List.mem_filter.1 (List.mem_mergeSort.1 hrow)
      exact ⟨hrow, hplain _ (entry_mem_recorded hrow) (hpick row hrow ▸ hp)⟩
    refine List.pairwise_map.2 ((CostRow.pairwise_mergeSort ((ordered_ofHistory calls).filter p)).imp_of_mem ?_)
    intro a b ha hb hnewer
    obtain ⟨ha, hplainA⟩ := hrow a ha
    obtain ⟨hb, hplainB⟩ := hrow b hb
    exact hreadable.newer_entry hb ha hplainA hplainB hnewer

/-- What a history has recorded in the years from 0 to 9999 is selected by days of the calendar in these years. Whatever
days and whichever service are asked for, the query answers with each recorded record that is of these days, both ends
included, and of this service, once and with no other, the latest day first and of one day the larger numbers first. The
bytes of the texts of days, by which the store does this, are ordered as the days. -/
theorem query_by_calendar (calls : List (Call α)) (selection : Selection)
    (hrecorded : ∀ r ∈ recorded calls, r.date.IsPlain) (hwindow : selection.window.IsPlain) :
    (∃ found, (ofHistory calls).query selection = .ok found ∧
      found.Perm ((recorded calls).filter selection.wants) ∧ found.Pairwise CostRecord.Newer) ∧
    ∀ a b : Date, a.IsPlain → b.IsPlain → (Text.utf8 a.toText < Text.utf8 b.toText ↔ a < b) := by
  have hreadable : (ofHistory calls).Readable := readable_ofHistory calls
  have hplain : ∀ row ∈ (ofHistory calls).rows, row.entry.date.IsPlain :=
    fun row hrow => hrecorded _ (entry_mem_recorded hrow)
  refine ⟨⟨_, query_eq hreadable selection, ?_, ?_⟩, fun a b ha hb =>
    Text.utf8_lt_iff.trans (Date.toText_lt_iff ha hb)⟩
  -- what the texts of days select is what the days select
  · have hwants : ((ofHistory calls).rows.filter fun row =>
        row.isIn selection.window && selection.service.all (· = row.service)).map CostRow.entry =
        (recorded calls).filter selection.wants := by
      rw [← map_entry_rows]
      refine CostRow.map_entry_filter fun row hrow => ?_
      rw [CostRow.isIn_eq hwindow (hreadable.dateText_eq hrow) (hplain row hrow)]
      rfl
    exact ((select_perm _ selection).map CostRow.entry).trans (List.Perm.of_eq hwants)
  · refine List.pairwise_map.2 ((pairwise_select (ordered_ofHistory calls) selection).imp_of_mem ?_)
    intro a b ha hb hnewer
    have ha := mem_rows_of_mem_select ha
    have hb := mem_rows_of_mem_select hb
    exact hreadable.newer_entry ha hb (hplain b hb) (hplain a ha) hnewer

/-- The last day of a February of 29 days. -/
def leapDay : Date := ⟨2024, 2, 29, by decide⟩

/-- Three costs of one service: of the first of March, of the day before, and of the day before that. -/
def leapCosts : List (CostRecord Rat) :=
  [⟨none, "account", none, "Storage", 1, "USD", ⟨2024, 3, 1, by decide⟩⟩,
    ⟨none, "account", none, "Storage", 2, "USD", leapDay⟩,
    ⟨none, "account", none, "Storage", 4, "USD", ⟨2024, 2, 28, by decide⟩⟩]

/-- From the last day of February on there are the first two of the costs. -/
theorem query_leapCosts : ∃ found,
    (ofHistory [.insertBatch leapCosts]).query ⟨⟨some leapDay, none⟩, some "Storage"⟩ = .ok found ∧
      found.Perm [{ leapCosts[0] with id := some 1 }, { leapCosts[1] with id := some 2 }] := by
  have hrecorded : ∀ r ∈ recorded [.insertBatch leapCosts], r.date.IsPlain := by decide +kernel
  have hwindow : (⟨some leapDay, none⟩ : Window).IsPlain := by decide +kernel
  obtain ⟨⟨found, hquery, hfound, _⟩, _⟩ :=
    query_by_calendar [.insertBatch leapCosts] ⟨⟨some leapDay, none⟩, some "Storage"⟩ hrecorded hwindow
  exact ⟨found, hquery, hfound.trans (by decide +kernel)⟩

end Store

end SpendLedger
