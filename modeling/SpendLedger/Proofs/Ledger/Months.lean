import SpendLedger.Proofs.Calendar.LookBack
import SpendLedger.Proofs.Ledger.Selection
import SpendLedger.Proofs.Ledger.Sums

/-!
# The months of a look back

A look back over some months sees the records from the day on that it reaches, and sums the costs of each month and currency
by itself. Each record that is seen is in one of the sums, no other record is in any, and there are no more months than
those from the one that is reached to the one that the look back starts from.
-/

namespace SpendLedger

variable {α : Type}

/-- Whether a record is counted under a month and a currency. -/
def CostRecord.isOf (r : CostRecord α) (month currency : String) : Bool :=
  r.date.monthText = month ∧ r.currency = currency

/-- Whether a row is counted under a month and a currency. -/
def CostRow.isOf (row : CostRow α) (month currency : String) : Bool :=
  row.month = month ∧ row.currency = currency

/-- A row is counted as its record is, where the month of its day is written without a sign. -/
theorem CostRow.isOf_entry {row : CostRow α} (hmonth : row.month = row.entry.date.monthText) (month currency : String) :
    row.entry.isOf month currency = row.isOf month currency := by
  unfold CostRow.isOf
  rw [hmonth]
  rfl

/-- Later months are listed first, and in a month the currencies in the order of their bytes. -/
def MonthTotal.Before (a b : MonthTotal α) : Prop :=
  Text.utf8 b.month < Text.utf8 a.month ∨ a.month = b.month ∧ Text.utf8 a.currency < Text.utf8 b.currency

/-- Sums of months that tally with records: no record is left out or counted twice, no sum is of nothing, and the sums stand in
order. -/
structure MonthTotal.Tally (seen : List (CostRecord α)) (totals : List (MonthTotal α)) : Prop where
  plain : ∀ r ∈ seen, r.date.IsPlain
  once : ∀ r ∈ seen, totals.countP (fun t => r.isOf t.month t.currency) = 1
  record : ∀ t ∈ totals, ∃ r ∈ seen, r.isOf t.month t.currency = true
  sorted : totals.Pairwise MonthTotal.Before

/-- A record that is counted once is of the month and the currency of one of the sums. -/
theorem CostRecord.exists_isOf {totals : List (MonthTotal α)} {r : CostRecord α}
    (honce : totals.countP (fun t => r.isOf t.month t.currency) = 1) :
    ∃ t ∈ totals, r.date.monthText = t.month ∧ r.currency = t.currency := by
  have hpos : 0 < totals.countP fun t => r.isOf t.month t.currency := by
    rw [honce]
    exact Nat.one_pos
  obtain ⟨t, ht, hof⟩ := List.countP_pos_iff.1 hpos
  exact ⟨t, ht, of_decide_eq_true hof⟩

/-- The first of months in order is the newest of them. -/
theorem MonthTotal.month_le_head {totals : List (MonthTotal α)} (hsorted : totals.Pairwise MonthTotal.Before)
    {newest : MonthTotal α} (hnewest : totals.head? = some newest) : ∀ t ∈ totals, t.month ≤ newest.month := by
  obtain ⟨later, rfl⟩ := List.head?_eq_some_iff.1 hnewest
  intro t ht
  rcases List.mem_cons.1 ht with rfl | hlater
  · exact String.le_refl _
  · rcases (List.pairwise_cons.1 hsorted).1 t hlater with hlt | ⟨hsame, _⟩
    · exact String.not_lt.1 (String.lt_asymm (Text.utf8_lt_iff.1 hlt))
    · exact hsame ▸ String.le_refl _

/-- The last of months in order is the oldest of them. -/
theorem MonthTotal.getLast_le_month {totals : List (MonthTotal α)} (hsorted : totals.Pairwise MonthTotal.Before)
    {oldest : MonthTotal α} (holdest : totals.getLast? = some oldest) : ∀ t ∈ totals, oldest.month ≤ t.month := by
  obtain ⟨earlier, rfl⟩ := List.getLast?_eq_some_iff.1 holdest
  intro t ht
  rcases List.mem_append.1 ht with hearlier | hlast
  · rcases (List.pairwise_append.1 hsorted).2.2 t hearlier oldest (List.mem_singleton.2 rfl) with hlt | ⟨hsame, _⟩
    · exact String.not_lt.1 (String.lt_asymm (Text.utf8_lt_iff.1 hlt))
    · exact hsame ▸ String.le_refl _
  · exact List.mem_singleton.1 hlast ▸ String.le_refl _

namespace Store

/-! ## Months and currencies -/

/-- The months and currencies of rows are listed each once, later months first. -/
theorem pairwise_buckets (rows : List (CostRow α)) :
    (buckets rows).Pairwise fun a b => b.1 < a.1 ∨ a.1 = b.1 ∧ a.2 < b.2 := by
  have horder : ∀ a b : String × String, (decide (b.1 < a.1) || (decide (a.1 = b.1) && decide (a.2 ≤ b.2))) = true ↔
      b.1 < a.1 ∨ a.1 = b.1 ∧ a.2 ≤ b.2 := by simp
  have htrans := trans_of_two_keys Prod.fst (fun x y => y < x) horder
    (fun _ _ _ hxy hyz => String.lt_trans hyz hxy) fun _ _ _ => String.le_trans
  have htotal := total_of_two_keys Prod.fst (fun x y => y < x) horder
    (fun x y => (Text.trichotomy y x).imp_right fun h => h.imp_left Eq.symm) fun a b => String.le_total a.2 b.2
  refine (pairwise_eraseDups_mergeSort htrans htotal _).imp fun {a b} ⟨hle, hne⟩ => ?_
  refine ((horder a b).1 hle).imp_right fun ⟨hmonth, hcurrency⟩ => ⟨hmonth, ?_⟩
  rcases Text.trichotomy a.2 b.2 with hlt | heq | hgt
  · exact hlt
  · exact absurd (Prod.ext hmonth heq) hne
  · exact absurd hgt (String.not_lt.2 hcurrency)

/-- The months and currencies that are listed are those of the rows. -/
theorem mem_buckets (rows : List (CostRow α)) (b : String × String) :
    b ∈ buckets rows ↔ ∃ row ∈ rows, row.isOf b.1 b.2 = true := by
  unfold buckets
  rw [List.mem_eraseDups, List.mem_mergeSort, List.mem_map]
  constructor
  · rintro ⟨row, hrow, rfl⟩
    exact ⟨row, hrow, decide_eq_true ⟨rfl, rfl⟩⟩
  · rintro ⟨row, hrow, hof⟩
    obtain ⟨hmonth, hcurrency⟩ := of_decide_eq_true hof
    exact ⟨row, hrow, Prod.ext hmonth hcurrency⟩

/-- A row is counted under one month and one currency. -/
theorem countP_buckets {rows : List (CostRow α)} {row : CostRow α} (hrow : row ∈ rows) :
    (buckets rows).countP (fun b => row.isOf b.1 b.2) = 1 := by
  have hmem : (row.month, row.currency) ∈ buckets rows := (mem_buckets rows _).2 ⟨row, hrow, decide_eq_true ⟨rfl, rfl⟩⟩
  have hnodup : (buckets rows).Nodup := nodup_eraseDups _
  -- being counted under a pair is being that pair, which stands in the list once
  have hcount := hnodup.count (a := (row.month, row.currency))
  rw [if_pos hmem, List.count] at hcount
  rw [← hcount]
  refine List.countP_congr fun b _ => ?_
  rw [beq_iff_eq, CostRow.isOf, decide_eq_true_iff]
  exact ⟨fun ⟨hmonth, hcurrency⟩ => Prod.ext hmonth.symm hcurrency.symm, fun h => h ▸ ⟨rfl, rfl⟩⟩

variable [Amount α]

/-- The sums of the months and currencies of rows: one for each if all sums are numbers, and otherwise a failure. -/
theorem monthTotals_eq (s : Store α) (today : Date) (months : Nat) :
    let rows := s.since today months
    let sumAt month currency := total (rows.filter fun row => row.isOf month currency)
    s.monthTotals today months =
      if ∀ b ∈ buckets rows, Amount.isNaN (sumAt b.1 b.2) = false then
        .ok ((buckets rows).map fun b => ⟨b.1, sumAt b.1 b.2, b.2⟩)
      else .error (.persistence .readingMonths .sumUndefined) := by
  intro rows sumAt
  exact mapM_sumOf .readingMonths (buckets rows) (fun b => rows.filter fun row => row.isOf b.1 b.2)
    fun b sum => MonthTotal.mk b.1 sum b.2

/-- The sums of the months, in terms of the rows that are seen: each row is counted once, each sum is that of the rows of its
month and currency, of which there is one at least, and the sums stand in order. -/
theorem monthTotals_rows (s : Store α) (today : Date) (months : Nat) :
    let rows := s.since today months
    let sumAt month currency := total (rows.filter fun row => row.isOf month currency)
    match s.monthTotals today months with
    | .ok totals =>
      (∀ row ∈ rows, totals.countP (fun t => row.isOf t.month t.currency) = 1) ∧
        (∀ t ∈ totals, (∃ row ∈ rows, row.isOf t.month t.currency = true) ∧ t.total = sumAt t.month t.currency ∧
          Amount.isNaN t.total = false) ∧
        totals.Pairwise MonthTotal.Before
    | .error e => e = .persistence .readingMonths .sumUndefined ∧
        ∃ row ∈ rows, Amount.isNaN (sumAt row.month row.currency) = true := by
  intro rows sumAt
  have hanswer := monthTotals_eq s today months
  by_cases hnumbers : ∀ b ∈ buckets rows, Amount.isNaN (sumAt b.1 b.2) = false
  · rw [hanswer, if_pos hnumbers]
    refine ⟨fun row hrow => ?_, fun t ht => ?_, ?_⟩
    · rw [List.countP_map]
      exact countP_buckets hrow
    · obtain ⟨b, hb, rfl⟩ := List.mem_map.1 ht
      exact ⟨(mem_buckets rows b).1 hb, rfl, hnumbers b hb⟩
    · refine List.pairwise_map.2 ((pairwise_buckets _).imp fun {a b} h => ?_)
      exact h.imp Text.utf8_lt_iff.2 fun ⟨hsame, hlt⟩ => ⟨hsame, Text.utf8_lt_iff.2 hlt⟩
  · rw [hanswer, if_neg hnumbers]
    obtain ⟨b, hnot⟩ := Classical.not_forall.1 hnumbers
    obtain ⟨hb, hbad⟩ := Classical.not_imp.1 hnot
    obtain ⟨row, hrow, hof⟩ := (mem_buckets rows b).1 hb
    obtain ⟨hmonth, hcurrency⟩ := of_decide_eq_true hof
    refine ⟨rfl, row, hrow, ?_⟩
    rw [hmonth, hcurrency]
    exact eq_true_of_ne_false hbad

/-- The sum of a month and a currency of rows is that of their records. -/
theorem total_of_bucket {rows : List (CostRow α)} (hmonth : ∀ row ∈ rows, row.month = row.entry.date.monthText)
    (month currency : String) : total (rows.filter fun row => row.isOf month currency) =
      CostRecord.sum ((rows.map CostRow.entry).filter fun r => r.isOf month currency) := by
  have hrecords : (rows.filter fun row => row.isOf month currency).map CostRow.entry =
      (rows.map CostRow.entry).filter fun r => r.isOf month currency :=
    CostRow.map_entry_filter fun row hrow => (CostRow.isOf_entry (hmonth row hrow) month currency).symm
  rw [CostRecord.sum, ← hrecords, List.map_map]
  rfl

/-- The sums of the months, in terms of the records that are seen: each record is counted once, each sum is that of the
records of its month and currency, of which there is one at least, and the sums stand in order. -/
theorem monthTotals_seen {s : Store α} {today : Date} {months : Nat}
    (hmonth : ∀ row ∈ s.since today months, row.month = row.entry.date.monthText) {seen : List (CostRecord α)}
    (hseen : seen = (s.since today months).map CostRow.entry) :
    let sumAt month currency := CostRecord.sum (seen.filter fun r => r.isOf month currency)
    match s.monthTotals today months with
    | .ok totals =>
      (∀ r ∈ seen, totals.countP (fun t => r.isOf t.month t.currency) = 1) ∧
        (∀ t ∈ totals, (∃ r ∈ seen, r.isOf t.month t.currency = true) ∧ t.total = sumAt t.month t.currency ∧
          Amount.isNaN t.total = false) ∧
        totals.Pairwise MonthTotal.Before
    | .error e => e = .persistence .readingMonths .sumUndefined ∧
        ∃ r ∈ seen, Amount.isNaN (sumAt r.date.monthText r.currency) = true := by
  intro sumAt
  subst hseen
  have hrows := monthTotals_rows s today months
  simp only [total_of_bucket hmonth] at hrows
  cases hanswer : s.monthTotals today months with
  | ok totals =>
    rw [hanswer] at hrows
    obtain ⟨honce, hsums, hsorted⟩ := hrows
    refine ⟨fun r hr => ?_, fun t ht => ?_, hsorted⟩
    · obtain ⟨row, hrow, rfl⟩ := List.mem_map.1 hr
      simp only [CostRow.isOf_entry (hmonth row hrow)]
      exact honce row hrow
    · obtain ⟨⟨row, hrow, hof⟩, hsum⟩ := hsums t ht
      exact ⟨⟨row.entry, List.mem_map_of_mem hrow, (CostRow.isOf_entry (hmonth row hrow) _ _).trans hof⟩, hsum⟩
  | error e =>
    rw [hanswer] at hrows
    obtain ⟨he, row, hrow, hnan⟩ := hrows
    refine ⟨he, row.entry, List.mem_map_of_mem hrow, ?_⟩
    rw [← hmonth row hrow]
    exact hnan

end Store

/-! ## How many months -/

/-- Sums of records that lie between the start of a look back and its end are of no more months than those between. -/
theorem length_months_le {seen : List (CostRecord α)} {totals : List (MonthTotal α)} {today : Date} {months : Nat}
    (hseen : ∀ r ∈ seen, today.monthsBack months ≤ r.date ∧ r.date ≤ today)
    (htotals : ∀ t ∈ totals, ∃ r ∈ seen, r.isOf t.month t.currency = true) :
    (totals.map MonthTotal.month).eraseDups.length ≤ months + 1 := by
  have hsubset : (totals.map MonthTotal.month).eraseDups ⊆
      (List.range (months + 1)).map fun back : Nat => Date.monthName (today.monthIndex - back) := by
    intro month hmonth
    obtain ⟨t, ht, rfl⟩ := List.mem_map.1 (List.mem_eraseDups.1 hmonth)
    obtain ⟨r, hr, hof⟩ := htotals t ht
    obtain ⟨back, hback, hindex⟩ := Date.exists_months_back (hseen r hr).1 (hseen r hr).2
    refine List.mem_map.2 ⟨back, List.mem_range.2 (by omega), ?_⟩
    rw [← hindex, ← Date.monthText_eq]
    exact (of_decide_eq_true hof).1
  have hlength := (nodup_eraseDups (totals.map MonthTotal.month)).length_le_of_subset hsubset
  rwa [List.length_map, List.length_range] at hlength

namespace Store

/-! ## What a look back sees -/

theorem mem_rows_of_mem_since {s : Store α} {today : Date} {months : Nat} {row : CostRow α}
    (h : row ∈ s.since today months) : row ∈ s.rows :=
  (List.mem_filter.1 (List.mem_mergeSort.1 h)).1

variable [Amount α]

/-- A look back over a history sees the records whose days have texts from that of the day on that it reaches, along the
days if these are in years without a sign. -/
theorem since_by_text (calls : List (Call α)) {today : Date} {months : Nat}
    (hplain : ∀ r ∈ recorded calls, (today.monthsBack months).toText ≤ r.date.toText → r.date.IsPlain) :
    let seen := ((ofHistory calls).since today months).map CostRow.entry
    seen.Perm ((recorded calls).filter fun r => (today.monthsBack months).toText ≤ r.date.toText) ∧
      seen.Pairwise fun a b => b.Newer a := by
  refine map_entry_along (fun row hrow => ?_) fun r hr hseen => hplain r hr (of_decide_eq_true hseen)
  rw [(readable_ofHistory calls).dateText_eq hrow]

/-- What a look back sees, if its records or the day that it reaches are in the years from 0 to 9999: of the records of these
years those from that day on, or all of them if the day is later than these years. -/
theorem since_by_calendar (calls : List (Call α)) (today : Date) (months : Nat)
    (hplain : (∀ r ∈ recorded calls, r.date.IsPlain) ∨ (today.monthsBack months).IsPlain) :
    let cutoff := today.monthsBack months
    let seen := ((ofHistory calls).since today months).map CostRow.entry
    seen.Perm ((recorded calls).filter fun r => r.date.IsPlain ∧ (cutoff ≤ r.date ∨ 9999 < cutoff.year)) ∧
      seen.Pairwise fun a b => b.Newer a := by
  intro cutoff
  have htext : ∀ r ∈ recorded calls,
      cutoff.toText ≤ r.date.toText ↔ r.date.IsPlain ∧ (cutoff ≤ r.date ∨ 9999 < cutoff.year) := by
    intro r hr
    rcases hplain with hrecorded | hcutoff
    · rw [Date.toText_le_plain_iff (hrecorded r hr), and_iff_right (hrecorded r hr)]
    · have hyear : ¬9999 < cutoff.year := Int.not_lt.2 hcutoff.2
      rw [Date.toText_le_iff_of_plain hcutoff, or_iff_left hyear]
  refine (since_by_text calls fun r hr hseen => ((htext r hr).1 hseen).1).imp_left fun hperm => ?_
  exact hperm.trans (List.Perm.of_eq (List.filter_congr fun r hr => decide_eq_decide.2 (htext r hr)))

/-- What was recorded in the years from 0 to 9999 is seen from the day on that a look back reaches; after these years the look
back sees all of it. -/
theorem since_of_plain (calls : List (Call α)) (today : Date) (months : Nat)
    (hrecorded : ∀ r ∈ recorded calls, r.date.IsPlain) :
    let cutoff := today.monthsBack months
    let seen := ((ofHistory calls).since today months).map CostRow.entry
    seen.Perm ((recorded calls).filter fun r => cutoff ≤ r.date ∨ 9999 < cutoff.year) ∧
      seen.Pairwise fun a b => b.Newer a := by
  intro cutoff
  refine (since_by_calendar calls today months (Or.inl hrecorded)).imp_left fun hperm => hperm.trans (List.Perm.of_eq ?_)
  exact List.filter_congr fun r hr => decide_eq_decide.2 (and_iff_right (hrecorded r hr))

/-- A look back over a history sees what was recorded from the day on that it reaches, along the days. -/
theorem since_ofHistory (calls : List (Call α)) {today : Date} (months : Nat)
    (hrecorded : ∀ r ∈ recorded calls, r.date.IsPlain) (htoday : today.IsPlain) :
    let seen := ((ofHistory calls).since today months).map CostRow.entry
    seen.Perm ((recorded calls).filter fun r => today.monthsBack months ≤ r.date) ∧
      seen.Pairwise fun a b => b.Newer a := by
  have hyear : ¬9999 < (today.monthsBack months).year :=
    Int.not_lt.2 (Int.le_trans (Date.year_monthsBack_le today months) htoday.2)
  refine (since_of_plain calls today months hrecorded).imp_left fun hperm => hperm.trans (List.Perm.of_eq ?_)
  exact List.filter_congr fun r _ => decide_eq_decide.2 (or_iff_left hyear)

/-- The sums of the months in a look back over a history, in terms of the records that are seen, if these are in years
without a sign. -/
theorem monthTotals_ofHistory (calls : List (Call α)) (today : Date) (months : Nat) {seen : List (CostRecord α)}
    (hseen : seen = ((ofHistory calls).since today months).map CostRow.entry)
    (hplain : ∀ r ∈ seen, r.date.IsPlain) :
    let sumAt month currency := CostRecord.sum (seen.filter fun r => r.isOf month currency)
    match (ofHistory calls).monthTotals today months with
    | .ok totals =>
      (∀ r ∈ seen, totals.countP (fun t => r.isOf t.month t.currency) = 1) ∧
        (∀ t ∈ totals, (∃ r ∈ seen, r.isOf t.month t.currency = true) ∧ t.total = sumAt t.month t.currency ∧
          Amount.isNaN t.total = false) ∧
        totals.Pairwise MonthTotal.Before
    | .error e => e = .persistence .readingMonths .sumUndefined ∧
        ∃ r ∈ seen, Amount.isNaN (sumAt r.date.monthText r.currency) = true := by
  refine monthTotals_seen (fun row hrow => ?_) hseen
  have hday := hplain row.entry (hseen ▸ List.mem_map_of_mem hrow)
  unfold CostRow.month
  rw [(readable_ofHistory calls).dateText_eq (mem_rows_of_mem_since hrow)]
  exact Date.take_toText hday

/-- Sums of months over what a history has recorded in the years from 0 to 9999, in five parts, with `today` in these years
too and for a look back of any length.
1. The look back reaches the day that many months back, or the last day of a shorter month, or the earliest date if there is
   no such month. It sees the records from this day on and no earlier one.
2. Each record that is seen is counted under one of the months and currencies that are listed, its own.
3. Each sum that is listed is that of the records of its month and currency, of which there is one at least.
4. The months and currencies that are listed are all different: later months first, and in a month the currencies in the
   order of their bytes.
5. If no record is after `today`, there is at most one month more than the look back has.
If the records of a month and currency have a sum that is no number, there is no answer. -/
theorem months_partition (calls : List (Call α)) (today : Date) (months : Nat)
    (hrecorded : ∀ r ∈ recorded calls, r.date.IsPlain) (htoday : today.IsPlain) :
    let cutoff := today.monthsBack months
    today.IsMonthsBack months cutoff ∧ ∃ seen : List (CostRecord α),
      seen.Perm ((recorded calls).filter fun r => cutoff ≤ r.date) ∧ (seen.Pairwise fun a b => b.Newer a) ∧
      let sumAt month currency := CostRecord.sum (seen.filter fun r => r.isOf month currency)
      match (ofHistory calls).monthTotals today months with
      | .ok totals =>
        (∀ r ∈ seen, totals.countP (fun t => r.isOf t.month t.currency) = 1) ∧
          (∀ t ∈ totals, (∃ r ∈ seen, r.isOf t.month t.currency = true) ∧ t.total = sumAt t.month t.currency ∧
            Amount.isNaN t.total = false) ∧
          totals.Pairwise MonthTotal.Before ∧
          ((∀ r ∈ recorded calls, r.date ≤ today) → (totals.map MonthTotal.month).eraseDups.length ≤ months + 1)
      | .error e => e = .persistence .readingMonths .sumUndefined ∧
          ∃ r ∈ seen, Amount.isNaN (sumAt r.date.monthText r.currency) = true := by
  intro cutoff
  obtain ⟨hperm, hordered⟩ := since_ofHistory calls months hrecorded htoday
  have hmonth : ∀ row ∈ (ofHistory calls).since today months, row.month = row.entry.date.monthText := by
    intro row hrow
    have hrow := mem_rows_of_mem_since hrow
    unfold CostRow.month
    rw [(readable_ofHistory calls).dateText_eq hrow]
    exact Date.take_toText (hrecorded _ (entry_mem_recorded hrow))
  have hseen := monthTotals_seen hmonth rfl
  refine ⟨Date.isMonthsBack_monthsBack today months, _, hperm, hordered, ?_⟩
  intro sumAt
  cases htotals : (ofHistory calls).monthTotals today months with
  | error e =>
    rw [htotals] at hseen
    exact hseen
  | ok totals =>
    rw [htotals] at hseen
    obtain ⟨honce, hsums, hsorted⟩ := hseen
    refine ⟨honce, hsums, hsorted, fun hpast => ?_⟩
    -- only here is the end of the look back a bound: records after `today` are seen too
    have hbetween : ∀ r ∈ ((ofHistory calls).since today months).map CostRow.entry, cutoff ≤ r.date ∧ r.date ≤ today := by
      intro r hr
      obtain ⟨hr, hfirst⟩ := List.mem_filter.1 (hperm.mem_iff.1 hr)
      exact ⟨of_decide_eq_true hfirst, hpast r hr⟩
    exact length_months_le hbetween fun t ht => (hsums t ht).1

/-- One month back from the last day of a March is the last day of February: of the costs about it two are seen, and they
are of two months at most. -/
theorem months_leapCosts :
    ∃ (seen : List (CostRecord Rat)) (totals : List (MonthTotal Rat)),
      seen.Perm [{ leapCosts[0] with id := some 1 }, { leapCosts[1] with id := some 2 }] ∧
      (ofHistory [.insertBatch leapCosts]).monthTotals ⟨2024, 3, 31, by decide⟩ 1 = .ok totals ∧
      (∀ r ∈ seen, totals.countP (fun t => r.isOf t.month t.currency) = 1) ∧
      (totals.map MonthTotal.month).eraseDups.length ≤ 2 := by
  have hrecorded : ∀ r ∈ recorded [.insertBatch leapCosts], r.date.IsPlain := by decide +kernel
  have htoday : (⟨2024, 3, 31, by decide⟩ : Date).IsPlain := by decide +kernel
  obtain ⟨_, seen, hseen, _, hanswer⟩ := months_partition [.insertBatch leapCosts] _ 1 hrecorded htoday
  cases htotals : (ofHistory [.insertBatch leapCosts]).monthTotals ⟨2024, 3, 31, by decide⟩ 1 with
  | error e =>
    rw [htotals] at hanswer
    obtain ⟨_, _, _, hnan⟩ := hanswer
    cases hnan
  | ok totals =>
    rw [htotals] at hanswer
    obtain ⟨honce, _, _, hlength⟩ := hanswer
    exact ⟨seen, totals, hseen.trans (by decide +kernel), rfl, honce, hlength (by decide +kernel)⟩

end Store

end SpendLedger
