import Mathlib.Data.List.Nodup
import SpendLedger.Proofs.Ledger.Months

/-!
# Months and sums of months

A look back lists one sum for each month and currency. There are as many sums as months exactly if every month has one
currency; otherwise there are more. And the second sum is of an earlier month than the first exactly if the month of the first
has one currency.
-/

namespace SpendLedger

variable {α : Type}

/-- The months of records, each once. -/
def CostRecord.months (records : List (CostRecord α)) : List Int :=
  (records.map fun r => r.date.monthIndex).eraseDups

/-- Every month has one currency. -/
def CostRecord.OneCurrencyAMonth (records : List (CostRecord α)) : Prop :=
  ∀ a ∈ records, ∀ b ∈ records, a.date.monthIndex = b.date.monthIndex → a.currency = b.currency

instance (records : List (CostRecord α)) : Decidable (CostRecord.OneCurrencyAMonth records) :=
  inferInstanceAs (Decidable (∀ a ∈ records, ∀ b ∈ records, _ → _))

namespace MonthTotal.Tally

variable {seen : List (CostRecord α)} {totals : List (MonthTotal α)}

/-- The months of the sums are those of the records. -/
theorem length_months_eq (h : Tally seen totals) :
    (CostRecord.months seen).length = (totals.map MonthTotal.month).eraseDups.length := by
  have hmem : ∀ i, i ∈ CostRecord.months seen ↔ ∃ r ∈ seen, r.date.monthIndex = i := by
    intro i
    rw [CostRecord.months, List.mem_eraseDups, List.mem_map]
  -- in years without a sign a month is its text
  have hnames : ((CostRecord.months seen).map Date.monthName).Nodup := by
    refine List.Nodup.map_on ?_ (nodup_eraseDups _)
    intro i hi j hj hname
    obtain ⟨a, ha, rfl⟩ := (hmem i).1 hi
    obtain ⟨b, hb, rfl⟩ := (hmem j).1 hj
    rw [← Date.monthText_eq, ← Date.monthText_eq] at hname
    exact (Date.monthText_inj (h.plain a ha) (h.plain b hb)).1 hname
  have hperm : ((CostRecord.months seen).map Date.monthName).Perm (totals.map MonthTotal.month).eraseDups := by
    refine (List.perm_ext_iff_of_nodup hnames (nodup_eraseDups _)).2 fun text => ?_
    rw [List.mem_map, List.mem_eraseDups, List.mem_map]
    constructor
    · rintro ⟨i, hi, rfl⟩
      obtain ⟨r, hr, rfl⟩ := (hmem i).1 hi
      obtain ⟨t, ht, htext, _⟩ := CostRecord.exists_isOf (h.once r hr)
      exact ⟨t, ht, htext.symm.trans (Date.monthText_eq _)⟩
    · rintro ⟨t, ht, rfl⟩
      obtain ⟨r, hr, hof⟩ := h.record t ht
      exact ⟨_, (hmem _).2 ⟨r, hr, rfl⟩, (Date.monthText_eq _).symm.trans (of_decide_eq_true hof).1⟩
  rw [← hperm.length_eq, List.length_map]

/-- The sums are of different months exactly if every month has one currency. -/
theorem nodup_months_iff (h : Tally seen totals) :
    (totals.map MonthTotal.month).Nodup ↔ CostRecord.OneCurrencyAMonth seen := by
  constructor
  · intro hnodup a ha b hb hmonth
    obtain ⟨t, ht, htext, hcurrency⟩ := CostRecord.exists_isOf (h.once a ha)
    obtain ⟨u, hu, hutext, hucurrency⟩ := CostRecord.exists_isOf (h.once b hb)
    have hsame : t.month = u.month := by
      rw [← htext, ← hutext]
      exact (Date.monthText_inj (h.plain a ha) (h.plain b hb)).2 hmonth
    have htu : t = u := List.inj_on_of_nodup_map hnodup ht hu hsame
    rw [hcurrency, hucurrency, htu]
  · intro hone
    refine List.pairwise_map.2 (h.sorted.imp_of_mem ?_)
    intro t u ht hu hbefore hsame
    rcases hbefore with hlt | ⟨_, hlt⟩
    · have hmonth : u.month < t.month := Text.utf8_lt_iff.1 hlt
      exact String.lt_irrefl _ (hsame ▸ hmonth)
    · obtain ⟨a, ha, hofA⟩ := h.record t ht
      obtain ⟨b, hb, hofB⟩ := h.record u hu
      obtain ⟨htext, hcurrency⟩ := of_decide_eq_true hofA
      obtain ⟨hutext, hucurrency⟩ := of_decide_eq_true hofB
      have hmonth : a.date.monthIndex = b.date.monthIndex :=
        (Date.monthText_inj (h.plain a ha) (h.plain b hb)).1 (htext.trans (hsame.trans hutext.symm))
      have heq : t.currency = u.currency := hcurrency.symm.trans ((hone a ha b hb hmonth).trans hucurrency)
      exact String.lt_irrefl _ (heq ▸ Text.utf8_lt_iff.1 hlt)

/-- There are at least as many sums as months. -/
theorem length_months_le (h : Tally seen totals) : (CostRecord.months seen).length ≤ totals.length := by
  rw [h.length_months_eq, ← List.length_map MonthTotal.month]
  exact (sublist_eraseDups _).length_le

/-- There are as many sums as months exactly if every month has one currency. -/
theorem length_months_eq_iff (h : Tally seen totals) :
    (CostRecord.months seen).length = totals.length ↔ CostRecord.OneCurrencyAMonth seen := by
  rw [h.length_months_eq, ← List.length_map MonthTotal.month, length_eraseDups_eq_iff, h.nodup_months_iff]

/-- The records of the second sum are of an earlier month than those of the first exactly if the records of the month of the
first have one currency. -/
theorem second_earlier_iff {first second : MonthTotal α} {later : List (MonthTotal α)}
    (h : Tally seen (first :: second :: later)) :
    (∀ a ∈ seen, ∀ b ∈ seen, a.isOf first.month first.currency = true → b.isOf second.month second.currency = true →
        b.date.monthIndex < a.date.monthIndex) ↔
      ∀ a ∈ seen, ∀ b ∈ seen, a.date.monthText = first.month → b.date.monthText = first.month →
        a.currency = b.currency := by
  obtain ⟨hfirst, hrest⟩ := List.pairwise_cons.1 h.sorted
  obtain ⟨a, ha, hofA⟩ := h.record first List.mem_cons_self
  obtain ⟨b, hb, hofB⟩ := h.record second (List.mem_cons_of_mem _ List.mem_cons_self)
  obtain ⟨htextA, hcurrencyA⟩ := of_decide_eq_true hofA
  obtain ⟨htextB, hcurrencyB⟩ := of_decide_eq_true hofB
  constructor
  · intro hearlier
    -- so the months of the two sums differ, and the first sum is the only one of its month
    have hmonths : second.month < first.month := by
      rw [← htextA, ← htextB]
      exact (Date.monthText_lt_iff (h.plain b hb) (h.plain a ha)).2 (hearlier a ha b hb hofA hofB)
    have honly : ∀ t ∈ first :: second :: later, t.month = first.month → t = first := by
      intro t ht hsame
      rcases List.mem_cons.1 ht with rfl | hlater
      · rfl
      · have hle : t.month ≤ second.month := MonthTotal.month_le_head hrest rfl t hlater
        exact absurd hmonths (String.not_lt.2 (hsame ▸ hle))
    intro c hc d hd htextC htextD
    obtain ⟨t, ht, htext, hcurrency⟩ := CostRecord.exists_isOf (h.once c hc)
    obtain ⟨u, hu, hutext, hucurrency⟩ := CostRecord.exists_isOf (h.once d hd)
    rw [hcurrency, hucurrency, honly t ht (htext.symm.trans htextC), honly u hu (hutext.symm.trans htextD)]
  · intro hone
    have hmonths : second.month < first.month := by
      rcases hfirst second List.mem_cons_self with hlt | ⟨hsame, hlt⟩
      · exact Text.utf8_lt_iff.1 hlt
      · have hcurrency := hone a ha b hb htextA (htextB.trans hsame.symm)
        rw [← hcurrencyA, ← hcurrencyB, hcurrency] at hlt
        exact absurd (Text.utf8_lt_iff.1 hlt) (String.lt_irrefl _)
    intro c hc d hd hofC hofD
    refine (Date.monthText_lt_iff (h.plain d hd) (h.plain c hc)).1 ?_
    rw [(of_decide_eq_true hofC).1, (of_decide_eq_true hofD).1]
    exact hmonths

end MonthTotal.Tally

end SpendLedger
