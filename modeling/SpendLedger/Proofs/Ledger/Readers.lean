import SpendLedger.Proofs.Ledger.Selection
import SpendLedger.Proofs.Ledger.Sums

/-!
# All readers of a range see the same records

A range of days can be listed, listed for one service, summed by service or by group, counted for one account, and asked for
its currencies. All of these are about one list of records, the one that a query of the range answers with; also for days
whose texts are not ordered as the days are.

The sums are those of the listed records, but a sum of doubles depends on the order of its summands. A range with a bound is
summed along the days, and only the range of all days by number: that every range is summed by number is false
(`sum_by_number_false`).
-/

namespace SpendLedger

variable {α : Type}

/-! ## Records of a range -/

/-- The name under which a record is summed; records without a group count to the empty one. -/
def CostRecord.key (r : CostRecord α) : Dimension → String
  | .service => r.service
  | .group => r.group.getD ""

/-- Records in the order of their numbers. -/
def byNumber (found : List (CostRecord α)) : List (CostRecord α) :=
  found.mergeSort fun a b => decide (a.id.getD 0 ≤ b.id.getD 0)

/-- The order in which the records of a range are summed: where a day bounds the range, from the last one listed to the
first, that is along the days; where none does, by number. -/
def summingOrder (window : Window) (found : List (CostRecord α)) : List (CostRecord α) :=
  if window = Window.always then byNumber found else found.reverse

/-- Records in the order of their numbers, which are all different, need no sorting. -/
theorem byNumber_eq {found ordered : List (CostRecord α)} (h : found.Perm ordered)
    (hordered : ordered.Pairwise fun a b => a.id.getD 0 < b.id.getD 0) : byNumber found = ordered := by
  have hsorted : (byNumber found).Pairwise fun a b => a.id.getD 0 ≤ b.id.getD 0 := by
    refine (List.pairwise_mergeSort ?_ ?_ found).imp of_decide_eq_true
    · intro a b c hab hbc
      exact decide_eq_true (Int.le_trans (of_decide_eq_true hab) (of_decide_eq_true hbc))
    · intro a b
      rw [Bool.or_eq_true, decide_eq_true_iff, decide_eq_true_iff]
      exact Int.le_total _ _
  have hperm : (byNumber found).Perm ordered := (List.mergeSort_perm found _).trans h
  have hids : (byNumber found).Pairwise fun a b => a.id.getD 0 ≠ b.id.getD 0 :=
    (hperm.pairwise_iff Ne.symm).2 (hordered.imp Int.ne_of_lt)
  have hstrict : (byNumber found).Pairwise fun a b => a.id.getD 0 < b.id.getD 0 :=
    (hsorted.and hids).imp fun ⟨hle, hne⟩ => Int.lt_iff_le_and_ne.2 ⟨hle, hne⟩
  exact hperm.eq_of_pairwise (fun _ _ _ _ hab hba => absurd hba (Int.lt_asymm hab)) hstrict hordered

namespace Store

variable {s : Store α}

/-- The rows of a range are those that are selected without regard to the service. -/
theorem select_perm_within (s : Store α) (window : Window) : (s.select ⟨window, none⟩).Perm (s.within window) := by
  refine (select_perm s ⟨window, none⟩).trans (List.Perm.of_eq ?_)
  exact List.filter_congr fun row _ => Bool.and_true _

/-- The rows that are summed in a range are those that are selected. -/
theorem walk_perm (s : Store α) (window : Window) : (s.walk window).Perm (s.select ⟨window, none⟩) := by
  unfold walk
  split
  next h =>
    subst h
    exact (select_all_perm s).symm
  next => exact (List.mergeSort_perm _ _).trans (select_perm_within s window).symm

/-- The rows of a service are those of the range but for the others. -/
theorem select_service_perm (s : Store α) (window : Window) (name : String) :
    (s.select ⟨window, some name⟩).Perm ((s.select ⟨window, none⟩).filter fun row => row.service = name) := by
  refine (select_perm s _).trans (List.Perm.trans (List.Perm.of_eq ?_) ((select_perm s _).filter _).symm)
  rw [List.filter_filter]
  refine List.filter_congr fun row _ => ?_
  simp [Bool.and_comm, eq_comm]

/-- The rows of a service are selected by leaving out the others. -/
theorem select_service (hs : s.Ordered) (window : Window) (name : String) :
    s.select ⟨window, some name⟩ = (s.select ⟨window, none⟩).filter fun row => row.service = name :=
  CostRow.eq_of_newer (pairwise_select hs _) (List.Pairwise.filter _ (pairwise_select hs _))
    (select_service_perm s window name)

/-- Where a day bounds a range, its rows are summed from the last one selected to the first. -/
theorem walk_eq_reverse (hs : s.Ordered) {window : Window} (h : window ≠ Window.always) :
    s.walk window = (s.select ⟨window, none⟩).reverse := by
  have hwalk : s.walk window = (s.within window).mergeSort CostRow.precedes := if_neg h
  have hnewest : (s.walk window).reverse.Pairwise CostRow.Newer := by
    rw [List.pairwise_reverse, hwalk]
    exact CostRow.pairwise_mergeSort (hs.filter _)
  have hperm := (List.reverse_perm (s.walk window)).trans (walk_perm s window)
  rw [← CostRow.eq_of_newer hnewest (pairwise_select hs _) hperm, List.reverse_reverse]

/-- The records of a range are summed as their rows are. -/
theorem summingOrder_eq (hs : s.Ordered) (window : Window) :
    summingOrder window ((s.select ⟨window, none⟩).map CostRow.entry) = (s.walk window).map CostRow.entry := by
  unfold summingOrder
  split
  next h =>
    subst h
    have hwalk : s.walk Window.always = s.rows := if_pos rfl
    rw [hwalk]
    refine byNumber_eq ((select_all_perm s).map CostRow.entry) (List.pairwise_map.2 (hs.imp fun {a b} hid => ?_))
    show (a.id : Int) < (b.id : Int)
    omega
  next h => rw [walk_eq_reverse hs h, List.map_reverse]

/-! ## The readers -/

/-- The currencies of a range are those of its records, in order. -/
theorem mem_currencies (s : Store α) (window : Window) (currency : String) : currency ∈ s.currencies window ↔
    currency ∈ ((s.select ⟨window, none⟩).map CostRow.entry).map CostRecord.currency := by
  unfold currencies
  rw [mem_distinct, List.map_map]
  exact (((select_perm_within s window).map CostRow.currency).mem_iff).symm

/-- The number of an account's rows in a range is that of its records. -/
theorem count_eq (s : Store α) (account : String) (window : Window) : s.count account window =
    (((s.select ⟨window, none⟩).map CostRow.entry).filter fun r => r.account = account).length := by
  unfold count
  rw [List.filter_map, List.length_map]
  exact (((select_perm_within s window).filter _).length_eq).symm

theorem mem_keys (s : Store α) (dimension : Dimension) (window : Window) (key : String) :
    key ∈ distinct ((s.walk window).map fun row => row.key dimension) ↔
      key ∈ ((s.select ⟨window, none⟩).map CostRow.entry).map fun r => r.key dimension := by
  rw [mem_distinct, List.map_map]
  cases dimension
  · exact ((walk_perm s window).map _).mem_iff
  · exact ((walk_perm s window).map _).mem_iff

variable [Amount α]

/-- The sum of the rows of a range under a name is that of its records, in the order in which they are summed. -/
theorem total_walk (hs : s.Ordered) (dimension : Dimension) (window : Window) (key : String) :
    total ((s.walk window).filter fun row => row.key dimension = key) =
      CostRecord.sum ((summingOrder window ((s.select ⟨window, none⟩).map CostRow.entry)).filter
        fun r => r.key dimension = key) := by
  rw [summingOrder_eq hs, List.filter_map, CostRecord.sum, List.map_map]
  cases dimension
  · rfl
  · rfl

/-- The sums of a range, in terms of its records: under each name that occurs the sum of the records of that name, or a
failure if one of the sums is no number. -/
theorem aggregate_found (hs : s.Ordered) (dimension : Dimension) (window : Window) {found : List (CostRecord α)}
    (hfound : found = (s.select ⟨window, none⟩).map CostRow.entry) :
    let sumAt key := CostRecord.sum ((summingOrder window found).filter fun r => r.key dimension = key)
    match s.aggregate dimension window with
    | .ok sums => (∀ key, key ∈ sums.keys ↔ key ∈ found.map fun r => r.key dimension) ∧
        ∀ key sum, sums.get? key = some sum → sum = sumAt key ∧ Amount.isNaN sum = false
    | .error e => e = .persistence .readingAggregates .sumUndefined ∧
        ∃ key ∈ found.map fun r => r.key dimension, Amount.isNaN (sumAt key) = true := by
  intro sumAt
  have htotal : ∀ key, total ((s.walk window).filter fun row => row.key dimension = key) = sumAt key := by
    intro key
    rw [total_walk hs, ← hfound]
  have hkeys : ∀ key, key ∈ distinct ((s.walk window).map fun row => row.key dimension) ↔
      key ∈ found.map fun r => r.key dimension := by
    intro key
    rw [mem_keys, ← hfound]
  rcases aggregate_eq s dimension window with ⟨hnumbers, sums, hsums, hentries⟩ | ⟨⟨key, hkey, hnan⟩, hfailed⟩
  · rw [hsums]
    refine ⟨fun key => ?_, fun key sum hget => ?_⟩
    · rw [← hkeys, Table.keys, hentries, List.map_map]
      exact iff_of_eq (congrArg (key ∈ ·) (List.map_id _))
    · have hmem := Table.mem_entries_iff.2 hget
      rw [hentries, List.mem_map] at hmem
      obtain ⟨name, hname, hpair⟩ := hmem
      obtain ⟨rfl, rfl⟩ := Prod.mk.inj hpair
      exact ⟨htotal name, hnumbers name hname⟩
  · rw [hfailed]
    exact ⟨rfl, key, (hkeys key).1 hkey, htotal key ▸ hnan⟩

/-- Whatever a store has been used for, all readers of a range of days agree on its records, which a query of the range
answers with. The currencies of the range are those of the records, each once and in order. The sums by service and by group
stand under the names that occur in the records, a missing group under the empty name, and each is the sum of the records of
its name, along the days if a day bounds the range and by number if none does; if one of them is no number there is no
answer. The records of a service are those of the range that are of this service, in the same order. And the records of an
account are counted as they are found. -/
theorem readers_agree (calls : List (Call α)) (window : Window) :
    let s := ofHistory calls
    ∃ found, s.query ⟨window, none⟩ = .ok found ∧
      ((s.currencies window).Pairwise (· < ·) ∧
        ∀ currency, currency ∈ s.currencies window ↔ currency ∈ found.map CostRecord.currency) ∧
      (∀ dimension,
        let sumAt key := CostRecord.sum ((summingOrder window found).filter fun r => r.key dimension = key)
        match s.aggregate dimension window with
        | .ok sums => (∀ key, key ∈ sums.keys ↔ key ∈ found.map fun r => r.key dimension) ∧
            ∀ key sum, sums.get? key = some sum → sum = sumAt key ∧ Amount.isNaN sum = false
        | .error e => e = .persistence .readingAggregates .sumUndefined ∧
            ∃ key ∈ found.map fun r => r.key dimension, Amount.isNaN (sumAt key) = true) ∧
      (∀ name, s.query ⟨window, some name⟩ = .ok (found.filter fun r => r.service = name)) ∧
      ∀ account, s.count account window = (found.filter fun r => r.account = account).length := by
  intro s
  have hreadable : s.Readable := readable_ofHistory calls
  have hordered : s.Ordered := ordered_ofHistory calls
  refine ⟨_, query_eq hreadable _, ⟨pairwise_distinct _, mem_currencies s window⟩,
    fun dimension => aggregate_found hordered dimension window rfl, fun name => ?_, fun account => count_eq s account window⟩
  rw [query_eq hreadable, select_service hordered, List.filter_map]
  rfl

/-! ## The order of the summands -/

/-- Three costs of one service: of the first, of the third and of the second day of a month. -/
def threeDays : List (CostRecord Float) :=
  [⟨none, "account", none, "Storage", 1, "USD", ⟨2024, 1, 1, by decide⟩⟩,
    ⟨none, "account", none, "Storage", 1e32, "USD", ⟨2024, 1, 3, by decide⟩⟩,
    ⟨none, "account", none, "Storage", -9007199254740992, "USD", ⟨2024, 1, 2, by decide⟩⟩]

/-- The days from the first of the month on. -/
def fromFirst : Window := ⟨some ⟨2024, 1, 1, by decide⟩, none⟩

/-- The rows of the three days, the latest day first. -/
theorem select_threeDays : (ofHistory [.insertBatch threeDays]).select ⟨fromFirst, none⟩ =
    [(numbered 1 threeDays)[1], (numbered 1 threeDays)[2], (numbered 1 threeDays)[0]] := by
  have hrows : (ofHistory [.insertBatch threeDays]).rows = numbered 1 threeDays := by decide +kernel
  refine CostRow.eq_of_newer (pairwise_select (ordered_ofHistory _) _) (by decide +kernel) ?_
  refine (select_perm_within _ _).trans ?_
  unfold within
  rw [hrows]
  decide +kernel

/-- It is false that the sums of every range are formed by number: by number the three costs are `9.999999999999999e31`,
along the days they are `1e32`. -/
theorem sum_by_number_false : ¬∀ (calls : List (Call Float)) (window : Window) (dimension : Dimension)
    (found : List (CostRecord Float)) (sums : Table Float) (key : String) (sum : Float),
    (ofHistory calls).query ⟨window, none⟩ = .ok found → (ofHistory calls).aggregate dimension window = .ok sums →
      sums.get? key = some sum → sum = CostRecord.sum ((byNumber found).filter fun r => r.key dimension = key) := by
  intro h
  have hquery := query_eq (readable_ofHistory [.insertBatch threeDays]) ⟨fromFirst, none⟩
  have hsums := aggregate_found (ordered_ofHistory [.insertBatch threeDays]) .service fromFirst rfl
  rw [select_threeDays] at hquery hsums
  have hbyNumber : byNumber ([(numbered 1 threeDays)[1], (numbered 1 threeDays)[2], (numbered 1 threeDays)[0]].map
      CostRow.entry) = (numbered 1 threeDays).map CostRow.entry :=
    byNumber_eq (by decide +kernel) (by decide +kernel)
  cases haggregate : (ofHistory [.insertBatch threeDays]).aggregate .service fromFirst with
  | error e =>
    rw [haggregate] at hsums
    obtain ⟨_, key, hkey, hnan⟩ := hsums
    revert key
    decide +kernel
  | ok sums =>
    rw [haggregate] at hsums
    obtain ⟨hkeys, hget⟩ := hsums
    obtain ⟨sum, hsum⟩ := Table.mem_keys_iff.1 ((hkeys "Storage").2 (by decide +kernel))
    have halong := (hget _ _ hsum).1
    have hnumber := h _ _ _ _ _ _ _ hquery haggregate hsum
    rw [hbyNumber] at hnumber
    rw [hnumber] at halong
    revert halong
    decide +kernel

end Store

end SpendLedger
