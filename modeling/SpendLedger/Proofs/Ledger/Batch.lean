import SpendLedger.Ledger.Store

/-!
# Batches

A batch is taken as a whole: if every record keeps the rules, all of them are appended in their order under the next
numbers, and otherwise the batch fails with the first rule that is broken.
-/

namespace SpendLedger

variable {α : Type} [Amount α]

namespace Store

/-! ## The rules -/

/-- A record that keeps all rules of the store: its account, service and currency are named and its cost is a number. -/
def Admits (r : CostRecord α) : Prop :=
  r.account ≠ "" ∧ r.service ≠ "" ∧ r.currency ≠ "" ∧ Amount.isNaN r.cost = false

instance (r : CostRecord α) : Decidable (Admits r) :=
  inferInstanceAs (Decidable (_ ∧ _ ∧ _ ∧ _))

/-- A record breaks no rule exactly if it keeps all of them. -/
theorem violation?_eq_none_iff (r : CostRecord α) : violation? r = none ↔ Admits r := by
  unfold violation? Admits
  cases hcost : Amount.isNaN r.cost with
  | true => simp
  | false =>
    by_cases haccount : r.account = ""
    · simp [haccount]
    · by_cases hservice : r.service = ""
      · simp [haccount, hservice]
      · by_cases hcurrency : r.currency = ""
        · simp [haccount, hservice, hcurrency]
        · simp [haccount, hservice, hcurrency]

/-- No record of a batch breaks a rule exactly if all of them keep all rules. -/
theorem findSome?_violation?_eq_none_iff (batch : List (CostRecord α)) :
    batch.findSome? violation? = none ↔ ∀ r ∈ batch, Admits r := by
  rw [List.findSome?_eq_none_iff]
  exact forall₂_congr fun r _ => violation?_eq_none_iff r

/-! ## The rows -/

/-- The row that a record becomes under a number. -/
def rowOf (id : Nat) (r : CostRecord α) : CostRow α where
  id
  account := r.account
  group := r.group
  service := r.service
  cost := r.cost + Amount.zero
  currency := r.currency
  dateText := r.date.toText

/-- The rows that the records of a batch become under the numbers from `first` on. -/
def numbered (first : Nat) (batch : List (CostRecord α)) : List (CostRow α) :=
  batch.mapIdx fun i r => rowOf (first + i) r

theorem numbered_cons (first : Nat) (r : CostRecord α) (batch : List (CostRecord α)) :
    numbered first (r :: batch) = rowOf first r :: numbered (first + 1) batch := by
  simp [numbered, List.mapIdx_cons, Nat.add_comm 1, Nat.add_assoc]

@[simp] theorem length_numbered (first : Nat) (batch : List (CostRecord α)) :
    (numbered first batch).length = batch.length :=
  List.length_mapIdx

/-- The rows have the numbers from the first on, without a gap. -/
theorem map_id_numbered (first : Nat) (batch : List (CostRecord α)) :
    (numbered first batch).map CostRow.id = List.range' first batch.length := by
  induction batch generalizing first with
  | nil => rfl
  | cons r batch ih =>
    rw [numbered_cons, List.map_cons, ih, List.length_cons, List.range'_succ]
    rfl

/-- A store with the rows of a batch. -/
def withBatch (s : Store α) (batch : List (CostRecord α)) : Store α :=
  { s with rows := s.rows ++ numbered s.nextRow batch, nextRow := s.nextRow + batch.length }

/-! ## Appending -/

/-- A record that keeps the rules is appended under the next number. -/
theorem append_of_admits (s : Store α) {r : CostRecord α} (h : violation? r = none) :
    s.append r = .ok { s with rows := s.rows ++ [rowOf s.nextRow r], nextRow := s.nextRow + 1 } := by
  unfold append
  rw [h]
  rfl

/-- What becomes of a batch: the first broken rule makes it fail, otherwise its rows are appended. -/
theorem insertBatch_eq (s : Store α) (batch : List (CostRecord α)) :
    s.insertBatch batch = match batch.findSome? violation? with
      | some constraint => .error (.persistence .insertingBatch (.violated constraint))
      | none => .ok (s.withBatch batch) := by
  unfold insertBatch
  induction batch generalizing s with
  | nil => simp [withBatch, numbered, pure, Except.pure]
  | cons r batch ih =>
    rw [List.foldlM_cons, List.findSome?_cons]
    cases hr : violation? r with
    | some constraint =>
      have hfail : s.append r = .error (.persistence .insertingBatch (.violated constraint)) := by
        unfold append
        rw [hr]
      rw [hfail]
      rfl
    | none =>
      rw [append_of_admits s hr]
      refine (ih _).trans ?_
      simp only [withBatch, numbered_cons, List.append_assoc, List.cons_append, List.nil_append, List.length_cons,
        Nat.add_assoc, Nat.add_comm 1]

/-- A batch is taken exactly if every record keeps the rules, and then its rows are appended. -/
theorem insertBatch_eq_ok_iff {s t : Store α} {batch : List (CostRecord α)} :
    s.insertBatch batch = .ok t ↔ (∀ r ∈ batch, Admits r) ∧ t = s.withBatch batch := by
  rw [insertBatch_eq, ← findSome?_violation?_eq_none_iff]
  cases batch.findSome? violation? with
  | some constraint => simp
  | none => simp [eq_comm]

/-- A batch that is refused has a record that breaks a rule. -/
theorem exists_not_admits_of_error {s : Store α} {batch : List (CostRecord α)} {e : Failure}
    (h : s.insertBatch batch = .error e) : ∃ r ∈ batch, ¬Admits r := by
  refine Decidable.byContradiction fun hnone => ?_
  have hall : ∀ r ∈ batch, Admits r := fun r hr => Decidable.byContradiction fun hbad => hnone ⟨r, hr, hbad⟩
  rw [insertBatch_eq_ok_iff.2 ⟨hall, rfl⟩] at h
  cases h

end Store

end SpendLedger
