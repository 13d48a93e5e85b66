import SpendLedger.Ledger.Store

/-!
# Values in order, each once

The store sorts by two keys: rows by day and number, months by month and currency. Names, months and currencies are listed
by sorting all that occur and leaving out repetitions. What is listed is what occurs, in strict order.
-/

namespace SpendLedger

/-! ## Two keys -/

section

variable {β κ : Type} {r : β → β → Bool} (key : β → κ) (lt : κ → κ → Prop) {le : β → β → Prop}

/-- An order by a first key, and among equal keys by another order, is transitive. -/
theorem trans_of_two_keys (hr : ∀ a b, r a b = true ↔ lt (key a) (key b) ∨ key a = key b ∧ le a b)
    (hlt : ∀ x y z, lt x y → lt y z → lt x z) (hle : ∀ a b c, le a b → le b c → le a c) (a b c : β)
    (hab : r a b = true) (hbc : r b c = true) : r a c = true := by
  rw [hr] at hab hbc ⊢
  rcases hab with hab | ⟨hab, hle₁⟩
  · rcases hbc with hbc | ⟨hbc, _⟩
    · exact Or.inl (hlt _ _ _ hab hbc)
    · exact Or.inl (hbc ▸ hab)
  · rw [hab]
    exact hbc.imp_right fun ⟨hbc, hle₂⟩ => ⟨hbc, hle a b c hle₁ hle₂⟩

/-- An order by a first key, and among equal keys by another order, puts one of two values first. -/
theorem total_of_two_keys (hr : ∀ a b, r a b = true ↔ lt (key a) (key b) ∨ key a = key b ∧ le a b)
    (hlt : ∀ x y, lt x y ∨ x = y ∨ lt y x) (hle : ∀ a b, le a b ∨ le b a) (a b : β) : (r a b || r b a) = true := by
  rw [Bool.or_eq_true, hr, hr]
  rcases hlt (key a) (key b) with hab | hsame | hba
  · exact Or.inl (Or.inl hab)
  · exact (hle a b).imp (fun h => Or.inr ⟨hsame, h⟩) fun h => Or.inr ⟨hsame.symm, h⟩
  · exact Or.inr (Or.inl hba)

end

/-! ## What sorting leaves -/

/-- Sorting leaves values that stand in order already, such as values that tie, in the order in which they are. -/
theorem filter_mergeSort {β : Type} {le : β → β → Bool} (trans : ∀ a b c, le a b = true → le b c = true → le a c = true)
    (total : ∀ a b, (le a b || le b a) = true) {l : List β} {p : β → Bool}
    (hordered : (l.filter p).Pairwise fun a b => le a b = true) : (l.mergeSort le).filter p = l.filter p := by
  have hsublist : (l.filter p).Sublist (l.mergeSort le) :=
    List.sublist_mergeSort trans total hordered List.filter_sublist
  have hfiltered : (l.filter p).Sublist ((l.mergeSort le).filter p) := by
    have hkept := hsublist.filter p
    rwa [List.filter_filter, show (fun x => p x && p x) = p from funext fun x => Bool.and_self (p x)] at hkept
  exact (hfiltered.eq_of_length ((List.mergeSort_perm l le).filter p).length_eq.symm).symm

/-! ## No repetitions -/

section

variable {β : Type} [BEq β]

/-- Leaving out repetitions keeps the order of what stays. -/
theorem sublist_eraseDups (l : List β) : l.eraseDups.Sublist l := by
  match l with
  | [] => exact List.Sublist.slnil
  | x :: rest =>
    rw [List.eraseDups_cons]
    exact List.Sublist.cons_cons x ((sublist_eraseDups _).trans List.filter_sublist)
termination_by l.length
decreasing_by exact Nat.lt_succ_of_le (List.length_filter_le _ _)

variable [LawfulBEq β]

theorem nodup_eraseDups (l : List β) : l.eraseDups.Nodup := by
  match l with
  | [] => exact List.nodup_nil
  | x :: rest =>
    rw [List.eraseDups_cons, List.nodup_cons]
    exact ⟨by simp, nodup_eraseDups _⟩
termination_by l.length
decreasing_by exact Nat.lt_succ_of_le (List.length_filter_le _ _)

/-- Leaving out repetitions leaves out nothing exactly if there are none. -/
theorem length_eraseDups_eq_iff {l : List β} : l.eraseDups.length = l.length ↔ l.Nodup := by
  constructor
  · intro h
    rw [← (sublist_eraseDups l).eq_of_length h]
    exact nodup_eraseDups l
  · intro h
    refine ((List.perm_ext_iff_of_nodup (nodup_eraseDups l) h).2 fun x => ?_).length_eq
    exact List.mem_eraseDups

/-- Sorted and without repetitions, values stand in order and are all different. -/
theorem pairwise_eraseDups_mergeSort {le : β → β → Bool} (trans : ∀ a b c, le a b = true → le b c = true → le a c = true)
    (total : ∀ a b, (le a b || le b a) = true) (l : List β) :
    (l.mergeSort le).eraseDups.Pairwise fun a b => le a b = true ∧ a ≠ b :=
  ((List.pairwise_mergeSort trans total l).sublist (sublist_eraseDups _)).and (nodup_eraseDups _)

end

/-! ## Names -/

/-- Exactly the given texts are listed. -/
@[simp] theorem mem_distinct {names : List String} {name : String} : name ∈ distinct names ↔ name ∈ names := by
  unfold distinct
  rw [List.mem_eraseDups, List.mem_mergeSort]

/-- Texts are listed in strictly increasing order. -/
theorem pairwise_distinct (names : List String) : (distinct names).Pairwise (· < ·) := by
  refine (pairwise_eraseDups_mergeSort ?_ ?_ names).imp fun {a b} ⟨hle, hne⟩ => ?_
  · intro a b c hab hbc
    exact decide_eq_true (String.le_trans (of_decide_eq_true hab) (of_decide_eq_true hbc))
  · intro a b
    rw [Bool.or_eq_true, decide_eq_true_iff, decide_eq_true_iff]
    exact String.le_total a b
  · refine Decidable.byContradiction fun hlt => hne ?_
    exact String.le_antisymm (of_decide_eq_true hle) (String.not_lt.1 hlt)

/-- Texts that stand in strictly increasing order are listed as they are. -/
theorem distinct_eq {names ordered : List String} (hordered : ordered.Pairwise (· < ·))
    (hall : ∀ name ∈ names, name ∈ ordered) (honly : ∀ name ∈ ordered, name ∈ names) : distinct names = ordered := by
  have hnodup : ∀ l : List String, l.Pairwise (· < ·) → l.Nodup := by
    intro l hl
    refine List.Pairwise.imp (fun {a b} (hlt : a < b) => ?_) hl
    exact fun (heq : a = b) => String.lt_irrefl b (heq ▸ hlt)
  have hlisted := pairwise_distinct names
  have hperm : (distinct names).Perm ordered := by
    refine (List.perm_ext_iff_of_nodup (hnodup _ hlisted) (hnodup _ hordered)).2 fun name => ?_
    rw [mem_distinct]
    exact ⟨hall name, honly name⟩
  exact hperm.eq_of_pairwise (fun _ _ _ _ hab hba => absurd hba (String.lt_asymm hab)) hlisted hordered

end SpendLedger
