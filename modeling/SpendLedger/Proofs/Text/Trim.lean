import Mathlib.Data.List.DropRight
import SpendLedger.Text.Basic

/-!
# Texts without blanks around them

Trimming takes the blanks off both ends and nothing else: what is left neither begins nor ends with a blank, a text without
blanks around it stays as it is, and only a blank text has nothing left.
-/

namespace SpendLedger

namespace Text

/-- A text that neither begins nor ends with a blank. -/
def IsTrimmed (s : String) : Prop :=
  (∀ c ∈ s.toList.head?, isBlank c = false) ∧ ∀ c ∈ s.toList.getLast?, isBlank c = false

/-- Dropping blanks from the end is dropping them from the front of the characters in reverse. -/
theorem trimEnd_eq (cs : List Char) : trimEnd cs = cs.rdropWhile isBlank := rfl

theorem head?_trimStart (cs : List Char) : ∀ c ∈ (trimStart cs).head?, isBlank c = false := by
  intro c hc
  have h := List.head?_dropWhile_not isBlank cs
  rw [show (cs.dropWhile isBlank).head? = some c from hc] at h
  simpa using h

/-- Dropping blanks from the end keeps what the text begins with. -/
theorem trimEnd_prefix (cs : List Char) : trimEnd cs <+: cs :=
  List.rdropWhile_prefix isBlank cs

/-- What is left of a text neither begins nor ends with a blank. -/
theorem isTrimmed_trim (s : String) : IsTrimmed (trim s) := by
  unfold IsTrimmed trim
  rw [String.toList_ofList]
  constructor
  · intro c hc
    refine head?_trimStart s.toList c ?_
    obtain ⟨rest, hrest⟩ := trimEnd_prefix (trimStart s.toList)
    rw [← hrest, List.head?_append_of_ne_nil _ (List.ne_nil_of_mem (List.mem_of_mem_head? hc))]
    exact hc
  · intro c hc
    have hne := List.ne_nil_of_mem (List.mem_of_getLast? hc)
    have hlast := List.rdropWhile_last_not isBlank (trimStart s.toList) hne
    rw [List.getLast?_eq_some_getLast hne] at hc
    rw [← Option.some.inj hc]
    exact Bool.eq_false_iff.2 hlast

/-- A text that neither begins nor ends with a blank stays as it is. -/
theorem trim_of_isTrimmed {s : String} (h : IsTrimmed s) : trim s = s := by
  have hstart : trimStart s.toList = s.toList := by
    refine List.dropWhile_eq_self_iff.2 fun hl => ?_
    rw [h.1 _ (by rw [List.head?_eq_getElem?, List.getElem?_eq_getElem hl]; rfl)]
    decide
  have hend : trimEnd s.toList = s.toList := by
    refine List.rdropWhile_eq_self_iff.2 fun hl => ?_
    rw [h.2 _ (List.getLast?_eq_some_getLast hl)]
    decide
  rw [trim, hstart, hend, String.ofList_toList]

@[simp] theorem trim_trim (s : String) : trim (trim s) = trim s :=
  trim_of_isTrimmed (isTrimmed_trim s)

/-- Nothing is left exactly of a text that has nothing but blanks. -/
theorem trim_eq_empty_iff {s : String} : trim s = "" ↔ isBlankText s = true := by
  rw [trim, ← String.toList_inj, String.toList_ofList, trimEnd_eq, String.toList_empty, List.rdropWhile_eq_nil_iff,
    isBlankText, List.all_eq_true]
  constructor
  · intro h
    -- were there a character left after the blanks at the front, it would be both blank and not
    have hnone : trimStart s.toList = [] := by
      cases hstart : trimStart s.toList with
      | nil => rfl
      | cons c cs =>
        have hblank := h c (hstart ▸ List.mem_cons_self)
        rw [head?_trimStart s.toList c (by rw [hstart]; rfl)] at hblank
        cases hblank
    exact List.dropWhile_eq_nil_iff.1 hnone
  · intro h c hc
    exact h c ((List.dropWhile_suffix isBlank).subset hc)

end Text

end SpendLedger
