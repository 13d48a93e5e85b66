import SpendLedger.Proofs.Text.Trim

/-!
# Trimming and the case of letters

Small letters and capitals are blank alike, so that a trimmed text stays trimmed in either case, and a text that was trimmed
and brought into one case stays as it is when this is done again.
-/

namespace SpendLedger

namespace Text

/-! ## Letters -/

/-- Only capitals are made small, by going on thirty-two places. -/
theorem toNat_toLower (c : Char) :
    c.toLower.toNat = if 65 ≤ c.toNat ∧ c.toNat ≤ 90 then c.toNat + 32 else c.toNat := by
  delta Char.toLower
  simp only [ge_iff_le, UInt32.le_iff_toNat_le, Char.toNat_val, Char.reduceVal, UInt32.reduceToNat]
  split
  · have hval : c.val.toNat = c.toNat := Char.toNat_val
    simp only [← Char.toNat_val, UInt32.toNat_add, UInt32.reduceSub, UInt32.reduceToNat]
    omega
  · rfl

/-- Only small letters are made capitals, by going back thirty-two places. -/
theorem toNat_toUpper (c : Char) :
    c.toUpper.toNat = if 97 ≤ c.toNat ∧ c.toNat ≤ 122 then c.toNat - 32 else c.toNat := by
  delta Char.toUpper
  simp only [UInt32.le_iff_toNat_le, Char.toNat_val, Char.reduceVal, UInt32.reduceToNat]
  split
  · have hval : c.val.toNat = c.toNat := Char.toNat_val
    simp only [← Char.toNat_val, UInt32.toNat_add, UInt32.reduceSub, UInt32.reduceToNat]
    omega
  · rfl

theorem toLower_toLower (c : Char) : c.toLower.toLower = c.toLower := by
  rw [← Char.toNat_inj, toNat_toLower, toNat_toLower]
  grind

theorem toUpper_toUpper (c : Char) : c.toUpper.toUpper = c.toUpper := by
  rw [← Char.toNat_inj, toNat_toUpper, toNat_toUpper]
  grind

/-- A small letter is blank where its capital is: no letter is blank. -/
theorem isBlank_toLower (c : Char) : isBlank c.toLower = isBlank c := by
  rw [Bool.eq_iff_iff]
  simp only [isBlank, toNat_toLower, Bool.or_eq_true, Bool.and_eq_true, decide_eq_true_eq, beq_iff_eq]
  split <;> omega

/-- A capital is blank where its small letter is: no letter is blank. -/
theorem isBlank_toUpper (c : Char) : isBlank c.toUpper = isBlank c := by
  rw [Bool.eq_iff_iff]
  simp only [isBlank, toNat_toUpper, Bool.or_eq_true, Bool.and_eq_true, decide_eq_true_eq, beq_iff_eq]
  split <;> omega

/-! ## Texts -/

variable {f : Char → Char}

/-- A trimmed text stays trimmed when its characters are replaced by others that are blank where they were. -/
theorem isTrimmed_map (hf : ∀ c, isBlank (f c) = isBlank c) {s : String} (h : IsTrimmed s) :
    IsTrimmed (String.ofList (s.toList.map f)) := by
  unfold IsTrimmed
  rw [String.toList_ofList, List.head?_map, List.getLast?_map]
  constructor
  · intro c hc
    obtain ⟨d, hd, rfl⟩ := Option.map_eq_some_iff.1 hc
    rw [hf]
    exact h.1 d hd
  · intro c hc
    obtain ⟨d, hd, rfl⟩ := Option.map_eq_some_iff.1 hc
    rw [hf]
    exact h.2 d hd

/-- Trimming and replacing characters once is enough. -/
theorem map_trim_map_trim (hf : ∀ c, isBlank (f c) = isBlank c) (hagain : ∀ c, f (f c) = f c) (s : String) :
    String.ofList ((trim (String.ofList ((trim s).toList.map f))).toList.map f) =
      String.ofList ((trim s).toList.map f) := by
  rw [trim_of_isTrimmed (isTrimmed_map hf (isTrimmed_trim s)), String.toList_ofList, List.map_map]
  congr 1
  exact List.map_congr_left fun c _ => hagain c

/-- Trimming and making small once is enough. -/
@[simp] theorem lower_trim_lower_trim (s : String) : lower (trim (lower (trim s))) = lower (trim s) :=
  map_trim_map_trim isBlank_toLower toLower_toLower s

/-- Trimming and making capital once is enough. -/
@[simp] theorem upper_trim_upper_trim (s : String) : upper (trim (upper (trim s))) = upper (trim s) :=
  map_trim_map_trim isBlank_toUpper toUpper_toUpper s

/-- A text that trimming and making small leave as it is: there are no blanks around it and no capitals in it. -/
def IsFolded (s : String) : Prop :=
  IsTrimmed s ∧ ∀ c ∈ s.toList, ¬('A' ≤ c ∧ c ≤ 'Z')

/-- Exactly capitals are changed when they are made small. -/
theorem toLower_eq_self_iff {c : Char} : c.toLower = c ↔ ¬('A' ≤ c ∧ c ≤ 'Z') := by
  have hcapital : ('A' ≤ c ∧ c ≤ 'Z') ↔ 65 ≤ c.toNat ∧ c.toNat ≤ 90 := Iff.rfl
  rw [← Char.toNat_inj, toNat_toLower, hcapital]
  split <;> omega

/-- Exactly these texts stay as they are. -/
theorem lower_trim_eq_self_iff {s : String} : lower (trim s) = s ↔ IsFolded s := by
  constructor
  · intro h
    have htrimmed : IsTrimmed s := h ▸ isTrimmed_map isBlank_toLower (isTrimmed_trim s)
    refine ⟨htrimmed, fun c hc => toLower_eq_self_iff.1 ?_⟩
    rw [trim_of_isTrimmed htrimmed, lower, ← String.toList_inj, String.toList_ofList] at h
    exact List.map_inj_left.1 (h.trans (List.map_id s.toList).symm) c hc
  · rintro ⟨htrimmed, hsmall⟩
    rw [trim_of_isTrimmed htrimmed, lower, ← String.toList_inj, String.toList_ofList]
    exact (List.map_congr_left fun c hc => toLower_eq_self_iff.2 (hsmall c hc)).trans (List.map_id _)

end Text

end SpendLedger
