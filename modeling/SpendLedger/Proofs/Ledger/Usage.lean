import Mathlib.Tactic.Linarith
import SpendLedger.Proofs.Config.FreeTierFile
import SpendLedger.Proofs.Number.Parts

/-!
# Where usages stand

The status of a usage is told from its share of the limit, by cases of which the first that fits decides. Over exact numbers this
is one order: with a growing usage the status goes from free to warning and on to overage, and never back, whatever the threshold
of the warning is. What makes a share grow with the usage is that a limit that was loaded is above zero.
-/

namespace SpendLedger

/-! ## Exact readings -/

/-- A limit whose amounts are read otherwise. -/
def ServiceLimit.map {α β : Type} (f : α → β) (l : ServiceLimit α) : ServiceLimit β :=
  { l with limit := f l.limit, warningThreshold := f l.warningThreshold }

/-- A budget whose amount is read otherwise. -/
def BudgetPreset.map {α β : Type} (f : α → β) (b : BudgetPreset α) : BudgetPreset β :=
  { b with amount := f b.amount }

/-- Limits and budgets whose amounts are read otherwise. -/
def FreeTier.map {α β : Type} (f : α → β) (tier : FreeTier α) : FreeTier β where
  services := tier.services.map (ServiceLimit.map f)
  budgets := tier.budgets.map (BudgetPreset.map f)

/-- Which limit a service falls under does not depend on the amounts. -/
theorem FreeTier.limitFor?_map {α β : Type} [Amount α] [Amount β] (f : α → β) (tier : FreeTier α) (service : String) :
    (tier.map f).limitFor? service = (tier.limitFor? service).map (ServiceLimit.map f) := by
  have hget : (tier.map f).services.get? = fun key => (tier.services.get? key).map (ServiceLimit.map f) :=
    funext fun key => Table.get?_map _ _ key
  unfold limitFor?
  rw [hget, Option.map_or, Option.map_bind]
  rfl

/-- A limit that a service falls under is one of the table. -/
theorem FreeTier.mem_of_limitFor? {α : Type} [Amount α] {tier : FreeTier α} {service : String} {limit : ServiceLimit α}
    (h : tier.limitFor? service = some limit) : ∃ key, (key, limit) ∈ tier.services.entries := by
  rcases Option.or_eq_some_iff.1 h with hname | ⟨_, hkey⟩
  · exact ⟨service, Table.mem_entries_iff.2 hname⟩
  · obtain ⟨key, _, hget⟩ := Option.bind_eq_some_iff.1 hkey
    exact ⟨key, Table.mem_entries_iff.2 hget⟩

/-! ## Statuses -/

/-- How far a usage has gone with its status, if its limit is known. -/
def UsageStatus.severity : UsageStatus → Nat
  | free | unknown => 0
  | warning => 1
  | overage => 2

namespace ServiceLimit

section

variable (l : ServiceLimit Rat) (share : Rat)

/-- All that a status can be, and when. -/
theorem statusAt_cases :
    1 ≤ share ∧ l.statusAt share = .overage ∨
      share < 1 ∧ (0 < l.warningThreshold ∧ l.warningThreshold ≤ share) ∧ l.statusAt share = .warning ∨
      share < 1 ∧ ¬(0 < l.warningThreshold ∧ l.warningThreshold ≤ share) ∧ l.statusAt share = .free := by
  have hover : Amount.le (Amount.ofNat 1) share = true ↔ 1 ≤ share := by
    show decide (((1 : Nat) : Rat) ≤ share) = true ↔ _
    rw [decide_eq_true_iff, Nat.cast_one]
  have hwarn : (Amount.lt Amount.zero l.warningThreshold && Amount.le l.warningThreshold share) = true ↔
      0 < l.warningThreshold ∧ l.warningThreshold ≤ share := by
    show (decide (((0 : Nat) : Rat) < l.warningThreshold) && decide (l.warningThreshold ≤ share)) = true ↔ _
    rw [Bool.and_eq_true, decide_eq_true_iff, decide_eq_true_iff, Nat.cast_zero]
  unfold statusAt
  by_cases hone : 1 ≤ share
  · exact Or.inl ⟨hone, if_pos (hover.2 hone)⟩
  · refine Or.inr ?_
    rw [if_neg (mt hover.1 hone)]
    by_cases hthreshold : 0 < l.warningThreshold ∧ l.warningThreshold ≤ share
    · exact Or.inl ⟨not_le.1 hone, hthreshold, if_pos (hwarn.2 hthreshold)⟩
    · exact Or.inr ⟨not_le.1 hone, hthreshold, if_neg (mt hwarn.1 hthreshold)⟩

/-- With a limit the status is known. -/
theorem statusAt_ne_unknown : l.statusAt share ≠ .unknown := by
  rcases l.statusAt_cases share with ⟨_, h⟩ | ⟨_, _, h⟩ | ⟨_, _, h⟩ <;> rw [h] <;> exact nofun

/-- A usage is over the limit from the whole limit on. -/
theorem statusAt_eq_overage_iff : l.statusAt share = .overage ↔ 1 ≤ share := by
  rcases l.statusAt_cases share with ⟨hshare, h⟩ | ⟨hshare, _, h⟩ | ⟨hshare, _, h⟩
  · exact iff_of_true h hshare
  · exact iff_of_false (by rw [h]; exact nofun) (not_le.2 hshare)
  · exact iff_of_false (by rw [h]; exact nofun) (not_le.2 hshare)

/-- A usage is worth a warning from the threshold on, if that is above zero, until the limit is reached. -/
theorem statusAt_eq_warning_iff :
    l.statusAt share = .warning ↔ 0 < l.warningThreshold ∧ l.warningThreshold ≤ share ∧ share < 1 := by
  rcases l.statusAt_cases share with ⟨hshare, h⟩ | ⟨hshare, hthreshold, h⟩ | ⟨hshare, hthreshold, h⟩
  · exact iff_of_false (by rw [h]; exact nofun) fun hwarn => not_le.2 hwarn.2.2 hshare
  · exact iff_of_true h ⟨hthreshold.1, hthreshold.2, hshare⟩
  · exact iff_of_false (by rw [h]; exact nofun) fun hwarn => hthreshold ⟨hwarn.1, hwarn.2.1⟩

/-- The status of a larger share has gone at least as far. -/
theorem severity_statusAt_le {share share' : Rat} (h : share ≤ share') :
    (l.statusAt share).severity ≤ (l.statusAt share').severity := by
  rcases l.statusAt_cases share' with ⟨_, hstatus'⟩ | ⟨hshare', hthreshold', hstatus'⟩ | ⟨hshare', hthreshold', hstatus'⟩
  · rw [hstatus']
    cases l.statusAt share <;> decide
  · rw [hstatus']
    have hnot : l.statusAt share ≠ .overage :=
      mt (l.statusAt_eq_overage_iff share).1 (not_le.2 (lt_of_le_of_lt h hshare'))
    cases hstatus : l.statusAt share with
    | overage => exact absurd hstatus hnot
    | free | warning | unknown => decide
  · -- below the threshold a smaller share is below it too
    rcases l.statusAt_cases share with ⟨hshare, _⟩ | ⟨_, hthreshold, _⟩ | ⟨_, _, hstatus⟩
    · exact absurd (le_trans hshare h) (not_le.2 hshare')
    · exact absurd ⟨hthreshold.1, le_trans hthreshold.2 h⟩ hthreshold'
    · rw [hstatus]
      exact Nat.zero_le _

end

/-- A threshold that is infinite or no number never warns: it is not above zero, or no usage reaches it inside the limit. -/
theorem statusAt_ne_warning {l : ServiceLimit Float} (h : l.warningThreshold.isFinite = false) (share : Float) :
    l.statusAt share ≠ .warning := by
  have hinfinite : l.warningThreshold.toModel.unpack.isFinite = false := h
  intro hwarn
  unfold statusAt at hwarn
  split at hwarn
  · cases hwarn
  · next hover =>
    split at hwarn
    · next hthreshold =>
      obtain ⟨habove, hreached⟩ := Bool.and_eq_true_iff.1 hthreshold
      have habove : Float.Model.UnpackedFloat.lt (.zero .positive) l.warningThreshold.toModel.unpack = true :=
        (Bool.decide_coe _).symm.trans habove
      have hreached : Float.Model.UnpackedFloat.le l.warningThreshold.toModel.unpack share.toModel.unpack = true :=
        (Bool.decide_coe _).symm.trans hreached
      have hover : ¬Float.Model.UnpackedFloat.le (Float.ofNat 1).toModel.unpack share.toModel.unpack = true :=
        fun hle => hover ((Bool.decide_coe _).trans hle)
      generalize l.warningThreshold.toModel.unpack = u at hinfinite habove hreached
      generalize share.toModel.unpack = v at hreached hover
      cases u with
      | notANumber => cases habove
      | zero s | finite s m e hm => cases hinfinite
      | infinity s =>
        cases s with
        | negative => cases habove
        | positive =>
          cases v with
          | notANumber | zero t | finite t m e hm => cases hreached
          | infinity t =>
            cases t with
            | negative => cases hreached
            | positive => exact hover (by decide +kernel)
    · cases hwarn

end ServiceLimit

/-! ## Usages -/

namespace ServiceUsage

variable (service : String) (l : ServiceLimit Rat)

/-- A usage beside a limit has a percentage, and its status is told from that. -/
theorem of_some_exact (used : Rat) : ∃ percent,
    (of service used (some l)).percentUsed = some percent ∧ percent = used / l.limit * 100 ∧
      (of service used (some l)).status ≠ .unknown ∧ ((of service used (some l)).status = .overage ↔ 100 ≤ percent) ∧
      ((of service used (some l)).status = .warning ↔
        0 < l.warningThreshold ∧ 100 * l.warningThreshold ≤ percent ∧ percent < 100) := by
  have hstatus : (of service used (some l)).status = l.statusAt (used / l.limit) := rfl
  have hpercent : (of service used (some l)).percentUsed = some (used / l.limit * ((100 : Nat) : Rat)) := rfl
  rw [hstatus, l.statusAt_eq_overage_iff, l.statusAt_eq_warning_iff]
  generalize used / l.limit = share at hpercent ⊢
  refine ⟨share * 100, hpercent, rfl, l.statusAt_ne_unknown share, ?_, ?_⟩
  · constructor <;> intro h <;> linarith
  · refine and_congr_right fun _ => and_congr ?_ ?_
    · constructor <;> intro h <;> linarith
    · constructor <;> intro h <;> linarith

/-- The status of a larger usage of a limit above zero has gone at least as far. -/
theorem severity_of_some_le {l : ServiceLimit Rat} (hl : 0 < l.limit) {used used' : Rat} (h : used ≤ used') :
    (of service used (some l)).status.severity ≤ (of service used' (some l)).status.severity :=
  l.severity_statusAt_le (div_le_div_of_nonneg_right h hl.le)

end ServiceUsage

/-- A usage of a service, read exactly, beside the limits that hold. -/
def FreeTier.standing (tier : FreeTier Float) (service : String) (used : Rat) : ServiceUsage Rat :=
  ServiceUsage.of service used ((tier.map Binary64.exact).limitFor? service)

/-- Where usages of a service stand, read exactly, beside the limits and budgets that were loaded, whatever the thresholds of the
warnings are:
1. If the service falls under no limit, the status of every usage is unknown, without a percentage.
2. Else the limit is above zero, and every usage has a percentage of it and a status that is known: overage from one hundred
   percent on, and a warning below if there is a threshold above zero and it is reached.
3. As the usage grows, the status never goes back.
4. A threshold that is infinite or no number, which cannot be read exactly, does not warn of a usage in doubles either. -/
theorem usage_standing {path : String} {file : Option String} {tier : FreeTier Float}
    (hload : FreeTier.load path file = .ok tier) (service : String) :
    (tier.limitFor? service = none ∧
      ∀ used, (tier.standing service used).status = .unknown ∧ (tier.standing service used).percentUsed = none) ∨
    ∃ limit, tier.limitFor? service = some limit ∧ 0 < Binary64.exact limit.limit ∧
      (∀ used, ∃ percent, (tier.standing service used).percentUsed = some percent ∧
        percent = used / Binary64.exact limit.limit * 100 ∧ (tier.standing service used).status ≠ .unknown ∧
        ((tier.standing service used).status = .overage ↔ 100 ≤ percent) ∧
        ((tier.standing service used).status = .warning ↔ 0 < Binary64.exact limit.warningThreshold ∧
          100 * Binary64.exact limit.warningThreshold ≤ percent ∧ percent < 100)) ∧
      (∀ used used', used ≤ used' →
        (tier.standing service used).status.severity ≤ (tier.standing service used').status.severity) ∧
      (limit.warningThreshold.isFinite = false → ∀ share : Float, limit.statusAt share ≠ .warning) := by
  have hlimit : (tier.map Binary64.exact).limitFor? service =
      (tier.limitFor? service).map (ServiceLimit.map Binary64.exact) := tier.limitFor?_map _ service
  unfold FreeTier.standing
  rw [hlimit]
  cases hfound : tier.limitFor? service with
  | none => exact Or.inl ⟨rfl, fun used => ⟨rfl, rfl⟩⟩
  | some limit =>
    obtain ⟨key, hmem⟩ := FreeTier.mem_of_limitFor? hfound
    have hpositive : 0 < Binary64.exact limit.limit :=
      Binary64.exact_pos (Amount.isPositive_iff.2 ((FreeTier.isSound_of_load hload).limits (key, limit) hmem))
    exact Or.inr ⟨limit, rfl, hpositive, ServiceUsage.of_some_exact service (limit.map Binary64.exact),
      fun _ _ => ServiceUsage.severity_of_some_le service hpositive, ServiceLimit.statusAt_ne_warning⟩

/-- A file with one limit, of which a half is worth a warning. -/
def archiveLimit : String :=
  "[services.blob_storage]\ndescription = \"Archive\"\nlimit = 4\nunit = \"GB\"\nduration = \"always free\"\n" ++
    "warning_threshold = 0.5\n"

/-- The half of the limit is worth a warning, the whole limit is overage, and of other services nothing is known. -/
theorem usage_standing_archive : ∃ tier, FreeTier.load "limits.toml" (some archiveLimit) = .ok tier ∧
    (tier.standing "Cloud Storage" 2).status = .warning ∧ (tier.standing "Cloud Storage" 4).status = .overage ∧
    (tier.standing "Lambda" 1).status = .unknown := by
  have hlimits : (FreeTier.load "limits.toml" (some archiveLimit)).toOption.map
      (fun tier => (tier.limitFor? "Cloud Storage", tier.limitFor? "Lambda")) =
        some (some ⟨"Archive", 4, "GB", "always free", 0.5⟩, none) := by decide +kernel
  cases hload : FreeTier.load "limits.toml" (some archiveLimit) with
  | error e =>
    rw [hload] at hlimits
    cases hlimits
  | ok tier =>
    rw [hload] at hlimits
    obtain ⟨hstorage, hlambda⟩ := Prod.mk.inj (Option.some.inj hlimits)
    rcases usage_standing hload "Cloud Storage" with ⟨hnone, _⟩ | ⟨limit, hlimit, _, hknown, _⟩
    · rw [hstorage] at hnone
      cases hnone
    · cases hstorage.symm.trans hlimit
      have hexact : Binary64.exact 4 = 4 ∧ Binary64.exact 0.5 = 1 / 2 := by decide +kernel
      obtain ⟨half, _, hhalf, _, _, hwarning⟩ := hknown 2
      obtain ⟨whole, _, hwhole, _, hoverage, _⟩ := hknown 4
      simp only [hexact] at hhalf hwhole hwarning
      refine ⟨tier, rfl, hwarning.2 ⟨by norm_num, ?_, ?_⟩, hoverage.2 ?_, ?_⟩
      · rw [hhalf]
        norm_num
      · rw [hhalf]
        norm_num
      · rw [hwhole]
        norm_num
      · rcases usage_standing hload "Lambda" with ⟨_, hunknown⟩ | ⟨limit, hlimit, _⟩
        · exact (hunknown 1).1
        · rw [hlambda] at hlimit
          cases hlimit

end SpendLedger
