import SpendLedger.Print.Ledger
import SpendLedger.Proofs.Csv.Cells

/-!
# Printed rows

Summaries, reports, alerts, evaluations and usages, printed as rows of values. Names of services, groups and alerts, the
accounts of alerts and the currencies of months stand as fields and are read back whatever characters they have. The
currency of a summary, the unit of a usage and the months of a report stand as they are: their rows are read back exactly
when these texts are plain.
-/

namespace SpendLedger

namespace Print

open Csv

/-- The cells of one dimension of a summary. -/
def dimensionCells (dimension currency : String) (t : Table Float) : List (List Cell) :=
  t.entries.map fun e => [.raw dimension, .guarded e.1, .raw (amount e.2), .raw currency]

/-- The cells of a summary. -/
def summaryCells (s : Summary Float) : List (List Cell) :=
  dimensionCells "service" s.currency s.byService ++ dimensionCells "resource_group" s.currency s.byGroup

/-- The cells of a report. -/
def reportCells (r : Report Float) : List (List Cell) :=
  r.monthly.map fun m => [.raw m.month, .raw (amount m.total), .guarded m.currency]

/-- The cells of alerts. -/
def alertCells (as : List (Alert Float)) : List (List Cell) :=
  as.map fun a => [.guarded a.name, .raw (amount a.threshold), .guarded a.account, .raw (truth a.enabled)]

/-- The cells of an evaluation. -/
def evaluationCells (e : Evaluation Float) : List (List Cell) :=
  e.statuses.map fun s =>
    [.guarded s.name, .raw (amount s.threshold), .raw (Decimal.fixed 1 s.percent), .raw (truth s.triggered)]

/-- The percentage of a usage. -/
def percentText (u : ServiceUsage Float) : String := (u.percentUsed.map (Decimal.fixed 1)).getD ""

/-- The cells of a usage. -/
def usageCells (u : ServiceUsage Float) : List (List Cell) :=
  [[.guarded u.service, .raw (Decimal.plain u.used), .raw (Decimal.plain u.limit), .raw u.unit, .raw u.status.name,
    .raw (percentText u)]]

theorem isField_guarded (s : String) : (Cell.guarded s).IsField := rfl

theorem isField_raw {s : String} (h : IsPlain s) : (Cell.raw s).IsField :=
  Cell.isField_raw_iff.2 h

theorem isPlain_truth (b : Bool) : IsPlain (truth b) := by
  cases b <;> decide

theorem isPlain_status (s : UsageStatus) : IsPlain s.name := by
  cases s <;> decide

/-- A percentage is plain, given or not. -/
theorem isPlain_percentText (u : ServiceUsage Float) : IsPlain (percentText u) := by
  unfold percentText
  cases u.percentUsed with
  | none => decide
  | some x => exact isPlain_fixed 1 x

/-! ## Which cells stand in the way -/

/-- In a dimension of a summary only the currency can stand in the way. -/
theorem isField_dimensionCells_iff {dimension : String} (hdimension : IsPlain dimension) (currency : String)
    (t : Table Float) : (∀ cells ∈ dimensionCells dimension currency t, ∀ cell ∈ cells, cell.IsField) ↔
      (t.entries = [] ∨ IsPlain currency) := by
  have hcells (e : String × Float) :
      (∀ cell ∈ [Cell.raw dimension, .guarded e.1, .raw (amount e.2), .raw currency], cell.IsField) ↔
        IsPlain currency := by
    simp [isField_raw hdimension, isField_guarded, isField_raw (isPlain_fixed 2 e.2), amount, Cell.isField_raw_iff]
  unfold dimensionCells
  rw [List.forall_mem_map]
  simp only [hcells]
  cases t.entries with
  | nil => simp
  | cons e entries => exact ⟨fun h => Or.inr (h e List.mem_cons_self), fun h _ _ => h.resolve_left (List.cons_ne_nil _ _)⟩

/-- In a summary only the currency can stand in the way. -/
theorem isField_summaryCells_iff (s : Summary Float) : (∀ cells ∈ summaryCells s, ∀ cell ∈ cells, cell.IsField) ↔
    (s.byService.entries = [] ∧ s.byGroup.entries = []) ∨ IsPlain s.currency := by
  unfold summaryCells
  rw [List.forall_mem_append, isField_dimensionCells_iff (by decide), isField_dimensionCells_iff (by decide)]
  exact and_or_right.symm

/-- In a report only the months can stand in the way. -/
theorem isField_reportCells_iff (r : Report Float) : (∀ cells ∈ reportCells r, ∀ cell ∈ cells, cell.IsField) ↔
    ∀ m ∈ r.monthly, IsPlain m.month := by
  unfold reportCells
  rw [List.forall_mem_map]
  refine forall₂_congr fun m _ => ?_
  simp [isField_guarded, isField_raw (isPlain_fixed 2 m.total), amount, Cell.isField_raw_iff]

/-- Nothing of alerts stands in the way. -/
theorem isField_alertCells (as : List (Alert Float)) : ∀ cells ∈ alertCells as, ∀ cell ∈ cells, cell.IsField := by
  unfold alertCells
  rw [List.forall_mem_map]
  intro a _
  simp [isField_guarded, isField_raw (isPlain_fixed 2 a.threshold), isField_raw (isPlain_truth a.enabled), amount]

/-- Nothing of an evaluation stands in the way. -/
theorem isField_evaluationCells (e : Evaluation Float) :
    ∀ cells ∈ evaluationCells e, ∀ cell ∈ cells, cell.IsField := by
  unfold evaluationCells
  rw [List.forall_mem_map]
  intro s _
  simp [isField_guarded, isField_raw (isPlain_fixed 2 s.threshold), isField_raw (isPlain_fixed 1 s.percent),
    isField_raw (isPlain_truth s.triggered), amount]

/-- In a usage only the unit can stand in the way. -/
theorem isField_usageCells_iff (u : ServiceUsage Float) : (∀ cells ∈ usageCells u, ∀ cell ∈ cells, cell.IsField) ↔
    IsPlain u.unit := by
  simp [usageCells, isField_guarded, isField_raw (isPlain_plain u.used), isField_raw (isPlain_plain u.limit),
    isField_raw (isPlain_status u.status), isField_raw (isPlain_percentText u), Cell.isField_raw_iff]

/-! ## What is read -/

/-- What is read of the five values that are printed as rows without being records. Under its row of names each text has
one row for each item, with as many fields: names of services, groups and alerts, accounts and the currencies of months are
read as they are, whatever characters they have. A summary is read so exactly when it has no rows or its currency is plain,
a report exactly when its months are plain, and a usage exactly when its unit is plain. -/
theorem read?_derived_iff (s : Summary Float) (r : Report Float) (as : List (Alert Float)) (e : Evaluation Float)
    (u : ServiceUsage Float) :
    (Csv.read? (summary s .csv) =
        some (["dimension", "name", "cost", "currency"] ::
          (s.byService.entries.map (fun e => ["service", e.1, amount e.2, s.currency]) ++
            s.byGroup.entries.map fun e => ["resource_group", e.1, amount e.2, s.currency])) ↔
      (s.byService.entries = [] ∧ s.byGroup.entries = []) ∨ IsPlain s.currency) ∧
    (Csv.read? (report r .csv) =
        some (["month", "total_cost", "currency"] :: r.monthly.map fun m => [m.month, amount m.total, m.currency]) ↔
      ∀ m ∈ r.monthly, IsPlain m.month) ∧
    Csv.read? (alerts as .csv) =
      some (["name", "threshold", "account_id", "enabled"] ::
        as.map fun a => [a.name, amount a.threshold, a.account, truth a.enabled]) ∧
    Csv.read? (evaluation e .csv) =
      some (["name", "threshold", "percent", "triggered"] ::
        e.statuses.map fun s => [s.name, amount s.threshold, Decimal.fixed 1 s.percent, truth s.triggered]) ∧
    (Csv.read? (usage u .csv) =
        some [["service", "used", "limit", "unit", "status", "percent_used"],
          [u.service, Decimal.plain u.used, Decimal.plain u.limit, u.unit, u.status.name,
            (u.percentUsed.map (Decimal.fixed 1)).getD ""]] ↔
      IsPlain u.unit) := by
  have hnonempty {β : Type} {l : List β} {f : β → List Cell} (hf : ∀ x, f x ≠ []) : ∀ cells ∈ l.map f, cells ≠ [] :=
    List.forall_mem_map.2 fun x _ => hf x
  refine ⟨?_, ?_, ?_, ?_, ?_⟩
  · have htable : ∀ cells ∈ summaryCells s, cells ≠ [] :=
      List.forall_mem_append.2 ⟨hnonempty fun _ => List.cons_ne_nil _ _, hnonempty fun _ => List.cons_ne_nil _ _⟩
    have hread := read?_rows_iff ["dimension", "name", "cost", "currency"] (by decide) (by decide) _ htable
    rw [isField_summaryCells_iff] at hread
    simpa [summaryCells, dimensionCells, summary, dimensionRows, Cell.guarded, Cell.raw, Function.comp_def] using hread
  · have hread := read?_rows_iff ["month", "total_cost", "currency"] (by decide) (by decide) (reportCells r)
      (hnonempty fun _ => List.cons_ne_nil _ _)
    rw [isField_reportCells_iff] at hread
    simpa [reportCells, report, Cell.guarded, Cell.raw, Function.comp_def] using hread
  · have hread := (read?_rows_iff ["name", "threshold", "account_id", "enabled"] (by decide) (by decide) (alertCells as)
      (hnonempty fun _ => List.cons_ne_nil _ _)).2 (isField_alertCells as)
    simpa [alertCells, alerts, Cell.guarded, Cell.raw, Function.comp_def] using hread
  · have hread := (read?_rows_iff ["name", "threshold", "percent", "triggered"] (by decide) (by decide) (evaluationCells e)
      (hnonempty fun _ => List.cons_ne_nil _ _)).2 (isField_evaluationCells e)
    simpa [evaluationCells, evaluation, Cell.guarded, Cell.raw, Function.comp_def] using hread
  · have hread := read?_rows_iff ["service", "used", "limit", "unit", "status", "percent_used"] (by decide) (by decide)
      (usageCells u) (by simp [usageCells])
    rw [isField_usageCells_iff] at hread
    simpa [usageCells, usage, percentText, Cell.guarded, Cell.raw] using hread

/-- A summary in a currency with a comma in it. -/
def commaSummary : Summary Float where
  period := "2024-01-01 to today"
  total := Float.ofScientific 15 true 1
  currency := "US,D"
  byService := Table.ofList [("Storage", Float.ofScientific 15 true 1)]
  byGroup := Table.empty
  forecast := none
  monthly := none
  trend := none

/-- A usage in a unit with a comma in it. -/
def commaUsage : ServiceUsage Float :=
  .of "Storage" (Float.ofNat 3) (some
    { description := "Hot storage", limit := Float.ofNat 4, unit := "GB,month", duration := "always free"
      warningThreshold := Float.ofNat 0 })

/-- Texts that stand as they are can break their rows: a comma in the currency of a summary or in the unit of a usage makes a
row with one field more than there are names above it, and neither text is read back. -/
theorem read?_derived_false :
    Csv.read? (summary commaSummary .csv) =
        some [["dimension", "name", "cost", "currency"], ["service", "Storage", "1.50", "US", "D"]] ∧
      Csv.read? (usage commaUsage .csv) =
        some [["service", "used", "limit", "unit", "status", "percent_used"],
          ["Storage", "3", "4", "GB", "month", "free", "75.0"]] := by
  decide +kernel

end Print

end SpendLedger
