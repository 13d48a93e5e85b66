import SpendLedger.Form.Ledger
import SpendLedger.Json.Writer
import SpendLedger.Proofs.Calendar.RoundTrip
import SpendLedger.Proofs.Form.Shape
import SpendLedger.Proofs.Table

/-!
# Values read back

Every value of the ledger that has a form is read back from its document as it was, and from every document that says the same:
with more names at any depth, and with null for a part that is missing or the other way round. A JSON document holds null for a
number that is not finite, so that there all numbers have to be finite.
-/

namespace SpendLedger

open Shape

/-! ## Rows and tables -/

namespace Tree

variable {β : Type} {read : Tree → Option β} {write : β → Tree}

theorem listOf?_map (h : ∀ v, read (write v) = some v) (vs : List β) : listOf? read (.list (vs.map write)) = some vs := by
  show (vs.map write).mapM read = some vs
  induction vs with
  | nil => rfl
  | cons v later ih =>
    rw [List.map_cons, List.mapM_cons, h, ih]
    rfl

/-- A table of values that are read back is read back. -/
theorem tableOf?_ofTable (h : ∀ v, read (write v) = some v) (t : Table β) :
    tableOf? read (ofTable write t) = some t := by
  have hentries : ∀ entries : List (String × β),
      ((entries.map fun e => (e.1, write e.2)).mapM fun e => (read e.2).map fun v => (e.1, v)) = some entries := by
    intro entries
    induction entries with
    | nil => rfl
    | cons e later ih =>
      rw [List.map_cons, List.mapM_cons, h, ih]
      rfl
  show (((t.entries.map fun e => (e.1, write e.2)).mapM fun e => (read e.2).map fun v => (e.1, v)).map Table.ofList) = _
  rw [hentries, Option.map_some, Table.ofList_entries]

end Tree

/-- A part that is written and read back is there. -/
theorem Parts.nullable_write {β : Type} {read : Tree → Option β} {write : β → Tree}
    (h : ∀ v, read (write v) = some v) (hnull : ∀ v, write v ≠ .null) (v : β) : nullable read (write v) = some (some v) := by
  rw [nullable_of_ne_null (hnull v), h, Option.map_some]

/-! ## The types -/

-- a document that was written gives its parts by looking them up
attribute [local simp] Parts.of? Parts.required Parts.orElse Parts.optional Parts.find? Parts.nullable Tree.field?
  Tree.ofOption Tree.text? Tree.number? Tree.bool?

theorem Date.ofTree?_toTree (d : Date) : ofTree? d.toTree = some d :=
  congrArg Except.toOption (readLoose_toText d)

theorem Tree.word64?_integer {n : Int} (hn : Word.holdsSigned 64 n = true) : word64? (.integer n) = some n :=
  if_pos hn

namespace CostRecord

/-- The parts of a cost record. -/
def shape : Shape :=
  .record [("id", true, .plain), ("account_id", false, .plain), ("resource_group", true, .plain),
    ("service_name", false, .plain), ("cost", false, .plain), ("currency", false, .plain), ("date", false, .plain)]

/-- A cost record is read alike from documents that say the same. -/
theorem respects_shape : Respects shape ofTree? := by
  refine respects_record fun p p' h => ?_
  rw [h.orElse_nullable "id" rfl (respects_plain _), h.required "account_id" rfl (respects_plain _),
    h.optional "resource_group" rfl (respects_plain _), h.required "service_name" rfl (respects_plain _),
    h.required "cost" rfl (respects_plain _), h.required "currency" rfl (respects_plain _),
    h.required "date" rfl (respects_plain _)]

/-- A cost record is read back if its number fits into a word. -/
theorem ofTree?_toTree {r : CostRecord Float} (hid : ∀ n ∈ r.id, Word.holdsSigned 64 n = true) :
    ofTree? r.toTree = some r := by
  obtain ⟨id, account, group, service, cost, currency, date⟩ := r
  cases id with
  | none => cases group <;> simp [ofTree?, toTree, Date.ofTree?_toTree]
  | some n => cases group <;> simp [ofTree?, toTree, Date.ofTree?_toTree, Tree.word64?_integer (hid n rfl)]

end CostRecord

namespace MonthTotal

/-- The parts of a month's sum. -/
def shape : Shape :=
  .record [("month", false, .plain), ("total_cost", false, .plain), ("currency", false, .plain)]

/-- A month's sum is read alike from documents that say the same. -/
theorem respects_shape : Respects shape ofTree? := by
  refine respects_record fun p p' h => ?_
  rw [h.required "month" rfl (respects_plain _), h.required "total_cost" rfl (respects_plain _),
    h.required "currency" rfl (respects_plain _)]

theorem ofTree?_toTree (m : MonthTotal Float) : ofTree? m.toTree = some m := by
  simp [ofTree?, toTree]

end MonthTotal

theorem Confidence.ofTree?_toTree (c : Confidence) : ofTree? c.toTree = some c := by
  cases c <;> rfl

namespace Forecast

/-- The parts of a forecast. -/
def shape : Shape :=
  .record [("next_month", false, .plain), ("confidence", false, .plain)]

theorem respects_shape : Respects shape ofTree? := by
  refine respects_record fun p p' h => ?_
  rw [h.required "next_month" rfl (respects_plain _), h.required "confidence" rfl (respects_plain _)]

theorem ofTree?_toTree (f : Forecast Float) : ofTree? f.toTree = some f := by
  simp [ofTree?, toTree, Confidence.ofTree?_toTree]

end Forecast

theorem Trend.ofTree?_toTree (t : Trend) : ofTree? t.toTree = some t := by
  cases t <;> rfl

namespace TrendAnalysis

/-- The parts of a trend analysis. -/
def shape : Shape :=
  .record [("current_month", false, .plain), ("previous_month", false, .plain), ("change_percent", false, .plain),
    ("trend", false, .plain), ("average_monthly", false, .plain), ("projection", false, .plain)]

theorem respects_shape : Respects shape ofTree? := by
  refine respects_record fun p p' h => ?_
  rw [h.required "current_month" rfl (respects_plain _), h.required "previous_month" rfl (respects_plain _),
    h.required "change_percent" rfl (respects_plain _), h.required "trend" rfl (respects_plain _),
    h.required "average_monthly" rfl (respects_plain _), h.required "projection" rfl (respects_plain _)]

theorem ofTree?_toTree (a : TrendAnalysis Float) : ofTree? a.toTree = some a := by
  simp [ofTree?, toTree, Trend.ofTree?_toTree]

end TrendAnalysis

namespace Summary

/-- The parts of a summary. -/
def shape : Shape :=
  .record [("period", false, .plain), ("total_cost", false, .plain), ("currency", false, .plain),
    ("by_service", false, .table .plain), ("by_resource_group", false, .table .plain),
    ("forecast", true, Forecast.shape), ("monthly_breakdown", true, .row MonthTotal.shape),
    ("trend", true, TrendAnalysis.shape)]

/-- A summary is read alike from documents that say the same. -/
theorem respects_shape : Respects shape ofTree? := by
  refine respects_record fun p p' h => ?_
  rw [h.required "period" rfl (respects_plain _), h.required "total_cost" rfl (respects_plain _),
    h.required "currency" rfl (respects_plain _), h.required "by_service" rfl (respects_plain _).tableOf?,
    h.required "by_resource_group" rfl (respects_plain _).tableOf?,
    h.orElse_nullable "forecast" rfl Forecast.respects_shape,
    h.orElse_nullable "monthly_breakdown" rfl MonthTotal.respects_shape.listOf?,
    h.orElse_nullable "trend" rfl TrendAnalysis.respects_shape]

theorem ofTree?_toTree (s : Summary Float) : ofTree? s.toTree = some s := by
  obtain ⟨period, total, currency, byService, byGroup, forecast, monthly, trend⟩ := s
  have hsums : ∀ sums : Table Float, Tree.tableOf? Tree.number? (Tree.ofTable Tree.real sums) = some sums :=
    Tree.tableOf?_ofTable fun _ => rfl
  have hforecast := Parts.nullable_write Forecast.ofTree?_toTree fun _ => nofun
  have hmonthly := Parts.nullable_write (Tree.listOf?_map MonthTotal.ofTree?_toTree) fun _ => nofun
  have htrend := Parts.nullable_write TrendAnalysis.ofTree?_toTree fun _ => nofun
  cases forecast <;> cases monthly <;> cases trend <;>
    simp [-Parts.nullable, ofTree?, toTree, hsums, hforecast, hmonthly, htrend]

end Summary

namespace Alert

/-- The parts of an alert. -/
def shape : Shape :=
  .record [("id", true, .plain), ("name", false, .plain), ("threshold", false, .plain), ("account_id", false, .plain),
    ("enabled", false, .plain)]

theorem respects_shape : Respects shape ofTree? := by
  refine respects_record fun p p' h => ?_
  rw [h.orElse_nullable "id" rfl (respects_plain _), h.required "name" rfl (respects_plain _),
    h.required "threshold" rfl (respects_plain _), h.required "account_id" rfl (respects_plain _),
    h.required "enabled" rfl (respects_plain _)]

/-- An alert is read back if its number fits into a word. -/
theorem ofTree?_toTree {a : Alert Float} (hid : ∀ n ∈ a.id, Word.holdsSigned 64 n = true) :
    ofTree? a.toTree = some a := by
  obtain ⟨id, name, threshold, account, enabled⟩ := a
  cases id with
  | none => simp [ofTree?, toTree]
  | some n => simp [ofTree?, toTree, Tree.word64?_integer (hid n rfl)]

end Alert

namespace ServiceCost

/-- The parts of a service's cost. -/
def shape : Shape :=
  .record [("service", false, .plain), ("cost", false, .plain)]

theorem respects_shape : Respects shape ofTree? := by
  refine respects_record fun p p' h => ?_
  rw [h.required "service" rfl (respects_plain _), h.required "cost" rfl (respects_plain _)]

theorem ofTree?_toTree (c : ServiceCost Float) : ofTree? c.toTree = some c := by
  simp [ofTree?, toTree]

end ServiceCost

namespace Report

/-- The parts of a report. -/
def shape : Shape :=
  .record [("generated_at", false, .plain), ("period", false, .plain), ("total_cost", false, .plain),
    ("currency", false, .plain), ("forecast", false, .plain), ("monthly_data", false, .row MonthTotal.shape),
    ("top_services", false, .row ServiceCost.shape)]

theorem respects_shape : Respects shape ofTree? := by
  refine respects_record fun p p' h => ?_
  rw [h.required "generated_at" rfl (respects_plain _), h.required "period" rfl (respects_plain _),
    h.required "total_cost" rfl (respects_plain _), h.required "currency" rfl (respects_plain _),
    h.required "forecast" rfl (respects_plain _), h.required "monthly_data" rfl MonthTotal.respects_shape.listOf?,
    h.required "top_services" rfl ServiceCost.respects_shape.listOf?]

theorem ofTree?_toTree (r : Report Float) : ofTree? r.toTree = some r := by
  simp [ofTree?, toTree, Tree.listOf?_map MonthTotal.ofTree?_toTree, Tree.listOf?_map ServiceCost.ofTree?_toTree]

end Report

namespace AlertStatus

/-- The parts of an alert's status. -/
def shape : Shape :=
  .record [("name", false, .plain), ("threshold", false, .plain), ("percent", false, .plain),
    ("triggered", false, .plain)]

theorem respects_shape : Respects shape ofTree? := by
  refine respects_record fun p p' h => ?_
  rw [h.required "name" rfl (respects_plain _), h.required "threshold" rfl (respects_plain _),
    h.required "percent" rfl (respects_plain _), h.required "triggered" rfl (respects_plain _)]

theorem ofTree?_toTree (s : AlertStatus Float) : ofTree? s.toTree = some s := by
  simp [ofTree?, toTree]

end AlertStatus

namespace Evaluation

/-- The parts of an evaluation. -/
def shape : Shape :=
  .record [("total", false, .plain), ("triggered", false, .row .plain), ("statuses", false, .row AlertStatus.shape)]

theorem respects_shape : Respects shape ofTree? := by
  refine respects_record fun p p' h => ?_
  rw [h.required "total" rfl (respects_plain _), h.required "triggered" rfl (respects_plain _).listOf?,
    h.required "statuses" rfl AlertStatus.respects_shape.listOf?]

theorem ofTree?_toTree (e : Evaluation Float) : ofTree? e.toTree = some e := by
  have hnames : ∀ names : List String, Tree.listOf? Tree.text? (.list (names.map .text)) = some names :=
    Tree.listOf?_map fun _ => rfl
  simp [ofTree?, toTree, hnames, Tree.listOf?_map AlertStatus.ofTree?_toTree]

end Evaluation

namespace ServiceLimit

/-- The parts of a service's limit. -/
def shape : Shape :=
  .record [("description", false, .plain), ("limit", false, .plain), ("unit", false, .plain),
    ("duration", false, .plain), ("warning_threshold", false, .plain)]

theorem respects_shape : Respects shape ofTree? := by
  refine respects_record fun p p' h => ?_
  rw [h.required "description" rfl (respects_plain _), h.required "limit" rfl (respects_plain _),
    h.required "unit" rfl (respects_plain _), h.required "duration" rfl (respects_plain _),
    h.orElse "warning_threshold" rfl (respects_plain _)]

theorem ofTree?_toTree (l : ServiceLimit Float) : ofTree? l.toTree = some l := by
  simp [ofTree?, toTree]

end ServiceLimit

namespace BudgetPreset

/-- The parts of a budget preset. -/
def shape : Shape :=
  .record [("amount", false, .plain), ("description", false, .plain)]

theorem respects_shape : Respects shape ofTree? := by
  refine respects_record fun p p' h => ?_
  rw [h.required "amount" rfl (respects_plain _), h.required "description" rfl (respects_plain _)]

theorem ofTree?_toTree (b : BudgetPreset Float) : ofTree? b.toTree = some b := by
  simp [ofTree?, toTree]

end BudgetPreset

namespace FreeTier

/-- The parts of limits and budgets. -/
def shape : Shape :=
  .record [("services", false, .table ServiceLimit.shape), ("budgets", false, .table BudgetPreset.shape)]

theorem respects_shape : Respects shape ofTree? := by
  refine respects_record fun p p' h => ?_
  rw [h.orElse "services" rfl ServiceLimit.respects_shape.tableOf?,
    h.orElse "budgets" rfl BudgetPreset.respects_shape.tableOf?]

theorem ofTree?_toTree (f : FreeTier Float) : ofTree? f.toTree = some f := by
  simp [ofTree?, toTree, Tree.tableOf?_ofTable ServiceLimit.ofTree?_toTree,
    Tree.tableOf?_ofTable BudgetPreset.ofTree?_toTree]

end FreeTier

theorem UsageStatus.ofTree?_toTree (s : UsageStatus) : ofTree? s.toTree = some s := by
  cases s <;> rfl

namespace ServiceUsage

/-- The parts of a usage. -/
def shape : Shape :=
  .record [("service_name", false, .plain), ("used", false, .plain), ("limit", false, .plain), ("unit", false, .plain),
    ("status", false, .plain), ("percent_used", true, .plain)]

theorem respects_shape : Respects shape ofTree? := by
  refine respects_record fun p p' h => ?_
  rw [h.required "service_name" rfl (respects_plain _), h.required "used" rfl (respects_plain _),
    h.required "limit" rfl (respects_plain _), h.required "unit" rfl (respects_plain _),
    h.required "status" rfl (respects_plain _), h.optional "percent_used" rfl (respects_plain _)]

theorem ofTree?_toTree (u : ServiceUsage Float) : ofTree? u.toTree = some u := by
  obtain ⟨service, used, limit, unit, status, percentUsed⟩ := u
  cases percentUsed <;> simp [ofTree?, toTree, UsageStatus.ofTree?_toTree]

end ServiceUsage

end SpendLedger
