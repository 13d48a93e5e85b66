import SpendLedger.Print.Ledger
import SpendLedger.Proofs.Csv.RoundTrip

/-!
# Exported records

Records that are exported as rows are read back field by field. Texts may have any characters; numbers and days are written
without quotes, which they never need.
-/

namespace SpendLedger

namespace Print

/-- What the fields of a record say. -/
def recordFields (r : CostRecord Float) : List String :=
  [toString (r.id.getD 0), r.account, r.group.getD "", r.service, Decimal.fixed 8 r.cost, r.currency, r.date.toText]

/-- The row of a record has its fields as they are written. -/
theorem recordRow_eq (r : CostRecord Float) : recordRow r = (recordFields r).map Csv.field := by
  have hid := Csv.field_of_isPlain (Csv.isPlain_toString (r.id.getD 0))
  have hcost := Csv.field_of_isPlain (Csv.isPlain_fixed 8 r.cost)
  have hdate := Csv.field_of_isPlain (Csv.isPlain_toText r.date)
  simp only [recordFields, List.map_cons, List.map_nil, hid, hcost, hdate]
  rfl

/-- Exported records lose nothing: whatever characters their texts have, a reader finds the row of names and then a row for
each record, in order, with its number, its texts as they are, its cost with eight places and its day. A finite cost has a
sign or none, at least one digit, a point and eight digits. -/
theorem read?_records (rs : List (CostRecord Float)) :
    Csv.read? (records rs .csv) =
        some (["id", "account_id", "resource_group", "service_name", "cost", "currency", "date"] :: rs.map fun r =>
          [toString (r.id.getD 0), r.account, r.group.getD "", r.service, Decimal.fixed 8 r.cost, r.currency,
            r.date.toText]) ∧
      ∀ r ∈ rs, r.cost.isFinite = true → ∃ whole fraction : List Char,
        Decimal.fixed 8 r.cost = Decimal.sign r.cost ++ String.ofList (whole ++ '.' :: fraction) ∧ whole ≠ [] ∧
          fraction.length = 8 ∧ ∀ c ∈ whole ++ fraction, c.isDigit = true := by
  constructor
  · have hrows : rs.map recordRow = (rs.map recordFields).map fun fields => fields.map Csv.field := by
      rw [List.map_map]
      exact List.map_congr_left fun r _ => recordRow_eq r
    have htable : ∀ fields ∈ rs.map recordFields, fields ≠ [] := by
      intro fields hfields
      obtain ⟨r, _, rfl⟩ := List.mem_map.1 hfields
      exact List.cons_ne_nil _ _
    show Csv.read? (rows _ (rs.map recordRow)) = _
    rw [hrows]
    exact Csv.read?_rows (by decide) (by decide) htable
  · intro r _ hfinite
    obtain ⟨whole, fraction, heq, hwhole, hlength, hdigits⟩ := Decimal.fixed_eq hfinite 8
    refine ⟨whole, fraction, ?_, hwhole, hlength, hdigits⟩
    rw [heq]
    cases fraction with
    | nil => cases hlength
    | cons d fraction => rfl

end Print

end SpendLedger
