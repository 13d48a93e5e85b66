import SpendLedger.Form.Basic
import SpendLedger.Ledger.Store
import SpendLedger.Number.Decimal

/-!
# The form of a store

How all that is stored is written into a document and read from it. Amounts are written as texts, since a store may hold
infinite ones, which numbers in documents cannot be.
-/

namespace SpendLedger

/-- An amount as a tree. -/
def Tree.ofAmount (x : Float) : Tree := .text (Decimal.plain x)

/-- An amount from a tree. -/
def Tree.amount? : Tree → Option Float
  | .text s => Decimal.read? s.toList
  | _ => none

/-- A natural number from a tree. -/
def Tree.nat? : Tree → Option Nat
  | .integer n => if 0 ≤ n then some n.toNat else none
  | _ => none

namespace CostRow

/-- A cost row as a tree. -/
def toTree (r : CostRow Float) : Tree :=
  .fields
    [("id", .integer r.id), ("account_id", .text r.account), ("resource_group", Tree.ofOption Tree.text r.group),
      ("service_name", .text r.service), ("cost", Tree.ofAmount r.cost), ("currency", .text r.currency),
      ("date", .text r.dateText)]

/-- A cost row from a tree. -/
def ofTree? (t : Tree) : Option (CostRow Float) := do
  let p ← Parts.of? ["id", "account_id", "resource_group", "service_name", "cost", "currency", "date"] t
  let id ← p.required "id" Tree.nat?
  let account ← p.required "account_id" Tree.text?
  let group ← p.optional "resource_group" Tree.text?
  let service ← p.required "service_name" Tree.text?
  let cost ← p.required "cost" Tree.amount?
  let currency ← p.required "currency" Tree.text?
  let dateText ← p.required "date" Tree.text?
  pure { id, account, group, service, cost, currency, dateText }

end CostRow

namespace AlertRow

/-- An alert's row as a tree. -/
def toTree (a : AlertRow Float) : Tree :=
  .fields
    [("id", .integer a.id), ("name", .text a.name), ("threshold", Tree.ofAmount a.threshold),
      ("account_id", .text a.account), ("enabled", .bool a.enabled)]

/-- An alert's row from a tree. -/
def ofTree? (t : Tree) : Option (AlertRow Float) := do
  let p ← Parts.of? ["id", "name", "threshold", "account_id", "enabled"] t
  let id ← p.required "id" Tree.nat?
  let name ← p.required "name" Tree.text?
  let threshold ← p.required "threshold" Tree.amount?
  let account ← p.required "account_id" Tree.text?
  let enabled ← p.required "enabled" Tree.bool?
  pure { id, name, threshold, account, enabled }

end AlertRow

namespace Store

/-- A store as a tree. -/
def toTree (s : Store Float) : Tree :=
  .fields
    [("rows", .list (s.rows.map CostRow.toTree)), ("next_row", .integer s.nextRow),
      ("alerts", .list (s.alerts.map AlertRow.toTree)), ("next_alert", .integer s.nextAlert),
      ("settings", Tree.ofTable Tree.text s.settings)]

/-- A store from a tree. -/
def ofTree? (t : Tree) : Option (Store Float) := do
  let p ← Parts.of? ["rows", "next_row", "alerts", "next_alert", "settings"] t
  let rows ← p.required "rows" (Tree.listOf? CostRow.ofTree?)
  let nextRow ← p.required "next_row" Tree.nat?
  let alerts ← p.required "alerts" (Tree.listOf? AlertRow.ofTree?)
  let nextAlert ← p.required "next_alert" Tree.nat?
  let settings ← p.required "settings" (Tree.tableOf? Tree.text?)
  pure { rows, nextRow, alerts, nextAlert, settings }

end Store

end SpendLedger
