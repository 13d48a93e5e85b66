import SpendLedger.Proofs.Ledger.Reading
import SpendLedger.Proofs.Number.Zero
import SpendLedger.Proofs.World
import SpendLedger.Service.Basic

/-!
# Appending a batch

The operation that appends a batch of records to the store of a world: which batches it takes, what is read back from the
store after it, and that a batch which is refused leaves the world as it was.
-/

namespace SpendLedger

namespace Service

/-- Appending a batch changes the store and the journal, or fails and changes nothing. -/
theorem run_appendBatch (w : World) (batch : List (CostRecord Float)) :
    Action.run w (appendBatch batch) = match w.store.insertBatch batch with
      | .ok store => (.ok batch.length,
          { w with store, journal := w.journal ++
            [⟨.debug, .storage, "cost batch committed", [("rows", toString batch.length)]⟩] })
      | .error e => (.error e, w) := by
  unfold appendBatch
  cases h : w.store.insertBatch batch with
  | error e => rw [Action.run_bind_of_error (by rw [World.run_read, h])]
  | ok store =>
    rw [Action.run_bind_of_ok (by rw [World.run_read, h]), Action.run_bind_of_ok (Action.run_modify _ _),
      Action.run_bind_of_ok (World.run_note _ _ _ _ _)]
    rfl

/-- A batch that is appended was admitted, and its rows are all that is new in the store. -/
theorem appendBatch_eq_ok {w after : World} {batch : List (CostRecord Float)} {count : Nat}
    (h : Action.run w (appendBatch batch) = (.ok count, after)) :
    (∀ r ∈ batch, Store.Admits r) ∧ count = batch.length ∧
      after.store = w.store.withBatch batch ∧ after.network = w.network := by
  rw [run_appendBatch] at h
  cases hstore : w.store.insertBatch batch with
  | error e =>
    rw [hstore] at h
    cases h
  | ok store =>
    obtain ⟨hadmits, rfl⟩ := Store.insertBatch_eq_ok_iff.1 hstore
    rw [hstore] at h
    cases h
    exact ⟨hadmits, rfl, rfl, rfl⟩

/-- A batch that is refused has a record that breaks a rule, and leaves the world as it was. -/
theorem appendBatch_eq_error {w after : World} {batch : List (CostRecord Float)} {e : Failure}
    (h : Action.run w (appendBatch batch) = (.error e, after)) : (∃ r ∈ batch, ¬Store.Admits r) ∧ after = w := by
  rw [run_appendBatch] at h
  cases hstore : w.store.insertBatch batch with
  | error e =>
    rw [hstore] at h
    cases h
    exact ⟨Store.exists_not_admits_of_error hstore, rfl⟩
  | ok store =>
    rw [hstore] at h
    cases h

/-- The record that is read back from the row of a record: the record, with its number and with a zero for a cost of
negative zero. -/
theorem read_numbered (first : Nat) (batch : List (CostRecord Float)) :
    (Store.numbered first batch).map CostRow.entry =
      batch.mapIdx fun i r => { r with id := some ((first + i : Nat) : Int), cost := Binary64.withoutZeroSign r.cost } := by
  rw [Store.map_entry_numbered]
  refine congrArg (batch.mapIdx ·) (funext fun i => funext fun r => ?_)
  rw [CostRecord.mk.injEq]
  exact ⟨rfl, rfl, rfl, rfl, Binary64.add_zero r.cost, rfl, rfl⟩

/-- Whatever a store has been used for, a batch is taken exactly if each of its records names its account, its service
and its currency and has a cost that is a number. Then all records can be read, under numbers that are all different: the
earlier ones as they were, and those of the batch in every part, but that a negative zero loses its sign. A batch that is
refused leaves everything as it was, and what was read before is read again. -/
theorem appendBatch_admission (w : World) (history : List (Store.Call Float)) (batch : List (CostRecord Float)) :
    let before : World := { w with store := Store.ofHistory history }
    ∃ old, before.store.allRecords = .ok old ∧
      match World.run before (appendBatch batch) with
      | (.ok count, after) =>
        (∀ r ∈ batch, r.account ≠ "" ∧ r.service ≠ "" ∧ r.currency ≠ "" ∧ r.cost.isNaN = false) ∧
          count = batch.length ∧
          ∃ new, after.store.allRecords = .ok new ∧ (new.map CostRecord.id).Nodup ∧
            new.Perm (old ++ batch.mapIdx fun i r =>
              { r with id := some ((before.store.nextRow + i : Nat) : Int), cost := Binary64.withoutZeroSign r.cost })
      | (.error _, after) =>
        (∃ r ∈ batch, ¬(r.account ≠ "" ∧ r.service ≠ "" ∧ r.currency ≠ "" ∧ r.cost.isNaN = false)) ∧
          after = before ∧ after.store.allRecords = .ok old := by
  intro before
  have hreadable : before.store.Readable := Store.readable_ofHistory history
  obtain ⟨old, hold, holdPerm⟩ := Store.allRecords_perm hreadable
  refine ⟨old, hold, ?_⟩
  cases hrun : World.run before (appendBatch batch) with
  | mk answer after =>
    cases answer with
    | error e =>
      obtain ⟨hbad, rfl⟩ := appendBatch_eq_error hrun
      exact ⟨hbad, rfl, hold⟩
    | ok count =>
      obtain ⟨hadmits, hcount, hstore, _⟩ := appendBatch_eq_ok hrun
      have hafter : after.store = Store.ofHistory (history ++ [.insertBatch batch]) := by
        unfold Store.ofHistory
        rw [Store.after_append, Store.after_cons, Store.run_insertBatch _ hadmits]
        exact hstore
      obtain ⟨new, hnew, hnewPerm⟩ := Store.allRecords_perm (hafter ▸ Store.readable_ofHistory _)
      refine ⟨hadmits, hcount, new, hnew, ?_, ?_⟩
      · rw [(hnewPerm.map CostRecord.id).nodup_iff]
        exact Store.nodup_map_id_entry (hafter ▸ Store.pairwise_id_rows _)
      · refine hnewPerm.trans ?_
        rw [hstore, ← read_numbered]
        show ((before.store.rows ++ _).map CostRow.entry).Perm _
        rw [List.map_append]
        exact holdPerm.symm.append_right _

end Service

end SpendLedger
