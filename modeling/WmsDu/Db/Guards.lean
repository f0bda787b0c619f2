import WmsDu.Db.Sql
import WmsDu.Txn.Interference

/-!
# What guards a write

A record is guarded by the row lock or the index entry its statement took, so
two transactions in flight never hold records of one row.
-/

namespace WmsDu

open Txn

/-- The locks that guard a record. -/
def Redo.guards : Redo → List Lock
  | .stocksLotInsert row => [.slot row.slot]
  | .stocksLotSetQty s _ => [.slot s]
  | .ledgerInsert row => [.ledger row.key]
  | .ledgerPatch k _ => [.ledger k]
  | .lotInsert lot => .lot lot.id :: lot.indexKey.toList.map .lotKey
  | .lotSetExpiry lotId _ => [.lot lotId]
  | .eventInsert e => [.event e.id, .eventNo e.eventNo, .traceId e.traceId]
  | .eventSupersede eventId => [.event eventId]
  | .outboundLineInsert l => [.outboundLine l.eventId l.refLine]
  | .inboundLineInsert l => [.inboundLine l.eventId l.lineNo]
  | .manualDocComplete docId => [.manualDoc docId]
  | .operationInsert o => [.operation o.id]
  | .operationLineInsert l => [.operationLine l.id]
  | .receiptComplete receiptId => [.receipt receiptId]
  | .completionPut c => [.completion c.poLineId]
  | .countDocInsert d => [.countDoc d.id, .countNo d.countNo]
  | .countDocUpdate docId _ => [.countDoc docId]
  | .countLinesDelete docId => [.countDoc docId]
  | .countLineInsert l => [.countLine l.id]
  | .countLineSetCounted lineId _ => [.countLine lineId]
  | .returnTaskInsert t => [.returnTask t.id]
  | .returnTaskSetCommitted taskId _ => [.returnTask taskId]
  | .returnLineInsert l => [.returnLine l.id]
  | .returnLineSetPicked lineId _ => [.returnLine lineId]
  | .returnLineSetCommitted lineId _ => [.returnLine lineId]
  | .stockSnapshotsDelete d => [.snapshots d]
  | .stockSnapshotInsert s => [.snapshots s.snapshotDate]
  | .eventLogInsert e => [.eventLog e.id]
  | .countSnapshotsDelete _ | .countSnapshotInsert _ => []

/-- A statement takes the locks that guard its records. -/
theorem Sql.guards_held {β : Type} {s : Sql β} {db : Db} {b : β} {us : List Redo}
    (h : s.exec db = .ok (b, us)) : ∀ u ∈ us, ∀ l ∈ u.guards, l ∈ s.locks db := by
  intro u hu l hl
  cases s with
  | select q => cases h; cases hu
  | selectForUpdate rows q => cases h; cases hu
  | ensureStocksLotSlot s =>
      simp only [Sql.exec, violated] at h
      split at h
      · cases h; cases hu
      · rename_i hk
        split at h <;> cases h
        rw [List.mem_singleton] at hu
        subst hu
        rw [Sql.locks, if_neg hk]
        exact hl
  | insertLedgerOnConflictDoNothing row =>
      simp only [Sql.exec, violated] at h
      split at h
      · cases h
      · split at h
        · cases h; cases hu
        · rename_i hk
          split at h <;> cases h
          rw [List.mem_singleton] at hu
          subst hu
          rw [Sql.locks, if_neg hk]
          exact hl
  | insertLot lotId w i source code pd ed rid rln =>
      simp only [Sql.exec, violated] at h
      split at h
      · cases h; cases hu
      · rename_i item hi
        split at h
        · cases h
        · split at h
          · cases h; cases hu
          · rename_i hclash
            (repeat' split at h) <;> cases h
            rw [List.mem_singleton] at hu
            subst hu
            simp only [Sql.locks, hi, if_neg hclash]
            exact hl
  | markSuperseded eventType eventId =>
      simp only [Sql.exec] at h
      split at h
      · rename_i he
        cases h
        rw [List.mem_singleton] at hu
        subst hu
        rw [Sql.locks, if_pos he]
        exact hl
      · cases h; cases hu
  | applyCompletionDelta eventId occurredAt =>
      cases h
      obtain ⟨c, hc, hput⟩ := List.mem_filterMap.mp hu
      split at hput <;> cases hput
      obtain rfl := List.mem_singleton.mp hl
      exact List.mem_map.mpr ⟨c, hc, rfl⟩
  | insertCountLines docId w lineId =>
      simp only [Sql.exec, violated] at h
      split at h <;> cases h
      obtain ⟨line, hline, rfl⟩ := List.mem_map.mp hu
      obtain rfl := List.mem_singleton.mp hl
      exact List.mem_map.mpr ⟨line, hline, rfl⟩
  | insertCountSnapshots docId =>
      simp only [Sql.exec] at h
      split at h <;> cases h
      · cases hu
      · obtain ⟨line, _, rfl⟩ := List.mem_map.mp hu
        cases hl
  | insertStockSnapshots d =>
      cases h
      obtain ⟨r, _, rfl⟩ := List.mem_map.mp hu
      exact hl
  | deleteCountSnapshots docId =>
      cases h
      rw [List.mem_singleton] at hu
      subst hu
      cases hl
  | _ =>
      -- one record at most, on the row the statement names
      simp only [Sql.exec, violated] at h
      (repeat' split at h) <;> cases h <;>
        first
          | (cases hu; done)
          | (rw [List.mem_singleton] at hu; subst hu; exact hl)

instance : Guarded Sql where
  guards := Redo.guards
  guards_held := Sql.guards_held

end WmsDu
