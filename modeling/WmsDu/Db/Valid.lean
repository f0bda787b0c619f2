import Mathlib.Algebra.Order.Ring.Int
import WmsDu.Db.Runs
import WmsDu.Db.Allowed

/-!
# Valid databases

What the constraints of the schema say of the rows of one state: foreign keys
have their rows and checked columns their bounds. Every record keeps this, so
every program does.
-/

namespace WmsDu

open Txn

/-- The constraints that later proofs read off a state. -/
structure Db.Valid (db : Db) : Prop where
  lots : ∀ lot ∈ db.lots.rows,
    0 < lot.id ∧ db.items.HasKey lot.itemId ∧ db.warehouses.HasKey lot.warehouseId
  stock : ∀ r ∈ db.stocksLot.rows, db.HasLotDims r.slot ∧ 0 ≤ r.qty
  ledger : ∀ r ∈ db.stockLedger.rows, ∀ e, r.eventId = some e → db.wmsEvents.HasKey e
  outbound : ∀ l ∈ db.outboundEventLines.rows,
    0 < l.qtyOutbound ∧ db.wmsEvents.HasKey l.eventId
  inbound : ∀ l ∈ db.inboundEventLines.rows, 0 < l.qtyBase ∧ db.wmsEvents.HasKey l.eventId
  countDocs : ∀ d ∈ db.countDocs.rows, db.warehouses.HasKey d.warehouseId
  countLines : ∀ l ∈ db.countDocLines.rows, ∀ q, l.countedQtyBase = some q →
    0 ≤ q ∧ l.diffQtyBase = some (q - l.snapshotQtyBase)
  snapshots : ∀ s ∈ db.countDocLineLotSnapshots.rows, 0 < s.snapshotQtyBase

/-! ## What the checks of a row say -/

theorem OutboundEventLine.check_eq_none {l : OutboundEventLine} (h : l.check = none) :
    0 < l.qtyOutbound := by
  unfold OutboundEventLine.check at h
  split at h
  · cases h
  · omega

theorem InboundEventLine.check_eq_none {l : InboundEventLine} (h : l.check = none) :
    0 < l.qtyBase := by
  unfold InboundEventLine.check at h
  (repeat' split at h) <;> cases h
  rename_i _ hratio hinput hbase
  rw [not_not.mp hbase]
  exact mul_pos (by omega) (by omega)

theorem CountDocLine.check_eq_none {l : CountDocLine} (h : l.check = none) {q : Int}
    (hq : l.countedQtyBase = some q) : 0 ≤ q ∧ l.diffQtyBase = some (q - l.snapshotQtyBase) := by
  unfold CountDocLine.check at h
  split at h
  · cases h
  split at h
  · cases h
  split at h
  · cases h
  split at h
  · cases h
  rename_i hbase
  split at h
  · cases h
  have hnonneg : 0 ≤ q := by
    by_contra hneg
    exact hbase ⟨q, hq, not_le.mp hneg⟩
  refine ⟨hnonneg, ?_⟩
  split at h
  · rename_i hb _
    rw [hq] at hb
    cases hb
  · rename_i base diff _ _ _ _ hb hd
    split at h <;> cases h
    rename_i heq
    rw [hq] at hb
    cases hb
    rw [hd, heq.2]
  · cases h

/-! ## Every record keeps the constraints -/

section Record
variable {u : Redo} {db : Db}

/-- Lots are only added, and keep their dimensions. -/
theorem Db.HasLotDims.apply {s : Slot} (u : Redo) (h : db.HasLotDims s) :
    (u.apply db).HasLotDims s := by
  obtain ⟨lot, hlot, hs⟩ := h
  cases u with
  | lotInsert lot' => exact ⟨lot, Table.mem_insert_of_mem hlot, hs⟩
  | lotSetExpiry lotId ed =>
      refine ⟨_, List.mem_map.mpr ⟨lot, hlot, rfl⟩, ?_⟩
      split
      · exact hs
      · exact hs
  | _ => exact ⟨lot, hlot, hs⟩

/-- Events are only added. -/
theorem Db.hasEvent_apply {e : Int} (u : Redo) (h : db.wmsEvents.HasKey e) :
    (u.apply db).wmsEvents.HasKey e := by
  cases u with
  | eventInsert e' => exact Table.hasKey_insert.mpr (Or.inl h)
  | eventSupersede e' => exact (Table.hasKey_update (by intro _; rfl)).mpr h
  | _ => exact h

theorem Redo.apply_items (u : Redo) (db : Db) : (u.apply db).items = db.items := by
  cases u <;> rfl

theorem Redo.apply_warehouses (u : Redo) (db : Db) : (u.apply db).warehouses = db.warehouses := by
  cases u <;> rfl

private theorem valid_lots (hu : u.Allowed db) (h : db.Valid) :
    ∀ lot ∈ (u.apply db).lots.rows, 0 < lot.id ∧
      (u.apply db).items.HasKey lot.itemId ∧ (u.apply db).warehouses.HasKey lot.warehouseId := by
  rw [Redo.apply_items, Redo.apply_warehouses]
  intro lot hlot
  cases u with
  | lotInsert lot' =>
      rcases Table.mem_of_mem_insert hlot with hlot | rfl
      · exact h.lots lot hlot
      · exact ⟨hu.2.2.2.1, hu.2.1, hu.2.2.1⟩
  | lotSetExpiry lotId ed =>
      obtain ⟨lot', hlot', rfl⟩ := List.mem_map.mp hlot
      split
      · exact h.lots lot' hlot'
      · exact h.lots lot' hlot'
  | _ => exact h.lots lot hlot

private theorem valid_stock (hu : u.Allowed db) (h : db.Valid) :
    ∀ r ∈ (u.apply db).stocksLot.rows, (u.apply db).HasLotDims r.slot ∧ 0 ≤ r.qty := by
  suffices hs : ∀ r ∈ (u.apply db).stocksLot.rows, db.HasLotDims r.slot ∧ 0 ≤ r.qty from
    fun r hr => ⟨(hs r hr).1.apply u, (hs r hr).2⟩
  intro r hr
  cases u with
  | stocksLotInsert row =>
      rcases Table.mem_of_mem_insert hr with hr | rfl
      · exact h.stock r hr
      · exact ⟨hu.1, hu.2.2⟩
  | stocksLotSetQty s q =>
      obtain ⟨r', hr', rfl⟩ := List.mem_map.mp hr
      split
      · exact ⟨(h.stock r' hr').1, hu.2⟩
      · exact h.stock r' hr'
  | _ => exact h.stock r hr

private theorem valid_ledger (hu : u.Allowed db) (h : db.Valid) :
    ∀ r ∈ (u.apply db).stockLedger.rows, ∀ e, r.eventId = some e →
      (u.apply db).wmsEvents.HasKey e := by
  suffices hs : ∀ r ∈ (u.apply db).stockLedger.rows, ∀ e, r.eventId = some e →
      db.wmsEvents.HasKey e from
    fun r hr e he => Db.hasEvent_apply u (hs r hr e he)
  intro r hr
  cases u with
  | ledgerInsert row =>
      rcases Table.mem_of_mem_insert hr with hr | rfl
      · exact h.ledger r hr
      · exact (StockLedgerRow.foreignKeys_eq_none.mp hu.2.2).2
  | ledgerPatch k p =>
      obtain ⟨r', hr', rfl⟩ := List.mem_map.mp hr
      split
      · rename_i hk
        obtain ⟨row, hrow, hfk⟩ := hu
        obtain ⟨hmem, hkey⟩ := Table.lookup_eq_some.mp hrow
        obtain rfl := db.stockLedger.eq_of_key hr' hmem (hk.trans hkey.symm)
        exact (StockLedgerRow.foreignKeys_eq_none.mp hfk).2
      · exact h.ledger r' hr'
  | _ => exact h.ledger r hr

private theorem valid_outbound (hu : u.Allowed db) (h : db.Valid) :
    ∀ l ∈ (u.apply db).outboundEventLines.rows,
      0 < l.qtyOutbound ∧ (u.apply db).wmsEvents.HasKey l.eventId := by
  suffices hs : ∀ l ∈ (u.apply db).outboundEventLines.rows,
      0 < l.qtyOutbound ∧ db.wmsEvents.HasKey l.eventId from
    fun l hl => ⟨(hs l hl).1, Db.hasEvent_apply u (hs l hl).2⟩
  intro l hl
  cases u with
  | outboundLineInsert l' =>
      rcases Table.mem_of_mem_insert hl with hl | rfl
      · exact h.outbound l hl
      · exact ⟨OutboundEventLine.check_eq_none hu.1, hu.2.2⟩
  | _ => exact h.outbound l hl

private theorem valid_inbound (hu : u.Allowed db) (h : db.Valid) :
    ∀ l ∈ (u.apply db).inboundEventLines.rows,
      0 < l.qtyBase ∧ (u.apply db).wmsEvents.HasKey l.eventId := by
  suffices hs : ∀ l ∈ (u.apply db).inboundEventLines.rows,
      0 < l.qtyBase ∧ db.wmsEvents.HasKey l.eventId from
    fun l hl => ⟨(hs l hl).1, Db.hasEvent_apply u (hs l hl).2⟩
  intro l hl
  cases u with
  | inboundLineInsert l' =>
      rcases Table.mem_of_mem_insert hl with hl | rfl
      · exact h.inbound l hl
      · exact ⟨InboundEventLine.check_eq_none hu.1, hu.2.2⟩
  | _ => exact h.inbound l hl

theorem CountDocChange.set_warehouseId (c : CountDocChange) (d : CountDoc) :
    (c.set d).warehouseId = d.warehouseId := by
  cases c <;> rfl

private theorem valid_countDocs (hu : u.Allowed db) (h : db.Valid) :
    ∀ d ∈ (u.apply db).countDocs.rows, (u.apply db).warehouses.HasKey d.warehouseId := by
  rw [Redo.apply_warehouses]
  intro d hd
  cases u with
  | countDocInsert d' =>
      rcases Table.mem_of_mem_insert hd with hd | rfl
      · exact h.countDocs d hd
      · exact hu.2
  | countDocUpdate docId c =>
      obtain ⟨d', hd', rfl⟩ := List.mem_map.mp hd
      split
      · rw [c.set_warehouseId]
        exact h.countDocs d' hd'
      · exact h.countDocs d' hd'
  | _ => exact h.countDocs d hd

private theorem valid_countLines (hu : u.Allowed db) (h : db.Valid) :
    ∀ l ∈ (u.apply db).countDocLines.rows, ∀ q, l.countedQtyBase = some q →
      0 ≤ q ∧ l.diffQtyBase = some (q - l.snapshotQtyBase) := by
  intro l hl q hq
  cases u with
  | countLineInsert l' =>
      rcases Table.mem_of_mem_insert hl with hl | rfl
      · exact h.countLines l hl q hq
      · exact CountDocLine.check_eq_none hu.1 hq
  | countLinesDelete docId =>
      exact h.countLines l (Table.mem_delete.mp hl).1 q hq
  | countLineSetCounted lineId c =>
      obtain ⟨l', hl', rfl⟩ := List.mem_map.mp hl
      split at hq
      · rename_i hid
        obtain ⟨row, hrow, hcheck⟩ := hu
        obtain ⟨hmem, hkey⟩ := Table.lookup_eq_some.mp hrow
        obtain rfl := db.countDocLines.eq_of_key hl' hmem (hid.trans hkey.symm)
        rw [if_pos hid]
        exact CountDocLine.check_eq_none hcheck hq
      · rename_i hid
        rw [if_neg hid]
        exact h.countLines l' hl' q hq
  | _ => exact h.countLines l hl q hq

private theorem valid_snapshots (hu : u.Allowed db) (h : db.Valid) :
    ∀ s ∈ (u.apply db).countDocLineLotSnapshots.rows, 0 < s.snapshotQtyBase := by
  intro s hs
  cases u with
  | countSnapshotInsert s' =>
      rcases Table.mem_of_mem_insert hs with hs | rfl
      · exact h.snapshots s hs
      · exact hu
  | countSnapshotsDelete lineIds => exact h.snapshots s (Table.mem_delete.mp hs).1
  | _ => exact h.snapshots s hs

theorem Redo.Allowed.valid (hu : u.Allowed db) (h : db.Valid) : (u.apply db).Valid where
  lots := valid_lots hu h
  stock := valid_stock hu h
  ledger := valid_ledger hu h
  outbound := valid_outbound hu h
  inbound := valid_inbound hu h
  countDocs := valid_countDocs hu h
  countLines := valid_countLines hu h
  snapshots := valid_snapshots hu h

end Record

/-- **Every program keeps the constraints.** -/
theorem Tx.run_valid {α : Type} {x : Tx α} {db db' : Db} {a : α}
    (h : x.run db = .ok (a, db')) (hdb : db.Valid) : db'.Valid :=
  Tx.run_preserves (fun _ _ hu hw => hu.valid hw) h hdb

end WmsDu
