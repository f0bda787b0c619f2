import WmsDu.Db.Sql

/-!
# What a statement did when it succeeded

One lemma a statement: the guards it passed and the records it applied. The
proofs about services cite these and never unfold the statements again.
-/

namespace WmsDu

open Txn

variable {db db' : Db} {u : Unit}

private theorem run_sql {β : Type} {s : Sql β} {b : β} :
    (Prog.exec s : Tx β).run db = .ok (b, db') ↔
      ∃ us, s.exec db = .ok (b, us) ∧ db' = replay Sql us db :=
  Prog.run_exec_ok

/-! ## Reads -/

/-- Statements that write nothing. -/
def Sql.IsRead : {β : Type} → Sql β → Prop
  | _, .select _ => True
  | _, .selectForUpdate _ _ => True
  | _, _ => False

/-- Programs that write nothing. -/
def Tx.ReadOnly {α : Type} (x : Tx α) : Prop := x.Every Sql.IsRead

theorem Sql.IsRead.exec {β : Type} {s : Sql β} (h : s.IsRead) {b : β} {us : List Redo}
    (hs : s.exec db = .ok (b, us)) : us = [] := by
  cases s <;> simp_all [Sql.IsRead, Sql.exec]

theorem Tx.ReadOnly.run_db {α : Type} {x : Tx α} (hx : x.ReadOnly) {a : α}
    (h : x.run db = .ok (a, db')) : db = db' := by
  refine (Prog.Every.run_frame (f := fun d => d) hx ?_ h).symm
  intro β s w b us hs hexec
  rw [hs.exec hexec]
  rfl

theorem Tx.readOnly_pure {α : Type} (a : α) : Tx.ReadOnly (pure a : Tx α) := trivial

theorem Tx.readOnly_raise {α : Type} (e : Err) : Tx.ReadOnly (Prog.raise e : Tx α) := trivial

theorem Tx.readOnly_select {β : Type} (q : Db → β) : Tx.ReadOnly (Tx.select q) :=
  Prog.every_exec trivial

theorem Tx.readOnly_bind {α β : Type} {x : Tx α} {f : α → Tx β} (hx : x.ReadOnly)
    (hf : ∀ a, (f a).ReadOnly) : Tx.ReadOnly (x >>= f) := Prog.every_bind hx hf

theorem Tx.readOnly_require (c : Prop) [Decidable c] (e : Err) : Tx.ReadOnly (Tx.require c e) :=
  Prog.every_ite trivial trivial

theorem Tx.readOnly_requireSome {β : Type} (o : Option β) (e : Err) :
    Tx.ReadOnly (Tx.requireSome o e) := by
  cases o <;> trivial

/-! ## The books -/

theorem run_ensureStocksLotSlot {s : Slot} :
    (Prog.exec (.ensureStocksLotSlot s) : Tx Unit).run db = .ok (u, db') ↔
      (db.stocksLot.HasKey s ∨ db.HasLotDims s) ∧
        db' = Redo.apply (.stocksLotInsert ⟨s, 0⟩) db := by
  rw [run_sql]
  simp only [Sql.exec, violated]
  by_cases hk : db.stocksLot.HasKey s
  · -- the slot is there, so the insert would be dropped anyway
    have hid : Redo.apply (.stocksLotInsert ⟨s, 0⟩) db = db := by
      simp only [Redo.apply]
      rw [Table.insert_old hk]
    simp [hk, hid, eq_comm]
  · by_cases hd : db.HasLotDims s
    · simp [hk, hd, eq_comm]
    · simp [hk, hd]

theorem run_selectForUpdate {β : Type} {rows : Db → List Lock} {q : Db → β} {b : β} :
    (Prog.exec (.selectForUpdate rows q) : Tx β).run db = .ok (b, db') ↔ q db = b ∧ db = db' := by
  rw [run_sql]
  simp [Sql.exec, eq_comm]

theorem run_setStocksLotQty {s : Slot} {qty : Int} (hk : db.stocksLot.HasKey s) :
    (Prog.exec (.setStocksLotQty s qty) : Tx Unit).run db = .ok (u, db') ↔
      0 ≤ qty ∧ db' = Redo.apply (.stocksLotSetQty s qty) db := by
  rw [run_sql]
  simp only [Sql.exec, violated]
  by_cases hq : qty < 0
  · simp [hk, hq]
  · have : 0 ≤ qty := by omega
    simp [hk, hq, this, eq_comm]

theorem run_insertLedger {row : StockLedgerRow} :
    (Prog.exec (.insertLedger row) : Tx Unit).run db = .ok (u, db') ↔
      row.check = none ∧ ¬ db.stockLedger.HasKey row.key ∧ row.foreignKeys db = none ∧
        db' = Redo.apply (.ledgerInsert row) db := by
  rw [run_sql]
  simp only [Sql.exec, violated]
  cases row.check with
  | some c => simp
  | none =>
      by_cases hk : db.stockLedger.HasKey row.key
      · simp [hk]
      · cases row.foreignKeys db with
        | some c => simp [hk]
        | none => simp [hk, eq_comm]

/-- With its key free, the insert that ignores conflicts inserts. -/
theorem run_insertLedgerOnConflictDoNothing_new {row : StockLedgerRow} {b : Bool}
    (hk : ¬ db.stockLedger.HasKey row.key) :
    (Prog.exec (.insertLedgerOnConflictDoNothing row) : Tx Bool).run db = .ok (b, db') ↔
      row.check = none ∧ row.foreignKeys db = none ∧ b = true ∧
        db' = Redo.apply (.ledgerInsert row) db := by
  rw [run_sql]
  simp only [Sql.exec, violated]
  cases row.check with
  | some c => simp
  | none =>
      cases row.foreignKeys db with
      | some c => simp [hk]
      | none => simp [hk, eq_comm]

/-! ## Rows of the two checks -/

theorem StockLedgerRow.check_eq_none {row : StockLedgerRow} (h : row.check = none) :
    0 ≤ row.afterQty := by
  unfold StockLedgerRow.check at h
  split at h
  · cases h
  · omega

theorem StockLedgerRow.foreignKeys_eq_none {row : StockLedgerRow} :
    row.foreignKeys db = none ↔
      db.HasLotDims row.slot ∧ ∀ e, row.eventId = some e → db.wmsEvents.HasKey e := by
  unfold StockLedgerRow.foreignKeys
  by_cases hd : db.HasLotDims row.slot
  · cases he : row.eventId with
    | none => simp [hd]
    | some e =>
        by_cases hke : db.wmsEvents.HasKey e
        · simp [hd, hke]
        · simp [hd, hke]
  · simp [hd]

/-! ## Events and their lines -/

theorem run_insertEvent {e : WmsEvent} :
    (Prog.exec (.insertEvent e) : Tx Unit).run db = .ok (u, db') ↔
      0 < e.id ∧ ¬ db.wmsEvents.HasKey e.id ∧
      (∀ e' ∈ db.wmsEvents.rows, e'.eventNo ≠ e.eventNo) ∧
      (∀ e' ∈ db.wmsEvents.rows, e'.traceId ≠ e.traceId) ∧
      db.warehouses.HasKey e.warehouseId ∧
      (∀ t, e.targetEventId = some t → db.wmsEvents.HasKey t) ∧
        db' = Redo.apply (.eventInsert e) db := by
  rw [run_sql]
  simp only [Sql.exec, violated]
  split
  · rename_i h
    constructor
    · simp
    · rintro ⟨hpos, hid, -⟩
      exact absurd h (not_or.mpr ⟨not_le.mpr hpos, hid⟩)
  split
  · rename_i h
    constructor
    · simp
    · rintro ⟨-, -, hno, -⟩
      obtain ⟨e', he', heq⟩ := h
      exact absurd heq (hno e' he')
  split
  · rename_i h
    constructor
    · simp
    · rintro ⟨-, -, -, htr, -⟩
      obtain ⟨e', he', heq⟩ := h
      exact absurd heq (htr e' he')
  split
  · simp [*]
  split
  · rename_i h
    constructor
    · simp
    · rintro ⟨-, -, -, -, -, ht, -⟩
      obtain ⟨t, ht', hne⟩ := h
      exact absurd (ht t ht') hne
  · simp_all [eq_comm]

theorem run_insertOutboundLine {l : OutboundEventLine} :
    (Prog.exec (.insertOutboundLine l) : Tx Unit).run db = .ok (u, db') ↔
      l.check = none ∧ ¬ db.outboundEventLines.HasKey (l.eventId, l.refLine) ∧
      db.wmsEvents.HasKey l.eventId ∧
      (∀ o, l.orderLineId = some o → db.orderLines.HasKey o) ∧
        db' = Redo.apply (.outboundLineInsert l) db := by
  rw [run_sql]
  simp only [Sql.exec, violated]
  cases l.check with
  | some c => simp
  | none =>
      by_cases hk : db.outboundEventLines.HasKey (l.eventId, l.refLine)
      · simp [hk]
      by_cases he : db.wmsEvents.HasKey l.eventId
      · cases ho : l.orderLineId with
        | none => simp [hk, he, eq_comm]
        | some o =>
            by_cases hok : db.orderLines.HasKey o
            · simp [hk, he, hok, eq_comm]
            · simp [hk, he, hok]
      · simp [hk, he]

end WmsDu
