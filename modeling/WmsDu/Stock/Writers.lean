import WmsDu.Inbound.Operation
import WmsDu.Outbound.Submit
import WmsDu.Stock.Posting

/-!
# The raw writers post

The outbound writer locks the slot and updates it, the inbound operation
upserts it; neither goes through `adjust_lot_impl`. Both have the same net
effect as one posting, and succeed exactly when that posting is possible.
-/

namespace WmsDu

open Txn

variable {db db' : Db}

/-! ## The outbound writer -/

/-- Making sure a slot is there does nothing when it is. -/
theorem stocksLotInsert_hasKey {s : Slot} {q : Int} (hk : db.stocksLot.HasKey s) :
    Redo.apply (.stocksLotInsert ⟨s, q⟩) db = db := by
  simp only [Redo.apply]
  rw [Table.insert_old hk]

/-- A posting to a slot that is there needs no insert. -/
theorem Db.post_hasKey {row : StockLedgerRow} (hk : db.stocksLot.HasKey row.slot) :
    db.post row = Redo.apply (.stocksLotSetQty row.slot row.afterQty)
      (Redo.apply (.ledgerInsert row) db) := by
  rw [Db.post, stocksLotInsert_hasKey hk]

/-- The slot an outbound line leaves from. -/
def OutboundEventLine.slotIn (l : OutboundEventLine) (warehouseId : Int) : Slot :=
  ⟨warehouseId, l.itemId, l.lotId⟩

/-- The ledger row of a line shipped in the state `db`. -/
def shipRow (event : WmsEvent) (sourceRef : String) (l : OutboundEventLine) (db : Db) :
    StockLedgerRow :=
  outboundLedgerRow event sourceRef l (db.qtyOf (l.slotIn event.warehouseId) - l.qtyOutbound)

theorem outboundLedgerRow_check {event : WmsEvent} {ref : String} {l : OutboundEventLine}
    {after : Int} : (outboundLedgerRow event ref l after).check = none ↔ 0 ≤ after := by
  simp [StockLedgerRow.check, outboundLedgerRow]

/-- **An outbound line posts one row**, and succeeds exactly when its slot is
there and the row can be posted. -/
theorem run_shipLine_ok {event : WmsEvent} {ref : String} {l : OutboundEventLine} {u : Unit} :
    (shipLine event ref l).run db = .ok (u, db') ↔
      db.stocksLot.HasKey (l.slotIn event.warehouseId) ∧
        Posts db (shipRow event ref l db) db' := by
  simp only [shipLine, selectSlotForUpdate, Prog.run_bind_ok, run_selectForUpdate,
    Tx.run_requireSome_ok, Tx.run_require_ok, run_insertLedger]
  constructor
  · rintro ⟨_, _, ⟨rfl, rfl⟩, q, _, ⟨hq, rfl⟩, _, _, ⟨_, rfl⟩, _, _, ⟨hcheck, hkey, hfk, rfl⟩,
      hset⟩
    obtain ⟨hk, rfl⟩ := Db.map_qty_lookup.mp hq
    have hfk' := StockLedgerRow.foreignKeys_eq_none.mp hfk
    refine ⟨hk, ⟨hkey, ?_, outboundLedgerRow_check.mp hcheck, hfk'.1, hfk'.2, ?_⟩⟩
    · exact Int.sub_eq_add_neg
    · have hset' := (@run_setStocksLotQty (Redo.apply (.ledgerInsert _) db) _ _ _ _ hk).mp hset
      exact hset'.2.trans (@Db.post_hasKey db (shipRow event ref l db) hk).symm
  · rintro ⟨hk, hpost⟩
    have hnonneg : 0 ≤ db.qtyOf (l.slotIn event.warehouseId) - l.qtyOutbound := hpost.nonneg
    refine ⟨_, _, ⟨rfl, rfl⟩, _, _, ⟨Db.map_qty_lookup.mpr ⟨hk, rfl⟩, rfl⟩, (), _,
      ⟨Int.sub_nonneg.mp hnonneg, rfl⟩, (), _,
      ⟨outboundLedgerRow_check.mpr hnonneg, hpost.fresh,
        StockLedgerRow.foreignKeys_eq_none.mpr ⟨hpost.dims, hpost.event⟩, rfl⟩, ?_⟩
    refine (@run_setStocksLotQty (Redo.apply (.ledgerInsert _) db) _ _ _ _ hk).mpr ⟨hnonneg, ?_⟩
    exact hpost.eq.trans (Db.post_hasKey hk)

/-- The lines of one event post one row each. -/
theorem run_shipLines_ok {event : WmsEvent} {ref : String} {ls : List OutboundEventLine}
    {u : Unit} (h : (shipLines event ref ls).run db = .ok (u, db')) :
    ∃ rows, PostsAll db rows db' ∧
      List.Forall₂ (fun l row => ∃ after, row = outboundLedgerRow event ref l after) ls rows := by
  induction ls generalizing db with
  | nil =>
      cases h
      exact ⟨[], .nil _, .nil⟩
  | cons l ls ih =>
      rw [shipLines, Prog.run_bind_ok] at h
      obtain ⟨_, db₁, hl, hls⟩ := h
      obtain ⟨rows, hrows, hall⟩ := ih hls
      exact ⟨_, .cons (run_shipLine_ok.mp hl).2 hrows, .cons ⟨_, rfl⟩ hall⟩

/-! ## The inbound operation -/

/-- Inserting a balance is making sure the slot is there and setting it. -/
theorem stocksLotSetQty_insert {s : Slot} (hk : ¬ db.stocksLot.HasKey s) (d : Int) :
    Redo.apply (.stocksLotSetQty s d) (Redo.apply (.stocksLotInsert ⟨s, 0⟩) db) =
      Redo.apply (.stocksLotInsert ⟨s, d⟩) db := by
  simp only [Redo.apply]
  congr 1
  refine Table.ext_rows ?_
  rw [Table.rows_update, Table.rows_insert_new hk, Table.rows_insert_new hk, List.map_append,
    List.map_singleton, if_pos rfl]
  congr 1
  conv_rhs => rw [← List.map_id db.stocksLot.rows]
  refine List.map_congr_left ?_
  intro r hr
  have hne : r.slot ≠ s := fun h => hk ⟨r, hr, h⟩
  rw [if_neg hne, id]

/-- The upsert adds a non-negative delta to the balance and answers it. -/
theorem run_addStocksLotQty {s : Slot} {d q : Int} :
    (Prog.exec (.addStocksLotQty s d) : Tx Int).run db = .ok (q, db') ↔
      0 ≤ d ∧ 0 ≤ q ∧ (db.stocksLot.HasKey s ∨ db.HasLotDims s) ∧ q = db.qtyOf s + d ∧
        db' = Redo.apply (.stocksLotSetQty s q) (Redo.apply (.stocksLotInsert ⟨s, 0⟩) db) := by
  rw [Prog.run_exec_ok]
  simp only [Database.exec, Sql.exec, violated]
  by_cases hd : d < 0
  · have : ¬ 0 ≤ d := by omega
    simp [hd, this]
  · have hd' : 0 ≤ d := by omega
    simp only [hd, if_false, hd', true_and]
    cases hl : db.stocksLot.lookup s with
    | some row =>
        have hk : db.stocksLot.HasKey s := Table.hasKey_iff_isSome.mpr (by rw [hl]; rfl)
        rw [Db.qtyOf_of_lookup hl, stocksLotInsert_hasKey hk]
        by_cases hq : row.qty + d < 0
        · simp only [hq, if_true, hk, true_or, true_and]
          constructor
          · rintro ⟨us, h, -⟩
            cases h
          · rintro ⟨hq', rfl, -⟩
            omega
        · simp only [hq, if_false, hk, true_or, true_and, Except.ok.injEq, Prod.mk.injEq]
          constructor
          · rintro ⟨us, ⟨rfl, rfl⟩, rfl⟩
            exact ⟨not_lt.mp hq, rfl, rfl⟩
          · rintro ⟨_, rfl, rfl⟩
            exact ⟨_, ⟨rfl, rfl⟩, rfl⟩
    | none =>
        have hk := Table.lookup_eq_none.mp hl
        rw [Db.qtyOf_of_absent hk, zero_add]
        by_cases hdm : db.HasLotDims s
        · simp only [hk, hdm, not_true_eq_false, if_false, or_true, true_and, Except.ok.injEq,
            Prod.mk.injEq]
          constructor
          · rintro ⟨us, ⟨rfl, rfl⟩, rfl⟩
            exact ⟨hd', rfl, (stocksLotSetQty_insert hk _).symm⟩
          · rintro ⟨_, rfl, rfl⟩
            exact ⟨_, ⟨rfl, rfl⟩, stocksLotSetQty_insert hk q⟩
        · simp [hk, hdm]

/-- The ledger row of an operation line received in the state `db`. -/
def operationRow (event : WmsEvent) (l : InboundEventLine) (lotId : Int) (db : Db) :
    StockLedgerRow :=
  operationLedgerRow event l lotId (db.qtyOf ⟨event.warehouseId, l.itemId, lotId⟩ + l.qtyBase)

/-- **The stock step of an operation posts one row.** -/
theorem run_operationStockStep_ok {event : WmsEvent} {l : InboundEventLine} {lotId : Int}
    {u : Unit} (h : (operationStockStep event l lotId).run db = .ok (u, db')) :
    Posts db (operationRow event l lotId db) db' := by
  simp only [operationStockStep, Prog.run_bind_ok, run_addStocksLotQty, run_insertLedger] at h
  obtain ⟨q, _, ⟨_, _, _, rfl, rfl⟩, hcheck, hkey, hfk, rfl⟩ := h
  have hfk' := StockLedgerRow.foreignKeys_eq_none.mp hfk
  exact ⟨hkey, rfl, StockLedgerRow.check_eq_none hcheck, hfk'.1, hfk'.2, rfl⟩

end WmsDu
