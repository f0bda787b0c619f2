import WmsDu.Stock.Writers
import WmsDu.System.Sample

/-!
# The two books agree

Three writers keep `stocks_lot` and `stock_ledger`: `adjust_lot_impl`, the
outbound writer and the stock step of the inbound operation. Each of them,
called with anything, posts rows or writes nothing; so any history of their
calls keeps the two books in agreement, slot by slot.
-/

namespace WmsDu

open Txn

/-- A call of one of the three writers. -/
inductive WriterCall
  | adjust (a : AdjustLotArgs)
  | outbound (w : OutboundWrite) (lines : List NormalizedLine)
  | operation (event : WmsEvent) (l : InboundEventLine) (lotId : Int)

def WriterCall.prog : WriterCall → Tx Unit
  | .adjust a => (adjustLotImpl a).forget
  | .outbound w lines => (writeEventAndLedger w lines).forget
  | .operation event l lotId => operationStockStep event l lotId

/-- The histories of the writers: they start from empty books over any other
data, a call that raises is rolled back, and in between everything outside
the two books may change. -/
inductive WriterHistory : Db → Prop
  | empty {db : Db} : db.stocksLot = .empty → db.stockLedger = .empty → WriterHistory db
  | call {db : Db} (c : WriterCall) : WriterHistory db → WriterHistory (c.prog.commit db)
  | elsewhere {db db' : Db} : WriterHistory db → db'.stocksLot = db.stocksLot →
      db'.stockLedger = db.stockLedger → WriterHistory db'

variable {db db' : Db}

theorem Db.BooksKept.of_empty (hs : db.stocksLot = .empty) (hl : db.stockLedger = .empty) :
    db.BooksKept := by
  have hqty : db.qtyOf = fun _ => 0 := by
    funext s
    rw [Db.qtyOf, hs]
    rfl
  rw [Db.BooksKept, hqty, Db.journal, hl]
  exact Book.wellKept_empty

/-- The books depend on their two tables only. -/
theorem Db.BooksKept.congr (h : db.BooksKept) (hs : db'.stocksLot = db.stocksLot)
    (hl : db'.stockLedger = db.stockLedger) : db'.BooksKept := by
  have hqty : db'.qtyOf = db.qtyOf := by
    funext s
    rw [Db.qtyOf, hs, Db.qtyOf]
  rw [Db.BooksKept, hqty, Db.journal, hl]
  exact h

/-! ## Each writer keeps the books -/

/-- Adding event lines touches neither book. -/
theorem run_insertOutboundEventLines_books {ls : List OutboundEventLine} {u : Unit}
    (h : (insertOutboundEventLines ls).run db = .ok (u, db')) :
    db'.stocksLot = db.stocksLot ∧ db'.stockLedger = db.stockLedger := by
  induction ls generalizing db with
  | nil => cases h; exact ⟨rfl, rfl⟩
  | cons l ls ih =>
      rw [insertOutboundEventLines, Prog.run_bind_ok] at h
      obtain ⟨_, _, hl, hls⟩ := h
      obtain ⟨_, _, _, _, rfl⟩ := run_insertOutboundLine.mp hl
      have hrest := ih hls
      exact hrest

/-- The outbound writer adds an event with its lines and then posts. -/
theorem run_writeEventAndLedger_books {w : OutboundWrite} {lines : List NormalizedLine}
    {saved : List OutboundEventLine}
    (h : (writeEventAndLedger w lines).run db = .ok (saved, db')) :
    ∃ db₁ rows, db₁.stocksLot = db.stocksLot ∧ db₁.stockLedger = db.stockLedger ∧
      PostsAll db₁ rows db' := by
  simp only [writeEventAndLedger, Prog.run_bind_ok, run_ensureWarehouseNotFrozen_ok,
    run_insertEvent, Tx.run_select] at h
  obtain ⟨_, _, ⟨_, rfl⟩, _, _, ⟨_, _, _, _, _, _, rfl⟩, _, _, hread, _, db₁, hlines, _, _, hship,
    hret⟩ := h
  cases hread
  cases hret
  obtain ⟨hs, hl⟩ := run_insertOutboundEventLines_books hlines
  obtain ⟨rows, hrows, -⟩ := run_shipLines_ok hship
  exact ⟨db₁, rows, hs, hl, hrows⟩

/-- **Step lemma.** A successful call of any writer keeps the books. -/
theorem WriterCall.booksKept {c : WriterCall} {u : Unit}
    (h : c.prog.run db = .ok (u, db')) (hb : db.BooksKept) : db'.BooksKept := by
  cases c with
  | adjust a =>
      obtain ⟨r, hr⟩ := Tx.run_forget_ok.mp h
      rcases run_adjustLotImpl_ok hr with ⟨-, rfl, -⟩ | ⟨_, _, _, _, _, -, -, -, hpost, -⟩
      · exact hb
      · exact hpost.booksKept hb
  | outbound w lines =>
      obtain ⟨saved, hsaved⟩ := Tx.run_forget_ok.mp h
      obtain ⟨db₁, rows, hs, hl, hrows⟩ := run_writeEventAndLedger_books hsaved
      exact hrows.booksKept (hb.congr hs hl)
  | operation event l lotId => exact (run_operationStockStep_ok h).booksKept hb

/-- **Run lemma.** Every history keeps the books. -/
theorem WriterHistory.booksKept (h : WriterHistory db) : db.BooksKept := by
  induction h with
  | empty hs hl => exact .of_empty hs hl
  | call c _ ih => exact Prog.commit_preserves (fun _ _ hrun hb => c.booksKept hrun hb) ih
  | elsewhere _ hs hl ih => exact ih.congr hs hl

/-! ## The books in the tables' own words -/

/-- The ledger rows of a slot, in insertion order. -/
def Db.ledgerOf (db : Db) (s : Slot) : List StockLedgerRow :=
  db.stockLedger.rows.filter fun r => r.slot = s

theorem entriesOf_journal (db : Db) (s : Slot) :
    Book.entriesOf s db.journal = (db.ledgerOf s).map StockLedgerRow.entry := by
  rw [Book.entriesOf, Db.journal, List.filter_map]
  rfl

/-- Kept books, read off the tables. -/
theorem Db.BooksKept.slot (h : db.BooksKept) (s : Slot) :
    db.qtyOf s = ((db.ledgerOf s).map StockLedgerRow.delta).sum ∧ 0 ≤ db.qtyOf s ∧
      (db.ledgerOf s).map StockLedgerRow.afterQty =
        Book.runningSums 0 ((db.ledgerOf s).map StockLedgerRow.delta) := by
  have hs := h s
  refine ⟨?_, hs.nonneg, ?_⟩
  · rw [hs.sum, entriesOf_journal, List.map_map]
    rfl
  · have hrun := hs.running
    rw [entriesOf_journal, List.map_map, List.map_map] at hrun
    exact hrun

/-- **The books agree after every history of the three writers**: the balance
of a slot is the sum of its ledger deltas, it is not negative, and the
`after_qty` values of its rows are the running sums of their deltas. -/
theorem writer_books_agree (h : WriterHistory db) (s : Slot) :
    db.qtyOf s = ((db.ledgerOf s).map StockLedgerRow.delta).sum ∧ 0 ≤ db.qtyOf s ∧
      (db.ledgerOf s).map StockLedgerRow.afterQty =
        Book.runningSums 0 ((db.ledgerOf s).map StockLedgerRow.delta) :=
  h.booksKept.slot s

/-- A receipt of eight and an issue of three, written by the lot writer. -/
def sampleAdjust (delta : Int) (ref : String) : WriterCall :=
  .adjust
    { itemId := 1, warehouseId := 1, lotId := some 1, delta := delta, reason := "ADJUSTMENT"
      ref := ref }

def sampleWriterDb : Db :=
  (sampleAdjust (-3) "B").prog.commit ((sampleAdjust 8 "A").prog.commit sampleDb)

theorem writer_books_agree_sample :
    (sampleWriterDb.qtyOf ⟨1, 1, 1⟩ = 5 ∧
      (sampleWriterDb.ledgerOf ⟨1, 1, 1⟩).map StockLedgerRow.afterQty = [8, 5]) ∧
    (sampleWriterDb.qtyOf ⟨1, 1, 1⟩ =
        ((sampleWriterDb.ledgerOf ⟨1, 1, 1⟩).map StockLedgerRow.delta).sum ∧
      0 ≤ sampleWriterDb.qtyOf ⟨1, 1, 1⟩ ∧
      (sampleWriterDb.ledgerOf ⟨1, 1, 1⟩).map StockLedgerRow.afterQty =
        Book.runningSums 0 ((sampleWriterDb.ledgerOf ⟨1, 1, 1⟩).map StockLedgerRow.delta)) :=
  ⟨by decide, writer_books_agree (.call _ (.call _ (.empty rfl rfl))) ⟨1, 1, 1⟩⟩

end WmsDu
