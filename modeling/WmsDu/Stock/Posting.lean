import WmsDu.Data.Book
import WmsDu.Db.Runs
import WmsDu.Stock.AdjustLot

/-!
# Posting to the two books

Every writer of the program changes stock by the same net effect: one new
ledger row, and the balance of its slot set to the row's `after_qty`. `Db.post`
is that effect and `Posts` says that a writer had it with a row that is new
and carries the right balance. The writers' own proofs end in `Posts`; what
follows from it for the books is proved here once.
-/

namespace WmsDu

open Txn

/-- What a ledger row enters into the journal. -/
def StockLedgerRow.entry (row : StockLedgerRow) : Book.Entry Slot :=
  ⟨row.slot, row.delta, row.afterQty⟩

namespace Db

/-- The ledger as a journal, in insertion order. -/
def journal (db : Db) : List (Book.Entry Slot) := db.stockLedger.rows.map StockLedgerRow.entry

/-- The two books agree on every slot. -/
def BooksKept (db : Db) : Prop := Book.WellKept db.qtyOf db.journal

/-- The net effect of one stock movement. -/
def post (row : StockLedgerRow) (db : Db) : Db :=
  Redo.apply (.stocksLotSetQty row.slot row.afterQty)
    (Redo.apply (.ledgerInsert row) (Redo.apply (.stocksLotInsert ⟨row.slot, 0⟩) db))

/-! ## Balances -/

theorem qtyOf_of_mem {db : Db} {r : StocksLotRow} (h : r ∈ db.stocksLot.rows) :
    db.qtyOf r.slot = r.qty :=
  Table.sumOver_key (f := StocksLotRow.qty) h

theorem qtyOf_of_lookup {db : Db} {s : Slot} {r : StocksLotRow}
    (h : db.stocksLot.lookup s = some r) : db.qtyOf s = r.qty := by
  obtain ⟨hr, rfl⟩ := Table.lookup_eq_some.mp h
  exact qtyOf_of_mem hr

theorem qtyOf_of_absent {db : Db} {s : Slot} (h : ¬ db.stocksLot.HasKey s) : db.qtyOf s = 0 :=
  Table.sumOver_key_absent h

/-- A locked slot answers its balance. -/
theorem map_qty_lookup {db : Db} {s : Slot} {q : Int} :
    (db.stocksLot.lookup s).map StocksLotRow.qty = some q ↔
      db.stocksLot.HasKey s ∧ db.qtyOf s = q := by
  cases h : db.stocksLot.lookup s with
  | none =>
      have hk := Table.lookup_eq_none.mp h
      simp [hk]
  | some r =>
      have hk : db.stocksLot.HasKey s := Table.hasKey_iff_isSome.mpr (by rw [h]; rfl)
      simp [hk, qtyOf_of_lookup h]

/-- Making sure a slot is there changes no balance. -/
theorem qtyOf_stocksLotInsert (db : Db) (s s' : Slot) :
    (Redo.apply (.stocksLotInsert ⟨s, 0⟩) db).qtyOf s' = db.qtyOf s' := by
  by_cases hk : db.stocksLot.HasKey s
  · simp only [Redo.apply]
    rw [Table.insert_old hk]
  · simp only [qtyOf, Redo.apply]
    rw [Table.sumOver_insert_new hk]
    simp

theorem hasKey_stocksLotInsert (db : Db) (s : Slot) (q : Int) :
    (Redo.apply (.stocksLotInsert ⟨s, q⟩) db).stocksLot.HasKey s :=
  Table.hasKey_insert.mpr (Or.inr rfl)

theorem qtyOf_stocksLotSetQty {db : Db} {s : Slot} (hk : db.stocksLot.HasKey s) (q : Int)
    (s' : Slot) :
    (Redo.apply (.stocksLotSetQty s q) db).qtyOf s' = if s' = s then q else db.qtyOf s' := by
  by_cases hs : s' = s
  · subst hs
    rw [if_pos rfl]
    obtain ⟨r, hr, rfl⟩ := hk
    have hmem : ({ r with qty := q } : StocksLotRow) ∈
        (Redo.apply (.stocksLotSetQty r.slot q) db).stocksLot.rows := by
      simp only [Redo.apply]
      rw [Table.mem_update]
      exact ⟨r, hr, by rw [if_pos rfl]⟩
    exact qtyOf_of_mem hmem
  · rw [if_neg hs]
    simp only [qtyOf, Redo.apply]
    rw [Table.sumOver_update_frame]
    · intro r _ _
      exact Iff.rfl
    · intro r _ hrs hrs'
      exact absurd (hrs'.symm.trans hrs) hs

theorem qtyOf_post (row : StockLedgerRow) (db : Db) (s : Slot) :
    (db.post row).qtyOf s = if s = row.slot then row.afterQty else db.qtyOf s := by
  have hk : (Redo.apply (.ledgerInsert row)
      (Redo.apply (.stocksLotInsert ⟨row.slot, 0⟩) db)).stocksLot.HasKey row.slot :=
    hasKey_stocksLotInsert db row.slot 0
  rw [post, qtyOf_stocksLotSetQty hk]
  congr 1
  exact qtyOf_stocksLotInsert db row.slot s

theorem rows_post {row : StockLedgerRow} {db : Db} (h : ¬ db.stockLedger.HasKey row.key) :
    (db.post row).stockLedger.rows = db.stockLedger.rows ++ [row] :=
  Table.rows_insert_new h

theorem journal_post {row : StockLedgerRow} {db : Db} (h : ¬ db.stockLedger.HasKey row.key) :
    (db.post row).journal = db.journal ++ [row.entry] := by
  rw [journal, rows_post h, List.map_append, List.map_singleton, journal]

/-- Setting the balance a slot already has changes nothing. -/
theorem stocksLotSetQty_self {db : Db} {s : Slot} {q : Int} (hq : db.qtyOf s = q) :
    Redo.apply (.stocksLotSetQty s q) db = db := by
  simp only [Redo.apply]
  have hrows : db.stocksLot.update (fun r => r.slot = s) (fun r => { r with qty := q })
      (fun _ => rfl) = db.stocksLot := by
    refine Table.ext_rows ?_
    rw [Table.rows_update]
    conv_rhs => rw [← List.map_id db.stocksLot.rows]
    refine List.map_congr_left ?_
    intro r hr
    by_cases hs : r.slot = s
    · subst hs
      rw [if_pos rfl, ← hq, qtyOf_of_mem hr, id]
    · rw [if_neg hs, id]
  rw [hrows]

end Db

/-! ## The posting relation -/

/-- `db'` is `db` after one movement: `row` is new, carries the slot's balance
plus its delta, does not overdraw, and names an existing lot and event. -/
structure Posts (db : Db) (row : StockLedgerRow) (db' : Db) : Prop where
  fresh : ¬ db.stockLedger.HasKey row.key
  after : row.afterQty = db.qtyOf row.slot + row.delta
  nonneg : 0 ≤ row.afterQty
  dims : db.HasLotDims row.slot
  event : ∀ e, row.eventId = some e → db.wmsEvents.HasKey e
  eq : db' = db.post row

namespace Posts

variable {db db' : Db} {row : StockLedgerRow}

theorem qtyOf (h : Posts db row db') (s : Slot) :
    db'.qtyOf s = db.qtyOf s + if s = row.slot then row.delta else 0 := by
  rw [h.eq, Db.qtyOf_post]
  by_cases hs : s = row.slot
  · rw [if_pos hs, if_pos hs, h.after, hs]
  · rw [if_neg hs, if_neg hs, add_zero]

theorem rows (h : Posts db row db') :
    db'.stockLedger.rows = db.stockLedger.rows ++ [row] := by
  rw [h.eq, Db.rows_post h.fresh]

theorem mem_rows (h : Posts db row db') {r : StockLedgerRow} :
    r ∈ db'.stockLedger.rows ↔ r ∈ db.stockLedger.rows ∨ r = row := by
  rw [h.rows, List.mem_append, List.mem_singleton]

theorem ledgerSum (h : Posts db row db') (s : Slot) :
    db'.ledgerSum s = db.ledgerSum s + if s = row.slot then row.delta else 0 := by
  rw [Db.ledgerSum, h.rows, sumOver_append, sumOver_singleton]
  simp only [eq_comm, Db.ledgerSum]

/-- A movement moves the stock of a group of slots by its delta, when its slot
is one of them. -/
theorem sumOver_qty (h : Posts db row db') (p : Slot → Prop) [DecidablePred p] :
    sumOver (fun r : StocksLotRow => p r.slot) StocksLotRow.qty db'.stocksLot.rows =
      sumOver (fun r : StocksLotRow => p r.slot) StocksLotRow.qty db.stocksLot.rows +
        if p row.slot then row.delta else 0 := by
  -- the slot is there once it is ensured, with the balance it had
  have hensure : sumOver (fun r : StocksLotRow => p r.slot) StocksLotRow.qty
      (db.stocksLot.insert ⟨row.slot, 0⟩).rows =
        sumOver (fun r : StocksLotRow => p r.slot) StocksLotRow.qty db.stocksLot.rows := by
    by_cases hk : db.stocksLot.HasKey row.slot
    · rw [Table.insert_old hk]
    · rw [Table.sumOver_insert_new hk, ite_self, add_zero]
  obtain ⟨r, hr, hslot⟩ := Db.hasKey_stocksLotInsert db row.slot 0
  have hqty : r.qty = db.qtyOf row.slot := by
    rw [← Db.qtyOf_of_mem hr, hslot, Db.qtyOf_stocksLotInsert]
  have hmove := Table.sumOver_update_key (q := fun r : StocksLotRow => p r.slot)
    (g := StocksLotRow.qty) (u := fun r : StocksLotRow => { r with qty := row.afterQty })
    (fun _ => rfl) hr Iff.rfl
  rw [hslot, hqty] at hmove
  have hafter := h.after
  rw [h.eq]
  refine hmove.trans (congrArg₂ (· + ·) hensure ?_)
  split
  · exact sub_eq_iff_eq_add'.mpr hafter
  · rfl

/-- **A movement keeps the books.** -/
theorem booksKept (h : Posts db row db') (hb : db.BooksKept) : db'.BooksKept := by
  have hpost := hb.post (e := row.entry) h.after h.nonneg
  have hqty : db'.qtyOf = Book.postBalance db.qtyOf row.entry := by
    funext s
    rw [h.eq, Db.qtyOf_post]
    rfl
  have hjournal : db'.journal = db.journal ++ [row.entry] := by
    rw [h.eq, Db.journal_post h.fresh]
  rw [Db.BooksKept, hqty, hjournal]
  exact hpost

end Posts

/-! ## Postings one after another -/

/-- Everything but the two books. -/
def Db.outsideBooks (db : Db) : Db := { db with stocksLot := .empty, stockLedger := .empty }

@[simp] theorem Db.outsideBooks_post (row : StockLedgerRow) (db : Db) :
    (db.post row).outsideBooks = db.outsideBooks := rfl

/-- `db'` is `db` after the movements `rows`, in this order. -/
inductive PostsAll : Db → List StockLedgerRow → Db → Prop
  | nil (db : Db) : PostsAll db [] db
  | cons {db db₁ db' : Db} {row : StockLedgerRow} {rows : List StockLedgerRow} :
      Posts db row db₁ → PostsAll db₁ rows db' → PostsAll db (row :: rows) db'

namespace PostsAll

variable {db db' : Db} {rows : List StockLedgerRow}

theorem ledgerRows (h : PostsAll db rows db') :
    db'.stockLedger.rows = db.stockLedger.rows ++ rows := by
  induction h with
  | nil db => rw [List.append_nil]
  | cons hp _ ih => rw [ih, hp.rows, List.append_assoc, List.singleton_append]

theorem qtyOf (h : PostsAll db rows db') (s : Slot) :
    db'.qtyOf s =
      db.qtyOf s + sumOver (fun r : StockLedgerRow => r.slot = s) StockLedgerRow.delta rows := by
  induction h with
  | nil db => rw [sumOver_nil, add_zero]
  | cons hp _ ih =>
      rw [ih, hp.qtyOf, sumOver_cons]
      simp only [eq_comm, add_assoc]

theorem booksKept (h : PostsAll db rows db') (hb : db.BooksKept) : db'.BooksKept := by
  induction h with
  | nil db => exact hb
  | cons hp _ ih => exact ih (hp.booksKept hb)

/-- Movements leave every other table alone. -/
theorem outsideBooks (h : PostsAll db rows db') : db'.outsideBooks = db.outsideBooks := by
  induction h with
  | nil db => rfl
  | cons hp _ ih => rw [ih, hp.eq, Db.outsideBooks_post]

theorem single {row : StockLedgerRow} (h : Posts db row db') : PostsAll db [row] db' :=
  .cons h (.nil db')

theorem append {db₁ : Db} {rows' : List StockLedgerRow} (h : PostsAll db rows db₁)
    (h' : PostsAll db₁ rows' db') : PostsAll db (rows ++ rows') db' := by
  induction h with
  | nil db => exact h'
  | cons hp _ ih => exact .cons hp (ih h')

end PostsAll

/-! ## The lot writer posts -/

section AdjustLot
variable {db db' : Db}

theorem run_ofExcept_ok {β : Type} {x : Except Err β} {b : β} :
    (Tx.ofExcept x).run db = .ok (b, db') ↔ x = .ok b ∧ db = db' := by
  cases x with
  | error e => simp [Tx.ofExcept]
  | ok b' => simp [Tx.ofExcept]

theorem run_itemRequiresBatch_ok {itemId : Int} {b : Bool} :
    (itemRequiresBatch itemId).run db = .ok (b, db') ↔
      ∃ item, db.items.lookup itemId = some item ∧
        b = decide (item.policy.expiryPolicy = .required) ∧ db = db' := by
  simp only [itemRequiresBatch, Prog.run_bind_ok, Tx.run_select, Tx.run_requireSome_ok,
    Except.ok.injEq, Prod.mk.injEq, Prog.run_pure]
  constructor
  · rintro ⟨_, _, ⟨rfl, rfl⟩, item, _, ⟨hitem, rfl⟩, rfl, rfl⟩
    exact ⟨item, hitem, rfl, rfl⟩
  · rintro ⟨item, hitem, rfl, rfl⟩
    exact ⟨_, _, ⟨rfl, rfl⟩, item, _, ⟨hitem, rfl⟩, rfl, rfl⟩

theorem run_assertLotBelongsTo_ok {w i l : Int} {u : Unit} :
    (assertLotBelongsTo w i l).run db = .ok (u, db') ↔ db.HasLotDims ⟨w, i, l⟩ ∧ db = db' := by
  simp only [assertLotBelongsTo, Prog.run_bind_ok, Tx.run_select, Tx.run_requireSome_ok,
    Tx.run_require_ok, Except.ok.injEq, Prod.mk.injEq]
  constructor
  · rintro ⟨_, _, ⟨rfl, rfl⟩, lot, _, ⟨hlot, rfl⟩, ⟨rfl, rfl⟩, rfl⟩
    obtain ⟨hmem, rfl⟩ := Table.lookup_eq_some.mp hlot
    exact ⟨⟨lot, hmem, rfl⟩, rfl⟩
  · rintro ⟨⟨lot, hmem, hslot⟩, rfl⟩
    simp only [Lot.slot, Slot.mk.injEq] at hslot
    exact ⟨_, _, ⟨rfl, rfl⟩, lot, _, ⟨Table.lookup_eq_some.mpr ⟨hmem, hslot.2.2⟩, rfl⟩,
      ⟨hslot.1, hslot.2.1⟩, rfl⟩

theorem run_idemHitByLotKey (k : IdemKey) :
    (idemHitByLotKey k).run db = .ok (decide (db.stockLedger.HasKey k), db) := rfl

theorem run_lockStocksLotSlotForUpdate_ok {s : Slot} {q : Int} :
    (lockStocksLotSlotForUpdate s).run db = .ok (q, db') ↔
      db.stocksLot.HasKey s ∧ db.qtyOf s = q ∧ db = db' := by
  simp only [lockStocksLotSlotForUpdate, selectSlotForUpdate, Prog.run_bind_ok,
    run_selectForUpdate, Tx.run_requireSome_ok]
  constructor
  · rintro ⟨_, _, ⟨rfl, rfl⟩, hq, rfl⟩
    have h := Db.map_qty_lookup.mp hq
    exact ⟨h.1, h.2, rfl⟩
  · rintro ⟨hk, hq, rfl⟩
    exact ⟨_, _, ⟨rfl, rfl⟩, Db.map_qty_lookup.mpr ⟨hk, hq⟩, rfl⟩

/-- A ledger write whose key is free writes the row. -/
theorem run_writeLedger_new {row : StockLedgerRow} {b : Bool}
    (hk : ¬ db.stockLedger.HasKey row.key) :
    (writeLedger row).run db = .ok (b, db') ↔
      row.check = none ∧ row.foreignKeys db = none ∧ b = true ∧
        db' = Redo.apply (.ledgerInsert row) db := by
  simp only [writeLedger, Prog.run_bind_ok, run_assertLotBelongsTo_ok]
  constructor
  · rintro ⟨_, _, ⟨-, rfl⟩, inserted, db₁, hins, _, db₂, hpatch, h⟩
    obtain ⟨hcheck, hfk, rfl, rfl⟩ := (run_insertLedgerOnConflictDoNothing_new hk).mp hins
    rw [Tx.run_when_of_not (by simp)] at hpatch
    cases hpatch
    cases h
    exact ⟨hcheck, hfk, rfl, rfl⟩
  · rintro ⟨hcheck, hfk, rfl, rfl⟩
    exact ⟨(), db, ⟨(StockLedgerRow.foreignKeys_eq_none.mp hfk).1, rfl⟩, true, _,
      (run_insertLedgerOnConflictDoNothing_new hk).mpr ⟨hcheck, hfk, rfl, rfl⟩, (), _,
      Tx.run_when_of_not (by simp), rfl⟩

/-- A row `write_ledger` builds breaks no check unless it overdraws. -/
theorem ledgerRow_check {k : IdemKey} {sub trace : Option String} {delta after : Int}
    {ts : Timestamp} {ev : Option Int} {pd ed : Option Date} :
    (ledgerRow k sub delta after ts trace ev pd ed).check = none ↔ 0 ≤ after := by
  unfold StockLedgerRow.check ledgerRow
  by_cases h : canonReason k.reason = some "RECEIPT" <;> simp [h]

/-- The ledger row `adjust_lot_impl` writes when it applies a call. -/
def AdjustLotArgs.row (a : AdjustLotArgs) (db : Db) (lotId : Int) (subReason : Option String)
    (eventId : Option Int) (productionDate expiryDate : Option Date) : StockLedgerRow :=
  ledgerRow (a.key lotId) subReason a.delta (db.qtyOf (a.key lotId).slot + a.delta)
    (a.occurredAt.getD a.utcNow) a.traceId eventId productionDate expiryDate

/-- What `adjust_lot_impl` answers when it applies a call. -/
def AdjustLotArgs.answer (a : AdjustLotArgs) (db : Db) (lotId : Int) (eventId : Option Int)
    (productionDate expiryDate : Option Date) : AdjustLotApplied :=
  { lotId := lotId, before := db.qtyOf (a.key lotId).slot, delta := a.delta
    after := db.qtyOf (a.key lotId).slot + a.delta
    reason := a.reason, ref := a.ref, refLine := (a.key lotId).refLine
    metaOut := metaOut a.metaDict a.traceId eventId
    occurredAt := a.occurredAt.getD a.utcNow
    productionDate := productionDate, expiryDate := expiryDate }

private theorem run_displayCode {a : AdjustLotArgs} {lotId : Int} :
    (Tx.when (normLotCode a.lotCode = none) (do let _ ← loadLotCodeForLotId lotId)).run db =
      .ok ((), db) := by
  by_cases h : normLotCode a.lotCode = none
  · rw [Tx.run_when_of h]; rfl
  · rw [Tx.run_when_of_not h]

/-- **Behind the probe the lot writer posts one row**, and it succeeds exactly
when that row can be posted. -/
theorem run_adjustLotBook_new {a : AdjustLotArgs} {lotId : Int} {sub : Option String}
    {ev : Option Int} {pd ed : Option Date} {r : AdjustLotResult}
    (hk : ¬ db.stockLedger.HasKey (a.key lotId)) :
    (adjustLotBook a lotId sub ev pd ed).run db = .ok (r, db') ↔
      Posts db (a.row db lotId sub ev pd ed) db' ∧ r = .applied (a.answer db lotId ev pd ed) := by
  have hslot : ∀ s, (Redo.apply (.stocksLotInsert ⟨(a.key lotId).slot, 0⟩) db).qtyOf s =
      db.qtyOf s := Db.qtyOf_stocksLotInsert db _
  have hnew : (if a.delta = 0 then db.qtyOf (a.key lotId).slot
      else db.qtyOf (a.key lotId).slot + a.delta) = db.qtyOf (a.key lotId).slot + a.delta := by
    split
    · omega
    · rfl
  simp only [adjustLotBook, Prog.run_bind_ok, run_ensureStocksLotSlot,
    run_lockStocksLotSlotForUpdate_ok, Tx.run_require_ok, run_displayCode]
  constructor
  · rintro ⟨_, _, ⟨_, rfl⟩, q, _, ⟨_, hq, rfl⟩, _, _, ⟨hle, rfl⟩, _, _, hdisp, b, _, hw, _, _,
      hset, hr⟩
    cases hdisp
    rw [hslot] at hq
    subst hq
    rw [hnew] at hw hle hset
    obtain ⟨hcheck, hfk, rfl, rfl⟩ := (run_writeLedger_new hk).mp hw
    have hfk' := StockLedgerRow.foreignKeys_eq_none.mp hfk
    have hnonneg := ledgerRow_check.mp hcheck
    cases hr
    refine ⟨⟨hk, rfl, hnonneg, hfk'.1, hfk'.2, ?_⟩, by simp only [AdjustLotArgs.answer, hnew]⟩
    by_cases hd : a.delta = 0
    · rw [Tx.run_when_of_not (by simp [hd])] at hset
      cases hset
      refine (Db.stocksLotSetQty_self ?_).symm
      exact (hslot _).trans (by simp [AdjustLotArgs.row, ledgerRow, hd])
    · rw [Tx.run_when_of hd] at hset
      refine ((run_setStocksLotQty ?_).mp hset).2
      exact Db.hasKey_stocksLotInsert db (a.key lotId).slot 0
  · rintro ⟨hpost, rfl⟩
    have hcheck : (a.row db lotId sub ev pd ed).check = none := ledgerRow_check.mpr hpost.nonneg
    have hfk : (a.row db lotId sub ev pd ed).foreignKeys
        (Redo.apply (.stocksLotInsert ⟨(a.key lotId).slot, 0⟩) db) = none :=
      StockLedgerRow.foreignKeys_eq_none.mpr ⟨hpost.dims, hpost.event⟩
    refine ⟨(), _, ⟨Or.inr hpost.dims, rfl⟩, db.qtyOf (a.key lotId).slot, _,
      ⟨Db.hasKey_stocksLotInsert db _ 0, hslot _, rfl⟩, (), _, ⟨?_, rfl⟩, (), _, rfl, true,
      Redo.apply (.ledgerInsert (a.row db lotId sub ev pd ed))
        (Redo.apply (.stocksLotInsert ⟨(a.key lotId).slot, 0⟩) db),
      ?_, (), db', ?_, ?_⟩
    · rw [hnew]
      exact Or.inr hpost.nonneg
    · rw [hnew]
      exact (run_writeLedger_new hk).mpr ⟨hcheck, hfk, rfl, rfl⟩
    · rw [hnew]
      by_cases hd : a.delta = 0
      · rw [Tx.run_when_of_not (by simp [hd]), hpost.eq]
        congr 2
        refine (Db.stocksLotSetQty_self ?_).symm
        exact (hslot _).trans (by simp [AdjustLotArgs.row, ledgerRow, hd])
      · rw [Tx.run_when_of hd]
        refine (run_setStocksLotQty ?_).mpr ⟨hpost.nonneg, hpost.eq⟩
        exact Db.hasKey_stocksLotInsert db (a.key lotId).slot 0
    · simp only [AdjustLotArgs.answer, hnew]
      rfl

/-! ### The whole call -/

theorem readOnly_ofExcept {β : Type} (x : Except Err β) : (Tx.ofExcept x).ReadOnly := by
  cases x <;> trivial

theorem readOnly_itemRequiresBatch (i : Int) : (itemRequiresBatch i).ReadOnly :=
  Tx.readOnly_bind (Tx.readOnly_select _) fun _ =>
    Tx.readOnly_bind (Tx.readOnly_requireSome _ _) fun _ => Tx.readOnly_pure _

theorem readOnly_assertLotBelongsTo (w i l : Int) : (assertLotBelongsTo w i l).ReadOnly :=
  Tx.readOnly_bind (Tx.readOnly_select _) fun _ =>
    Tx.readOnly_bind (Tx.readOnly_requireSome _ _) fun _ => Tx.readOnly_require _ _

theorem readOnly_normalizeBatchDates (i : Int) (pd ed : Option Date) :
    (normalizeBatchDatesForItem i pd ed).ReadOnly := by
  unfold normalizeBatchDatesForItem
  split
  · exact Tx.readOnly_pure _
  · refine Tx.readOnly_bind (Tx.readOnly_select _) fun item => ?_
    -- every branch behind the read only returns or raises
    cases item with
    | none => cases pd <;> cases ed <;> dsimp only <;> (repeat' split) <;> trivial
    | some item =>
        cases pd <;> cases ed <;> dsimp only <;> (repeat' split) <;> trivial

theorem readOnly_resolveDates (i delta : Int) (code : Option String) (pd ed : Option Date) :
    (resolveAndValidateDatesForInbound i delta code pd ed).ReadOnly := by
  unfold resolveAndValidateDatesForInbound
  split
  · exact Tx.readOnly_pure _
  · refine Tx.readOnly_bind (readOnly_normalizeBatchDates i pd ed) fun r => ?_
    obtain ⟨pd', ed', mode⟩ := r
    refine Tx.readOnly_bind (Tx.readOnly_require _ _) fun _ => ?_
    refine Tx.readOnly_bind (Tx.readOnly_require _ _) fun _ => ?_
    cases pd' <;> cases ed' <;> dsimp only <;> (repeat' split) <;> trivial

/-- **What a call of the lot writer did.** It answered that there is nothing
to apply and wrote nothing, or it posted one row. -/
theorem run_adjustLotImpl_ok {a : AdjustLotArgs} {r : AdjustLotResult}
    (h : (adjustLotImpl a).run db = .ok (r, db')) :
    (r = .idempotent ∧ db' = db ∧
      (a.delta = 0 ∨ ∃ lotId, a.lotId = some lotId ∧ db.stockLedger.HasKey (a.key lotId))) ∨
    ∃ lotId sub ev pd ed, a.lotId = some lotId ∧ metaStr a.metaDict "sub_reason" = .ok sub ∧
      metaInt a.metaDict "event_id" = .ok ev ∧
      Posts db (a.row db lotId sub ev pd ed) db' ∧
      r = .applied (a.answer db lotId ev pd ed) := by
  simp only [adjustLotImpl, Prog.run_bind_ok, run_ofExcept_ok] at h
  obtain ⟨sub, _, ⟨hsub, rfl⟩, ev, _, ⟨hev, rfl⟩, h⟩ := h
  split at h
  · rename_i hz
    cases h
    exact Or.inl ⟨rfl, rfl, Or.inl hz.1⟩
  · simp only [Prog.run_bind_ok, Tx.run_require_ok, Tx.run_requireSome_ok,
      run_assertLotBelongsTo_ok] at h
    obtain ⟨_, _, ⟨_, rfl⟩, lotId, _, ⟨hlot, rfl⟩, batch, _, hbatch, _, _, ⟨_, rfl⟩, _, _,
      ⟨_, rfl⟩, ⟨pd, ed⟩, _, hdates, hit, _, hprobe, h⟩ := h
    obtain rfl := (readOnly_itemRequiresBatch _).run_db hbatch
    obtain rfl := (readOnly_resolveDates _ _ _ _ _).run_db hdates
    rw [run_idemHitByLotKey] at hprobe
    cases hprobe
    by_cases hk : db.stockLedger.HasKey (a.key lotId)
    · simp only [hk, decide_true, if_true] at h
      cases h
      exact Or.inl ⟨rfl, rfl, Or.inr ⟨lotId, hlot, hk⟩⟩
    · simp only [hk, decide_false, Bool.false_eq_true, if_false] at h
      obtain ⟨hpost, hr⟩ := (run_adjustLotBook_new hk).mp h
      exact Or.inr ⟨lotId, sub, ev, pd, ed, hlot, hsub, hev, hpost, hr⟩

end AdjustLot

end WmsDu
