import WmsDu.Stock.Posting
import WmsDu.Stock.ThreeBooks
import WmsDu.System.Sample

/-!
# What the three-books gate accepts

The gate compares the stock with a snapshot it has just taken from the stock,
when the time of the commit is of today, and with whatever the snapshot of
that day was, when it is not; the ledger it reads only row by row. So it
accepts the consistent commits of today and of the days whose snapshot still
has today's stock, and it never sees a book that drifted.
-/

namespace WmsDu.ThreeBooks

open Txn

variable {db : Db} {ref : String} {effects : List Effect} {t : AwareTime} {today : Date}

/-- The gate returns normally. -/
def Accepts (db : Db) (today : Date) (ref : String) (effects : List Effect) (t : AwareTime) : Prop :=
  ∃ db', (enforceThreeBooks today ref effects t).run db = .ok ((), db')

/-- The ledger has a row of the effect with its delta. -/
def Effect.Recorded (db : Db) (ref : String) (e : Effect) : Prop :=
  ∃ lotId, e.lotIn db = some lotId ∧
    ∃ row ∈ db.stockLedger.rows, e.Means ref lotId row ∧ row.delta = e.qty

/-- The ledger of an item in a warehouse, over all its lots. -/
def ledgerTotal (db : Db) (warehouseId itemId : Int) : Int :=
  sumOver (fun r : StockLedgerRow => r.slot.warehouseId = warehouseId ∧ r.slot.itemId = itemId)
    StockLedgerRow.delta db.stockLedger.rows

/-- The ledger and the stock of the effect's item agree. -/
def Effect.BooksAgree (db : Db) (e : Effect) : Prop :=
  ledgerTotal db e.warehouseId e.itemId = db.itemTotal e.warehouseId e.itemId

theorem Effect.Found.recorded {e : Effect} (h : e.Found db ref) : e.Recorded db ref := by
  obtain ⟨lotId, hlot, hdelta⟩ := h
  obtain ⟨row, hrow, hqty⟩ := Option.map_eq_some_iff.mp hdelta
  exact ⟨lotId, hlot, row, List.mem_of_find?_eq_some hrow,
    of_decide_eq_true (List.find?_some hrow :), hqty⟩

/-- An effect with a reason means one row at most: the row is the one found. -/
theorem Effect.found_iff_recorded {e : Effect} {r : String} (hreason : e.reason = some r)
    (hr : strip r ≠ "") : e.Found db ref ↔ e.Recorded db ref := by
  refine ⟨Effect.Found.recorded, ?_⟩
  rintro ⟨lotId, hlot, row, hrow, hmeans, hqty⟩
  refine ⟨lotId, hlot, ?_⟩
  have hkey : ∀ {x : StockLedgerRow}, e.Means ref lotId x →
      x.key = ⟨r, ref, e.refLine, ⟨e.warehouseId, e.itemId, lotId⟩⟩ := by
    rintro x ⟨hslot, href, hline, htakes⟩
    have hkey := (htakes r hreason).resolve_left hr
    rw [← hslot, ← href, ← hline, ← hkey]
  unfold ledgerDelta
  cases hfind : db.stockLedger.rows.find? fun x => e.Means ref lotId x with
  | none => exact absurd (decide_eq_true hmeans) (List.find?_eq_none.mp hfind row hrow)
  | some x =>
      have hx : x = row := db.stockLedger.eq_of_key (List.mem_of_find?_eq_some hfind) hrow
        ((hkey (of_decide_eq_true (List.find?_some hfind :))).trans (hkey hmeans).symm)
      rw [hx, Option.map_some, hqty]

/-- The gate accepts when the rows found carry the deltas and the snapshot of
the commit's day, taken just now if the day is today, has the stock. -/
theorem accepts_iff : Accepts db today ref effects t ↔
    (∀ e ∈ effects, e.Found db ref) ∧ ∀ e ∈ effects, t.date = today ∨ e.Counted db t.date := by
  unfold Accepts enforceThreeBooks
  cases effects with
  | nil => exact iff_of_true ⟨db, rfl⟩ ⟨nofun, nofun⟩
  | cons x rest =>
      obtain ⟨db', hrun, hframe, -⟩ := run_runSnapshot today db
      have hfound : ∀ e : Effect, e.Found db' ref ↔ e.Found db ref := by
        intro e
        rw [hframe]
        rfl
      have hcounted : ∀ e : Effect,
          e.Counted db' t.date ↔ (t.date = today ∨ e.Counted db t.date) := by
        intro e
        have hstock : db'.itemTotal e.warehouseId e.itemId =
            db.itemTotal e.warehouseId e.itemId := by
          rw [hframe]
          rfl
        unfold Effect.Counted
        rw [snapshotTotal_after_runSnapshot hrun, hstock]
        by_cases hd : t.date = today
        · simp [hd]
        · simp [hd]
      rw [if_neg (by simp)]
      have hverify := @verifyAll_eq_ok db' ref (x :: rest) t
      simp only [hfound, hcounted] at hverify
      rw [← hverify]
      constructor
      · rintro ⟨db'', h⟩
        obtain ⟨u, w, hsnap, h⟩ := Prog.run_bind_ok.mp h
        rw [hrun] at hsnap
        cases hsnap
        obtain ⟨verified, w, hsel, h⟩ := Prog.run_bind_ok.mp h
        cases hsel
        exact (run_ofExcept_ok.mp h).1
      · intro hv
        exact ⟨db', Prog.run_bind_ok.mpr ⟨(), db', hrun, Prog.run_bind_ok.mpr
          ⟨_, db', rfl, run_ofExcept_ok.mpr ⟨hv, rfl⟩⟩⟩⟩

/-- While the books agree slot by slot, commits with reasons are accepted
exactly if they are recorded and of today, or of a day whose snapshot has
today's stock. -/
theorem accepts_iff_of_books (hbooks : ∀ s, db.qtyOf s = db.ledgerSum s)
    (hreason : ∀ e ∈ effects, ∃ r, e.reason = some r ∧ strip r ≠ "") :
    (∀ e ∈ effects, e.BooksAgree db) ∧
      (Accepts db today ref effects t ↔
        (∀ e ∈ effects, e.Recorded db ref) ∧
          ∀ e ∈ effects, t.date = today ∨ e.Counted db t.date) := by
  refine ⟨fun e _ => ?_, ?_⟩
  · exact sumOver_eq_of_fibers
      (g := fun s : Slot => s.warehouseId = e.warehouseId ∧ s.itemId = e.itemId)
      fun s => (hbooks s).symm
  · rw [accepts_iff]
    refine and_congr_left fun _ => forall₂_congr fun e he => ?_
    obtain ⟨r, hr, hne⟩ := hreason e he
    exact Effect.found_iff_recorded hr hne

/-! ## The gate of return tasks -/

/-- What a return task reports about a line, as any caller would. -/
def Effect.ofReturn (e : ReturnEffect) : Effect where
  warehouseId := e.warehouseId
  itemId := e.itemId
  lotId := some e.lotId
  qty := e.qty
  refLine := e.refLine
  reason := some e.reason

theorem Effect.found_ofReturn (e : ReturnEffect) :
    (Effect.ofReturn e).Found db ref ↔ effectLedgerDelta db ref e = some e.qty := by
  have hmeans : ∀ row : StockLedgerRow, (Effect.ofReturn e).Means ref e.lotId row ↔
      row.slot = e.slot ∧ row.key.ref = ref ∧ row.key.refLine = e.refLine ∧
        (strip e.reason = "" ∨ row.key.reason = e.reason) := by
    intro row
    simp [Effect.Means, Effect.TakesReason, Effect.ofReturn, ReturnEffect.slot]
  have hdelta : ledgerDelta db ref e.lotId (Effect.ofReturn e) = effectLedgerDelta db ref e := by
    unfold ledgerDelta effectLedgerDelta
    simp only [hmeans]
  unfold Effect.Found
  rw [← hdelta]
  constructor
  · rintro ⟨lotId, hlot, h⟩
    cases hlot
    exact h
  · intro h
    exact ⟨e.lotId, rfl, h⟩

/-- The gate of a return task is the gate on its effects. -/
theorem returnGate_accepts_iff {w : Int} {effects : List ReturnEffect} {c : ReturnCommitCall}
    (hw : ∀ e ∈ effects, e.warehouseId = w) (hdate : t.date = c.atDate) :
    (∃ db', (WmsDu.enforceThreeBooks w ref effects c).run db = .ok ((), db')) ↔
      Accepts db c.today ref (effects.map Effect.ofReturn) t := by
  obtain ⟨db', hrun, hframe, -⟩ := run_runSnapshot c.today db
  have hstock : ∀ i, db'.itemTotal w i = db.itemTotal w i := by
    intro i
    rw [hframe]
    rfl
  have hledger : ∀ e, effectLedgerDelta db' ref e = effectLedgerDelta db ref e := by
    intro e
    rw [hframe]
    rfl
  have hcounted : ∀ e ∈ effects,
      (db'.itemTotal w e.itemId = snapshotTotal db' c.atDate w e.itemId ↔
        (t.date = c.today ∨ (Effect.ofReturn e).Counted db t.date)) := by
    intro e he
    rw [snapshotTotal_after_runSnapshot hrun, hstock, ← hdate]
    unfold Effect.Counted
    rw [show (Effect.ofReturn e).warehouseId = w from hw e he]
    by_cases hd : t.date = c.today
    · simp [hd]
    · simp [hd, Effect.ofReturn]
  rw [accepts_iff]
  simp only [List.forall_mem_map, Effect.found_ofReturn]
  rw [← forall₂_congr hcounted]
  unfold WmsDu.enforceThreeBooks WmsDu.verifyCommitThreeBooks
  simp only [Prog.run_bind_ok, hrun, Tx.run_select, Tx.run_require_ok, Except.ok.injEq,
    Prod.mk.injEq, true_and]
  simp [hledger]

/-! ## A back-dated commit -/

/-- A count has put five pieces of tea into their lot. -/
def sampleCounted : Db := Op.commits sampleDb [sampleCountTea "C1" 5 (by decide)]

/-- What the count did. -/
def sampleCountEffect : Effect where
  warehouseId := 1
  itemId := 1
  lotId := some 1
  qty := 5
  refLine := 1
  reason := some "ADJUSTMENT"

end WmsDu.ThreeBooks
