import Mathlib.Data.List.Dedup
import WmsDu.Data.Sorting
import WmsDu.Returns.Task

/-!
# Daily snapshots

The producers of `stock_snapshots` and the audit that compares a snapshot with
the ledger. Timestamps count microseconds since 1970-01-01 in UTC here.
-/

namespace WmsDu

open Txn Tx

/-! ## Points in time -/

/-- A timezone-aware `datetime`. -/
structure AwareTime where
  instant : Timestamp
  utcOffset : Int := 0
deriving DecidableEq, Repr

def dayMicros : Int := 86400000000

/-- `datetime.date()`: the day in the time's own zone. -/
def AwareTime.date (t : AwareTime) : Date := Date.ofDays ((t.instant + t.utcOffset) / dayMicros)

/-- The midnight, in UTC, that ends a day. -/
def Date.cutTo (d : Date) : Timestamp := (d.toDays + 1) * dayMicros

/-! ## Producers -/

/-- `GROUP BY warehouse_id, item_id, lot_id` with the sum of the deltas. -/
def ledgerTotals (rows : List StockLedgerRow) : List (Slot × Int) :=
  (rows.map StockLedgerRow.slot).dedup.map fun s =>
    (s, sumOver (fun r : StockLedgerRow => r.slot = s) StockLedgerRow.delta rows)

/-- The day's snapshot from the ledger up to the end of the day, in place of
the one there is. -/
def snapshotFromLedger (d : Date) (db : Db) : Db :=
  let totals := ledgerTotals (db.stockLedger.rows.filter fun r => r.occurredAt < d.cutTo)
  let rows := (totals.filter fun e => e.2 ≠ 0).map fun e => StockSnapshot.mk d e.1 e.2
  { db with
    stockSnapshots :=
      rows.foldl Table.insert (db.stockSnapshots.delete fun s => s.snapshotDate = d) }

/-- `rebuild_snapshot_from_ledger`. -/
def rebuildSnapshotFromLedger (t : AwareTime) (db : Db) : Db := snapshotFromLedger t.date db

/-- `run_once`. -/
def runOnce (grain : String) (t : AwareTime) (db : Db) : Except Err Db :=
  if grain ≠ "day" then
    .error (.valueError s!"Unsupported grain='{grain}'; only 'day' is implemented")
  else .ok (snapshotFromLedger t.date db)

/-! ## The audit -/

structure SnapshotCompareRow where
  slot : Slot
  lotCode : Option String
  ledgerQty : Int
  snapshotQty : Int
  stocksLotQty : Int
  diffSnapshot : Int
  diffStocksLot : Int
deriving DecidableEq

def Slot.order (s : Slot) : Int ×ₗ Int ×ₗ Int :=
  toLex (s.warehouseId, toLex (s.itemId, s.lotId))

/-- The quantity of a slot in the snapshot of a day. -/
def snapshotQty (db : Db) (d : Date) (s : Slot) : Int :=
  ((db.stockSnapshots.lookup (d, s)).map StockSnapshot.qty).getD 0

/-- `compare_snapshot`. -/
def compareSnapshot (t : AwareTime) (db : Db) : List SnapshotCompareRow :=
  let totals := ledgerTotals (db.stockLedger.rows.filter fun r => r.occurredAt ≤ t.instant)
  sortOn (fun r => r.slot.order) <| totals.filterMap fun (s, ledgerQty) =>
    (db.lots.lookup s.lotId).map fun lot =>
      { slot := s, lotCode := lot.lotCode, ledgerQty := ledgerQty
        snapshotQty := snapshotQty db t.date s
        stocksLotQty := db.qtyOf s
        diffSnapshot := ledgerQty - snapshotQty db t.date s
        diffStocksLot := ledgerQty - db.qtyOf s }

/-! ## What the producers leave -/

section Rows
variable {db db' : Db} {d today : Date}

/-- The net delta of a slot up to a cut. -/
def ledgerUpTo (db : Db) (before : Timestamp → Prop) [DecidablePred before] (s : Slot) : Int :=
  sumOver (fun r : StockLedgerRow => before r.occurredAt ∧ r.slot = s) StockLedgerRow.delta
    db.stockLedger.rows

/-- The totals list each slot of the rows with its sum. -/
theorem mem_ledgerTotals {rows : List StockLedgerRow} {e : Slot × Int} :
    e ∈ ledgerTotals rows ↔ (∃ r ∈ rows, r.slot = e.1) ∧
      e.2 = sumOver (fun r : StockLedgerRow => r.slot = e.1) StockLedgerRow.delta rows := by
  unfold ledgerTotals
  rw [List.mem_map]
  constructor
  · rintro ⟨s, hs, rfl⟩
    exact ⟨List.mem_map.mp (List.mem_dedup.mp hs), rfl⟩
  · rintro ⟨hs, hq⟩
    exact ⟨e.1, List.mem_dedup.mpr (List.mem_map.mpr hs), by rw [← hq]⟩

/-- A slot whose sum is not zero has a row. -/
theorem exists_row_of_sumOver_ne {rows : List StockLedgerRow} {s : Slot}
    (h : sumOver (fun r : StockLedgerRow => r.slot = s) StockLedgerRow.delta rows ≠ 0) :
    ∃ r ∈ rows, r.slot = s := by
  by_contra hno
  refine h (sumOver_eq_zero fun r hr hs => ?_)
  exact absurd ⟨r, hr, hs⟩ hno

theorem nodup_ledgerTotals (rows : List StockLedgerRow) :
    ((ledgerTotals rows).map Prod.fst).Nodup := by
  unfold ledgerTotals
  rw [List.map_map]
  simpa [Function.comp_def] using List.nodup_dedup (rows.map StockLedgerRow.slot)

/-- Rows of one day for some slots, in place of the day's rows. -/
private theorem rows_snapshotDay {totals : List (Slot × Int)} (h : (totals.map Prod.fst).Nodup)
    (snapshots : Table fun s : StockSnapshot => (s.snapshotDate, s.slot)) :
    ((totals.map fun e => StockSnapshot.mk d e.1 e.2).foldl Table.insert
        (snapshots.delete fun s => s.snapshotDate = d)).rows =
      (snapshots.rows.filter fun s => s.snapshotDate ≠ d) ++
        totals.map fun e => StockSnapshot.mk d e.1 e.2 := by
  refine Table.rows_insertAll _ _ ?_ ?_
  · rintro s hs ⟨s', hs', hkey⟩
    obtain ⟨e, -, rfl⟩ := List.mem_map.mp hs
    exact (Table.mem_delete.mp hs').2 (congrArg Prod.fst hkey)
  · have hkeys : (totals.map fun e => StockSnapshot.mk d e.1 e.2).map
        (fun s => (s.snapshotDate, s.slot)) = (totals.map Prod.fst).map fun s => (d, s) := by
      simp [Function.comp_def]
    rw [hkeys]
    exact h.map fun a b hab => (Prod.mk.inj hab).2

/-- **The ledger's snapshot.** The day has a row for each slot whose ledger up
to the end of the day does not cancel out; other days are kept. -/
theorem mem_snapshotFromLedger {r : StockSnapshot} :
    r ∈ (snapshotFromLedger d db).stockSnapshots.rows ↔
      (r ∈ db.stockSnapshots.rows ∧ r.snapshotDate ≠ d) ∨
      (r.snapshotDate = d ∧ r.qty ≠ 0 ∧ r.qty = ledgerUpTo db (· < d.cutTo) r.slot) := by
  unfold snapshotFromLedger ledgerUpTo
  dsimp only
  rw [rows_snapshotDay ((nodup_ledgerTotals _).sublist (List.filter_sublist.map _)),
    List.mem_append, List.mem_filter, decide_eq_true_eq, List.mem_map]
  refine or_congr_right ⟨?_, ?_⟩
  · rintro ⟨e, he, rfl⟩
    obtain ⟨he, hne⟩ := List.mem_filter.mp he
    obtain ⟨-, hq⟩ := mem_ledgerTotals.mp he
    refine ⟨rfl, of_decide_eq_true hne, ?_⟩
    rw [← sumOver_filter]
    exact hq
  · rintro ⟨rfl, hne, hq⟩
    rw [← sumOver_filter] at hq
    refine ⟨(r.slot, r.qty), List.mem_filter.mpr ⟨mem_ledgerTotals.mpr ⟨?_, hq⟩, ?_⟩, rfl⟩
    · refine exists_row_of_sumOver_ne ?_
      rw [← hq]
      exact hne
    · exact decide_eq_true hne

/-- **The stock's snapshot.** `run_snapshot` puts the balances in place of
today's rows. -/
theorem run_runSnapshot (today : Date) (db : Db) :
    ∃ db', (runSnapshot today).run db = .ok ((), db') ∧
      db' = { db with stockSnapshots := db'.stockSnapshots } ∧
      db'.stockSnapshots.rows =
        (db.stockSnapshots.rows.filter fun s => s.snapshotDate ≠ today) ++
          db.stocksLot.rows.map fun r => StockSnapshot.mk today r.slot r.qty := by
  have hreplay : ∀ (rows : List StockSnapshot) (w : Db),
      replay Sql (rows.map Redo.stockSnapshotInsert) w =
        { w with stockSnapshots := rows.foldl Table.insert w.stockSnapshots } := by
    intro rows
    induction rows with
    | nil => intro w; rfl
    | cons s rows ih =>
        intro w
        rw [List.map_cons, replay_cons, ih]
        rfl
  let w : Db := { db with stockSnapshots := db.stockSnapshots.delete fun s => s.snapshotDate = today }
  have hrun : (runSnapshot today).run db =
      .ok ((), replay Sql ((db.stocksLot.rows.map fun r => StockSnapshot.mk today r.slot r.qty).map
        Redo.stockSnapshotInsert) w) := by
    rw [List.map_map]
    rfl
  refine ⟨_, hrun, ?_, ?_⟩
  · rw [hreplay]
  · rw [hreplay]
    have hslots : ((db.stocksLot.rows.map fun r => (r.slot, r.qty)).map Prod.fst).Nodup := by
      rw [List.map_map]
      exact db.stocksLot.nodup
    have hrows := rows_snapshotDay (d := today) hslots db.stockSnapshots
    rw [List.map_map] at hrows
    exact hrows

end Rows

end WmsDu
