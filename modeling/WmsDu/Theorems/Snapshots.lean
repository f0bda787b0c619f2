import WmsDu.Stock.Snapshots
import WmsDu.System.Sample

/-!
# The snapshot producers and the audit

The audit cuts the ledger at its timestamp, the producers at the midnight that
ends the timestamp's day, so an audit right after a rebuild shows what moved
between the two cuts. The two ledger producers leave the same rows, and the
snapshot of the balances leaves them too while the books agree.
-/

namespace WmsDu

open Txn

variable {db : Db} {d today : Date}

theorem ledgerUpTo_congr {p q : Timestamp → Prop} [DecidablePred p] [DecidablePred q]
    (h : ∀ x, p x ↔ q x) (s : Slot) : ledgerUpTo db p s = ledgerUpTo db q s :=
  sumOver_congr (fun r _ => and_congr_left fun _ => h r.occurredAt) fun _ _ _ => rfl

/-- A second cut splits what lies before the first. -/
theorem ledgerUpTo_split (p q : Timestamp → Prop) [DecidablePred p] [DecidablePred q] (s : Slot) :
    ledgerUpTo db (fun x => p x ∧ q x) s + ledgerUpTo db (fun x => p x ∧ ¬ q x) s =
      ledgerUpTo db p s := by
  unfold ledgerUpTo
  rw [← sumOver_and_add_and_not (p := fun r : StockLedgerRow => p r.occurredAt ∧ r.slot = s)
    (q := fun r => q r.occurredAt)]
  simp only [and_right_comm]

/-- Two cuts of a slot's ledger differ by the rows between them. -/
theorem ledgerUpTo_sub (p q : Timestamp → Prop) [DecidablePred p] [DecidablePred q] (s : Slot) :
    ledgerUpTo db p s - ledgerUpTo db q s =
      ledgerUpTo db (fun x => p x ∧ ¬ q x) s - ledgerUpTo db (fun x => q x ∧ ¬ p x) s := by
  have hp : _ = ledgerUpTo db p s := ledgerUpTo_split p q s
  have hq : _ = ledgerUpTo db q s := ledgerUpTo_split q p s
  have hboth : ledgerUpTo db (fun x => p x ∧ q x) s = ledgerUpTo db (fun x => q x ∧ p x) s :=
    ledgerUpTo_congr (fun _ => and_comm) s
  omega

/-- The quantity a rebuild leaves for a slot. -/
theorem snapshotQty_snapshotFromLedger (s : Slot) :
    snapshotQty (snapshotFromLedger d db) d s = ledgerUpTo db (· < d.cutTo) s := by
  unfold snapshotQty
  cases hl : (snapshotFromLedger d db).stockSnapshots.lookup (d, s) with
  | some r =>
      obtain ⟨hr, hkey⟩ := Table.lookup_eq_some.mp hl
      obtain ⟨hdate, hslot⟩ := Prod.mk.inj hkey
      rcases mem_snapshotFromLedger.mp hr with ⟨-, hne⟩ | ⟨-, -, hq⟩
      · exact absurd hdate hne
      · rw [← hslot, ← hq]
        rfl
  | none =>
      by_contra hne
      refine Table.lookup_eq_none.mp hl ⟨⟨d, s, ledgerUpTo db (· < d.cutTo) s⟩, ?_, rfl⟩
      exact mem_snapshotFromLedger.mpr (.inr ⟨rfl, fun h => hne h.symm, rfl⟩)

/-- A row of the audit compares its slot's ledger with the snapshot. -/
theorem diffSnapshot_of_mem {t : AwareTime} {row : SnapshotCompareRow}
    (h : row ∈ compareSnapshot t db) :
    row.diffSnapshot = ledgerUpTo db (· ≤ t.instant) row.slot - snapshotQty db t.date row.slot := by
  obtain ⟨⟨s, q⟩, hmem, hrow⟩ := List.mem_filterMap.mp (mem_sortOn.mp h)
  obtain ⟨-, hq⟩ := mem_ledgerTotals.mp hmem
  obtain ⟨lot, -, rfl⟩ := Option.map_eq_some_iff.mp hrow
  unfold ledgerUpTo
  rw [← sumOver_filter, ← hq]

/-- **Audit.** Right after a rebuild the audit shows, slot by slot, what lies
between its own cut and the end of the day. -/
theorem diffSnapshot_after_rebuild {t : AwareTime} {row : SnapshotCompareRow}
    (h : row ∈ compareSnapshot t (rebuildSnapshotFromLedger t db)) :
    row.diffSnapshot =
      ledgerUpTo db (fun x => x ≤ t.instant ∧ ¬ x < t.date.cutTo) row.slot -
        ledgerUpTo db (fun x => x < t.date.cutTo ∧ ¬ x ≤ t.instant) row.slot := by
  rw [diffSnapshot_of_mem h]
  unfold rebuildSnapshotFromLedger
  rw [snapshotQty_snapshotFromLedger]
  exact ledgerUpTo_sub (· ≤ t.instant) (· < t.date.cutTo) row.slot

/-- While the books agree and nothing lies ahead, the balances' snapshot of
today is the ledger's, but for rows of quantity zero. -/
theorem runSnapshot_eq_ledger (hbooks : ∀ s, db.qtyOf s = db.ledgerSum s)
    (hahead : ∀ r ∈ db.stockLedger.rows, r.occurredAt < today.cutTo) (s : Slot) {q : Int}
    (hq : q ≠ 0) :
    ⟨today, s, q⟩ ∈ ((runSnapshot today).commit db).stockSnapshots.rows ↔
      ⟨today, s, q⟩ ∈ (snapshotFromLedger today db).stockSnapshots.rows := by
  obtain ⟨db', hrun, -, hrows⟩ := run_runSnapshot today db
  have hall : ledgerUpTo db (· < today.cutTo) s = db.qtyOf s := by
    rw [hbooks]
    refine sumOver_congr (fun r hr => ?_) fun _ _ _ => rfl
    exact and_iff_right (hahead r hr)
  rw [Prog.commit_of_ok hrun, hrows, mem_snapshotFromLedger, List.mem_append, List.mem_filter,
    List.mem_map]
  constructor
  · rintro (⟨-, hdate⟩ | ⟨r, hr, hrow⟩)
    · simp at hdate
    · cases hrow
      refine .inr ⟨rfl, hq, ?_⟩
      rw [hall]
      exact (Table.sumOver_key (f := StocksLotRow.qty) hr).symm
  · rintro (⟨-, hdate⟩ | ⟨-, -, hsum⟩)
    · simp at hdate
    · refine .inr ?_
      have hsum : q = db.qtyOf s := hsum.trans hall
      by_cases hk : db.stocksLot.HasKey s
      · obtain ⟨r, hr, rfl⟩ := hk
        refine ⟨r, hr, ?_⟩
        rw [hsum, Db.qtyOf, Table.sumOver_key hr]
      · exact absurd (hsum.trans (Table.sumOver_key_absent hk)) hq

/-- **Producers and audit.** An audit right after a rebuild shows what lies
between the two cuts; the day job leaves what the rebuild leaves; and while
the books agree and nothing lies ahead of today, so does the snapshot of the
balances, but for rows of quantity zero. -/
theorem snapshot_producers_agree (db : Db) (t : AwareTime) :
    (∀ row ∈ compareSnapshot t (rebuildSnapshotFromLedger t db),
      row.diffSnapshot =
        ledgerUpTo db (fun x => x ≤ t.instant ∧ ¬ x < t.date.cutTo) row.slot -
          ledgerUpTo db (fun x => x < t.date.cutTo ∧ ¬ x ≤ t.instant) row.slot) ∧
    runOnce "day" t db = .ok (rebuildSnapshotFromLedger t db) ∧
    ((∀ s, db.qtyOf s = db.ledgerSum s) →
      (∀ r ∈ db.stockLedger.rows, r.occurredAt < t.date.cutTo) →
      ∀ s q, q ≠ 0 →
        (⟨t.date, s, q⟩ ∈ ((runSnapshot t.date).commit db).stockSnapshots.rows ↔
          ⟨t.date, s, q⟩ ∈ (rebuildSnapshotFromLedger t db).stockSnapshots.rows)) :=
  ⟨fun _ h => diffSnapshot_after_rebuild h, rfl,
    fun hbooks hahead s _ hq => runSnapshot_eq_ledger hbooks hahead s hq⟩

/-- A movement of the tea's lot. -/
def sampleMove (ref : String) (delta afterQty : Int) (occurredAt : Timestamp) : StockLedgerRow where
  key := ⟨"ADJUSTMENT", ref, 1, ⟨1, 1, 1⟩⟩
  reasonCanon := none
  subReason := none
  delta := delta
  afterQty := afterQty
  occurredAt := occurredAt
  traceId := none
  eventId := none
  productionDate := none
  expiryDate := none

/-- Eight pieces come in at one on the first day, three leave at three. -/
def sampleMovesDb : Db :=
  { sampleDb with
    stockLedger := ⟨[sampleMove "A" 8 8 3600000000, sampleMove "B" (-3) 5 10800000000], by decide⟩
    stocksLot := ⟨[⟨⟨1, 1, 1⟩, 5⟩], by decide⟩ }

/-- Two o'clock on the first day. -/
def sampleTwoOClock : AwareTime where
  instant := 7200000000

theorem sampleMovesDb_books (s : Slot) : sampleMovesDb.qtyOf s = sampleMovesDb.ledgerSum s := by
  by_cases hs : (⟨1, 1, 1⟩ : Slot) = s
  · subst hs
    rfl
  · simp [Db.qtyOf, Db.ledgerSum, sumOver, sampleMovesDb, sampleMove, hs]

theorem snapshot_producers_agree_sample :
    (⟨⟨1, 1, 1⟩, none, 8, 5, 5, 3, 3⟩ ∈
        compareSnapshot sampleTwoOClock (rebuildSnapshotFromLedger sampleTwoOClock sampleMovesDb) ∧
      (3 : Int) =
        ledgerUpTo sampleMovesDb (fun x => x ≤ 7200000000 ∧ ¬ x < sampleTwoOClock.date.cutTo) ⟨1, 1, 1⟩ -
          ledgerUpTo sampleMovesDb (fun x => x < sampleTwoOClock.date.cutTo ∧ ¬ x ≤ 7200000000)
            ⟨1, 1, 1⟩) ∧
    (⟨sampleTwoOClock.date, ⟨1, 1, 1⟩, 5⟩ ∈
        ((runSnapshot sampleTwoOClock.date).commit sampleMovesDb).stockSnapshots.rows ↔
      ⟨sampleTwoOClock.date, ⟨1, 1, 1⟩, 5⟩ ∈
        (rebuildSnapshotFromLedger sampleTwoOClock sampleMovesDb).stockSnapshots.rows) := by
  have hrow : (⟨⟨1, 1, 1⟩, none, 8, 5, 5, 3, 3⟩ : SnapshotCompareRow) ∈
      compareSnapshot sampleTwoOClock (rebuildSnapshotFromLedger sampleTwoOClock sampleMovesDb) := by
    decide
  obtain ⟨hdiff, -, hsame⟩ := snapshot_producers_agree sampleMovesDb sampleTwoOClock
  refine ⟨⟨hrow, hdiff _ hrow⟩, ?_⟩
  exact hsame sampleMovesDb_books (by decide) ⟨1, 1, 1⟩ 5 (by decide)

/-- An audit at two o'clock, right after the rebuild, misses the issue at
three that the rebuilt day has: it reports a difference of three. -/
theorem compareSnapshot_after_rebuild_nonzero :
    ¬ ∀ (db : Db) (t : AwareTime), ∀ row ∈ compareSnapshot t (rebuildSnapshotFromLedger t db),
      row.diffSnapshot = 0 := by
  intro h
  have hrow := h sampleMovesDb sampleTwoOClock ⟨⟨1, 1, 1⟩, none, 8, 5, 5, 3, 3⟩ (by decide)
  exact absurd hrow (by decide)

end WmsDu
