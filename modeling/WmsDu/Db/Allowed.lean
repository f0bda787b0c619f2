import WmsDu.Db.Sql

/-!
# What a write found before it wrote

A statement checks constraints and reads rows before it writes. `Redo.Allowed`
collects what is known of a record when it is applied, so a table invariant
is proved record by record and holds of every program.
-/

namespace WmsDu

open Txn

/-- What holds of a record in the state it is applied to. -/
def Redo.Allowed : Redo → Db → Prop
  | .stocksLotInsert row, db => db.HasLotDims row.slot ∧ ¬ db.stocksLot.HasKey row.slot ∧ 0 ≤ row.qty
  | .stocksLotSetQty s qty, db => db.stocksLot.HasKey s ∧ 0 ≤ qty
  | .ledgerInsert row, db =>
      row.check = none ∧ ¬ db.stockLedger.HasKey row.key ∧ row.foreignKeys db = none
  | .ledgerPatch k p, db =>
      ∃ row, db.stockLedger.lookup k = some row ∧ (p.fill row).foreignKeys db = none
  | .lotInsert lot, db =>
      lot.check = none ∧ db.items.HasKey lot.itemId ∧ db.warehouses.HasKey lot.warehouseId ∧
        0 < lot.id ∧ ¬ db.lots.HasKey lot.id
  | .eventInsert e, db =>
      0 < e.id ∧ ¬ db.wmsEvents.HasKey e.id ∧ (∀ e' ∈ db.wmsEvents.rows, e'.eventNo ≠ e.eventNo) ∧
        db.warehouses.HasKey e.warehouseId
  | .eventSupersede eventId, db =>
      ∃ e ∈ db.wmsEvents.rows, e.id = eventId ∧ e.eventKind = .commit ∧ e.status = .committed
  | .outboundLineInsert l, db =>
      l.check = none ∧ ¬ db.outboundEventLines.HasKey (l.eventId, l.refLine) ∧
        db.wmsEvents.HasKey l.eventId
  | .inboundLineInsert l, db =>
      l.check = none ∧ ¬ db.inboundEventLines.HasKey (l.eventId, l.lineNo) ∧
        db.wmsEvents.HasKey l.eventId
  | .countDocInsert d, db => ¬ db.countDocs.HasKey d.id ∧ db.warehouses.HasKey d.warehouseId
  | .countDocUpdate docId c, db => ∃ d, db.countDocs.lookup docId = some d ∧ c.guard db d
  | .countLineInsert l, _ => l.check = none ∧ l.countedQtyBase = none ∧ l.diffQtyBase = none
  | .countLineSetCounted lineId c, db =>
      ∃ l, db.countDocLines.lookup lineId = some l ∧ (c.set l).check = none
  | .countSnapshotInsert s, _ => 0 < s.snapshotQtyBase
  | .returnTaskInsert t, db => ¬ db.returnTasks.HasKey t.id
  | .returnLineInsert l, db =>
      ¬ db.returnTaskLines.HasKey l.id ∧ db.returnTasks.HasKey l.taskId
  | _, _ => True

section Exec
variable {db : Db}

private theorem countLinesOf_allowed {docId w : Int} {lineId : Nat → Int} {l : CountDocLine}
    (h : l ∈ countLinesOf db docId w lineId) :
    l.check = none ∧ l.countedQtyBase = none ∧ l.diffQtyBase = none := by
  unfold countLinesOf at h
  obtain ⟨idx, hidx, rfl⟩ := List.mem_mapIdx.mp h
  have hitem := (List.mem_insertionSort _).mp (List.getElem_mem hidx)
  have htotal := of_decide_eq_true (List.mem_filter.mp hitem).2
  have hno : ¬ ((idx : Int) + 1 < 1) := by omega
  refine ⟨?_, rfl, rfl⟩
  simp only [CountDocLine.check, hno, if_false, not_lt.mpr htotal.le]
  simp

private theorem countSnapshotsOf_pos {w : Int} {l : CountDocLine} {s : CountDocLineLotSnapshot}
    (h : s ∈ countSnapshotsOf db w l) : 0 < s.snapshotQtyBase := by
  unfold countSnapshotsOf at h
  obtain ⟨r, _, hr⟩ := List.mem_filterMap.mp h
  split at hr
  case isTrue hc =>
    obtain ⟨lot, _, rfl⟩ := Option.map_eq_some_iff.mp hr
    exact hc.2.2
  case isFalse => cases hr

/-- The records of a statement: one that is allowed where the statement ran,
or any number that are allowed everywhere. -/
def AllowedFrom (db : Db) (us : List Redo) : Prop :=
  (∃ u, us = [u] ∧ u.Allowed db) ∨ ∀ u ∈ us, ∀ db', u.Allowed db'

private theorem allowedFrom_nil : AllowedFrom db [] :=
  Or.inr fun _ h => nomatch h

private theorem allowedFrom_one {u : Redo} (h : u.Allowed db) : AllowedFrom db [u] :=
  Or.inl ⟨u, rfl, h⟩

theorem Sql.exec_allowed {β : Type} {s : Sql β} {b : β} {us : List Redo}
    (h : s.exec db = .ok (b, us)) : AllowedFrom db us := by
  cases s with
  | select q => cases h; exact allowedFrom_nil
  | selectForUpdate rows q => cases h; exact allowedFrom_nil
  | ensureStocksLotSlot s =>
      simp only [Sql.exec, violated] at h
      split at h
      · cases h; exact allowedFrom_nil
      · split at h <;> cases h
        rename_i hk hd
        exact allowedFrom_one ⟨not_not.mp hd, hk, le_refl 0⟩
  | setStocksLotQty s q =>
      simp only [Sql.exec, violated] at h
      split at h
      · cases h; exact allowedFrom_nil
      · split at h <;> cases h
        rename_i hk hq
        exact allowedFrom_one ⟨not_not.mp hk, not_lt.mp hq⟩
  | addStocksLotQty s d =>
      simp only [Sql.exec, violated] at h
      split at h
      · cases h
      · rename_i hd
        split at h
        · rename_i row hl
          split at h <;> cases h
          rename_i hq
          obtain ⟨hr, rfl⟩ := Table.lookup_eq_some.mp hl
          exact allowedFrom_one ⟨⟨row, hr, rfl⟩, not_lt.mp hq⟩
        · rename_i hl
          split at h <;> cases h
          rename_i hdm
          exact allowedFrom_one
            ⟨not_not.mp hdm, Table.lookup_eq_none.mp hl, not_lt.mp hd⟩
  | insertLedger row =>
      simp only [Sql.exec, violated] at h
      split at h
      · cases h
      · rename_i hc
        split at h
        · cases h
        · rename_i hk
          split at h <;> cases h
          rename_i hfk
          exact allowedFrom_one ⟨hc, hk, hfk⟩
  | insertLedgerOnConflictDoNothing row =>
      simp only [Sql.exec, violated] at h
      split at h
      · cases h
      · rename_i hc
        split at h
        · cases h; exact allowedFrom_nil
        · rename_i hk
          split at h <;> cases h
          rename_i hfk
          exact allowedFrom_one ⟨hc, hk, hfk⟩
  | patchLedger k p =>
      simp only [Sql.exec, violated] at h
      split at h
      · cases h; exact allowedFrom_nil
      · rename_i row hl
        split at h <;> cases h
        rename_i _ hfk
        exact allowedFrom_one ⟨row, hl, hfk⟩
  | insertLot lotId w i source code pd ed rid rln =>
      simp only [Sql.exec, violated] at h
      split at h
      · cases h; exact allowedFrom_nil
      · rename_i item hi
        split at h
        · cases h
        · rename_i hc
          split at h
          · cases h; exact allowedFrom_nil
          · split at h
            · cases h
            · rename_i hk
              split at h <;> cases h
              rename_i hw
              exact allowedFrom_one
                ⟨hc, Table.hasKey_iff_isSome.mpr (by rw [hi]; rfl), not_not.mp hw,
                  not_le.mp (not_or.mp hk).1, (not_or.mp hk).2⟩
  | patchLotExpiry lotId ed =>
      simp only [Sql.exec, violated] at h
      split at h
      · cases h; exact allowedFrom_nil
      · split at h
        · cases h; exact allowedFrom_nil
        · split at h <;> cases h
          exact allowedFrom_one trivial
  | insertEvent e =>
      simp only [Sql.exec, violated] at h
      split at h
      · cases h
      · rename_i hid
        split at h
        · cases h
        · rename_i hno
          split at h
          · cases h
          · split at h
            · cases h
            · rename_i hw
              split at h <;> cases h
              exact allowedFrom_one ⟨not_le.mp (not_or.mp hid).1, (not_or.mp hid).2,
                fun e' he' heq => hno ⟨e', he', heq⟩, not_not.mp hw⟩
  | markSuperseded eventType eventId =>
      simp only [Sql.exec] at h
      split at h
      · rename_i he
        cases h
        obtain ⟨e, he, hid, _, hkind, hstatus⟩ := he
        exact allowedFrom_one ⟨e, he, hid, hkind, hstatus⟩
      · cases h; exact allowedFrom_nil
  | insertOutboundLine l =>
      simp only [Sql.exec, violated] at h
      split at h
      · cases h
      · rename_i hc
        split at h
        · cases h
        · rename_i hk
          split at h
          · cases h
          · rename_i he
            split at h <;> cases h
            exact allowedFrom_one ⟨hc, hk, not_not.mp he⟩
  | insertInboundLine l =>
      simp only [Sql.exec, violated] at h
      split at h
      · cases h
      · rename_i hc
        split at h
        · cases h
        · rename_i hk
          split at h
          · cases h
          · rename_i he
            (repeat' split at h) <;> cases h
            exact allowedFrom_one ⟨hc, hk, not_not.mp he⟩
  | completeManualDoc docId =>
      simp only [Sql.exec] at h
      split at h <;> cases h
      · exact allowedFrom_one trivial
      · exact allowedFrom_nil
  | insertOperation o =>
      simp only [Sql.exec, violated] at h
      (repeat' split at h) <;> cases h
      exact allowedFrom_one trivial
  | insertOperationLine l =>
      simp only [Sql.exec, violated] at h
      (repeat' split at h) <;> cases h
      exact allowedFrom_one trivial
  | completeReceipt receiptId =>
      simp only [Sql.exec] at h
      split at h <;> cases h
      · exact allowedFrom_one trivial
      · exact allowedFrom_nil
  | applyCompletionDelta eventId occurredAt =>
      cases h
      refine Or.inr fun u hu db' => ?_
      obtain ⟨c, _, hc⟩ := List.mem_filterMap.mp hu
      split at hc <;> cases hc
      trivial
  | insertCountDoc d =>
      simp only [Sql.exec, violated] at h
      split at h
      · cases h
      · rename_i hk
        split at h
        · cases h
        · split at h <;> cases h
          rename_i hw
          exact allowedFrom_one ⟨hk, not_not.mp hw⟩
  | deleteCountSnapshots docId => cases h; exact allowedFrom_one trivial
  | deleteCountLines docId => cases h; exact allowedFrom_one trivial
  | insertCountLines docId w lineId =>
      simp only [Sql.exec, violated] at h
      split at h <;> cases h
      refine Or.inr fun u hu db' => ?_
      obtain ⟨l, hl, rfl⟩ := List.mem_map.mp hu
      exact countLinesOf_allowed hl
  | insertCountSnapshots docId =>
      simp only [Sql.exec] at h
      split at h <;> cases h
      · exact allowedFrom_nil
      · refine Or.inr fun u hu db' => ?_
        obtain ⟨s, hs, rfl⟩ := List.mem_map.mp hu
        obtain ⟨l, _, hs⟩ := List.mem_flatMap.mp hs
        exact countSnapshotsOf_pos hs
  | updateCountDoc docId c =>
      simp only [Sql.exec, violated] at h
      split at h
      · cases h; exact allowedFrom_nil
      · rename_i d hd
        split at h
        · rename_i hg
          split at h <;> cases h
          exact allowedFrom_one ⟨d, hd, hg⟩
        · cases h; exact allowedFrom_nil
  | updateCountLine lineId c =>
      simp only [Sql.exec, violated] at h
      split at h
      · cases h; exact allowedFrom_nil
      · rename_i l hl
        split at h <;> cases h
        rename_i hc
        exact allowedFrom_one ⟨l, hl, hc⟩
  | insertReturnTask t =>
      simp only [Sql.exec, violated] at h
      split at h <;> cases h
      rename_i hk
      exact allowedFrom_one hk
  | insertReturnLine l =>
      simp only [Sql.exec, violated] at h
      split at h
      · cases h
      · rename_i hk
        split at h
        · cases h
        · rename_i ht
          split at h <;> cases h
          exact allowedFrom_one ⟨hk, not_not.mp ht⟩
  | setReturnTaskCommitted taskId updatedAt => cases h; exact allowedFrom_one trivial
  | setReturnPicked lineId picked => cases h; exact allowedFrom_one trivial
  | setReturnLineCommitted lineId qty => cases h; exact allowedFrom_one trivial
  | deleteStockSnapshots d => cases h; exact allowedFrom_one trivial
  | insertStockSnapshots d =>
      cases h
      refine Or.inr fun u hu db' => ?_
      obtain ⟨r, _, rfl⟩ := List.mem_map.mp hu
      trivial
  | insertEventLog e =>
      simp only [Sql.exec, violated] at h
      split at h <;> cases h
      exact allowedFrom_one trivial

/-- **Record rule.** A state property that every allowed record preserves is
preserved by every program. -/
theorem Tx.run_preserves {α : Type} {I : Db → Prop} {x : Tx α}
    (hI : ∀ (u : Redo) (db : Db), u.Allowed db → I db → I (u.apply db))
    {db db' : Db} {a : α} (h : x.run db = .ok (a, db')) (hdb : I db) : I db' := by
  refine Prog.run_preserves ?_ h hdb
  intro β s w b us hs hw
  rcases s.exec_allowed hs with ⟨u, rfl, hu⟩ | hall
  · exact hI u w hu hw
  · exact replay_preserves (p := fun u => ∀ db', u.Allowed db')
      (fun u w' hu hw' => hI u w' (hu w') hw') us w hall hw

end Exec

end WmsDu
