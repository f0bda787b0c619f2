import WmsDu.Db.Parts
import WmsDu.Db.Valid

/-!
# Event lines and ledger rows name rows that are there

The foreign keys of the tables of events, which nothing ever breaks: what they
name is never deleted. So a copy of an event line can be inserted again under
another event.
-/

namespace WmsDu

open Txn

/-- The foreign keys and checks that a reversal relies on. -/
structure Db.Linked (db : Db) : Prop where
  events : ∀ e ∈ db.wmsEvents.rows, db.warehouses.HasKey e.warehouseId
  ledger : ∀ row ∈ db.stockLedger.rows, db.HasLotDims row.slot
  outbound : ∀ l ∈ db.outboundEventLines.rows,
    l.check = none ∧ ∀ o, l.orderLineId = some o → db.orderLines.HasKey o
  inbound : ∀ l ∈ db.inboundEventLines.rows,
    l.check = none ∧ db.items.HasKey l.itemId ∧ db.itemUoms.HasKey l.actualUomId ∧
      ∀ lot, l.lotId = some lot → db.lots.HasKey lot

section Record
variable {u : Redo} {db : Db}

theorem Redo.apply_itemUoms (u : Redo) (db : Db) : (u.apply db).itemUoms = db.itemUoms := by
  cases u <;> rfl

/-- Lots are only added. -/
theorem Db.hasLot_apply {lot : Int} (u : Redo) (h : db.lots.HasKey lot) :
    (u.apply db).lots.HasKey lot := by
  cases u with
  | lotInsert lot' => exact Table.hasKey_insert.mpr (Or.inl h)
  | lotSetExpiry lotId ed => exact (Table.hasKey_update (by intro _; rfl)).mpr h
  | _ => exact h

private theorem linked_events (hu : u.Allowed db) (h : db.Linked) :
    ∀ e ∈ (u.apply db).wmsEvents.rows, (u.apply db).warehouses.HasKey e.warehouseId := by
  rw [Redo.apply_warehouses]
  intro e he
  cases u with
  | eventInsert e' =>
      rcases Table.mem_of_mem_insert he with he | rfl
      · exact h.events e he
      · exact hu.2.2.2
  | eventSupersede e' =>
      obtain ⟨e₀, he₀, rfl⟩ := List.mem_map.mp he
      split
      · exact h.events e₀ he₀
      · exact h.events e₀ he₀
  | _ => exact h.events e he

private theorem linked_ledger (hu : u.Allowed db) (h : db.Linked) :
    ∀ row ∈ (u.apply db).stockLedger.rows, (u.apply db).HasLotDims row.slot := by
  suffices hs : ∀ row ∈ (u.apply db).stockLedger.rows, db.HasLotDims row.slot from
    fun row hrow => (hs row hrow).apply u
  intro row hrow
  cases u with
  | ledgerInsert row' =>
      rcases Table.mem_of_mem_insert hrow with hrow | rfl
      · exact h.ledger row hrow
      · exact (StockLedgerRow.foreignKeys_eq_none.mp hu.2.2).1
  | ledgerPatch k p =>
      obtain ⟨row', hrow', rfl⟩ := List.mem_map.mp hrow
      have hslot : (p.fill row').slot = row'.slot := rfl
      split
      · rw [hslot]
        exact h.ledger row' hrow'
      · exact h.ledger row' hrow'
  | _ => exact h.ledger row hrow

/-- A record of another table. -/
theorem Redo.Allowed.linked (hu : u.Allowed db) (ho : u.part ≠ .outboundLines)
    (hi : u.part ≠ .inboundLines) (h : db.Linked) : (u.apply db).Linked where
  events := linked_events hu h
  ledger := linked_ledger hu h
  outbound := by
    rw [Redo.apply_outboundEventLines ho, Redo.apply_orderLines]
    exact h.outbound
  inbound := by
    rw [Redo.apply_inboundEventLines hi, Redo.apply_items, Redo.apply_itemUoms]
    intro l hl
    obtain ⟨hcheck, hitem, huom, hlot⟩ := h.inbound l hl
    exact ⟨hcheck, hitem, huom, fun lot hl => Db.hasLot_apply u (hlot lot hl)⟩

end Record

/-! ## The two inserts -/

section Inserts
variable {db db' : Db} {u : Unit}

theorem run_insertInboundLine {l : InboundEventLine} :
    (Prog.exec (.insertInboundLine l) : Tx Unit).run db = .ok (u, db') ↔
      l.check = none ∧ ¬ db.inboundEventLines.HasKey (l.eventId, l.lineNo) ∧
      db.wmsEvents.HasKey l.eventId ∧ db.items.HasKey l.itemId ∧
      db.itemUoms.HasKey l.actualUomId ∧ (∀ lot, l.lotId = some lot → db.lots.HasKey lot) ∧
        db' = Redo.apply (.inboundLineInsert l) db := by
  rw [Prog.run_exec_ok]
  simp only [Database.exec, Sql.exec, violated]
  cases l.check with
  | some c => simp
  | none =>
      by_cases hk : db.inboundEventLines.HasKey (l.eventId, l.lineNo)
      · simp [hk]
      by_cases he : db.wmsEvents.HasKey l.eventId
      · by_cases hi : db.items.HasKey l.itemId
        · by_cases hu : db.itemUoms.HasKey l.actualUomId
          · cases hl : l.lotId with
            | none => simp [hk, he, hi, hu, eq_comm]
            | some lot =>
                by_cases hlot : db.lots.HasKey lot
                · simp [hk, he, hi, hu, hlot, eq_comm]
                · simp [hk, he, hi, hu, hlot]
          · simp [hk, he, hi, hu]
        · simp [hk, he, hi]
      · simp [hk, he]

/-- **Every program keeps the keys.** -/
theorem Tx.run_linked {α : Type} {x : Tx α} {a : α} (h : x.run db = .ok (a, db'))
    (hdb : db.Linked) : db'.Linked := by
  refine Prog.run_preserves (I := Db.Linked) ?_ h hdb
  intro β s w b us hs hw
  by_cases hout : s.part = some .outboundLines
  · cases s <;> cases hout
    rename_i l
    have hrun : (Prog.exec (.insertOutboundLine l) : Tx Unit).run w = .ok (b, replay Sql us w) :=
      Prog.run_exec_ok.mpr ⟨us, hs, rfl⟩
    obtain ⟨hcheck, -, -, horder, heq⟩ := run_insertOutboundLine.mp hrun
    rw [heq]
    refine ⟨hw.events, hw.ledger, fun l' hl' => ?_, hw.inbound⟩
    rcases Table.mem_of_mem_insert hl' with hl' | rfl
    · exact hw.outbound l' hl'
    · exact ⟨hcheck, horder⟩
  by_cases hin : s.part = some .inboundLines
  · cases s <;> cases hin
    rename_i l
    have hrun : (Prog.exec (.insertInboundLine l) : Tx Unit).run w = .ok (b, replay Sql us w) :=
      Prog.run_exec_ok.mpr ⟨us, hs, rfl⟩
    obtain ⟨hcheck, -, -, hitem, huom, hlot, heq⟩ := run_insertInboundLine.mp hrun
    rw [heq]
    refine ⟨hw.events, hw.ledger, hw.outbound, fun l' hl' => ?_⟩
    rcases Table.mem_of_mem_insert hl' with hl' | rfl
    · exact hw.inbound l' hl'
    · exact ⟨hcheck, hitem, huom, hlot⟩
  -- any other statement writes neither table of lines
  have hparts : ∀ u ∈ us, u.part ≠ .outboundLines ∧ u.part ≠ .inboundLines := by
    intro u hu
    have hpart := Sql.exec_part hs u hu
    constructor
    · intro heq
      exact hout (hpart.trans (congrArg some heq))
    · intro heq
      exact hin (hpart.trans (congrArg some heq))
  rcases s.exec_allowed hs with ⟨u, rfl, hu⟩ | hall
  · obtain ⟨ho, hi⟩ := hparts u List.mem_cons_self
    exact hu.linked ho hi hw
  · exact replay_preserves (S := Sql)
      (p := fun u => (∀ db', u.Allowed db') ∧ u.part ≠ .outboundLines ∧ u.part ≠ .inboundLines)
      (fun u w' hu hw' => (hu.1 w').linked hu.2.1 hu.2.2 hw') us w
      (fun u hu => ⟨hall u hu, hparts u hu⟩) hw

end Inserts
end WmsDu
