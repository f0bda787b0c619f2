import WmsDu.Db.Parts
import WmsDu.Stock.Writers

/-!
# What a call added

The services append to four tables: events, their lines, and the ledger. They
never take a row of these away, and the balances follow the ledger rows.
`Adds` says what was appended between two states; it composes along a
program, so each service is described by the additions it makes.
-/

namespace WmsDu

open Txn

/-- Rows appended to the tables of events and to the ledger. -/
structure Additions where
  events : List WmsEvent := []
  outbound : List OutboundEventLine := []
  inbound : List InboundEventLine := []
  ledger : List StockLedgerRow := []

namespace Additions

instance : Append Additions where
  append x y := ⟨x.events ++ y.events, x.outbound ++ y.outbound, x.inbound ++ y.inbound,
    x.ledger ++ y.ledger⟩

@[simp] theorem mk_append (a a' : List WmsEvent) (b b' : List OutboundEventLine)
    (c c' : List InboundEventLine) (d d' : List StockLedgerRow) :
    (⟨a, b, c, d⟩ ++ ⟨a', b', c', d'⟩ : Additions) = ⟨a ++ a', b ++ b', c ++ c', d ++ d'⟩ := rfl

@[simp] theorem append_events (x y : Additions) : (x ++ y).events = x.events ++ y.events := rfl

@[simp] theorem append_outbound (x y : Additions) :
    (x ++ y).outbound = x.outbound ++ y.outbound := rfl

@[simp] theorem append_inbound (x y : Additions) : (x ++ y).inbound = x.inbound ++ y.inbound := rfl

@[simp] theorem append_ledger (x y : Additions) : (x ++ y).ledger = x.ledger ++ y.ledger := rfl

end Additions

/-- `db'` is `db` with the additions `x`, as far as these tables go. -/
structure Adds (db : Db) (x : Additions) (db' : Db) : Prop where
  events : db'.wmsEvents.rows = db.wmsEvents.rows ++ x.events
  outbound : db'.outboundEventLines.rows = db.outboundEventLines.rows ++ x.outbound
  inbound : db'.inboundEventLines.rows = db.inboundEventLines.rows ++ x.inbound
  ledger : db'.stockLedger.rows = db.stockLedger.rows ++ x.ledger
  qty : ∀ s, db'.qtyOf s =
    db.qtyOf s + sumOver (fun r : StockLedgerRow => r.slot = s) StockLedgerRow.delta x.ledger

namespace Adds

variable {db db₁ db' : Db} {x y : Additions}

theorem trans (h : Adds db x db₁) (h' : Adds db₁ y db') : Adds db (x ++ y) db' where
  events := by rw [h'.events, h.events, Additions.append_events, List.append_assoc]
  outbound := by rw [h'.outbound, h.outbound, Additions.append_outbound, List.append_assoc]
  inbound := by rw [h'.inbound, h.inbound, Additions.append_inbound, List.append_assoc]
  ledger := by rw [h'.ledger, h.ledger, Additions.append_ledger, List.append_assoc]
  qty := fun s => by rw [h'.qty, h.qty, Additions.append_ledger, sumOver_append, add_assoc]

/-- Nothing was added when the five tables are the same. -/
theorem of_eq (he : db'.wmsEvents = db.wmsEvents)
    (ho : db'.outboundEventLines = db.outboundEventLines)
    (hi : db'.inboundEventLines = db.inboundEventLines) (hl : db'.stockLedger = db.stockLedger)
    (hs : db'.stocksLot = db.stocksLot) : Adds db {} db' where
  events := by rw [he, List.append_nil]
  outbound := by rw [ho, List.append_nil]
  inbound := by rw [hi, List.append_nil]
  ledger := by rw [hl, List.append_nil]
  qty := fun s => by rw [Db.qtyOf, hs, sumOver_nil, add_zero, Db.qtyOf]

theorem refl (db : Db) : Adds db {} db := of_eq rfl rfl rfl rfl rfl

/-- Movements add their rows to the ledger. -/
theorem of_postsAll {rows : List StockLedgerRow} (h : PostsAll db rows db') :
    Adds db { ledger := rows } db' where
  events := by
    have he : db'.outsideBooks.wmsEvents = db.outsideBooks.wmsEvents := by rw [h.outsideBooks]
    exact (congrArg Table.rows he).trans (List.append_nil _).symm
  outbound := by
    have ho : db'.outsideBooks.outboundEventLines = db.outsideBooks.outboundEventLines := by rw [h.outsideBooks]
    exact (congrArg Table.rows ho).trans (List.append_nil _).symm
  inbound := by
    have hi : db'.outsideBooks.inboundEventLines = db.outsideBooks.inboundEventLines := by rw [h.outsideBooks]
    exact (congrArg Table.rows hi).trans (List.append_nil _).symm
  ledger := h.ledgerRows
  qty := h.qtyOf

theorem of_posts {row : StockLedgerRow} (h : Posts db row db') :
    Adds db { ledger := [row] } db' := of_postsAll (.single h)

end Adds

/-! ## Statements -/

variable {db db' : Db}

/-- The parts whose tables `Adds` speaks of. -/
def Part.InHistory (p : Part) : Prop :=
  p = .events ∨ p = .outboundLines ∨ p = .inboundLines ∨ ∃ w, p = .books w

theorem Part.lots_outside : ¬ Part.InHistory .lots := by
  rintro (h | h | h | ⟨w, h⟩) <;> cases h

theorem Part.returns_outside : ¬ Part.InHistory .returns := by
  rintro (h | h | h | ⟨w, h⟩) <;> cases h

theorem Part.countDocs_outside : ¬ Part.InHistory .countDocs := by
  rintro (h | h | h | ⟨w, h⟩) <;> cases h

theorem Part.countLines_outside : ¬ Part.InHistory .countLines := by
  rintro (h | h | h | ⟨w, h⟩) <;> cases h

theorem Part.other_outside : ¬ Part.InHistory .other := by
  rintro (h | h | h | ⟨w, h⟩) <;> cases h

theorem Part.completions_outside : ¬ Part.InHistory .completions := by
  rintro (h | h | h | ⟨w, h⟩) <;> cases h

/-- A program that writes elsewhere adds nothing. -/
theorem Tx.Within.adds {α : Type} {x : Tx α} {a : α} (hx : x.Within fun p => ¬ p.InHistory)
    (h : x.run db = .ok (a, db')) : Adds db {} db' := by
  refine Adds.of_eq ?_ ?_ ?_ ?_ ?_
  · exact hx.frame (fun u d hu => Redo.apply_wmsEvents fun hp => hu (Or.inl hp)) h
  · exact hx.frame (fun u d hu => Redo.apply_outboundEventLines fun hp => hu (Or.inr (Or.inl hp))) h
  · exact hx.frame (fun u d hu =>
      Redo.apply_inboundEventLines fun hp => hu (Or.inr (Or.inr (Or.inl hp)))) h
  · exact hx.frame (fun u d hu =>
      Redo.apply_stockLedger fun w hp => hu (Or.inr (Or.inr (Or.inr ⟨w, hp⟩)))) h
  · exact hx.frame (fun u d hu =>
      Redo.apply_stocksLot fun w hp => hu (Or.inr (Or.inr (Or.inr ⟨w, hp⟩)))) h

theorem run_insertEvent_adds {e : WmsEvent} {u : Unit}
    (h : (Prog.exec (.insertEvent e) : Tx Unit).run db = .ok (u, db')) :
    0 < e.id ∧ ¬ db.wmsEvents.HasKey e.id ∧ Adds db { events := [e] } db' := by
  obtain ⟨hpos, hnew, -, -, -, -, rfl⟩ := run_insertEvent.mp h
  refine ⟨hpos, hnew, ?_⟩
  exact ⟨Table.rows_insert_new hnew, (List.append_nil _).symm, (List.append_nil _).symm,
    (List.append_nil _).symm, fun s => (add_zero _).symm⟩

theorem run_insertOutboundLine_adds {l : OutboundEventLine} {u : Unit}
    (h : (Prog.exec (.insertOutboundLine l) : Tx Unit).run db = .ok (u, db')) :
    Adds db { outbound := [l] } db' := by
  obtain ⟨-, hnew, -, -, rfl⟩ := run_insertOutboundLine.mp h
  exact ⟨(List.append_nil _).symm, Table.rows_insert_new hnew, (List.append_nil _).symm,
    (List.append_nil _).symm, fun s => (add_zero _).symm⟩

theorem run_insertInboundLine_adds {l : InboundEventLine} {u : Unit}
    (h : (Prog.exec (.insertInboundLine l) : Tx Unit).run db = .ok (u, db')) :
    Adds db { inbound := [l] } db' := by
  obtain ⟨us, hexec, rfl⟩ := Prog.run_exec_ok.mp h
  simp only [Database.exec, Sql.exec, violated] at hexec
  split at hexec
  · cases hexec
  split at hexec
  · cases hexec
  rename_i hnew
  (repeat' split at hexec) <;> cases hexec
  exact ⟨(List.append_nil _).symm, (List.append_nil _).symm, Table.rows_insert_new hnew,
    (List.append_nil _).symm, fun s => (add_zero _).symm⟩

/-! ## The outbound writer -/

theorem run_insertOutboundEventLines_adds {ls : List OutboundEventLine} {u : Unit}
    (h : (insertOutboundEventLines ls).run db = .ok (u, db')) :
    Adds db { outbound := ls } db' := by
  induction ls generalizing db with
  | nil => cases h; exact Adds.refl _
  | cons l ls ih =>
      rw [insertOutboundEventLines, Prog.run_bind_ok] at h
      obtain ⟨_, _, hl, hls⟩ := h
      exact (run_insertOutboundLine_adds hl).trans (ih hls)

/-- What the outbound writer adds: its event, the event's lines, and one row
for each line. -/
theorem run_writeEventAndLedger_adds {w : OutboundWrite} {lines : List NormalizedLine}
    {saved : List OutboundEventLine}
    (h : (writeEventAndLedger w lines).run db = .ok (saved, db')) :
    0 < w.eventId ∧ ¬ db.wmsEvents.HasKey w.eventId ∧
      saved = lines.map (fun ln => ln.eventLine w.doc w.eventId
        ((db.lots.lookup ln.lotId).bind Lot.lotCode)) ∧
      ∃ rows, Adds db ⟨[w.event], saved, [], rows⟩ db' ∧
        List.Forall₂ (fun l row => ∃ after, row = outboundLedgerRow w.event w.sourceRef l after)
          saved rows := by
  simp only [writeEventAndLedger, Prog.run_bind_ok, run_ensureWarehouseNotFrozen_ok,
    Tx.run_select] at h
  obtain ⟨_, _, ⟨_, rfl⟩, _, db₁, hevent, _, _, hread, _, db₂, hlines, _, _, hship, hret⟩ := h
  have hlots : db₁.lots = db.lots := by
    obtain ⟨-, -, -, -, -, -, rfl⟩ := run_insertEvent.mp hevent
    rfl
  obtain ⟨hpos, hnew, hadd⟩ := run_insertEvent_adds hevent
  cases hread
  cases hret
  rw [hlots] at hlines hship ⊢
  obtain ⟨rows, hrows, hall⟩ := run_shipLines_ok hship
  refine ⟨hpos, hnew, rfl, rows, ?_, hall⟩
  have hall := hadd.trans ((run_insertOutboundEventLines_adds hlines).trans (.of_postsAll hrows))
  simpa using hall

end WmsDu
