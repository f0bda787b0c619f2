import WmsDu.System.Steps

/-!
# The history of events

A committed event explains its movements: they are its lines. A reversal names
one committed event of its kind that no other reversal names, moves every slot
back by what that event had moved it, and leaves it superseded. `History` is
the invariant, and each of the traces an operation may leave keeps it.
-/

namespace WmsDu

open Txn

/-! ## Sums -/

/-- The movements of an event, in the order of the ledger. -/
def Db.rowsOf (db : Db) (eventId : Int) : List StockLedgerRow :=
  db.stockLedger.rows.filter fun r => r.eventId = some eventId

/-- What an event moved a slot by, as the ledger has it. -/
def Db.eventSum (db : Db) (eventId : Int) (s : Slot) : Int :=
  sumOver (fun r : StockLedgerRow => r.slot = s) StockLedgerRow.delta (db.rowsOf eventId)

/-- What takes back the lines of an event from a slot. -/
def ReversalSide.cancelSum {Line : Type} (side : ReversalSide Line) (e : WmsEvent) (ls : List Line)
    (s : Slot) : Int := sumOver (fun l => side.slotOf e l = some s) side.cancel ls

section Sums
variable {Line : Type} {side : ReversalSide Line} {db db' : Db} {x : Additions} {e : WmsEvent}

/-- Rows that answer to lines move what the lines say. -/
theorem sumOver_moves {d : Line → Int} {ls : List Line} {rows : List StockLedgerRow}
    (h : List.Forall₂ (side.Moves e d) ls rows) (s : Slot) :
    sumOver (fun r : StockLedgerRow => r.slot = s) StockLedgerRow.delta rows =
      sumOver (fun l => side.slotOf e l = some s) d ls := by
  induction h with
  | nil => rfl
  | cons hm _ ih =>
      rw [sumOver_cons, sumOver_cons, ih, hm.slot, hm.delta]
      simp only [Option.some.injEq]

/-- Movements of other events, or of none, are not the event's. -/
theorem Adds.rowsOf_other (h : Adds db x db') {eventId : Int}
    (hx : ∀ row ∈ x.ledger, row.eventId ≠ some eventId) :
    db'.rowsOf eventId = db.rowsOf eventId := by
  have hnone : x.ledger.filter (fun r => r.eventId = some eventId) = [] :=
    List.filter_eq_nil_iff.mpr fun row hrow => by simpa using hx row hrow
  rw [Db.rowsOf, h.ledger, List.filter_append, hnone, List.append_nil]
  rfl

/-- The movements of a new event are the added ones. -/
theorem Adds.rowsOf_new (h : Adds db x db') (hv : db.Valid) {eventId : Int}
    (hnew : ¬ db.wmsEvents.HasKey eventId) (hx : ∀ row ∈ x.ledger, row.eventId = some eventId) :
    db'.rowsOf eventId = x.ledger := by
  have hnone : db.stockLedger.rows.filter (fun r => r.eventId = some eventId) = [] :=
    List.filter_eq_nil_iff.mpr fun row hrow heq =>
      hnew (hv.ledger row hrow eventId (of_decide_eq_true heq))
  rw [Db.rowsOf, h.ledger, List.filter_append, hnone, List.nil_append, List.filter_eq_self]
  exact fun row hrow => decide_eq_true (hx row hrow)

/-- Lines under other events leave the lines of an event alone. -/
theorem linesOf_append {ls : List Line} {eventId : Int}
    (h : side.lines db' = side.lines db ++ ls) (hls : ∀ l ∈ ls, side.lineEventId l ≠ eventId) :
    linesOf side db' eventId = linesOf side db eventId := by
  have hnone : ls.filter (fun l => side.lineEventId l = eventId) = [] :=
    List.filter_eq_nil_iff.mpr fun l hl => by simpa using hls l hl
  rw [linesOf, h, List.filter_append, hnone, List.append_nil]
  rfl

end Sums

/-! ## The history -/

/-- The movements of a committed event of this side are its lines, one by one. -/
def Explained {Line : Type} (side : ReversalSide Line) (db : Db) : Prop :=
  ∀ e ∈ db.wmsEvents.rows, e.eventType = side.eventType → e.eventKind = .commit →
    List.Forall₂ (side.Moves e fun l => -(side.cancel l)) (linesOf side db e.id) (db.rowsOf e.id)

/-- What they sum to. -/
theorem Explained.eventSum {Line : Type} {side : ReversalSide Line} {db : Db} {e : WmsEvent}
    (h : Explained side db) (he : e ∈ db.wmsEvents.rows) (htype : e.eventType = side.eventType)
    (hkind : e.eventKind = .commit) (s : Slot) :
    db.eventSum e.id s = -(side.cancelSum e (linesOf side db e.id) s) := by
  rw [Db.eventSum, sumOver_moves (h e he htype hkind), ReversalSide.cancelSum, ← sumOver_neg]

/-- What holds of the events of a reachable state. -/
structure History (db : Db) : Prop where
  shape : ∀ e ∈ db.wmsEvents.rows,
    e.eventKind = .commit ∧ (e.status = .committed ∨ e.status = .superseded) ∨
      e.eventKind = .reversal ∧ e.status = .committed
  outbound : Explained outboundSide db
  inbound : Explained inboundSide db
  target : ∀ r ∈ db.wmsEvents.rows, r.eventKind = .reversal → ∃ o ∈ db.wmsEvents.rows,
    r.targetEventId = some o.id ∧ o.eventType = r.eventType ∧ o.eventKind = .commit ∧
      o.status = .superseded
  cancels : ∀ r ∈ db.wmsEvents.rows, r.eventKind = .reversal → ∀ o, r.targetEventId = some o →
    ∀ s, db.eventSum o s + db.eventSum r.id s = 0
  once : ∀ r ∈ db.wmsEvents.rows, ∀ r' ∈ db.wmsEvents.rows, r.eventKind = .reversal →
    r'.eventKind = .reversal → r.targetEventId = r'.targetEventId → r = r'
  reversed : ∀ o ∈ db.wmsEvents.rows, o.status = .superseded → ∃ r ∈ db.wmsEvents.rows,
    r.eventKind = .reversal ∧ r.targetEventId = some o.id

section Steps
variable {Line : Type} {side : ReversalSide Line} {db db' : Db} {x : Additions} {e : WmsEvent}

/-- Additions that bear on no event that was there. -/
structure Apart (db : Db) (x : Additions) : Prop where
  ledger : ∀ row ∈ x.ledger, ∀ o ∈ db.wmsEvents.rows, row.eventId ≠ some o.id
  outbound : ∀ l ∈ x.outbound, ∀ o ∈ db.wmsEvents.rows, l.eventId ≠ o.id
  inbound : ∀ l ∈ x.inbound, ∀ o ∈ db.wmsEvents.rows, l.eventId ≠ o.id

/-- What stands under a new event bears on no other. -/
theorem Apart.of_new (hnew : ¬ db.wmsEvents.HasKey e.id)
    (hledger : ∀ row ∈ x.ledger, row.eventId = some e.id)
    (houtbound : ∀ l ∈ x.outbound, l.eventId = e.id)
    (hinbound : ∀ l ∈ x.inbound, l.eventId = e.id) : Apart db x where
  ledger := by
    intro row hrow o ho heq
    rw [hledger row hrow, Option.some_inj] at heq
    exact hnew ⟨o, ho, heq.symm⟩
  outbound := by
    intro l hl o ho heq
    rw [houtbound l hl] at heq
    exact hnew ⟨o, ho, heq.symm⟩
  inbound := by
    intro l hl o ho heq
    rw [hinbound l hl] at heq
    exact hnew ⟨o, ho, heq.symm⟩

theorem Apart.linesOf_outbound (h : Apart db x) (hadd : Adds db x db') {o : WmsEvent}
    (ho : o ∈ db.wmsEvents.rows) : linesOf outboundSide db' o.id = linesOf outboundSide db o.id :=
  linesOf_append hadd.outbound fun l hl => h.outbound l hl o ho

theorem Apart.linesOf_inbound (h : Apart db x) (hadd : Adds db x db') {o : WmsEvent}
    (ho : o ∈ db.wmsEvents.rows) : linesOf inboundSide db' o.id = linesOf inboundSide db o.id :=
  linesOf_append hadd.inbound fun l hl => h.inbound l hl o ho

theorem Apart.rowsOf (h : Apart db x) (hadd : Adds db x db') {o : WmsEvent}
    (ho : o ∈ db.wmsEvents.rows) : db'.rowsOf o.id = db.rowsOf o.id :=
  hadd.rowsOf_other fun row hrow => h.ledger row hrow o ho

theorem Apart.eventSum (h : Apart db x) (hadd : Adds db x db') {o : WmsEvent}
    (ho : o ∈ db.wmsEvents.rows) (s : Slot) : db'.eventSum o.id s = db.eventSum o.id s := by
  rw [Db.eventSum, h.rowsOf hadd ho, Db.eventSum]

/-- Old events stay explained. -/
theorem Explained.adds (h : Explained side db) (hx : Apart db x) (hadd : Adds db x db')
    (hlines : ∀ o ∈ db.wmsEvents.rows, linesOf side db' o.id = linesOf side db o.id)
    (hnew : ∀ e ∈ x.events, e.eventType = side.eventType → e.eventKind = .commit →
      List.Forall₂ (side.Moves e fun l => -(side.cancel l)) (linesOf side db' e.id)
        (db'.rowsOf e.id)) :
    Explained side db' := by
  intro o ho htype hkind
  rw [hadd.events] at ho
  rcases List.mem_append.mp ho with ho | ho
  · rw [hx.rowsOf hadd ho, hlines o ho]
    exact h o ho htype hkind
  · exact hnew o ho htype hkind

/-- The lines under a new event are the added ones. -/
theorem linesOf_new (side : ReversalSide Line) {ls : List Line} {eventId : Int} (h : side.lines db' = side.lines db ++ ls)
    (hold : ∀ l ∈ side.lines db, side.lineEventId l ≠ eventId)
    (hls : ∀ l ∈ ls, side.lineEventId l = eventId) : linesOf side db' eventId = ls := by
  rw [linesOf, h, List.filter_append, List.filter_eq_nil_iff.mpr, List.nil_append,
    List.filter_eq_self.mpr]
  · exact fun l hl => by simpa using hls l hl
  · exact fun l hl => by simpa using hold l hl

/-! ## One step -/

/-- Movements without an event and committed events keep the history. -/
theorem History.adds (h : History db) (hx : Apart db x) (hadd : Adds db x db')
    (hcommit : ∀ e ∈ x.events, e.eventKind = .commit ∧ e.status = .committed)
    (hout : Explained outboundSide db') (hin : Explained inboundSide db') : History db' := by
  have hkeep : ∀ e ∈ db'.wmsEvents.rows, e.eventKind = .reversal ∨ e.status = .superseded →
      e ∈ db.wmsEvents.rows := by
    intro e he hcase
    rw [hadd.events] at he
    rcases List.mem_append.mp he with he | he
    · exact he
    · obtain ⟨hkind, hstatus⟩ := hcommit e he
      rcases hcase with hc | hc
      · rw [hkind] at hc
        cases hc
      · rw [hstatus] at hc
        cases hc
  have hmem : ∀ e ∈ db.wmsEvents.rows, e ∈ db'.wmsEvents.rows := by
    intro e he
    rw [hadd.events]
    exact List.mem_append_left _ he
  refine ⟨?_, hout, hin, ?_, ?_, ?_, ?_⟩
  · intro e he
    rw [hadd.events] at he
    rcases List.mem_append.mp he with he | he
    · exact h.shape e he
    · exact Or.inl ⟨(hcommit e he).1, Or.inl (hcommit e he).2⟩
  · intro r hr hkind
    obtain ⟨o, ho, hrest⟩ := h.target r (hkeep r hr (Or.inl hkind)) hkind
    exact ⟨o, hmem o ho, hrest⟩
  · intro r hr hkind o hto s
    have hr₀ := hkeep r hr (Or.inl hkind)
    obtain ⟨o', ho', hto', -⟩ := h.target r hr₀ hkind
    obtain rfl : o = o'.id := Option.some.inj (hto.symm.trans hto')
    rw [hx.eventSum hadd ho', hx.eventSum hadd hr₀]
    exact h.cancels r hr₀ hkind _ hto s
  · intro r hr r' hr' hkind hkind' hto
    exact h.once r (hkeep r hr (Or.inl hkind)) r' (hkeep r' hr' (Or.inl hkind')) hkind hkind' hto
  · intro o ho hstatus
    obtain ⟨r, hr, hrest⟩ := h.reversed o (hkeep o ho (Or.inr hstatus)) hstatus
    exact ⟨r, hmem r hr, hrest⟩

/-- Movements without an event. -/
theorem History.quiet {rows : List StockLedgerRow} (h : History db)
    (hadd : Adds db { ledger := rows } db') (hrows : ∀ row ∈ rows, row.Unlinked) :
    History db' := by
  have hx : Apart db { ledger := rows } := by
    refine ⟨?_, fun l hl => absurd hl List.not_mem_nil, fun l hl => absurd hl List.not_mem_nil⟩
    intro row hrow o _ heq
    rw [show row.eventId = none from hrows row hrow] at heq
    cases heq
  refine h.adds hx hadd (fun e he => absurd he List.not_mem_nil) ?_ ?_
  · exact h.outbound.adds hx hadd (fun o ho => hx.linesOf_outbound hadd ho)
      fun e he => absurd he List.not_mem_nil
  · exact h.inbound.adds hx hadd (fun o ho => hx.linesOf_inbound hadd ho)
      fun e he => absurd he List.not_mem_nil

/-- One committed event, with its lines and movements. -/
theorem History.commits (h : History db) (hv : db.Valid) (hc : Commits db e x db') :
    History db' := by
  have hx : Apart db x := .of_new hc.new hc.ledger hc.outbound hc.inbound
  refine h.adds hx hc.adds ?_ ?_ ?_
  · intro e' he'
    rw [hc.events, List.mem_singleton] at he'
    rw [he']
    exact ⟨hc.kind, hc.status⟩
  · refine h.outbound.adds hx hc.adds (fun o ho => hx.linesOf_outbound hc.adds ho) ?_
    intro e' he' htype _
    rw [hc.events, List.mem_singleton] at he'
    subst he'
    rw [hc.adds.rowsOf_new hv hc.new hc.ledger,
      linesOf_new outboundSide hc.adds.outbound (fun l hl heq => hc.new ?_) hc.outbound]
    · exact hc.outboundMoves htype
    · rw [← heq]
      exact (hv.outbound l hl).2
  · refine h.inbound.adds hx hc.adds (fun o ho => hx.linesOf_inbound hc.adds ho) ?_
    intro e' he' htype _
    rw [hc.events, List.mem_singleton] at he'
    subst he'
    rw [hc.adds.rowsOf_new hv hc.new hc.ledger,
      linesOf_new inboundSide hc.adds.inbound (fun l hl heq => hc.new ?_) hc.inbound]
    · refine (hc.inboundMoves htype).imp fun l row hm => ⟨hm.slot, ?_, hm.event⟩
      exact hm.delta.trans (neg_neg l.qtyBase).symm
    · rw [← heq]
      exact (hv.inbound l hl).2

end Steps

/-! ## A reversal -/

/-- The event as it stands once `eventId` is superseded. -/
def WmsEvent.marked (eventId : Int) (e : WmsEvent) : WmsEvent :=
  if e.id = eventId then { e with status := .superseded } else e

section Marked
variable {eventId : Int} {e : WmsEvent} {db : Db}

@[simp] theorem WmsEvent.marked_id : (e.marked eventId).id = e.id := by
  unfold marked
  split <;> rfl

@[simp] theorem WmsEvent.marked_eventType : (e.marked eventId).eventType = e.eventType := by
  unfold marked
  split <;> rfl

@[simp] theorem WmsEvent.marked_eventKind : (e.marked eventId).eventKind = e.eventKind := by
  unfold marked
  split <;> rfl

@[simp] theorem WmsEvent.marked_targetEventId :
    (e.marked eventId).targetEventId = e.targetEventId := by
  unfold marked
  split <;> rfl

@[simp] theorem WmsEvent.marked_warehouseId : (e.marked eventId).warehouseId = e.warehouseId := by
  unfold marked
  split <;> rfl

theorem WmsEvent.marked_of_ne (h : e.id ≠ eventId) : e.marked eventId = e := if_neg h

theorem WmsEvent.marked_status_of_eq (h : e.id = eventId) :
    (e.marked eventId).status = .superseded := by
  rw [marked, if_pos h]

/-- What is superseded stays so. -/
theorem WmsEvent.marked_superseded (h : e.status = .superseded) :
    (e.marked eventId).status = .superseded := by
  unfold marked
  split
  · rfl
  · exact h

theorem mem_events_supersede {e' : WmsEvent} :
    e' ∈ ((Redo.eventSupersede eventId).apply db).wmsEvents.rows ↔
      ∃ e ∈ db.wmsEvents.rows, e' = e.marked eventId := by
  show e' ∈ (db.wmsEvents.update (fun e => e.id = eventId)
    (fun e => { e with status := .superseded }) fun _ => rfl).rows ↔ _
  exact Table.mem_update _

/-- The mark moves nothing. -/
theorem Explained.supersede {Line : Type} {side : ReversalSide Line} (h : Explained side db)
    (hlines : side.lines ((Redo.eventSupersede eventId).apply db) = side.lines db) :
    Explained side ((Redo.eventSupersede eventId).apply db) := by
  intro e' he' htype hkind
  obtain ⟨e, he, rfl⟩ := mem_events_supersede.mp he'
  rw [WmsEvent.marked_eventType] at htype
  rw [WmsEvent.marked_eventKind] at hkind
  rw [WmsEvent.marked_id, linesOf, hlines]
  refine (h e he htype hkind).imp fun l row hm => ⟨?_, hm.delta, ?_⟩
  · rw [ReversalSide.slotOf, WmsEvent.marked_warehouseId]
    exact hm.slot
  · rw [WmsEvent.marked_id]
    exact hm.event

end Marked

section Reversal
variable {Line : Type} {side : ReversalSide Line} {db db₁ db' : Db} {x : Additions}
  {original e : WmsEvent} {ls : List Line}

/-- The reversal takes back, slot by slot, what its target moved. -/
theorem Reverses.cancels (hv : db.Valid) (hrev : Reverses side db original e ls x db')
    (his : IsReversalOf side original e) (hside : Explained side db) (hx : Apart db x)
    (hadd : Adds db x db₁) (s : Slot) : db₁.eventSum original.id s + db₁.eventSum e.id s = 0 := by
  have hback : db₁.eventSum e.id s = side.cancelSum original (linesOf side db original.id) s := by
    rw [Db.eventSum, hadd.rowsOf_new hv hrev.new (ReversalSide.linked_of_moves hrev.moves),
      sumOver_moves hrev.moves, ReversalSide.cancelSum]
    simp only [ReversalSide.slotOf, his.warehouse]
    exact sumOver_perm hrev.lines
  rw [hx.eventSum hadd hrev.found, hback,
    hside.eventSum hrev.found hrev.commit.1 hrev.commit.2.1]
  exact neg_add_cancel _

/-- **One event less.** A reversal keeps the history: its target was not
superseded before, so no other reversal names it. -/
theorem History.reverses (h : History db) (hv : db.Valid)
    (hrev : Reverses side db original e ls x db') (his : IsReversalOf side original e)
    (hside : Explained side db) (hledger : ∀ row ∈ x.ledger, row.eventId = some e.id)
    (houtbound : ∀ l ∈ x.outbound, l.eventId = e.id)
    (hinbound : ∀ l ∈ x.inbound, l.eventId = e.id) : History db' := by
  obtain ⟨db₁, hadd, rfl⟩ := hrev.adds
  have hx : Apart db x := .of_new hrev.new hledger houtbound hinbound
  have hne : e.id ≠ original.id := fun heq => hrev.new ⟨original, hrev.found, heq.symm⟩
  have hrows : ∀ {o}, o ∈ db₁.wmsEvents.rows ↔ o ∈ db.wmsEvents.rows ∨ o = e := by
    intro o
    rw [hadd.events, hrev.events, List.mem_append, List.mem_singleton]
  have hlive : ∀ o ∈ db.wmsEvents.rows, o.status = .superseded → o.id ≠ original.id := by
    intro o ho hstatus hid
    rw [db.wmsEvents.eq_of_key ho hrev.found hid, hrev.commit.2.2] at hstatus
    cases hstatus
  have hnot : ∀ o ∈ x.events, o.eventKind ≠ .commit := by
    intro o ho hkind
    rw [hrev.events, List.mem_singleton] at ho
    rw [ho, his.kind] at hkind
    cases hkind
  refine ⟨?shape, ?outbound, ?inbound, ?target, ?cancels, ?once, ?reversed⟩
  case shape =>
    intro e' he'
    obtain ⟨o, ho, rfl⟩ := mem_events_supersede.mp he'
    rw [WmsEvent.marked_eventKind]
    rcases hrows.mp ho with ho | rfl
    · by_cases hid : o.id = original.id
      · obtain rfl := db.wmsEvents.eq_of_key ho hrev.found hid
        exact Or.inl ⟨hrev.commit.2.1, Or.inr (WmsEvent.marked_status_of_eq rfl)⟩
      · rw [WmsEvent.marked_of_ne hid]
        exact h.shape o ho
    · rw [WmsEvent.marked_of_ne hne]
      exact Or.inr ⟨his.kind, his.status⟩
  case outbound =>
    refine Explained.supersede (h.outbound.adds hx hadd
      (fun o ho => hx.linesOf_outbound hadd ho) fun o ho _ hkind => ?_) rfl
    exact absurd hkind (hnot o ho)
  case inbound =>
    refine Explained.supersede (h.inbound.adds hx hadd
      (fun o ho => hx.linesOf_inbound hadd ho) fun o ho _ hkind => ?_) rfl
    exact absurd hkind (hnot o ho)
  case target =>
    intro r hr hkind
    obtain ⟨r₀, hr₀, rfl⟩ := mem_events_supersede.mp hr
    rw [WmsEvent.marked_eventKind] at hkind
    rw [WmsEvent.marked_targetEventId, WmsEvent.marked_eventType]
    have hmark : ∀ o ∈ db.wmsEvents.rows, o.marked original.id ∈
        ((Redo.eventSupersede original.id).apply db₁).wmsEvents.rows := fun o ho =>
      mem_events_supersede.mpr ⟨o, hrows.mpr (Or.inl ho), rfl⟩
    rcases hrows.mp hr₀ with hr₀ | rfl
    · obtain ⟨o, ho, hto, htype, hcommit, hstatus⟩ := h.target r₀ hr₀ hkind
      exact ⟨_, hmark o ho, by simp [hto], by simp [htype], by simp [hcommit],
        WmsEvent.marked_superseded hstatus⟩
    · exact ⟨_, hmark original hrev.found, by simp [his.target],
        by simp [hrev.commit.1, his.eventType], by simp [hrev.commit.2.1],
        WmsEvent.marked_status_of_eq rfl⟩
  case cancels =>
    intro r hr hkind o hto s
    obtain ⟨r₀, hr₀, rfl⟩ := mem_events_supersede.mp hr
    rw [WmsEvent.marked_eventKind] at hkind
    rw [WmsEvent.marked_targetEventId] at hto
    rw [WmsEvent.marked_id]
    rcases hrows.mp hr₀ with hr₀ | rfl
    · obtain ⟨o', ho', hto', -⟩ := h.target r₀ hr₀ hkind
      obtain rfl : o = o'.id := Option.some.inj (hto.symm.trans hto')
      show db₁.eventSum o'.id s + db₁.eventSum r₀.id s = 0
      rw [hx.eventSum hadd ho', hx.eventSum hadd hr₀]
      exact h.cancels r₀ hr₀ hkind _ hto s
    · obtain rfl : o = original.id := Option.some.inj (hto.symm.trans his.target)
      exact hrev.cancels hv his hside hx hadd s
  case once =>
    intro r hr r' hr' hkind hkind' hto
    obtain ⟨r₀, hr₀, rfl⟩ := mem_events_supersede.mp hr
    obtain ⟨r₀', hr₀', rfl⟩ := mem_events_supersede.mp hr'
    rw [WmsEvent.marked_eventKind] at hkind hkind'
    rw [WmsEvent.marked_targetEventId, WmsEvent.marked_targetEventId] at hto
    -- the target of a reversal that was there is superseded, the original is not
    have hother : ∀ r ∈ db.wmsEvents.rows, r.eventKind = .reversal →
        r.targetEventId ≠ e.targetEventId := by
      intro r hr hkind heq
      obtain ⟨o, ho, hto, -, -, hstatus⟩ := h.target r hr hkind
      rw [heq, his.target, Option.some_inj] at hto
      exact hlive o ho hstatus hto.symm
    rcases hrows.mp hr₀ with hr₀ | rfl <;> rcases hrows.mp hr₀' with hr₀' | rfl
    · rw [h.once r₀ hr₀ r₀' hr₀' hkind hkind' hto]
    · exact absurd hto (hother r₀ hr₀ hkind)
    · exact absurd hto.symm (hother r₀' hr₀' hkind')
    · rfl
  case reversed =>
    intro o' ho' hstatus
    obtain ⟨o, ho, rfl⟩ := mem_events_supersede.mp ho'
    by_cases hid : o.id = original.id
    · refine ⟨e.marked original.id, mem_events_supersede.mpr ⟨e, hrows.mpr (Or.inr rfl), rfl⟩, ?_⟩
      simp [his.kind, his.target, hid]
    · rw [WmsEvent.marked_of_ne hid] at hstatus ⊢
      rcases hrows.mp ho with ho | rfl
      · obtain ⟨r, hr, hkind, hto⟩ := h.reversed o ho hstatus
        refine ⟨r.marked original.id, mem_events_supersede.mpr ⟨r, hrows.mpr (Or.inl hr), rfl⟩, ?_⟩
        simp [hkind, hto]
      · rw [his.status] at hstatus
        cases hstatus

end Reversal

/-! ## Every run -/

/-- **One operation keeps the history.** -/
theorem History.step {db db' : Db} {op : Op} (h : History db) (hv : db.Valid)
    (hfresh : op.Fresh db) (hrun : op.prog.run db = .ok ((), db')) : History db' := by
  have hcopies : ∀ {α β : Type} {f : α → β} {P : β → Prop} (ls : List α), (∀ a, P (f a)) →
      ∀ b ∈ ls.map f, P b := by
    intro α β f P ls hf b hb
    obtain ⟨a, -, rfl⟩ := List.mem_map.mp hb
    exact hf a
  cases Op.historyStep hfresh hrun with
  | quiet hadd hrows => exact h.quiet hadd hrows
  | commits hc _ _ _ => exact h.commits hv hc
  | outboundReversal his hrev =>
      exact h.reverses hv hrev his h.outbound (ReversalSide.linked_of_moves hrev.moves)
        (hcopies _ fun _ => rfl) (List.forall_mem_nil _)
  | inboundReversal his hrev =>
      exact h.reverses hv hrev his h.inbound (ReversalSide.linked_of_moves hrev.moves)
        (List.forall_mem_nil _) (hcopies _ fun _ => rfl)

theorem Db.Start.history {db : Db} (h : db.Start) : History db := by
  have hnone : ∀ e, e ∉ db.wmsEvents.rows := by
    intro e he
    rw [h.wmsEvents] at he
    cases he
  exact ⟨fun e he => absurd he (hnone e), fun e he => absurd he (hnone e),
    fun e he => absurd he (hnone e), fun e he => absurd he (hnone e),
    fun e he => absurd he (hnone e), fun e he => absurd he (hnone e),
    fun e he => absurd he (hnone e)⟩

theorem ReachableBy.history {allowed : Db → Op → Prop} {db : Db} (h : ReachableBy allowed db) :
    History db :=
  h.invariant (fun _ hs => hs.history) fun _ _ _ hreach hfresh _ hI hrun =>
    hI.step hreach.valid hfresh hrun

end WmsDu
