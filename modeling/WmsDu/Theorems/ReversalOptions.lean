import WmsDu.Db.Linked
import WmsDu.Reversal.Options
import WmsDu.System.History
import WmsDu.System.Sample

/-!
# What is offered for reversal is reversed

The detail of an event says whether it can be reversed. For outbound events the
reversal then completes, in every state the services reach; for inbound events
it completes as long as every lot still holds what the event had brought. So
the checks behind the offer are the only ones that fail.
-/

namespace WmsDu

open Txn Tx

section Loop
variable {Line : Type} {side : ReversalSide Line} {db db' : Db}

/-! ## The lot writer under a new number -/

/-- A call under a new number posts when the lot is there and holds enough. -/
theorem run_adjustLotImpl_of {a : AdjustLotArgs} {lotId : Int} {sub : Option String}
    {e : Option Int} (hv : db.Valid) (hsub : metaStr a.metaDict "sub_reason" = .ok sub)
    (hev : metaInt a.metaDict "event_id" = .ok e) (hlot : a.lotId = some lotId)
    (hdelta : a.delta ≠ 0) (hcode : normLotCode a.lotCode = none)
    (hdims : db.HasLotDims (a.key lotId).slot) (hnew : ¬ db.stockLedger.HasKey (a.key lotId))
    (hevent : ∀ id, e = some id → db.wmsEvents.HasKey id)
    (hstock : 0 ≤ db.qtyOf (a.key lotId).slot + a.delta) :
    ∃ r db', (adjustLotImpl a).run db = .ok (r, db') := by
  obtain ⟨lot, hmem, hslot⟩ := hdims
  have hitem : ∃ item, db.items.lookup a.itemId = some item := by
    obtain ⟨-, hkey, -⟩ := hv.lots lot hmem
    rw [show lot.itemId = a.itemId from congrArg Slot.itemId hslot] at hkey
    exact Option.isSome_iff_exists.mp (Table.hasKey_iff_isSome.mp hkey)
  obtain ⟨item, hitem⟩ := hitem
  have hpos : lotId ≠ 0 := by
    have hid : lot.id = lotId := congrArg Slot.lotId hslot
    have := (hv.lots lot hmem).1
    omega
  have hmoves : ¬ (a.delta = 0 ∧ sub = none) := fun h => hdelta h.1
  have hlotted : ¬ (decide (item.policy.expiryPolicy = .required) = true ∧ lotId = 0) :=
    fun h => hpos h.2
  have hpost : Posts db (a.row db lotId sub e none none) (db.post (a.row db lotId sub e none none)) :=
    ⟨hnew, rfl, hstock, ⟨lot, hmem, hslot⟩, hevent, rfl⟩
  refine ⟨.applied (a.answer db lotId e none none), db.post (a.row db lotId sub e none none), ?_⟩
  simp only [adjustLotImpl, hsub, hev]
  rw [Prog.run_bind_of_ok (run_ofExcept_ok.mpr ⟨rfl, rfl⟩),
    Prog.run_bind_of_ok (run_ofExcept_ok.mpr ⟨rfl, rfl⟩), if_neg fun h => hdelta h.1,
    Prog.run_bind_of_ok (Tx.run_require_of hmoves), hlot,
    Prog.run_bind_of_ok (Tx.run_requireSome_ok.mpr ⟨rfl, rfl⟩),
    Prog.run_bind_of_ok (run_itemRequiresBatch_ok.mpr ⟨item, hitem, rfl, rfl⟩),
    Prog.run_bind_of_ok (Tx.run_require_of hlotted),
    Prog.run_bind_of_ok (a := ()) (run_assertLotBelongsTo_ok.mpr ⟨⟨lot, hmem, hslot⟩, rfl⟩)]
  have hdates : (resolveAndValidateDatesForInbound a.itemId a.delta (normLotCode a.lotCode)
      a.productionDate a.expiryDate).run db = .ok ((none, none), db) := by
    rw [resolveAndValidateDatesForInbound, if_pos hcode]
    rfl
  rw [Prog.run_bind_of_ok hdates, Prog.run_bind_of_ok (run_idemHitByLotKey _)]
  simp only [hnew, decide_false, Bool.false_eq_true, if_false]
  exact (run_adjustLotBook_new hnew).mpr ⟨hpost, rfl⟩

/-! ## The loop over the lines -/

/-- Nothing is written but a line under an event. -/
structure LineOnly (db db₁ : Db) : Prop where
  stocksLot : db₁.stocksLot = db.stocksLot
  stockLedger : db₁.stockLedger = db.stockLedger
  lots : db₁.lots = db.lots
  wmsEvents : db₁.wmsEvents = db.wmsEvents

/-- The lines can be copied one after another: a copy leaves room for the lines
of other numbers, and so does a movement. -/
structure Copies (side : ReversalSide Line) (eventId : Int) (room : Db → Line → Prop) : Prop where
  insert : ∀ db l, room db l → ∃ db₁,
    (Prog.exec (side.insertCopy eventId l) : Tx Unit).run db = .ok ((), db₁) ∧ LineOnly db db₁ ∧
      ∀ l', side.lineNo l' ≠ side.lineNo l → room db l' → room db₁ l'
  posts : ∀ db db' row l, Posts db row db' → room db l → room db' l

/-- What a line needs to be taken back. -/
structure Reversible (side : ReversalSide Line) (original event : WmsEvent)
    (room : Db → Line → Prop) (db : Db) (l : Line) : Prop where
  room : room db l
  qty : 0 < side.qty l
  lot : ∃ s, side.slotOf original l = some s ∧ db.HasLotDims s
  number : db.NoRefLine event.eventNo (side.lineNo l)

theorem Db.Valid.qtyOf_nonneg (hv : db.Valid) (s : Slot) : 0 ≤ db.qtyOf s :=
  sumOver_nonneg fun r hr _ => (hv.stock r hr).2

/-- All lines move the same way, so the first of them does not overdraw either. -/
theorem cancel_fits {original : WmsEvent} {l : Line} {rest : List Line} {s : Slot}
    (hsign : (∀ l, 0 < side.qty l → 0 ≤ side.cancel l) ∨
      ∀ l, 0 < side.qty l → side.cancel l ≤ 0) (hv : db.Valid) (hl : 0 < side.qty l)
    (hrest : ∀ l' ∈ rest, 0 < side.qty l') (hslot : side.slotOf original l = some s)
    (hstock : 0 ≤ db.qtyOf s + side.cancelSum original (l :: rest) s) :
    0 ≤ db.qtyOf s + side.cancel l := by
  rcases hsign with hsign | hsign
  · exact add_nonneg (hv.qtyOf_nonneg s) (hsign l hl)
  · have hothers : 0 ≤ -side.cancelSum original rest s := by
      rw [ReversalSide.cancelSum, ← sumOver_neg]
      exact sumOver_nonneg fun l' hl' _ => neg_nonneg.mpr (hsign l' (hrest l' hl'))
    rw [ReversalSide.cancelSum, sumOver_cons, if_pos hslot] at hstock
    rw [ReversalSide.cancelSum] at hothers
    omega

/-- **The loop runs to its end** when no slot falls below zero by it. -/
theorem run_reverseLines_of {original event : WmsEvent} {payload : ReversalIn} {now : Timestamp}
    {room : Db → Line → Prop} {ls : List Line} (hcopies : Copies side event.id room)
    (hcancel : ∀ l, 0 < side.qty l → side.cancel l ≠ 0)
    (hsign : (∀ l, 0 < side.qty l → 0 ≤ side.cancel l) ∨
      ∀ l, 0 < side.qty l → side.cancel l ≤ 0) (hpos : 0 < event.id) (hv : db.Valid)
    (hevent : db.wmsEvents.HasKey event.id) (hnd : (ls.map side.lineNo).Nodup)
    (hls : ∀ l ∈ ls, Reversible side original event room db l)
    (hstock : ∀ s, 0 ≤ db.qtyOf s + side.cancelSum original ls s) :
    ∃ db', (reverseLines side original event payload now ls).run db = .ok ((), db') := by
  induction ls generalizing db with
  | nil => exact ⟨db, rfl⟩
  | cons l rest ih =>
      rw [List.map_cons, List.nodup_cons] at hnd
      rw [List.forall_mem_cons] at hls
      obtain ⟨hl, hrest⟩ := hls
      obtain ⟨s, hslot, hdims⟩ := hl.lot
      obtain ⟨lotId, hlot, rfl⟩ := Option.map_eq_some_iff.mp hslot
      obtain ⟨db₁, hins, honly, hroom⟩ := hcopies.insert db l hl.room
      have hv₁ : db₁.Valid := Tx.run_valid hins hv
      have hqty₁ : ∀ s, db₁.qtyOf s = db.qtyOf s := fun s => by
        rw [Db.qtyOf, honly.stocksLot, Db.qtyOf]
      have hmeta : metaInt (cancelArgs side original event payload now l lotId).metaDict "event_id" =
          .ok (some event.id) := metaInt_event (m := [("sub_reason", .str side.subReason)]) hpos rfl
      have hdims₁ : ∀ s, db.HasLotDims s → db₁.HasLotDims s := fun s hs => by
        rw [Db.HasLotDims, honly.lots]
        exact hs
      have hnew₁ : ∀ n, db.NoRefLine event.eventNo n → db₁.NoRefLine event.eventNo n :=
        fun n hn => hn.of_ledger honly.stockLedger
      have hfree : 0 ≤ db.qtyOf ⟨original.warehouseId, side.itemId l, lotId⟩ + side.cancel l :=
        cancel_fits hsign hv hl.qty (fun l' hl' => (hrest l' hl').qty) hslot (hstock _)
      have hfresh : ¬ db₁.stockLedger.HasKey
          ((cancelArgs side original event payload now l lotId).key lotId) := by
        rintro ⟨row, hrow, hkey⟩
        exact hnew₁ _ hl.number row hrow (by rw [hkey]; rfl) (by rw [hkey]; rfl)
      obtain ⟨r, db₂, hadjust⟩ := run_adjustLotImpl_of hv₁
        (a := cancelArgs side original event payload now l lotId) rfl hmeta rfl
        (hcancel l hl.qty) rfl (hdims₁ _ hdims) hfresh
        (fun id hid => by
          cases hid
          rw [honly.wmsEvents]
          exact hevent)
        (by rw [hqty₁]; exact hfree)
      obtain ⟨row, hpost, hkey, hdelta, -⟩ := run_adjustLotImpl_new (e := event)
        (show (cancelArgs side original event payload now l lotId).lotId = some lotId from rfl)
        (hcancel l hl.qty) hmeta (hnew₁ _ hl.number) hadjust
      have hrowslot : row.slot = ⟨original.warehouseId, side.itemId l, lotId⟩ := by
        rw [StockLedgerRow.slot, hkey]
        rfl
      obtain ⟨db', hrun⟩ := @ih db₂ (Tx.run_valid hadjust hv₁)
        (by rw [hpost.eq]; exact honly.wmsEvents ▸ hevent) hnd.2 (fun l' hl' => by
          have hne : side.lineNo l' ≠ side.lineNo l := fun heq =>
            hnd.1 (List.mem_map.mpr ⟨l', hl', heq⟩)
          obtain ⟨s', hs', hd'⟩ := (hrest l' hl').lot
          refine ⟨hcopies.posts _ _ _ _ hpost (hroom l' hne (hrest l' hl').room),
            (hrest l' hl').qty, ⟨s', hs', ?_⟩, hpost.noRefLine (hnew₁ _ (hrest l' hl').number) ?_⟩
          · rw [hpost.eq]
            exact hdims₁ s' hd'
          · rw [hkey]
            exact hne.symm)
        (fun s => by
          have hs := hstock s
          rw [ReversalSide.cancelSum, sumOver_cons] at hs
          rw [hpost.qtyOf, hqty₁, hrowslot, hdelta, add_assoc]
          refine le_of_le_of_eq hs (congrArg _ ?_)
          congr 1
          simp only [hslot, Option.some.injEq, eq_comm]
          rfl)
      refine ⟨db', ?_⟩
      rw [reverseLines, Prog.run_bind_of_ok (Tx.run_requireSome_ok.mpr ⟨hlot, rfl⟩),
        Prog.run_bind_of_ok (Tx.run_require_of hl.qty), Prog.run_bind_of_ok hins,
        Prog.run_bind_of_ok hadjust]
      exact hrun

end Loop

/-! ## The two tables of lines -/

/-- There is room for a copy of an outbound line under the event. -/
structure OutboundRoom (eventId : Int) (db : Db) (l : OutboundEventLine) : Prop where
  check : l.check = none
  key : ¬ db.outboundEventLines.HasKey (eventId, l.refLine)
  event : db.wmsEvents.HasKey eventId
  order : ∀ o, l.orderLineId = some o → db.orderLines.HasKey o

/-- There is room for a copy of an inbound line under the event. -/
structure InboundRoom (eventId : Int) (db : Db) (l : InboundEventLine) : Prop where
  check : l.check = none
  key : ¬ db.inboundEventLines.HasKey (eventId, l.lineNo)
  event : db.wmsEvents.HasKey eventId
  item : db.items.HasKey l.itemId
  uom : db.itemUoms.HasKey l.actualUomId
  lot : ∀ lot, l.lotId = some lot → db.lots.HasKey lot

theorem outbound_copies (eventId : Int) :
    Copies outboundSide eventId (OutboundRoom eventId) where
  insert := by
    intro db l h
    refine ⟨_, run_insertOutboundLine.mpr ⟨h.check, h.key, h.event, h.order, rfl⟩,
      ⟨rfl, rfl, rfl, rfl⟩, fun l' hne h' => ⟨h'.check, fun hkey => ?_, h'.event, h'.order⟩⟩
    rcases Table.hasKey_insert.mp hkey with hold | heq
    · exact h'.key hold
    · exact hne (congrArg Prod.snd heq)
  posts := by
    rintro db db' row l hpost ⟨hcheck, hkey, hevent, horder⟩
    rw [hpost.eq]
    exact ⟨hcheck, hkey, hevent, horder⟩

theorem inbound_copies (eventId : Int) :
    Copies inboundSide eventId (InboundRoom eventId) where
  insert := by
    intro db l h
    refine ⟨_, run_insertInboundLine.mpr ⟨h.check, h.key, h.event, h.item, h.uom, h.lot, rfl⟩,
      ⟨rfl, rfl, rfl, rfl⟩,
      fun l' hne h' => ⟨h'.check, fun hkey => ?_, h'.event, h'.item, h'.uom, h'.lot⟩⟩
    rcases Table.hasKey_insert.mp hkey with hold | heq
    · exact h'.key hold
    · exact hne (congrArg Prod.snd heq)
  posts := by
    rintro db db' row l hpost ⟨hcheck, hkey, hevent, hitem, huom, hlot⟩
    rw [hpost.eq]
    exact ⟨hcheck, hkey, hevent, hitem, huom, hlot⟩

/-! ## The whole call -/

/-- What the sequence, the clock and uuid4 draw is new to the database. -/
structure EventDraws.NewTo (c : EventDraws) (db : Db) : Prop where
  pos : 0 < c.eventId
  id : ¬ db.wmsEvents.HasKey c.eventId
  eventNo : ∀ e ∈ db.wmsEvents.rows, e.eventNo ≠ c.eventNo
  traceId : ∀ e ∈ db.wmsEvents.rows, e.traceId ≠ c.traceId
  ref : db.NoRef c.eventNo

/-- An event that can be taken back: committed, with lines, in a warehouse that
is not frozen. -/
structure Offered {Line : Type} (side : ReversalSide Line) (db : Db) (original : WmsEvent) :
    Prop where
  found : original ∈ db.wmsEvents.rows
  eventType : original.eventType = side.eventType
  kind : original.eventKind = .commit
  status : original.status = .committed
  lines : linesOf side db original.id ≠ []
  thawed : ¬ db.Frozen original.warehouseId

section Call
variable {Line : Type} {side : ReversalSide Line} {db db' : Db} {original : WmsEvent}

/-- What is committed has no reversal. -/
theorem History.findCommittedReversal_eq_none (h : History db)
    (hfound : original ∈ db.wmsEvents.rows) (hstatus : original.status = .committed)
    (eventType : EventType) : findCommittedReversal db eventType original.id = none := by
  have hnone : db.wmsEvents.rows.filter (fun e => e.eventType = eventType ∧
      e.eventKind = .reversal ∧ e.targetEventId = some original.id ∧ e.status = .committed) = [] := by
    refine List.filter_eq_nil_iff.mpr fun e he hall => ?_
    obtain ⟨-, hkind, hto, -⟩ := of_decide_eq_true hall
    obtain ⟨o, ho, hto', -, -, hsuperseded⟩ := h.target e he hkind
    obtain rfl := db.wmsEvents.eq_of_key ho hfound (Option.some.inj (hto'.symm.trans hto))
    rw [hstatus] at hsuperseded
    cases hsuperseded
  rw [findCommittedReversal, hnone]
  rfl

/-- Every line that moved a slot names a lot that is there. -/
theorem exists_slot_of_moves {d : Line → Int} {ls : List Line} {rows : List StockLedgerRow}
    (h : List.Forall₂ (side.Moves original d) ls rows)
    (hrows : ∀ row ∈ rows, db.HasLotDims row.slot) :
    ∀ l ∈ ls, ∃ s, side.slotOf original l = some s ∧ db.HasLotDims s := by
  induction h with
  | nil => exact List.forall_mem_nil _
  | cons hm _ ih =>
      rw [List.forall_mem_cons] at hrows ⊢
      exact ⟨⟨_, hm.slot, hrows.1⟩, ih hrows.2⟩

/-- The lines of an event on offer are listed. -/
theorem run_listEventLinesForReversal_of (ho : Offered side db original) :
    (listEventLinesForReversal side original.id).run db =
      .ok ((linesOf side db original.id).insertionSort fun a b => side.lineNo a ≤ side.lineNo b,
        db) := by
  rw [listEventLinesForReversal, Prog.run_bind_of_ok (Tx.run_select _ _),
    Prog.run_bind_of_ok (Tx.run_require_of ?_)]
  · rfl
  · refine List.isEmpty_eq_false_iff.mpr fun hnil => ho.lines ?_
    have hperm := List.perm_insertionSort (fun a b => side.lineNo a ≤ side.lineNo b)
      (linesOf side db original.id)
    rw [hnil] at hperm
    exact hperm.symm.eq_nil

theorem run_getEventForReversal_of (ho : Offered side db original) :
    (getEventForReversal side original.id).run db = .ok (original, db) := by
  have hrow : (db.wmsEvents.lookup original.id).filter (fun e => e.eventType = side.eventType) =
      some original := by
    rw [Table.lookup_eq_some.mpr ⟨ho.found, rfl⟩, Option.filter_some,
      if_pos (decide_eq_true ho.eventType)]
  rw [getEventForReversal, Prog.run_bind_of_ok (Tx.run_select _ _),
    Prog.run_bind_of_ok (Tx.run_requireSome_ok.mpr ⟨hrow, rfl⟩),
    Prog.run_bind_of_ok (Tx.run_require_of ho.kind),
    Prog.run_bind_of_ok (Tx.run_require_of ho.status)]
  rfl

theorem run_markSuperseded_total (db : Db) (eventType : EventType) (eventId : Int) :
    ∃ db', (Prog.exec (.markSuperseded eventType eventId) : Tx Unit).run db = .ok ((), db') := by
  simp only [Prog.run_exec_ok, Database.exec, Sql.exec]
  split
  · exact ⟨_, _, rfl, rfl⟩
  · exact ⟨_, _, rfl, rfl⟩

/-- **A reversal of an offered event completes** when its lines can be copied
and no slot falls below zero. -/
theorem run_reverseEvent_of {payload : ReversalIn} {userId : Option Int} {c : EventDraws}
    {room : Db → Line → Prop} (hcopies : Copies side c.eventId room)
    (hcancel : ∀ l, 0 < side.qty l → side.cancel l ≠ 0)
    (hsign : (∀ l, 0 < side.qty l → 0 ≤ side.cancel l) ∨
      ∀ l, 0 < side.qty l → side.cancel l ≤ 0)
    (hnd : ((linesOf side db original.id).map side.lineNo).Nodup)
    (hv : db.Valid) (hlinked : db.Linked) (hh : History db) (hside : Explained side db)
    (hc : c.NewTo db) (ho : Offered side db original)
    (hqty : ∀ l ∈ linesOf side db original.id, 0 < side.qty l)
    (hroom : ∀ e : WmsEvent, e.id = c.eventId → ∀ l ∈ linesOf side db original.id,
      room ((Redo.eventInsert e).apply db) l)
    (hstock : ∀ s, 0 ≤ db.qtyOf s + side.cancelSum original (linesOf side db original.id) s) :
    ∃ out db', (reverseEvent side original.id payload userId c).run db = .ok (out, db') := by
  have hperm : ((linesOf side db original.id).insertionSort fun a b =>
      side.lineNo a ≤ side.lineNo b).Perm (linesOf side db original.id) :=
    List.perm_insertionSort _ _
  have hnone := hh.findCommittedReversal_eq_none ho.found ho.status side.eventType
  have hinsert : (Prog.exec (.insertEvent (reversalEvent side original payload userId c)) :
      Tx Unit).run db = .ok ((), (Redo.eventInsert
        (reversalEvent side original payload userId c)).apply db) :=
    run_insertEvent.mpr ⟨hc.pos, hc.id, hc.eventNo, hc.traceId, hlinked.events original ho.found,
      fun t ht => by cases ht; exact ⟨original, ho.found, rfl⟩, rfl⟩
  have hloop : ∃ db₁, (reverseLines side original (reversalEvent side original payload userId c)
      payload c.now ((linesOf side db original.id).insertionSort fun a b =>
        side.lineNo a ≤ side.lineNo b)).run ((Redo.eventInsert
          (reversalEvent side original payload userId c)).apply db) = .ok ((), db₁) := by
    refine run_reverseLines_of hcopies hcancel hsign hc.pos (Tx.run_valid hinsert hv)
      (Table.hasKey_insert.mpr (Or.inr rfl)) ((hperm.map side.lineNo).nodup_iff.mpr hnd)
      (fun l hl => ?_) fun s => ?_
    · have hmem := hperm.mem_iff.mp hl
      obtain ⟨s, hslot, hdims⟩ := exists_slot_of_moves
        (hside original ho.found ho.eventType ho.kind)
        (fun row hrow => hlinked.ledger row (List.mem_filter.mp hrow).1) l hmem
      exact ⟨hroom _ rfl l hmem, hqty l hmem, ⟨s, hslot, hdims⟩, hc.ref.noRefLine _⟩
    · rw [ReversalSide.cancelSum, sumOver_perm hperm]
      exact hstock s
  obtain ⟨db₁, hlines⟩ := hloop
  obtain ⟨db', hmark⟩ := run_markSuperseded_total db₁ side.eventType original.id
  refine ⟨?out, db', ?run⟩
  case run =>
    rw [reverseEvent, Prog.run_bind_of_ok (Tx.run_select _ _),
      Prog.run_bind_of_ok (Tx.run_require_of (by rw [hnone]; rfl)),
      Prog.run_bind_of_ok (run_getEventForReversal_of ho), Prog.run_bind_of_ok (run_listEventLinesForReversal_of ho),
      Prog.run_bind_of_ok (a := ()) (run_ensureWarehouseNotFrozen_ok.mpr ⟨ho.thawed, rfl⟩)]
    simp only []
    rw [Prog.run_bind_of_ok hinsert, Prog.run_bind_of_ok hlines, Prog.run_bind_of_ok hmark]
    rfl

/-- A reversal that completes was of an event on offer. -/
theorem run_reverseEvent_offered {eventId : Int} {payload : ReversalIn} {userId : Option Int}
    {c : EventDraws} {out : ReversalOut}
    (h : (reverseEvent side eventId payload userId c).run db = .ok (out, db')) :
    ∃ original, original.id = eventId ∧ Offered side db original := by
  simp only [reverseEvent, Prog.run_bind_ok, Tx.run_select, Tx.run_require_ok,
    run_ensureWarehouseNotFrozen_ok] at h
  obtain ⟨_, _, hread, _, _, ⟨-, rfl⟩, original, _, hget, ls, _, hlist, _, _, ⟨hthawed, rfl⟩, -⟩ := h
  cases hread
  obtain ⟨rfl, hmem, rfl, htype, hkind, hstatus⟩ := run_getEventForReversal_ok hget
  simp only [listEventLinesForReversal, Prog.run_bind_ok, Tx.run_select, Tx.run_require_ok] at hlist
  obtain ⟨_, _, hread', _, _, ⟨hne, rfl⟩, hret⟩ := hlist
  cases hread'
  cases hret
  refine ⟨original, rfl, hmem, htype, hkind, hstatus, fun hnil => ?_, hthawed⟩
  rw [hnil] at hne
  cases hne

/-- It left no slot below zero. -/
theorem Reverses.stock {e : WmsEvent} {ls : List Line} {x : Additions}
    (hrev : Reverses side db original e ls x db') (his : e.warehouseId = original.warehouseId)
    (hv : db'.Valid) (s : Slot) :
    0 ≤ db.qtyOf s + side.cancelSum original (linesOf side db original.id) s := by
  obtain ⟨db₁, hadd, rfl⟩ := hrev.adds
  have hnonneg : 0 ≤ db₁.qtyOf s := hv.qtyOf_nonneg s
  rw [hadd.qty, sumOver_moves hrev.moves] at hnonneg
  simp only [ReversalSide.slotOf, his] at hnonneg
  rw [ReversalSide.cancelSum, ← sumOver_perm hrev.lines]
  exact hnonneg

/-! ## The details -/

theorem reversalHeader_eq_some {eventId : Int} {h : ReversalHeader} :
    reversalHeader side db eventId = some h ↔ ∃ e ∈ db.wmsEvents.rows, e.id = eventId ∧
      e.eventType = side.eventType ∧
      h = ⟨e, (linesOf side db e.id).length, ((linesOf side db e.id).map side.qty).sum,
        findCommittedReversal db side.eventType e.id⟩ := by
  rw [reversalHeader, Option.map_eq_some_iff]
  constructor
  · rintro ⟨e, he, rfl⟩
    obtain ⟨hlookup, htype⟩ := Option.filter_eq_some_iff.mp he
    obtain ⟨hmem, hid⟩ := Table.lookup_eq_some.mp hlookup
    exact ⟨e, hmem, hid, of_decide_eq_true htype, rfl⟩
  · rintro ⟨e, hmem, hid, htype, rfl⟩
    refine ⟨e, ?_, rfl⟩
    exact Option.filter_eq_some_iff.mpr
      ⟨Table.lookup_eq_some.mpr ⟨hmem, hid⟩, decide_eq_true htype⟩

theorem run_freezeNonReversibleReason {text : String} {w : Int} :
    (freezeNonReversibleReason text w).run db =
      .ok (if db.Frozen w then some text else none, db) := by
  rw [freezeNonReversibleReason, Tx.run_select]
  by_cases hf : db.Frozen w
  · rw [if_pos hf]
    cases hrun : (ensureWarehouseNotFrozen w).run db with
    | ok p =>
        obtain ⟨u, db'⟩ := p
        exact absurd hf (run_ensureWarehouseNotFrozen_ok.mp hrun).1
    | error e => rfl
  · have hrun : (ensureWarehouseNotFrozen w).run db = .ok ((), db) :=
      run_ensureWarehouseNotFrozen_ok.mpr ⟨hf, rfl⟩
    rw [if_neg hf, hrun]

end Call

section Details
variable {db : Db} {original : WmsEvent}

/-- A committed event is only held back by a frozen warehouse. -/
theorem frozen_reason {text : String} {w : Int} :
    (if db.Frozen w then some text else none) = none ↔ ¬ db.Frozen w := by
  split <;> simp [*]

/-- No reason is found exactly for an event that can be taken back. -/
theorem run_outboundNonReversibleReason (hh : History db)
    (hfound : original ∈ db.wmsEvents.rows) {n q : Int} (hn : 0 < n) :
    ∃ reason, (outboundNonReversibleReason ⟨original, n, q,
        findCommittedReversal db outboundSide.eventType original.id⟩).run db = .ok (reason, db) ∧
      (reason = none ↔ original.eventKind = .commit ∧ original.status = .committed ∧
        ¬ db.Frozen original.warehouseId) := by
  unfold outboundNonReversibleReason
  rcases hh.shape original hfound with ⟨hkind, hstatus | hstatus⟩ | ⟨hkind, hstatus⟩
  · rw [hh.findCommittedReversal_eq_none hfound hstatus]
    simp only [hkind, hstatus, ne_eq, not_true_eq_false, if_false, reduceCtorEq, not_le.mpr hn]
    refine ⟨_, run_freezeNonReversibleReason, frozen_reason.trans ?_⟩
    simp
  · simp only [hkind, hstatus, ne_eq, not_true_eq_false, if_false, if_true]
    exact ⟨_, rfl, by simp⟩
  · simp only [hkind, ne_eq, reduceCtorEq, not_false_eq_true, if_true]
    exact ⟨_, rfl, by simp⟩

theorem run_inboundNonReversibleReason (hh : History db)
    (hfound : original ∈ db.wmsEvents.rows) {n q : Int} :
    ∃ reason, (inboundNonReversibleReason ⟨original, n, q,
        findCommittedReversal db inboundSide.eventType original.id⟩).run db = .ok (reason, db) ∧
      (reason = none ↔ original.eventKind = .commit ∧ original.status = .committed ∧
        ¬ db.Frozen original.warehouseId) := by
  unfold inboundNonReversibleReason
  rcases hh.shape original hfound with ⟨hkind, hstatus | hstatus⟩ | ⟨hkind, hstatus⟩
  · rw [hh.findCommittedReversal_eq_none hfound hstatus]
    simp only [hkind, hstatus, ne_eq, not_true_eq_false, if_false]
    refine ⟨_, run_freezeNonReversibleReason, frozen_reason.trans ?_⟩
    simp
  · simp only [hkind, hstatus, ne_eq, not_true_eq_false, if_false, reduceCtorEq, not_false_eq_true,
      if_true]
    exact ⟨_, rfl, by simp⟩
  · simp only [hkind, ne_eq, reduceCtorEq, not_false_eq_true, if_true]
    exact ⟨_, rfl, by simp⟩

/-- The detail of an outbound event offers its reversal exactly when it is on
offer. -/
theorem run_outboundDetail_reversible (hh : History db) {eventId : Int} :
    (∃ d, (getOutboundReversalDetail eventId).run db = .ok (d, db) ∧ d.reversible = true) ↔
      ∃ original, original.id = eventId ∧ Offered outboundSide db original := by
  constructor
  · rintro ⟨d, h, hrev⟩
    simp only [getOutboundReversalDetail, listEventLinesForReversal, bind_assoc, Prog.run_bind_ok,
      Tx.run_select, Tx.run_requireSome_ok, Tx.run_require_ok, pure_bind] at h
    obtain ⟨_, _, hread, header, _, ⟨hheader, rfl⟩, _, _, hread', _, _, ⟨hne, rfl⟩, reason, _,
      hreason, hret⟩ := h
    cases hread
    cases hread'
    cases hret
    obtain ⟨e, hmem, rfl, htype, rfl⟩ := reversalHeader_eq_some.mp hheader
    have hlines : linesOf outboundSide db e.id ≠ [] := by
      intro hnil
      rw [hnil] at hne
      cases hne
    obtain ⟨reason', hrun, hiff⟩ := run_outboundNonReversibleReason hh hmem
      (n := (linesOf outboundSide db e.id).length)
      (q := ((linesOf outboundSide db e.id).map outboundSide.qty).sum)
      (by exact_mod_cast List.length_pos_iff.mpr hlines)
    rw [hrun] at hreason
    cases hreason
    obtain ⟨hkind, hstatus, hthawed⟩ := hiff.mp (Option.isNone_iff_eq_none.mp hrev)
    exact ⟨e, rfl, hmem, htype, hkind, hstatus, hlines, hthawed⟩
  · rintro ⟨e, rfl, ho⟩
    obtain ⟨reason, hreason, hiff⟩ := run_outboundNonReversibleReason hh ho.found
      (n := (linesOf outboundSide db e.id).length)
      (q := ((linesOf outboundSide db e.id).map outboundSide.qty).sum)
      (by exact_mod_cast List.length_pos_iff.mpr ho.lines)
    obtain rfl := hiff.mpr ⟨ho.kind, ho.status, ho.thawed⟩
    refine ⟨?d, ?run, ?offered⟩
    case run =>
      rw [getOutboundReversalDetail, Prog.run_bind_of_ok (Tx.run_select _ _),
        Prog.run_bind_of_ok (Tx.run_requireSome_ok.mpr
          ⟨reversalHeader_eq_some.mpr ⟨e, ho.found, rfl, ho.eventType, rfl⟩, rfl⟩),
        Prog.run_bind_of_ok (run_listEventLinesForReversal_of ho),
        Prog.run_bind_of_ok hreason]
      rfl
    case offered => rfl

/-- What the detail of an inbound event shows of a reversible one. -/
def inboundDetail (db : Db) (e : WmsEvent) : ReversalDetail InboundEventLine :=
  ReversalHeader.detail ⟨e, (linesOf inboundSide db e.id).length,
      ((linesOf inboundSide db e.id).map inboundSide.qty).sum,
      findCommittedReversal db inboundSide.eventType e.id⟩ none
    (((linesOf inboundSide db e.id).insertionSort fun a b => a.lineNo ≤ b.lineNo).map
      fun l => l.copyFor l.eventId)

/-- So does the detail of an inbound event. -/
theorem run_inboundDetail_reversible (hh : History db) {eventId : Int}
    {d : ReversalDetail InboundEventLine} :
    (getReversibleInboundEventDetail eventId).run db = .ok (d, db) ∧ d.reversible = true ↔
      ∃ original, original.id = eventId ∧ Offered inboundSide db original ∧
        d = inboundDetail db original := by
  have hperm : ∀ e : WmsEvent, ((linesOf inboundSide db e.id).insertionSort fun a b =>
      a.lineNo ≤ b.lineNo).Perm (linesOf inboundSide db e.id) := fun e => List.perm_insertionSort _ _
  constructor
  · rintro ⟨h, hrev⟩
    simp only [getReversibleInboundEventDetail, Prog.run_bind_ok, Tx.run_select,
      Tx.run_requireSome_ok] at h
    obtain ⟨_, _, hread, header, _, ⟨hheader, rfl⟩, _, _, hread', reason, _, hreason, hret⟩ := h
    cases hread
    cases hread'
    cases hret
    obtain ⟨e, hmem, rfl, htype, rfl⟩ := reversalHeader_eq_some.mp hheader
    obtain ⟨reason', hrun, hiff⟩ := run_inboundNonReversibleReason hh hmem
      (n := (linesOf inboundSide db e.id).length)
      (q := ((linesOf inboundSide db e.id).map inboundSide.qty).sum)
    rw [hrun] at hreason
    cases hreason
    have hnone := Option.isNone_iff_eq_none.mp hrev
    split at hnone
    · cases hnone
    · rename_i hlines
      obtain ⟨hkind, hstatus, hthawed⟩ := hiff.mp hnone
      refine ⟨e, rfl, ⟨hmem, htype, hkind, hstatus, fun hnil => hlines ⟨?_, hnone⟩, hthawed⟩, ?_⟩
      · rw [hnil]
        rfl
      · rw [inboundDetail, if_neg hlines, hnone]
  · rintro ⟨e, rfl, ho, rfl⟩
    obtain ⟨reason, hreason, hiff⟩ := run_inboundNonReversibleReason hh ho.found
      (n := (linesOf inboundSide db e.id).length)
      (q := ((linesOf inboundSide db e.id).map inboundSide.qty).sum)
    obtain rfl := hiff.mpr ⟨ho.kind, ho.status, ho.thawed⟩
    refine ⟨?_, rfl⟩
    rw [getReversibleInboundEventDetail, Prog.run_bind_of_ok (Tx.run_select _ _),
      Prog.run_bind_of_ok (Tx.run_requireSome_ok.mpr
        ⟨reversalHeader_eq_some.mpr ⟨e, ho.found, rfl, ho.eventType, rfl⟩, rfl⟩),
      Prog.run_bind_of_ok (Tx.run_select _ _), Prog.run_bind_of_ok hreason]
    have hlines : ¬ ((linesOf inboundSide db e.id).insertionSort (fun a b => a.lineNo ≤ b.lineNo) = [] ∧
        (none : Option String) = none) := by
      rintro ⟨hnil, -⟩
      have hp := hperm e
      rw [hnil] at hp
      exact ho.lines hp.symm.eq_nil
    dsimp only
    rw [if_neg hlines]
    rfl

/-- What the detail shows as received in a slot. -/
def ReversalDetail.received (d : ReversalDetail InboundEventLine) (s : Slot) : Int :=
  sumOver (fun l => d.warehouseId = s.warehouseId ∧ l.itemId = s.itemId ∧ l.lotId = some s.lotId)
    InboundEventLine.qtyBase d.lines

/-- The lines shown are those the reversal takes back. -/
theorem received_inboundDetail (s : Slot) :
    (inboundDetail db original).received s =
      -(inboundSide.cancelSum original (linesOf inboundSide db original.id) s) := by
  rw [ReversalSide.cancelSum, ← sumOver_neg, ReversalDetail.received, inboundDetail,
    ReversalHeader.detail, sumOver_map, sumOver_perm (List.perm_insertionSort _ _)]
  refine sumOver_congr (fun l _ => ?_) fun l _ _ => (neg_neg l.qtyBase).symm
  rw [ReversalSide.slotOf, Option.map_eq_some_iff]
  constructor
  · rintro ⟨hw, hi, hl⟩
    refine ⟨s.lotId, hl, ?_⟩
    obtain ⟨w, i, lotId⟩ := s
    cases hw
    cases hi
    rfl
  · rintro ⟨lotId, hl, rfl⟩
    exact ⟨rfl, rfl, hl⟩

end Details
/-! ## The two services -/

theorem Db.Start.linked {db : Db} (h : db.Start) : db.Linked where
  events := by rw [h.wmsEvents]; intro e he; cases he
  ledger := by rw [h.stockLedger]; intro row hrow; cases hrow
  outbound := by rw [h.outboundEventLines]; intro l hl; cases hl
  inbound := by rw [h.inboundEventLines]; intro l hl; cases hl

theorem ReachableBy.linked {allowed : Db → Op → Prop} {db : Db} (h : ReachableBy allowed db) :
    db.Linked :=
  h.invariant (fun _ hs => hs.linked) fun _ _ _ _ _ _ hI hrun => Tx.run_linked hrun hI

section Room
variable {db : Db} {original e : WmsEvent} {c : EventDraws}

/-- Under a new event there is room for the copies of any line. -/
theorem outboundRoom_insert (hv : db.Valid) (hlinked : db.Linked) (hc : c.NewTo db)
    (he : e.id = c.eventId) : ∀ l ∈ linesOf outboundSide db original.id,
      OutboundRoom c.eventId ((Redo.eventInsert e).apply db) l := by
  intro l hl
  have hmem := (List.mem_filter.mp hl).1
  obtain ⟨hcheck, horder⟩ := hlinked.outbound l hmem
  refine ⟨hcheck, ?_, Table.hasKey_insert.mpr (Or.inr he.symm), horder⟩
  rintro ⟨l', hl', hkey⟩
  have hid : l'.eventId = c.eventId := congrArg Prod.fst hkey
  exact hc.id (hid ▸ (hv.outbound l' hl').2)

theorem inboundRoom_insert (hv : db.Valid) (hlinked : db.Linked) (hc : c.NewTo db)
    (he : e.id = c.eventId) : ∀ l ∈ linesOf inboundSide db original.id,
      InboundRoom c.eventId ((Redo.eventInsert e).apply db) l := by
  intro l hl
  have hmem := (List.mem_filter.mp hl).1
  obtain ⟨hcheck, hitem, huom, hlot⟩ := hlinked.inbound l hmem
  refine ⟨hcheck, ?_, Table.hasKey_insert.mpr (Or.inr he.symm), hitem, huom, hlot⟩
  rintro ⟨l', hl', hkey⟩
  have hid : l'.eventId = c.eventId := congrArg Prod.fst hkey
  exact hc.id (hid ▸ (hv.inbound l' hl').2)

end Room

/-- **What is offered is reversed.** In every state the services reach, with
draws that are new: an outbound event is reversed exactly when its detail offers
it, and an inbound event exactly when its detail offers it and every slot still
holds what the detail shows as received. -/
theorem reversal_offered {allowed : Db → Op → Prop} {db : Db} (h : ReachableBy allowed db)
    (eventId : Int) (payload : ReversalIn) (userId : Option Int) {c : EventDraws}
    (hc : c.NewTo db) :
    ((∃ out db', (reverseOutboundEvent eventId payload userId c).run db = .ok (out, db')) ↔
      ∃ d, (getOutboundReversalDetail eventId).run db = .ok (d, db) ∧ d.reversible = true) ∧
    ((∃ out db', (reverseInboundEvent eventId payload userId c).run db = .ok (out, db')) ↔
      ∃ d, (getReversibleInboundEventDetail eventId).run db = .ok (d, db) ∧ d.reversible = true ∧
        ∀ s, d.received s ≤ db.qtyOf s) := by
  have hv := h.valid
  have hh := h.history
  have hlinked := h.linked
  constructor
  · rw [run_outboundDetail_reversible hh]
    constructor
    · rintro ⟨out, db', hrun⟩
      exact run_reverseEvent_offered hrun
    · rintro ⟨original, rfl, ho⟩
      have hback : ∀ l, 0 < outboundSide.qty l → 0 < outboundSide.cancel l := fun _ => id
      have hqty : ∀ l ∈ linesOf outboundSide db original.id, 0 < outboundSide.qty l := fun l hl =>
        (hv.outbound l (List.mem_filter.mp hl).1).1
      refine run_reverseEvent_of (outbound_copies c.eventId) (fun l hl => ne_of_gt (hback l hl))
        (Or.inl fun l hl => le_of_lt (hback l hl))
        (nodup_linesOf (t := db.outboundEventLines) db rfl original.id) hv hlinked hh hh.outbound hc
        ho hqty (fun e he => outboundRoom_insert hv hlinked hc he) fun s => ?_
      -- goods come back, so no slot can fall below zero
      exact add_nonneg (hv.qtyOf_nonneg s) (sumOver_nonneg fun l hl _ => le_of_lt (hqty l hl))
  · constructor
    · rintro ⟨out, db', hrun⟩
      obtain ⟨original, rfl, ho⟩ := run_reverseEvent_offered hrun
      obtain ⟨original', ls, rows, hid, hrev⟩ := run_reverseInboundEvent_reverses hc.ref hrun
      obtain rfl := db.wmsEvents.eq_of_key hrev.found ho.found hid
      obtain ⟨hdetail, hoffer⟩ := (run_inboundDetail_reversible hh).mpr ⟨original', rfl, ho, rfl⟩
      refine ⟨_, hdetail, hoffer, fun s => ?_⟩
      have hstock := hrev.stock rfl (Tx.run_valid hrun hv) s
      rw [received_inboundDetail]
      omega
    · rintro ⟨d, hdetail, hoffer, hstock⟩
      obtain ⟨original, rfl, ho, rfl⟩ :=
        (run_inboundDetail_reversible hh).mp ⟨hdetail, hoffer⟩
      have htaken : ∀ l, 0 < inboundSide.qty l → inboundSide.cancel l < 0 := fun l hl =>
        neg_neg_of_pos hl
      refine run_reverseEvent_of (inbound_copies c.eventId) (fun l hl => ne_of_lt (htaken l hl))
        (Or.inr fun l hl => le_of_lt (htaken l hl))
        (nodup_linesOf (t := db.inboundEventLines) db rfl original.id) hv hlinked hh hh.inbound hc ho
        (fun l hl => (hv.inbound l (List.mem_filter.mp hl).1).1)
        (fun e he => inboundRoom_insert hv hlinked hc he) fun s => ?_
      have hs := hstock s
      rw [received_inboundDetail] at hs
      omega

/-- Tea is counted and shipped for the manual document. -/
def sampleShippedTea : Db := Op.commits sampleDb (sampleReversal.take 2)

theorem sampleShippedTea_reachable : ReachableBy (fun _ _ => True) sampleShippedTea :=
  (Db.Start.reachableBy sampleDb_start).commits (by decide +kernel)

/-- The shipment can be reversed, so it is on offer. -/
theorem reversal_offered_sample :
    ∃ d, (getOutboundReversalDetail 1).run sampleShippedTea = .ok (d, sampleShippedTea) ∧
      d.reversible = true := by
  have hnew : EventDraws.NewTo { eventId := 2, eventNo := "R1", traceId := "T2" }
      sampleShippedTea :=
    ⟨by decide, by decide +kernel, by decide +kernel, by decide +kernel, by decide +kernel⟩
  refine (reversal_offered sampleShippedTea_reachable 1
    { occurredAt := 0, operatorNameSnapshot := "A" } none hnew).1.mp ?_
  cases hrun : (reverseOutboundEvent 1 { occurredAt := 0, operatorNameSnapshot := "A" } none
      { eventId := 2, eventNo := "R1", traceId := "T2" }).run sampleShippedTea with
  | error e =>
      have hok : ((reverseOutboundEvent 1 { occurredAt := 0, operatorNameSnapshot := "A" } none
        { eventId := 2, eventNo := "R1", traceId := "T2" }).run
          sampleShippedTea).toOption.isSome = true := by decide +kernel
      rw [hrun] at hok
      cases hok
  | ok p => exact ⟨p.1, p.2, rfl⟩

end WmsDu
