import WmsDu.Outbound.Acceptance
import WmsDu.System.CountLives
import WmsDu.Theorems.OrderRequests
import WmsDu.Theorems.ReversalOptions

/-!
# When a submit of an order or a manual document goes through

The checks the two services make, and beside them the ones only the database
makes: a line needs a ledger key of its own, and the lines of one payload draw
on their slots together.
-/

namespace WmsDu

open Txn Tx

/-! ## What a payload needs -/

/-- What a payload takes out of a slot. -/
def OutboundSubmitIn.takes (payload : OutboundSubmitIn) (warehouseId : Int) (s : Slot) : Int :=
  sumOver (fun l : OutboundSubmitLineIn => (⟨warehouseId, l.itemId, l.lotId⟩ : Slot) = s)
    OutboundSubmitLineIn.qtyOutbound payload.lines

/-- The ledger keys of a payload: its lines are numbered from one. -/
def OutboundSubmitIn.ledgerKeys (payload : OutboundSubmitIn) (sourceRef : String)
    (warehouseId : Int) : List IdemKey :=
  (payload.lines.zipIdx 1).map fun x =>
    outboundKey sourceRef warehouseId x.2 x.1.itemId x.1.lotId

/-- A payload can leave the warehouse under a reference. -/
structure OutboundSubmitIn.Ships (payload : OutboundSubmitIn) (db : Db) (sourceRef : String)
    (warehouseId : Int) : Prop where
  thawed : ¬ db.Frozen warehouseId
  lines : payload.lines ≠ []
  keys : ∀ k ∈ payload.ledgerKeys sourceRef warehouseId, ¬ db.stockLedger.HasKey k
  stock : ∀ s, payload.takes warehouseId s ≤ db.qtyOf s

/-- What the sequence and uuid4 draw for a submit is new to the database. -/
structure SubmitCall.NewTo (c : SubmitCall) (db : Db) : Prop where
  pos : 0 < c.eventId
  id : ¬ db.wmsEvents.HasKey c.eventId
  eventNo : ∀ e ∈ db.wmsEvents.rows, e.eventNo ≠ String.ofList (c.traceId.toList.take 64)
  traceId : ∀ e ∈ db.wmsEvents.rows, e.traceId ≠ c.traceId

/-- A line of the order with the item, which still requests the quantity. -/
def OutboundSubmitLineIn.FitsOrder (l : OutboundSubmitLineIn) (db : Db) (orderId : Int) : Prop :=
  ∃ ol ∈ db.orderLines.rows, ol.id = l.docLineId ∧ ol.orderId = orderId ∧ ol.itemId = l.itemId ∧
    submittedQty db ol.id + l.qtyOutbound ≤ ol.reqQty

/-- A line of the manual document with the item. -/
def OutboundSubmitLineIn.InManualDoc (l : OutboundSubmitLineIn) (db : Db) (docId : Int) : Prop :=
  ∃ ml ∈ db.manualOutboundLines.rows, ml.id = l.docLineId ∧ ml.docId = docId ∧
    ml.itemId = l.itemId

theorem SubmitCall.NewTo.write {c : SubmitCall} {db : Db} (hc : c.NewTo db) (doc : SubmitDoc)
    (ctx : SubmitContext) (remark : Option String) : (c.write doc ctx remark).NewTo db :=
  ⟨hc.pos, hc.id, hc.eventNo, hc.traceId⟩

/-! ## Normalised lines -/

section Normalized
variable {db : Db} {payload : OutboundSubmitIn} {texts : LineTexts}
  {source : Int → Option SourceLine} {normalized : List NormalizedLine}

theorem normalizeFrom_one (h : normalizeFrom texts source 1 payload.lines = .ok normalized) :
    List.Forall₂ (fun (x : OutboundSubmitLineIn × Nat) (ln : NormalizedLine) => ln.IsOf x.2 x.1)
      (payload.lines.zipIdx 1) normalized := by
  apply normalizeFrom_lines
  exact h

theorem qtyOutbound_normalized
    (h : normalizeFrom texts source 1 payload.lines = .ok normalized) :
    ∀ ln ∈ normalized, 0 < ln.qtyOutbound := by
  intro ln hln
  obtain ⟨x, -, hx⟩ := exists_of_forall₂ (normalizeFrom_one h) hln
  rw [hx.qtyOutbound]
  exact x.1.qtyOutbound_gt

/-- No number is given twice. -/
theorem nodup_refLine_normalized
    (h : normalizeFrom texts source 1 payload.lines = .ok normalized) :
    (normalized.map NormalizedLine.refLine).Nodup := by
  have hmap : normalized.map NormalizedLine.refLine =
      ((payload.lines.zipIdx 1).map Prod.snd).map fun n : Nat => (n : Int) := by
    rw [List.map_map]
    exact map_eq_map_of_forall₂ (normalizeFrom_one h) fun x ln hx => hx.refLine
  rw [hmap, List.zipIdx_map_snd]
  exact List.Nodup.map (fun i j hij => Int.ofNat.inj hij) List.nodup_range'

theorem normalizeSubmitLines_of (hne : payload.lines ≠ [])
    (h : normalizeFrom texts source 1 payload.lines = .ok normalized) :
    normalizeSubmitLines texts source payload.lines = .ok normalized := by
  rw [normalizeSubmitLines, if_neg (by simpa using hne)]
  exact h

theorem lines_ne_nil (h : normalizeSubmitLines texts source payload.lines = .ok normalized) :
    payload.lines ≠ [] := by
  intro hnil
  rw [hnil] at h
  cases h

theorem rows_ne_nil {rows : List SourceLine} (hne : payload.lines ≠ [])
    (h : ∀ l ∈ payload.lines, ∃ src, linesById rows l.docLineId = some src ∧
      src.itemId = l.itemId) : rows ≠ [] := by
  intro hnil
  obtain ⟨l, hl⟩ := List.exists_mem_of_ne_nil _ hne
  obtain ⟨src, hsrc, -⟩ := h l hl
  rw [hnil] at hsrc
  cases hsrc

/-- What leaves is in stock, so its item is there. -/
theorem OutboundSubmitIn.Ships.item {ref : String} {w : Int} (hv : db.Valid)
    (h : payload.Ships db ref w) {l : OutboundSubmitLineIn} (hl : l ∈ payload.lines) :
    db.items.HasKey l.itemId := by
  have hpos : 0 < payload.takes w ⟨w, l.itemId, l.lotId⟩ :=
    sumOver_pos (fun l _ _ => l.qtyOutbound_gt) hl rfl
  exact (hv.hasDims_of_pos (lt_of_lt_of_le hpos (h.stock _))).1

/-- The keys of the saved lines are the payload's. -/
theorem ledgerKeys_saved (h : normalizeFrom texts source 1 payload.lines = .ok normalized)
    (w : OutboundWrite) (db : Db) :
    (w.saved db normalized).map (fun l => l.ledgerKey w.event w.sourceRef) =
      payload.ledgerKeys w.sourceRef w.warehouseId := by
  rw [OutboundWrite.saved, List.map_map]
  refine map_eq_map_of_forall₂ (normalizeFrom_one h) fun x ln hx => ?_
  show outboundKey w.sourceRef w.warehouseId ln.refLine ln.itemId ln.lotId = _
  rw [hx.refLine, hx.itemId, hx.lotId]

/-- The saved lines leave from the payload's slots. -/
theorem takenFrom_saved (h : normalizeFrom texts source 1 payload.lines = .ok normalized)
    (w : OutboundWrite) (db : Db) (s : Slot) :
    takenFrom w.warehouseId (w.saved db normalized) s = payload.takes w.warehouseId s := by
  have hslots : (w.saved db normalized).map (fun l => (l.slotIn w.warehouseId, l.qtyOutbound)) =
      payload.lines.map fun l =>
        ((⟨w.warehouseId, l.itemId, l.lotId⟩ : Slot), l.qtyOutbound) := by
    conv_rhs => rw [← List.zipIdx_map_fst 1 payload.lines]
    rw [OutboundWrite.saved, List.map_map, List.map_map]
    refine map_eq_map_of_forall₂ (normalizeFrom_one h) fun x ln hx => ?_
    show ((⟨w.warehouseId, ln.itemId, ln.lotId⟩ : Slot), ln.qtyOutbound) = _
    rw [hx.itemId, hx.lotId, hx.qtyOutbound]
    rfl
  have hsum := congrArg (sumOver (fun x : Slot × Int => x.1 = s) Prod.snd) hslots
  rw [sumOver_map, sumOver_map] at hsum
  exact hsum

/-- **The writer takes a payload** exactly when it can leave the warehouse. -/
theorem run_write_ships {w : OutboundWrite} (hv : db.Valid) (hnew : w.NewTo db)
    (hne : payload.lines ≠ [])
    (hnorm : normalizeFrom texts source 1 payload.lines = .ok normalized)
    (hdoc : w.doc = .order → ∀ ln ∈ normalized, db.orderLines.HasKey ln.docLineId) :
    (∃ saved db', (writeEventAndLedger w normalized).run db = .ok (saved, db')) ↔
      payload.Ships db w.sourceRef w.warehouseId := by
  have hne' : normalized ≠ [] := by
    rintro rfl
    have hlen := (normalizeFrom_one hnorm).length_eq
    rw [List.length_zipIdx] at hlen
    exact hne (List.length_eq_zero_iff.mp hlen)
  have hmem : (∀ l ∈ w.saved db normalized,
      ¬ db.stockLedger.HasKey (l.ledgerKey w.event w.sourceRef)) ↔
        ∀ k ∈ payload.ledgerKeys w.sourceRef w.warehouseId, ¬ db.stockLedger.HasKey k := by
    rw [← ledgerKeys_saved hnorm, List.forall_mem_map]
  rw [run_writeEventAndLedger_iff hv hnew hne' (qtyOutbound_normalized hnorm)
    (nodup_refLine_normalized hnorm) hdoc, hmem]
  simp only [takenFrom_saved hnorm]
  exact ⟨fun h => ⟨h.1, hne, h.2.1, h.2.2⟩, fun h => ⟨h.thawed, h.keys, h.stock⟩⟩

end Normalized

/-! ## Orders -/

section Order
variable {db : Db} {orderId : Int}

/-- What is found among the lines of an order is one of them. -/
theorem linesById_order_ok {id : Int} {src : SourceLine}
    (h : linesById (orderOutboundLines db orderId) id = some src) :
    ∃ ol ∈ db.orderLines.rows, ol.id = id ∧ ol.orderId = orderId ∧ ol.itemId = src.itemId := by
  have hid : src.id = id := by simpa using List.find?_some h
  obtain ⟨ol, hol, hsrc⟩ := List.mem_filterMap.mp (List.mem_of_find?_eq_some h)
  obtain ⟨item, -, rfl⟩ := Option.map_eq_some_iff.mp hsrc
  obtain ⟨hmem, horder⟩ := List.mem_filter.mp hol
  exact ⟨ol, hmem, hid, of_decide_eq_true horder, rfl⟩

/-- A line of the order whose item is there is found. -/
theorem linesById_order_of {ol : OrderLine} (hmem : ol ∈ db.orderLines.rows)
    (horder : ol.orderId = orderId) (hitem : db.items.HasKey ol.itemId) :
    ∃ src, linesById (orderOutboundLines db orderId) ol.id = some src ∧ src.itemId = ol.itemId := by
  obtain ⟨item, hitem⟩ := Option.isSome_iff_exists.mp (Table.hasKey_iff_isSome.mp hitem)
  have hfound : (linesById (orderOutboundLines db orderId) ol.id).isSome := by
    refine List.find?_isSome.mpr ⟨_, List.mem_filterMap.mpr ⟨ol, List.mem_filter.mpr
      ⟨hmem, decide_eq_true horder⟩, Option.map_eq_some_iff.mpr ⟨item, hitem, rfl⟩⟩, ?_⟩
    simp
  obtain ⟨src, hsrc⟩ := Option.isSome_iff_exists.mp hfound
  obtain ⟨ol', hmem', hid, -, hitem'⟩ := linesById_order_ok hsrc
  obtain rfl := db.orderLines.eq_of_key hmem' hmem hid
  exact ⟨src, hsrc, hitem'.symm⟩

theorem orderSubmitProgress_of {ol : OrderLine} (hmem : ol ∈ db.orderLines.rows)
    (horder : ol.orderId = orderId) :
    orderSubmitProgress db orderId ol.id = ⟨ol.reqQty, submittedQty db ol.id⟩ := by
  have hlookup : db.orderLines.lookup ol.id = some ol := Table.lookup_eq_some.mpr ⟨hmem, rfl⟩
  rw [orderSubmitProgress, hlookup]
  exact if_pos horder

theorem orderSubmitProgress_nonneg (hv : db.Valid) (id : Int) :
    0 ≤ (orderSubmitProgress db orderId id).submittedQty := by
  have hqty : 0 ≤ submittedQty db id := sumOver_nonneg fun l hl _ => le_of_lt (hv.outbound l hl).1
  unfold orderSubmitProgress
  split
  · split
    · exact hqty
    · exact le_refl 0
  · exact le_refl 0

/-- **An order's submit** completes exactly when the payload can leave the
warehouse and each line fits the order. -/
theorem run_submitOrder_iff {w : Int} {c : SubmitCall} {payload : OutboundSubmitIn}
    (hv : db.Valid) :
    (∃ out db', (submitOrderOutboundEvent orderId w c payload).run db = .ok (out, db')) ↔
      c.NewTo db ∧ ∃ head, db.orders.lookup orderId = some head ∧
        payload.Ships db head.sourceRef w ∧ ∀ l ∈ payload.lines, l.FitsOrder db orderId := by
  constructor
  · rintro ⟨out, db', h⟩
    have hfits := (run_submitOrder_progress h).2
    simp only [submitOrderOutboundEvent, loadOrderSubmitContext, bind_assoc, Prog.run_bind_ok,
      run_requireSome_ok, run_require_ok, run_select, run_ofExcept_ok, pure_bind] at h
    obtain ⟨_, _, hread, head, _, ⟨hhead, rfl⟩, rows, _, hread', _, _, ⟨-, rfl⟩, normalized, _,
      ⟨hnorm, rfl⟩, progress, _, hread'', _, db₁, hcheck, saved, db₂, hwrite, -⟩ := h
    cases hread
    cases hread'
    cases hread''
    obtain rfl := (readOnly_checkOrderLines _ _ _ _).run_db hcheck
    have hfrom := normalizeFrom_of_submitLines hnorm
    have hlines : ∀ l ∈ payload.lines, l.FitsOrder db orderId := by
      intro l hl
      obtain ⟨src, hsrc, hitem⟩ := exists_normalizeFrom_iff.mp ⟨normalized, hfrom⟩ l hl
      obtain ⟨ol, hmem, hid, horder, hitem'⟩ := linesById_order_ok hsrc
      obtain ⟨ol', hmem', hid', hfit⟩ := hfits l hl
      obtain rfl := db.orderLines.eq_of_key hmem' hmem (hid'.trans hid.symm)
      exact ⟨ol', hmem', hid', horder, hitem'.trans hitem, hfit⟩
    have hne := lines_ne_nil hnorm
    have hnew := run_writeEventAndLedger_newTo hwrite
    refine ⟨⟨hnew.pos, hnew.id, hnew.eventNo, hnew.traceId⟩, head, hhead, ?_, hlines⟩
    refine (run_write_ships hv hnew hne hfrom fun _ ln hln => ?_).mp
      ⟨saved, db₂, hwrite⟩
    obtain ⟨x, hx, hof⟩ := exists_of_forall₂ (normalizeFrom_one hfrom) hln
    obtain ⟨ol, hmem, hid, -⟩ := hlines x.1 (List.fst_mem_of_mem_zipIdx hx)
    exact ⟨ol, hmem, hid.trans hof.docLineId.symm⟩
  · rintro ⟨hc, head, hhead, hships, hlines⟩
    have hsource : ∀ l ∈ payload.lines, ∃ src,
        linesById (orderOutboundLines db orderId) l.docLineId = some src ∧
          src.itemId = l.itemId := by
      intro l hl
      obtain ⟨ol, hmem, hid, horder, hitem, -⟩ := hlines l hl
      rw [← hid, ← hitem]
      refine linesById_order_of hmem horder ?_
      rw [hitem]
      exact hships.item hv hl
    obtain ⟨normalized, hfrom⟩ := exists_normalizeFrom_iff.mpr hsource
    have hnorm : normalizeOrderSubmitLines (linesById (orderOutboundLines db orderId))
        payload.lines = .ok normalized := normalizeSubmitLines_of hships.lines hfrom
    have hrows : orderOutboundLines db orderId ≠ [] := rows_ne_nil hships.lines hsource
    -- each normalised line is checked against its order line
    have hline : ∀ ln ∈ normalized, ∃ ol ∈ db.orderLines.rows, ol.id = ln.docLineId ∧
        ol.orderId = orderId ∧ submittedQty db ol.id + ln.qtyOutbound ≤ ol.reqQty := by
      intro ln hln
      obtain ⟨x, hx, hof⟩ := exists_of_forall₂ (normalizeFrom_one hfrom) hln
      obtain ⟨ol, hmem, hid, horder, -, hfit⟩ := hlines x.1 (List.fst_mem_of_mem_zipIdx hx)
      refine ⟨ol, hmem, hid.trans hof.docLineId.symm, horder, ?_⟩
      rw [hof.qtyOutbound]
      exact hfit
    have hcheck : (checkOrderLines (orderSubmitProgress db orderId) head.sourceRef w
        normalized).run db = .ok ((), db) := by
      refine (run_checkOrderLines_iff (qtyOutbound_normalized hfrom)
        (orderSubmitProgress_nonneg hv)).mpr fun ln hln => ?_
      obtain ⟨ol, hmem, hid, horder, hfit⟩ := hline ln hln
      refine ⟨?_, ?_⟩
      · rw [← hid, orderSubmitProgress_of hmem horder]
        exact hfit
      · have hkey : outboundKey head.sourceRef w ln.refLine ln.itemId ln.lotId ∈
            payload.ledgerKeys head.sourceRef w := by
          obtain ⟨x, hx, hof⟩ := exists_of_forall₂ (normalizeFrom_one hfrom) hln
          refine List.mem_map.mpr ⟨x, hx, ?_⟩
          rw [hof.refLine, hof.itemId, hof.lotId]
        rw [hasOrphanOrderOutboundLedger, Table.lookup_eq_none.mpr (hships.keys _ hkey)]
    obtain ⟨saved, db', hwrite⟩ := (run_write_ships (w := c.write .order
        ⟨linesById (orderOutboundLines db orderId), head.sourceRef, w⟩ payload.remark) hv
      (hc.write .order _ payload.remark) hships.lines hfrom fun _ ln hln => by
        obtain ⟨ol, hmem, hid, -⟩ := hline ln hln
        exact ⟨ol, hmem, hid⟩).mpr hships
    refine ⟨?out, db', ?run⟩
    case run =>
      rw [submitOrderOutboundEvent, loadOrderSubmitContext, bind_assoc,
        Prog.run_bind_of_ok (Tx.run_select _ _), bind_assoc,
        Prog.run_bind_of_ok (run_requireSome_ok.mpr ⟨hhead, rfl⟩), bind_assoc,
        Prog.run_bind_of_ok (Tx.run_select _ _), bind_assoc,
        Prog.run_bind_of_ok (a := ()) (Tx.run_require_of hrows), pure_bind,
        Prog.run_bind_of_ok (run_ofExcept_ok.mpr ⟨hnorm, rfl⟩),
        Prog.run_bind_of_ok (Tx.run_select _ _), Prog.run_bind_of_ok hcheck]
      show (writeEventAndLedger _ normalized >>= fun _ => _).run db = _
      rw [Prog.run_bind_of_ok hwrite]
      rfl

end Order

/-! ## Manual documents -/

section Manual
variable {db : Db} {docId : Int}

theorem linesById_manual_ok {id : Int} {src : SourceLine}
    (h : linesById (manualDocLines db docId) id = some src) :
    ∃ ml ∈ db.manualOutboundLines.rows, ml.id = id ∧ ml.docId = docId ∧
      ml.itemId = src.itemId := by
  have hid : src.id = id := by simpa using List.find?_some h
  obtain ⟨ml, hml, rfl⟩ := List.mem_map.mp (List.mem_of_find?_eq_some h)
  obtain ⟨hmem, hdoc⟩ := List.mem_filter.mp hml
  exact ⟨ml, hmem, hid, of_decide_eq_true hdoc, rfl⟩

theorem linesById_manual_of {ml : ManualOutboundLine} (hmem : ml ∈ db.manualOutboundLines.rows)
    (hdoc : ml.docId = docId) :
    ∃ src, linesById (manualDocLines db docId) ml.id = some src ∧ src.itemId = ml.itemId := by
  have hfound : (linesById (manualDocLines db docId) ml.id).isSome := by
    refine List.find?_isSome.mpr ⟨_, List.mem_map.mpr ⟨ml, List.mem_filter.mpr
      ⟨hmem, decide_eq_true hdoc⟩, rfl⟩, ?_⟩
    simp
  obtain ⟨src, hsrc⟩ := Option.isSome_iff_exists.mp hfound
  obtain ⟨ml', hmem', hid, -, hitem⟩ := linesById_manual_ok hsrc
  obtain rfl := db.manualOutboundLines.eq_of_key hmem' hmem hid
  exact ⟨src, hsrc, hitem.symm⟩

/-- A released document can be completed. -/
theorem run_completeManualDoc_of (h : db.ManualStatus docId .released) :
    (completeManualDoc docId).run db = .ok ((), (Redo.manualDocComplete docId).apply db) := by
  have hexec : (Prog.exec (.completeManualDoc docId) : Tx Bool).run db =
      .ok (true, (Redo.manualDocComplete docId).apply db) := by
    refine Prog.run_exec_ok.mpr ⟨[.manualDocComplete docId], ?_, rfl⟩
    simp only [Database.exec, Sql.exec]
    exact if_pos h
  rw [completeManualDoc, Prog.run_bind_of_ok hexec]
  exact Tx.run_require_of rfl

/-- The writer leaves the documents alone. -/
theorem run_write_manualDocs {w : OutboundWrite} {lines : List NormalizedLine} {db' : Db}
    {saved : List OutboundEventLine}
    (h : (writeEventAndLedger w lines).run db = .ok (saved, db')) :
    db'.manualOutboundDocs = db.manualOutboundDocs := by
  refine Tx.Within.frame (T := fun p => p ≠ .other) ?_
    (fun u d hu => Redo.apply_manualOutboundDocs hu) h
  exact within_writeEventAndLedger Part.noConfusion Part.noConfusion Part.noConfusion lines

/-- **A manual document's submit** completes exactly when the document is
released, the payload can leave the warehouse and each line is one of the
document. -/
theorem run_submitManual_iff {c : SubmitCall} {payload : OutboundSubmitIn} (hv : db.Valid) :
    (∃ out db', (submitManualOutboundEvent docId c payload).run db = .ok (out, db')) ↔
      c.NewTo db ∧ ∃ head, db.manualOutboundDocs.lookup docId = some head ∧
        head.status = .released ∧ payload.Ships db head.docNo head.warehouseId ∧
        ∀ l ∈ payload.lines, l.InManualDoc db docId := by
  constructor
  · rintro ⟨out, db', h⟩
    simp only [submitManualOutboundEvent, loadManualSubmitContext, bind_assoc, Prog.run_bind_ok,
      run_requireSome_ok, run_require_ok, run_select, run_ofExcept_ok, pure_bind] at h
    obtain ⟨_, _, hread, head, _, ⟨hhead, rfl⟩, _, _, ⟨hstatus, rfl⟩, rows, _, hread', _, _,
      ⟨-, rfl⟩, normalized, _, ⟨hnorm, rfl⟩, saved, db₁, hwrite, -⟩ := h
    cases hread
    cases hread'
    have hfrom := normalizeFrom_of_submitLines hnorm
    have hne := lines_ne_nil hnorm
    have hnew := run_writeEventAndLedger_newTo hwrite
    refine ⟨⟨hnew.pos, hnew.id, hnew.eventNo, hnew.traceId⟩, head, hhead, hstatus, ?_,
      fun l hl => ?_⟩
    · exact (run_write_ships hv hnew hne hfrom fun hdoc => SubmitDoc.noConfusion hdoc).mp ⟨saved, db₁, hwrite⟩
    · obtain ⟨src, hsrc, hitem⟩ := exists_normalizeFrom_iff.mp ⟨normalized, hfrom⟩ l hl
      obtain ⟨ml, hmem, hid, hdoc, hitem'⟩ := linesById_manual_ok hsrc
      exact ⟨ml, hmem, hid, hdoc, hitem'.trans hitem⟩
  · rintro ⟨hc, head, hhead, hstatus, hships, hlines⟩
    have hsource : ∀ l ∈ payload.lines, ∃ src,
        linesById (manualDocLines db docId) l.docLineId = some src ∧ src.itemId = l.itemId := by
      intro l hl
      obtain ⟨ml, hmem, hid, hdoc, hitem⟩ := hlines l hl
      rw [← hid, ← hitem]
      exact linesById_manual_of hmem hdoc
    obtain ⟨normalized, hfrom⟩ := exists_normalizeFrom_iff.mpr hsource
    have hnorm : normalizeManualSubmitLines (linesById (manualDocLines db docId))
        payload.lines = .ok normalized := normalizeSubmitLines_of hships.lines hfrom
    have hrows : manualDocLines db docId ≠ [] := rows_ne_nil hships.lines hsource
    obtain ⟨saved, db₁, hwrite⟩ := (run_write_ships (w := c.write .manual
        ⟨linesById (manualDocLines db docId), head.docNo, head.warehouseId⟩ payload.remark) hv
      (hc.write .manual _ payload.remark) hships.lines hfrom
      fun hdoc => SubmitDoc.noConfusion hdoc).mpr hships
    -- the document is still released when the lines are counted
    have hreleased : db₁.ManualStatus docId .released := by
      obtain ⟨hmem, hid⟩ := Table.lookup_eq_some.mp hhead
      rw [Db.ManualStatus, run_write_manualDocs hwrite]
      exact ⟨head, hmem, hid, hstatus⟩
    have hdone : ∃ db', (Tx.when (listManualDocProgress db₁ docId ≠ [] ∧
        ∀ row ∈ listManualDocProgress db₁ docId, row.requestedQty ≤ row.submittedQty)
        (completeManualDoc docId)).run db₁ = .ok ((), db') := by
      by_cases hall : listManualDocProgress db₁ docId ≠ [] ∧
          ∀ row ∈ listManualDocProgress db₁ docId, row.requestedQty ≤ row.submittedQty
      · rw [run_when_of hall]
        exact ⟨_, run_completeManualDoc_of hreleased⟩
      · rw [run_when_of_not hall]
        exact ⟨db₁, rfl⟩
    obtain ⟨db', hdone⟩ := hdone
    refine ⟨?out, db', ?run⟩
    case run =>
      rw [submitManualOutboundEvent, loadManualSubmitContext, bind_assoc,
        Prog.run_bind_of_ok (Tx.run_select _ _), bind_assoc,
        Prog.run_bind_of_ok (run_requireSome_ok.mpr ⟨hhead, rfl⟩), bind_assoc,
        Prog.run_bind_of_ok (a := ()) (Tx.run_require_of hstatus), bind_assoc,
        Prog.run_bind_of_ok (Tx.run_select _ _), bind_assoc,
        Prog.run_bind_of_ok (a := ()) (Tx.run_require_of hrows), pure_bind,
        Prog.run_bind_of_ok (run_ofExcept_ok.mpr ⟨hnorm, rfl⟩)]
      show (writeEventAndLedger _ normalized >>= fun _ => _).run db = _
      rw [Prog.run_bind_of_ok hwrite, Prog.run_bind_of_ok (Tx.run_select _ _),
        Prog.run_bind_of_ok hdone]
      rfl

end Manual

/-! ## The two services -/

/-- **When a submit goes through.** In every reachable state a submit of an
order, or of a manual document, completes exactly when what is drawn for it is
new, the document is there (a manual one released), its warehouse is not
frozen, every line is one of the document with its item, no line's ledger key
was used before, and the lines together take no more from a slot than it
holds; an order's line also has to fit what the order still requests. -/
theorem submit_completes {allowed : Db → Op → Prop} {db : Db} (h : ReachableBy allowed db)
    (c : SubmitCall) (payload : OutboundSubmitIn) :
    (∀ orderId w : Int,
      (∃ out db', (submitOrderOutboundEvent orderId w c payload).run db = .ok (out, db')) ↔
        c.NewTo db ∧ ∃ head, db.orders.lookup orderId = some head ∧
          payload.Ships db head.sourceRef w ∧ ∀ l ∈ payload.lines, l.FitsOrder db orderId) ∧
    ∀ docId : Int,
      (∃ out db', (submitManualOutboundEvent docId c payload).run db = .ok (out, db')) ↔
        c.NewTo db ∧ ∃ head, db.manualOutboundDocs.lookup docId = some head ∧
          head.status = .released ∧ payload.Ships db head.docNo head.warehouseId ∧
          ∀ l ∈ payload.lines, l.InManualDoc db docId :=
  ⟨fun _ _ => run_submitOrder_iff h.valid, fun _ => run_submitManual_iff h.valid⟩

/-- Four of the tea, for the manual document. -/
def sampleTeaLines : List OutboundSubmitLineIn :=
  [{ docLineId := 1, itemId := 1, qtyOutbound := 4, lotId := 1, docLineId_ge := one_ge_one
     itemId_ge := one_ge_one, qtyOutbound_gt := four_gt_zero, lotId_ge := one_ge_one }]

/-- Tea is counted, none of it is shipped yet. -/
theorem sampleCountedTea_reachable :
    ReachableBy (fun _ _ => True) (Op.commits sampleDb (sampleReversal.take 1)) :=
  (Db.Start.reachableBy sampleDb_start).commits (by decide +kernel)

/-- The four leave. -/
theorem sampleTeaLines_leave :
    ∃ out db', (submitManualOutboundEvent 1 { traceId := "T1", eventId := 1 }
      { lines := sampleTeaLines }).run (Op.commits sampleDb (sampleReversal.take 1)) =
        .ok (out, db') := by
  cases hrun : (submitManualOutboundEvent 1 { traceId := "T1", eventId := 1 }
      { lines := sampleTeaLines }).run (Op.commits sampleDb (sampleReversal.take 1)) with
  | error e =>
      have hok : ((submitManualOutboundEvent 1 { traceId := "T1", eventId := 1 }
        { lines := sampleTeaLines }).run
          (Op.commits sampleDb (sampleReversal.take 1))).toOption.isSome = true := by decide +kernel
      rw [hrun] at hok
      cases hok
  | ok p => exact ⟨p.1, p.2, rfl⟩

theorem submit_completes_sample :
    ∃ head, (Op.commits sampleDb (sampleReversal.take 1)).manualOutboundDocs.lookup 1 = some head ∧
      head.status = .released ∧
      OutboundSubmitIn.Ships { lines := sampleTeaLines }
        (Op.commits sampleDb (sampleReversal.take 1)) head.docNo head.warehouseId ∧
      ∀ l ∈ sampleTeaLines, l.InManualDoc (Op.commits sampleDb (sampleReversal.take 1)) 1 :=
  (((submit_completes sampleCountedTea_reachable { traceId := "T1", eventId := 1 }
    { lines := sampleTeaLines }).2 1).mp sampleTeaLines_leave).2

/-! ## What was shipped stays shipped -/

/-- What no later state takes back: the heads of the documents, and the ledger
keys that were used. -/
structure Db.KeepsShipments (db db' : Db) : Prop where
  orders : db'.orders = db.orders
  docs : ∀ d ∈ db.manualOutboundDocs.rows, ∃ d' ∈ db'.manualOutboundDocs.rows,
    d'.id = d.id ∧ d'.docNo = d.docNo ∧ d'.warehouseId = d.warehouseId
  keys : ∀ k, db.stockLedger.HasKey k → db'.stockLedger.HasKey k

section Keeps
variable {db db₁ db₂ : Db}

theorem Db.KeepsShipments.refl (db : Db) : db.KeepsShipments db :=
  ⟨rfl, fun d hd => ⟨d, hd, rfl, rfl, rfl⟩, fun _ => id⟩

theorem Redo.apply_orders (u : Redo) (db : Db) : (u.apply db).orders = db.orders := by
  cases u <;> rfl

/-- A ledger row may be completed, but keeps its key. -/
theorem Db.hasLedgerKey_apply {k : IdemKey} (u : Redo) (h : db.stockLedger.HasKey k) :
    (u.apply db).stockLedger.HasKey k := by
  cases u with
  | ledgerInsert row => exact Table.hasKey_insert.mpr (Or.inl h)
  | ledgerPatch k' p => exact (Table.hasKey_update (by intro _; rfl)).mpr h
  | _ => exact h

/-- A manual document is completed, nothing else. -/
theorem Redo.apply_docHead (u : Redo) {d : ManualOutboundDoc}
    (hd : d ∈ db.manualOutboundDocs.rows) :
    ∃ d' ∈ (u.apply db).manualOutboundDocs.rows,
      d'.id = d.id ∧ d'.docNo = d.docNo ∧ d'.warehouseId = d.warehouseId := by
  cases u with
  | manualDocComplete docId =>
      refine ⟨_, List.mem_map.mpr ⟨d, hd, rfl⟩, ?_⟩
      split
      · exact ⟨rfl, rfl, rfl⟩
      · exact ⟨rfl, rfl, rfl⟩
  | _ => exact ⟨d, hd, rfl, rfl, rfl⟩

/-- **One record** takes none of it back. -/
theorem Db.KeepsShipments.apply (h : db.KeepsShipments db₁) (u : Redo) :
    db.KeepsShipments (u.apply db₁) where
  orders := by rw [u.apply_orders, h.orders]
  docs := by
    intro d hd
    obtain ⟨d₁, hd₁, hid₁, hno₁, hw₁⟩ := h.docs d hd
    obtain ⟨d₂, hd₂, hid₂, hno₂, hw₂⟩ := u.apply_docHead hd₁
    exact ⟨d₂, hd₂, hid₂.trans hid₁, hno₂.trans hno₁, hw₂.trans hw₁⟩
  keys := fun k hk => Db.hasLedgerKey_apply u (h.keys k hk)

theorem Tx.run_keepsShipments {α : Type} {x : Tx α} {a : α} (h : x.run db₁ = .ok (a, db₂))
    (hkeeps : db.KeepsShipments db₁) : db.KeepsShipments db₂ :=
  Tx.run_preserves (fun u _ _ hk => hk.apply u) h hkeeps

/-- **A whole run** takes none of it back. -/
theorem Db.keepsShipments_serial {allowed : Db → Op → Prop}
    (hrun : Serial Op.prog allowed db db₂) : db.KeepsShipments db₂ :=
  hrun.invariant (Db.KeepsShipments.refl db) fun _ _ _ _ _ hk hstep =>
    Tx.run_keepsShipments hstep hk

theorem Db.valid_serial {allowed : Db → Op → Prop} (hv : db.Valid)
    (hrun : Serial Op.prog allowed db db₂) : db₂.Valid :=
  hrun.invariant hv fun _ _ _ _ _ hv hstep => Tx.run_valid hstep hv

/-- A submit uses the ledger keys of its payload. -/
theorem run_write_keys {w : OutboundWrite} {payload : OutboundSubmitIn} {texts : LineTexts}
    {source : Int → Option SourceLine} {normalized : List NormalizedLine}
    {saved : List OutboundEventLine}
    (hnorm : normalizeFrom texts source 1 payload.lines = .ok normalized)
    (h : (writeEventAndLedger w normalized).run db = .ok (saved, db₁)) :
    ∀ k ∈ payload.ledgerKeys w.sourceRef w.warehouseId, db₁.stockLedger.HasKey k := by
  obtain ⟨-, -, rfl, rows, hadd, hrows⟩ := run_writeEventAndLedger_adds h
  have hkeys : rows.map StockLedgerRow.key = payload.ledgerKeys w.sourceRef w.warehouseId := by
    rw [← ledgerKeys_saved hnorm w db]
    refine map_eq_map_of_forall₂ hrows fun l row hrow => ?_
    obtain ⟨after, rfl⟩ := hrow
    rfl
  intro k hk
  rw [← hkeys] at hk
  obtain ⟨row, hrow, rfl⟩ := List.mem_map.mp hk
  refine ⟨row, ?_, rfl⟩
  rw [hadd.ledger]
  exact List.mem_append_right _ hrow

end Keeps

/-- Some line of the second payload stands where a line of the first stands,
with the same item and lot. -/
def OutboundSubmitIn.Repeats (payload payload' : OutboundSubmitIn) : Prop :=
  ∃ x ∈ payload.lines.zipIdx 1, ∃ y ∈ payload'.lines.zipIdx 1,
    y.2 = x.2 ∧ y.1.itemId = x.1.itemId ∧ y.1.lotId = x.1.lotId

instance (payload payload' : OutboundSubmitIn) : Decidable (payload.Repeats payload') :=
  inferInstanceAs (Decidable (∃ x ∈ payload.lines.zipIdx 1, _))

section Repeats
variable {db db₁ db₂ : Db} {payload payload' : OutboundSubmitIn}

/-- Payloads of which one repeats the other share a ledger key. -/
theorem OutboundSubmitIn.Repeats.key (h : payload.Repeats payload') (ref : String) (w : Int) :
    ∃ k ∈ payload.ledgerKeys ref w, k ∈ payload'.ledgerKeys ref w := by
  obtain ⟨x, hx, y, hy, hno, hitem, hlot⟩ := h
  refine ⟨_, List.mem_map.mpr ⟨x, hx, rfl⟩, List.mem_map.mpr ⟨y, hy, ?_⟩⟩
  rw [hno, hitem, hlot]

/-- A payload that repeats a shipped one cannot leave. -/
theorem OutboundSubmitIn.Repeats.not_ships (h : payload.Repeats payload') {ref : String} {w : Int}
    (hkeys : ∀ k ∈ payload.ledgerKeys ref w, db.stockLedger.HasKey k) :
    ¬ payload'.Ships db ref w := by
  intro hships
  obtain ⟨k, hk, hk'⟩ := h.key ref w
  exact hships.keys k hk' (hkeys k hk)

theorem run_submitOrder_keys {orderId w : Int} {c : SubmitCall} {out : OutboundSubmitOut}
    (h : (submitOrderOutboundEvent orderId w c payload).run db = .ok (out, db₁)) :
    ∃ head, db.orders.lookup orderId = some head ∧
      ∀ k ∈ payload.ledgerKeys head.sourceRef w, db₁.stockLedger.HasKey k := by
  simp only [submitOrderOutboundEvent, loadOrderSubmitContext, bind_assoc, Prog.run_bind_ok,
    run_requireSome_ok, run_require_ok, run_select, run_ofExcept_ok, pure_bind] at h
  obtain ⟨_, _, hread, head, _, ⟨hhead, rfl⟩, _, _, -, _, _, ⟨-, rfl⟩, normalized, _,
    ⟨hnorm, rfl⟩, _, _, hread', _, _, hcheck, saved, _, hwrite, hret⟩ := h
  cases hread
  cases hread'
  cases hret
  exact ⟨head, hhead, run_write_keys (normalizeFrom_of_submitLines hnorm) hwrite⟩

theorem run_submitManual_keys {docId : Int} {c : SubmitCall} {out : OutboundSubmitOut}
    (h : (submitManualOutboundEvent docId c payload).run db = .ok (out, db₁)) :
    ∃ head, db.manualOutboundDocs.lookup docId = some head ∧
      ∀ k ∈ payload.ledgerKeys head.docNo head.warehouseId, db₁.stockLedger.HasKey k := by
  have hdone : ∀ {u : Unit} {d d' : Db} {p : Prop} [Decidable p],
      (Tx.when p (completeManualDoc docId)).run d = .ok (u, d') → d.KeepsShipments d' :=
    fun hwhen => Tx.run_keepsShipments hwhen (Db.KeepsShipments.refl _)
  simp only [submitManualOutboundEvent, loadManualSubmitContext, bind_assoc, Prog.run_bind_ok,
    run_requireSome_ok, run_require_ok, run_select, run_ofExcept_ok, pure_bind] at h
  obtain ⟨_, _, hread, head, _, ⟨hhead, rfl⟩, _, _, ⟨-, rfl⟩, _, _, -, _, _, ⟨-, rfl⟩, normalized,
    _, ⟨hnorm, rfl⟩, saved, _, hwrite, _, _, hread', _, _, hwhen, hret⟩ := h
  cases hread
  cases hread'
  cases hret
  refine ⟨head, hhead, fun k hk => (hdone hwhen).keys k ?_⟩
  exact run_write_keys (normalizeFrom_of_submitLines hnorm) hwrite k hk

end Repeats

/-- **What was shipped is not shipped again.** Once a submit went through, then
in every later state a submit of the same document (for an order, from the same
warehouse) fails if one of its lines stands where a line of the first stood with
the same item and lot: also when the first was reversed since, and whatever the
document still requests. -/
theorem shipped_keys_stay {allowed later : Db → Op → Prop} {db db₁ db₂ : Db}
    (h : ReachableBy allowed db) (hrun : Serial Op.prog later db₁ db₂)
    {payload payload' : OutboundSubmitIn} (hrep : payload.Repeats payload') (c c' : SubmitCall)
    (out : OutboundSubmitOut) :
    (∀ orderId w, (submitOrderOutboundEvent orderId w c payload).run db = .ok (out, db₁) →
      ¬ ∃ out' db', (submitOrderOutboundEvent orderId w c' payload').run db₂ = .ok (out', db')) ∧
    ∀ docId, (submitManualOutboundEvent docId c payload).run db = .ok (out, db₁) →
      ¬ ∃ out' db', (submitManualOutboundEvent docId c' payload').run db₂ = .ok (out', db') := by
  have hkeeps := Db.keepsShipments_serial hrun
  constructor
  · intro orderId w hfirst hagain
    have hv₂ : db₂.Valid := Db.valid_serial (Tx.run_valid hfirst h.valid) hrun
    obtain ⟨head, hhead, hkeys⟩ := run_submitOrder_keys hfirst
    obtain ⟨-, head', hhead', hships, -⟩ := (run_submitOrder_iff hv₂).mp hagain
    -- the order is the one that was shipped for
    have hsame : db₂.orders = db.orders := hkeeps.orders.trans
      (Tx.run_keepsShipments hfirst (Db.KeepsShipments.refl db)).orders
    rw [hsame, hhead] at hhead'
    cases hhead'
    exact hrep.not_ships (fun k hk => hkeeps.keys k (hkeys k hk)) hships
  · intro docId hfirst hagain
    have hv₂ : db₂.Valid := Db.valid_serial (Tx.run_valid hfirst h.valid) hrun
    obtain ⟨head, hhead, hkeys⟩ := run_submitManual_keys hfirst
    obtain ⟨-, head', hhead', -, hships, -⟩ := (run_submitManual_iff hv₂).mp hagain
    -- the document may be completed by now, its number and warehouse are the same
    obtain ⟨hmem, hid⟩ := Table.lookup_eq_some.mp hhead
    obtain ⟨d₁, hd₁, hid₁, hno₁, hw₁⟩ :=
      (Tx.run_keepsShipments hfirst (Db.KeepsShipments.refl db)).docs head hmem
    obtain ⟨d₂, hd₂, hid₂, hno₂, hw₂⟩ := hkeeps.docs d₁ hd₁
    obtain ⟨hmem', hid'⟩ := Table.lookup_eq_some.mp hhead'
    obtain rfl := db₂.manualOutboundDocs.eq_of_key hd₂ hmem'
      ((hid₂.trans (hid₁.trans hid)).trans hid'.symm)
    rw [hno₂, hno₁, hw₂, hw₁] at hships
    exact hrep.not_ships (fun k hk => hkeeps.keys k (hkeys k hk)) hships

/-- The tea is shipped and the shipment reversed; the same four cannot be
shipped again, though the document is still released and the stock is back. -/
theorem shipped_keys_stay_sample :
    (∀ c', ¬ ∃ out' db', (submitManualOutboundEvent 1 c' { lines := sampleTeaLines }).run
      (Op.commits sampleDb sampleReversal) = .ok (out', db')) ∧
    (Op.commits sampleDb sampleReversal).manualOutboundDocs.rows.map (fun d => d.status) =
      [.released] ∧
    (Op.commits sampleDb sampleReversal).qtyOf ⟨1, 1, 1⟩ = 7 := by
  refine ⟨fun c' => ?_, by decide +kernel, by decide +kernel⟩
  have hagain : OutboundSubmitIn.Repeats { lines := sampleTeaLines } { lines := sampleTeaLines } := by
    decide +kernel
  obtain ⟨out, db₁, hrun⟩ := sampleTeaLines_leave
  have hcommit : Op.commits sampleDb (sampleReversal.take 2) = db₁ :=
    Prog.commit_of_ok (a := ()) (Tx.run_forget_ok.mpr ⟨out, hrun⟩)
  have hlater : Op.AllAllowed (fun _ _ => True) db₁ (sampleReversal.drop 2) := by
    rw [← hcommit]
    decide +kernel
  have hlast : Op.commits sampleDb sampleReversal = Op.commits db₁ (sampleReversal.drop 2) := by
    rw [← hcommit]
    rfl
  rw [hlast]
  exact (shipped_keys_stay sampleCountedTea_reachable hlater.serial hagain _ c' out).2 1 hrun

end WmsDu
