import WmsDu.Db.Parts
import WmsDu.Stock.Posting
import WmsDu.System.Ops

/-!
# What the services write

Which parts of the database each service can write to, from its statements
alone. A service that names one warehouse writes to the books of that
warehouse only.
-/

namespace WmsDu

open Txn Tx

variable {T : Part → Prop}

/-! ## The lot writer and the lots -/

theorem within_ofExcept {β : Type} (x : Except Err β) : Within T (Tx.ofExcept x) :=
  (readOnly_ofExcept x).within

theorem within_writeLedger {row : StockLedgerRow} (hb : T (.books row.slot.warehouseId)) :
    Within T (writeLedger row) := by
  refine within_bind (readOnly_assertLotBelongsTo _ _ _).within fun _ => ?_
  refine within_bind (within_exec rfl hb) fun _ => ?_
  exact within_bind (within_when (within_exec rfl hb)) fun _ => within_pure _

theorem within_adjustLotBook {a : AdjustLotArgs} (hb : T (.books a.warehouseId)) (lotId : Int)
    (sub : Option String) (ev : Option Int) (pd ed : Option Date) :
    Within T (adjustLotBook a lotId sub ev pd ed) := by
  refine within_bind (within_exec rfl hb) fun _ => ?_
  refine within_bind (within_bind ?_ fun _ => within_requireSome _ _) fun _ => ?_
  · exact Prog.every_exec fun p hp => by cases hp
  refine within_bind (within_require _ _) fun _ => ?_
  refine within_bind (within_when ?_) fun _ => ?_
  · exact within_bind (within_bind (within_select _) fun _ => within_pure _) fun _ => within_pure _
  refine within_bind (within_writeLedger hb) fun _ => ?_
  exact within_bind (within_when (within_exec rfl hb)) fun _ => within_pure _

theorem within_adjustLotImpl {a : AdjustLotArgs} (hb : T (.books a.warehouseId)) :
    Within T (adjustLotImpl a) := by
  refine within_bind (within_ofExcept _) fun _ => ?_
  refine within_bind (within_ofExcept _) fun _ => ?_
  refine within_ite (within_pure _) ?_
  refine within_bind (within_require _ _) fun _ => ?_
  refine within_bind (within_requireSome _ _) fun _ => ?_
  refine within_bind (readOnly_itemRequiresBatch _).within fun _ => ?_
  refine within_bind (within_require _ _) fun _ => ?_
  refine within_bind (readOnly_assertLotBelongsTo _ _ _).within fun _ => ?_
  refine within_bind (readOnly_resolveDates _ _ _ _ _).within fun _ => ?_
  refine within_bind (within_select _) fun _ => ?_
  exact within_ite (within_pure _) (within_adjustLotBook hb _ _ _ _ _)

theorem within_patchLotExpiryIfNull (hl : T .lots) (lotId : Int) (ed : Option Date) :
    Within T (patchLotExpiryIfNull lotId ed) := by
  cases ed with
  | none => exact within_pure _
  | some d => exact within_exec rfl hl

theorem within_ensureInternalLotSingleton (hl : T .lots) (i w : Int) (rid rln : Option Int)
    (newLotId : Int) : Within T (ensureInternalLotSingleton i w rid rln newLotId) := by
  refine within_bind (within_ofExcept _) fun _ => ?_
  refine within_bind (within_select _) fun found => ?_
  cases found with
  | some lotId => exact within_pure _
  | none =>
      refine within_bind (within_exec rfl hl) fun inserted => ?_
      cases inserted with
      | some lotId => exact within_pure _
      | none => exact within_bind (within_select _) fun _ => within_requireSome _ _

theorem within_ensureLotByDates (hl : T .lots) (i w : Int) (code : String) (pd ed : Option Date)
    (newLotId : Int) : Within T (ensureLotByDates i w code pd ed newLotId) := by
  cases pd with
  | none =>
      refine within_bind (within_select _) fun ids => ?_
      match ids with
      | [] => exact within_raise _
      | [lotId] => exact within_bind (within_patchLotExpiryIfNull hl _ _) fun _ => within_pure _
      | _ :: _ :: _ => exact within_raise _
  | some pd =>
      refine within_bind (within_select _) fun found => ?_
      cases found with
      | some lotId =>
          exact within_bind (within_patchLotExpiryIfNull hl _ _) fun _ => within_pure _
      | none =>
          refine within_bind (within_require _ _) fun _ => ?_
          refine within_bind (within_exec rfl hl) fun inserted => ?_
          cases inserted with
          | some lotId => exact within_pure _
          | none =>
              refine within_bind (within_select _) fun _ => ?_
              refine within_bind (within_requireSome _ _) fun _ => ?_
              exact within_bind (within_patchLotExpiryIfNull hl _ _) fun _ => within_pure _

theorem within_ensureLotFull (hl : T .lots) (i w : Int) (code : Option String)
    (pd ed : Option Date) (newLotId : Int) :
    Within T (ensureLotFull i w code pd ed newLotId) := by
  refine within_bind (within_ofExcept _) fun _ => ?_
  refine within_bind (within_select _) fun _ => ?_
  refine within_bind (within_requireSome _ _) fun _ => ?_
  refine within_bind (within_require _ _) fun _ => ?_
  refine within_ite (within_ensureLotByDates hl _ _ _ _ _ _) ?_
  refine within_bind (within_select _) fun ids => ?_
  match ids with
  | [] => exact within_raise _
  | [lotId] => exact within_pure _
  | _ :: _ :: _ => exact within_raise _

theorem within_resolveInboundLot (hl : T .lots) (w : Int) (item : Item) (code : Option String)
    (pd ed : Option Date) (newLotId : Int) :
    Within T (resolveInboundLot w item code pd ed newLotId) := by
  unfold resolveInboundLot
  cases inferLotCodeSource item.policy with
  | internal => exact within_mapRaise (within_ensureInternalLotSingleton hl _ _ _ _ _)
  | supplier =>
      refine within_bind (within_require _ _) fun _ => ?_
      refine within_bind (within_require _ _) fun _ => ?_
      refine within_bind (within_mapRaise (within_ensureLotFull hl _ _ _ _ _ _)) fun _ => ?_
      refine within_bind (within_select _) fun _ => ?_
      refine within_bind (within_requireSome _ _) fun _ => ?_
      exact within_bind (within_require _ _) fun _ => within_pure _

theorem within_resolveLotForStockAdjust (hl : T .lots) (i w : Int) (code : Option String)
    (pd ed : Option Date) (newLotId : Int) :
    Within T (resolveLotForStockAdjust i w code pd ed newLotId) := by
  refine within_bind (readOnly_itemRequiresBatch _).within fun _ => ?_
  refine within_bind (within_ofExcept _) fun code => ?_
  cases code with
  | none =>
      exact within_bind (within_ensureInternalLotSingleton hl _ _ _ _ _) fun _ => within_pure _
  | some c => exact within_bind (within_ensureLotFull hl _ _ _ _ _ _) fun _ => within_pure _

/-! ## Inbound -/

theorem within_ensureWarehouseNotFrozen (w : Int) : Within T (ensureWarehouseNotFrozen w) :=
  (readOnly_ensureWarehouseNotFrozen w).within

theorem within_normalizeBatchDates (i : Int) (pd ed : Option Date) :
    Within T (normalizeBatchDatesForItem i pd ed) := (readOnly_normalizeBatchDates i pd ed).within

theorem within_resolveLine (hl : T .lots) (w lineNo : Int) (st : SourceType)
    (line : InboundCommitLineIn) (newLotId : Int) :
    Within T (resolveLine w lineNo st line newLotId) := by
  refine within_bind (within_require _ _) fun _ => ?_
  refine within_bind (within_bind (within_select _) fun named => ?_) fun iu => ?_
  · cases named with
    | none =>
        refine within_bind (within_requireSome _ _) fun _ => ?_
        exact within_bind (within_requireSome _ _) fun _ => within_pure _
    | some n =>
        refine within_bind (within_requireSome _ _) fun iu => ?_
        refine within_bind (within_require _ _) fun _ => ?_
        exact within_bind (within_require _ _) fun _ => within_pure _
  refine within_bind (within_select _) fun _ => ?_
  refine within_bind (within_requireSome _ _) fun item => ?_
  refine within_bind (within_bind (within_select _) fun _ => ?_) fun _ => ?_
  · refine within_bind (within_requireSome _ _) fun _ => ?_
    exact within_bind (within_require _ _) fun _ => within_pure _
  refine within_bind (within_require _ _) fun _ => ?_
  refine within_bind (within_bind (within_select _) fun _ => ?_) fun snap => ?_
  · exact within_bind (within_requireSome _ _) fun _ => within_pure _
  refine within_bind (within_require _ _) fun _ => ?_
  refine within_bind (within_require _ _) fun _ => ?_
  refine within_bind ?_ fun dates => ?_
  · unfold resolveCommitDates
    cases item.policy.expiryPolicy with
    | none => exact within_pure _
    | required =>
        refine within_bind (within_normalizeBatchDates _ _ _) fun _ => ?_
        refine within_bind (within_require _ _) fun _ => ?_
        exact within_bind (within_require _ _) fun _ => within_pure _
  exact within_bind (within_resolveInboundLot hl _ _ _ _ _ _) fun _ => within_pure _

theorem within_resolveLines (hl : T .lots) (w : Int) (st : SourceType) (newLotId : Int → Int)
    (lines : List InboundCommitLineIn) (lineNo : Int) :
    Within T (resolveLines w st newLotId lineNo lines) := by
  induction lines generalizing lineNo with
  | nil => exact within_pure _
  | cons line rest ih =>
      refine within_bind (within_resolveLine hl _ _ _ _ _) fun _ => ?_
      exact within_bind (ih _) fun _ => within_pure _

theorem within_commitLines {event : WmsEvent} (hi : T .inboundLines)
    (hb : T (.books event.warehouseId)) (now : Timestamp) (lines : List ResolvedCommitLine) :
    Within T (commitLines event now lines) := by
  induction lines with
  | nil => exact within_pure _
  | cons line rest ih =>
      refine within_bind (within_exec rfl hi) fun _ => ?_
      refine within_bind (within_bind (within_ensureWarehouseNotFrozen _) fun _ => ?_) fun _ => ih
      exact within_adjustLotImpl hb

theorem within_commitInbound {payload : InboundCommitIn} (hl : T .lots) (he : T .events)
    (hi : T .inboundLines) (hc : T .completions) (hb : T (.books payload.warehouseId))
    (userId : Option Int) (c : InboundDraws) : Within T (commitInbound payload userId c) := by
  refine within_bind (within_ofExcept _) fun _ => ?_
  refine within_bind (within_resolveLines hl _ _ _ _ _) fun _ => ?_
  refine within_bind (within_exec rfl he) fun _ => ?_
  refine within_bind (within_commitLines hi hb _ _) fun _ => ?_
  exact within_bind (within_when (within_exec rfl hc)) fun _ => within_pure _

theorem within_entryUom (taskLine : InboundReceiptLine) (entry : InboundOperationEntryIn) :
    Within T (entryUom taskLine entry) := by
  unfold entryUom
  cases cleanText entry.barcodeInput with
  | some barcode =>
      refine within_bind (within_bind (within_select _) fun _ => ?_) fun _ => ?_
      · exact within_bind (within_requireSome _ _) fun _ => within_pure _
      · exact within_bind (within_require _ _) fun _ => within_pure _
  | none =>
      cases entry.actualItemUomId with
      | some uomId =>
          refine within_bind (within_select _) fun _ => ?_
          exact within_bind (within_requireSome _ _) fun _ => within_pure _
      | none => exact within_pure _

theorem within_submitEntry {ctx : OperationContext} (hl : T .lots) (hi : T .inboundLines)
    (ho : T .other) (hb : T (.books ctx.event.warehouseId)) (taskLine : OperationTaskLine)
    (item : Item) (entry : InboundOperationEntryIn) (p : OperationProgress) :
    Within T (submitEntry ctx taskLine item entry p) := by
  refine within_bind (within_entryUom _ _) fun u => ?_
  refine within_bind (within_require _ _) fun _ => ?_
  refine within_bind (within_ofExcept _) fun _ => ?_
  refine within_bind (within_ofExcept _) fun _ => ?_
  refine within_bind (within_ofExcept _) fun _ => ?_
  refine within_bind (within_resolveInboundLot hl _ _ _ _ _ _) fun _ => ?_
  refine within_bind (within_exec rfl ho) fun _ => ?_
  refine within_bind (within_exec rfl hi) fun _ => ?_
  refine within_bind (within_bind (within_exec rfl hb) fun _ => within_exec rfl hb) fun _ => ?_
  exact within_pure _

theorem within_submitEntries {ctx : OperationContext} (hl : T .lots) (hi : T .inboundLines)
    (ho : T .other) (hb : T (.books ctx.event.warehouseId)) (taskLine : OperationTaskLine)
    (item : Item) (entries : List InboundOperationEntryIn) (p : OperationProgress) :
    Within T (submitEntries ctx taskLine item entries p) := by
  induction entries generalizing p with
  | nil => exact within_pure _
  | cons entry rest ih =>
      exact within_bind (within_submitEntry hl hi ho hb _ _ _ _) fun p => ih p

theorem within_submitOperationLines {ctx : OperationContext} (hl : T .lots) (hi : T .inboundLines)
    (ho : T .other) (hb : T (.books ctx.event.warehouseId)) (taskLines : List OperationTaskLine)
    (lines : List InboundOperationLineIn) (p : OperationProgress) :
    Within T (submitOperationLines ctx taskLines lines p) := by
  induction lines generalizing p with
  | nil => exact within_pure _
  | cons line rest ih =>
      refine within_bind (within_requireSome _ _) fun _ => ?_
      refine within_bind (within_select _) fun _ => ?_
      refine within_bind (within_requireSome _ _) fun _ => ?_
      exact within_bind (within_submitEntries hl hi ho hb _ _ _ _) fun p => ih p

theorem within_submitReleasedOperation {task : InboundReceipt} (hl : T .lots) (he : T .events)
    (hi : T .inboundLines) (ho : T .other) (hb : T (.books task.warehouseId))
    (payload : InboundOperationSubmitIn) (op : Operator) (c : OperationDraws) :
    Within T (submitReleasedOperation task payload op c) := by
  refine within_bind (within_select _) fun _ => ?_
  refine within_bind (within_exec rfl ho) fun _ => ?_
  refine within_bind (within_exec rfl he) fun _ => ?_
  refine within_bind (within_submitOperationLines hl hi ho hb _ _ _) fun _ => ?_
  exact within_bind (within_when (within_exec rfl ho)) fun _ => within_pure _

theorem within_submitInboundOperationRepo (hl : T .lots) (he : T .events) (hi : T .inboundLines)
    (ho : T .other) (hb : ∀ w, T (.books w)) (payload : InboundOperationSubmitIn) (op : Operator)
    (c : OperationDraws) : Within T (submitInboundOperationRepo payload op c) := by
  refine within_bind (within_select _) fun _ => ?_
  refine within_bind (within_requireSome _ _) fun task => ?_
  refine within_bind (within_require _ _) fun _ => ?_
  refine within_bind (within_ensureWarehouseNotFrozen _) fun _ => ?_
  exact within_submitReleasedOperation hl he hi ho (hb _) _ _ _

/-! ## Outbound -/

theorem within_insertOutboundEventLines (hl : T .outboundLines) (ls : List OutboundEventLine) :
    Within T (insertOutboundEventLines ls) := by
  induction ls with
  | nil => exact within_pure _
  | cons l rest ih => exact within_bind (within_exec rfl hl) fun _ => ih

theorem within_selectSlotForUpdate (s : Slot) : Within T (selectSlotForUpdate s) :=
  Prog.every_exec fun p hp => by cases hp

theorem within_shipLines {event : WmsEvent} (hb : T (.books event.warehouseId)) (ref : String)
    (ls : List OutboundEventLine) : Within T (shipLines event ref ls) := by
  induction ls with
  | nil => exact within_pure _
  | cons l rest ih =>
      refine within_bind (within_bind (within_selectSlotForUpdate _) fun _ => ?_) fun _ => ih
      refine within_bind (within_requireSome _ _) fun _ => ?_
      refine within_bind (within_require _ _) fun _ => ?_
      exact within_bind (within_exec rfl hb) fun _ => within_exec rfl hb

theorem within_writeEventAndLedger {w : OutboundWrite} (he : T .events) (hl : T .outboundLines)
    (hb : T (.books w.warehouseId)) (lines : List NormalizedLine) :
    Within T (writeEventAndLedger w lines) := by
  refine within_bind (within_ensureWarehouseNotFrozen _) fun _ => ?_
  refine within_bind (within_exec rfl he) fun _ => ?_
  refine within_bind (within_select _) fun _ => ?_
  refine within_bind (within_insertOutboundEventLines hl _) fun _ => ?_
  exact within_bind (within_shipLines hb _ _) fun _ => within_pure _

theorem readOnly_checkOrderLines (progress : Int → LineProgress) (ref : String) (w : Int)
    (lines : List NormalizedLine) : (checkOrderLines progress ref w lines).ReadOnly := by
  induction lines with
  | nil => exact readOnly_pure _
  | cons ln rest ih =>
      refine readOnly_bind (readOnly_require _ _) fun _ => ?_
      refine readOnly_bind (readOnly_require _ _) fun _ => ?_
      refine readOnly_bind (readOnly_require _ _) fun _ => ?_
      refine readOnly_bind (readOnly_select _) fun _ => ?_
      exact readOnly_bind (readOnly_require _ _) fun _ => ih

theorem readOnly_loadOrderSubmitContext (orderId w : Int) :
    (loadOrderSubmitContext orderId w).ReadOnly := by
  refine readOnly_bind (readOnly_select _) fun _ => ?_
  refine readOnly_bind (readOnly_requireSome _ _) fun _ => ?_
  refine readOnly_bind (readOnly_select _) fun _ => ?_
  exact readOnly_bind (readOnly_require _ _) fun _ => readOnly_pure _

theorem within_submitOrder {warehouseId : Int} (he : T .events) (hl : T .outboundLines)
    (hb : T (.books warehouseId)) (orderId : Int) (c : SubmitCall) (payload : OutboundSubmitIn) :
    Within T (submitOrderOutboundEvent orderId warehouseId c payload) := by
  -- the context carries the caller's warehouse, so its reads are opened here
  unfold submitOrderOutboundEvent loadOrderSubmitContext
  simp only [bind_assoc]
  refine within_bind (within_select _) fun _ => ?_
  refine within_bind (within_requireSome _ _) fun _ => ?_
  refine within_bind (within_select _) fun _ => ?_
  refine within_bind (within_require _ _) fun _ => ?_
  simp only [pure_bind]
  refine within_bind (within_ofExcept _) fun _ => ?_
  refine within_bind (within_select _) fun _ => ?_
  refine within_bind (readOnly_checkOrderLines _ _ _ _).within fun _ => ?_
  exact within_bind (within_writeEventAndLedger he hl hb _) fun _ => within_pure _

theorem readOnly_loadManualSubmitContext (docId : Int) :
    (loadManualSubmitContext docId).ReadOnly := by
  refine readOnly_bind (readOnly_select _) fun _ => ?_
  refine readOnly_bind (readOnly_requireSome _ _) fun _ => ?_
  refine readOnly_bind (readOnly_require _ _) fun _ => ?_
  refine readOnly_bind (readOnly_select _) fun _ => ?_
  exact readOnly_bind (readOnly_require _ _) fun _ => readOnly_pure _

theorem within_submitManual (he : T .events) (hl : T .outboundLines) (ho : T .other)
    (hb : ∀ w, T (.books w)) (docId : Int) (c : SubmitCall) (payload : OutboundSubmitIn) :
    Within T (submitManualOutboundEvent docId c payload) := by
  refine within_bind (readOnly_loadManualSubmitContext _).within fun _ => ?_
  refine within_bind (within_ofExcept _) fun _ => ?_
  refine within_bind (within_writeEventAndLedger he hl (hb _) _) fun _ => ?_
  refine within_bind (within_select _) fun _ => ?_
  refine within_bind (within_when ?_) fun _ => within_pure _
  exact within_bind (within_exec rfl ho) fun _ => within_require _ _

/-! ## Reversals -/

variable {Line : Type}

theorem readOnly_getEventForReversal (side : ReversalSide Line) (eventId : Int) :
    (getEventForReversal side eventId).ReadOnly := by
  refine readOnly_bind (readOnly_select _) fun _ => ?_
  refine readOnly_bind (readOnly_requireSome _ _) fun _ => ?_
  refine readOnly_bind (readOnly_require _ _) fun _ => ?_
  exact readOnly_bind (readOnly_require _ _) fun _ => readOnly_pure _

theorem readOnly_listEventLines (side : ReversalSide Line) (eventId : Int) :
    (listEventLinesForReversal side eventId).ReadOnly :=
  readOnly_bind (readOnly_select _) fun _ =>
    readOnly_bind (readOnly_require _ _) fun _ => readOnly_pure _

theorem within_reverseLines {side : ReversalSide Line} {original event : WmsEvent} {copies : Part}
    (hside : ∀ id l, (side.insertCopy id l).part = some copies) (hc : T copies)
    (hb : T (.books original.warehouseId)) (payload : ReversalIn) (now : Timestamp)
    (ls : List Line) : Within T (reverseLines side original event payload now ls) := by
  induction ls with
  | nil => exact within_pure _
  | cons l rest ih =>
      refine within_bind (within_requireSome _ _) fun _ => ?_
      refine within_bind (within_require _ _) fun _ => ?_
      refine within_bind (within_exec (hside _ _) hc) fun _ => ?_
      exact within_bind (within_adjustLotImpl hb) fun _ => ih

theorem within_reverseEvent (side : ReversalSide Line) (copies : Part)
    (hside : ∀ id l, (side.insertCopy id l).part = some copies) (hc : T copies) (he : T .events)
    (hb : ∀ w, T (.books w)) (eventId : Int) (payload : ReversalIn) (userId : Option Int)
    (c : EventDraws) : Within T (reverseEvent side eventId payload userId c) := by
  refine within_bind (within_select _) fun _ => ?_
  refine within_bind (within_require _ _) fun _ => ?_
  refine within_bind (readOnly_getEventForReversal _ _).within fun original => ?_
  refine within_bind (readOnly_listEventLines _ _).within fun _ => ?_
  refine within_bind (within_ensureWarehouseNotFrozen _) fun _ => ?_
  refine within_bind (within_exec rfl he) fun _ => ?_
  refine within_bind (within_reverseLines hside hc (hb _) _ _ _) fun _ => ?_
  exact within_bind (within_exec rfl he) fun _ => within_pure _

/-! ## Counts -/

theorem within_countSubmit {req : CountRequest} (hl : T .lots) (hb : T (.books req.warehouseId))
    (newLotId : Int) (now : Timestamp) : Within T (countSubmit req newLotId now) := by
  refine within_bind (within_ensureWarehouseNotFrozen _) fun _ => ?_
  refine within_bind (within_select _) fun _ => ?_
  refine within_bind (within_requireSome _ _) fun _ => ?_
  refine within_bind (within_ofExcept _) fun _ => ?_
  refine within_bind (within_require _ _) fun _ => ?_
  refine within_bind (within_resolveLotForStockAdjust hl _ _ _ _ _ _) fun _ => ?_
  refine within_bind (within_select _) fun _ => ?_
  exact within_bind (within_adjustLotImpl hb) fun _ => within_pure _

theorem within_stockRecount {req : StockRecountRequest} (hl : T .lots) (ho : T .other)
    (hb : T (.books req.warehouseId)) (c : RecountDraws) : Within T (stockRecount req c) := by
  refine within_bind (within_ensureWarehouseNotFrozen _) fun _ => ?_
  refine within_bind (within_select _) fun _ => ?_
  refine within_bind (within_when ?_) fun _ => ?_
  · refine within_bind (within_resolveLotForStockAdjust hl _ _ _ _ _ _) fun _ => ?_
    exact within_bind (within_adjustLotImpl hb) fun _ => within_pure _
  exact within_bind (within_exec rfl ho) fun _ => within_pure _

theorem readOnly_requireDoc (docId : Int) : (requireDoc docId).ReadOnly :=
  readOnly_bind (readOnly_select _) fun _ => readOnly_requireSome _ _

theorem within_createDoc (hd : T .countDocs) (payload : CountDocCreateIn) (actor : Option Int)
    (c : CountDocDraws) : Within T (createDoc payload actor c) := by
  refine within_bind (within_select _) fun active => ?_
  cases active with
  | some d => exact within_raise _
  | none => exact within_bind (within_exec rfl hd) fun _ => within_pure _

theorem within_freezeDoc (hd : T .countDocs) (hl : T .countLines) (docId : Int)
    (lineId : Nat → Int) : Within T (freezeDoc docId lineId) := by
  refine within_bind (readOnly_requireDoc _).within fun _ => ?_
  refine within_bind (within_require _ _) fun _ => ?_
  refine within_bind (within_bind (readOnly_requireDoc _).within fun _ => ?_)
    fun _ => within_pure _
  refine within_bind (within_exec rfl hl) fun _ => ?_
  refine within_bind (within_exec rfl hl) fun _ => ?_
  refine within_bind (within_exec rfl hl) fun _ => ?_
  refine within_bind (within_exec rfl hl) fun _ => ?_
  exact within_bind (within_exec rfl hd) fun _ => within_select _

theorem within_voidDoc (hd : T .countDocs) (docId : Int) : Within T (voidDoc docId) := by
  refine within_bind (readOnly_requireDoc _).within fun _ => ?_
  refine within_bind (within_require _ _) fun _ => ?_
  exact within_bind (within_exec rfl hd) fun _ => within_require _ _

theorem within_updateLines (hl : T .countLines) (docId : Int)
    (ps : List CountDocLineCountPatch) : Within T (updateLines docId ps) := by
  induction ps with
  | nil => exact within_pure _
  | cons p rest ih =>
      refine within_bind (within_select _) fun _ => ?_
      refine within_bind (within_requireSome _ _) fun _ => ?_
      refine within_bind (within_select _) fun _ => ?_
      refine within_bind (within_requireSome _ _) fun _ => ?_
      exact within_bind (within_exec rfl hl) fun _ => ih

theorem within_updateDocLines (hd : T .countDocs) (hl : T .countLines) (docId : Int)
    (payload : CountDocLinesUpdateIn) (now : Timestamp) :
    Within T (updateDocLines docId payload now) := by
  refine within_bind (readOnly_requireDoc _).within fun _ => ?_
  refine within_bind (within_require _ _) fun _ => ?_
  refine within_bind (within_requireSome _ _) fun _ => ?_
  refine within_bind (within_bind (within_updateLines hl _ _) fun _ => ?_) fun _ => ?_
  · exact within_bind (within_exec rfl hd) fun _ => within_pure _
  refine within_bind (within_exec rfl hd) fun _ => ?_
  refine within_bind (within_select _) fun _ => ?_
  refine within_bind (within_requireSome _ _) fun _ => ?_
  exact within_bind (within_select _) fun _ => within_pure _

theorem within_consumeSnapshots {ctx : CountPostContext} (hb : T (.books ctx.warehouseId))
    (line : CountDocLine) (snaps : List CountDocLineLotSnapshot) (remaining : Int) :
    Within T (consumeSnapshots ctx line remaining snaps) := by
  induction snaps generalizing remaining with
  | nil => exact within_pure _
  | cons snap rest ih =>
      refine within_ite (within_pure _) (within_ite (ih _) ?_)
      refine within_bind (within_adjustLotImpl hb) fun _ => ?_
      exact within_bind (ih _) fun _ => within_pure _

theorem within_postLineDiff {ctx : CountPostContext} (hb : T (.books ctx.warehouseId))
    (line : CountDocLine) : Within T (postLineDiff ctx line) := by
  refine within_bind (within_select _) fun snaps => ?_
  cases snaps with
  | nil => exact within_raise _
  | cons target rest =>
      refine within_ite ?_ (within_ite ?_ ?_)
      · exact within_bind (within_adjustLotImpl hb) fun _ => within_pure _
      · exact within_bind (within_adjustLotImpl hb) fun _ => within_pure _
      · refine within_bind (within_consumeSnapshots hb _ _ _) fun _ => ?_
        exact within_bind (within_require _ _) fun _ => within_pure _

theorem within_postLines {ctx : CountPostContext} (hb : T (.books ctx.warehouseId))
    (lines : List CountDocLine) : Within T (postLines ctx lines) := by
  induction lines with
  | nil => exact within_pure _
  | cons line rest ih => exact within_bind (within_postLineDiff hb _) fun _ => ih

theorem readOnly_requireAllCounted (lines : List CountDocLine) :
    (requireAllCounted lines).ReadOnly := by
  induction lines with
  | nil => exact readOnly_pure _
  | cons line rest ih => exact readOnly_bind (readOnly_require _ _) fun _ => ih

theorem within_postDoc (hd : T .countDocs) (he : T .events) (hb : ∀ w, T (.books w)) (docId : Int)
    (reviewedBy : String) (c : CountPostDraws) : Within T (postDoc docId reviewedBy c) := by
  refine within_bind (readOnly_requireDoc _).within fun doc => ?_
  refine within_ite ?_ ?_
  · cases doc.postedEventId <;> cases doc.postedAt <;> trivial
  refine within_bind (within_require _ _) fun _ => ?_
  refine within_bind (within_requireSome _ _) fun _ => ?_
  refine within_bind (within_exec rfl hd) fun _ => ?_
  refine within_bind (readOnly_requireDoc _).within fun _ => ?_
  refine within_bind (within_require _ _) fun _ => ?_
  refine within_bind (within_require _ _) fun _ => ?_
  refine within_bind (within_select _) fun _ => ?_
  refine within_bind (within_require _ _) fun _ => ?_
  refine within_bind (readOnly_requireAllCounted _).within fun _ => ?_
  refine within_bind (within_exec rfl he) fun _ => ?_
  refine within_bind (within_postLines (hb _) _) fun _ => ?_
  refine within_bind ?_ fun _ => within_pure _
  exact within_bind (within_exec rfl hd) fun _ => within_require _ _

/-! ## Returns and direct shipments -/

theorem readOnly_getWithLines (taskId : Int) (forUpdate : Bool) :
    (getWithLines taskId forUpdate).ReadOnly := by
  have hrest : ∀ t : Option ReturnTask, ReadOnly (do
      let task ← requireSome t (.valueError s!"return_task not found: id={taskId}")
      let lines ← Tx.select fun db => returnLines db taskId
      return (⟨task, lines⟩ : TaskWithLines)) := fun t =>
    readOnly_bind (readOnly_requireSome _ _) fun _ =>
      readOnly_bind (readOnly_select _) fun _ => readOnly_pure _
  cases forUpdate with
  | true => exact readOnly_bind (Prog.every_exec trivial) hrest
  | false => exact readOnly_bind (readOnly_select _) hrest

theorem within_insertReturnLines (hr : T .returns) (c : ReturnDraws) (n : Nat)
    (xs : List ShippedSummary) : Within T (insertReturnLines c n xs) := by
  induction xs generalizing n with
  | nil => exact within_pure _
  | cons x rest ih =>
      refine within_bind (within_requireSome _ _) fun _ => ?_
      exact within_bind (within_exec rfl hr) fun _ => ih _

theorem within_createForOrder (hr : T .returns) (orderId : String) (w : Option Int) (z : Bool)
    (c : ReturnDraws) : Within T (createForOrder orderId w z c) := by
  refine within_bind (within_require _ _) fun _ => ?_
  refine within_bind (within_select _) fun existing => ?_
  cases existing with
  | some t => exact within_pure _
  | none =>
      refine within_bind (within_select _) fun _ => ?_
      refine within_bind (within_require _ _) fun _ => ?_
      unfold createTask
      dsimp only
      split
      · refine within_bind (within_exec rfl hr) fun _ => ?_
        refine within_bind (within_insertReturnLines hr _ _ _) fun _ => ?_
        exact (readOnly_getWithLines _ _).within
      · exact within_raise _

theorem within_recordReceive (hr : T .returns) (taskId itemId qty : Int) :
    Within T (recordReceive taskId itemId qty) := by
  refine within_bind (readOnly_getWithLines _ _).within fun _ => ?_
  refine within_ite (within_pure _) ?_
  refine within_bind (within_requireSome _ _) fun _ => ?_
  refine within_bind (within_require _ _) fun _ => ?_
  refine within_bind (within_require _ _) fun _ => ?_
  exact within_bind (within_exec rfl hr) fun _ => (readOnly_getWithLines _ _).within

theorem within_commitReturnLine {task : ReturnTask} (hr : T .returns)
    (hb : T (.books task.warehouseId)) (c : ReturnCommitCall) (ln : ReturnTaskLine) :
    Within T (commitReturnLine task c ln) := by
  refine within_bind (within_require _ _) fun _ => ?_
  refine within_bind (within_select _) fun _ => ?_
  refine within_bind (within_requireSome _ _) fun _ => ?_
  refine within_bind (within_require _ _) fun _ => ?_
  refine within_bind (within_require _ _) fun _ => ?_
  refine within_bind (within_require _ _) fun _ => ?_
  refine within_bind (within_adjustLotImpl hb) fun _ => ?_
  exact within_bind (within_exec rfl hr) fun _ => within_pure _

theorem within_commitReturnLines {task : ReturnTask} (hr : T .returns)
    (hb : T (.books task.warehouseId)) (c : ReturnCommitCall) (lines : List ReturnTaskLine) :
    Within T (commitReturnLines task c lines) := by
  induction lines with
  | nil => exact within_pure _
  | cons ln rest ih =>
      refine within_ite ih ?_
      refine within_bind (within_commitReturnLine hr hb _ _) fun _ => ?_
      exact within_bind ih fun _ => within_pure _

theorem within_enforceThreeBooks (ho : T .other) (w : Int) (ref : String)
    (effects : List ReturnEffect) (c : ReturnCommitCall) :
    Within T (enforceThreeBooks w ref effects c) := by
  refine within_bind (within_bind (within_exec rfl ho) fun _ => within_exec rfl ho) fun _ => ?_
  refine within_bind (within_select _) fun _ => ?_
  refine within_bind (within_require _ _) fun _ => ?_
  exact within_bind (within_select _) fun _ => within_require _ _

theorem within_commitReturnTask (hr : T .returns) (ho : T .other) (hb : ∀ w, T (.books w))
    (taskId : Int) (c : ReturnCommitCall) : Within T (commitReturnTask taskId c) := by
  refine within_bind (readOnly_getWithLines _ _).within fun t => ?_
  refine within_ite (within_pure _) ?_
  refine within_bind (within_commitReturnLines hr (hb _) _ _) fun _ => ?_
  refine within_bind (within_exec rfl hr) fun _ => ?_
  refine within_bind (within_when (within_enforceThreeBooks ho _ _ _ _)) fun _ => ?_
  exact (readOnly_getWithLines _ _).within

theorem within_raiseShortage {α : Type} (w i required : Int) :
    Within T (raiseShortage w i required : Tx α) :=
  within_bind (within_select _) fun _ => within_raise _

theorem within_shipItem {c : ShipCall} (hb : T (.books c.warehouseId)) (i need refLine : Int) :
    Within T (shipItem c i need refLine) := by
  refine within_bind ?_ fun row => ?_
  · exact Prog.every_exec fun p hp => by cases hp
  cases row with
  | none => exact within_raiseShortage _ _ _
  | some r =>
      refine within_bind (within_when (within_raiseShortage _ _ _)) fun _ => ?_
      refine within_bind (within_adjustLotImpl hb) fun _ => ?_
      exact within_bind (within_when (within_raiseShortage _ _ _)) fun _ => within_pure _

theorem within_shipItems {c : ShipCall} (hb : T (.books c.warehouseId))
    (policy : Int → Option ExpiryPolicy) (needs : List (Int × Int)) (effects : List ShipEffect) :
    Within T (shipItems c policy needs effects) := by
  induction needs generalizing effects with
  | nil => exact within_pure _
  | cons need rest ih =>
      refine within_bind (within_require _ _) fun _ => ?_
      refine within_bind (within_select _) fun _ => ?_
      refine within_ite (ih _) ?_
      exact within_bind (within_shipItem hb _ _ _) fun _ => ih _

theorem within_shipCommitDirect {c : ShipCall} (hb : T (.books c.warehouseId))
    (lines : List ShipLine) : Within T (shipCommitDirect c lines) := by
  refine within_ite (within_pure _) ?_
  refine within_bind (within_select _) fun _ => ?_
  refine within_bind (within_require _ _) fun _ => ?_
  refine within_bind (within_shipItems hb _ _ _) fun _ => ?_
  refine within_bind (within_when ?_) fun _ => within_pure _
  exact within_bind (within_select _) fun _ => within_require _ _

/-! ## Every operation -/

/-- The tables an operation can write to, besides the books. -/
def Op.tables : Op → List Part
  | .inboundCommit .. => [.lots, .events, .inboundLines, .completions]
  | .inboundOperation .. => [.lots, .events, .inboundLines, .other]
  | .orderSubmit .. => [.events, .outboundLines]
  | .manualSubmit .. => [.events, .outboundLines, .other]
  | .outboundReversal .. => [.events, .outboundLines]
  | .inboundReversal .. => [.events, .inboundLines]
  | .directCount .. => [.lots]
  | .recount .. => [.lots, .other]
  | .countCreate .. | .countVoid .. => [.countDocs]
  | .countFreeze .. | .countUpdate .. => [.countDocs, .countLines]
  | .countPost .. => [.countDocs, .events]
  | .returnCreate .. | .returnReceive .. => [.returns]
  | .returnCommit .. => [.returns, .other]
  | .directShip .. => []

/-- The warehouses whose books an operation can write to, as far as its
arguments tell. -/
def Op.inBooks : Op → Int → Prop
  | .inboundCommit payload _ _, w => w = payload.warehouseId
  | .orderSubmit _ warehouseId _ _, w => w = warehouseId
  | .directCount req _ _, w => w = req.warehouseId
  | .recount req _, w => w = req.warehouseId
  | .directShip c _, w => w = c.warehouseId
  | .inboundOperation .., _ | .manualSubmit .., _ | .outboundReversal .., _
  | .inboundReversal .., _ | .countPost .., _ | .returnCommit .., _ => True
  | _, _ => False

/-- The parts an operation can write to. -/
def Op.writes (op : Op) (p : Part) : Prop := p ∈ op.tables ∨ ∃ w, p = .books w ∧ op.inBooks w

theorem within_forget {α : Type} {x : Tx α} (hx : Within T x) : Within T x.forget :=
  within_bind hx fun _ => within_pure _

theorem Op.within (op : Op) : Within op.writes op.prog := by
  have htable : ∀ {p}, p ∈ op.tables → op.writes p := fun h => Or.inl h
  have hbooks : ∀ {w}, op.inBooks w → op.writes (.books w) := fun h => Or.inr ⟨_, rfl, h⟩
  cases op with
  | inboundCommit payload userId c =>
      exact within_forget (within_commitInbound (htable (by simp [Op.tables]))
        (htable (by simp [Op.tables])) (htable (by simp [Op.tables]))
        (htable (by simp [Op.tables])) (hbooks rfl) _ _)
  | inboundOperation payload operator c =>
      exact within_forget (within_submitInboundOperationRepo (htable (by simp [Op.tables]))
        (htable (by simp [Op.tables])) (htable (by simp [Op.tables]))
        (htable (by simp [Op.tables])) (fun _ => hbooks trivial) _ _ _)
  | orderSubmit orderId warehouseId c payload =>
      exact within_forget (within_submitOrder (htable (by simp [Op.tables]))
        (htable (by simp [Op.tables])) (hbooks rfl) _ _ _)
  | manualSubmit docId c payload =>
      exact within_forget (within_submitManual (htable (by simp [Op.tables]))
        (htable (by simp [Op.tables])) (htable (by simp [Op.tables]))
        (fun _ => hbooks trivial) _ _ _)
  | outboundReversal eventId payload userId c =>
      exact within_forget (within_reverseEvent outboundSide .outboundLines
        (fun _ _ => rfl) (htable (by simp [Op.tables])) (htable (by simp [Op.tables]))
        (fun _ => hbooks trivial) _ _ _ _)
  | inboundReversal eventId payload userId c =>
      exact within_forget (within_reverseEvent inboundSide .inboundLines
        (fun _ _ => rfl) (htable (by simp [Op.tables])) (htable (by simp [Op.tables]))
        (fun _ => hbooks trivial) _ _ _ _)
  | directCount req newLotId now =>
      exact within_forget (within_countSubmit (htable (by simp [Op.tables])) (hbooks rfl) _ _)
  | recount req c =>
      exact within_forget (within_stockRecount (htable (by simp [Op.tables]))
        (htable (by simp [Op.tables])) (hbooks rfl) _)
  | countCreate payload actor c =>
      exact within_forget (within_createDoc (htable (by simp [Op.tables])) _ _ _)
  | countFreeze docId lineId =>
      exact within_forget (within_freezeDoc (htable (by simp [Op.tables]))
        (htable (by simp [Op.tables])) _ _)
  | countUpdate docId payload now =>
      exact within_forget (within_updateDocLines (htable (by simp [Op.tables]))
        (htable (by simp [Op.tables])) _ _ _)
  | countPost docId reviewedBy c =>
      exact within_forget (within_postDoc (htable (by simp [Op.tables]))
        (htable (by simp [Op.tables])) (fun _ => hbooks trivial) _ _ _)
  | countVoid docId => exact within_voidDoc (htable (by simp [Op.tables])) _
  | returnCreate orderId w z c =>
      exact within_forget (within_createForOrder (htable (by simp [Op.tables])) _ _ _ _)
  | returnReceive taskId itemId qty =>
      exact within_forget (within_recordReceive (htable (by simp [Op.tables])) _ _ _)
  | returnCommit taskId c =>
      exact within_forget (within_commitReturnTask (htable (by simp [Op.tables]))
        (htable (by simp [Op.tables])) (fun _ => hbooks trivial) _ _)
  | directShip c lines => exact within_forget (within_shipCommitDirect (hbooks rfl) _)

/-- **Frame rule of the operations.** A table no part of an operation covers
is as it was. -/
theorem Op.frame {op : Op} {γ : Type} {f : Db → γ}
    (hf : ∀ (u : Redo) (db : Db), op.writes u.part → f (u.apply db) = f db) {db db' : Db}
    (h : op.prog.run db = .ok ((), db')) : f db' = f db :=
  op.within.frame hf h

/-- A table's part tells whether an operation writes to it. -/
theorem Op.not_writes {op : Op} {u : Redo} {p : Part} (hp : p ∉ op.tables)
    (hbooks : ∀ w, p ≠ .books w) (h : op.writes u.part) : u.part ≠ p := by
  rintro rfl
  rcases h with h | ⟨w, hw, -⟩
  · exact hp h
  · exact hbooks w hw

section OpFrames
variable {op : Op} {db db' : Db} (h : op.prog.run db = .ok ((), db'))
include h

theorem Op.run_wmsEvents (hp : .events ∉ op.tables) : db'.wmsEvents = db.wmsEvents :=
  Op.frame (fun _ _ hu => Redo.apply_wmsEvents (Op.not_writes hp nofun hu)) h

theorem Op.run_outboundEventLines (hp : .outboundLines ∉ op.tables) :
    db'.outboundEventLines = db.outboundEventLines :=
  Op.frame (fun _ _ hu => Redo.apply_outboundEventLines (Op.not_writes hp nofun hu)) h

theorem Op.run_inboundEventLines (hp : .inboundLines ∉ op.tables) :
    db'.inboundEventLines = db.inboundEventLines :=
  Op.frame (fun _ _ hu => Redo.apply_inboundEventLines (Op.not_writes hp nofun hu)) h

theorem Op.run_countDocs (hp : .countDocs ∉ op.tables) : db'.countDocs = db.countDocs :=
  Op.frame (fun _ _ hu => Redo.apply_countDocs (Op.not_writes hp nofun hu)) h

theorem Op.run_countDocLines (hp : .countLines ∉ op.tables) :
    db'.countDocLines = db.countDocLines :=
  Op.frame (fun _ _ hu => Redo.apply_countDocLines (Op.not_writes hp nofun hu)) h

theorem Op.run_countDocLineLotSnapshots (hp : .countLines ∉ op.tables) :
    db'.countDocLineLotSnapshots = db.countDocLineLotSnapshots :=
  Op.frame (fun _ _ hu => Redo.apply_countDocLineLotSnapshots (Op.not_writes hp nofun hu)) h

theorem Op.run_returnTasks (hp : .returns ∉ op.tables) : db'.returnTasks = db.returnTasks :=
  Op.frame (fun _ _ hu => Redo.apply_returnTasks (Op.not_writes hp nofun hu)) h

theorem Op.run_returnTaskLines (hp : .returns ∉ op.tables) :
    db'.returnTaskLines = db.returnTaskLines :=
  Op.frame (fun _ _ hu => Redo.apply_returnTaskLines (Op.not_writes hp nofun hu)) h

theorem Op.run_orderLines : db'.orderLines = db.orderLines :=
  Op.frame (fun u d _ => u.apply_orderLines d) h

/-- The stock of a warehouse whose books an operation does not write. -/
theorem Op.run_stockOf {w : Int} (hw : ¬ op.inBooks w) : db'.stockOf w = db.stockOf w := by
  refine Op.frame (f := fun d => d.stockOf w) (fun u d hu => Redo.apply_stockOf ?_) h
  rintro hp
  rcases hu with hu | ⟨w', hw', hin⟩
  · rw [hp] at hu
    cases op <;> simp [Op.tables] at hu
  · rw [hp] at hw'
    cases hw'
    exact hw hin

end OpFrames

end WmsDu
