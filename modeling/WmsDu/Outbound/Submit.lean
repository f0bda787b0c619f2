import WmsDu.Count.FreezeGuard
import WmsDu.Stock.AdjustLot

/-!
# Outbound submits

`submit_order_outbound_event` and `submit_manual_outbound_event`: a payload
names lines of one order, or of one released manual document, with the lot
each quantity leaves from. Both services number the payload's lines, and both
hand over to `_write_event_and_ledger`, which writes the event, its lines, the
ledger and the balances.
-/

namespace WmsDu

open Txn

/-! ## Contracts -/

/-- One line of `OrderOutboundSubmitIn` or `ManualOutboundSubmitIn`;
`docLineId` is its `order_line_id` or `manual_doc_line_id`. -/
structure OutboundSubmitLineIn where
  docLineId : Int
  itemId : Int
  qtyOutbound : Int
  lotId : Int
  remark : Option String := none
  docLineId_ge : 1 ≤ docLineId := by decide
  itemId_ge : 1 ≤ itemId := by decide
  qtyOutbound_gt : 0 < qtyOutbound := by decide
  lotId_ge : 1 ≤ lotId := by decide

/-- A submit payload; an empty list of lines passes the contract. -/
structure OutboundSubmitIn where
  remark : Option String := none
  lines : List OutboundSubmitLineIn

structure OutboundSubmitOut where
  eventId : Int
  traceId : String
  sourceType : SourceType
  sourceRef : String
  warehouseId : Int
  occurredAt : Timestamp
  linesCount : Nat

/-! ## Line normalisation -/

/-- What a payload line is checked against: a line of the document. -/
structure SourceLine where
  id : Int
  itemId : Int
  itemName : Option String
  itemSku : Option String
  itemSpec : Option String

/-- A payload line after normalisation. -/
structure NormalizedLine where
  refLine : Int
  docLineId : Int
  itemId : Int
  qtyOutbound : Int
  lotId : Int
  itemNameSnapshot : Option String
  itemSkuSnapshot : Option String
  itemSpecSnapshot : Option String
  remark : Option String

/-- The words an error about a payload line uses. -/
structure LineTexts where
  notFound : String
  itemMismatch : String
  lineId : String

/-- The loop of the two normalisers: `refLine` counts the payload's lines. -/
def normalizeFrom (texts : LineTexts) (source : Int → Option SourceLine) :
    Int → List OutboundSubmitLineIn → Except Err (List NormalizedLine)
  | _, [] => .ok []
  | refLine, raw :: rest =>
      match source raw.docLineId with
      | none => .error (.valueError s!"{texts.notFound}: {texts.lineId}={raw.docLineId}")
      | some src =>
          if raw.itemId ≠ src.itemId then
            .error (.valueError
              s!"{texts.itemMismatch}: {texts.lineId}={raw.docLineId}, submit_item_id={raw.itemId}, source_item_id={src.itemId}")
          else
            match normalizeFrom texts source (refLine + 1) rest with
            | .error e => .error e
            | .ok lines =>
                .ok ({ refLine := refLine, docLineId := raw.docLineId, itemId := raw.itemId
                       qtyOutbound := raw.qtyOutbound, lotId := raw.lotId
                       itemNameSnapshot := cleanText src.itemName
                       itemSkuSnapshot := cleanText src.itemSku
                       itemSpecSnapshot := cleanText src.itemSpec
                       remark := cleanText raw.remark } :: lines)

/-- The two normalisers. -/
def normalizeSubmitLines (texts : LineTexts) (source : Int → Option SourceLine)
    (lines : List OutboundSubmitLineIn) : Except Err (List NormalizedLine) :=
  if lines.isEmpty then .error (.valueError "empty_outbound_lines")
  else normalizeFrom texts source 1 lines

/-- `normalize_order_submit_lines`. -/
def normalizeOrderSubmitLines :
    (Int → Option SourceLine) → List OutboundSubmitLineIn → Except Err (List NormalizedLine) :=
  normalizeSubmitLines ⟨"order_line_not_in_order", "order_line_item_mismatch", "order_line_id"⟩

/-- `normalize_manual_submit_lines`. -/
def normalizeManualSubmitLines :
    (Int → Option SourceLine) → List OutboundSubmitLineIn → Except Err (List NormalizedLine) :=
  normalizeSubmitLines
    ⟨"manual_doc_line_not_in_doc", "manual_doc_line_item_mismatch", "manual_doc_line_id"⟩

/-! ## Submit contexts -/

/-- `load_order_outbound_lines`: the order's lines, joined with their items. -/
def orderOutboundLines (db : Db) (orderId : Int) : List SourceLine :=
  (db.orderLines.rows.filter fun ol => ol.orderId = orderId).filterMap fun ol =>
    (db.items.lookup ol.itemId).map fun i =>
      { id := ol.id, itemId := ol.itemId, itemName := some i.name, itemSku := some i.sku
        itemSpec := i.spec }

/-- The lines of a manual document. -/
def manualDocLines (db : Db) (docId : Int) : List SourceLine :=
  (db.manualOutboundLines.rows.filter fun l => l.docId = docId).map fun l =>
    { id := l.id, itemId := l.itemId, itemName := l.itemNameSnapshot
      itemSku := l.itemSkuSnapshot, itemSpec := l.itemSpecSnapshot }

/-- A document's lines by id. -/
def linesById (lines : List SourceLine) (id : Int) : Option SourceLine :=
  lines.find? (fun l => l.id = id)

/-- The ledger reference of an order's shipments. -/
def OrderHead.sourceRef (o : OrderHead) : String :=
  s!"ORD:{upper o.platform}:{o.storeCode}:{o.extOrderNo}"

structure SubmitContext where
  linesById : Int → Option SourceLine
  sourceRef : String
  warehouseId : Int

/-- `load_order_submit_context`; the warehouse is the caller's. -/
def loadOrderSubmitContext (orderId warehouseId : Int) : Tx SubmitContext := do
  let head ← Tx.select fun db => db.orders.lookup orderId
  let head ← Tx.requireSome head (.valueError s!"order not found: id={orderId}")
  let rows ← Tx.select fun db => orderOutboundLines db orderId
  Tx.require (rows ≠ []) (.valueError s!"order_lines_not_found: order_id={orderId}")
  return ⟨linesById rows, head.sourceRef, warehouseId⟩

/-- A status as the error texts print it. -/
def ManualDocStatus.text : ManualDocStatus → String
  | .draft => "DRAFT"
  | .released => "RELEASED"
  | .completed => "COMPLETED"
  | .voided => "VOIDED"

/-- `load_manual_submit_context`. -/
def loadManualSubmitContext (docId : Int) : Tx SubmitContext := do
  let head ← Tx.select fun db => db.manualOutboundDocs.lookup docId
  let head ← Tx.requireSome head (.valueError s!"manual_doc_not_found: id={docId}")
  Tx.require (head.status = .released)
    (.valueError s!"manual_doc_not_released: id={docId}, status={head.status.text}")
  let rows ← Tx.select fun db => manualDocLines db docId
  Tx.require (rows ≠ []) (.valueError s!"manual_doc_lines_not_found: doc_id={docId}")
  return ⟨linesById rows, head.docNo, head.warehouseId⟩

/-! ## Progress -/

/-- `SUM(oel.qty_outbound)` over the event lines of one order line. -/
def submittedQty (db : Db) (orderLineId : Int) : Int :=
  sumOver (fun l : OutboundEventLine => l.orderLineId = some orderLineId)
    OutboundEventLine.qtyOutbound db.outboundEventLines.rows

/-- `SUM(oel.qty_outbound)` over the event lines of one manual document line. -/
def manualSubmittedQty (db : Db) (manualDocLineId : Int) : Int :=
  sumOver (fun l : OutboundEventLine => l.manualDocLineId = some manualDocLineId)
    OutboundEventLine.qtyOutbound db.outboundEventLines.rows

/-- One entry of `load_order_submit_progress`; a line that is not of the order
has none, which the service reads as zero and zero. -/
structure LineProgress where
  reqQty : Int := 0
  submittedQty : Int := 0

/-- `load_order_submit_progress`. -/
def orderSubmitProgress (db : Db) (orderId orderLineId : Int) : LineProgress :=
  match db.orderLines.lookup orderLineId with
  | some ol => if ol.orderId = orderId then ⟨ol.reqQty, submittedQty db orderLineId⟩ else {}
  | none => {}

/-- `has_orphan_order_outbound_ledger`. -/
def hasOrphanOrderOutboundLedger (db : Db) (k : IdemKey) : Bool :=
  match db.stockLedger.lookup k with
  | some row => row.eventId = none
  | none => false

/-- The ledger key of one outbound line. -/
def outboundKey (sourceRef : String) (warehouseId : Int) (refLine itemId lotId : Int) : IdemKey :=
  ⟨"OUTBOUND_SHIP", sourceRef, refLine, ⟨warehouseId, itemId, lotId⟩⟩

/-- The checks `submit_order_outbound_event` makes line by line, against the
progress it read once for the whole payload. -/
def checkOrderLines (progress : Int → LineProgress) (sourceRef : String) (warehouseId : Int) :
    List NormalizedLine → Tx Unit
  | [] => return ()
  | ln :: rest => do
      let p := progress ln.docLineId
      Tx.require (0 < p.reqQty)
        (.valueError s!"order_line_not_found_or_invalid: order_line_id={ln.docLineId}")
      Tx.require (p.submittedQty < p.reqQty) (.valueError
        s!"order_line_already_completed: order_line_id={ln.docLineId}, req_qty={p.reqQty}, submitted_qty={p.submittedQty}")
      Tx.require (p.submittedQty + ln.qtyOutbound ≤ p.reqQty) (.valueError
        s!"order_line_over_submit: order_line_id={ln.docLineId}, req_qty={p.reqQty}, submitted_qty={p.submittedQty}, submit_qty={ln.qtyOutbound}")
      let orphan ← Tx.select fun db => hasOrphanOrderOutboundLedger db
        (outboundKey sourceRef warehouseId ln.refLine ln.itemId ln.lotId)
      Tx.require (orphan = false) (.valueError
        s!"legacy_orphan_ledger_conflict: source_ref={sourceRef}, ref_line={ln.refLine}, item_id={ln.itemId}, warehouse_id={warehouseId}, lot_id={ln.lotId}")
      checkOrderLines progress sourceRef warehouseId rest

/-! ## Event and ledger -/

/-- The document a submit ships for. -/
inductive SubmitDoc
  | order | manual
deriving DecidableEq

def SubmitDoc.sourceType : SubmitDoc → SourceType
  | .order => .order
  | .manual => .manual

/-- The event line of a normalised line. -/
def NormalizedLine.eventLine (ln : NormalizedLine) (doc : SubmitDoc) (eventId : Int)
    (lotCodeSnapshot : Option String) : OutboundEventLine :=
  { eventId := eventId, refLine := ln.refLine, itemId := ln.itemId
    qtyOutbound := ln.qtyOutbound, lotId := ln.lotId, lotCodeSnapshot := lotCodeSnapshot
    orderLineId := match doc with | .order => some ln.docLineId | .manual => none
    manualDocLineId := match doc with | .order => none | .manual => some ln.docLineId
    itemNameSnapshot := ln.itemNameSnapshot, itemSkuSnapshot := ln.itemSkuSnapshot
    itemSpecSnapshot := ln.itemSpecSnapshot, remark := ln.remark }

/-- `insert_outbound_event_lines`. -/
def insertOutboundEventLines : List OutboundEventLine → Tx Unit
  | [] => return ()
  | l :: rest => do
      Prog.exec (.insertOutboundLine l)
      insertOutboundEventLines rest

/-- The row `insert_outbound_stock_ledger` writes. -/
def outboundLedgerRow (event : WmsEvent) (sourceRef : String) (l : OutboundEventLine)
    (afterQty : Int) : StockLedgerRow :=
  { key := outboundKey sourceRef event.warehouseId l.refLine l.itemId l.lotId
    reasonCanon := some "OUTBOUND", subReason := some "ORDER_OUTBOUND"
    delta := -l.qtyOutbound, afterQty := afterQty, occurredAt := event.occurredAt
    traceId := some event.traceId, eventId := some event.id
    productionDate := none, expiryDate := none }

/-- The stock step of one saved line. -/
def shipLine (event : WmsEvent) (sourceRef : String) (l : OutboundEventLine) : Tx Unit := do
  let s : Slot := ⟨event.warehouseId, l.itemId, l.lotId⟩
  let currentQty ← selectSlotForUpdate s
  let currentQty ← Tx.requireSome currentQty (.valueError
    s!"stock_slot_not_found: warehouse_id={event.warehouseId}, item_id={l.itemId}, lot_id={l.lotId}")
  Tx.require (l.qtyOutbound ≤ currentQty) (.valueError
    s!"insufficient_stock: warehouse_id={event.warehouseId}, item_id={l.itemId}, lot_id={l.lotId}, current_qty={currentQty}, need_qty={l.qtyOutbound}")
  let afterQty := currentQty - l.qtyOutbound
  Prog.exec (.insertLedger (outboundLedgerRow event sourceRef l afterQty))
  Prog.exec (.setStocksLotQty s afterQty)

def shipLines (event : WmsEvent) (sourceRef : String) : List OutboundEventLine → Tx Unit
  | [] => return ()
  | l :: rest => do
      shipLine event sourceRef l
      shipLines event sourceRef rest

/-- What the caller of `_write_event_and_ledger` hands over besides the lines;
`eventId` is the id the sequence draws for the event and `now` the clock. -/
structure OutboundWrite where
  doc : SubmitDoc
  warehouseId : Int
  sourceRef : String
  operatorId : Option Int
  traceId : String
  occurredAt : Option Timestamp
  remark : Option String
  eventId : Int
  now : Timestamp

/-- The event `insert_outbound_event` writes. -/
def OutboundWrite.event (w : OutboundWrite) : WmsEvent :=
  { id := w.eventId, eventNo := String.ofList (w.traceId.toList.take 64), eventType := .outbound
    warehouseId := w.warehouseId, sourceType := w.doc.sourceType, sourceRef := some w.sourceRef
    occurredAt := w.occurredAt.getD w.now, traceId := w.traceId, eventKind := .commit
    targetEventId := none, status := .committed, createdBy := w.operatorId
    remark := (w.remark.bind orNone).map strip }

/-- `_write_event_and_ledger`. -/
def writeEventAndLedger (w : OutboundWrite) (lines : List NormalizedLine) :
    Tx (List OutboundEventLine) := do
  ensureWarehouseNotFrozen w.warehouseId
  Prog.exec (.insertEvent w.event)
  let lotCode ← Tx.select fun db lotId => (db.lots.lookup lotId).bind Lot.lotCode
  let saved := lines.map fun ln => ln.eventLine w.doc w.eventId (lotCode ln.lotId)
  insertOutboundEventLines saved
  shipLines w.event w.sourceRef saved
  return saved

/-! ## The two services -/

/-- The caller's part of a submit: who, when, and what uuid4 and the sequence draw. -/
structure SubmitCall where
  operatorId : Option Int := none
  traceId : String
  occurredAt : Option Timestamp := none
  eventId : Int
  now : Timestamp := 0

/-- The answer of a submit. -/
def submitOut (w : OutboundWrite) (saved : List OutboundEventLine) : OutboundSubmitOut :=
  { eventId := w.eventId, traceId := w.traceId, sourceType := w.doc.sourceType
    sourceRef := w.sourceRef, warehouseId := w.warehouseId
    occurredAt := w.event.occurredAt, linesCount := saved.length }

/-- The write a submit asks for. -/
def SubmitCall.write (c : SubmitCall) (doc : SubmitDoc) (ctx : SubmitContext)
    (remark : Option String) : OutboundWrite :=
  { doc := doc, warehouseId := ctx.warehouseId, sourceRef := ctx.sourceRef
    operatorId := c.operatorId, traceId := c.traceId, occurredAt := c.occurredAt
    remark := remark, eventId := c.eventId, now := c.now }

/-- `submit_order_outbound_event`. -/
def submitOrderOutboundEvent (orderId warehouseId : Int) (c : SubmitCall)
    (payload : OutboundSubmitIn) : Tx OutboundSubmitOut := do
  let ctx ← loadOrderSubmitContext orderId warehouseId
  let normalized ← Tx.ofExcept (normalizeOrderSubmitLines ctx.linesById payload.lines)
  let progress ← Tx.select fun db => orderSubmitProgress db orderId
  checkOrderLines progress ctx.sourceRef warehouseId normalized
  let w := c.write .order ctx payload.remark
  let saved ← writeEventAndLedger w normalized
  return submitOut w saved

/-- One row of `list_manual_doc_progress`. -/
structure ManualProgressRow where
  requestedQty : Int
  submittedQty : Int

/-- `list_manual_doc_progress`. -/
def listManualDocProgress (db : Db) (docId : Int) : List ManualProgressRow :=
  (db.manualOutboundLines.rows.filter fun l => l.docId = docId).map fun l =>
    ⟨l.requestedQty, manualSubmittedQty db l.id⟩

/-- `complete_manual_doc`. -/
def completeManualDoc (docId : Int) : Tx Unit := do
  let done ← Prog.exec (.completeManualDoc docId)
  Tx.require (done = true) (.valueError s!"manual_doc_complete_reject: id={docId}")

/-- `submit_manual_outbound_event`. -/
def submitManualOutboundEvent (docId : Int) (c : SubmitCall) (payload : OutboundSubmitIn) :
    Tx OutboundSubmitOut := do
  let ctx ← loadManualSubmitContext docId
  let normalized ← Tx.ofExcept (normalizeManualSubmitLines ctx.linesById payload.lines)
  let w := c.write .manual ctx payload.remark
  let saved ← writeEventAndLedger w normalized
  let rows ← Tx.select fun db => listManualDocProgress db docId
  Tx.when (rows ≠ [] ∧ ∀ row ∈ rows, row.requestedQty ≤ row.submittedQty) (completeManualDoc docId)
  return submitOut w saved

end WmsDu
