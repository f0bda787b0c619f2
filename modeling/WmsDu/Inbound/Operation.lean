import WmsDu.Inbound.Commit

/-!
# Inbound operations

`submit_inbound_operation_repo`: goods received against a released inbound
task. Every entry of every line becomes an operation line, an event line, an
addition to the balance of its lot and a ledger row, all written by this
repository's own statements.
-/

namespace WmsDu

open Txn

/-! ## Contracts -/

/-- An entry without dates has them in order. -/
theorem dates_none : ∀ p ∈ (none : Option Date), ∀ e ∈ (none : Option Date), ¬ e.before p := by
  decide

/-- `InboundOperationEntryIn`. -/
structure InboundOperationEntryIn where
  qtyInbound : Int
  barcodeInput : Option String := none
  actualItemUomId : Option Int := none
  batchNo : Option String := none
  productionDate : Option Date := none
  expiryDate : Option Date := none
  remark : Option String := none
  qtyInbound_ge : 1 ≤ qtyInbound := by decide
  dates : ∀ p ∈ productionDate, ∀ e ∈ expiryDate, ¬ e.before p := by decide

/-- `InboundOperationLineIn`. -/
structure InboundOperationLineIn where
  receiptLineNo : Int
  entries : List InboundOperationEntryIn
  receiptLineNo_ge : 1 ≤ receiptLineNo := by decide
  entries_ne_nil : entries ≠ [] := by simp

/-- `InboundOperationSubmitIn`: a payload names a task line at most once. -/
structure InboundOperationSubmitIn where
  receiptNo : String
  remark : Option String := none
  lines : List InboundOperationLineIn
  lines_ne_nil : lines ≠ [] := by simp
  unique_line_no : (lines.map InboundOperationLineIn.receiptLineNo).Nodup := by decide

/-! ## The task -/

/-- A line of the task with what is planned and what was received for it. -/
structure OperationTaskLine where
  line : InboundReceiptLine
  plannedQtyBase : Int
  receivedQtyBase : Int

/-- What earlier operations of a task received for one of its lines. -/
def receivedQtyBase (db : Db) (receiptNo : String) (lineNo : Int) : Int :=
  sumOver (fun ol : WmsInboundOperationLine => ol.receiptLineNoSnapshot = lineNo ∧
      ∃ o ∈ db.wmsInboundOperations.rows,
        o.id = ol.wmsInboundOperationId ∧ o.receiptNoSnapshot = receiptNo)
    WmsInboundOperationLine.qtyBase db.wmsInboundOperationLines.rows

/-- The lines of the task, `ORDER BY l.line_no`. -/
def operationTaskLines (db : Db) (receipt : InboundReceipt) : List OperationTaskLine :=
  let lines := db.inboundReceiptLines.rows.filter fun l => l.inboundReceiptId = receipt.id
  (lines.insertionSort fun a b => a.lineNo ≤ b.lineNo).map fun l =>
    { line := l, plannedQtyBase := l.plannedQty * l.ratioToBaseSnapshot
      receivedQtyBase := receivedQtyBase db receipt.receiptNo l.lineNo }

/-- `_map_event_source_type`. -/
def mapEventSourceType : ReceiptSourceType → SourceType
  | .purchaseOrder => .purchaseOrder
  | .manual => .manual
  | .returnOrder => .return

/-- A status as the error texts print it. -/
def ReceiptStatus.text : ReceiptStatus → String
  | .draft => "DRAFT"
  | .released => "RELEASED"
  | .completed => "COMPLETED"
  | .voided => "VOIDED"

/-- `_to_int_exact`. -/
def toIntExact (value : Int) (label : String) : Except Err Int :=
  if value < 0 then .error (.http 409 s!"{label}_must_not_be_negative:{value}") else .ok value

/-! ## The unit of an entry -/

/-- A unit as an entry is recorded with it. -/
structure UomSnapshot where
  uomId : Int
  uomName : Option String
  ratioToBase : Int

def ItemUom.snapshot (u : ItemUom) : UomSnapshot := ⟨u.id, some u.shownName, u.ratioToBase⟩

/-- `_load_item_uom_snapshot`. -/
def loadItemUomSnapshot (itemId itemUomId : Int) : Tx UomSnapshot := do
  let u ← Tx.select fun db => uomOfItem db itemId itemUomId
  let u ← Tx.requireSome u
    (.http 409 s!"actual_item_uom_not_found_or_item_mismatch:{itemId}:{itemUomId}")
  return u.snapshot

/-- `_resolve_barcode_uom_snapshot`. -/
def resolveBarcodeUomSnapshot (itemId : Int) (barcode : String) : Tx UomSnapshot := do
  let code := strip barcode
  let row ← Tx.select fun db =>
    (((barcodeUoms db).filter fun b => b.1.barcode = code ∧ b.1.active = true ∧
      b.1.itemId = itemId).insertionSort (flaggedFirst ItemBarcode.isPrimary)).head?
  let row ← Tx.requireSome row (.http 422 s!"barcode_unbound_or_item_mismatch:{code}")
  return row.2.snapshot

/-- The unit an entry was received in: of its barcode, of its own choice, or
the task's. -/
def entryUom (taskLine : InboundReceiptLine) (entry : InboundOperationEntryIn) : Tx UomSnapshot :=
  match cleanText entry.barcodeInput, entry.actualItemUomId with
  | some barcode, explicit => do
      let u ← resolveBarcodeUomSnapshot taskLine.itemId barcode
      Tx.require (explicit = none ∨ explicit = some u.uomId)
        (.http 409 s!"barcode_actual_item_uom_mismatch:{taskLine.lineNo}")
      return u
  | none, some uomId => loadItemUomSnapshot taskLine.itemId uomId
  | none, none => return ⟨taskLine.itemUomId, taskLine.uomNameSnapshot, taskLine.ratioToBaseSnapshot⟩

/-! ## One entry -/

/-- What uuid4, the clock and the sequences draw for one operation; the line
and lot ids are indexed by event line number. -/
structure OperationDraws where
  operationId : Int
  eventId : Int
  eventNo : String
  traceId : String
  newLineId : Int → Int
  newLotId : Int → Int
  now : Timestamp := 0

/-- What every entry of one operation shares. -/
structure OperationContext where
  receipt : InboundReceipt
  event : WmsEvent
  draws : OperationDraws

/-- The running part of the loop over the entries. -/
structure OperationProgress where
  eventLineNo : Int
  receivedBase : Int → Int
  outLines : List WmsInboundOperationLine

/-- The event line of an entry. -/
def operationEventLine (ctx : OperationContext) (taskLine : InboundReceiptLine)
    (entry : InboundOperationEntryIn) (u : UomSnapshot) (lotId eventLineNo : Int) :
    InboundEventLine :=
  { eventId := ctx.event.id, lineNo := eventLineNo, itemId := taskLine.itemId
    itemNameSnapshot := taskLine.itemNameSnapshot, itemSpecSnapshot := taskLine.itemSpecSnapshot
    actualUomId := u.uomId, actualUomNameSnapshot := u.uomName
    barcodeInput := cleanText entry.barcodeInput, actualQtyInput := entry.qtyInbound
    actualRatioToBaseSnapshot := u.ratioToBase, qtyBase := entry.qtyInbound * u.ratioToBase
    lotCodeInput := entry.batchNo, productionDate := entry.productionDate
    expiryDate := entry.expiryDate, lotId := some lotId
    poLineId := if ctx.receipt.sourceType = .purchaseOrder then taskLine.sourceLineId else none
    remark := entry.remark }

/-- The operation line of an entry. -/
def operationLine (ctx : OperationContext) (taskLine : InboundReceiptLine)
    (entry : InboundOperationEntryIn) (u : UomSnapshot) (lotId eventLineNo : Int) :
    WmsInboundOperationLine :=
  { id := ctx.draws.newLineId eventLineNo, wmsInboundOperationId := ctx.draws.operationId
    receiptLineNoSnapshot := taskLine.lineNo, itemId := taskLine.itemId
    itemNameSnapshot := taskLine.itemNameSnapshot, itemSpecSnapshot := taskLine.itemSpecSnapshot
    actualItemUomId := u.uomId, actualUomNameSnapshot := u.uomName
    actualRatioToBaseSnapshot := u.ratioToBase, actualQtyInput := entry.qtyInbound
    qtyBase := entry.qtyInbound * u.ratioToBase, batchNo := entry.batchNo
    productionDate := entry.productionDate, expiryDate := entry.expiryDate
    lotId := some lotId, remark := entry.remark }

/-- The ledger row of an entry. -/
def operationLedgerRow (event : WmsEvent) (l : InboundEventLine) (lotId afterQty : Int) :
    StockLedgerRow :=
  { key := ⟨"RECEIPT", event.eventNo, l.lineNo, ⟨event.warehouseId, l.itemId, lotId⟩⟩
    reasonCanon := some "RECEIPT", subReason := some "INBOUND_OPERATION"
    delta := l.qtyBase, afterQty := afterQty, occurredAt := event.occurredAt
    traceId := some event.traceId, eventId := some event.id
    productionDate := l.productionDate, expiryDate := l.expiryDate }

/-- The stock step of one entry: the upsert of the balance, then the ledger. -/
def operationStockStep (event : WmsEvent) (l : InboundEventLine) (lotId : Int) : Tx Unit := do
  let afterQty ← Prog.exec (.addStocksLotQty ⟨event.warehouseId, l.itemId, lotId⟩ l.qtyBase)
  Prog.exec (.insertLedger (operationLedgerRow event l lotId afterQty))

/-- One entry of one line. -/
def submitEntry (ctx : OperationContext) (taskLine : OperationTaskLine) (item : Item)
    (entry : InboundOperationEntryIn) (p : OperationProgress) : Tx OperationProgress := do
  let tl := taskLine.line
  let u ← entryUom tl entry
  let qtyBase := entry.qtyInbound * u.ratioToBase
  let running := p.receivedBase tl.lineNo
  Tx.require (running + qtyBase ≤ taskLine.plannedQtyBase) (.http 409
    s!"received_qty_base_exceeds_planned:line={tl.lineNo}:planned_base={taskLine.plannedQtyBase}:received_base={running}:incoming_base={qtyBase}")
  let _ ← Tx.ofExcept (toIntExact qtyBase "qty_base")
  let _ ← Tx.ofExcept (toIntExact entry.qtyInbound "actual_qty_input")
  let _ ← Tx.ofExcept (toIntExact u.ratioToBase "actual_ratio_to_base")
  let eventLineNo := p.eventLineNo + 1
  let lotId ← resolveInboundLot ctx.receipt.warehouseId item entry.batchNo entry.productionDate
    entry.expiryDate (ctx.draws.newLotId eventLineNo)
  let out := operationLine ctx tl entry u lotId eventLineNo
  let l := operationEventLine ctx tl entry u lotId eventLineNo
  Prog.exec (.insertOperationLine out)
  Prog.exec (.insertInboundLine l)
  operationStockStep ctx.event l lotId
  return {
    eventLineNo := eventLineNo
    receivedBase := fun n => if n = tl.lineNo then running + qtyBase else p.receivedBase n
    outLines := p.outLines ++ [out] }

/-- The entries of one line. -/
def submitEntries (ctx : OperationContext) (taskLine : OperationTaskLine) (item : Item) :
    List InboundOperationEntryIn → OperationProgress → Tx OperationProgress
  | [], p => return p
  | entry :: rest, p => do
      let p ← submitEntry ctx taskLine item entry p
      submitEntries ctx taskLine item rest p

/-- The lines of the payload. -/
def submitOperationLines (ctx : OperationContext) (taskLines : List OperationTaskLine) :
    List InboundOperationLineIn → OperationProgress → Tx OperationProgress
  | [], p => return p
  | line :: rest, p => do
      let taskLine ← Tx.requireSome
        (taskLines.find? fun t => t.line.lineNo = line.receiptLineNo)
        (.http 404 s!"inbound_task_line_not_found:{line.receiptLineNo}")
      let item ← Tx.select fun db => db.items.lookup taskLine.line.itemId
      let item ← Tx.requireSome item
        (.http 404 s!"item_policy_not_found:{taskLine.line.itemId}")
      let p ← submitEntries ctx taskLine item line.entries p
      submitOperationLines ctx taskLines rest p

/-! ## The repository call -/

/-- Who submits. -/
structure Operator where
  id : Option Int
  name : Option String

/-- `InboundOperationSubmitOut`. -/
structure InboundOperationSubmitOut where
  operation : WmsInboundOperation
  lines : List WmsInboundOperationLine

/-- The operation head. -/
def operationHead (receipt : InboundReceipt) (op : Operator) (c : OperationDraws)
    (remark : Option String) : WmsInboundOperation :=
  { id := c.operationId, receiptNoSnapshot := receipt.receiptNo
    warehouseId := receipt.warehouseId, warehouseNameSnapshot := receipt.warehouseNameSnapshot
    supplierId := receipt.supplierId, supplierNameSnapshot := receipt.counterpartyNameSnapshot
    operatorId := op.id, operatorNameSnapshot := op.name, operatedAt := c.now
    remark := remark }

/-- The event of an operation. -/
def operationEvent (receipt : InboundReceipt) (op : Operator) (c : OperationDraws)
    (remark : Option String) : WmsEvent :=
  { id := c.eventId, eventNo := c.eventNo, eventType := .inbound
    warehouseId := receipt.warehouseId, sourceType := mapEventSourceType receipt.sourceType
    sourceRef := some receipt.receiptNo, occurredAt := c.now, traceId := c.traceId
    eventKind := .commit, targetEventId := none, status := .committed, createdBy := op.id
    remark := remark }

/-- The part of `submit_inbound_operation_repo` behind the guard. -/
def submitReleasedOperation (task : InboundReceipt) (payload : InboundOperationSubmitIn)
    (op : Operator) (c : OperationDraws) : Tx InboundOperationSubmitOut := do
  let taskLines ← Tx.select fun db => operationTaskLines db task
  let head := operationHead task op c payload.remark
  Prog.exec (.insertOperation head)
  let event := operationEvent task op c payload.remark
  Prog.exec (.insertEvent event)
  let received (n : Int) : Int :=
    ((taskLines.find? fun t => t.line.lineNo = n).map OperationTaskLine.receivedQtyBase).getD 0
  let p ← submitOperationLines ⟨task, event, c⟩ taskLines payload.lines ⟨0, received, []⟩
  Tx.when (taskLines ≠ [] ∧ ∀ t ∈ taskLines, t.plannedQtyBase ≤ p.receivedBase t.line.lineNo)
    (Prog.exec (.completeReceipt task.id))
  return ⟨head, p.outLines⟩

/-- `submit_inbound_operation_repo`. -/
def submitInboundOperationRepo (payload : InboundOperationSubmitIn) (op : Operator)
    (c : OperationDraws) : Tx InboundOperationSubmitOut := do
  let task ← Tx.select fun db =>
    db.inboundReceipts.rows.find? fun r => r.receiptNo = payload.receiptNo
  let task ← Tx.requireSome task (.http 404 "inbound_task_not_found")
  Tx.require (task.status = .released)
    (.http 409 s!"inbound_task_not_released:{task.status.text}")
  ensureWarehouseNotFrozen task.warehouseId
  submitReleasedOperation task payload op c

end WmsDu
