import WmsDu.Inbound.Operation
import WmsDu.Oms.OrderRef
import WmsDu.Shared.Fallible

/-!
# Return receipts

`create_inbound_receipt_from_return_order_repo`: the inbound task for goods
that come back from an order. What may come back is kept in base units on the
order items; the lines of the task plan in the unit an item is received in.
-/

namespace WmsDu

/-! ## Contracts -/

/-- `InboundReceiptCreateFromReturnOrderLineIn`. -/
structure ReturnReceiptLineIn where
  orderLineId : Int
  itemId : Int
  plannedQty : Int
  orderLineId_ge : 1 ≤ orderLineId := by decide
  itemId_ge : 1 ≤ itemId := by decide
  plannedQty_ge : 1 ≤ plannedQty := by decide

/-- `InboundReceiptCreateFromReturnOrderIn`. -/
structure ReturnReceiptIn where
  orderKey : String
  lines : List ReturnReceiptLineIn
  orderKey_length : 1 ≤ orderKey.length ∧ orderKey.length ≤ 128 := by decide
  lines_ne_nil : lines ≠ [] := by simp

/-! ## The source of a return -/

/-- The reference `_resolve_order_identity` builds, with the platform as it is
stored. -/
def OrderHead.orderRef (o : OrderHead) : String :=
  s!"ORD:{o.platform}:{o.storeCode}:{o.extOrderNo}"

/-- `_resolve_order_identity`. -/
def resolveOrderIdentity (orderKey : String) (db : OmsDb) : Except Err OrderHead := do
  let orderId ← resolveOrderId orderKey db
  demandSome (db.wms.orders.lookup orderId) (.http 404 "return_order_not_found")

/-- `RETURN_SHIP_REASONS`. -/
def returnShipReasons : List String := ["SHIPMENT", "OUTBOUND_SHIP"]

/-- The warehouses the ledger ships a reference from. -/
def shippedWarehouses (orderRef : String) (db : Db) : List Int :=
  let rows := db.stockLedger.rows.filter fun r =>
    r.key.ref = orderRef ∧ r.delta < 0 ∧ r.key.reason ∈ returnShipReasons
  (rows.map fun r => r.key.slot.warehouseId).dedup.insertionSort (· ≤ ·)

/-- `_load_return_source_warehouse`. -/
def loadReturnSourceWarehouse (orderRef : String) (db : OmsDb) :
    Except Err (Int × Option String) :=
  match shippedWarehouses orderRef db.wms with
  | [] => .error (.http 409 "return_order_has_no_shipped_facts")
  | [warehouseId] => .ok (warehouseId, db.warehouseNames.lookup warehouseId)
  | a :: b :: _ => .error (.http 409 s!"return_order_multi_warehouse:{a},{b}")

/-- The order of preference among the units of an item. -/
def ItemUom.inboundRank (u : ItemUom) : Nat :=
  if u.isInboundDefault then 0 else if u.isBase then 1 else 2

/-- The unit an item is received in. -/
def inboundUom (itemId : Int) (db : Db) : Option ItemUom :=
  ((db.itemUoms.rows.filter fun u => u.itemId = itemId).insertionSort fun a b =>
    a.inboundRank < b.inboundRank ∨ (a.inboundRank = b.inboundRank ∧ a.id ≤ b.id)).head?

/-- What was shipped of an order item and may still come back. -/
def OrderItem.remainingRefundable (oi : OrderItem) : Int := max (oi.shippedQty - oi.returnedQty) 0

/-- `InboundReceiptReturnSourceLineOut`. -/
structure ReturnSourceLine where
  orderLineId : Int
  itemId : Int
  itemNameSnapshot : Option String
  itemSpecSnapshot : Option String
  itemUomId : Int
  uomNameSnapshot : Option String
  ratioToBaseSnapshot : Int
  qtyOrdered : Int
  qtyShipped : Int
  qtyReturned : Int
  qtyRemainingRefundable : Int
  suggestedPlannedQty : Int

/-- The bounds of the fields. -/
def ReturnSourceLine.Valid (l : ReturnSourceLine) : Prop :=
  1 ≤ l.orderLineId ∧ 1 ≤ l.itemId ∧ 1 ≤ l.itemUomId ∧ 1 ≤ l.ratioToBaseSnapshot ∧
    0 ≤ l.qtyOrdered ∧ 0 ≤ l.qtyShipped ∧ 0 ≤ l.qtyReturned ∧
    0 ≤ l.qtyRemainingRefundable ∧ 0 ≤ l.suggestedPlannedQty

instance ReturnSourceLine.decidableValid (l : ReturnSourceLine) : Decidable l.Valid := inferInstanceAs (Decidable (_ ∧ _))

/-- A row of the source query before it is checked. -/
def returnSourceRow (db : OmsDb) (oi : OrderItem) (u : ItemUom) : ReturnSourceLine :=
  let item := db.wms.items.lookup oi.itemId
  { orderLineId := oi.id, itemId := oi.itemId
    itemNameSnapshot := (item.map Item.name).or oi.title
    itemSpecSnapshot := item.bind Item.spec
    itemUomId := u.id, uomNameSnapshot := some u.shownName
    ratioToBaseSnapshot := if u.ratioToBase = 0 then 1 else u.ratioToBase
    qtyOrdered := oi.qty, qtyShipped := oi.shippedQty, qtyReturned := oi.returnedQty
    qtyRemainingRefundable := oi.remainingRefundable
    suggestedPlannedQty := oi.remainingRefundable }

/-- One line of the source. -/
def returnSourceLine (db : OmsDb) (oi : OrderItem) : Except Err ReturnSourceLine := do
  let u ← demandSome ((inboundUom oi.itemId db.wms).filter fun u => 0 < u.id)
    (.http 409 s!"item_has_no_inbound_uom:item_id={oi.itemId}")
  let row := returnSourceRow db oi u
  demand row.Valid (.valueError "InboundReceiptReturnSourceLineOut")
  return row

/-- The items of an order that may come back, `ORDER BY oi.id`. -/
def refundableItems (orderId : Int) (db : OmsDb) : List OrderItem :=
  (db.orderItems.rows.filter fun oi =>
    oi.orderId = orderId ∧ 0 < oi.remainingRefundable).insertionSort fun a b => a.id ≤ b.id

/-- The receipt of an order that is not voided, the latest first. -/
def existingReturnReceipt (orderId : Int) (db : Db) : Option InboundReceipt :=
  ((db.inboundReceipts.rows.filter fun r => r.sourceType = .returnOrder ∧
    r.sourceDocId = some orderId ∧ r.status ≠ .voided).insertionSort fun a b => b.id ≤ a.id).head?

/-- `InboundReceiptReturnSourceOut`. -/
structure ReturnSource where
  order : OrderHead
  warehouseId : Int
  warehouseNameSnapshot : Option String
  remainingQty : Int
  existing : Option InboundReceipt
  lines : List ReturnSourceLine

/-- The bounds of the fields. -/
def ReturnSource.Valid (s : ReturnSource) : Prop :=
  1 ≤ s.order.id ∧ s.order.orderRef.length ≤ 128 ∧ 1 ≤ s.warehouseId ∧ 0 ≤ s.remainingQty

instance ReturnSource.decidableValid (s : ReturnSource) : Decidable s.Valid := inferInstanceAs (Decidable (_ ∧ _))

/-- `get_inbound_return_source_repo`. -/
def getInboundReturnSource (orderKey : String) (db : OmsDb) : Except Err ReturnSource := do
  let order ← resolveOrderIdentity orderKey db
  let (warehouseId, warehouseName) ← loadReturnSourceWarehouse order.orderRef db
  let items := refundableItems order.id db
  demand (items ≠ []) (.http 409 "return_order_has_no_refundable_lines")
  let lines ← items.mapM (returnSourceLine db)
  let source : ReturnSource :=
    { order := order, warehouseId := warehouseId, warehouseNameSnapshot := warehouseName
      remainingQty := (lines.map ReturnSourceLine.qtyRemainingRefundable).sum
      existing := existingReturnReceipt order.id db.wms, lines := lines }
  demand source.Valid (.valueError "InboundReceiptReturnSourceOut")
  return source

/-! ## Writing the receipt -/

/-- The database with other receipts. -/
def OmsDb.withReceipts (db : OmsDb) (t : Table InboundReceipt.id) : OmsDb :=
  { db with wms := { db.wms with inboundReceipts := t } }

/-- The database with other receipt lines. -/
def OmsDb.withReceiptLines (db : OmsDb)
    (t : Table (fun l : InboundReceiptLine => (l.inboundReceiptId, l.lineNo))) : OmsDb :=
  { db with wms := { db.wms with inboundReceiptLines := t } }

/-- The insert into `inbound_receipts`. -/
def insertInboundReceipt (r : InboundReceipt) (db : OmsDb) : Except Err OmsDb := do
  demand (¬ db.wms.inboundReceipts.HasKey r.id) (.integrity "inbound_receipts_pkey")
  demand (∀ s ∈ db.wms.inboundReceipts.rows, s.receiptNo ≠ r.receiptNo)
    (.integrity "uq_inbound_receipts_receipt_no")
  demand (db.wms.warehouses.HasKey r.warehouseId) (.integrity "fk_inbound_receipts_warehouse")
  return db.withReceipts (db.wms.inboundReceipts.insert r)

/-- The insert into `inbound_receipt_lines`. -/
def insertInboundReceiptLine (l : InboundReceiptLine) (db : OmsDb) : Except Err OmsDb := do
  demand (0 < l.plannedQty) (.integrity "ck_inbound_receipt_lines_planned_qty_positive")
  demand (0 < l.ratioToBaseSnapshot) (.integrity "ck_inbound_receipt_lines_ratio_positive")
  demand (¬ db.wms.inboundReceiptLines.HasKey (l.inboundReceiptId, l.lineNo))
    (.integrity "uq_inbound_receipt_lines_receipt_line")
  demand (db.wms.inboundReceipts.HasKey l.inboundReceiptId)
    (.integrity "fk_inbound_receipt_lines_receipt")
  demand (db.wms.items.HasKey l.itemId) (.integrity "fk_inbound_receipt_lines_item")
  demand (db.wms.itemUoms.HasKey l.itemUomId) (.integrity "fk_inbound_receipt_lines_item_uom")
  return db.withReceiptLines (db.wms.inboundReceiptLines.insert l)

/-- What the clock, uuid4 and the sequence draw for a receipt. -/
structure ReturnReceiptDraws where
  receiptId : Int
  stamp : String
  suffix : String

/-- `_new_return_receipt_no`. -/
def newReturnReceiptNo (orderId : Int) (c : ReturnReceiptDraws) : String :=
  s!"IR-RO-{orderId}-{c.stamp}-{c.suffix}"

/-- Whom the goods come back from. -/
def OrderHead.counterparty (o : OrderHead) : Option String :=
  if o.platform ≠ "" ∧ o.storeCode ≠ "" then some s!"{o.platform}:{o.storeCode}"
  else if o.platform ≠ "" then some o.platform
  else if o.storeCode ≠ "" then some o.storeCode
  else none

/-- The head of the receipt. -/
def returnReceiptHead (source : ReturnSource) (c : ReturnReceiptDraws) : InboundReceipt :=
  { id := c.receiptId, receiptNo := newReturnReceiptNo source.order.id c
    sourceType := .returnOrder, sourceDocId := some source.order.id
    warehouseId := source.warehouseId, warehouseNameSnapshot := source.warehouseNameSnapshot
    supplierId := none, counterpartyNameSnapshot := source.order.counterparty
    status := .draft }

/-- The line of the receipt for a line of the payload. -/
def returnReceiptLine (receiptId lineNo : Int) (src : ReturnSourceLine)
    (line : ReturnReceiptLineIn) : InboundReceiptLine :=
  { inboundReceiptId := receiptId, lineNo := lineNo, sourceLineId := some line.orderLineId
    itemId := src.itemId, itemUomId := src.itemUomId, plannedQty := line.plannedQty
    itemNameSnapshot := src.itemNameSnapshot, itemSpecSnapshot := src.itemSpecSnapshot
    uomNameSnapshot := src.uomNameSnapshot, ratioToBaseSnapshot := src.ratioToBaseSnapshot }

/-- The checks of one line of the payload, `seen` being the lines before it. -/
def checkReturnLine (source : ReturnSource) (seen : List Int) (line : ReturnReceiptLineIn) :
    Except Err ReturnSourceLine := do
  demand (line.orderLineId ∉ seen) (.http 409 s!"duplicate_return_order_line:{line.orderLineId}")
  let src ← demandSome (source.lines.find? fun s => s.orderLineId = line.orderLineId)
    (.http 404 s!"return_order_line_not_found:{line.orderLineId}")
  demand (src.itemId = line.itemId) (.http 409
    s!"return_order_line_item_mismatch:order_line_id={line.orderLineId},source_item_id={src.itemId},payload_item_id={line.itemId}")
  demand (line.plannedQty ≤ src.qtyRemainingRefundable) (.http 409
    s!"return_qty_exceeds_remaining:order_line_id={line.orderLineId},remaining={src.qtyRemainingRefundable},planned={line.plannedQty}")
  return src

/-- The loop over the lines of the payload. -/
def insertReturnReceiptLines (source : ReturnSource) (receiptId : Int) :
    Int → List Int → List ReturnReceiptLineIn → OmsDb → Except Err OmsDb
  | _, _, [], db => .ok db
  | lineNo, seen, line :: rest, db => do
      let src ← checkReturnLine source seen line
      let db ← insertInboundReceiptLine (returnReceiptLine receiptId lineNo src line) db
      insertReturnReceiptLines source receiptId (lineNo + 1) (line.orderLineId :: seen) rest db

/-- `InboundReceiptReadOut`. -/
structure InboundReceiptReadOut where
  receipt : InboundReceipt
  lines : List InboundReceiptLine

/-- `get_inbound_receipt_repo`. -/
def getInboundReceipt (receiptId : Int) (db : Db) : Except Err InboundReceiptReadOut := do
  let receipt ← demandSome (db.inboundReceipts.lookup receiptId)
    (.http 404 "inbound_receipt_not_found")
  let lines := db.inboundReceiptLines.rows.filter fun l => l.inboundReceiptId = receiptId
  return ⟨receipt, lines.insertionSort fun a b => a.lineNo ≤ b.lineNo⟩

/-- `create_inbound_receipt_from_return_order_repo`. -/
def createInboundReceiptFromReturnOrder (payload : ReturnReceiptIn) (c : ReturnReceiptDraws)
    (db : OmsDb) : Except Err (InboundReceiptReadOut × OmsDb) := do
  let source ← getInboundReturnSource payload.orderKey db
  match source.existing with
  | some existing => .error (.http 409 s!"inbound_receipt_already_exists:{existing.receiptNo}")
  | none =>
      demand (source.lines ≠ []) (.http 409 "return_order_has_no_refundable_lines")
      let db ← insertInboundReceipt (returnReceiptHead source c) db
      let db ← insertReturnReceiptLines source c.receiptId 1 [] payload.lines db
      let out ← getInboundReceipt c.receiptId db.wms
      return (out, db)

end WmsDu
