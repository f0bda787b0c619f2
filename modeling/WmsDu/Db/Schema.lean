import WmsDu.Data.Table
import WmsDu.Shared.Dates
import WmsDu.Shared.Text

/-!
# The warehouse database

The tables the stock services read and write, one row type a table, under the
column names of the source. Columns that no modelled service reads or returns
(audit timestamps, display-only columns of the master data) are left out, as
are column widths. A row's surrogate id is kept where another table or a
service names it.
-/

namespace WmsDu

/-- Points in time, as an opaque count. -/
abbrev Timestamp := Int

/-! ## Errors -/

/-- What a service can raise. -/
inductive Err
  /-- Python's `ValueError`. -/
  | valueError (message : String)
  | lookupError (message : String)
  | runtimeError (message : String)
  /-- `HTTPException` with a text detail. -/
  | http (statusCode : Nat) (detail : String)
  /-- A problem answer: `HTTPException` whose detail carries an error code. -/
  | problem (statusCode : Nat) (errorCode message : String) (details : List (String × String))
  /-- A violated constraint of the database. -/
  | integrity (constraint : String)
deriving DecidableEq, Repr

/-! ## Keys -/

/-- A stock slot: `(warehouse_id, item_id, lot_id)`. -/
structure Slot where
  warehouseId : Int
  itemId : Int
  lotId : Int
deriving DecidableEq, Repr

/-- The unique key of `stock_ledger`,
`(reason, ref, ref_line, item_id, warehouse_id, lot_id)`. -/
structure IdemKey where
  reason : String
  ref : String
  refLine : Int
  slot : Slot
deriving DecidableEq, Repr

/-! ## Master data -/

inductive ExpiryPolicy
  | none | required
deriving DecidableEq, Repr

inductive LotSourcePolicy
  | internalOnly | supplierOnly
deriving DecidableEq, Repr

/-- The policy columns of `items`, which lots freeze a copy of. -/
structure ItemPolicy where
  expiryPolicy : ExpiryPolicy
  shelfLifeValue : Option Int
  shelfLifeUnit : Option ShelfLifeUnit
  lotSourcePolicy : LotSourcePolicy
  derivationAllowed : Bool
  uomGovernanceEnabled : Bool
deriving DecidableEq, Repr

structure Item where
  id : Int
  sku : String
  name : String
  spec : Option String
  policy : ItemPolicy
  supplierId : Option Int := none

structure ItemUom where
  id : Int
  itemId : Int
  uom : String
  displayName : Option String
  ratioToBase : Int
  isBase : Bool
  isInboundDefault : Bool := false

structure ItemBarcode where
  id : Int
  itemId : Int
  itemUomId : Int
  barcode : String
  active : Bool
  isPrimary : Bool

/-- The name a unit is shown under: `COALESCE(NULLIF(display_name, ''), uom)`. -/
def ItemUom.shownName (u : ItemUom) : String := (u.displayName.bind orNone).getD u.uom

/-! ## Lots and books -/

inductive LotCodeSource
  | supplier | internal
deriving DecidableEq, Repr

structure Lot where
  id : Int
  warehouseId : Int
  itemId : Int
  lotCodeSource : LotCodeSource
  lotCode : Option String
  productionDate : Option Date
  expiryDate : Option Date
  sourceReceiptId : Option Int
  sourceLineNo : Option Int
  itemPolicySnapshot : ItemPolicy

/-- The slot a lot's stock is kept in. -/
def Lot.slot (lot : Lot) : Slot := ⟨lot.warehouseId, lot.itemId, lot.id⟩

/-- `stocks_lot`: the balance of one slot. -/
structure StocksLotRow where
  slot : Slot
  qty : Int
deriving DecidableEq, Repr

/-- `stock_ledger`: one movement of one slot. -/
structure StockLedgerRow where
  key : IdemKey
  reasonCanon : Option String
  subReason : Option String
  delta : Int
  afterQty : Int
  occurredAt : Timestamp
  traceId : Option String
  eventId : Option Int
  productionDate : Option Date
  expiryDate : Option Date
deriving Repr

abbrev StockLedgerRow.slot (row : StockLedgerRow) : Slot := row.key.slot

/-! ## Events -/

inductive EventType
  | inbound | outbound | count
deriving DecidableEq, Repr

inductive EventKind
  | commit | reversal | correction
deriving DecidableEq, Repr

inductive EventStatus
  | committed | voided | superseded
deriving DecidableEq, Repr

inductive SourceType
  | purchaseOrder | manual | return | transferIn | adjustIn | order | orderShip
  | internalOutbound | transferOut | scrap | adjustOut | countTask | manualCount
deriving DecidableEq, Repr

/-- The stored text of a source type. -/
def SourceType.value : SourceType → String
  | .purchaseOrder => "PURCHASE_ORDER"
  | .manual => "MANUAL"
  | .return => "RETURN"
  | .transferIn => "TRANSFER_IN"
  | .adjustIn => "ADJUST_IN"
  | .order => "ORDER"
  | .orderShip => "ORDER_SHIP"
  | .internalOutbound => "INTERNAL_OUTBOUND"
  | .transferOut => "TRANSFER_OUT"
  | .scrap => "SCRAP"
  | .adjustOut => "ADJUST_OUT"
  | .countTask => "COUNT_TASK"
  | .manualCount => "MANUAL_COUNT"

structure WmsEvent where
  id : Int
  eventNo : String
  eventType : EventType
  warehouseId : Int
  sourceType : SourceType
  sourceRef : Option String
  occurredAt : Timestamp
  traceId : String
  eventKind : EventKind
  targetEventId : Option Int
  status : EventStatus
  createdBy : Option Int
  remark : Option String

structure OutboundEventLine where
  eventId : Int
  refLine : Int
  itemId : Int
  qtyOutbound : Int
  lotId : Int
  lotCodeSnapshot : Option String
  orderLineId : Option Int
  manualDocLineId : Option Int
  itemNameSnapshot : Option String
  itemSkuSnapshot : Option String
  itemSpecSnapshot : Option String
  remark : Option String

structure InboundEventLine where
  eventId : Int
  lineNo : Int
  itemId : Int
  itemNameSnapshot : Option String
  itemSpecSnapshot : Option String
  actualUomId : Int
  actualUomNameSnapshot : Option String
  barcodeInput : Option String
  actualQtyInput : Int
  actualRatioToBaseSnapshot : Int
  qtyBase : Int
  lotCodeInput : Option String
  productionDate : Option Date
  expiryDate : Option Date
  lotId : Option Int
  poLineId : Option Int
  remark : Option String

/-! ## Outbound documents -/

structure OrderHead where
  id : Int
  platform : String
  storeCode : String
  extOrderNo : String

structure OrderLine where
  id : Int
  orderId : Int
  itemId : Int
  reqQty : Int

inductive ManualDocStatus
  | draft | released | completed | voided
deriving DecidableEq, Repr

structure ManualOutboundDoc where
  id : Int
  warehouseId : Int
  docNo : String
  status : ManualDocStatus

structure ManualOutboundLine where
  id : Int
  docId : Int
  lineNo : Int
  itemId : Int
  requestedQty : Int
  itemNameSnapshot : Option String
  itemSkuSnapshot : Option String
  itemSpecSnapshot : Option String

/-! ## Inbound tasks and purchase completion -/

inductive ReceiptSourceType
  | purchaseOrder | manual | returnOrder
deriving DecidableEq, Repr

inductive ReceiptStatus
  | draft | released | completed | voided
deriving DecidableEq, Repr

structure InboundReceipt where
  id : Int
  receiptNo : String
  sourceType : ReceiptSourceType
  sourceDocId : Option Int
  warehouseId : Int
  warehouseNameSnapshot : Option String
  supplierId : Option Int
  counterpartyNameSnapshot : Option String
  status : ReceiptStatus

structure InboundReceiptLine where
  inboundReceiptId : Int
  lineNo : Int
  sourceLineId : Option Int
  itemId : Int
  itemUomId : Int
  plannedQty : Int
  itemNameSnapshot : Option String
  itemSpecSnapshot : Option String
  uomNameSnapshot : Option String
  ratioToBaseSnapshot : Int

structure WmsInboundOperation where
  id : Int
  receiptNoSnapshot : String
  warehouseId : Int
  warehouseNameSnapshot : Option String
  supplierId : Option Int
  supplierNameSnapshot : Option String
  operatorId : Option Int
  operatorNameSnapshot : Option String
  operatedAt : Timestamp
  remark : Option String

structure WmsInboundOperationLine where
  id : Int
  wmsInboundOperationId : Int
  receiptLineNoSnapshot : Int
  itemId : Int
  itemNameSnapshot : Option String
  itemSpecSnapshot : Option String
  actualItemUomId : Int
  actualUomNameSnapshot : Option String
  actualRatioToBaseSnapshot : Int
  actualQtyInput : Int
  qtyBase : Int
  batchNo : Option String
  productionDate : Option Date
  expiryDate : Option Date
  lotId : Option Int
  remark : Option String

inductive CompletionStatus
  | notReceived | partialReceived | received
deriving DecidableEq, Repr

/-- `purchase_order_line_completion`, the columns inbound commits maintain. -/
structure PoLineCompletion where
  poLineId : Int
  poId : Int
  qtyOrderedBase : Int
  qtyReceivedBase : Int
  qtyRemainingBase : Int
  lineCompletionStatus : CompletionStatus
  lastReceivedAt : Option Timestamp

/-! ## Count documents -/

inductive CountDocStatus
  | draft | frozen | counted | posted | voided
deriving DecidableEq, Repr

structure CountDoc where
  id : Int
  countNo : String
  warehouseId : Int
  snapshotAt : Timestamp
  status : CountDocStatus
  postedEventId : Option Int
  createdBy : Option Int
  countedByNameSnapshot : Option String
  reviewedByNameSnapshot : Option String
  remark : Option String
  createdAt : Timestamp
  countedAt : Option Timestamp
  postedAt : Option Timestamp

structure CountDocLine where
  id : Int
  docId : Int
  lineNo : Int
  itemId : Int
  itemNameSnapshot : Option String
  itemSpecSnapshot : Option String
  snapshotQtyBase : Int
  countedItemUomId : Option Int
  countedUomNameSnapshot : Option String
  countedRatioToBaseSnapshot : Option Int
  countedQtyInput : Option Int
  countedQtyBase : Option Int
  diffQtyBase : Option Int

structure CountDocLineLotSnapshot where
  lineId : Int
  lotId : Int
  lotCodeSnapshot : Option String
  snapshotQtyBase : Int

/-! ## Return tasks -/

inductive ReturnStatus
  | opened | committed
deriving DecidableEq, Repr

structure ReturnTask where
  id : Int
  orderId : String
  warehouseId : Int
  status : ReturnStatus
  remark : Option String
  updatedAt : Option Timestamp

structure ReturnTaskLine where
  id : Int
  taskId : Int
  orderLineId : Option Int
  itemId : Int
  lotId : Int
  lotCodeSnapshot : String
  expectedQty : Option Int
  pickedQty : Int
  committedQty : Option Int
  status : ReturnStatus
  remark : Option String

/-! ## Snapshots and the event log -/

structure StockSnapshot where
  snapshotDate : Date
  slot : Slot
  qty : Int

structure EventLogRow where
  id : Int
  source : String
  message : String
  occurredAt : Timestamp

/-! ## The database -/

/-- The whole database. -/
structure Db where
  warehouses : Table (id : Int → Int) := .empty
  items : Table Item.id := .empty
  itemUoms : Table ItemUom.id := .empty
  itemBarcodes : Table ItemBarcode.id := .empty
  lots : Table Lot.id := .empty
  stocksLot : Table StocksLotRow.slot := .empty
  stockLedger : Table StockLedgerRow.key := .empty
  wmsEvents : Table WmsEvent.id := .empty
  outboundEventLines : Table (fun l : OutboundEventLine => (l.eventId, l.refLine)) := .empty
  inboundEventLines : Table (fun l : InboundEventLine => (l.eventId, l.lineNo)) := .empty
  orders : Table OrderHead.id := .empty
  orderLines : Table OrderLine.id := .empty
  manualOutboundDocs : Table ManualOutboundDoc.id := .empty
  manualOutboundLines : Table ManualOutboundLine.id := .empty
  inboundReceipts : Table InboundReceipt.id := .empty
  inboundReceiptLines :
    Table (fun l : InboundReceiptLine => (l.inboundReceiptId, l.lineNo)) := .empty
  wmsInboundOperations : Table WmsInboundOperation.id := .empty
  wmsInboundOperationLines : Table WmsInboundOperationLine.id := .empty
  poLineCompletion : Table PoLineCompletion.poLineId := .empty
  countDocs : Table CountDoc.id := .empty
  countDocLines : Table CountDocLine.id := .empty
  countDocLineLotSnapshots :
    Table (fun s : CountDocLineLotSnapshot => (s.lineId, s.lotId)) := .empty
  returnTasks : Table ReturnTask.id := .empty
  returnTaskLines : Table ReturnTaskLine.id := .empty
  stockSnapshots : Table (fun s : StockSnapshot => (s.snapshotDate, s.slot)) := .empty
  eventLog : Table EventLogRow.id := .empty

namespace Db

/-- The balance of a slot; a slot without a row holds nothing. -/
def qtyOf (db : Db) (s : Slot) : Int :=
  sumOver (fun r : StocksLotRow => r.slot = s) StocksLotRow.qty db.stocksLot.rows

/-- The stock of an item in a warehouse, over all its lots. -/
def itemTotal (db : Db) (warehouseId itemId : Int) : Int :=
  sumOver (fun r : StocksLotRow => r.slot.warehouseId = warehouseId ∧ r.slot.itemId = itemId)
    StocksLotRow.qty db.stocksLot.rows

/-- The sum of a slot's ledger deltas. -/
def ledgerSum (db : Db) (s : Slot) : Int :=
  sumOver (fun r : StockLedgerRow => r.slot = s) StockLedgerRow.delta db.stockLedger.rows

/-- The foreign key `(lot_id, warehouse_id, item_id)` of the two books. -/
def HasLotDims (db : Db) (s : Slot) : Prop := ∃ lot ∈ db.lots.rows, lot.slot = s

instance (db : Db) (s : Slot) : Decidable (db.HasLotDims s) :=
  inferInstanceAs (Decidable (∃ lot ∈ db.lots.rows, lot.slot = s))

end Db

end WmsDu
