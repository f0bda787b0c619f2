import WmsDu.Data.Sorting
import WmsDu.Procurement.Schema
import WmsDu.Returns.Receipt
import WmsDu.Txn.Stmt

/-!
# Creating and releasing inbound receipts

`create_inbound_receipt_from_purchase_repo`,
`create_inbound_receipt_from_return_order_repo` and
`release_inbound_receipt_repo`, statement by statement, over the databases of
orders, purchases and receipts.
-/

namespace WmsDu

open Txn

/-! ## The database -/

/-- The order database with the purchase tables. -/
structure ReceiptDb where
  oms : OmsDb
  suppliers : Table Supplier.id := .empty
  purchaseOrders : Table PurchaseOrder.id := .empty
  purchaseOrderLines : Table PurchaseOrderLine.id := .empty
  /-- `purchase_order_lines.spec_text`, by line. -/
  specTexts : List (Int × String) := []

namespace ReceiptDb

/-- The receipts. -/
abbrev receipts (db : ReceiptDb) : Table InboundReceipt.id := db.oms.wms.inboundReceipts

/-- The database with other receipts and receipt lines. -/
def withReceipts (db : ReceiptDb) (t : Table InboundReceipt.id)
    (u : Table (fun l : InboundReceiptLine => (l.inboundReceiptId, l.lineNo))) : ReceiptDb :=
  { db with
    oms := { db.oms with
      wms := { db.oms.wms with inboundReceipts := t, inboundReceiptLines := u } } }

end ReceiptDb

/-! ## Records -/

inductive ReceiptRedo
  | receiptInsert (r : InboundReceipt)
  | lineInsert (l : InboundReceiptLine)
  /-- `… SET status = 'RELEASED' WHERE id = :receipt_id AND status = 'DRAFT'`. -/
  | release (id : Int)

def ReceiptRedo.apply (u : ReceiptRedo) (db : ReceiptDb) : ReceiptDb :=
  let receipts := db.receipts
  let lines := db.oms.wms.inboundReceiptLines
  match u with
  | .receiptInsert r => db.withReceipts (receipts.insert r) lines
  | .lineInsert l => db.withReceipts receipts (lines.insert l)
  | .release id =>
      db.withReceipts (receipts.update (fun r => r.id = id ∧ r.status = .draft)
        (fun r => { r with status := .released }) fun _ => rfl) lines

inductive ReceiptLock
  | receipt (id : Int)
  | receiptNo (no : String)
  | line (receiptId lineNo : Int)
deriving DecidableEq

instance : RedoLog ReceiptRedo ReceiptDb ReceiptLock where
  apply := ReceiptRedo.apply
  guards
    | .receiptInsert r => [.receipt r.id, .receiptNo r.receiptNo]
    | .lineInsert l => [.line l.inboundReceiptId l.lineNo]
    | .release id => [.receipt id]

abbrev ReceiptTx := Prog (Stmt ReceiptDb ReceiptRedo Err) Err

/-! ## Statements -/

/-- The insert of a head. -/
def insertReceipt (r : InboundReceipt) : ReceiptTx Unit :=
  Prog.write fun db => do
    let _ ← insertInboundReceipt r db.oms
    demand (∀ s ∈ r.supplierId, db.suppliers.HasKey s) (.integrity "fk_inbound_receipts_supplier")
    return ((), [.receiptInsert r])

/-- The insert of a line. -/
def insertReceiptLine (l : InboundReceiptLine) : ReceiptTx Unit :=
  Prog.write fun db => do
    let _ ← insertInboundReceiptLine l db.oms
    return ((), [.lineInsert l])

/-- The receipt of a source that is not voided, the latest first. -/
def existingReceipt (sourceType : ReceiptSourceType) (sourceDocId : Int) (db : Db) :
    Option InboundReceipt :=
  ((db.inboundReceipts.rows.filter fun r => r.sourceType = sourceType ∧
    r.sourceDocId = some sourceDocId ∧ r.status ≠ .voided).insertionSort fun a b => b.id ≤ a.id).head?

theorem existingReturnReceipt_eq (orderId : Int) (db : Db) :
    existingReturnReceipt orderId db = existingReceipt .returnOrder orderId db := rfl

/-- The conflict with a receipt that exists. -/
def refuseExisting : Option InboundReceipt → ReceiptTx Unit
  | none => return ()
  | some r => Prog.raise (.http 409 s!"inbound_receipt_already_exists:{r.receiptNo}")

/-- The receipt as it is answered. -/
def readReceipt (receiptId : Int) : ReceiptTx InboundReceiptReadOut := do
  let out ← Prog.read fun db => getInboundReceipt receiptId db.oms.wms
  Prog.ofExcept out

/-! ## From a purchase order -/

/-- `InboundReceiptCreateFromPurchaseIn`. -/
structure PurchaseReceiptIn where
  sourceDocId : Int
  warehouseId : Int
  sourceDocId_ge : 1 ≤ sourceDocId := by decide
  warehouseId_ge : 1 ≤ warehouseId := by decide

/-- `_new_receipt_no`. -/
def newReceiptNo (poId : Int) (c : ReturnReceiptDraws) : String :=
  s!"IR-PO-{poId}-{c.stamp}-{c.suffix}"

/-- The head of the receipt. -/
def purchaseReceiptHead (po : PurchaseOrder) (warehouseId : Int) (warehouseName : Option String)
    (c : ReturnReceiptDraws) : InboundReceipt :=
  { id := c.receiptId, receiptNo := newReceiptNo po.id c
    sourceType := .purchaseOrder, sourceDocId := some po.id
    warehouseId := warehouseId, warehouseNameSnapshot := warehouseName
    supplierId := some po.supplierId, counterpartyNameSnapshot := some po.supplierName
    status := .draft }

/-- The line of the receipt for a line of the order. -/
def purchaseReceiptLine (receiptId : Int) (row : PurchaseOrderLine) (spec : Option String) :
    InboundReceiptLine :=
  { inboundReceiptId := receiptId, lineNo := row.lineNo, sourceLineId := some row.id
    itemId := row.itemId, itemUomId := row.purchaseUomIdSnapshot
    plannedQty := row.qtyOrderedInput, itemNameSnapshot := some row.itemName
    itemSpecSnapshot := spec, uomNameSnapshot := some row.purchaseUomNameSnapshot
    ratioToBaseSnapshot := row.purchaseRatioToBaseSnapshot }

/-- The lines of an order with their spec texts, `ORDER BY line_no`. -/
def ReceiptDb.poLines (db : ReceiptDb) (poId : Int) : List (PurchaseOrderLine × Option String) :=
  (sortOn (fun l : PurchaseOrderLine => l.lineNo)
    (db.purchaseOrderLines.rows.filter fun l => l.poId = poId)).map
      fun l => (l, db.specTexts.lookup l.id)

def insertReceiptLines : List InboundReceiptLine → ReceiptTx Unit
  | [] => return ()
  | l :: rest => do
      insertReceiptLine l
      insertReceiptLines rest

/-- `create_inbound_receipt_from_purchase_repo`. -/
def createReceiptFromPurchase (payload : PurchaseReceiptIn) (c : ReturnReceiptDraws) :
    ReceiptTx InboundReceiptReadOut := do
  let po ← Prog.read fun db => db.purchaseOrders.lookup payload.sourceDocId
  let po ← Prog.requireSome po (.http 404 "purchase_order_not_found")
  Prog.require (po.status = .created) (.http 409 s!"purchase_order_not_creatable:{po.status.text}")
  Prog.require (po.warehouseId = payload.warehouseId) (.http 409
    s!"purchase_order_warehouse_mismatch:po={po.warehouseId},payload={payload.warehouseId}")
  let existing ← Prog.read fun db => existingReceipt .purchaseOrder payload.sourceDocId db.oms.wms
  refuseExisting existing
  let lines ← Prog.read fun db => db.poLines payload.sourceDocId
  Prog.require (lines.isEmpty = false) (.http 409 "purchase_order_has_no_lines")
  let warehouseName ← Prog.read fun db => db.oms.warehouseNames.lookup payload.warehouseId
  insertReceipt (purchaseReceiptHead po payload.warehouseId warehouseName c)
  insertReceiptLines (lines.map fun l => purchaseReceiptLine c.receiptId l.1 l.2)
  readReceipt c.receiptId

/-! ## From a return order -/

/-- The loop over the lines of the payload. -/
def insertReturnOrderLines (source : ReturnSource) (receiptId : Int) :
    Int → List Int → List ReturnReceiptLineIn → ReceiptTx Unit
  | _, _, [] => return ()
  | lineNo, seen, line :: rest => do
      let src ← Prog.ofExcept (checkReturnLine source seen line)
      insertReceiptLine (returnReceiptLine receiptId lineNo src line)
      insertReturnOrderLines source receiptId (lineNo + 1) (line.orderLineId :: seen) rest

/-- `create_inbound_receipt_from_return_order_repo`. Of what the queries for
the source read, only receipts are written by the calls beside it. -/
def createReceiptFromReturnOrder (payload : ReturnReceiptIn) (c : ReturnReceiptDraws) :
    ReceiptTx InboundReceiptReadOut := do
  let source ← Prog.read fun db => getInboundReturnSource payload.orderKey db.oms
  let source ← Prog.ofExcept source
  refuseExisting source.existing
  Prog.require (source.lines ≠ []) (.http 409 "return_order_has_no_refundable_lines")
  insertReceipt (returnReceiptHead source c)
  insertReturnOrderLines source c.receiptId 1 [] payload.lines
  readReceipt c.receiptId

/-! ## Releasing -/

/-- `release_inbound_receipt_repo`. -/
def releaseReceipt (receiptId : Int) : ReceiptTx InboundReceipt := do
  let updated ← Prog.write fun db =>
    match db.receipts.lookup receiptId with
    | some r =>
        if r.status = .draft then .ok (some { r with status := .released }, [.release receiptId])
        else .ok (none, [])
    | none => .ok (none, [])
  match updated with
  | some r => return r
  | none => do
      let existing ← Prog.read fun db => db.receipts.lookup receiptId
      let existing ← Prog.requireSome existing (.http 404 "inbound_receipt_not_found")
      Prog.require (existing.status = .released)
        (.http 409 s!"inbound_receipt_not_releasable:{existing.status.text}")
      return existing

/-! ## Calls -/

inductive ReceiptCall
  | fromPurchase (payload : PurchaseReceiptIn) (draws : ReturnReceiptDraws)
  | fromReturnOrder (payload : ReturnReceiptIn) (draws : ReturnReceiptDraws)
  | release (receiptId : Int)

def ReceiptCall.prog : ReceiptCall → ReceiptTx Unit
  | .fromPurchase payload c => do
      let _ ← createReceiptFromPurchase payload c
      return ()
  | .fromReturnOrder payload c => do
      let _ ← createReceiptFromReturnOrder payload c
      return ()
  | .release receiptId => do
      let _ ← releaseReceipt receiptId
      return ()

end WmsDu
