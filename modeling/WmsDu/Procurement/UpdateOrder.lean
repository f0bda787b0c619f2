import WmsDu.Inbound.Commit
import WmsDu.Procurement.Schema

/-!
# Updating a purchase order

`update_po_v2`: an order nothing was received for gets new lines, and the rows
of `purchase_order_line_completion` are rebuilt with them.
-/

namespace WmsDu

/-! ## Contract -/

/-- `PurchaseOrderUpdateLineV2`. -/
structure PurchaseOrderUpdateLineIn where
  lineNo : Int
  itemId : Int
  uomId : Int
  qtyInput : Int
  remark : Option String := none
  lineNo_pos : 0 < lineNo := by decide
  itemId_pos : 0 < itemId := by decide
  uomId_pos : 0 < uomId := by decide
  qtyInput_pos : 0 < qtyInput := by decide

/-- `PurchaseOrderUpdateV2`. -/
structure PurchaseOrderUpdateIn where
  supplierId : Int
  warehouseId : Int
  purchaser : String
  lines : List PurchaseOrderUpdateLineIn
  supplierId_pos : 0 < supplierId := by decide
  warehouseId_pos : 0 < warehouseId := by decide
  lines_ne_nil : lines ≠ [] := by simp

/-! ## Checks -/

/-- `_require_supplier_snapshot_via_pms`. -/
def requireSupplierSnapshot (db : PurchaseDb) (supplierId : Int) : Except Err (Int × String) := do
  let supplier ← demandSome (db.suppliers.lookup supplierId)
    (.valueError s!"supplier_id 不存在：未找到供应商（supplier_id={supplierId}）")
  let _ ← demand (supplier.active = true)
    (.valueError s!"supplier_id 已停用：不能用于新建或更新采购单（supplier_id={supplierId}）")
  return (supplier.id, strip supplier.name)

/-- `require_item_uom_ratio_to_base`. -/
def requireItemUomRatioToBase (db : Db) (itemId uomId : Int) : Except Err (Int × String) := do
  let u ← demandSome (uomOfItem db itemId uomId)
    (.valueError s!"uom_id 不存在或不属于该商品：item_id={itemId} uom_id={uomId}")
  let _ ← demand (0 < u.ratioToBase) (.valueError "item_uoms.ratio_to_base 必须 >= 1")
  let uomName := strip u.shownName
  let _ ← demand (uomName ≠ "") (.valueError "item_uoms.display_name/uom 不能为空")
  return (u.ratioToBase, uomName)

/-- One line of the loop in `_normalize_update_payload`; `seen` are the line
numbers so far. -/
def normalizeUpdateLine (db : PurchaseDb) (poSupplierId : Int) (seen : List Int)
    (raw : PurchaseOrderUpdateLineIn) : Except Err PurchaseLineValues := do
  let _ ← demand (0 < raw.lineNo) (.valueError "line_no 必须 > 0")
  let _ ← demand (raw.lineNo ∉ seen) (.valueError s!"line_no 重复：{raw.lineNo}")
  let it ← demandSome (db.wms.items.lookup raw.itemId)
    (.valueError s!"商品不存在：item_id={raw.itemId}")
  let itSupplierId := it.supplierId.getD 0
  let _ ← demand (itSupplierId = 0 ∨ itSupplierId = poSupplierId) (.valueError "商品不属于当前供应商")
  let (ratioToBase, uomName) ← requireItemUomRatioToBase db.wms raw.itemId raw.uomId
  let qtyOrderedBase := raw.qtyInput * ratioToBase
  let _ ← demand (0 < qtyOrderedBase) (.valueError "行 qty_ordered_base 必须 > 0")
  return {
    lineNo := raw.lineNo, itemId := raw.itemId, itemName := it.name, itemSku := it.sku
    purchaseUomIdSnapshot := raw.uomId, purchaseUomNameSnapshot := uomName
    purchaseRatioToBaseSnapshot := ratioToBase, qtyOrderedInput := raw.qtyInput
    qtyOrderedBase := qtyOrderedBase, remark := cleanText raw.remark }

/-- The loop. -/
def normalizeUpdateLines (db : PurchaseDb) (poSupplierId : Int) :
    List Int → List PurchaseOrderUpdateLineIn → Except Err (List PurchaseLineValues)
  | _, [] => return []
  | seen, raw :: rest => do
      let line ← normalizeUpdateLine db poSupplierId seen raw
      let others ← normalizeUpdateLines db poSupplierId (raw.lineNo :: seen) rest
      return line :: others

/-- `has_po_confirmed_receipt`: a released task of the order. -/
def HasPoConfirmedReceipt (db : Db) (poId : Int) : Prop :=
  ∃ r ∈ db.inboundReceipts.rows, r.sourceType = .purchaseOrder ∧ r.sourceDocId = some poId ∧
    r.status = .released

instance (db : Db) (poId : Int) : Decidable (HasPoConfirmedReceipt db poId) :=
  inferInstanceAs (Decidable (∃ r ∈ db.inboundReceipts.rows, _))

/-- The events that count as received purchases. -/
def WmsEvent.IsPurchaseFact (e : WmsEvent) : Prop :=
  e.eventType = .inbound ∧ e.sourceType = .purchaseOrder ∧ e.eventKind = .commit ∧
    e.status = .committed

instance (e : WmsEvent) : Decidable e.IsPurchaseFact :=
  inferInstanceAs (Decidable (_ ∧ _ ∧ _ ∧ _))

/-- The line belongs to a received purchase. -/
def InboundEventLine.InPurchaseFact (l : InboundEventLine) (db : Db) : Prop :=
  ∃ e ∈ db.wmsEvents.rows, e.id = l.eventId ∧ e.IsPurchaseFact

instance (l : InboundEventLine) (db : Db) : Decidable (l.InPurchaseFact db) :=
  inferInstanceAs (Decidable (∃ e ∈ db.wmsEvents.rows, _))

/-- `has_po_committed_inbound_facts`. -/
def HasPoCommittedInboundFacts (db : PurchaseDb) (poId : Int) : Prop :=
  ∃ pol ∈ db.purchaseOrderLines.rows, pol.poId = poId ∧
    ∃ l ∈ db.wms.inboundEventLines.rows, l.poLineId = some pol.id ∧ l.InPurchaseFact db.wms

instance (db : PurchaseDb) (poId : Int) : Decidable (HasPoCommittedInboundFacts db poId) :=
  inferInstanceAs (Decidable (∃ pol ∈ db.purchaseOrderLines.rows, _))

/-- `_require_po_editable`. -/
def requirePoEditable (db : PurchaseDb) (po : PurchaseOrder) : Except Err Unit := do
  let _ ← demand (po.status = .created) (.http 409 s!"PO 状态不允许编辑：status={po.status.text}")
  let _ ← demand (¬ HasPoConfirmedReceipt db.wms po.id)
    (.http 409 "PO 已存在 CONFIRMED 收货单，禁止编辑")
  demand (¬ HasPoCommittedInboundFacts db po.id)
    (.http 409 "PO 已存在正式采购入库事实，禁止编辑")

/-! ## The order lines -/

namespace PurchaseDb

/-- The ids of the lines of an order. -/
def lineIds (db : PurchaseDb) (poId : Int) : List Int :=
  (db.purchaseOrderLines.rows.filter fun l => l.poId = poId).map PurchaseOrderLine.id

/-- `DELETE FROM purchase_order_lines WHERE po_id = :po_id`, with the foreign
keys on the lines: `ON DELETE SET NULL` of the event lines and
`ON DELETE CASCADE` of the completion rows. -/
def deleteLines (db : PurchaseDb) (poId : Int) : PurchaseDb :=
  { db with
    purchaseOrderLines := db.purchaseOrderLines.delete fun l => l.poId = poId
    wms := { db.wms with
      inboundEventLines := db.wms.inboundEventLines.update
        (fun l => ∃ p ∈ l.poLineId, p ∈ db.lineIds poId) (fun l => { l with poLineId := none })
        fun _ => rfl
      poLineCompletion := db.wms.poLineCompletion.delete
        fun c => c.poLineId ∈ db.lineIds poId } }

/-- The flush of a new line. -/
def insertLine (db : PurchaseDb) (l : PurchaseOrderLine) : Except Err PurchaseDb := do
  let _ ← demand (0 < l.qtyOrderedBase) (.integrity "ck_po_lines_qty_ordered_base_positive")
  let _ ← demand (¬ db.purchaseOrderLines.HasKey l.id) (.integrity "purchase_order_lines_pkey")
  let _ ← demand (∀ l' ∈ db.purchaseOrderLines.rows, ¬ (l'.poId = l.poId ∧ l'.lineNo = l.lineNo))
    (.integrity "uq_purchase_order_lines_po_id_line_no")
  let _ ← demand (db.purchaseOrders.HasKey l.poId) (.integrity "purchase_order_lines_po_id_fkey")
  let _ ← demand (db.wms.items.HasKey l.itemId) (.integrity "purchase_order_lines_item_id_fkey")
  let _ ← demand (db.wms.itemUoms.HasKey l.purchaseUomIdSnapshot)
    (.integrity "fk_po_line_purchase_uom")
  return { db with purchaseOrderLines := db.purchaseOrderLines.insert l }

/-- The new lines; `newLineId` is what the sequence draws for each. -/
def insertLines (db : PurchaseDb) (poId : Int) (newLineId : Int → Int) :
    List PurchaseLineValues → Except Err PurchaseDb
  | [] => return db
  | v :: rest => do
      let db ← db.insertLine { v with id := newLineId v.lineNo, poId := poId }
      db.insertLines poId newLineId rest

/-- `replace_purchase_order_lines`. -/
def replaceLines (db : PurchaseDb) (poId : Int) (newLineId : Int → Int)
    (lines : List PurchaseLineValues) : Except Err PurchaseDb :=
  (db.deleteLines poId).insertLines poId newLineId lines

/-! ## The completion rows -/

/-- `line_completion_status` as every writer computes it. -/
def completionStatus (received ordered : Int) : CompletionStatus :=
  if received ≤ 0 then .notReceived else if received < ordered then .partialReceived else .received

/-- The row `upsert_completion_rows_for_po` writes for a line over the old one. -/
def completionRow (l : PurchaseOrderLine) : Option PoLineCompletion → PoLineCompletion
  | none =>
      { poLineId := l.id, poId := l.poId, qtyOrderedBase := l.qtyOrderedBase
        qtyReceivedBase := 0, qtyRemainingBase := l.qtyOrderedBase
        lineCompletionStatus := .notReceived, lastReceivedAt := none }
  | some c =>
      { c with
        poId := l.poId, qtyOrderedBase := l.qtyOrderedBase
        qtyRemainingBase := max (l.qtyOrderedBase - c.qtyReceivedBase) 0
        lineCompletionStatus := completionStatus c.qtyReceivedBase l.qtyOrderedBase }

/-- One row of `upsert_completion_rows_for_po`. -/
def upsertCompletion (db : PurchaseDb) (l : PurchaseOrderLine) : PurchaseDb :=
  let row := completionRow l (db.wms.poLineCompletion.lookup l.id)
  { db with wms := { db.wms with poLineCompletion := db.wms.poLineCompletion.upsert row } }

/-- `upsert_completion_rows_for_po`: the lines of the order, joined with their
units. -/
def upsertCompletionRows (db : PurchaseDb) (poId : Int) : PurchaseDb :=
  (db.purchaseOrderLines.rows.filter fun l => l.poId = poId ∧
    db.wms.itemUoms.HasKey l.purchaseUomIdSnapshot).foldl upsertCompletion db

/-- `rebuild_completion_rows_for_po`. -/
def rebuildCompletionRows (db : PurchaseDb) (poId : Int) : PurchaseDb :=
  let db := { db with wms := { db.wms with
    poLineCompletion := db.wms.poLineCompletion.delete fun c => c.poId = poId } }
  db.upsertCompletionRows poId

/-! ## The service -/

/-- `update_po_v2`. -/
def updatePoV2 (poId : Int) (payload : PurchaseOrderUpdateIn) (newLineId : Int → Int)
    (db : PurchaseDb) : Except Err PurchaseDb := do
  let po ← demandSome (db.purchaseOrders.lookup poId) (.http 404 "PurchaseOrder not found")
  let _ ← requirePoEditable db po
  let _ ← demand (strip payload.purchaser ≠ "")
    (.valueError "purchaser 不能为空：采购单必须填写采购人")
  let (supplierId, supplierName) ← requireSupplierSnapshot db payload.supplierId
  let lines ← normalizeUpdateLines db supplierId [] payload.lines
  let head : PurchaseOrder → PurchaseOrder := fun po =>
    { po with
      supplierId := supplierId, supplierName := supplierName
      warehouseId := payload.warehouseId, purchaser := strip payload.purchaser }
  let db := { db with
    purchaseOrders := db.purchaseOrders.update (fun o => o.id = po.id) head fun _ => rfl }
  let db ← db.replaceLines po.id newLineId lines
  return db.rebuildCompletionRows po.id

end PurchaseDb

end WmsDu
