import WmsDu.Count.FreezeGuard
import WmsDu.Stock.Lots

/-!
# Inbound commit

`commit_inbound`: every line of a payload is resolved to an item, a unit, a
quantity in base units and a lot; then the event is written, and line by line
the event line and the stock. The freeze guard sits in `apply_inbound_stock`,
so it runs once a line, after the lots and the event are written.
-/

namespace WmsDu

open Txn

/-! ## Contracts -/

/-- `InboundCommitLineIn`. -/
structure InboundCommitLineIn where
  itemId : Option Int := none
  barcode : Option String := none
  uomId : Option Int := none
  qtyInput : Int
  lotCodeInput : Option String := none
  productionDate : Option Date := none
  expiryDate : Option Date := none
  poLineId : Option Int := none
  remark : Option String := none
  qtyInput_gt : 0 < qtyInput := by decide
  identity : itemId ≠ none ∨ barcode ≠ none := by decide
  uomInput : uomId ≠ none ∨ barcode ≠ none := by decide
  dates : ∀ p ∈ productionDate, ∀ e ∈ expiryDate, ¬ e.before p := by decide

/-- The source types an inbound commit accepts. -/
def inboundSourceTypes : List SourceType :=
  [.purchaseOrder, .manual, .return, .transferIn, .adjustIn]

/-- `InboundCommitIn`. -/
structure InboundCommitIn where
  warehouseId : Int
  sourceType : SourceType
  sourceRef : Option String := none
  occurredAt : Timestamp
  remark : Option String := none
  lines : List InboundCommitLineIn
  sourceType_mem : sourceType ∈ inboundSourceTypes := by decide
  lines_ne_nil : lines ≠ [] := by simp

/-- `InboundCommitResultRow`. -/
structure InboundCommitResultRow where
  lineNo : Int
  itemId : Int
  uomId : Int
  qtyInput : Int
  ratioToBaseSnapshot : Int
  qtyBase : Int
  lotId : Int
  lotCode : Option String
  poLineId : Option Int
  remark : Option String

/-- `InboundCommitOut`. -/
structure InboundCommitOut where
  eventId : Int
  eventNo : String
  traceId : String
  warehouseId : Int
  sourceType : SourceType
  sourceRef : Option String
  occurredAt : Timestamp
  remark : Option String
  rows : List InboundCommitResultRow

/-! ## Resolving a line -/

/-- The barcodes with their units. -/
def barcodeUoms (db : Db) : List (ItemBarcode × ItemUom) :=
  db.itemBarcodes.rows.filterMap fun ib =>
    ((db.itemUoms.lookup ib.itemUomId).filter fun iu => iu.itemId = ib.itemId).map fun iu =>
      (ib, iu)

/-- `ORDER BY flag DESC, id ASC`. -/
def flaggedFirst (flag : ItemBarcode → Bool) (a b : ItemBarcode × ItemUom) : Prop :=
  (flag a.1 = true ∧ flag b.1 = false) ∨ (flag a.1 = flag b.1 ∧ a.1.id ≤ b.1.id)

instance (flag : ItemBarcode → Bool) : DecidableRel (flaggedFirst flag) :=
  fun _ _ => inferInstanceAs (Decidable (_ ∨ _))

/-- `resolve_inbound_barcode`: the item and unit a barcode is bound to. -/
def resolveInboundBarcode (db : Db) (barcode : String) : Option (Int × Int) :=
  let bound := (barcodeUoms db).filter fun b => b.1.barcode = strip barcode
  ((bound.insertionSort (flaggedFirst ItemBarcode.active)).head?).map fun b =>
    (b.1.itemId, b.1.itemUomId)

/-- The row of `item_uoms` a line names, if it is one of the item. -/
def uomOfItem (db : Db) (itemId uomId : Int) : Option ItemUom :=
  (db.itemUoms.lookup uomId).filter fun u => u.itemId = itemId

/-- `_require_ratio_to_base`. -/
def requireRatioToBase (itemId uomId : Int) : Tx Int := do
  let u ← Tx.select fun db => uomOfItem db itemId uomId
  let u ← Tx.requireSome u
    (.http 400 s!"uom_id 不存在或不属于该商品：item_id={itemId} uom_id={uomId}")
  Tx.require (0 < u.ratioToBase) (.http 400 "item_uoms.ratio_to_base 非法（必须 >= 1）")
  return u.ratioToBase

/-- `_load_item_display_snapshot`: name, spec and unit name. -/
def loadItemDisplaySnapshot (itemId uomId : Int) :
    Tx (Option String × Option String × Option String) := do
  let row ← Tx.select fun db =>
    (db.items.lookup itemId).bind fun i => (uomOfItem db itemId uomId).map fun u => (i, u)
  let (i, u) ← Tx.requireSome row
    (.http 422 s!"item_display_snapshot_not_found:{itemId}:{uomId}")
  return (cleanText (some i.name), cleanText i.spec, cleanText (some u.shownName))

/-- `ResolvedCommitLine`. -/
structure ResolvedCommitLine where
  lineNo : Int
  itemId : Int
  itemNameSnapshot : Option String
  itemSpecSnapshot : Option String
  uomId : Int
  actualUomNameSnapshot : Option String
  qtyInput : Int
  ratioToBaseSnapshot : Int
  qtyBase : Int
  barcodeInput : Option String
  lotCodeInput : Option String
  productionDate : Option Date
  expiryDate : Option Date
  lotId : Int
  poLineId : Option Int
  remark : Option String

/-- `_validate_source`, the lines from `lineNo` on. -/
def validateSourceLines : Nat → List InboundCommitLineIn → Except Err Unit
  | _, [] => .ok ()
  | lineNo, line :: rest =>
      if line.poLineId = none then .error (.http 400 s!"采购入库第 {lineNo} 行必须提供 po_line_id")
      else validateSourceLines (lineNo + 1) rest

/-- `_validate_source`. -/
def validateSource (payload : InboundCommitIn) : Except Err Unit :=
  if payload.sourceType = .purchaseOrder then
    if cleanText payload.sourceRef = none then .error (.http 400 "采购入库必须提供 source_ref")
    else validateSourceLines 1 payload.lines
  else .ok ()

/-- The item and unit of a line: what the payload names, filled in from the
barcode and checked against it. -/
def resolveItemUom (lineNo : Int) (line : InboundCommitLineIn) : Tx (Int × Int) := do
  let named ← Tx.select fun db => (cleanText line.barcode).map fun b =>
    (b, resolveInboundBarcode db b)
  match named with
  | none => do
      let itemId ← Tx.requireSome line.itemId (.http 422 s!"item_unresolved:line={lineNo}")
      let uomId ← Tx.requireSome line.uomId (.http 422 s!"uom_unresolved:line={lineNo}")
      return (itemId, uomId)
  | some (barcode, bound) => do
      let (itemId, uomId) ← Tx.requireSome bound (.http 422 s!"barcode_unbound:{barcode}")
      Tx.require (line.itemId = none ∨ line.itemId = some itemId)
        (.http 422 s!"barcode_item_mismatch:line={lineNo}")
      Tx.require (line.uomId = none ∨ line.uomId = some uomId)
        (.http 422 s!"barcode_uom_mismatch:line={lineNo}")
      return (itemId, uomId)

/-- The dates a line is posted with. -/
def resolveCommitDates (lineNo : Int) (item : Item) (line : InboundCommitLineIn) :
    Tx (Option Date × Option Date) :=
  match item.policy.expiryPolicy with
  | .none => return (none, none)
  | .required => do
      let (pd, ed, _) ← normalizeBatchDatesForItem item.id line.productionDate line.expiryDate
      Tx.require (pd ≠ none) (.http 422 s!"production_date_unresolved:line={lineNo}")
      Tx.require (ed ≠ none) (.http 422 s!"expiry_date_unresolved:line={lineNo}")
      return (pd, ed)

/-- `_resolve_line`. -/
def resolveLine (warehouseId lineNo : Int) (sourceType : SourceType) (line : InboundCommitLineIn)
    (newLotId : Int) : Tx ResolvedCommitLine := do
  let lotCodeInput := cleanText line.lotCodeInput
  Tx.require (0 < line.qtyInput) (.http 400 s!"第 {lineNo} 行 qty_input 必须 > 0")
  let (itemId, uomId) ← resolveItemUom lineNo line
  let item ← Tx.select fun db => db.items.lookup itemId
  let item ← Tx.requireSome item (.http 422 s!"item_not_found:{itemId}")
  let ratio ← requireRatioToBase itemId uomId
  let qtyBase := line.qtyInput * ratio
  Tx.require (0 < qtyBase) (.http 400 s!"第 {lineNo} 行 qty_base 必须 > 0")
  let (itemName, itemSpec, uomName) ← loadItemDisplaySnapshot itemId uomId
  Tx.require (∀ code ∈ lotCodeInput, upper code ∉ ["NOEXP", "NONE"])
    (.http 400 s!"lot_code 禁止伪码：line={lineNo}")
  Tx.require (¬ (item.policy.lotSourcePolicy = .supplierOnly ∧ lotCodeInput = none))
    (.http 400 s!"供应商 lot_code 必填：line={lineNo}")
  let (pd, ed) ← resolveCommitDates lineNo item line
  let lotId ← resolveInboundLot warehouseId item lotCodeInput pd ed newLotId
  return {
    lineNo := lineNo, itemId := itemId, itemNameSnapshot := itemName
    itemSpecSnapshot := itemSpec, uomId := uomId, actualUomNameSnapshot := uomName
    qtyInput := line.qtyInput, ratioToBaseSnapshot := ratio, qtyBase := qtyBase
    barcodeInput := cleanText line.barcode, lotCodeInput := lotCodeInput
    productionDate := pd, expiryDate := ed, lotId := lotId
    poLineId := if sourceType = .purchaseOrder then line.poLineId else none
    remark := cleanText line.remark }

/-- The loop over the payload's lines; `newLotId` is indexed by line number. -/
def resolveLines (warehouseId : Int) (sourceType : SourceType) (newLotId : Int → Int) :
    Int → List InboundCommitLineIn → Tx (List ResolvedCommitLine)
  | _, [] => return []
  | lineNo, line :: rest => do
      let resolved ← resolveLine warehouseId lineNo sourceType line (newLotId lineNo)
      let others ← resolveLines warehouseId sourceType newLotId (lineNo + 1) rest
      return resolved :: others

/-! ## Posting -/

/-- What uuid4, the clock and the sequences draw for one commit. -/
structure InboundDraws where
  eventId : Int
  eventNo : String
  traceId : String
  newLotId : Int → Int
  now : Timestamp := 0

/-- The event an inbound commit writes. -/
def InboundCommitIn.event (payload : InboundCommitIn) (c : InboundDraws) (userId : Option Int) :
    WmsEvent :=
  { id := c.eventId, eventNo := c.eventNo, eventType := .inbound
    warehouseId := payload.warehouseId, sourceType := payload.sourceType
    sourceRef := cleanText payload.sourceRef, occurredAt := payload.occurredAt
    traceId := c.traceId, eventKind := .commit, targetEventId := none, status := .committed
    createdBy := userId, remark := cleanText payload.remark }

/-- The event line of a resolved line. -/
def ResolvedCommitLine.eventLine (line : ResolvedCommitLine) (eventId : Int) : InboundEventLine :=
  { eventId := eventId, lineNo := line.lineNo, itemId := line.itemId
    itemNameSnapshot := line.itemNameSnapshot, itemSpecSnapshot := line.itemSpecSnapshot
    actualUomId := line.uomId, actualUomNameSnapshot := line.actualUomNameSnapshot
    barcodeInput := line.barcodeInput, actualQtyInput := line.qtyInput
    actualRatioToBaseSnapshot := line.ratioToBaseSnapshot, qtyBase := line.qtyBase
    lotCodeInput := line.lotCodeInput, productionDate := line.productionDate
    expiryDate := line.expiryDate, lotId := some line.lotId, poLineId := line.poLineId
    remark := line.remark }

/-- The call of the lot writer an inbound line makes. -/
def ResolvedCommitLine.adjustArgs (line : ResolvedCommitLine) (event : WmsEvent) (now : Timestamp) :
    AdjustLotArgs :=
  { itemId := line.itemId, warehouseId := event.warehouseId, lotId := some line.lotId
    delta := line.qtyBase, reason := MovementType.inbound.value, ref := event.eventNo
    refLine := some line.lineNo, occurredAt := some event.occurredAt
    metaDict := [("sub_reason", .str "ATOMIC_INBOUND"), ("event_id", .int event.id),
      ("source_type", .str event.sourceType.value), ("source_biz_type", .null),
      ("source_ref", .ofText event.sourceRef), ("remark", .ofText event.remark)]
    lotCode := line.lotCodeInput, productionDate := line.productionDate
    expiryDate := line.expiryDate, traceId := some event.traceId, utcNow := now }

/-- `apply_inbound_stock`. -/
def applyInboundStock (a : AdjustLotArgs) : Tx AdjustLotResult := do
  ensureWarehouseNotFrozen a.warehouseId
  adjustLotImpl a

/-- The lines of the commit, each with its event line and its stock. -/
def commitLines (event : WmsEvent) (now : Timestamp) : List ResolvedCommitLine → Tx Unit
  | [] => return ()
  | line :: rest => do
      Prog.exec (.insertInboundLine (line.eventLine event.id))
      let _ ← applyInboundStock (line.adjustArgs event now)
      commitLines event now rest

/-- The row a commit answers for a line. -/
def ResolvedCommitLine.resultRow (line : ResolvedCommitLine) : InboundCommitResultRow :=
  { lineNo := line.lineNo, itemId := line.itemId, uomId := line.uomId, qtyInput := line.qtyInput
    ratioToBaseSnapshot := line.ratioToBaseSnapshot, qtyBase := line.qtyBase
    lotId := line.lotId, lotCode := line.lotCodeInput, poLineId := line.poLineId
    remark := line.remark }

/-- `commit_inbound`. -/
def commitInbound (payload : InboundCommitIn) (userId : Option Int) (c : InboundDraws) :
    Tx InboundCommitOut := do
  let _ ← Tx.ofExcept (validateSource payload)
  let lines ← resolveLines payload.warehouseId payload.sourceType c.newLotId 1 payload.lines
  let event := payload.event c userId
  Prog.exec (.insertEvent event)
  commitLines event c.now lines
  Tx.when (payload.sourceType = .purchaseOrder)
    (Prog.exec (.applyCompletionDelta event.id payload.occurredAt))
  return {
    eventId := event.id, eventNo := event.eventNo, traceId := event.traceId
    warehouseId := payload.warehouseId, sourceType := payload.sourceType
    sourceRef := event.sourceRef, occurredAt := payload.occurredAt, remark := event.remark
    rows := lines.map ResolvedCommitLine.resultRow }

end WmsDu
