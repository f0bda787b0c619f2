import Mathlib.Data.List.Sort
import WmsDu.Db.Schema
import WmsDu.Txn.Prog

/-!
# The SQL the services issue

One constructor of `Sql` a statement of the repositories, with its answer,
its row locks, the constraints it can violate and the redo records of its
writes. Ids the database draws from a sequence are arguments of the inserting
statement; sequences count from one, so a drawn id that is taken or is not
positive violates the primary key.
-/

namespace WmsDu

open Txn

/-! ## Redo records -/

/-- The columns `write_ledger` fills on a row that is already there. -/
structure LedgerPatch where
  reasonCanon : Option String
  subReason : Option String
  traceId : Option String
  eventId : Option Int
  productionDate : Option Date
  expiryDate : Option Date

/-- `COALESCE(old, new)` column by column. -/
def LedgerPatch.fill (p : LedgerPatch) (row : StockLedgerRow) : StockLedgerRow :=
  { row with
    reasonCanon := row.reasonCanon <|> p.reasonCanon
    subReason := row.subReason <|> p.subReason
    traceId := row.traceId <|> p.traceId
    eventId := row.eventId <|> p.eventId
    productionDate := row.productionDate <|> p.productionDate
    expiryDate := row.expiryDate <|> p.expiryDate }

/-- The columns a count fills on a line. -/
structure CountedColumns where
  itemUomId : Int
  uomName : String
  ratioToBase : Int
  qtyInput : Int
  qtyBase : Int
  diffQtyBase : Int

/-- A line with its counted columns filled. -/
def CountedColumns.set (c : CountedColumns) (l : CountDocLine) : CountDocLine :=
  { l with
    countedItemUomId := some c.itemUomId
    countedUomNameSnapshot := some c.uomName
    countedRatioToBaseSnapshot := some c.ratioToBase
    countedQtyInput := some c.qtyInput
    countedQtyBase := some c.qtyBase
    diffQtyBase := some c.diffQtyBase }

/-- The columns the updates of `count_docs` set. -/
inductive CountDocChange
  | frozen
  | countedBy (name : String)
  | reviewedBy (name : String)
  | counted (now : Timestamp)
  | posted (eventId : Int) (postedAt : Timestamp)
  | voided

/-- The `SET` of an update of `count_docs`. -/
def CountDocChange.set : CountDocChange → CountDoc → CountDoc
  | .frozen, d => { d with status := .frozen }
  | .countedBy name, d =>
      { d with countedByNameSnapshot := some (strip name), reviewedByNameSnapshot := none }
  | .reviewedBy name, d => { d with reviewedByNameSnapshot := some (strip name) }
  | .counted now, d => { d with status := .counted, countedAt := d.countedAt <|> some now }
  | .posted eventId postedAt, d =>
      { d with status := .posted, postedEventId := some eventId, postedAt := some postedAt }
  | .voided, d => { d with status := .voided }

/-- The event an update refers to. -/
def CountDocChange.postedEventId : CountDocChange → Option Int
  | .posted eventId _ => some eventId
  | _ => none

theorem CountDocChange.set_id (c : CountDocChange) (d : CountDoc) : (c.set d).id = d.id := by
  cases c <;> rfl

/-- What one write changed. -/
inductive Redo
  | stocksLotInsert (row : StocksLotRow)
  | stocksLotSetQty (s : Slot) (qty : Int)
  | ledgerInsert (row : StockLedgerRow)
  | ledgerPatch (k : IdemKey) (p : LedgerPatch)
  | lotInsert (lot : Lot)
  | lotSetExpiry (lotId : Int) (expiryDate : Date)
  | eventInsert (e : WmsEvent)
  | eventSupersede (eventId : Int)
  | outboundLineInsert (l : OutboundEventLine)
  | inboundLineInsert (l : InboundEventLine)
  | manualDocComplete (docId : Int)
  | operationInsert (o : WmsInboundOperation)
  | operationLineInsert (l : WmsInboundOperationLine)
  | receiptComplete (receiptId : Int)
  | completionPut (c : PoLineCompletion)
  | countDocInsert (d : CountDoc)
  | countDocUpdate (docId : Int) (c : CountDocChange)
  | countLinesDelete (docId : Int)
  | countSnapshotsDelete (lineIds : List Int)
  | countLineInsert (l : CountDocLine)
  | countLineSetCounted (lineId : Int) (c : CountedColumns)
  | countSnapshotInsert (s : CountDocLineLotSnapshot)
  | returnTaskInsert (t : ReturnTask)
  | returnTaskSetCommitted (taskId : Int) (updatedAt : Option Timestamp)
  | returnLineInsert (l : ReturnTaskLine)
  | returnLineSetPicked (lineId picked : Int)
  | returnLineSetCommitted (lineId qty : Int)
  | stockSnapshotsDelete (d : Date)
  | stockSnapshotInsert (s : StockSnapshot)
  | eventLogInsert (e : EventLogRow)

/-- The effect of one record. -/
def Redo.apply : Redo → Db → Db
  | .stocksLotInsert row, db => { db with stocksLot := db.stocksLot.insert row }
  | .stocksLotSetQty s qty, db =>
      { db with
        stocksLot := db.stocksLot.update (fun r => r.slot = s)
          (fun r => { r with qty := qty }) (fun _ => rfl) }
  | .ledgerInsert row, db => { db with stockLedger := db.stockLedger.insert row }
  | .ledgerPatch k p, db =>
      { db with
        stockLedger := db.stockLedger.update (fun r => r.key = k)
          (fun r => p.fill r) (fun _ => rfl) }
  | .lotInsert lot, db => { db with lots := db.lots.insert lot }
  | .lotSetExpiry lotId ed, db =>
      { db with
        lots := db.lots.update (fun l => l.id = lotId)
          (fun l => { l with expiryDate := some ed }) (fun _ => rfl) }
  | .eventInsert e, db => { db with wmsEvents := db.wmsEvents.insert e }
  | .eventSupersede eventId, db =>
      { db with
        wmsEvents := db.wmsEvents.update (fun e => e.id = eventId)
          (fun e => { e with status := .superseded }) (fun _ => rfl) }
  | .outboundLineInsert l, db => { db with outboundEventLines := db.outboundEventLines.insert l }
  | .inboundLineInsert l, db => { db with inboundEventLines := db.inboundEventLines.insert l }
  | .manualDocComplete docId, db =>
      { db with
        manualOutboundDocs := db.manualOutboundDocs.update (fun d => d.id = docId)
          (fun d => { d with status := .completed }) (fun _ => rfl) }
  | .operationInsert o, db => { db with wmsInboundOperations := db.wmsInboundOperations.insert o }
  | .operationLineInsert l, db =>
      { db with wmsInboundOperationLines := db.wmsInboundOperationLines.insert l }
  | .receiptComplete receiptId, db =>
      { db with
        inboundReceipts := db.inboundReceipts.update (fun r => r.id = receiptId)
          (fun r => { r with status := .completed }) (fun _ => rfl) }
  | .completionPut c, db => { db with poLineCompletion := db.poLineCompletion.put c }
  | .countDocInsert d, db => { db with countDocs := db.countDocs.insert d }
  | .countDocUpdate docId c, db =>
      { db with
        countDocs := db.countDocs.update (fun d => d.id = docId) (fun d => c.set d) c.set_id }
  | .countLinesDelete docId, db =>
      { db with countDocLines := db.countDocLines.delete (fun l => l.docId = docId) }
  | .countSnapshotsDelete lineIds, db =>
      { db with
        countDocLineLotSnapshots :=
          db.countDocLineLotSnapshots.delete (fun s => s.lineId ∈ lineIds) }
  | .countLineInsert l, db => { db with countDocLines := db.countDocLines.insert l }
  | .countLineSetCounted lineId c, db =>
      { db with
        countDocLines := db.countDocLines.update (fun l => l.id = lineId) (fun l => c.set l)
          (fun _ => rfl) }
  | .countSnapshotInsert s, db =>
      { db with countDocLineLotSnapshots := db.countDocLineLotSnapshots.insert s }
  | .returnTaskInsert t, db => { db with returnTasks := db.returnTasks.insert t }
  | .returnTaskSetCommitted taskId updatedAt, db =>
      { db with
        returnTasks := db.returnTasks.update (fun t => t.id = taskId)
          (fun t => { t with status := .committed, updatedAt := updatedAt }) (fun _ => rfl) }
  | .returnLineInsert l, db => { db with returnTaskLines := db.returnTaskLines.insert l }
  | .returnLineSetPicked lineId picked, db =>
      { db with
        returnTaskLines := db.returnTaskLines.update (fun l => l.id = lineId)
          (fun l => { l with pickedQty := picked }) (fun _ => rfl) }
  | .returnLineSetCommitted lineId qty, db =>
      { db with
        returnTaskLines := db.returnTaskLines.update (fun l => l.id = lineId)
          (fun l => { l with committedQty := some qty, status := .committed }) (fun _ => rfl) }
  | .stockSnapshotsDelete d, db =>
      { db with stockSnapshots := db.stockSnapshots.delete (fun s => s.snapshotDate = d) }
  | .stockSnapshotInsert s, db => { db with stockSnapshots := db.stockSnapshots.insert s }
  | .eventLogInsert e, db => { db with eventLog := db.eventLog.insert e }

/-! ## Locks -/

/-- An entry of the partial unique indexes of `lots`: a production date, or
none for the internal lot. -/
structure LotKey where
  warehouseId : Int
  itemId : Int
  productionDate : Option Date
deriving DecidableEq, Repr

/-- What a transaction holds until it ends: locked rows, and the unique keys
of the rows it has inserted and not yet committed. -/
inductive Lock
  | slot (s : Slot)
  | ledger (k : IdemKey)
  | lot (lotId : Int)
  | lotKey (k : LotKey)
  | event (eventId : Int)
  | eventNo (eventNo : String)
  | traceId (traceId : String)
  | outboundLine (eventId refLine : Int)
  | inboundLine (eventId lineNo : Int)
  | manualDoc (docId : Int)
  | receipt (receiptId : Int)
  | completion (poLineId : Int)
  | operation (operationId : Int)
  | operationLine (lineId : Int)
  | countDoc (docId : Int)
  | countNo (countNo : String)
  | countLine (lineId : Int)
  | returnTask (taskId : Int)
  | returnLine (lineId : Int)
  | snapshots (d : Date)
  | eventLog (logId : Int)
deriving DecidableEq

/-! ## Statements -/

/-- The statements of the repositories, with the type of their answer. -/
inductive Sql : Type → Type 1
  /-- A plain `SELECT`. -/
  | select {β : Type} (q : Db → β) : Sql β
  /-- `SELECT … FOR UPDATE`, with the rows it locks. -/
  | selectForUpdate {β : Type} (rows : Db → List Lock) (q : Db → β) : Sql β
  /-- `INSERT INTO stocks_lot … VALUES (…, 0) ON CONFLICT … DO NOTHING`. -/
  | ensureStocksLotSlot (s : Slot) : Sql Unit
  /-- `UPDATE stocks_lot SET qty = :q`. -/
  | setStocksLotQty (s : Slot) (qty : Int) : Sql Unit
  /-- `INSERT INTO stocks_lot … ON CONFLICT … DO UPDATE SET qty = stocks_lot.qty +
  EXCLUDED.qty RETURNING qty`. -/
  | addStocksLotQty (s : Slot) (delta : Int) : Sql Int
  /-- `INSERT INTO stock_ledger`. -/
  | insertLedger (row : StockLedgerRow) : Sql Unit
  /-- `INSERT INTO stock_ledger … ON CONFLICT … DO NOTHING RETURNING id`; the
  answer says whether a row came back. -/
  | insertLedgerOnConflictDoNothing (row : StockLedgerRow) : Sql Bool
  /-- `UPDATE stock_ledger SET … = COALESCE(…)`. -/
  | patchLedger (k : IdemKey) (p : LedgerPatch) : Sql Unit
  /-- `INSERT INTO lots … SELECT … FROM items … ON CONFLICT … DO NOTHING RETURNING id`. -/
  | insertLot (lotId warehouseId itemId : Int) (source : LotCodeSource) (lotCode : Option String)
      (productionDate expiryDate : Option Date) (sourceReceiptId sourceLineNo : Option Int) :
      Sql (Option Int)
  /-- `UPDATE lots SET expiry_date = :ed WHERE id = :lot_id AND expiry_date IS NULL`. -/
  | patchLotExpiry (lotId : Int) (expiryDate : Date) : Sql Unit
  /-- `INSERT INTO wms_events`. -/
  | insertEvent (e : WmsEvent) : Sql Unit
  /-- `UPDATE wms_events SET status = 'SUPERSEDED' WHERE … AND status = 'COMMITTED'`;
  the services do not read the row count. -/
  | markSuperseded (eventType : EventType) (eventId : Int) : Sql Unit
  | insertOutboundLine (l : OutboundEventLine) : Sql Unit
  | insertInboundLine (l : InboundEventLine) : Sql Unit
  /-- `UPDATE manual_outbound_docs … AND status = 'RELEASED'`; the answer is
  `rowcount = 1`. -/
  | completeManualDoc (docId : Int) : Sql Bool
  | insertOperation (o : WmsInboundOperation) : Sql Unit
  | insertOperationLine (l : WmsInboundOperationLine) : Sql Unit
  /-- `UPDATE inbound_receipts SET status = 'COMPLETED' … AND status = 'RELEASED'`. -/
  | completeReceipt (receiptId : Int) : Sql Unit
  /-- `UPDATE purchase_order_line_completion … FROM delta`. -/
  | applyCompletionDelta (eventId : Int) (occurredAt : Timestamp) : Sql Unit
  | insertCountDoc (d : CountDoc) : Sql Unit
  /-- `DELETE FROM count_doc_line_lot_snapshots WHERE line_id IN (…)`. -/
  | deleteCountSnapshots (docId : Int) : Sql Unit
  /-- `DELETE FROM count_doc_lines WHERE doc_id = :doc_id`. -/
  | deleteCountLines (docId : Int) : Sql Unit
  /-- `INSERT INTO count_doc_lines … SELECT … FROM stocks_lot … GROUP BY s.item_id`;
  `lineId` is the id drawn for each line number. -/
  | insertCountLines (docId warehouseId : Int) (lineId : Nat → Int) : Sql Unit
  /-- `INSERT INTO count_doc_line_lot_snapshots … SELECT …`. -/
  | insertCountSnapshots (docId : Int) : Sql Unit
  /-- `UPDATE count_docs SET …` of one document; the answer is whether the
  guard of its `WHERE` held. -/
  | updateCountDoc (docId : Int) (c : CountDocChange) : Sql Bool
  /-- The flush of one counted line. -/
  | updateCountLine (lineId : Int) (c : CountedColumns) : Sql Unit
  | insertReturnTask (t : ReturnTask) : Sql Unit
  | insertReturnLine (l : ReturnTaskLine) : Sql Unit
  /-- The flush of a task that was committed. -/
  | setReturnTaskCommitted (taskId : Int) (updatedAt : Option Timestamp) : Sql Unit
  /-- The flush of a line something was received for. -/
  | setReturnPicked (lineId picked : Int) : Sql Unit
  /-- The flush of a line that was committed. -/
  | setReturnLineCommitted (lineId qty : Int) : Sql Unit
  /-- `DELETE FROM stock_snapshots WHERE snapshot_date = :d`. -/
  | deleteStockSnapshots (d : Date) : Sql Unit
  /-- `INSERT INTO stock_snapshots … SELECT … FROM stocks_lot GROUP BY …`. -/
  | insertStockSnapshots (d : Date) : Sql Unit
  | insertEventLog (e : EventLogRow) : Sql Unit

/-! ## Constraints -/

/-- A statement that would break a constraint fails with its name. -/
def violated (constraint : String) : Except Err (β × List Redo) := .error (.integrity constraint)

/-- The `CHECK` of `stock_ledger` a row breaks; a `NULL` comparison passes. -/
def StockLedgerRow.check (row : StockLedgerRow) : Option String :=
  if row.afterQty < 0 then some "ck_stock_ledger_after_qty_nonneg"
  else if row.reasonCanon ≠ none ∧ row.reasonCanon ≠ some "RECEIPT" ∧
      (row.productionDate ≠ none ∨ row.expiryDate ≠ none) then
    some "ck_ledger_dates_only_on_receipt"
  else none

/-- The foreign keys of `stock_ledger`. -/
def StockLedgerRow.foreignKeys (db : Db) (row : StockLedgerRow) : Option String :=
  if ¬ db.HasLotDims row.slot then some "fk_stock_ledger_lot_dims"
  else if ∃ e ∈ row.eventId, ¬ db.wmsEvents.HasKey e then some "fk_stock_ledger_event"
  else none

/-- The `CHECK` of `lots` a row breaks. -/
def Lot.check (lot : Lot) : Option String :=
  let policy := lot.itemPolicySnapshot
  if policy.shelfLifeValue.isNone ≠ policy.shelfLifeUnit.isNone then
    some "ck_lots_item_shelf_life_pair_snapshot"
  else if policy.expiryPolicy ≠ .required ∧
      (policy.shelfLifeValue ≠ none ∨ policy.shelfLifeUnit ≠ none) then
    some "ck_lots_sl_params_by_policy_snap"
  else if (policy.expiryPolicy = .required) ≠ (lot.productionDate ≠ none) then
    some "ck_lots_production_date_by_expiry_policy"
  else if ∃ pd ∈ lot.productionDate, ∃ ed ∈ lot.expiryDate, ed.before pd then
    some "ck_lots_production_le_expiry"
  else if policy.expiryPolicy = .required ∧ lot.lotCodeSource = .supplier ∧
      lot.expiryDate = none then
    some "ck_lots_required_supplier_expiry_not_null"
  else if policy.expiryPolicy = .required ∧ lot.lotCodeSource ≠ .supplier then
    some "ck_lots_required_supplier_source"
  else if (lot.lotCodeSource = .supplier) ≠ (lot.lotCode ≠ none) then
    some "ck_lots_lot_code_by_source"
  else none

/-- Two lots one of the partial unique indexes of `lots` keeps apart: one lot
of a production date, and one internal lot, for a warehouse and item. -/
def Lot.clashes (a b : Lot) : Prop :=
  a.warehouseId = b.warehouseId ∧ a.itemId = b.itemId ∧
    ((a.lotCodeSource = .supplier ∧ b.lotCodeSource = .supplier ∧
        a.itemPolicySnapshot.expiryPolicy = .required ∧
        b.itemPolicySnapshot.expiryPolicy = .required ∧
        a.productionDate ≠ none ∧ a.productionDate = b.productionDate) ∨
      (a.lotCodeSource = .internal ∧ b.lotCodeSource = .internal ∧
        a.lotCode = none ∧ b.lotCode = none))

instance (a b : Lot) : Decidable (a.clashes b) :=
  inferInstanceAs (Decidable (_ ∧ _ ∧ (_ ∨ _)))

/-- The entry of a lot in these indexes, if it has one. -/
def Lot.indexKey (lot : Lot) : Option LotKey :=
  match lot.lotCodeSource, lot.itemPolicySnapshot.expiryPolicy, lot.productionDate, lot.lotCode with
  | .supplier, .required, some pd, _ => some ⟨lot.warehouseId, lot.itemId, some pd⟩
  | .internal, _, _, none => some ⟨lot.warehouseId, lot.itemId, none⟩
  | _, _, _, _ => none

def OutboundEventLine.check (l : OutboundEventLine) : Option String :=
  if l.qtyOutbound ≤ 0 then some "ck_outbound_event_lines_qty_positive"
  else if l.orderLineId.isSome = l.manualDocLineId.isSome then
    some "ck_outbound_event_lines_source_oneof"
  else none

def InboundEventLine.check (l : InboundEventLine) : Option String :=
  if ∃ pd ∈ l.productionDate, ∃ ed ∈ l.expiryDate, ed.before pd then
    some "ck_inbound_event_lines_prod_le_exp"
  else if l.actualRatioToBaseSnapshot < 1 then some "ck_inbound_event_lines_actual_ratio_positive"
  else if l.actualQtyInput < 1 then some "ck_inbound_event_lines_actual_qty_input_positive"
  else if l.qtyBase ≠ l.actualQtyInput * l.actualRatioToBaseSnapshot then
    some "ck_inbound_event_lines_actual_qty_base_consistent"
  else none

def WmsInboundOperationLine.check (l : WmsInboundOperationLine) : Option String :=
  if ∃ pd ∈ l.productionDate, ∃ ed ∈ l.expiryDate, ed.before pd then
    some "ck_wms_inbound_operation_lines_prod_le_exp"
  else if l.actualRatioToBaseSnapshot ≤ 0 then
    some "ck_wms_inbound_operation_lines_actual_ratio_positive"
  else if l.actualQtyInput ≤ 0 then
    some "ck_wms_inbound_operation_lines_actual_qty_input_positive"
  else if l.qtyBase ≤ 0 then some "ck_wms_inbound_operation_lines_actual_qty_base_positive"
  else if l.qtyBase ≠ l.actualQtyInput * l.actualRatioToBaseSnapshot then
    some "ck_wms_inbound_operation_lines_actual_qty_base_consistent"
  else none

/-- The `CHECK` of `count_doc_lines` a row breaks: the counted columns are
all there or all absent, and agree with each other. -/
def CountDocLine.check (l : CountDocLine) : Option String :=
  if l.lineNo < 1 then some "ck_count_doc_lines_line_no_positive"
  else if l.snapshotQtyBase < 0 then some "ck_count_doc_lines_snapshot_qty_base_nonneg"
  else if ∃ q ∈ l.countedQtyInput, q < 0 then
    some "ck_count_doc_lines_counted_qty_input_nonneg"
  else if ∃ q ∈ l.countedQtyBase, q < 0 then some "ck_count_doc_lines_counted_qty_base_nonneg"
  else if ∃ q ∈ l.countedRatioToBaseSnapshot, q < 1 then
    some "ck_count_doc_lines_counted_ratio_positive"
  else
    match l.countedItemUomId, l.countedUomNameSnapshot, l.countedRatioToBaseSnapshot,
      l.countedQtyInput, l.countedQtyBase, l.diffQtyBase with
    | none, none, none, none, none, none => none
    | some _, some _, some ratio, some input, some base, some diff =>
        if base = input * ratio ∧ diff = base - l.snapshotQtyBase then none
        else some "ck_count_doc_lines_count_payload_consistent"
    | _, _, _, _, _, _ => some "ck_count_doc_lines_count_payload_consistent"

/-! ## Answers and writes -/

/-- The `WHERE` of an update of `count_docs`, besides the id. -/
def CountDocChange.guard (c : CountDocChange) (db : Db) (d : CountDoc) : Prop :=
  match c with
  | .counted _ => d.status = .frozen ∧
      (∃ l ∈ db.countDocLines.rows, l.docId = d.id) ∧
      ∀ l ∈ db.countDocLines.rows, l.docId = d.id → l.countedQtyBase ≠ none
  | .posted _ _ => d.status = .counted
  | .voided => d.status ∈ [.draft, .frozen, .counted]
  | _ => True

instance (c : CountDocChange) (db : Db) (d : CountDoc) : Decidable (c.guard db d) :=
  match c with
  | .counted _ => inferInstanceAs (Decidable (_ ∧ (∃ l ∈ db.countDocLines.rows, l.docId = d.id) ∧
      ∀ l ∈ db.countDocLines.rows, l.docId = d.id → l.countedQtyBase ≠ none))
  | .posted _ _ => inferInstanceAs (Decidable (_ = _))
  | .voided => inferInstanceAs (Decidable (_ ∈ _))
  | .frozen | .countedBy _ | .reviewedBy _ => inferInstanceAs (Decidable True)

/-- The items with stock in a warehouse, `ORDER BY s.item_id`. -/
def stockedItems (db : Db) (warehouseId : Int) : List Item :=
  (db.items.rows.filter fun i => 0 < db.itemTotal warehouseId i.id).insertionSort
    fun a b => a.id ≤ b.id

/-- The lines a freeze builds: the items with stock in the warehouse, numbered
from one. -/
def countLinesOf (db : Db) (docId warehouseId : Int) (lineId : Nat → Int) : List CountDocLine :=
  (stockedItems db warehouseId).mapIdx fun idx i =>
    { id := lineId (idx + 1), docId := docId, lineNo := idx + 1, itemId := i.id
      itemNameSnapshot := some i.name, itemSpecSnapshot := i.spec
      snapshotQtyBase := db.itemTotal warehouseId i.id
      countedItemUomId := none, countedUomNameSnapshot := none
      countedRatioToBaseSnapshot := none, countedQtyInput := none
      countedQtyBase := none, diffQtyBase := none }

/-- The lot snapshots a freeze builds for one line. -/
def countSnapshotsOf (db : Db) (warehouseId : Int) (l : CountDocLine) :
    List CountDocLineLotSnapshot :=
  db.stocksLot.rows.filterMap fun r =>
    if r.slot.itemId = l.itemId ∧ r.slot.warehouseId = warehouseId ∧ 0 < r.qty then
      (db.lots.lookup r.slot.lotId).map fun lot =>
        { lineId := l.id, lotId := r.slot.lotId, lotCodeSnapshot := lot.lotCode
          snapshotQtyBase := r.qty }
    else none

/-- One row of `purchase_order_line_completion` after an event's deltas. -/
def PoLineCompletion.add (c : PoLineCompletion) (addQty : Int) (occurredAt : Timestamp) :
    PoLineCompletion :=
  let received := c.qtyReceivedBase + addQty
  { c with
    qtyReceivedBase := received
    qtyRemainingBase := max (c.qtyOrderedBase - received) 0
    lineCompletionStatus :=
      if received ≤ 0 then .notReceived
      else if received < c.qtyOrderedBase then .partialReceived
      else .received
    lastReceivedAt :=
      match c.lastReceivedAt with
      | none => some occurredAt
      | some t => some (if t < occurredAt then occurredAt else t) }

/-- The answer of a statement and the records of its writes. -/
def Sql.exec : {β : Type} → Sql β → Db → Except Err (β × List Redo)
  | _, .select q, db => .ok (q db, [])
  | _, .selectForUpdate _ q, db => .ok (q db, [])
  | _, .ensureStocksLotSlot s, db =>
      if db.stocksLot.HasKey s then .ok ((), [])
      else if ¬ db.HasLotDims s then violated "fk_stocks_lot_lot_dims"
      else .ok ((), [.stocksLotInsert ⟨s, 0⟩])
  | _, .setStocksLotQty s qty, db =>
      if ¬ db.stocksLot.HasKey s then .ok ((), [])
      else if qty < 0 then violated "ck_stocks_lot_qty_nonneg"
      else .ok ((), [.stocksLotSetQty s qty])
  | _, .addStocksLotQty s delta, db =>
      if delta < 0 then violated "ck_stocks_lot_qty_nonneg"
      else
        match db.stocksLot.lookup s with
        | some row =>
            if row.qty + delta < 0 then violated "ck_stocks_lot_qty_nonneg"
            else .ok (row.qty + delta, [.stocksLotSetQty s (row.qty + delta)])
        | none =>
            if ¬ db.HasLotDims s then violated "fk_stocks_lot_lot_dims"
            else .ok (delta, [.stocksLotInsert ⟨s, delta⟩])
  | _, .insertLedger row, db =>
      match row.check with
      | some c => violated c
      | none =>
          if db.stockLedger.HasKey row.key then violated "uq_ledger_wh_lot_item_reason_ref_line"
          else
            match row.foreignKeys db with
            | some c => violated c
            | none => .ok ((), [.ledgerInsert row])
  | _, .insertLedgerOnConflictDoNothing row, db =>
      match row.check with
      | some c => violated c
      | none =>
          if db.stockLedger.HasKey row.key then .ok (false, [])
          else
            match row.foreignKeys db with
            | some c => violated c
            | none => .ok (true, [.ledgerInsert row])
  | _, .patchLedger k p, db =>
      match db.stockLedger.lookup k with
      | none => .ok ((), [])
      | some row =>
          match (p.fill row).check, (p.fill row).foreignKeys db with
          | none, none => .ok ((), [.ledgerPatch k p])
          | some c, _ => violated c
          | none, some c => violated c
  | _, .insertLot lotId w i source code pd ed rid rln, db =>
      match db.items.lookup i with
      | none => .ok (none, [])
      | some item =>
          let lot : Lot :=
            { id := lotId, warehouseId := w, itemId := i, lotCodeSource := source
              lotCode := code, productionDate := pd, expiryDate := ed
              sourceReceiptId := rid, sourceLineNo := rln, itemPolicySnapshot := item.policy }
          match lot.check with
          | some c => violated c
          | none =>
              if ∃ l ∈ db.lots.rows, l.clashes lot then .ok (none, [])
              else if lotId ≤ 0 ∨ db.lots.HasKey lotId then violated "lots_pkey"
              else if ¬ db.warehouses.HasKey w then violated "lots_warehouse_id_fkey"
              else .ok (some lotId, [.lotInsert lot])
  | _, .patchLotExpiry lotId ed, db =>
      match db.lots.lookup lotId with
      | none => .ok ((), [])
      | some lot =>
          if lot.expiryDate ≠ none then .ok ((), [])
          else
            match ({ lot with expiryDate := some ed } : Lot).check with
            | some c => violated c
            | none => .ok ((), [.lotSetExpiry lotId ed])
  | _, .insertEvent e, db =>
      if e.id ≤ 0 ∨ db.wmsEvents.HasKey e.id then violated "wms_events_pkey"
      else if ∃ e' ∈ db.wmsEvents.rows, e'.eventNo = e.eventNo then
        violated "uq_wms_events_event_no"
      else if ∃ e' ∈ db.wmsEvents.rows, e'.traceId = e.traceId then
        violated "uq_wms_events_trace_id"
      else if ¬ db.warehouses.HasKey e.warehouseId then violated "fk_wms_events_warehouse"
      else if ∃ t ∈ e.targetEventId, ¬ db.wmsEvents.HasKey t then
        violated "fk_wms_events_target_event"
      else .ok ((), [.eventInsert e])
  | _, .markSuperseded eventType eventId, db =>
      if ∃ e ∈ db.wmsEvents.rows, e.id = eventId ∧ e.eventType = eventType ∧
          e.eventKind = .commit ∧ e.status = .committed then
        .ok ((), [.eventSupersede eventId])
      else .ok ((), [])
  | _, .insertOutboundLine l, db =>
      match l.check with
      | some c => violated c
      | none =>
          if db.outboundEventLines.HasKey (l.eventId, l.refLine) then
            violated "uq_outbound_event_lines_event_ref_line"
          else if ¬ db.wmsEvents.HasKey l.eventId then
            violated "outbound_event_lines_event_id_fkey"
          else if ∃ o ∈ l.orderLineId, ¬ db.orderLines.HasKey o then
            violated "outbound_event_lines_order_line_id_fkey"
          else .ok ((), [.outboundLineInsert l])
  | _, .insertInboundLine l, db =>
      match l.check with
      | some c => violated c
      | none =>
          if db.inboundEventLines.HasKey (l.eventId, l.lineNo) then
            violated "uq_inbound_event_lines_event_line"
          else if ¬ db.wmsEvents.HasKey l.eventId then violated "fk_inbound_event_lines_event"
          else if ¬ db.items.HasKey l.itemId then violated "fk_inbound_event_lines_item"
          else if ¬ db.itemUoms.HasKey l.actualUomId then
            violated "fk_inbound_event_lines_actual_uom"
          else if ∃ lot ∈ l.lotId, ¬ db.lots.HasKey lot then violated "fk_inbound_event_lines_lot"
          else .ok ((), [.inboundLineInsert l])
  | _, .completeManualDoc docId, db =>
      if ∃ d ∈ db.manualOutboundDocs.rows, d.id = docId ∧ d.status = .released then
        .ok (true, [.manualDocComplete docId])
      else .ok (false, [])
  | _, .insertOperation o, db =>
      if db.wmsInboundOperations.HasKey o.id then violated "wms_inbound_operations_pkey"
      else if ¬ db.warehouses.HasKey o.warehouseId then
        violated "fk_wms_inbound_operations_warehouse"
      else .ok ((), [.operationInsert o])
  | _, .insertOperationLine l, db =>
      match l.check with
      | some c => violated c
      | none =>
          if db.wmsInboundOperationLines.HasKey l.id then
            violated "wms_inbound_operation_lines_pkey"
          else if ¬ db.wmsInboundOperations.HasKey l.wmsInboundOperationId then
            violated "fk_wms_inbound_operation_lines_operation"
          else if ¬ db.items.HasKey l.itemId then violated "fk_wms_inbound_operation_lines_item"
          else if ¬ db.itemUoms.HasKey l.actualItemUomId then
            violated "fk_wms_inbound_operation_lines_actual_item_uom"
          else if ∃ lot ∈ l.lotId, ¬ db.lots.HasKey lot then
            violated "fk_wms_inbound_operation_lines_lot"
          else .ok ((), [.operationLineInsert l])
  | _, .completeReceipt receiptId, db =>
      if ∃ r ∈ db.inboundReceipts.rows, r.id = receiptId ∧ r.status = .released then
        .ok ((), [.receiptComplete receiptId])
      else .ok ((), [])
  | _, .applyCompletionDelta eventId occurredAt, db =>
      .ok ((), db.poLineCompletion.rows.filterMap fun c =>
        if ∃ l ∈ db.inboundEventLines.rows, l.eventId = eventId ∧ l.poLineId = some c.poLineId then
          some (.completionPut (c.add (sumOver
            (fun l : InboundEventLine => l.eventId = eventId ∧ l.poLineId = some c.poLineId)
            InboundEventLine.qtyBase db.inboundEventLines.rows) occurredAt))
        else none)
  | _, .insertCountDoc d, db =>
      if db.countDocs.HasKey d.id then violated "count_docs_pkey"
      else if ∃ d' ∈ db.countDocs.rows, d'.countNo = d.countNo then
        violated "uq_count_docs_count_no"
      else if ¬ db.warehouses.HasKey d.warehouseId then violated "fk_count_docs_warehouse"
      else .ok ((), [.countDocInsert d])
  | _, .deleteCountSnapshots docId, db =>
      .ok ((), [.countSnapshotsDelete
        ((db.countDocLines.rows.filter (fun l => l.docId = docId)).map CountDocLine.id)])
  | _, .deleteCountLines docId, _ => .ok ((), [.countLinesDelete docId])
  | _, .insertCountLines docId w lineId, db =>
      let lines := countLinesOf db docId w lineId
      if (∃ l ∈ lines, db.countDocLines.HasKey l.id) ∨ ¬ (lines.map CountDocLine.id).Nodup then
        violated "count_doc_lines_pkey"
      else .ok ((), lines.map .countLineInsert)
  | _, .insertCountSnapshots docId, db =>
      match db.countDocs.lookup docId with
      | none => .ok ((), [])
      | some d =>
          let lines := db.countDocLines.rows.filter (fun l => l.docId = docId)
          .ok ((), (lines.flatMap (countSnapshotsOf db d.warehouseId)).map .countSnapshotInsert)
  | _, .updateCountDoc docId c, db =>
      match db.countDocs.lookup docId with
      | none => .ok (false, [])
      | some d =>
          if c.guard db d then
            if ∃ e ∈ c.postedEventId, ¬ db.wmsEvents.HasKey e then
              violated "fk_count_docs_posted_event"
            else .ok (true, [.countDocUpdate docId c])
          else .ok (false, [])
  | _, .updateCountLine lineId c, db =>
      match db.countDocLines.lookup lineId with
      | none => .ok ((), [])
      | some l =>
          match (c.set l).check with
          | some e => violated e
          | none => .ok ((), [.countLineSetCounted lineId c])
  | _, .insertReturnTask t, db =>
      if db.returnTasks.HasKey t.id then violated "return_tasks_pkey"
      else .ok ((), [.returnTaskInsert t])
  | _, .insertReturnLine l, db =>
      if db.returnTaskLines.HasKey l.id then violated "return_task_lines_pkey"
      else if ¬ db.returnTasks.HasKey l.taskId then violated "return_task_lines_task_id_fkey"
      else if ¬ db.lots.HasKey l.lotId then violated "fk_return_task_lines_lot"
      else .ok ((), [.returnLineInsert l])
  | _, .setReturnTaskCommitted taskId updatedAt, _ =>
      .ok ((), [.returnTaskSetCommitted taskId updatedAt])
  | _, .setReturnPicked lineId picked, _ => .ok ((), [.returnLineSetPicked lineId picked])
  | _, .setReturnLineCommitted lineId qty, _ => .ok ((), [.returnLineSetCommitted lineId qty])
  | _, .deleteStockSnapshots d, _ => .ok ((), [.stockSnapshotsDelete d])
  | _, .insertStockSnapshots d, db =>
      .ok ((), db.stocksLot.rows.map fun r => .stockSnapshotInsert ⟨d, r.slot, r.qty⟩)
  | _, .insertEventLog e, db =>
      if db.eventLog.HasKey e.id then violated "event_log_pkey"
      else .ok ((), [.eventLogInsert e])

/-- The locks a statement takes. An insert holds the keys of the row it adds;
one that finds its key taken adds nothing and holds nothing. -/
def Sql.locks : {β : Type} → Sql β → Db → List Lock
  | _, .select _, _ => []
  | _, .selectForUpdate rows _, db => rows db
  | _, .ensureStocksLotSlot s, db => if db.stocksLot.HasKey s then [] else [.slot s]
  | _, .setStocksLotQty s _, _ => [.slot s]
  | _, .addStocksLotQty s _, _ => [.slot s]
  | _, .insertLedger row, _ => [.ledger row.key]
  | _, .insertLedgerOnConflictDoNothing row, db =>
      if db.stockLedger.HasKey row.key then [] else [.ledger row.key]
  | _, .patchLedger k _, _ => [.ledger k]
  | _, .insertLot lotId w i source code pd ed rid rln, db =>
      match db.items.lookup i with
      | none => []
      | some item =>
          let lot : Lot :=
            { id := lotId, warehouseId := w, itemId := i, lotCodeSource := source
              lotCode := code, productionDate := pd, expiryDate := ed
              sourceReceiptId := rid, sourceLineNo := rln, itemPolicySnapshot := item.policy }
          if ∃ l ∈ db.lots.rows, l.clashes lot then []
          else .lot lotId :: lot.indexKey.toList.map .lotKey
  | _, .patchLotExpiry lotId _, _ => [.lot lotId]
  | _, .insertEvent e, _ => [.event e.id, .eventNo e.eventNo, .traceId e.traceId]
  | _, .markSuperseded eventType eventId, db =>
      if ∃ e ∈ db.wmsEvents.rows, e.id = eventId ∧ e.eventType = eventType ∧
          e.eventKind = .commit ∧ e.status = .committed then [.event eventId]
      else []
  | _, .insertOutboundLine l, _ => [.outboundLine l.eventId l.refLine]
  | _, .insertInboundLine l, _ => [.inboundLine l.eventId l.lineNo]
  | _, .completeManualDoc docId, _ => [.manualDoc docId]
  | _, .insertOperation o, _ => [.operation o.id]
  | _, .insertOperationLine l, _ => [.operationLine l.id]
  | _, .completeReceipt receiptId, _ => [.receipt receiptId]
  | _, .applyCompletionDelta _ _, db => db.poLineCompletion.rows.map (.completion ·.poLineId)
  | _, .insertCountDoc d, _ => [.countDoc d.id, .countNo d.countNo]
  | _, .deleteCountSnapshots docId, _ => [.countDoc docId]
  | _, .deleteCountLines docId, _ => [.countDoc docId]
  | _, .insertCountLines docId w lineId, db =>
      (countLinesOf db docId w lineId).map (.countLine ·.id)
  | _, .insertCountSnapshots _, _ => []
  | _, .updateCountDoc docId _, _ => [.countDoc docId]
  | _, .updateCountLine lineId _, _ => [.countLine lineId]
  | _, .insertReturnTask t, _ => [.returnTask t.id]
  | _, .insertReturnLine l, _ => [.returnLine l.id]
  | _, .setReturnTaskCommitted taskId _, _ => [.returnTask taskId]
  | _, .setReturnPicked lineId _, _ => [.returnLine lineId]
  | _, .setReturnLineCommitted lineId _, _ => [.returnLine lineId]
  | _, .deleteStockSnapshots d, _ => [.snapshots d]
  | _, .insertStockSnapshots d, _ => [.snapshots d]
  | _, .insertEventLog e, _ => [.eventLog e.id]

instance : Database Sql Db Lock Redo Err where
  locks := Sql.locks
  exec := Sql.exec
  apply := Redo.apply

section
-- the equations of the long matches are worked out here, once for all modules
attribute [local simp] Sql.exec Sql.locks Redo.apply
end

@[simp] theorem apply_sql (r : Redo) (db : Db) : Database.apply Sql r db = r.apply db := rfl

/-! ## Programs over these statements -/

/-- A service of the program. -/
abbrev Tx (α : Type) := Prog Sql Err α

namespace Tx

/-- Read from the database. -/
def select (q : Db → β) : Tx β := Prog.exec (.select q)

/-- Raise unless the condition holds. -/
def require (c : Prop) [Decidable c] (e : Err) : Tx Unit :=
  if c then pure () else Prog.raise e

/-- Run only under a condition. -/
def when (c : Prop) [Decidable c] (x : Tx Unit) : Tx Unit :=
  if c then x else pure ()

/-- The value of a read that must find its row. -/
def requireSome (o : Option β) (e : Err) : Tx β :=
  match o with
  | some b => pure b
  | none => Prog.raise e

@[simp] theorem run_select (q : Db → β) (db : Db) : (select q).run db = .ok (q db, db) := rfl

theorem run_require_ok {c : Prop} [Decidable c] {e : Err} {db db' : Db} {u : Unit} :
    (require c e).run db = .ok (u, db') ↔ c ∧ db = db' := by
  unfold require
  split
  · simp [*]
  · simp [*]

theorem run_require_of {c : Prop} [Decidable c] {e : Err} {db : Db} (h : c) :
    (require c e).run db = .ok ((), db) := run_require_ok.mpr ⟨h, rfl⟩

theorem run_when_of {c : Prop} [Decidable c] {x : Tx Unit} {db : Db} (h : c) :
    (when c x).run db = x.run db := by rw [when, if_pos h]

theorem run_when_of_not {c : Prop} [Decidable c] {x : Tx Unit} {db : Db} (h : ¬ c) :
    (when c x).run db = .ok ((), db) := by rw [when, if_neg h]; rfl

theorem run_requireSome_ok {o : Option β} {e : Err} {db db' : Db} {b : β} :
    (requireSome o e).run db = .ok (b, db') ↔ o = some b ∧ db = db' := by
  cases o with
  | none => simp [requireSome]
  | some b' => simp [requireSome]

end Tx

end WmsDu
