import WmsDu.Db.Runs
import WmsDu.Stock.AdjustLot

/-!
# Return tasks

`ReturnTaskServiceImpl`: a task lists what was shipped under an order
reference, lot by lot; quantities are received against its lines and
committed back to the lots they left from, with the three-books check at the
end. None of its calls asks the freeze guard.
-/

namespace WmsDu

open Txn

/-! ## What was shipped -/

/-- `SHIP_OUT_REASONS`. -/
def shipOutReasons : List String := ["SHIPMENT", "OUTBOUND_SHIP"]

/-- A ledger row that shipped stock out under a reference. -/
def StockLedgerRow.ShipsOut (row : StockLedgerRow) (orderRef : String) : Prop :=
  row.key.ref = orderRef ∧ row.delta < 0 ∧ upper (strip row.key.reason) ∈ shipOutReasons

instance (row : StockLedgerRow) (orderRef : String) : Decidable (row.ShipsOut orderRef) :=
  inferInstanceAs (Decidable (_ ∧ _ ∧ _))

/-- The quantity shipped from one slot under a reference. -/
def shippedQty (db : Db) (orderRef : String) (s : Slot) : Int :=
  sumOver (fun row : StockLedgerRow => row.ShipsOut orderRef ∧ row.slot = s)
    (fun row => -row.delta) db.stockLedger.rows

/-- One entry of the shipped summary. -/
structure ShippedSummary where
  slot : Slot
  lotCodeSnapshot : Option String
  shippedQty : Int

/-- The slots shipped from, each once, in the order of their first shipment. -/
def shippedSlots (db : Db) (orderRef : String) : List Slot :=
  ((db.stockLedger.rows.filter fun row => row.ShipsOut orderRef).map
    StockLedgerRow.slot).reverse.dedup.reverse

/-- `_load_shipped_summary`. -/
def loadShippedSummary (db : Db) (orderRef : String) : List ShippedSummary :=
  ((shippedSlots db orderRef).map fun s =>
    { slot := s, lotCodeSnapshot := (db.lots.lookup s.lotId).bind Lot.lotCode
      shippedQty := shippedQty db orderRef s }).filter fun x => 0 < x.shippedQty

/-! ## Tasks -/

/-- The lines of a task. -/
def returnLines (db : Db) (taskId : Int) : List ReturnTaskLine :=
  db.returnTaskLines.rows.filter fun l => l.taskId = taskId

/-- A task as the service returns it. -/
structure TaskWithLines where
  task : ReturnTask
  lines : List ReturnTaskLine

/-- `get_with_lines`. -/
def getWithLines (taskId : Int) (forUpdate : Bool) : Tx TaskWithLines := do
  let task ←
    if forUpdate then
      Prog.exec (.selectForUpdate
        (fun db => if db.returnTasks.HasKey taskId then [.returnTask taskId] else [])
        (fun db => db.returnTasks.lookup taskId))
    else Tx.select fun db => db.returnTasks.lookup taskId
  let task ← Tx.requireSome task (.valueError s!"return_task not found: id={taskId}")
  let lines ← Tx.select fun db => returnLines db taskId
  return ⟨task, lines⟩

/-- The newest task of a reference that is not committed. -/
def openTask (db : Db) (orderRef : String) : Option ReturnTask :=
  ((db.returnTasks.rows.filter fun t => t.orderId = orderRef ∧ t.status ≠ .committed).insertionSort
    fun a b => b.id ≤ a.id).head?

/-- What the sequences draw for a new task; line ids are indexed from zero. -/
structure ReturnDraws where
  taskId : Int
  newLineId : Nat → Int

/-- The line a task gets for one entry of the shipped summary. -/
def ShippedSummary.line (x : ShippedSummary) (taskId lineId : Int) (code : String) :
    ReturnTaskLine :=
  { id := lineId, taskId := taskId, orderLineId := none, itemId := x.slot.itemId
    lotId := x.slot.lotId, lotCodeSnapshot := code, expectedQty := some x.shippedQty
    pickedQty := 0, committedQty := some 0, status := .opened, remark := none }

/-- The lines of a new task, numbered from `n`. -/
def insertReturnLines (c : ReturnDraws) : Nat → List ShippedSummary → Tx Unit
  | _, [] => return ()
  | n, x :: rest => do
      let code ← Tx.requireSome (normLotCode x.lotCodeSnapshot) (.valueError
        s!"return_task_lot_code_snapshot_required_for_display:item_id={x.slot.itemId}:lot_id={x.slot.lotId}")
      Prog.exec (.insertReturnLine (x.line c.taskId (c.newLineId n) code))
      insertReturnLines c (n + 1) rest

/-- The part of `create_for_order` that writes the task. -/
def createTask (orderRef : String) (shipped : List ShippedSummary) (c : ReturnDraws) :
    Tx TaskWithLines := do
  let warehouses := ((shipped.map fun x => x.slot.warehouseId).dedup).insertionSort (· ≤ ·)
  match warehouses with
  | [warehouseId] => do
      Prog.exec (.insertReturnTask
        { id := c.taskId, orderId := orderRef, warehouseId := warehouseId, status := .opened
          remark := none, updatedAt := none })
      insertReturnLines c 0 shipped
      getWithLines c.taskId false
  | ids => Prog.raise (.valueError s!"order_ref={orderRef} is multi-warehouse: {ids}")

/-- `create_for_order`: an open task of the reference is answered as it is. -/
def createForOrder (orderId : String) (warehouseId : Option Int) (includeZeroShipped : Bool)
    (c : ReturnDraws) : Tx TaskWithLines := do
  let orderRef := strip orderId
  Tx.require (orderRef ≠ "") (.valueError "order_id(order_ref) is required")
  let existing ← Tx.select fun db => (openTask db orderRef).map fun t =>
    (⟨t, returnLines db t.id⟩ : TaskWithLines)
  match existing with
  | some t => return t
  | none => do
      let shipped ← Tx.select fun db => loadShippedSummary db orderRef
      let inWarehouse := shipped.filter fun x => ∀ w ∈ warehouseId, x.slot.warehouseId = w
      let wanted := inWarehouse.filter fun x => includeZeroShipped ∨ 0 < x.shippedQty
      Tx.require (wanted.isEmpty = false)
        (.valueError s!"order_ref={orderRef} has no shippable ledger facts for return")
      createTask orderRef wanted c

/-- `record_receive`; a negative quantity takes a receipt back. -/
def recordReceive (taskId itemId qty : Int) : Tx TaskWithLines := do
  let t ← getWithLines taskId true
  if t.task.status = .committed then return t
  else do
    let target ← Tx.requireSome (t.lines.find? fun l => l.itemId = itemId)
      (.valueError s!"task_line not found for item_id={itemId}")
    let expected := target.expectedQty.getD 0
    let next := target.pickedQty + qty
    Tx.require (0 ≤ next) (.valueError "picked_qty cannot be < 0")
    Tx.require (next ≤ expected)
      (.valueError s!"picked_qty({next}) > expected_qty({expected})")
    Prog.exec (.setReturnPicked target.id next)
    getWithLines taskId false

/-! ## The three books -/

/-- What a commit tells the three-books check about one line. -/
structure ReturnEffect where
  warehouseId : Int
  itemId : Int
  lotId : Int
  qty : Int
  refLine : Int
  reason : String

/-- The slot of an effect. -/
def ReturnEffect.slot (e : ReturnEffect) : Slot := ⟨e.warehouseId, e.itemId, e.lotId⟩

/-- The ledger delta the check reads for an effect; a blank reason matches
any. -/
def effectLedgerDelta (db : Db) (ref : String) (e : ReturnEffect) : Option Int :=
  (db.stockLedger.rows.find? fun row => row.slot = e.slot ∧ row.key.ref = ref ∧
    row.key.refLine = e.refLine ∧ (strip e.reason = "" ∨ row.key.reason = e.reason)).map
    StockLedgerRow.delta

/-- The stock of an item in a warehouse in the snapshot of a day. -/
def snapshotTotal (db : Db) (d : Date) (warehouseId itemId : Int) : Int :=
  sumOver (fun r : StockSnapshot => r.snapshotDate = d ∧ r.slot.warehouseId = warehouseId ∧
    r.slot.itemId = itemId) StockSnapshot.qty db.stockSnapshots.rows

/-- `run_snapshot`. -/
def runSnapshot (today : Date) : Tx Unit := do
  Prog.exec (.deleteStockSnapshots today)
  Prog.exec (.insertStockSnapshots today)

/-- `verify_commit_three_books`, without the lists of its error texts. -/
def verifyCommitThreeBooks (warehouseId : Int) (ref : String) (effects : List ReturnEffect)
    (atDate : Date) : Tx Unit := do
  let ledgerOk ← Tx.select fun db =>
    effects.all fun e => effectLedgerDelta db ref e = some e.qty
  Tx.require (ledgerOk = true)
    (.valueError "三账一致性失败：ledger 写入不完整或 delta 不匹配")
  let totalsOk ← Tx.select fun db => effects.all fun e =>
    db.itemTotal warehouseId e.itemId = snapshotTotal db atDate warehouseId e.itemId
  Tx.require (totalsOk = true)
    (.valueError "三账一致性失败：snapshot_total != stocks_lot_total（Phase 4C：按 item 总量对齐）")

/-- The caller's part of a commit; `atDate` is the day of the commit's time,
`today` the day of the clock. -/
structure ReturnCommitCall where
  traceId : Option String := none
  occurredAt : Option Timestamp := none
  now : Timestamp := 0
  atDate : Date
  today : Date

/-- `enforce_three_books`; the effects of one task are all of one warehouse. -/
def enforceThreeBooks (warehouseId : Int) (ref : String) (effects : List ReturnEffect)
    (c : ReturnCommitCall) : Tx Unit := do
  runSnapshot c.today
  verifyCommitThreeBooks warehouseId ref effects c.atDate

/-! ## Commit -/

/-- The reason an adjustment answers; an idempotent answer has none. -/
def AdjustLotResult.reasonText : AdjustLotResult → String
  | .idempotent => ""
  | .applied a => a.reason

/-- The call of the lot writer that returns one line to its lot. -/
def ReturnTaskLine.returnArgs (ln : ReturnTaskLine) (task : ReturnTask) (lot : Lot)
    (c : ReturnCommitCall) : AdjustLotArgs :=
  { itemId := ln.itemId, warehouseId := task.warehouseId, lotId := some ln.lotId
    delta := ln.pickedQty, reason := MovementType.returned.value, ref := task.orderId
    refLine := some ln.id, occurredAt := some (c.occurredAt.getD c.now)
    metaDict := [("sub_reason", .str "RETURN_RECEIPT")]
    productionDate := lot.productionDate, expiryDate := lot.expiryDate
    traceId := c.traceId, utcNow := c.now }

/-- A line as printed in an error when its code is absent. -/
def codeText (code : Option String) : String := code.getD "None"

/-- One picked line of a commit. -/
def commitReturnLine (task : ReturnTask) (c : ReturnCommitCall) (ln : ReturnTaskLine) :
    Tx ReturnEffect := do
  let code := normLotCode (some ln.lotCodeSnapshot)
  Tx.require (0 < ln.lotId) (.valueError s!"return_task_line_lot_id_required:line_id={ln.id}")
  let lot ← Tx.select fun db => db.lots.lookup ln.lotId
  let lot ← Tx.requireSome lot (.valueError s!"return_task_line_lot_not_found:lot_id={ln.lotId}")
  Tx.require (lot.warehouseId = task.warehouseId) (.valueError
    s!"return_task_line_lot_warehouse_mismatch:line_id={ln.id}:task_warehouse_id={task.warehouseId}:lot_warehouse_id={lot.warehouseId}")
  Tx.require (lot.itemId = ln.itemId) (.valueError
    s!"return_task_line_lot_item_mismatch:line_id={ln.id}:line_item_id={ln.itemId}:lot_item_id={lot.itemId}")
  Tx.require (code = normLotCode lot.lotCode) (.valueError
    s!"return_task_line_lot_code_snapshot_mismatch:line_id={ln.id}:lot_code_snapshot={codeText code}:lot_code={codeText (normLotCode lot.lotCode)}")
  let res ← adjustLotImpl (ln.returnArgs task lot c)
  Prog.exec (.setReturnLineCommitted ln.id ln.pickedQty)
  return ⟨task.warehouseId, ln.itemId, ln.lotId, ln.pickedQty, ln.id, res.reasonText⟩

/-- The lines of a commit; a line nothing was received for is passed over. -/
def commitReturnLines (task : ReturnTask) (c : ReturnCommitCall) :
    List ReturnTaskLine → Tx (List ReturnEffect)
  | [] => return []
  | ln :: rest =>
      if ln.pickedQty ≤ 0 then commitReturnLines task c rest
      else do
        let e ← commitReturnLine task c ln
        let es ← commitReturnLines task c rest
        return e :: es

/-- `commit`. -/
def commitReturnTask (taskId : Int) (c : ReturnCommitCall) : Tx TaskWithLines := do
  let t ← getWithLines taskId true
  if t.task.status = .committed then return t
  else do
    let effects ← commitReturnLines t.task c t.lines
    let updatedAt :=
      if effects.isEmpty then t.task.updatedAt else some (c.occurredAt.getD c.now)
    Prog.exec (.setReturnTaskCommitted t.task.id updatedAt)
    Tx.when (effects.isEmpty = false)
      (enforceThreeBooks t.task.warehouseId t.task.orderId effects c)
    getWithLines taskId false

end WmsDu
