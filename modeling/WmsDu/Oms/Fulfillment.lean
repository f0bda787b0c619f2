import WmsDu.Oms.Schema

/-!
# Fulfilment records

`ensure_ship_committed`, `mark_shipped` and `manual_assign`: three writers of
the one row `order_fulfillment` keeps for an order. The first two move it to
the shipping stage and set its anchors; the third names the warehouse.
-/

namespace WmsDu

open Txn

/-! ## Statements -/

/-- `CASE execution_stage …`: every stage the column can hold goes to `SHIP`. -/
def stageToShip : Option ExecutionStage → Option ExecutionStage
  | none => some .ship
  | some .pick => some .ship
  | some .ship => some .ship

/-- The constraints a written row of `order_fulfillment` is checked against. -/
def OrderFulfillment.violates (f : OrderFulfillment) (db : OmsDb) : Option String :=
  match f.check with
  | some c => some c
  | none =>
      if ¬ db.wms.orders.HasKey f.orderId then some "order_fulfillment_order_id_fkey"
      else if ∃ w ∈ f.plannedWarehouseId, ¬ db.wms.warehouses.HasKey w then
        some "order_fulfillment_planned_warehouse_id_fkey"
      else if ∃ w ∈ f.actualWarehouseId, ¬ db.wms.warehouses.HasKey w then
        some "order_fulfillment_actual_warehouse_id_fkey"
      else none

/-- Write one row of `order_fulfillment`, in place of the order's old one. -/
def putFulfillment (f : OrderFulfillment) : Oms Unit :=
  Oms.write fun db =>
    match f.violates db with
    | some c => .error (.integrity c)
    | none => .ok ((), { db with orderFulfillment := db.orderFulfillment.upsert f })

/-- `_load_for_update`. -/
def loadForUpdate (orderId : Int) : Oms (Option OrderFulfillment) :=
  Oms.select fun db => db.orderFulfillment.lookup orderId

/-! ## The shipping anchors -/

structure ShipCommittedOut where
  idempotent : Bool
  shipCommittedAt : Timestamp
deriving DecidableEq

structure ShippedOut where
  idempotent : Bool
  shippedAt : Timestamp
deriving DecidableEq

/-- The row of an order that enters shipping without one. -/
def newShipCommitted (orderId warehouseId : Int) (at_ : Timestamp) : OrderFulfillment :=
  { orderId := orderId, plannedWarehouseId := none, actualWarehouseId := some warehouseId
    fulfillmentStatus := none, blockedReasons := none, executionStage := some .ship
    shipCommittedAt := some at_, shippedAt := none }

/-- The error of a second execution warehouse. -/
def warehouseConflict (orderId existing incoming : Int) : Err :=
  .problem 409 "fulfillment_warehouse_conflict" "执行仓冲突：订单已绑定执行仓，禁止换仓提交出库。"
    [("order_id", toString orderId), ("existing_actual_warehouse_id", toString existing),
      ("incoming_warehouse_id", toString incoming)]

/-- `ensure_ship_committed`. -/
def ensureShipCommitted (orderId warehouseId : Int) (at_ : Timestamp) : Oms ShipCommittedOut := do
  let existing ← loadForUpdate orderId
  match existing with
  | none => do
      putFulfillment (newShipCommitted orderId warehouseId at_)
      return ⟨false, at_⟩
  | some f => do
      Oms.require (f.actualWarehouseId = none ∨ f.actualWarehouseId = some warehouseId)
        (warehouseConflict orderId (f.actualWarehouseId.getD 0) warehouseId)
      putFulfillment
        { f with
          actualWarehouseId := f.actualWarehouseId <|> some warehouseId
          shipCommittedAt := f.shipCommittedAt <|> some at_
          executionStage := stageToShip f.executionStage }
      return ⟨f.shipCommittedAt.isSome, f.shipCommittedAt.getD at_⟩

/-- `mark_shipped`. -/
def markShipped (orderId : Int) (at_ : Timestamp) : Oms ShippedOut := do
  let existing ← loadForUpdate orderId
  let f ← Oms.requireSome existing
    (.problem 409 "fulfillment_missing"
      "订单履约记录不存在：禁止直接标记已出库，请先进入出库裁决链路（ship_committed）。"
      [("order_id", toString orderId)])
  match f.shippedAt with
  | some shippedAt => do
      putFulfillment { f with executionStage := stageToShip f.executionStage }
      return ⟨true, shippedAt⟩
  | none => do
      Oms.require (f.shipCommittedAt ≠ none)
        (.problem 409 "fulfillment_invalid_transition"
          "履约状态不允许直接标记已出库：必须先进入出库裁决链路（ship_committed）。"
          [("order_id", toString orderId)])
      putFulfillment
        { f with
          shippedAt := f.shippedAt <|> some at_
          executionStage := stageToShip f.executionStage }
      return ⟨false, at_⟩

/-! ## The execution warehouse -/

structure ManualAssignResult where
  orderId : Int
  fromWarehouseId : Option Int
  toWarehouseId : Int
  fulfillmentStatus : String

/-- An order by its platform key, the platform and store as stored. -/
def orderByKey (db : OmsDb) (platform storeCode extOrderNo : String) : Option OrderHead :=
  db.wms.orders.rows.find? fun o =>
    o.platform = platform ∧ o.storeCode = storeCode ∧ o.extOrderNo = extOrderNo

/-- `_load_order_lines_sum`: what the order needs, item by item. -/
def orderLinesSum (db : OmsDb) (orderId : Int) : List (Int × Int) :=
  let rows := db.orderItems.rows.filter fun i => i.orderId = orderId
  (((rows.map OrderItem.itemId).dedup.insertionSort (· ≤ ·)).map fun item =>
    (item, sumOver (fun i : OrderItem => i.itemId = item) OrderItem.qty rows)).filter
      fun n => 0 < n.2

/-- The row `manual_assign` upserts: only the warehouse, the status and the
blocks of an old row change. -/
def assignedFulfillment (orderId warehouseId : Int) (old : Option OrderFulfillment) :
    OrderFulfillment :=
  match old with
  | none =>
      { orderId := orderId, plannedWarehouseId := none, actualWarehouseId := some warehouseId
        fulfillmentStatus := some "MANUALLY_ASSIGNED", blockedReasons := none
        executionStage := none, shipCommittedAt := none, shippedAt := none }
  | some f =>
      { f with
        actualWarehouseId := some warehouseId
        fulfillmentStatus := some "MANUALLY_ASSIGNED"
        blockedReasons := none }

/-- `manual_assign_fulfillment_warehouse`. -/
def manualAssign (platform storeCode extOrderNo : String) (warehouseId : Int) (reason : String) :
    Oms ManualAssignResult := do
  let plat := strip (upper platform)
  let sid := strip storeCode
  Oms.require (0 < warehouseId) (.valueError "manual-assign blocked: warehouse_id must be > 0")
  Oms.require (strip reason ≠ "") (.valueError "manual-assign blocked: reason is required")
  let found ← Oms.select fun db => orderByKey db plat sid extOrderNo
  let order ← Oms.requireSome found
    (.valueError s!"order not found: platform={plat}, store_code={sid}, ext_order_no={extOrderNo}")
  let old ← Oms.select fun db => db.orderFulfillment.lookup order.id
  let lines ← Oms.select fun db => orderLinesSum db order.id
  -- what the warehouse is short of goes into the audit event only
  Oms.require (lines ≠ []) (.valueError "manual-assign blocked: order has no lines")
  putFulfillment (assignedFulfillment order.id warehouseId old)
  return ⟨order.id, old.bind OrderFulfillment.actualWarehouseId, warehouseId, "MANUALLY_ASSIGNED"⟩

/-! ## Calls -/

/-- A call of one of the writers. -/
inductive FulfillmentOp
  | ensureShipCommitted (orderId warehouseId : Int) (at_ : Timestamp)
  | markShipped (orderId : Int) (at_ : Timestamp)
  | manualAssign (platform storeCode extOrderNo : String) (warehouseId : Int) (reason : String)

/-- The state a call leaves. -/
def FulfillmentOp.step : FulfillmentOp → OmsDb → OmsDb
  | .ensureShipCommitted orderId warehouseId at_, db =>
      ((WmsDu.ensureShipCommitted orderId warehouseId at_).call db).2
  | .markShipped orderId at_, db => ((WmsDu.markShipped orderId at_).call db).2
  | .manualAssign platform storeCode extOrderNo warehouseId reason, db =>
      ((WmsDu.manualAssign platform storeCode extOrderNo warehouseId reason).call db).2

end WmsDu
