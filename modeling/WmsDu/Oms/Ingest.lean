import WmsDu.Data.Tally
import WmsDu.Oms.Routing

/-!
# Order ingest

`OrderIngestService.ingest` writes an order with its items, the order lines
that shipping works from, and the route to a service warehouse. A repeated
call finds the order and skips the items and the route; the lines it deletes
and writes again, and an error of that part is swallowed.
-/

namespace WmsDu

open Txn

/-! ## Requests -/

/-- An item of the payload; a price that is no decimal counts as zero. -/
structure IngestItem where
  itemId : Option Int
  qty : Option Int
  skuId : Option String := none
  title : Option String := none
  price : Int := 0
  discount : Int := 0
  amount : Int := 0
deriving DecidableEq

/-- A call of `ingest`, with the ids its inserts draw from the sequences;
`defaults` is the address the environment falls back to. -/
structure IngestRequest where
  platform : String
  storeCode : String
  extOrderNo : String
  items : List IngestItem
  address : Option Address := none
  defaults : Address := {}
  storeId : Int
  orderId : Int
  itemRowId : Nat → Int
  lineId : Nat → Int

structure IngestOut where
  status : String
  id : Int
  ref : String
  route : RoutePayload
  ingestState : String
  routeStatus : String
deriving DecidableEq

/-! ## The store -/

/-- `norm_platform`. -/
def normPlatform (v : String) : String := upper (strip v)

/-- `norm_store_code`. -/
def normStoreCode (v : String) : String := strip v

/-- A store by its platform key. -/
def storeByKey (db : OmsDb) (platform storeCode : String) : Option Store :=
  db.stores.rows.find? fun s => s.platform = platform ∧ s.storeCode = storeCode

/-- The insert of `ensure_store`: a store whose key is taken takes the name. -/
def putStore (store : Store) : Oms Unit :=
  Oms.write fun db =>
    match storeByKey db store.platform store.storeCode with
    | some s => .ok ((), { db with stores := db.stores.upsert { s with storeName := store.storeName } })
    | none =>
        if store.id ≤ 0 ∨ db.stores.HasKey store.id then .error (.integrity "stores_pkey")
        else .ok ((), { db with stores := db.stores.insert store })

/-- `StoreService.ensure_store`. -/
def ensureStore (platform storeCode : String) (storeName : Option String) (storeId : Int) :
    Oms Int := do
  let plat := upper platform
  let found ← Oms.select fun db => storeByKey db plat storeCode
  match found with
  | some s => return s.id
  | none => do
      putStore
        { id := storeId, platform := plat, storeCode := storeCode
          storeName := storeName.getD s!"{plat}-{storeCode}" }
      return storeId

/-- `resolve_store_id`. -/
def resolveStoreId (platform storeCode : String) (storeName : Option String) (storeId : Int) :
    Oms Int := do
  let plat := normPlatform platform
  let sid := normStoreCode storeCode
  let found ← Oms.select fun db => storeByKey db plat sid
  match found with
  | some s => return s.id
  | none => do
      let name := (storeName.bind orNone).getD s!"{plat}-{sid}"
      let _ ← ensureStore plat sid (orNone name) storeId
      let made ← Oms.select fun db => storeByKey db plat sid
      let s ← Oms.requireSome made
        (.runtimeError s!"ensure_store failed: platform={plat} store_code={sid}")
      return s.id

/-! ## The order -/

/-- The insert of an order; it adds nothing when the platform key is taken. -/
def insertOrder (order : OrderHead) : Oms (Option Int) :=
  Oms.write fun db =>
    if (orderByKey db order.platform order.storeCode order.extOrderNo).isSome then .ok (none, db)
    else if order.id ≤ 0 ∨ db.wms.orders.HasKey order.id then .error (.integrity "orders_pkey")
    else .ok (some order.id, db.withOrder order)

/-- `insert_order_or_get_idempotent`: whether the key was taken, and the id. -/
def insertOrderOrGetIdempotent (order : OrderHead) : Oms (Bool × Option Int) := do
  let newId ← insertOrder order
  match newId with
  | some id => return (false, some id)
  | none => do
      let found ← Oms.select fun db =>
        orderByKey db order.platform order.storeCode order.extOrderNo
      return (true, found.map OrderHead.id)

/-! ## Order items -/

/-- `_norm_str`. -/
def normStr (v : Option String) (maxLen : Nat) : Option String :=
  (cleanText v).map fun s => String.ofList (s.toList.take maxLen)

/-- The row of `order_items` an item of the payload asks for. -/
def IngestItem.row (it : IngestItem) (id orderId itemId : Int) : OrderItem :=
  { id := id, orderId := orderId, itemId := itemId
    skuId := normStr it.skuId 128, title := normStr it.title 255
    qty := it.qty.getD 0, price := it.price, discount := it.discount, amount := it.amount
    shippedQty := 0, returnedQty := 0 }

/-- Two rows of one order with one sku; rows without a sku never clash. -/
def OrderItem.clashes (i j : OrderItem) : Prop :=
  i.orderId = j.orderId ∧ i.skuId ≠ none ∧ i.skuId = j.skuId

instance (i j : OrderItem) : Decidable (i.clashes j) :=
  inferInstanceAs (Decidable (_ ∧ _ ∧ _))

/-- `INSERT INTO order_items … ON CONFLICT (order_id, sku_id) DO NOTHING`. -/
def insertOrderItem (it : IngestItem) (id orderId : Int) : Oms Unit :=
  Oms.write fun db =>
    match it.itemId with
    | none => .error (.integrity "order_items_item_id_not_null")
    | some itemId =>
        match (it.row id orderId itemId).check with
        | some c => .error (.integrity c)
        | none =>
            if ∃ i ∈ db.orderItems.rows, i.clashes (it.row id orderId itemId) then .ok ((), db)
            else if id ≤ 0 ∨ db.orderItems.HasKey id then .error (.integrity "order_items_pkey")
            else if ¬ db.wms.orders.HasKey orderId then .error (.integrity "order_items_order_id_fkey")
            else if ¬ db.wms.items.HasKey itemId then .error (.integrity "order_items_item_id_fkey")
            else .ok ((), { db with orderItems := db.orderItems.insert (it.row id orderId itemId) })

/-- `insert_order_items`; `id n` is the id of the payload's item `n`. -/
def insertOrderItems (orderId : Int) (id : Nat → Int) : List IngestItem → Nat → Oms Unit
  | [], _ => pure ()
  | it :: items, n => do
      insertOrderItem it (id n) orderId
      insertOrderItems orderId id items (n + 1)

/-! ## Order lines -/

/-- An item with a positive id and a positive quantity. -/
def IngestItem.Demands (it : IngestItem) : Prop := 0 < it.itemId.getD 0 ∧ 0 < it.qty.getD 0

instance (it : IngestItem) : Decidable it.Demands := inferInstanceAs (Decidable (_ ∧ _))

/-- `_extract_req_qty`: the quantities summed item by item. -/
def extractReqQty (items : List IngestItem) : Tally Int :=
  Tally.ofList IngestItem.Demands (fun it => it.itemId.getD 0) (fun it => it.qty.getD 0) items

/-- Delete the lines of an order, which none of the outbound lines may name. -/
def deleteOrderLines (orderId : Int) : Oms Unit :=
  Oms.write fun db =>
    if ∃ l ∈ db.wms.orderLines.rows, l.orderId = orderId ∧
        ∃ o ∈ db.wms.outboundEventLines.rows, o.orderLineId = some l.id then
      .error (.integrity "fk_outbound_event_lines_order_line")
    else
      .ok ((), db.withOrderLines (db.wms.orderLines.delete fun l => l.orderId = orderId))

/-- Insert one order line. -/
def insertOrderLine (line : OrderLine) : Oms Unit :=
  Oms.write fun db =>
    if line.id ≤ 0 ∨ db.wms.orderLines.HasKey line.id then .error (.integrity "order_lines_pkey")
    else if ¬ db.wms.orders.HasKey line.orderId then .error (.integrity "order_lines_order_id_fkey")
    else .ok ((), db.withOrderLines (db.wms.orderLines.insert line))

/-- The inserts of one order's lines. -/
def insertLines (orderId : Int) (id : Nat → Int) : List (Int × Int) → Nat → Oms Unit
  | [], _ => pure ()
  | (itemId, reqQty) :: lines, n => do
      insertOrderLine { id := id n, orderId := orderId, itemId := itemId, reqQty := reqQty }
      insertLines orderId id lines (n + 1)

/-- `insert_order_lines`: delete, then insert. -/
def insertOrderLines (orderId : Int) (id : Nat → Int) (items : List IngestItem) : Oms Unit :=
  let lines := (extractReqQty items).rows
  if lines = [] then pure ()
  else do
    deleteOrderLines orderId
    insertLines orderId id lines 0

/-! ## Ingest -/

/-- The key a request names its order by. -/
def IngestRequest.order (req : IngestRequest) : OrderHead :=
  { id := req.orderId, platform := strip (upper req.platform), storeCode := req.storeCode
    extOrderNo := req.extOrderNo }

/-- The routing step: a new order is routed, a repeated one reads its route
back. -/
def ingestRoute (idempotentHit : Bool) (orderId : Int) (address : Option Address)
    (defaults : Address) : Oms RoutePayload :=
  if idempotentHit then do
    let existing ← loadExistingRoutePayload orderId
    match existing with
    | some route => pure route
    | none => resolveRoutePayload address defaults
  else do
    let route ← resolveRoutePayload address defaults
    upsertOrderFulfillmentRoute orderId route
    return route

/-- The answer of `ingest`. -/
def ingestAnswer (req : IngestRequest) (idempotentHit : Bool) (orderId : Int)
    (route : RoutePayload) : IngestOut :=
  let routeStatus := (route.status.bind orNone).getD "UNKNOWN"
  { status :=
      if idempotentHit then "IDEMPOTENT"
      else if routeStatus = "FULFILLMENT_BLOCKED" then "FULFILLMENT_BLOCKED" else "OK"
    id := orderId
    ref := s!"ORD:{req.order.platform}:{req.storeCode}:{req.extOrderNo}"
    route := route
    ingestState := "CREATED"
    routeStatus := routeStatus }

/-- `OrderIngestService.ingest`. -/
def ingest (req : IngestRequest) : Oms IngestOut := do
  let plat := req.order.platform
  let _ ← resolveStoreId plat req.storeCode (some req.storeCode) req.storeId
  let (idempotentHit, orderIdRaw) ← insertOrderOrGetIdempotent req.order
  let orderId ← Oms.requireSome orderIdRaw
    (.runtimeError "订单接入失败：insert_order_or_get_idempotent 未返回 id")
  Oms.when (idempotentHit = false) (insertOrderItems orderId req.itemRowId req.items 0)
  -- an error of the lines is swallowed, the transaction stays aborted
  Sess.attempt (insertOrderLines orderId req.lineId req.items)
  let route ← ingestRoute idempotentHit orderId req.address req.defaults
  return ingestAnswer req idempotentHit orderId route

end WmsDu
