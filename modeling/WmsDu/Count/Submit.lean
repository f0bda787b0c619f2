import WmsDu.Count.FreezeGuard
import WmsDu.Stock.Lots

/-!
# Direct counts

`CountService.submit` and the recount endpoint: both set the balance behind
one lot code to a counted quantity by one adjustment of the difference.
-/

namespace WmsDu

open Txn

/-- The stock of a warehouse and item behind one lot code; `NULL` matches
lots without a code. -/
def currentQtyByLotCode (db : Db) (itemId warehouseId : Int) (lotCode : Option String) : Int :=
  sumOver (fun r : StocksLotRow => r.slot.itemId = itemId ∧ r.slot.warehouseId = warehouseId ∧
      (db.lots.lookup r.slot.lotId).bind Lot.lotCode = lotCode)
    StocksLotRow.qty db.stocksLot.rows

/-- `CountRequest`. -/
structure CountRequest where
  itemId : Int
  warehouseId : Int
  qty : Int
  ref : String
  lotCode : Option String := none
  occurredAt : Timestamp
  productionDate : Option Date := none
  expiryDate : Option Date := none
  warehouseId_ge : 1 ≤ warehouseId := by decide
  qty_ge : 0 ≤ qty := by decide

/-- `CountResponse`. -/
structure CountResponse where
  after : Int
  ref : String
  itemId : Int
  warehouseId : Int
  lotCode : Option String
  occurredAt : Timestamp

/-- The balance an adjustment answers, or the given one when nothing was applied. -/
def AdjustLotResult.afterD (r : AdjustLotResult) (qty : Int) : Int :=
  match r with
  | .idempotent => qty
  | .applied a => a.after

/-- The call of the lot writer a count makes. -/
def CountRequest.adjustArgs (req : CountRequest) (lotId : Int) (lotCode : Option String)
    (delta : Int) (now : Timestamp) : AdjustLotArgs :=
  { itemId := req.itemId, warehouseId := req.warehouseId, lotId := some lotId, delta := delta
    reason := MovementType.count.value, ref := req.ref, refLine := some 1
    occurredAt := some req.occurredAt, lotCode := lotCode
    productionDate := req.productionDate, expiryDate := req.expiryDate
    metaDict :=
      if delta ≠ 0 then [("sub_reason", .str "COUNT_ADJUST")]
      else [("sub_reason", .str "COUNT_CONFIRM"), ("allow_zero_delta_ledger", .bool true)]
    utcNow := now }

/-- `CountService.submit`. -/
def countSubmit (req : CountRequest) (newLotId : Int) (now : Timestamp) : Tx CountResponse := do
  ensureWarehouseNotFrozen req.warehouseId
  let item ← Tx.select fun db => db.items.lookup req.itemId
  let item ← Tx.requireSome item (.lookupError s!"unknown item_id: {req.itemId}")
  let requiresBatch : Bool := item.policy.expiryPolicy = .required
  let code ← Tx.ofExcept (validateLotCodeContract requiresBatch req.lotCode)
  Tx.require (¬ (requiresBatch = true ∧ req.productionDate = none ∧ req.expiryDate = none))
    (.valueError
      "expiry-policy REQUIRED item requires production_date or expiry_date (at least one).")
  let (lotId, lotCode) ← resolveLotForStockAdjust req.itemId req.warehouseId code
    req.productionDate req.expiryDate newLotId
  let current ← Tx.select fun db => currentQtyByLotCode db req.itemId req.warehouseId lotCode
  let res ← adjustLotImpl (req.adjustArgs lotId lotCode (req.qty - current) now)
  return {
    after := res.afterD req.qty, ref := req.ref, itemId := req.itemId
    warehouseId := req.warehouseId, lotCode := lotCode, occurredAt := req.occurredAt }

/-! ## Recount -/

/-- `StockRecountRequest`; `deviceId` is the one of its context. -/
structure StockRecountRequest where
  itemId : Int
  warehouseId : Int
  lotCode : Option String := none
  actual : Int
  deviceId : Option String := none
  warehouseId_ge : 1 ≤ warehouseId := by decide
  actual_ge : 0 ≤ actual := by decide

/-- `_make_scan_ref`; `iso` is the printed clock. -/
def makeScanRef (deviceId : Option String) (iso : String) (warehouseId : Int) : String :=
  let dev := lower ((deviceId.bind orNone).getD "device")
  lower s!"scan:{dev}:{iso}:wh:{warehouseId}"

/-- The answer of a recount. -/
structure StockRecountOut where
  scanRef : String
  eventId : Int
  onHand : Int
  actual : Int
  delta : Int

/-- What the clock and the sequences draw for one recount. -/
structure RecountDraws where
  occurredAt : Timestamp
  iso : String
  newLotId : Int
  logId : Int

/-- `stock_recount`. -/
def stockRecount (req : StockRecountRequest) (c : RecountDraws) : Tx StockRecountOut := do
  let scanRef := makeScanRef req.deviceId c.iso req.warehouseId
  ensureWarehouseNotFrozen req.warehouseId
  let onHand ← Tx.select fun db => currentQtyByLotCode db req.itemId req.warehouseId req.lotCode
  let delta := req.actual - onHand
  Tx.when (delta ≠ 0) (do
    let (lotId, lotCode) ← resolveLotForStockAdjust req.itemId req.warehouseId req.lotCode
      none none c.newLotId
    let _ ← adjustLotImpl
      { itemId := req.itemId, warehouseId := req.warehouseId, lotId := some lotId, delta := delta
        reason := "COUNT", ref := scanRef, lotCode := lotCode, utcNow := c.occurredAt }
    return ())
  Prog.exec (.insertEventLog
    { id := c.logId, source := "stock_recount", message := scanRef, occurredAt := c.occurredAt })
  return ⟨scanRef, c.logId, onHand, req.actual, delta⟩

end WmsDu
