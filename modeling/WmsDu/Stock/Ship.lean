import WmsDu.Db.Runs
import WmsDu.Stock.AdjustLot

/-!
# Direct shipments

`ship_commit_direct_lot_impl`: the quantities of a request are summed item by
item, what earlier calls with the same reference shipped is taken off, and
the rest leaves from the first lot without a code. It does not ask the freeze
guard.
-/

namespace WmsDu

open Txn

/-- One line of a direct shipment. -/
structure ShipLine where
  itemId : Int
  qty : Int

/-- `need_by_item`: quantities summed by item, in the order items first appear. -/
def needByItem (lines : List ShipLine) : List (Int × Int) :=
  ((lines.map ShipLine.itemId).reverse.dedup.reverse).map fun i =>
    (i, sumOver (fun l : ShipLine => l.itemId = i) ShipLine.qty lines)

/-- What earlier calls took under a reference, as a negative sum. -/
def alreadyShipped (db : Db) (warehouseId itemId : Int) (ref : String) : Int :=
  sumOver (fun row : StockLedgerRow => row.slot.warehouseId = warehouseId ∧
      row.slot.itemId = itemId ∧ row.key.ref = ref ∧ row.delta < 0)
    StockLedgerRow.delta db.stockLedger.rows

/-- `_load_total_available_qty`. -/
def totalAvailableQty (db : Db) (warehouseId itemId : Int) : Int :=
  sumOver (fun r : StocksLotRow => r.slot.warehouseId = warehouseId ∧ r.slot.itemId = itemId ∧
    0 < r.qty) StocksLotRow.qty db.stocksLot.rows

/-- The first slot with stock whose lot has no code. -/
def internalSlot (db : Db) (warehouseId itemId : Int) : Option StocksLotRow :=
  ((db.stocksLot.rows.filter fun r => r.slot.itemId = itemId ∧ r.slot.warehouseId = warehouseId ∧
      0 < r.qty ∧ ∃ lo ∈ db.lots.lookup r.slot.lotId, lo.warehouseId = r.slot.warehouseId ∧
        lo.itemId = r.slot.itemId ∧ lo.lotCode = none).insertionSort
    fun a b => a.slot.lotId ≤ b.slot.lotId).head?

/-- The answer of a shortage, with `_shortage_detail`. -/
def shortageError (itemId available required : Int) : Err :=
  .problem 409 "insufficient_stock" "库存不足，禁止提交出库。"
    [("type", "shortage"), ("item_id", toString itemId), ("required_qty", toString required),
      ("available_qty", toString available),
      ("short_qty", toString (max 0 (required - available))), ("reason", "insufficient_stock")]

/-- Read what is available and raise the shortage. -/
def raiseShortage {α : Type} (warehouseId itemId required : Int) : Tx α := do
  let available ← Tx.select fun db => totalAvailableQty db warehouseId itemId
  Prog.raise (shortageError itemId available required)

/-- The caller's part of a direct shipment. -/
structure ShipCall where
  warehouseId : Int
  ref : String
  occurredAt : Option Timestamp := none
  traceId : Option String := none
  now : Timestamp := 0

/-- One taken quantity. -/
structure ShipEffect where
  slot : Slot
  qty : Int
  refLine : Int

/-- The call of the lot writer a shipment makes. -/
def ShipCall.adjustArgs (c : ShipCall) (itemId lotId take refLine : Int) : AdjustLotArgs :=
  { itemId := itemId, warehouseId := c.warehouseId, lotId := some lotId, delta := -take
    reason := MovementType.ship.value, ref := c.ref, refLine := some refLine
    occurredAt := some (c.occurredAt.getD c.now)
    metaDict := [("sub_reason", .str "ORDER_SHIP")], traceId := c.traceId, utcNow := c.now }

/-- One item with a positive need. -/
def shipItem (c : ShipCall) (itemId need refLine : Int) : Tx ShipEffect := do
  let row ← Prog.exec (.selectForUpdate
    (fun db => (internalSlot db c.warehouseId itemId).toList.map fun r => .slot r.slot)
    (fun db => internalSlot db c.warehouseId itemId))
  match row with
  | none => raiseShortage c.warehouseId itemId need
  | some r => do
      let take := min need r.qty
      Tx.when (take ≤ 0) (raiseShortage c.warehouseId itemId need)
      let _ ← adjustLotImpl (c.adjustArgs itemId r.slot.lotId take refLine)
      Tx.when (take < need) (raiseShortage c.warehouseId itemId (need - take))
      return ⟨⟨c.warehouseId, itemId, r.slot.lotId⟩, -take, refLine⟩

/-- The error of an item whose lots must be named. -/
def batchRequiredError (itemId : Int) : Err :=
  .problem 422 "batch_required" "批次受控商品必须提供批次，禁止自动挑选批次出库。"
    [("type", "batch"), ("path", "lines[item_id]"), ("item_id", toString itemId),
      ("reason", "lot_code_required")]

/-- The loop over the needed items; `effects` are the ones taken so far. -/
def shipItems (c : ShipCall) (policy : Int → Option ExpiryPolicy) :
    List (Int × Int) → List ShipEffect → Tx (List ShipEffect)
  | [], effects => return effects
  | (itemId, want) :: rest, effects => do
      Tx.require (policy itemId ≠ some .required) (batchRequiredError itemId)
      let already ← Tx.select fun db => alreadyShipped db c.warehouseId itemId c.ref
      let need := want + already
      if need ≤ 0 then shipItems c policy rest effects
      else do
        let e ← shipItem c itemId need (effects.length + 1)
        shipItems c policy rest (effects ++ [e])

/-! ## The invariant guard -/

/-- The later row first, then the later insert. -/
def lastLedgerRow (db : Db) (ref : String) (s : Slot) : Option StockLedgerRow :=
  ((db.stockLedger.rows.filter fun row => row.key.ref = ref ∧ row.slot = s).reverse.insertionSort
    fun a b => b.occurredAt ≤ a.occurredAt).head?

/-- `enforce_outbound_invariant_guard`, without the lists of its error text. -/
def enforceOutboundInvariantGuard (ref : String) (effects : List ShipEffect) : Tx Unit := do
  let ok ← Tx.select fun db => effects.all fun e =>
    (lastLedgerRow db ref e.slot).map StockLedgerRow.afterQty = some (db.qtyOf e.slot)
  Tx.require (ok = true) (.problem 409 "invariant_guard_failed"
    "执行域不变量校验失败：ref 内最后一条 ledger.after_qty 与 stocks_lot.qty 不一致。" [])

/-- The answer of a direct shipment. -/
structure ShipOut where
  idempotent : Bool
  applied : Bool
  ref : String
  totalQty : Int

/-- `ship_commit_direct_lot_impl`. -/
def shipCommitDirect (c : ShipCall) (lines : List ShipLine) : Tx ShipOut := do
  let need := needByItem lines
  if need.isEmpty then return ⟨true, false, c.ref, 0⟩
  else do
    let policy ← Tx.select fun db i => (db.items.lookup i).map fun it => it.policy.expiryPolicy
    let missing := ((need.map Prod.fst).filter fun i => policy i = none).insertionSort (· ≤ ·)
    Tx.require (missing.isEmpty = true) (.problem 422 "unknown_item" "未知商品，禁止出库。"
      [("type", "validation"), ("path", "lines"), ("item_ids", toString missing),
        ("reason", "unknown_item")])
    let effects ← shipItems c policy need []
    Tx.when (effects.isEmpty = false) (enforceOutboundInvariantGuard c.ref effects)
    return ⟨effects.isEmpty, !effects.isEmpty, c.ref,
      (effects.map fun e => -e.qty).sum⟩

end WmsDu
