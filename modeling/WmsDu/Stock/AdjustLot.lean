import WmsDu.Db.Sql

/-!
# The lot stock writer

`adjust_lot_impl`, the single entry through which most services change stock,
with the helpers it calls: the meta readers, the lot guard, the date rules,
the idempotency probe, the slot primitives and the ledger writer.
-/

namespace WmsDu

open Txn

namespace Tx

/-- A computation that only can raise. -/
def ofExcept (x : Except Err β) : Tx β :=
  match x with
  | .ok b => pure b
  | .error e => Prog.raise e

end Tx

/-! ## Movement types -/

/-- The values of `MovementType` the services pass as a reason; several names
share a value. -/
inductive MovementType
  | receipt | inbound | returned | ship | count | adjustment
deriving DecidableEq

def MovementType.value : MovementType → String
  | .receipt | .inbound | .returned => "RECEIPT"
  | .ship => "SHIPMENT"
  | .count | .adjustment => "ADJUSTMENT"

/-! ## Meta -/

/-- A value of the `meta` dictionary. -/
inductive MetaVal
  | null
  | bool (b : Bool)
  | int (n : Int)
  | str (s : String)
deriving DecidableEq

/-- The `meta` dictionary; an absent one is empty. -/
abbrev Meta := List (String × MetaVal)

/-- A text that may be absent, as a value of the dictionary. -/
def MetaVal.ofText (o : Option String) : MetaVal :=
  match o with
  | some s => .str s
  | none => .null

/-- `meta.get(key)`. -/
def metaGet (metaDict : Meta) (key : String) : MetaVal := (metaDict.lookup key).getD .null

/-- `meta_bool`: only a literal `True` counts. -/
def metaBool (metaDict : Meta) (key : String) : Bool := metaGet metaDict key = .bool true

/-- `meta_str`: a blank text counts as absent. -/
def metaStr (metaDict : Meta) (key : String) : Except Err (Option String) :=
  match metaGet metaDict key with
  | .null => .ok none
  | .str s => .ok (orNone (strip s))
  | _ => .error (.valueError s!"meta.{key} 必须为字符串")

/-- `_meta_int`: only a positive number counts. -/
def metaInt (metaDict : Meta) (key : String) : Except Err (Option Int) :=
  let positive (n : Int) : Option Int := if 0 < n then some n else none
  match metaGet metaDict key with
  | .null => .ok none
  | .bool b => .ok (positive (if b then 1 else 0))
  | .int n => .ok (positive n)
  | .str s =>
      match (strip s).toInt? with
      | some n => .ok (positive n)
      | none => .error (.valueError s!"meta.{key} must be int")

/-! ## Guards and date rules -/

/-- `item_requires_batch`. -/
def itemRequiresBatch (itemId : Int) : Tx Bool := do
  let item ← Tx.select fun db => db.items.lookup itemId
  let item ← Tx.requireSome item (.valueError "item_not_found")
  return item.policy.expiryPolicy = .required

/-- `assert_lot_belongs_to`. -/
def assertLotBelongsTo (warehouseId itemId lotId : Int) : Tx Unit := do
  let lot ← Tx.select fun db => db.lots.lookup lotId
  let lot ← Tx.requireSome lot (.valueError "lot_not_found")
  Tx.require (lot.warehouseId = warehouseId ∧ lot.itemId = itemId) (.valueError "lot_mismatch")

/-- How a pair of dates was completed. -/
inductive BatchDateResolutionMode
  | fromProductionAndShelfLife | fromBothExplicit | fromExpiryAndShelfLifeReverse
deriving DecidableEq

/-- The error of a production date behind its expiry date. -/
def datesReversed : Err := .valueError "production_date cannot be later than expiry_date"

/-- `normalize_batch_dates_for_item`. -/
def normalizeBatchDatesForItem (itemId : Int) (productionDate expiryDate : Option Date) :
    Tx (Option Date × Option Date × Option BatchDateResolutionMode) := do
  if productionDate = none ∧ expiryDate = none then
    return (none, none, none)
  let item ← Tx.select fun db => db.items.lookup itemId
  match item with
  | none =>
      match productionDate, expiryDate with
      | some pd, some ed =>
          if ed.before pd then Prog.raise datesReversed
          else return (some pd, some ed, some .fromBothExplicit)
      | _, _ => return (productionDate, expiryDate, none)
  | some item =>
      let shelfLife := buildShelfLife item.policy.shelfLifeValue item.policy.shelfLifeUnit
      if item.policy.expiryPolicy = .none then
        return (none, none, none)
      match productionDate, expiryDate with
      | some pd, some ed =>
          if ed.before pd then Prog.raise datesReversed
          else return (some pd, some ed, some .fromBothExplicit)
      | some pd, none =>
          match item.policy.derivationAllowed, shelfLife with
          | true, some life =>
              return (some pd, some (computeExpiryFromShelfLife pd life),
                some .fromProductionAndShelfLife)
          | _, _ => return (some pd, none, none)
      | none, some ed =>
          match item.policy.derivationAllowed, shelfLife with
          | true, some life =>
              return (some (computeProductionFromShelfLife ed life), some ed,
                some .fromExpiryAndShelfLifeReverse)
          | _, _ => return (none, some ed, none)
      | none, none => return (none, none, none)

/-- `resolve_and_validate_dates_for_inbound`. -/
def resolveAndValidateDatesForInbound (itemId delta : Int) (lotCodeNorm : Option String)
    (productionDate expiryDate : Option Date) : Tx (Option Date × Option Date) := do
  if lotCodeNorm = none then
    return (none, none)
  let (pd, ed, _) ← normalizeBatchDatesForItem itemId productionDate expiryDate
  Tx.require (0 < delta → pd ≠ none)
    (.valueError "批次受控商品必须提供 production_date，或提供可结合保质期反推出 production_date 的 expiry_date。")
  Tx.require (0 < delta → ed ≠ none)
    (.valueError "未提供到期日期，且商品未配置可用于推算的保质期，无法形成 canonical expiry_date。")
  match pd, ed with
  | some p, some e =>
      if e.before p then
        Prog.raise (.valueError s!"expiry_date({e.iso}) < production_date({p.iso})")
      else return (pd, ed)
  | _, _ => return (pd, ed)

/-! ## Idempotency and slots -/

/-- `idem_hit_by_lot_key`. -/
def idemHitByLotKey (k : IdemKey) : Tx Bool :=
  Tx.select fun db => decide (db.stockLedger.HasKey k)

/-- `SELECT … FROM stocks_lot … FOR UPDATE` of one slot. -/
def selectSlotForUpdate (s : Slot) : Tx (Option Int) :=
  Prog.exec (.selectForUpdate
    (fun db => if db.stocksLot.HasKey s then [.slot s] else [])
    (fun db => (db.stocksLot.lookup s).map StocksLotRow.qty))

/-- `lock_stocks_lot_slot_for_update`. -/
def lockStocksLotSlotForUpdate (s : Slot) : Tx Int := do
  let qty ← selectSlotForUpdate s
  Tx.requireSome qty (.valueError
    s!"stocks_lot slot missing for item={s.itemId}, wh={s.warehouseId}, lot_id={s.lotId}")

/-- `load_lot_code_for_lot_id`. -/
def loadLotCodeForLotId (lotId : Int) : Tx (Option String) := do
  let lot ← Tx.select fun db => db.lots.lookup lotId
  return lot.bind fun l => cleanText l.lotCode

/-! ## The ledger writer -/

/-- `_canon_reason`. -/
def canonReason (reason : String) : Option String :=
  let r := upper (strip reason)
  if r ∈ ["RECEIPT", "INBOUND", "RECEIVE", "RETURN", "RETURN_IN", "RETURN_CUSTOMER", "RMA_IN"] then
    some "RECEIPT"
  else if r ∈ ["SHIPMENT", "SHIP", "OUTBOUND", "OUTBOUND_SHIP", "OUTBOUND_COMMIT", "DISPATCH",
      "RETURN_OUT", "RTV"] then
    some "SHIPMENT"
  else if r ∈ ["ADJUSTMENT", "ADJUST", "COUNT", "PICK", "PACK", "SCRAP", "CORRECT",
      "MANUAL_ADJUST"] then
    some "ADJUSTMENT"
  else none

/-- `_need_patch`. -/
def needPatch (p : LedgerPatch) : Bool :=
  p.reasonCanon.isSome || p.subReason.isSome || p.traceId.isSome || p.eventId.isSome ||
    p.productionDate.isSome || p.expiryDate.isSome

/-- The row `write_ledger` builds: dates stay only on receipts. -/
def ledgerRow (k : IdemKey) (subReason : Option String) (delta afterQty : Int)
    (occurredAt : Timestamp) (traceId : Option String) (eventId : Option Int)
    (productionDate expiryDate : Option Date) : StockLedgerRow :=
  let isReceipt := canonReason k.reason = some "RECEIPT"
  { key := k, reasonCanon := canonReason k.reason, subReason := subReason
    delta := delta, afterQty := afterQty, occurredAt := occurredAt
    traceId := traceId, eventId := eventId
    productionDate := if isReceipt then productionDate else none
    expiryDate := if isReceipt then expiryDate else none }

/-- The columns of a row that a second write with the same key may fill. -/
def StockLedgerRow.patch (row : StockLedgerRow) : LedgerPatch :=
  { reasonCanon := row.reasonCanon, subReason := row.subReason, traceId := row.traceId
    eventId := row.eventId, productionDate := row.productionDate, expiryDate := row.expiryDate }

/-- `write_ledger`; the answer says whether a new row was written. -/
def writeLedger (row : StockLedgerRow) : Tx Bool := do
  assertLotBelongsTo row.slot.warehouseId row.slot.itemId row.slot.lotId
  let inserted ← Prog.exec (.insertLedgerOnConflictDoNothing row)
  Tx.when (¬ inserted ∧ needPatch row.patch) (Prog.exec (.patchLedger row.key row.patch))
  return inserted

/-! ## `adjust_lot_impl` -/

/-- The arguments of `adjust_lot_impl`; `utcNow` is the clock it was given. -/
structure AdjustLotArgs where
  itemId : Int
  warehouseId : Int
  lotId : Option Int
  delta : Int
  reason : String
  ref : String
  refLine : Option Int := none
  occurredAt : Option Timestamp := none
  metaDict : Meta := []
  lotCode : Option String := none
  productionDate : Option Date := none
  expiryDate : Option Date := none
  traceId : Option String := none
  utcNow : Timestamp := 0

/-- What an applied adjustment answers. -/
structure AdjustLotApplied where
  lotId : Int
  before : Int
  delta : Int
  after : Int
  reason : String
  ref : String
  refLine : Int
  metaOut : Meta
  occurredAt : Timestamp
  productionDate : Option Date
  expiryDate : Option Date

/-- The two answers of `adjust_lot_impl`. -/
inductive AdjustLotResult
  /-- `{"idempotent": True, "applied": False}`. -/
  | idempotent
  | applied (r : AdjustLotApplied)

/-- `dict.setdefault`. -/
def metaSetdefault (metaDict : Meta) (key : String) (v : MetaVal) : Meta :=
  if (metaDict.lookup key).isSome then metaDict else metaDict ++ [(key, v)]

/-- The `meta` an adjustment answers with. -/
def metaOut (metaDict : Meta) (traceId : Option String) (eventId : Option Int) : Meta :=
  let m := match traceId.bind orNone with
    | some t => metaSetdefault metaDict "trace_id" (.str t)
    | none => metaDict
  match eventId with
  | some e => metaSetdefault m "event_id" (.int e)
  | none => m

/-- The idempotency key of a call, once its lot is known. -/
def AdjustLotArgs.key (a : AdjustLotArgs) (lotId : Int) : IdemKey :=
  { reason := a.reason, ref := a.ref, refLine := a.refLine.getD 1
    slot := ⟨a.warehouseId, a.itemId, lotId⟩ }

/-- The part of `adjust_lot_impl` behind the idempotency probe: make sure the
slot is there, lock it, write the ledger and set the new balance. -/
def adjustLotBook (a : AdjustLotArgs) (lotId : Int) (subReason : Option String)
    (eventId : Option Int) (productionDate expiryDate : Option Date) : Tx AdjustLotResult := do
  let k := a.key lotId
  let ts := a.occurredAt.getD a.utcNow
  Prog.exec (.ensureStocksLotSlot k.slot)
  let beforeQty ← lockStocksLotSlotForUpdate k.slot
  let newQty := if a.delta = 0 then beforeQty else beforeQty + a.delta
  Tx.require (a.delta = 0 ∨ 0 ≤ newQty)
    (.valueError s!"insufficient stock(lot): before={beforeQty}, delta={a.delta}")
  -- the display code is read only when the caller gave none; the ledger does not store it
  Tx.when (normLotCode a.lotCode = none) (do let _ ← loadLotCodeForLotId lotId)
  let _ ← writeLedger (ledgerRow k subReason a.delta newQty ts a.traceId eventId
    productionDate expiryDate)
  Tx.when (a.delta ≠ 0) (Prog.exec (.setStocksLotQty k.slot newQty))
  return .applied
    { lotId := lotId, before := beforeQty, delta := a.delta, after := newQty
      reason := a.reason, ref := a.ref, refLine := k.refLine
      metaOut := metaOut a.metaDict a.traceId eventId, occurredAt := ts
      productionDate := productionDate, expiryDate := expiryDate }

/-- `adjust_lot_impl`. -/
def adjustLotImpl (a : AdjustLotArgs) : Tx AdjustLotResult := do
  let allowZero := metaBool a.metaDict "allow_zero_delta_ledger"
  let subReason ← Tx.ofExcept (metaStr a.metaDict "sub_reason")
  let eventId ← Tx.ofExcept (metaInt a.metaDict "event_id")
  if a.delta = 0 ∧ ¬ allowZero then
    return .idempotent
  Tx.require (¬ (a.delta = 0 ∧ subReason = none))
    (.valueError "delta==0 记账必须提供 meta.sub_reason（例如 COUNT_ADJUST）")
  let lotId ← Tx.requireSome a.lotId (.valueError "lot_id is required in lot-only world.")
  let requiresBatch ← itemRequiresBatch a.itemId
  Tx.require (¬ (requiresBatch ∧ lotId = 0)) (.valueError "批次受控商品必须指定 lot_id。")
  assertLotBelongsTo a.warehouseId a.itemId lotId
  let (productionDate, expiryDate) ← resolveAndValidateDatesForInbound a.itemId a.delta
    (normLotCode a.lotCode) a.productionDate a.expiryDate
  let hit ← idemHitByLotKey (a.key lotId)
  if hit then
    return .idempotent
  adjustLotBook a lotId subReason eventId productionDate expiryDate

end WmsDu
