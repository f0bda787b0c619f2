import WmsDu.Stock.AdjustLot

/-!
# Lot resolution

An inbound line names a lot by what is printed on the goods. An item whose
lots come from the supplier has one lot a production date; every other item
has one internal lot a warehouse. Both are looked up first and created when
missing. `newLotId` is the id the sequence draws if a lot is created.
-/

namespace WmsDu

open Txn

/-- `normalize_lot_code`. -/
def normalizeLotCode (code : Option String) : Except Err String :=
  match cleanText code with
  | none => .error (.valueError "lot_code empty")
  | some s => .ok s

/-- `_pair_or_null`. -/
def pairOrNull (a b : Option Int) : Except Err (Option Int × Option Int) :=
  match a, b with
  | none, none => .ok (none, none)
  | some a, some b => .ok (some a, some b)
  | _, _ => .error (.valueError "internal_source_receipt_line_pair_required")

/-- The lots that satisfy a predicate, `ORDER BY id ASC`. -/
def lotsWhere (db : Db) (p : Lot → Bool) : List Lot :=
  (db.lots.rows.filter p).insertionSort (fun a b => a.id ≤ b.id)

/-- The internal lot of a warehouse and item. -/
def internalLotId (db : Db) (warehouseId itemId : Int) : Option Int :=
  ((lotsWhere db fun l => l.warehouseId = warehouseId ∧ l.itemId = itemId ∧
    l.lotCodeSource = .internal ∧ l.lotCode = none).head?).map Lot.id

/-- `_get_supplier_lot_by_production_date`. -/
def supplierLotByProductionDate (db : Db) (warehouseId itemId : Int) (pd : Date) : Option Int :=
  ((lotsWhere db fun l => l.warehouseId = warehouseId ∧ l.itemId = itemId ∧
    l.lotCodeSource = .supplier ∧ l.productionDate = some pd).head?).map Lot.id

/-- `_get_supplier_lot_ids_by_lot_code`. -/
def supplierLotIdsByLotCode (db : Db) (warehouseId itemId : Int) (code : String) : List Int :=
  ((lotsWhere db fun l => l.warehouseId = warehouseId ∧ l.itemId = itemId ∧
    l.lotCodeSource = .supplier ∧ l.lotCode = some code).take 2).map Lot.id

/-- `_patch_lot_expiry_if_null`. -/
def patchLotExpiryIfNull (lotId : Int) (expiryDate : Option Date) : Tx Unit :=
  match expiryDate with
  | none => pure ()
  | some ed => Prog.exec (.patchLotExpiry lotId ed)

/-- `ensure_internal_lot_singleton`. -/
def ensureInternalLotSingleton (itemId warehouseId : Int)
    (sourceReceiptId sourceLineNo : Option Int) (newLotId : Int) : Tx Int := do
  let (rid, rln) ← Tx.ofExcept (pairOrNull sourceReceiptId sourceLineNo)
  let found ← Tx.select fun db => internalLotId db warehouseId itemId
  match found with
  | some lotId => return lotId
  | none => do
      let inserted ← Prog.exec
        (.insertLot newLotId warehouseId itemId .internal none none none rid rln)
      match inserted with
      | some lotId => return lotId
      | none => do
          let again ← Tx.select fun db => internalLotId db warehouseId itemId
          Tx.requireSome again (.runtimeError
            "ensure_internal_lot_singleton failed to materialize INTERNAL lot row")

/-- `ensure_lot_full`, behind its own completion of the two dates: a lot of an
item with required dates is found or created by its production date. -/
def ensureLotByDates (itemId warehouseId : Int) (code : String)
    (productionDate expiryDate : Option Date) (newLotId : Int) : Tx Int := do
  match productionDate with
  | none => do
      let ids ← Tx.select fun db => supplierLotIdsByLotCode db warehouseId itemId code
      match ids with
      | [lotId] => do
          patchLotExpiryIfNull lotId expiryDate
          return lotId
      | [] => Prog.raise (.valueError "production_date_required_for_required_lot")
      | _ => Prog.raise (.valueError "supplier_lot_code_ambiguous")
  | some pd => do
      let found ← Tx.select fun db => supplierLotByProductionDate db warehouseId itemId pd
      match found with
      | some lotId => do
          patchLotExpiryIfNull lotId expiryDate
          return lotId
      | none => do
          Tx.require (expiryDate ≠ none) (.valueError "expiry_date_required_for_required_lot")
          let inserted ← Prog.exec (.insertLot newLotId warehouseId itemId .supplier (some code)
            (some pd) expiryDate none none)
          match inserted with
          | some lotId => return lotId
          | none => do
              let again ← Tx.select fun db => supplierLotByProductionDate db warehouseId itemId pd
              let lotId ← Tx.requireSome again (.runtimeError
                "ensure_lot_full failed to materialize lot row by production_date")
              patchLotExpiryIfNull lotId expiryDate
              return lotId

/-- The two dates after `ensure_lot_full` completed the missing one. -/
def completeLotDates (policy : ItemPolicy) (productionDate expiryDate : Option Date) :
    Option Date × Option Date :=
  let life := policy.shelfLifeValue.filter (fun v => decide (0 < v))
  match policy.expiryPolicy, productionDate, expiryDate with
  | .required, some pd, none =>
      (some pd, shiftDateByShelfLife pd life policy.shelfLifeUnit 1)
  | .required, none, some ed =>
      (shiftDateByShelfLife ed life policy.shelfLifeUnit (-1), some ed)
  | _, pd, ed => (pd, ed)

/-- `ensure_lot_full`. -/
def ensureLotFull (itemId warehouseId : Int) (lotCode : Option String)
    (productionDate expiryDate : Option Date) (newLotId : Int) : Tx Int := do
  let code ← Tx.ofExcept (normalizeLotCode lotCode)
  let item ← Tx.select fun db => db.items.lookup itemId
  let item ← Tx.requireSome item (.valueError "item_not_found")
  let (pd, ed) := completeLotDates item.policy productionDate expiryDate
  Tx.require (¬ ∃ p ∈ pd, ∃ e ∈ ed, e.before p)
    (.valueError "expiry_date_cannot_be_earlier_than_production_date")
  if item.policy.expiryPolicy = .required then
    ensureLotByDates itemId warehouseId code pd ed newLotId
  else do
    let ids ← Tx.select fun db => supplierLotIdsByLotCode db warehouseId itemId code
    match ids with
    | [lotId] => return lotId
    | [] => Prog.raise (.valueError "supplier_lot_not_allowed_for_nonrequired_item")
    | _ => Prog.raise (.valueError "supplier_lot_code_ambiguous")

/-- How `resolve_or_create_lot` answers a `ValueError` of the lot functions. -/
def lotErrorToHttp : Err → Err
  | .valueError "supplier_lot_legacy_key_conflict" => .http 409 "supplier_lot_legacy_key_conflict"
  | .valueError m => .http 422 m
  | e => e

/-- `resolve_or_create_lot`; the item policy it is given is that of `item`. -/
def resolveOrCreateLot (warehouseId : Int) (item : Item) (lotCodeSource : LotCodeSource)
    (lotCode : Option String) (productionDate expiryDate : Option Date)
    (sourceReceiptId sourceLineNo : Option Int) (newLotId : Int) : Tx Int :=
  match lotCodeSource with
  | .supplier => do
      Tx.require (cleanText lotCode ≠ none) (.http 422 "supplier_lot_code_required")
      Tx.require (¬ (item.policy.expiryPolicy = .required ∧ productionDate = none))
        (.http 422 "production_date_required_for_required_lot")
      let lotId ← (ensureLotFull item.id warehouseId lotCode productionDate expiryDate
        newLotId).mapRaise lotErrorToHttp
      let existing ← Tx.select fun db => db.lots.lookup lotId
      let existing ← Tx.requireSome existing (.http 500 "lot_create_or_resolve_failed")
      Tx.require (existing.itemPolicySnapshot = item.policy) (.http 409 "lot_snapshot_conflict")
      return existing.id
  | .internal =>
      (ensureInternalLotSingleton item.id warehouseId sourceReceiptId sourceLineNo
        newLotId).mapRaise lotErrorToHttp

/-- `infer_lot_code_source_from_policy`. -/
def inferLotCodeSource (policy : ItemPolicy) : LotCodeSource :=
  match policy.lotSourcePolicy with
  | .supplierOnly => .supplier
  | .internalOnly => .internal

/-- `resolve_inbound_lot`: an internal lot has no code and no dates. -/
def resolveInboundLot (warehouseId : Int) (item : Item) (lotCode : Option String)
    (productionDate expiryDate : Option Date) (newLotId : Int) : Tx Int :=
  match inferLotCodeSource item.policy with
  | .supplier => resolveOrCreateLot warehouseId item .supplier lotCode productionDate expiryDate
      none none newLotId
  | .internal => resolveOrCreateLot warehouseId item .internal none none none none none newLotId

/-! ## Lots by contract -/

/-- `http_422` of the lot code contract. -/
def lotCodeReject (detail errorCode : String) : Err :=
  .problem 422 errorCode detail [("type", "batch"), ("path", "batch_code"), ("reason", detail)]

/-- `validate_lot_code_contract`: an item with required expiry names its lot,
every other item must name none. -/
def validateLotCodeContract (requiresBatch : Bool) (lotCode : Option String) :
    Except Err (Option String) :=
  match requiresBatch, lotCode with
  | true, code =>
      match normLotCode code with
      | none => .error (lotCodeReject "batch_code is required for expiry-policy REQUIRED items."
          "batch_required")
      | some s => .ok (some s)
  | false, none => .ok none
  | false, some code =>
      let raw := strip code
      if raw = "" then
        .error (lotCodeReject
          "batch_code must be null for expiry-policy NONE items. Do not send empty string."
          "batch_forbidden")
      else if upper raw ∈ ["NOEXP", "NEAR", "FAR", "IDEM"] ∨ lower raw = "none" then
        .error (lotCodeReject
          "batch_code must be null for expiry-policy NONE items; fake codes are forbidden (NOEXP/NEAR/FAR/IDEM/None)."
          "batch_forbidden")
      else
        .error (lotCodeReject
          "batch_code must be null for expiry-policy NONE items. Do not send batch_code."
          "batch_forbidden")

/-- `resolve_lot_for_stock_adjust`, called without a lot id. -/
def resolveLotForStockAdjust (itemId warehouseId : Int) (lotCode : Option String)
    (productionDate expiryDate : Option Date) (newLotId : Int) : Tx (Int × Option String) := do
  let requiresBatch ← itemRequiresBatch itemId
  let code ← Tx.ofExcept (validateLotCodeContract requiresBatch lotCode)
  match code with
  | none => do
      let lotId ← ensureInternalLotSingleton itemId warehouseId none none newLotId
      return (lotId, none)
  | some c => do
      let lotId ← ensureLotFull itemId warehouseId (some c) productionDate expiryDate newLotId
      return (lotId, some c)

end WmsDu
