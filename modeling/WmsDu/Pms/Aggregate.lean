import WmsDu.Pms.Barcodes

/-!
# Item aggregates

`ItemOwnerAggregateService`: an item is written with all its units and
barcodes. Units are flushed one by one. Barcodes are flushed when a new one is
created and at the commit; until then the queries of the service do not see
what was assigned to them.
-/

namespace WmsDu

open Txn

variable {n : Nat}

/-! ## Payloads -/

/-- `AggregateUomInput`. -/
structure AggregateUomInput where
  id : Option Int := none
  uomKey : String
  uom : String
  ratioToBase : Int
  displayName : Option String := none
  netWeightKg : Option ℚ := none
  isBase : Bool := false
  isPurchaseDefault : Bool := false
  isInboundDefault : Bool := false
  isOutboundDefault : Bool := false
  ratio_ge : 1 ≤ ratioToBase := by decide

def AggregateUomInput.flag (u : AggregateUomInput) : UomFlag → Bool
  | .base => u.isBase
  | .purchase => u.isPurchaseDefault
  | .inbound => u.isInboundDefault
  | .outbound => u.isOutboundDefault

/-- `BarcodeSymbology`. -/
def barcodeSymbologies : List String := ["EAN13", "UPC", "UPC12", "EAN8", "GS1", "CUSTOM"]

/-- `AggregateBarcodeInput`. -/
structure AggregateBarcodeInput where
  id : Option Int := none
  barcode : String
  symbology : String := "CUSTOM"
  active : Bool := true
  isPrimary : Bool := false
  bindUomKey : String
  barcode_trim : strip barcode = barcode := by decide
  barcode_ne : barcode ≠ "" := by decide
  symbology_mem : symbology ∈ barcodeSymbologies := by decide
  primary_active : isPrimary = true → active = true := by decide

/-- `ItemAggregatePayload`. -/
structure ItemAggregatePayload where
  item : ItemInput
  uoms : List AggregateUomInput
  barcodes : List AggregateBarcodeInput
  uoms_ne : uoms ≠ [] := by simp
  one_flag : ∀ f : UomFlag, (uoms.countP fun u => u.flag f) = 1

/-! ## Units -/

/-- The fields of a payload row, assigned to a unit. -/
def AggregateUomInput.assign (row : AggregateUomInput) (u : UomRow) : UomRow :=
  { u with
    uom := row.uom, ratioToBase := row.ratioToBase, displayName := row.displayName
    netWeightKg := row.netWeightKg, isBase := row.isBase
    isPurchaseDefault := row.isPurchaseDefault, isInboundDefault := row.isInboundDefault
    isOutboundDefault := row.isOutboundDefault }

/-- The unit a payload row creates. -/
def AggregateUomInput.newRow (row : AggregateUomInput) (itemId newId : Int) : UomRow :=
  { id := newId, itemId := itemId, uom := row.uom, ratioToBase := row.ratioToBase
    displayName := row.displayName, netWeightKg := row.netWeightKg, isBase := row.isBase
    isPurchaseDefault := row.isPurchaseDefault, isInboundDefault := row.isInboundDefault
    isOutboundDefault := row.isOutboundDefault }

/-- A unit without its flags. -/
def UomRow.unflagged (u : UomRow) : UomRow :=
  { u with
    isBase := false, isPurchaseDefault := false, isInboundDefault := false
    isOutboundDefault := false }

/-- The flush of the units whose flags were taken away. -/
def clearUomFlags : List UomRow → PmsTx n Unit
  | [] => return ()
  | u :: rest => do
      updateUom u u.unflagged
      clearUomFlags rest

/-- `refresh_item_uom`. -/
def refreshItemUom (id : Int) : PmsTx n UomRow := do
  let obj ← Prog.read fun db => db.uoms.lookup id
  Prog.requireSome obj .invalidRequest

/-- One row of `_upsert_uoms`, flushed and refreshed. -/
def upsertUom (itemId newId : Int) (objs : List UomRow) (row : AggregateUomInput) :
    PmsTx n UomRow :=
  match row.id with
  | some id =>
      match objs.find? fun u => u.id = id with
      | none => Prog.raise (.valueError s!"ItemUom not found: id={id}")
      | some obj => do
          updateUom obj (row.assign obj)
          refreshItemUom obj.id
  | none => do
      insertUom (row.newRow itemId newId)
      refreshItemUom newId

/-- The unit a key stands for; of two entries of a key the later one counts,
and it comes first. -/
abbrev UomKeys := List (String × Int)

/-- The loop of `_upsert_uoms`: the rows from the `i`-th on. -/
def upsertUomRows (itemId : Int) (newUomId : Nat → Int) : Nat → List UomRow →
    List AggregateUomInput → PmsTx n UomKeys
  | _, _, [] => return []
  | i, objs, row :: rest => do
      let obj ← upsertUom itemId (newUomId i) objs row
      let objs := objs.map fun u => if u.id = obj.id then obj else u
      let keys ← upsertUomRows itemId newUomId (i + 1) objs rest
      return keys ++ [(row.uomKey, obj.id)]

/-- `_upsert_uoms`: the units by their keys, which are the units kept. -/
def upsertUoms (itemId : Int) (newUomId : Nat → Int) (payloadUoms : List AggregateUomInput)
    (existingUoms : List UomRow) : PmsTx n UomKeys := do
  clearUomFlags (sortOn (fun u : UomRow => u.id) existingUoms)
  upsertUomRows itemId newUomId 0 (existingUoms.map UomRow.unflagged) payloadUoms

/-! ## Barcodes -/

/-- A barcode of a session: as it was loaded or flushed last, and as it is. -/
structure HeldBarcode where
  clean : BarcodeRow
  now : BarcodeRow

def HeldBarcode.loaded (b : BarcodeRow) : HeldBarcode := ⟨b, b⟩

/-- The updates of a flush, by primary key. -/
def updateBarcodes (conn : Fin n) : List HeldBarcode → PmsTx n Unit
  | [] => return ()
  | o :: rest => do
      updateBarcode conn o.clean o.now
      updateBarcodes conn rest

def flushBarcodes (conn : Fin n) (objs : List HeldBarcode) : PmsTx n (List HeldBarcode) := do
  updateBarcodes conn (sortOn (fun o : HeldBarcode => o.now.id) objs)
  return objs.map fun o => .loaded o.now

/-- The deletes of a flush. -/
def deleteBarcodes : List Int → PmsTx n Unit
  | [] => return ()
  | id :: rest => do
      deleteBarcode id
      deleteBarcodes rest

/-- The barcode a payload row names: one of the session's, or one that is
loaded now. -/
def heldBarcode (objs : List HeldBarcode) (id : Int) : PmsTx n HeldBarcode :=
  match objs.find? fun o => o.now.id = id with
  | some o => return o
  | none => do
      let b ← getItemBarcodeById id
      let b ← Prog.requireSome b (.valueError s!"Barcode not found: id={id}")
      return .loaded b

/-- The fields of a payload row, assigned to a barcode. -/
def AggregateBarcodeInput.assign (row : AggregateBarcodeInput) (itemUomId : Int) (b : BarcodeRow) :
    BarcodeRow :=
  { b with
    itemUomId := itemUomId, barcode := row.barcode, symbology := row.symbology
    active := row.active, isPrimary := row.isPrimary }

/-- The barcode a payload row creates. -/
def AggregateBarcodeInput.newRow (row : AggregateBarcodeInput) (itemId itemUomId newId : Int) :
    BarcodeRow :=
  { id := newId, itemId := itemId, itemUomId := itemUomId, barcode := row.barcode
    symbology := row.symbology, active := row.active, isPrimary := row.isPrimary }

/-- Whether a unit the barcode is to move to has another barcode. -/
def isTargetBound (itemId targetUomId : Int) (b : BarcodeRow) : PmsTx n Bool :=
  if targetUomId = b.itemUomId then return false
  else hasBarcodeBoundToItemUom itemId targetUomId (some b.id)

/-- A row of `_sync_barcodes` that names a barcode: assigned, not flushed. -/
def assignBarcode (itemId targetUomId : Int) (objs : List HeldBarcode)
    (row : AggregateBarcodeInput) (id : Int) : PmsTx n (List HeldBarcode) := do
  let obj ← heldBarcode objs id
  let taken ← getItemBarcodeByCode row.barcode (some obj.now.id)
  Prog.require (taken = false) (.valueError "Barcode already exists")
  let bound ← isTargetBound itemId targetUomId obj.now
  Prog.require (bound = false) (.valueError "Current item_uom already bound to a barcode")
  return { obj with now := row.assign targetUomId obj.now } ::
    objs.filter fun o => o.now.id ≠ obj.now.id

/-- A row of `_sync_barcodes` that creates a barcode, with its flush. -/
def createBarcodeRow (conn : Fin n) (itemId targetUomId newId : Int) (objs : List HeldBarcode)
    (row : AggregateBarcodeInput) : PmsTx n (List HeldBarcode) := do
  let taken ← getItemBarcodeByCode row.barcode none
  Prog.require (taken = false) (.valueError "Barcode already exists")
  let bound ← hasBarcodeBoundToItemUom itemId targetUomId none
  Prog.require (bound = false) (.valueError "Current item_uom already bound to a barcode")
  let objs ← flushBarcodes conn objs
  insertBarcode conn (row.newRow itemId targetUomId newId)
  let b ← Prog.read fun db => db.barcodes.lookup newId
  let b ← Prog.requireSome b .invalidRequest
  return .loaded b :: objs

/-- The loop of `_sync_barcodes`: the rows from the `i`-th on. What is not
flushed in the end is flushed by the commit. -/
def syncBarcodeRows (conn : Fin n) (itemId : Int) (newBarcodeId : Nat → Int) (keys : UomKeys) :
    Nat → List HeldBarcode → List AggregateBarcodeInput → PmsTx n (List HeldBarcode)
  | _, objs, [] => return objs
  | i, objs, row :: rest => do
      let target ← Prog.requireSome (keys.lookup row.bindUomKey)
        (.valueError s!"barcode 绑定失败：uom_key 不存在 {row.bindUomKey}")
      let objs ←
        match row.id with
        | some id => assignBarcode itemId target objs row id
        | none => createBarcodeRow conn itemId target (newBarcodeId i) objs row
      syncBarcodeRows conn itemId newBarcodeId keys (i + 1) objs rest

/-- `_sync_barcodes`. -/
def syncBarcodes (conn : Fin n) (itemId : Int) (newBarcodeId : Nat → Int)
    (payloadBarcodes : List AggregateBarcodeInput) (keys : UomKeys)
    (existingBarcodes : List BarcodeRow) : PmsTx n (List HeldBarcode) := do
  let incoming := payloadBarcodes.filterMap fun row => row.id
  deleteBarcodes ((existingBarcodes.filter fun b => b.id ∉ incoming).map fun b => b.id)
  let hasPrimary := payloadBarcodes.any fun row => row.isPrimary
  clearPrimaryFlagsWhen hasPrimary itemId
  let kept := (existingBarcodes.filter fun b => b.id ∈ incoming).map fun b => b.clearedWhen hasPrimary
  syncBarcodeRows conn itemId newBarcodeId keys 0 (kept.map .loaded) payloadBarcodes

/-! ## Units no longer named -/

/-- The checks of `_cleanup_obsolete_uoms`. -/
def checkObsoleteUoms : List UomRow → PmsTx n Unit
  | [] => return ()
  | old :: rest => do
      let bound ← hasBarcodeRefsForItemUom old.itemId old.id
      Prog.require (bound = false) (.valueError "当前包装已绑定条码，不能删除；请先修改条码绑定")
      let ordered ← hasPoLineRefsForItemUom old.id
      Prog.require (ordered = false) (.valueError "当前包装已被采购单引用，不能删除")
      let received ← hasReceiptLineRefsForItemUom old.id
      Prog.require (received = false) (.valueError "当前包装已被收货记录引用，不能删除")
      checkObsoleteUoms rest

/-- The deletes of the commit. -/
def deleteUoms : List Int → PmsTx n Unit
  | [] => return ()
  | id :: rest => do
      deleteUom id
      deleteUoms rest

/-! ## The services -/

/-- `create_aggregate`. -/
def createAggregate (conn : Fin n) (payload : ItemAggregatePayload) (draws : ItemDraws)
    (now : Timestamp) : PmsTx n Unit := do
  let sku ← Prog.ofExcept (validateSku payload.item.sku)
  let name ← Prog.ofExcept payload.item.cleanName
  let policy ← Prog.ofExcept payload.item.policy
  validateBrandId payload.item.brandId
  validateCategoryId payload.item.categoryId
  Prog.mapErr asSkuDuplicate do
    insertItem (payload.item.row draws.itemId sku name policy)
    createPrimaryCodeInCurrentTx draws.itemId sku (some "created with item aggregate")
      draws.codeId now
    let keys ← upsertUoms draws.itemId draws.newUomId payload.uoms []
    let objs ← syncBarcodes conn draws.itemId draws.newBarcodeId payload.barcodes keys []
    let _ ← flushBarcodes conn objs
    return ()

/-- What `replace_aggregate` makes of a violated constraint. -/
def asDbIntegrity : PmsErr → PmsErr
  | .integrity c => .dbIntegrity c
  | e => e

/-- The update of the item in the first flush; none if nothing changed. -/
def updateItemFields (old new : ItemMaster) : PmsTx n Unit :=
  if new = old then return () else updateItem old new

/-- `replace_aggregate`. The item is read without a lock; its units come with
it, and the later query of them answers with those copies. -/
def replaceAggregate (conn : Fin n) (itemId : Int) (payload : ItemAggregatePayload)
    (newUomId newBarcodeId : Nat → Int) : PmsTx n Unit := do
  let obj ← Prog.read fun db => if itemId ≤ 0 then none else db.items.lookup itemId
  let obj ← Prog.requireSome obj (.valueError "Item not found")
  let loaded ← Prog.read fun db => db.uoms.rows.filter fun u => u.itemId = itemId
  let sku ← Prog.ofExcept (validateSku payload.item.sku)
  let name ← Prog.ofExcept payload.item.cleanName
  let policy ← Prog.ofExcept payload.item.policy
  validateBrandId payload.item.brandId
  validateCategoryId payload.item.categoryId
  Prog.require (sku = obj.sku) (.valueError "sku cannot be changed")
  let new := payload.item.row obj.id obj.sku name policy
  let existingUoms ← Prog.read fun db =>
    (sortOn (fun u : UomRow => toLex (u.ratioToBase, u.id))
      (db.uoms.rows.filter fun u => u.itemId = itemId)).map
      (asLoaded (fun u : UomRow => u.id) loaded)
  let existingBarcodes ← Prog.read fun db =>
    sortOn (fun b : BarcodeRow => b.id) (db.barcodes.rows.filter fun b => b.itemId = itemId)
  Prog.mapErr asDbIntegrity do
    updateItemFields obj new
    let keys ← upsertUoms itemId newUomId payload.uoms existingUoms
    let objs ← syncBarcodes conn itemId newBarcodeId payload.barcodes keys existingBarcodes
    let obsolete := existingUoms.filter fun u => u.id ∉ keys.map Prod.snd
    checkObsoleteUoms obsolete
    let _ ← flushBarcodes conn objs
    deleteUoms (obsolete.map fun u => u.id)

end WmsDu
