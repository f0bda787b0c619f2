import WmsDu.Pms.SkuCodes

/-!
# Items and their units

`ItemWriteService.create_item` and the `/item-uoms` routes.
-/

namespace WmsDu

open Txn

variable {n : Nat}

/-! ## The fields of an item -/

/-- `ItemCreate` and `AggregateItemInput`. -/
structure ItemInput where
  sku : String
  name : String
  spec : Option String := none
  brandId : Option Int := none
  categoryId : Option Int := none
  enabled : Bool := true
  supplierId : Option Int := none
  lotSourcePolicy : Option LotSourcePolicy := none
  expiryPolicy : Option ExpiryPolicy := none
  derivationAllowed : Option Bool := none
  uomGovernanceEnabled : Option Bool := none
  shelfLifeValue : Option Int := none
  shelfLifeUnit : Option ShelfLifeUnit := none

/-- The policy columns of an item, with their defaults. -/
def ItemInput.policy (item : ItemInput) : Except PmsErr ItemPolicy := do
  let expiryPolicy := item.expiryPolicy.getD .none
  demand (∀ v ∈ item.shelfLifeValue, 0 < v) (.valueError "shelf_life_value must be > 0")
  let (value, unit) :=
    if expiryPolicy = .required then (item.shelfLifeValue, item.shelfLifeUnit) else (none, none)
  demand (value.isNone = unit.isNone)
    (.valueError "shelf_life_value and shelf_life_unit must be both set or both null")
  return {
    expiryPolicy := expiryPolicy, shelfLifeValue := value, shelfLifeUnit := unit
    lotSourcePolicy := item.lotSourcePolicy.getD .supplierOnly
    derivationAllowed := item.derivationAllowed.getD true
    uomGovernanceEnabled := item.uomGovernanceEnabled.getD false }

/-- The name of an item, stripped. -/
def ItemInput.cleanName (item : ItemInput) : Except PmsErr String :=
  demandSome (cleanText (some item.name)) (.valueError "name is required")

/-- `_validate_brand_id`. -/
def validateBrandId (brandId : Option Int) : PmsTx n Unit := do
  let found ← Prog.read fun db =>
    decide (∀ id ∈ brandId, ∃ b ∈ db.brands.rows, b.id = id ∧ b.isActive)
  Prog.require found (.valueError "brand_id 不存在或已停用")

/-- `_validate_category_id`. -/
def validateCategoryId (categoryId : Option Int) : PmsTx n Unit := do
  let category ← Prog.read fun db => categoryId.map fun id => db.categories.lookup id
  Prog.require (∀ found ∈ category, ∃ c ∈ found, c.isActive)
    (.valueError "category_id 不存在或已停用")
  Prog.require (∀ found ∈ category, ∃ c ∈ found, c.isLeaf)
    (.valueError "category_id 必须指向叶子分类")

/-- The row of an item. -/
def ItemInput.row (item : ItemInput) (id : Int) (sku name : String) (policy : ItemPolicy) :
    ItemMaster :=
  { id := id, sku := sku, name := name, spec := cleanText item.spec, policy := policy
    supplierId := item.supplierId, enabled := item.enabled, brandId := item.brandId
    categoryId := item.categoryId }

/-- The unique constraints whose violation names a SKU. -/
def skuConstraints : List String :=
  ["items_sku_key", "item_sku_codes_pkey", "uq_item_sku_codes_code",
    "uq_item_sku_codes_one_primary_per_item"]

/-- What the services that create an item make of an error. -/
def asSkuDuplicate : PmsErr → PmsErr
  | .integrity c => if c ∈ skuConstraints then .valueError "SKU duplicate" else .dbIntegrity c
  | .valueError message =>
      .valueError (if message = "SKU code duplicate" then "SKU duplicate" else message)
  | e => e

/-! ## Creating an item -/

/-- What the sequences draw for a new item. -/
structure ItemDraws where
  itemId : Int
  codeId : Int
  newUomId : Nat → Int
  newBarcodeId : Nat → Int

/-- The unit an item starts with. -/
def pcsUom (itemId id : Int) : UomRow :=
  { id := id, itemId := itemId, uom := "PCS", displayName := some "PCS", ratioToBase := 1
    isBase := true, isPurchaseDefault := true, isInboundDefault := true
    isOutboundDefault := true }

/-- `create_item`. -/
def createItem (input : ItemInput) (draws : ItemDraws) (now : Timestamp) : PmsTx n Unit := do
  let sku ← Prog.ofExcept (validateSku input.sku)
  let name ← Prog.ofExcept input.cleanName
  validateBrandId input.brandId
  validateCategoryId input.categoryId
  let policy ← Prog.ofExcept input.policy
  Prog.mapErr asSkuDuplicate do
    insertItem (input.row draws.itemId sku name policy)
    createPrimaryCodeInCurrentTx draws.itemId sku (some "created with item") draws.codeId now
    insertUom (pcsUom draws.itemId (draws.newUomId 0))

/-! ## Unit routes -/

/-- `get_item_uom_by_id`. -/
def getItemUomById (itemUomId : Int) : PmsTx n (Option UomRow) :=
  Prog.read fun db => if itemUomId ≤ 0 then none else db.uoms.lookup itemUomId

/-- `_get_item_uom_or_404`. -/
def getItemUomOr404 (itemUomId : Int) : PmsTx n UomRow := do
  let obj ← getItemUomById itemUomId
  Prog.requireSome obj (.http 404 "ItemUom not found")

/-- `ItemUomCreate`. -/
structure ItemUomCreate where
  itemId : Int
  uom : String
  ratioToBase : Int
  displayName : Option String := none
  netWeightKg : Option ℚ := none
  isBase : Bool := false
  isPurchaseDefault : Bool := false
  isInboundDefault : Bool := false
  isOutboundDefault : Bool := false
  ratio_ge : 1 ≤ ratioToBase := by decide

/-- The row of a unit under the id the sequence draws. -/
def ItemUomCreate.row (body : ItemUomCreate) (newId : Int) : UomRow :=
  { id := newId, itemId := body.itemId, uom := body.uom, displayName := body.displayName
    ratioToBase := body.ratioToBase, isBase := body.isBase
    isInboundDefault := body.isInboundDefault, netWeightKg := body.netWeightKg
    isPurchaseDefault := body.isPurchaseDefault, isOutboundDefault := body.isOutboundDefault }

/-- `create_item_uom_route`. -/
def createItemUomRoute (body : ItemUomCreate) (newId : Int) : PmsTx n Unit :=
  insertUom (body.row newId)

/-- `ItemUomUpdate`; a field left out and a null are the same to the route. -/
structure ItemUomUpdate where
  uom : Option String := none
  ratioToBase : Option Int := none
  displayName : Option String := none
  netWeightKg : Option ℚ := none
  isBase : Option Bool := none
  isPurchaseDefault : Option Bool := none
  isInboundDefault : Option Bool := none
  isOutboundDefault : Option Bool := none
  ratio_ge : ∀ r ∈ ratioToBase, 1 ≤ r := by decide

/-- `update_item_uom_fields`: the display name and the net weight are set even
to null. -/
def ItemUomUpdate.fields (body : ItemUomUpdate) (obj : UomRow) : UomRow :=
  { obj with
    uom := body.uom.getD obj.uom
    ratioToBase := body.ratioToBase.getD obj.ratioToBase
    displayName := body.displayName
    netWeightKg := body.netWeightKg
    isBase := body.isBase.getD obj.isBase
    isPurchaseDefault := body.isPurchaseDefault.getD obj.isPurchaseDefault
    isInboundDefault := body.isInboundDefault.getD obj.isInboundDefault
    isOutboundDefault := body.isOutboundDefault.getD obj.isOutboundDefault }

/-- `update_item_uom_route`. -/
def updateItemUomRoute (id : Int) (body : ItemUomUpdate) : PmsTx n Unit := do
  let obj ← getItemUomOr404 id
  updateUom obj (body.fields obj)

/-- `has_barcode_refs_for_item_uom`. -/
def hasBarcodeRefsForItemUom (itemId itemUomId : Int) : PmsTx n Bool :=
  Prog.read fun db => db.barcodes.rows.any fun b => b.itemId = itemId ∧ b.itemUomId = itemUomId

/-- `has_po_line_refs_for_item_uom`. -/
def hasPoLineRefsForItemUom (itemUomId : Int) : PmsTx n Bool :=
  Prog.read fun db => decide (itemUomId ∈ db.poLineUomIds)

/-- `has_receipt_line_refs_for_item_uom`. -/
def hasReceiptLineRefsForItemUom (itemUomId : Int) : PmsTx n Bool :=
  Prog.read fun db => decide (itemUomId ∈ db.receiptLineUomIds)

/-- `delete_item_uom_route`. -/
def deleteItemUomRoute (id : Int) : PmsTx n Unit := do
  let obj ← getItemUomOr404 id
  Prog.require (¬ obj.isBase) (.http 400 "基础包装不能删除")
  Prog.require (¬ obj.isPurchaseDefault)
    (.http 409 "当前包装是采购默认包装，不能直接删除；请先显式调整采购默认包装")
  Prog.require (¬ obj.isInboundDefault)
    (.http 409 "当前包装是入库默认包装，不能直接删除；请先显式调整入库默认包装")
  Prog.require (¬ obj.isOutboundDefault)
    (.http 409 "当前包装是出库默认包装，不能直接删除；请先显式调整出库默认包装")
  let bound ← hasBarcodeRefsForItemUom obj.itemId obj.id
  Prog.require (bound = false) (.http 409 "当前包装已绑定条码，不能删除；请先修改条码绑定")
  let ordered ← hasPoLineRefsForItemUom obj.id
  Prog.require (ordered = false) (.http 409 "当前包装已被采购单引用，不能删除")
  let received ← hasReceiptLineRefsForItemUom obj.id
  Prog.require (received = false) (.http 409 "当前包装已被收货记录引用，不能删除")
  deleteUom obj.id

end WmsDu
