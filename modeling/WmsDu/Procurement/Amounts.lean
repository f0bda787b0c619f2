import Mathlib
import WmsDu.Procurement.UpdateOrder
import WmsDu.Shared.Decimals

/-!
# Amounts of purchase orders

What a purchase costs is written three times: the total in the head of the
order, the price in each line, the planned amount in each completion row. The
total is computed with the prices of the payload; the columns keep two decimal
places.
-/

namespace WmsDu

/-! ## Payload -/

/-- A line of `PurchaseOrderCreateV2` and `PurchaseOrderUpdateV2`. -/
structure PricedLineIn extends PurchaseOrderUpdateLineIn where
  supplyPrice : Option ℚ := none
  supplyPrice_nonneg : ∀ p, supplyPrice = some p → 0 ≤ p

/-- `PurchaseOrderCreateV2` and `PurchaseOrderUpdateV2`. -/
structure PricedOrderIn where
  supplierId : Int
  warehouseId : Int
  purchaser : String
  lines : List PricedLineIn
  supplierId_pos : 0 < supplierId
  warehouseId_pos : 0 < warehouseId
  lines_ne_nil : lines ≠ []

/-- A normalized line with its price. -/
structure PricedLineValues extends PurchaseLineValues where
  supplyPrice : Option ℚ

/-! ## The total -/

/-- `Decimal.__mul__` under the default context. -/
def decimalMul (x y : ℚ) : ℚ := roundSignificant 10 28 (x * y)

/-- `Decimal.__add__` under the default context. -/
def decimalAdd (x y : ℚ) : ℚ := roundSignificant 10 28 (x + y)

/-- `line_total` -/
def lineTotal (supplyPrice : Option ℚ) (qtyOrderedBase : Int) : ℚ :=
  match supplyPrice with
  | none => 0
  | some p => decimalMul p qtyOrderedBase

/-- One line of the loop in `create_po_v2`. -/
def normalizeCreateLine (db : PurchaseDb) (poSupplierId : Int) (raw : PurchaseOrderUpdateLineIn) :
    Except Err PurchaseLineValues := do
  let it ← demandSome (db.wms.items.lookup raw.itemId)
    (.valueError s!"商品不存在：item_id={raw.itemId}")
  let itSupplierId := it.supplierId.getD 0
  let _ ← demand (itSupplierId = 0 ∨ itSupplierId = poSupplierId) (.valueError "商品不属于当前供应商")
  let (ratioToBase, uomName) ← requireItemUomRatioToBase db.wms raw.itemId raw.uomId
  let qtyOrderedBase := raw.qtyInput * ratioToBase
  let _ ← demand (0 < qtyOrderedBase) (.valueError "行 qty_ordered_base 必须 > 0")
  return {
    lineNo := raw.lineNo, itemId := raw.itemId, itemName := it.name, itemSku := it.sku
    purchaseUomIdSnapshot := raw.uomId, purchaseUomNameSnapshot := uomName
    purchaseRatioToBaseSnapshot := ratioToBase, qtyOrderedInput := raw.qtyInput
    qtyOrderedBase := qtyOrderedBase, remark := cleanText raw.remark }

/-- The loop of both services: the lines one by one, and the total so far. -/
def normalizePriced
    (normalizeLine : List Int → PurchaseOrderUpdateLineIn → Except Err PurchaseLineValues) :
    List Int → ℚ → List PricedLineIn → Except Err (ℚ × List PricedLineValues)
  | _, total, [] => return (total, [])
  | seen, total, raw :: rest => do
      let v ← normalizeLine seen raw.toPurchaseOrderUpdateLineIn
      let (total, others) ← normalizePriced normalizeLine (raw.lineNo :: seen)
        (decimalAdd total (lineTotal raw.supplyPrice v.qtyOrderedBase)) rest
      return (total, ⟨v, raw.supplyPrice⟩ :: others)

/-! ## The columns -/

/-- The purchase tables with their amounts, each column by the key of its
row: `total_amount`, `supply_price` and `planned_line_amount`. -/
structure PricedDb where
  base : PurchaseDb
  totalAmount : Int → Option ℚ := fun _ => none
  supplyPrice : Int → Option ℚ := fun _ => none
  plannedLineAmount : Int → ℚ := fun _ => 0

/-- The key of the order in every row that names one. -/
structure PurchaseDb.OrdersNamed (db : PurchaseDb) : Prop where
  lines : ∀ l ∈ db.purchaseOrderLines.rows, db.purchaseOrders.HasKey l.poId
  completions : ∀ c ∈ db.wms.poLineCompletion.rows, db.purchaseOrders.HasKey c.poId

namespace PricedDb

/-- `insert_purchase_order_head` -/
def insertHead (db : PricedDb) (po : PurchaseOrder) (totalAmount : ℚ) : Except Err PricedDb := do
  let _ ← demand (¬ db.base.purchaseOrders.HasKey po.id) (.integrity "purchase_orders_pkey")
  return { db with
    base := { db.base with purchaseOrders := db.base.purchaseOrders.insert po }
    totalAmount := Function.update db.totalAmount po.id (some (numericColumn 2 totalAmount)) }

/-- `supply_price` by line key, once new lines are there. -/
def priceAfter (newLineId : Int → Int) (lines : List PricedLineValues) (before : Int → Option ℚ)
    (id : Int) : Option ℚ :=
  match lines.find? fun v => newLineId v.lineNo = id with
  | some v => v.supplyPrice.map (numericColumn 2)
  | none => before id

/-- The flush of new lines. -/
def insertLines (db : PricedDb) (poId : Int) (newLineId : Int → Int)
    (lines : List PricedLineValues) : Except Err PricedDb := do
  let base ← db.base.insertLines poId newLineId (lines.map PricedLineValues.toPurchaseLineValues)
  return { db with
    base := base
    supplyPrice := priceAfter newLineId lines db.supplyPrice }

/-- `planned_line_amount` of a line. -/
def plannedAmountOf (db : PricedDb) (l : PurchaseOrderLine) : ℚ :=
  numericColumn 2 ((db.supplyPrice l.id).getD 0 * l.qtyOrderedBase)

/-- The lines `upsert_completion_rows_for_po` reads. -/
def joinedLines (db : PurchaseDb) (poId : Int) : List PurchaseOrderLine :=
  db.purchaseOrderLines.rows.filter fun l => l.poId = poId ∧
    db.wms.itemUoms.HasKey l.purchaseUomIdSnapshot

/-- `planned_line_amount` by line key, once the lines' rows are there. -/
def plannedAfter (db : PricedDb) (lines : List PurchaseOrderLine) (id : Int) : ℚ :=
  match lines.find? fun l => l.id = id with
  | some l => db.plannedAmountOf l
  | none => db.plannedLineAmount id

/-- `upsert_completion_rows_for_po` -/
def upsertCompletionRows (db : PricedDb) (poId : Int) : PricedDb :=
  { db with
    base := db.base.upsertCompletionRows poId
    plannedLineAmount := db.plannedAfter (joinedLines db.base poId) }

/-- `rebuild_completion_rows_for_po` -/
def rebuildCompletionRows (db : PricedDb) (poId : Int) : PricedDb :=
  let base := { db.base with wms := { db.base.wms with
    poLineCompletion := db.base.wms.poLineCompletion.delete fun c => c.poId = poId } }
  { db with base := base }.upsertCompletionRows poId

/-! ## The services -/

/-- `create_po_v2`; `poId` is what the sequence of orders draws. -/
def createPoV2 (payload : PricedOrderIn) (poId : Int) (newLineId : Int → Int) (db : PricedDb) :
    Except Err PricedDb := do
  let _ ← demand (strip payload.purchaser ≠ "")
    (.valueError "purchaser 不能为空：采购单必须填写采购人")
  let (supplierId, supplierName) ← requireSupplierSnapshot db.base payload.supplierId
  let (total, lines) ← normalizePriced (fun _ => normalizeCreateLine db.base supplierId) [] 0
    payload.lines
  let db ← db.insertHead
    { id := poId, supplierId := supplierId, supplierName := supplierName
      warehouseId := payload.warehouseId, purchaser := strip payload.purchaser
      status := .created } total
  let db ← db.insertLines poId newLineId lines
  return db.upsertCompletionRows poId

/-- `update_po_v2` -/
def updatePoV2 (poId : Int) (payload : PricedOrderIn) (newLineId : Int → Int) (db : PricedDb) :
    Except Err PricedDb := do
  let po ← demandSome (db.base.purchaseOrders.lookup poId) (.http 404 "PurchaseOrder not found")
  let _ ← requirePoEditable db.base po
  let _ ← demand (strip payload.purchaser ≠ "")
    (.valueError "purchaser 不能为空：采购单必须填写采购人")
  let (supplierId, supplierName) ← requireSupplierSnapshot db.base payload.supplierId
  let (total, lines) ← normalizePriced (normalizeUpdateLine db.base supplierId) [] 0 payload.lines
  let head : PurchaseOrder → PurchaseOrder := fun po =>
    { po with
      supplierId := supplierId, supplierName := supplierName
      warehouseId := payload.warehouseId, purchaser := strip payload.purchaser }
  let db : PricedDb := { db with
    base := { db.base with
      purchaseOrders := db.base.purchaseOrders.update (fun o => o.id = po.id) head fun _ => rfl }
    totalAmount := Function.update db.totalAmount po.id (some (numericColumn 2 total)) }
  let db ← { db with base := db.base.deleteLines po.id }.insertLines po.id newLineId lines
  return db.rebuildCompletionRows po.id

/-! ## What an order amounts to -/

/-- The lines of an order. -/
def orderLines (db : PricedDb) (poId : Int) : List PurchaseOrderLine :=
  db.base.purchaseOrderLines.rows.filter fun l => l.poId = poId

/-- The completion rows of an order. -/
def orderCompletions (db : PricedDb) (poId : Int) : List PoLineCompletion :=
  db.base.wms.poLineCompletion.rows.filter fun c => c.poId = poId

/-- Stored prices times base quantities. -/
def linesAmount (db : PricedDb) (poId : Int) : ℚ :=
  ((db.orderLines poId).map fun l => (db.supplyPrice l.id).getD 0 * l.qtyOrderedBase).sum

/-- The planned amounts of the completion rows. -/
def plannedAmount (db : PricedDb) (poId : Int) : ℚ :=
  ((db.orderCompletions poId).map fun c => db.plannedLineAmount c.poLineId).sum

end PricedDb

/-! ## Rounding to cents -/

/-- Rounding a number that is not negative: the nearest integer, a half up. -/
theorem roundHalfAway_eq_iff {q : ℚ} (hq : 0 ≤ q) {n : Int} :
    roundHalfAway q = n ↔ (n : ℚ) ≤ q + 1 / 2 ∧ q + 1 / 2 < n + 1 := by
  rw [roundHalfAway, if_pos hq, Int.floor_eq_iff]

/-- A number of cents. -/
def IsCents (q : ℚ) : Prop := ∃ n : Int, q = n / 100

theorem isCents_numericColumn (q : ℚ) : IsCents (numericColumn 2 q) := ⟨_, by
  unfold numericColumn
  norm_num
  rfl⟩

theorem IsCents.mul_int {q : ℚ} (h : IsCents q) (k : Int) : IsCents (q * k) := by
  obtain ⟨n, rfl⟩ := h
  exact ⟨n * k, by push_cast; ring⟩

theorem isCents_sum {l : List ℚ} (h : ∀ q ∈ l, IsCents q) : IsCents l.sum := by
  induction l with
  | nil => exact ⟨0, by simp⟩
  | cons q l ih =>
      obtain ⟨⟨n, hn⟩, hl⟩ := List.forall_mem_cons.mp h
      obtain ⟨m, hm⟩ := ih hl
      exact ⟨n + m, by rw [List.sum_cons, hn, hm]; push_cast; ring⟩

/-- Cents are stored as they are. -/
theorem IsCents.numericColumn_eq {q : ℚ} (h : IsCents q) : numericColumn 2 q = q := by
  obtain ⟨n, rfl⟩ := h
  unfold numericColumn
  rw [show (n : ℚ) / 100 * 10 ^ 2 = (n : ℚ) by norm_num, roundHalfAway_intCast]
  norm_num

/-- A number is stored as an amount of cents when it is less than half a cent
above it and at most half a cent below. -/
theorem numericColumn_eq_iff {x y : ℚ} (hx : 0 ≤ x) (hy : IsCents y) :
    numericColumn 2 x = y ↔ -(1 / 200) ≤ x - y ∧ x - y < 1 / 200 := by
  obtain ⟨n, rfl⟩ := hy
  have hunits : numericColumn 2 x = n / 100 ↔ roundHalfAway (x * 10 ^ 2) = n := by
    unfold numericColumn
    rw [show ((10 : ℚ) ^ 2) = 100 by norm_num, div_left_inj' (by norm_num)]
    exact Int.cast_inj
  rw [hunits, roundHalfAway_eq_iff (by positivity)]
  constructor
  · rintro ⟨h₁, h₂⟩
    constructor <;> linarith
  · rintro ⟨h₁, h₂⟩
    constructor <;> linarith

end WmsDu
