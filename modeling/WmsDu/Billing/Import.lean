import WmsDu.Billing.Importer

/-!
# Merging a bill into the table

An imported row whose tracking number is already there is merged column by
column: a cell that is blank in the file keeps what is stored. The total of
the row is never blank, so it always replaces the stored one.
-/

namespace WmsDu

/-! ## The statement -/

/-- An optional figure as a `NUMERIC` column keeps it. -/
def storeFigure (scale : Nat) : Option Decimal → Except Err (Option Numeric)
  | none => .ok none
  | some d => do
      let n ← demandSome (Numeric.store scale d) (.integrity "numeric_value_out_of_range")
      pure (some n)

/-- The values of an imported row, as the columns keep them. -/
def BillRow.stored (row : BillRow Decimal) : Except Err (BillRow Numeric) := do
  let billingWeightKg ← storeFigure 3 row.billingWeightKg
  let freightAmount ← storeFigure 2 row.freightAmount
  let surchargeAmount ← storeFigure 2 row.surchargeAmount
  let totalAmount ← storeFigure 2 row.totalAmount
  pure { row with billingWeightKg, freightAmount, surchargeAmount, totalAmount }

/-- The row `DO UPDATE` leaves; `Option.or` is `COALESCE`. -/
def CarrierBillItem.merge (old excluded : CarrierBillItem) : CarrierBillItem where
  id := old.id
  shippingProviderCode := old.shippingProviderCode
  trackingNo := old.trackingNo
  billMonth := excluded.billMonth
  businessTime := excluded.businessTime.or old.businessTime
  destinationProvince := excluded.destinationProvince.or old.destinationProvince
  destinationCity := excluded.destinationCity.or old.destinationCity
  billingWeightKg := excluded.billingWeightKg.or old.billingWeightKg
  freightAmount := excluded.freightAmount.or old.freightAmount
  surchargeAmount := excluded.surchargeAmount.or old.surchargeAmount
  totalAmount := excluded.totalAmount.or old.totalAmount
  settlementObject := excluded.settlementObject.or old.settlementObject
  orderCustomer := excluded.orderCustomer.or old.orderCustomer
  senderName := excluded.senderName.or old.senderName
  networkName := excluded.networkName.or old.networkName
  sizeText := excluded.sizeText.or old.sizeText
  parentCustomer := excluded.parentCustomer.or old.parentCustomer
  rawPayload := excluded.rawPayload

/-- The `WHERE` of `DO UPDATE`: some column is distinct. -/
def CarrierBillItem.DistinctFrom (old excluded : CarrierBillItem) : Prop :=
  old.billMonth ≠ excluded.billMonth ∨ old.rawPayload ≠ excluded.rawPayload ∨
    old.billingWeightKg ≠ excluded.billingWeightKg ∨
    old.freightAmount ≠ excluded.freightAmount ∨
    old.surchargeAmount ≠ excluded.surchargeAmount ∨
    old.totalAmount ≠ excluded.totalAmount ∨
    old.destinationProvince ≠ excluded.destinationProvince ∨
    old.destinationCity ≠ excluded.destinationCity ∨
    old.businessTime ≠ excluded.businessTime ∨
    old.settlementObject ≠ excluded.settlementObject ∨
    old.orderCustomer ≠ excluded.orderCustomer ∨ old.senderName ≠ excluded.senderName ∨
    old.networkName ≠ excluded.networkName ∨ old.sizeText ≠ excluded.sizeText ∨
    old.parentCustomer ≠ excluded.parentCustomer

instance (old excluded : CarrierBillItem) : Decidable (old.DistinctFrom excluded) :=
  inferInstanceAs (Decidable (_ ∨ _))

/-- `INSERT … ON CONFLICT (shipping_provider_code, tracking_no) DO UPDATE`. -/
def BillingDb.upsertItem (db : BillingDb) (excluded : CarrierBillItem) : BillingDb :=
  { db with
    carrierBillItemSeq := db.carrierBillItemSeq + 1
    carrierBillItems :=
      match db.carrierBillItems.lookup excluded.key with
      | none => db.carrierBillItems.insert excluded
      | some old =>
          if old.DistinctFrom excluded then db.carrierBillItems.put (old.merge excluded)
          else db.carrierBillItems }

/-- `json.dumps` does not write a `datetime`. -/
def Cell.IsJson : Cell → Prop
  | .time _ _ => False
  | _ => True

instance : (c : Cell) → Decidable c.IsJson
  | .blank => isTrue trivial
  | .text _ => isTrue trivial
  | .number _ => isTrue trivial
  | .time _ _ => isFalse id

/-- One row of `insert_carrier_bill_items`. -/
def insertCarrierBillItem (shippingProviderCode : String) (billMonth : Option String)
    (row : BillRow Decimal) (db : BillingDb) : Except Err BillingDb := do
  demand (∀ e ∈ row.rawPayload, e.2.IsJson)
    (.runtimeError "Object of type datetime is not JSON serializable")
  let values ← row.stored
  pure (db.upsertItem
    { values with id := db.carrierBillItemSeq + 1, shippingProviderCode, billMonth })

/-- `insert_carrier_bill_items`. -/
def insertCarrierBillItems (shippingProviderCode : String) (billMonth : Option String) :
    List (BillRow Decimal) → BillingDb → Except Err BillingDb
  | [], db => .ok db
  | row :: rows, db => do
      let db ← insertCarrierBillItem shippingProviderCode billMonth row db
      insertCarrierBillItems shippingProviderCode billMonth rows db

/-! ## The route -/

/-- An upload; `sheet` is the first sheet of the workbook, absent when the
upload has no bytes. -/
structure BillUpload where
  shippingProviderCode : String
  billMonth : Option String
  filename : Option String
  sheet : Option (List (List Cell))

structure BillImportResult where
  shippingProviderCode : String
  importedCount : Nat
  skippedCount : Nat
  errors : List BillImportRowError
deriving DecidableEq, Repr

/-- `import_shipping_bill`. -/
def importShippingBill (readTime : String → Option Timestamp) (upload : BillUpload)
    (db : BillingDb) : Except Err (BillImportResult × BillingDb) := do
  let filename := strip (upload.filename.getD "")
  demand (".xlsx".toList <:+ (lower filename).toList) (.http 422 "当前仅支持 .xlsx 对账单导入")
  let shippingProviderCode := strip upload.shippingProviderCode
  let billMonth := cleanText upload.billMonth
  demand (shippingProviderCode ≠ "") (.http 422 "shipping_provider_code is required")
  let sheet ← demandSome upload.sheet (.http 422 "上传文件为空")
  let parsed ← parseAndNormalizeCarrierBillXlsx readTime sheet
  let db ← insertCarrierBillItems shippingProviderCode billMonth parsed.validRows db
  pure
    ({ shippingProviderCode
       importedCount := parsed.validRows.length
       skippedCount := parsed.skippedCount
       errors := parsed.errors }, db)

end WmsDu
