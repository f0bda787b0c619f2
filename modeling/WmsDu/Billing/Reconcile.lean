import WmsDu.Billing.Import

/-!
# Reconciling a bill

The items of a provider's bill that are not archived are compared with the
shipping records of their tracking numbers. An item without a record, or with
a difference, gets an open row; an item that agrees is archived. An open row
can be approved, which archives its item too.
-/

namespace WmsDu

/-! ## Reading the bill -/

/-- `upper(code) = upper(:shipping_provider_code)`. -/
def SameProvider (code : String) (other : String) : Prop := upper other = upper code

instance (code other : String) : Decidable (SameProvider code other) :=
  inferInstanceAs (Decidable (_ = _))

namespace BillingDb

/-- A history row of the item exists. -/
def Archived (db : BillingDb) (carrierBillItemId : Int) : Prop :=
  db.histories.HasKey carrierBillItemId

instance (db : BillingDb) (id : Int) : Decidable (db.Archived id) :=
  inferInstanceAs (Decidable (db.histories.HasKey id))

/-- `delete_archived_shipping_record_reconciliations_by_carrier`. -/
def deleteArchived (db : BillingDb) (code : String) : BillingDb :=
  { db with
    reconciliations := db.reconciliations.delete fun r =>
      SameProvider code r.shippingProviderCode ∧ db.Archived r.carrierBillItemId }

/-- `list_carrier_bill_items_for_reconcile`. -/
def itemsForReconcile (db : BillingDb) (code : String) : List CarrierBillItem :=
  db.carrierBillItems.rows.filter fun i =>
    SameProvider code i.shippingProviderCode ∧ ¬ db.Archived i.id

/-- `list_shipping_records_for_reconcile`. -/
def recordsForReconcile (db : BillingDb) (code : String) (trackingNos : List String) :
    List ShippingRecord :=
  db.shippingRecords.rows.filter fun r =>
    (∃ c ∈ r.shippingProviderCode, SameProvider code c) ∧ ∃ t ∈ r.trackingNo, t ∈ trackingNos

end BillingDb

/-- The loop over the bill rows: the first item of each tracking number, and
the tracking numbers that came again. -/
def collectBill :
    List CarrierBillItem → List (String × CarrierBillItem) × List String →
      List (String × CarrierBillItem) × List String
  | [], acc => acc
  | row :: rows, (billMap, duplicates) =>
      let trackingNo := strip row.trackingNo
      if trackingNo = "" then collectBill rows (billMap, duplicates)
      else if trackingNo ∈ billMap.map (·.1) then
        collectBill rows (billMap, duplicates.insert trackingNo)
      else collectBill rows (billMap ++ [(trackingNo, row)], duplicates)

/-- `bill_map` without the tracking numbers that came again. -/
def billMapOf (rows : List CarrierBillItem) : List (String × CarrierBillItem) :=
  let (billMap, duplicates) := collectBill rows ([], [])
  billMap.filter fun e => e.1 ∉ duplicates

/-- `record_map.get(tracking_no)`: the last record of a number is kept. -/
def recordMapGet (records : List ShippingRecord) (trackingNo : String) : Option ShippingRecord :=
  (records.filter fun r =>
    strip (r.trackingNo.getD "") ≠ "" ∧ strip (r.trackingNo.getD "") = trackingNo).getLast?

/-! ## Differences -/

/-- `weight_diff_kg` of an item and its record. -/
def weightDiffKg (item : CarrierBillItem) (record : ShippingRecord) : Option Numeric :=
  match item.billingWeightKg, record.grossWeightKg with
  | some b, some g => some (b - g)
  | _, _ => none

/-- `bill_cost_real`. -/
def billCostReal (item : CarrierBillItem) : Option Numeric :=
  if item.freightAmount.isSome ∨ item.surchargeAmount.isSome then
    some (item.freightAmount.getD 0 + item.surchargeAmount.getD 0)
  else none

/-- `cost_diff`. -/
def costDiff (item : CarrierBillItem) (record : ShippingRecord) : Option Numeric :=
  match billCostReal item, record.costEstimated with
  | some b, some c => some (b - c)
  | _, _ => none

/-- `has_diff`: the weights or the costs are both known and differ. -/
def Differs (item : CarrierBillItem) (record : ShippingRecord) : Prop :=
  (∃ d ∈ weightDiffKg item record, d ≠ 0) ∨ ∃ d ∈ costDiff item record, d ≠ 0

instance (item : CarrierBillItem) (record : ShippingRecord) : Decidable (Differs item record) :=
  inferInstanceAs (Decidable (_ ∨ _))

/-! ## Statements -/

/-- The check constraints of `shipping_record_reconciliations`. -/
def ShippingRecordReconciliation.check (r : ShippingRecordReconciliation) : Option String :=
  if ¬ (r.status = .diff ↔ r.shippingRecordId.isSome) then
    some "ck_shipping_record_reconciliations_status_shape"
  else if r.approvedAt.isSome ∧ r.approvedReasonCode = none then
    some "ck_shipping_record_reconciliations_approved_requires_code"
  else none

/-- Two rows that a unique index does not let stand together. -/
def ShippingRecordReconciliation.violates (r s : ShippingRecordReconciliation) : Option String :=
  if s.carrierBillItemId = r.carrierBillItemId then
    some "uq_shipping_record_reconciliations_bill_item_id"
  else if r.shippingRecordId.isSome ∧ s.shippingRecordId = r.shippingRecordId then
    some "uq_shipping_record_reconciliations_shipping_record_id_notnull"
  else none

namespace BillingDb

/-- The constraints a written row has to meet, alone and beside the others. -/
def checkReconciliation (db : BillingDb) (r : ShippingRecordReconciliation) : Except Err Unit :=
  match r.check with
  | some c => .error (.integrity c)
  | none =>
      match db.reconciliations.rows.findSome? fun s =>
          if s.id = r.id then none else r.violates s with
      | some c => .error (.integrity c)
      | none => .ok ()

/-- `upsert_shipping_record_reconciliation`, with the values of the row but
its id. -/
def upsertReconciliation (db : BillingDb) (row : ShippingRecordReconciliation) :
    Except Err BillingDb :=
  let existing := ((db.reconciliations.rows.filter fun r =>
    r.carrierBillItemId = row.carrierBillItemId ∨
      row.shippingRecordId.isSome ∧ r.shippingRecordId = row.shippingRecordId).map (·.id)).max?
  match existing with
  | some id => do
      db.checkReconciliation { row with id }
      pure { db with reconciliations := db.reconciliations.put { row with id } }
  | none => do
      let id := db.reconciliationSeq + 1
      demand (¬ db.reconciliations.HasKey id) (.integrity "pk_shipping_record_reconciliations")
      db.checkReconciliation { row with id }
      pure
        { db with
          reconciliations := db.reconciliations.insert { row with id }
          reconciliationSeq := id }

/-- `delete_shipping_record_reconciliation`. -/
def deleteReconciliation (db : BillingDb) (shippingRecordId carrierBillItemId : Int) :
    BillingDb :=
  { db with
    reconciliations := db.reconciliations.delete fun r =>
      r.shippingRecordId = some shippingRecordId ∨ r.carrierBillItemId = carrierBillItemId }

/-- `insert_shipping_bill_reconciliation_history`: an item archived before
keeps its row. -/
def insertHistory (db : BillingDb) (h : ShippingBillReconciliationHistory) : BillingDb :=
  { db with histories := db.histories.insert h }

end BillingDb

/-! ## The pass -/

structure ReconcileResult where
  shippingProviderCode : String
  billItemCount : Nat
  matchedCount : Nat := 0
  billOnlyCount : Nat := 0
  diffCount : Nat := 0
  updatedCount : Nat := 0
  duplicateBillTrackingCount : Nat
deriving DecidableEq, Repr

/-- The values of an item's open row; those of an approval are cleared. -/
def openRow (status : ReconciliationStatus) (code trackingNo : String)
    (record : Option ShippingRecord) (item : CarrierBillItem) : ShippingRecordReconciliation where
  id := 0
  status := status
  shippingProviderCode := code
  trackingNo := trackingNo
  shippingRecordId := record.map (·.id)
  carrierBillItemId := item.id
  weightDiffKg := record.bind (weightDiffKg item)
  costDiff := record.bind (costDiff item)
  adjustAmount := none
  approvedReasonCode := none
  approvedReasonText := none
  approvedAt := none

/-- One item of the bill, with the record of its tracking number. -/
def reconcileItem (code trackingNo : String) (item : CarrierBillItem)
    (record : Option ShippingRecord) (counts : ReconcileResult) (db : BillingDb) :
    Except Err (ReconcileResult × BillingDb) :=
  match record with
  | none => do
      let db ← db.upsertReconciliation (openRow .billOnly code trackingNo none item)
      pure ({ counts with
        billOnlyCount := counts.billOnlyCount + 1, updatedCount := counts.updatedCount + 1 }, db)
  | some record =>
      if Differs item record then do
        let db ← db.upsertReconciliation (openRow .diff code trackingNo (some record) item)
        pure ({ counts with
          diffCount := counts.diffCount + 1, updatedCount := counts.updatedCount + 1 }, db)
      else
        let db := (db.deleteReconciliation record.id item.id).insertHistory
          { carrierBillItemId := item.id, shippingRecordId := some record.id
            shippingProviderCode := code, trackingNo, resultStatus := .matched
            weightDiffKg := none, costDiff := none, adjustAmount := none
            approvedReasonCode := .matched, approvedReasonText := none }
        .ok ({ counts with
          matchedCount := counts.matchedCount + 1, updatedCount := counts.updatedCount + 1 }, db)

/-- The items of `bill_map`, one after another. -/
def reconcileItems (code : String) (records : List ShippingRecord) :
    List (String × CarrierBillItem) → ReconcileResult → BillingDb →
      Except Err (ReconcileResult × BillingDb)
  | [], counts, db => .ok (counts, db)
  | (trackingNo, item) :: rest, counts, db => do
      let (counts, db) ←
        reconcileItem code trackingNo item (recordMapGet records trackingNo) counts db
      reconcileItems code records rest counts db

/-- `reconcile`. -/
def reconcile (shippingProviderCode : String) (db : BillingDb) :
    Except Err (ReconcileResult × BillingDb) :=
  let code := strip shippingProviderCode
  let db := db.deleteArchived code
  let billRows := db.itemsForReconcile code
  let billMap := billMapOf billRows
  let records := db.recordsForReconcile code (billMap.map (·.1))
  reconcileItems code records billMap
    { shippingProviderCode := code, billItemCount := billRows.length
      duplicateBillTrackingCount := (collectBill billRows ([], [])).2.length } db

/-! ## Approving a difference -/

structure ApproveIn where
  approvedReasonCode : ApprovedReasonCode
  adjustAmount : Option Decimal
  approvedReasonText : Option String

/-- `approve_reconciliation`; `now` is the clock of its statement. -/
def approveReconciliation (reconciliationId : Int) (payload : ApproveIn) (now : Timestamp)
    (db : BillingDb) : Except Err BillingDb := do
  let row ← demandSome (db.reconciliations.lookup reconciliationId)
    (.http 404 "对账差异记录不存在。")
  let expected : ApprovedReasonCode :=
    match row.status with
    | .billOnly => .approvedBillOnly
    | .diff => .resolved
  demand (payload.approvedReasonCode = expected)
    (.http 422 ("当前状态 " ++ row.status.text ++ " 只能确认为 " ++ expected.text ++
      "，不能写为 " ++ payload.approvedReasonCode.text ++ "。"))
  let adjustAmount ← storeFigure 2 (some (payload.adjustAmount.getD (.finite 0)))
  let approved : ShippingRecordReconciliation :=
    { row with
      approvedReasonCode := some payload.approvedReasonCode, adjustAmount
      approvedReasonText := cleanText payload.approvedReasonText, approvedAt := some now }
  db.checkReconciliation approved
  pure
    { db with
      reconciliations := db.reconciliations.delete fun r => r.id = reconciliationId
      histories := db.histories.insert
        { carrierBillItemId := approved.carrierBillItemId
          shippingRecordId := approved.shippingRecordId
          shippingProviderCode := approved.shippingProviderCode
          trackingNo := approved.trackingNo, resultStatus := payload.approvedReasonCode
          weightDiffKg := approved.weightDiffKg, costDiff := approved.costDiff
          adjustAmount := approved.adjustAmount
          approvedReasonCode := payload.approvedReasonCode
          approvedReasonText := approved.approvedReasonText } }

end WmsDu
