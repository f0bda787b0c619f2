import WmsDu.Db.Schema
import WmsDu.Shared.Fallible
import WmsDu.Shipping.Schema

/-!
# The billing tables

The carriers' bills as they were imported, and what reconciling them with the
shipping records left open or archived.
-/

namespace WmsDu

/-- A cell of a sheet; numbers and times with the text `str` gives them. -/
inductive Cell
  | blank
  | text (s : String)
  | number (printed : String)
  | time (t : Timestamp) (printed : String)
deriving DecidableEq, Repr

/-- A row of a bill: as the importer reads it, with `float` figures, or as the
table stores it. -/
structure BillRow (α : Type) where
  trackingNo : String
  businessTime : Option Timestamp
  destinationProvince : Option String
  destinationCity : Option String
  billingWeightKg : Option α
  freightAmount : Option α
  surchargeAmount : Option α
  totalAmount : Option α
  settlementObject : Option String
  orderCustomer : Option String
  senderName : Option String
  networkName : Option String
  sizeText : Option String
  parentCustomer : Option String
  rawPayload : List (String × Cell)
deriving DecidableEq

/-- `carrier_bill_items`. -/
structure CarrierBillItem extends BillRow Numeric where
  id : Int
  shippingProviderCode : String
  billMonth : Option String
deriving DecidableEq

/-- Its unique key. -/
def CarrierBillItem.key (i : CarrierBillItem) : String × String :=
  (i.shippingProviderCode, i.trackingNo)

inductive ReconciliationStatus
  | diff | billOnly
deriving DecidableEq, Repr

/-- A status as the error texts print it. -/
def ReconciliationStatus.text : ReconciliationStatus → String
  | .diff => "diff"
  | .billOnly => "bill_only"

inductive ApprovedReasonCode
  | matched | approvedBillOnly | resolved
deriving DecidableEq, Repr

def ApprovedReasonCode.text : ApprovedReasonCode → String
  | .matched => "matched"
  | .approvedBillOnly => "approved_bill_only"
  | .resolved => "resolved"

/-- `shipping_record_reconciliations`: a bill item with an open difference. -/
structure ShippingRecordReconciliation where
  id : Int
  status : ReconciliationStatus
  shippingProviderCode : String
  trackingNo : String
  shippingRecordId : Option Int
  carrierBillItemId : Int
  weightDiffKg : Option Numeric
  costDiff : Option Numeric
  adjustAmount : Option Numeric
  approvedReasonCode : Option ApprovedReasonCode
  approvedReasonText : Option String
  approvedAt : Option Timestamp
deriving DecidableEq, Repr

/-- `shipping_bill_reconciliation_histories`: one row an archived bill item. -/
structure ShippingBillReconciliationHistory where
  carrierBillItemId : Int
  shippingRecordId : Option Int
  shippingProviderCode : String
  trackingNo : String
  resultStatus : ApprovedReasonCode
  weightDiffKg : Option Numeric
  costDiff : Option Numeric
  adjustAmount : Option Numeric
  approvedReasonCode : ApprovedReasonCode
  approvedReasonText : Option String
deriving DecidableEq, Repr

/-- The billing tables, with the sequences their ids are drawn from. -/
structure BillingDb where
  shippingRecords : Table ShippingRecord.id := .empty
  carrierBillItems : Table CarrierBillItem.key := .empty
  carrierBillItemSeq : Int := 0
  reconciliations : Table ShippingRecordReconciliation.id := .empty
  reconciliationSeq : Int := 0
  histories : Table ShippingBillReconciliationHistory.carrierBillItemId := .empty

end WmsDu
