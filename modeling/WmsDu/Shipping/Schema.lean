import WmsDu.Data.Table
import WmsDu.Shared.Decimals

/-!
# The shipment tables
-/

namespace WmsDu

/-- The unique key of `shipping_records`. -/
structure ShippingRecordKey where
  platform : String
  storeCode : String
  orderRef : String
  packageNo : Int
deriving DecidableEq, Repr

/-- `shipping_records`: the shipping of one package. -/
structure ShippingRecord where
  id : Int
  key : ShippingRecordKey
  warehouseId : Int
  shippingProviderId : Int
  shippingProviderCode : Option String
  shippingProviderName : Option String
  trackingNo : Option String
  /-- In grams. -/
  grossWeightKg : Option Numeric
  freightEstimated : Option Numeric
  surchargeEstimated : Option Numeric
  /-- In cents. -/
  costEstimated : Option Numeric
  sender : Option String
  destProvince : Option String
  destCity : Option String
deriving DecidableEq, Repr

end WmsDu
