import WmsDu.Db.Schema
import WmsDu.Shared.Fallible
import WmsDu.Shipping.Schema

/-!
# Shipping records

The ledger of what was handed to a carrier: one row a package, written by an
upsert that replaces every column of the row, the tracking number included.
-/

namespace WmsDu

/-- `get_waybill_shipping_record`. -/
def getWaybillShippingRecord (t : Table ShippingRecord.id) (key : ShippingRecordKey) :
    Option ShippingRecord :=
  t.rows.find? fun r => r.key = { key with platform := upper key.platform }

/-- `upsert_waybill_shipping_record`; a new row gets the drawn id. -/
def upsertWaybillShippingRecord (newId : Int) (r : ShippingRecord) (t : Table ShippingRecord.id) :
    Except Err (Table ShippingRecord.id) := do
  let key := { r.key with platform := upper r.key.platform }
  let existing := t.rows.find? fun s => s.key = key
  let row := { r with id := (existing.map (·.id)).getD newId, key }
  demand (∀ s ∈ t.rows, s.id ≠ row.id → row.trackingNo.isSome →
      ¬ (s.shippingProviderId = row.shippingProviderId ∧ s.trackingNo = row.trackingNo))
    (.integrity "uq_shipping_records_provider_tracking_notnull")
  match existing with
  | some _ => pure (t.put row)
  | none => do
      demand (¬ t.HasKey row.id) (.integrity "shipping_records_pkey")
      pure (t.insert row)

end WmsDu
