import WmsDu.Db.Sql
import WmsDu.Shared.Fallible

/-!
# The purchase tables

Purchase orders and their lines, over the warehouse database that receives
them. Event lines and the rows of `purchase_order_line_completion` refer to
order lines by foreign keys of their own.
-/

namespace WmsDu

open Txn

structure Supplier where
  id : Int
  name : String
  active : Bool

inductive PurchaseOrderStatus
  | created | canceled | closed
deriving DecidableEq, Repr

/-- A status as the error texts print it. -/
def PurchaseOrderStatus.text : PurchaseOrderStatus → String
  | .created => "CREATED"
  | .canceled => "CANCELED"
  | .closed => "CLOSED"

structure PurchaseOrder where
  id : Int
  supplierId : Int
  supplierName : String
  warehouseId : Int
  purchaser : String
  status : PurchaseOrderStatus

/-- A purchase order line as a payload is normalized to it. -/
structure PurchaseLineValues where
  lineNo : Int
  itemId : Int
  itemName : String
  itemSku : String
  purchaseUomIdSnapshot : Int
  purchaseUomNameSnapshot : String
  purchaseRatioToBaseSnapshot : Int
  qtyOrderedInput : Int
  qtyOrderedBase : Int
  remark : Option String

/-- `purchase_order_lines`. -/
structure PurchaseOrderLine extends PurchaseLineValues where
  id : Int
  poId : Int

/-- The purchase tables and the warehouse database they stand in. -/
structure PurchaseDb where
  wms : Db
  suppliers : Table Supplier.id := .empty
  purchaseOrders : Table PurchaseOrder.id := .empty
  purchaseOrderLines : Table PurchaseOrderLine.id := .empty

namespace PurchaseDb

/-- The foreign key `fk_inbound_event_lines_po_line`. -/
def LinesLinked (db : PurchaseDb) : Prop :=
  ∀ l ∈ db.wms.inboundEventLines.rows, ∀ p ∈ l.poLineId, db.purchaseOrderLines.HasKey p

instance (db : PurchaseDb) : Decidable db.LinesLinked :=
  inferInstanceAs (Decidable (∀ l ∈ db.wms.inboundEventLines.rows, _))

/-- A call of a warehouse service, with the foreign key on what it wrote. -/
def wmsCall {α : Type} (x : Tx α) (db : PurchaseDb) : Except Err PurchaseDb := do
  let (_, wms) ← x.run db.wms
  let db := { db with wms := wms }
  let _ ← demand db.LinesLinked (.integrity "fk_inbound_event_lines_po_line")
  return db

theorem wmsCall_ok {α : Type} {x : Tx α} {db db' : PurchaseDb} (h : wmsCall x db = .ok db') :
    ∃ a, x.run db.wms = .ok (a, db'.wms) ∧ db'.LinesLinked ∧ db' = { db with wms := db'.wms } := by
  unfold wmsCall at h
  simp only [bind_eq_ok, demand_eq_ok, pure_eq_ok] at h
  obtain ⟨⟨a, wms⟩, hrun, _, hlinked, rfl⟩ := h
  exact ⟨a, hrun, hlinked, rfl⟩

end PurchaseDb

end WmsDu
