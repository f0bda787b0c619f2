import WmsDu.Db.Sql
import WmsDu.Txn.Session

/-!
# The order tables

The tables the order services write, over the warehouse database they share:
`orders` and `order_lines` are the warehouse's, with the foreign key of the
outbound event lines on them.
-/

namespace WmsDu

open Txn

/-! ## Rows -/

structure Store where
  id : Int
  platform : String
  storeCode : String
  storeName : String

/-- `order_items`; the money columns in hundredths. -/
structure OrderItem where
  id : Int
  orderId : Int
  itemId : Int
  skuId : Option String
  title : Option String
  qty : Int
  price : Int
  discount : Int
  amount : Int
  shippedQty : Int
  returnedQty : Int
deriving DecidableEq, Repr

/-- The check constraints of `order_items`. -/
def OrderItem.check (i : OrderItem) : Option String :=
  if i.price < 0 ∨ i.discount < 0 ∨ i.amount < 0 then some "chk_order_items_amount_nonneg"
  else if i.qty ≤ 0 then some "chk_order_items_qty_pos"
  else none

inductive ExecutionStage
  | pick | ship
deriving DecidableEq, Repr

/-- `order_fulfillment`: one row an order. -/
structure OrderFulfillment where
  orderId : Int
  plannedWarehouseId : Option Int
  actualWarehouseId : Option Int
  fulfillmentStatus : Option String
  blockedReasons : Option (List String)
  executionStage : Option ExecutionStage
  shipCommittedAt : Option Timestamp
  shippedAt : Option Timestamp
deriving DecidableEq, Repr

/-- The check constraints of `order_fulfillment`. -/
def OrderFulfillment.check (f : OrderFulfillment) : Option String :=
  if f.shippedAt.isSome ∧ f.shipCommittedAt = none then
    some "ck_order_fulfillment_ship_time_order"
  else if ∃ s ∈ f.fulfillmentStatus, s ∈ ["SHIP_COMMITTED", "SHIPPED", "READY_TO_FULFILL"] then
    some "ck_order_fulfillment_status_no_ship_stage"
  else none

inductive LocatorKind
  | filledCode | lineNo
deriving DecidableEq, Repr

/-- The unique key of `platform_order_lines`. -/
structure FactKey where
  platform : String
  storeCode : String
  extOrderNo : String
  lineKey : String
deriving DecidableEq, Repr

/-- `platform_order_lines`: one stored fact of a platform order. -/
structure PlatformOrderLine where
  key : FactKey
  storeId : Option Int
  lineNo : Int
  locatorKind : LocatorKind
  locatorValue : String
  filledCode : Option String
  qty : Int
  title : Option String
  spec : Option String
deriving DecidableEq, Repr

inductive FskuStatus
  | draft | published | retired
deriving DecidableEq, Repr

structure Fsku where
  id : Int
  code : String
  status : FskuStatus

/-- A component of an FSKU; its `NUMERIC` quantity as a numerator over a
positive denominator. -/
structure FskuComponent where
  id : Int
  fskuId : Int
  itemId : Int
  qtyNum : Int
  qtyDen : Nat
  role : String
deriving DecidableEq, Repr

structure MerchantCodeBinding where
  platform : String
  storeCode : String
  merchantCode : String
  fskuId : Int

/-! ## The database -/

/-- The order tables and the warehouse database they stand in. -/
structure OmsDb where
  wms : Db
  stores : Table Store.id := .empty
  orderItems : Table OrderItem.id := .empty
  orderFulfillment : Table OrderFulfillment.orderId := .empty
  platformOrderLines : Table PlatformOrderLine.key := .empty
  fskus : Table Fsku.id := .empty
  fskuComponents : Table FskuComponent.id := .empty
  merchantCodeBindings : List MerchantCodeBinding := []
  /-- `warehouse_service_provinces`. -/
  serviceProvinces : List (String × Int) := []
  /-- `warehouse_service_cities`; the province is nullable. -/
  serviceCities : List (Option String × String × Int) := []
  /-- `warehouse_service_city_split_provinces`. -/
  citySplitProvinces : List String := []
  /-- The names of the warehouses. -/
  warehouseNames : List (Int × String) := []

/-- The database with other order lines. -/
def OmsDb.withOrderLines (db : OmsDb) (t : Table OrderLine.id) : OmsDb :=
  { db with wms := { db.wms with orderLines := t } }

/-- The database with one more order. -/
def OmsDb.withOrder (db : OmsDb) (order : OrderHead) : OmsDb :=
  { db with wms := { db.wms with orders := db.wms.orders.insert order } }

/-- The database with other facts. -/
def OmsDb.withFacts (db : OmsDb) (t : Table PlatformOrderLine.key) : OmsDb :=
  { db with platformOrderLines := t }

/-- A service of the order side. -/
abbrev Oms (α : Type) := Sess OmsDb Err α

namespace Oms

/-- PostgreSQL's answer in an aborted transaction. -/
def refused : Err := .integrity "in_failed_sql_transaction"

/-- A statement that reads. -/
def select {α : Type} (q : OmsDb → α) : Oms α := Sess.exec refused fun db => .ok (q db, db)

/-- A statement that writes, or violates a constraint. -/
def write {α : Type} (f : OmsDb → Except Err (α × OmsDb)) : Oms α := Sess.exec refused f

/-- Raise unless the condition holds. -/
def require (c : Prop) [Decidable c] (e : Err) : Oms Unit :=
  if c then pure () else Sess.raise e

/-- Run only under a condition. -/
def when (c : Prop) [Decidable c] (x : Oms Unit) : Oms Unit := if c then x else pure ()

/-- The value of a read that must find its row. -/
def requireSome {α : Type} (o : Option α) (e : Err) : Oms α :=
  match o with
  | some a => pure a
  | none => Sess.raise e

/-! ## Runs -/

variable {α : Type} {c c' : Conn OmsDb} {a : α}

theorem run_select_ok {q : OmsDb → α} :
    select q c = (.ok a, c') ↔ c.aborted = false ∧ q c.state = a ∧ c = c' := by
  rw [select, Sess.run_exec_ok]
  obtain ⟨s, ab⟩ := c
  constructor
  · rintro ⟨rfl, w, h, rfl⟩
    cases h
    exact ⟨rfl, rfl, rfl⟩
  · rintro ⟨rfl, rfl, rfl⟩
    exact ⟨rfl, s, rfl, rfl⟩

theorem run_write_ok {f : OmsDb → Except Err (α × OmsDb)} :
    write f c = (.ok a, c') ↔
      c.aborted = false ∧ ∃ db, f c.state = .ok (a, db) ∧ c' = ⟨db, false⟩ :=
  Sess.run_exec_ok

theorem run_require_ok {p : Prop} [Decidable p] {e : Err} {u : Unit} :
    require p e c = (.ok u, c') ↔ p ∧ c = c' := by
  unfold require
  split
  · simp [*]
  · simp [*]

theorem run_require_of {p : Prop} [Decidable p] (h : p) (e : Err) (c : Conn OmsDb) :
    require p e c = (.ok (), c) := run_require_ok.mpr ⟨h, rfl⟩

theorem run_requireSome_ok {o : Option α} {e : Err} :
    requireSome o e c = (.ok a, c') ↔ o = some a ∧ c = c' := by
  cases o with
  | none => simp [requireSome]
  | some a' => simp [requireSome]

/-- A read changes nothing, not even in an aborted transaction. -/
theorem keeps_select {R : Conn OmsDb → Conn OmsDb → Prop} (hrefl : ∀ c, R c c) (q : OmsDb → α) :
    Sess.Keeps R (select q) := by
  rintro ⟨db, ab⟩
  cases ab with
  | true =>
      rw [select, Sess.run_exec_aborted rfl]
      exact hrefl _
  | false => exact hrefl _

theorem write_abortsOnError (f : OmsDb → Except Err (α × OmsDb)) :
    Sess.AbortsOnError (write f) := Sess.abortsOnError_exec

theorem keeps_requireSome {R : Conn OmsDb → Conn OmsDb → Prop} (hrefl : ∀ c, R c c)
    (o : Option α) (e : Err) : Sess.Keeps R (requireSome o e) := by
  cases o <;> exact hrefl

theorem run_when_of {p : Prop} [Decidable p] {x : Oms Unit} (h : p) : when p x = x := if_pos h

theorem run_when_of_not {p : Prop} [Decidable p] {x : Oms Unit} (h : ¬ p) :
    when p x = pure () := if_neg h

@[simp] theorem run_select (q : OmsDb → α) (db : OmsDb) :
    select q ⟨db, false⟩ = (.ok (q db), ⟨db, false⟩) := rfl

end Oms

/-! ## A small shop -/

/-- Two warehouses, one item, and one order of the item that no service has
touched yet. -/
def sampleShop : OmsDb where
  wms :=
    { warehouses := ⟨[1, 2], by decide⟩
      items :=
        ⟨[{ id := 1, sku := "TEA", name := "tea", spec := none
            policy :=
              { expiryPolicy := .none, shelfLifeValue := none, shelfLifeUnit := none
                lotSourcePolicy := .internalOnly, derivationAllowed := false
                uomGovernanceEnabled := false } }], by decide⟩
      orders := ⟨[⟨1, "PDD", "S1", "E1"⟩], by decide⟩
      orderLines := ⟨[⟨1, 1, 1, 10⟩], by decide⟩ }
  stores := ⟨[⟨1, "PDD", "S1", "PDD-S1"⟩], by decide⟩
  orderItems := ⟨[⟨1, 1, 1, none, none, 10, 0, 0, 0, 0, 0⟩], by decide⟩

end WmsDu
