import WmsDu.Db.Runs

/-!
# The freeze guard

`ensure_warehouse_not_frozen`, the check a service makes before it changes the
stock of a warehouse: no count document of the warehouse is in status
`FROZEN`. Calling it is up to each service.
-/

namespace WmsDu

open Txn

/-- The newer snapshot first, then the larger id. -/
def CountDoc.newer (a b : CountDoc) : Prop :=
  b.snapshotAt < a.snapshotAt ∨ (a.snapshotAt = b.snapshotAt ∧ b.id ≤ a.id)

instance (a b : CountDoc) : Decidable (a.newer b) := inferInstanceAs (Decidable (_ ∨ (_ ∧ _)))

/-- `get_frozen_count_doc_brief`. -/
def frozenCountDoc (db : Db) (warehouseId : Int) : Option CountDoc :=
  ((db.countDocs.rows.filter fun d => d.warehouseId = warehouseId ∧ d.status = .frozen).insertionSort
    CountDoc.newer).head?

/-- The answer that a frozen document gives to a service. -/
def frozenError (warehouseId : Int) (doc : CountDoc) : Err :=
  .problem 409 "count_doc_frozen_for_warehouse" "该仓存在 FROZEN 状态盘点单，当前禁止任何会改库存的操作。"
    [("warehouse_id", toString warehouseId), ("count_doc_id", toString doc.id),
      ("count_no", doc.countNo), ("snapshot_at", toString doc.snapshotAt)]

/-- `ensure_warehouse_not_frozen`. -/
def ensureWarehouseNotFrozen (warehouseId : Int) : Tx Unit := do
  let frozen ← Tx.select fun db => frozenCountDoc db warehouseId
  match frozen with
  | none => return ()
  | some doc => Prog.raise (frozenError warehouseId doc)

/-- A warehouse with a count document in status `FROZEN`. -/
def Db.Frozen (db : Db) (warehouseId : Int) : Prop :=
  ∃ d ∈ db.countDocs.rows, d.warehouseId = warehouseId ∧ d.status = .frozen

instance (db : Db) (warehouseId : Int) : Decidable (db.Frozen warehouseId) :=
  inferInstanceAs (Decidable (∃ d ∈ db.countDocs.rows, _))

theorem frozenCountDoc_eq_none {db : Db} {w : Int} : frozenCountDoc db w = none ↔ ¬ db.Frozen w := by
  have hempty : frozenCountDoc db w = none ↔
      db.countDocs.rows.filter (fun d => d.warehouseId = w ∧ d.status = .frozen) = [] := by
    rw [frozenCountDoc, List.head?_eq_none_iff, ← List.length_eq_zero_iff,
      List.length_insertionSort, List.length_eq_zero_iff]
  rw [hempty, List.filter_eq_nil_iff, Db.Frozen]
  simp

/-- The guard passes exactly in a warehouse that is not frozen. -/
theorem run_ensureWarehouseNotFrozen_ok {db db' : Db} {w : Int} {u : Unit} :
    (ensureWarehouseNotFrozen w).run db = .ok (u, db') ↔ ¬ db.Frozen w ∧ db = db' := by
  rw [← frozenCountDoc_eq_none]
  unfold ensureWarehouseNotFrozen
  rw [Prog.run_bind, Tx.run_select]
  cases h : frozenCountDoc db w with
  | none => simp
  | some d => simp

theorem readOnly_ensureWarehouseNotFrozen (w : Int) :
    (ensureWarehouseNotFrozen w).ReadOnly := by
  refine Tx.readOnly_bind (Tx.readOnly_select _) fun frozen => ?_
  cases frozen <;> trivial

end WmsDu
