import WmsDu.Pms.Aggregate
import WmsDu.Pms.Rows

/-!
# What the item services can write

The table each record is about, and the tables a part of a service writes.
-/

namespace WmsDu

open Txn

variable {n : Nat}

inductive PmsTable
  | items | uoms | codes | barcodes
deriving DecidableEq, Repr

/-- The table a record is about. -/
def PmsRedo.table : PmsRedo n → PmsTable
  | .itemInsert _ | .itemUpdate _ _ => .items
  | .uomInsert _ | .uomUpdate _ _ | .uomDelete _ => .uoms
  | .codeInsert _ | .codeUpdate _ _ => .codes
  | .barcodeInsert _ _ | .barcodeUpdate _ _ _ | .barcodeDelete _ | .primaryClear _ => .barcodes

/-! ## Records of other tables -/

section Tables
variable {u : PmsRedo n} {log : List (PmsRedo n)} {db : PmsDb}

theorem PmsRedo.items_apply (h : u.table ≠ .items) : (u.apply db).items = db.items := by
  cases u <;> first | rfl | exact absurd rfl h

theorem PmsRedo.uoms_apply (h : u.table ≠ .uoms) : (u.apply db).uoms = db.uoms := by
  cases u <;> first | rfl | exact absurd rfl h

theorem PmsRedo.skuCodes_apply (h : u.table ≠ .codes) : (u.apply db).skuCodes = db.skuCodes := by
  cases u <;> first | rfl | exact absurd rfl h

theorem PmsRedo.barcodes_apply (h : u.table ≠ .barcodes) :
    (u.apply db).barcodes = db.barcodes := by
  cases u <;> first | rfl | exact absurd rfl h

theorem items_redo (h : ∀ u ∈ log, u.table ≠ .items) : (redo log db).items = db.items :=
  redo_frame (f := PmsDb.items) fun u hu _ => u.items_apply (h u hu)

theorem uoms_redo (h : ∀ u ∈ log, u.table ≠ .uoms) : (redo log db).uoms = db.uoms :=
  redo_frame (f := PmsDb.uoms) fun u hu _ => u.uoms_apply (h u hu)

theorem skuCodes_redo (h : ∀ u ∈ log, u.table ≠ .codes) : (redo log db).skuCodes = db.skuCodes :=
  redo_frame (f := PmsDb.skuCodes) fun u hu _ => u.skuCodes_apply (h u hu)

theorem barcodes_redo (h : ∀ u ∈ log, u.table ≠ .barcodes) :
    (redo log db).barcodes = db.barcodes :=
  redo_frame (f := PmsDb.barcodes) fun u hu _ => u.barcodes_apply (h u hu)

end Tables

/-! ## Statements -/

/-- The program writes records of one table only. -/
def WritesTable {α : Type} (t : PmsTable) (x : PmsTx n α) : Prop :=
  x.Writes fun _ u => u.table = t

section Statements
variable {db : PmsDb}

private theorem writes_checked {K : PmsDb → PmsRedo n → Prop}
    {f : PmsDb → Except PmsErr (Unit × List (PmsRedo n))}
    (h : ∀ w a us, f w = .ok (a, us) → ∀ u ∈ us, K w u) : (Prog.write f : PmsTx n Unit).Writes K :=
  Prog.writes_write h

theorem writes_insertItem (m : ItemMaster) : WritesTable .items (insertItem m : PmsTx n Unit) := by
  refine writes_checked fun w a us hs u hu => ?_
  split at hs
  · cases hs
  · obtain ⟨-, rfl⟩ := checked_eq_ok.mp hs
    rw [List.mem_singleton.mp hu]
    rfl

theorem writes_updateItem (old new : ItemMaster) :
    WritesTable .items (updateItem old new : PmsTx n Unit) := by
  refine writes_checked fun w a us hs u hu => ?_
  split at hs
  · cases hs
  · obtain ⟨-, rfl⟩ := checked_eq_ok.mp hs
    rw [List.mem_singleton.mp hu]
    rfl

theorem writes_insertUom (v : UomRow) : WritesTable .uoms (insertUom v : PmsTx n Unit) := by
  refine writes_checked fun w a us hs u hu => ?_
  split at hs
  · cases hs
  · split at hs
    · cases hs
    · obtain ⟨-, rfl⟩ := checked_eq_ok.mp hs
      rw [List.mem_singleton.mp hu]
      rfl

theorem writes_updateUom (old new : UomRow) :
    WritesTable .uoms (updateUom old new : PmsTx n Unit) := by
  refine Prog.writes_ite (Prog.writes_pure _) (writes_checked fun w a us hs u hu => ?_)
  split at hs
  · cases hs
  · obtain ⟨-, rfl⟩ := checked_eq_ok.mp hs
    rw [List.mem_singleton.mp hu]
    rfl

theorem writes_deleteUom (id : Int) : WritesTable .uoms (deleteUom id : PmsTx n Unit) := by
  refine writes_checked fun w a us hs u hu => ?_
  obtain ⟨-, rfl⟩ := checked_eq_ok.mp hs
  rw [List.mem_singleton.mp hu]
  rfl

theorem writes_insertCode (c : SkuCodeRow) : WritesTable .codes (insertCode c : PmsTx n Unit) := by
  refine writes_checked fun w a us hs u hu => ?_
  split at hs
  · cases hs
  · split at hs
    · cases hs
    · obtain ⟨-, rfl⟩ := checked_eq_ok.mp hs
      rw [List.mem_singleton.mp hu]
      rfl

theorem writes_insertBarcode (conn : Fin n) (b : BarcodeRow) :
    WritesTable .barcodes (insertBarcode conn b) := by
  refine writes_checked fun w a us hs u hu => ?_
  split at hs
  · cases hs
  · split at hs
    · cases hs
    · obtain ⟨-, rfl⟩ := checked_eq_ok.mp hs
      rw [List.mem_singleton.mp hu]
      rfl

theorem writes_updateBarcode (conn : Fin n) (old new : BarcodeRow) :
    WritesTable .barcodes (updateBarcode conn old new) := by
  refine Prog.writes_ite (Prog.writes_pure _) (writes_checked fun w a us hs u hu => ?_)
  split at hs
  · cases hs
  · obtain ⟨-, rfl⟩ := checked_eq_ok.mp hs
    rw [List.mem_singleton.mp hu]
    rfl

theorem writes_deleteBarcode (id : Int) : WritesTable .barcodes (deleteBarcode id : PmsTx n Unit) :=
  Prog.writes_record fun _ u hu => by rw [List.mem_singleton.mp hu]; rfl

theorem writes_clearPrimaryFlagsForItem (itemId : Int) :
    WritesTable .barcodes (clearPrimaryFlagsForItem itemId : PmsTx n Unit) :=
  Prog.writes_record fun _ u hu => by rw [List.mem_singleton.mp hu]; rfl

theorem writes_clearPrimaryFlagsWhen (c : Bool) (itemId : Int) :
    WritesTable .barcodes (clearPrimaryFlagsWhen c itemId : PmsTx n Unit) :=
  Prog.writes_ite (writes_clearPrimaryFlagsForItem _) (Prog.writes_pure _)

end Statements

/-! ## Parts of the services -/

section Parts
variable {t : PmsTable}

theorem writes_silent_validateBrandId (brandId : Option Int) {K : PmsDb → PmsRedo n → Prop} :
    (validateBrandId brandId : PmsTx n Unit).Writes K :=
  Prog.writes_bind (Prog.writes_read _) fun _ => Prog.writes_require _ _

theorem writes_silent_validateCategoryId (categoryId : Option Int) {K : PmsDb → PmsRedo n → Prop} :
    (validateCategoryId categoryId : PmsTx n Unit).Writes K :=
  Prog.writes_bind (Prog.writes_read _) fun _ =>
    Prog.writes_bind (Prog.writes_require _ _) fun _ => Prog.writes_require _ _

theorem writes_createPrimaryCode (itemId : Int) (code : String) (remark : Option String)
    (newId : Int) (now : Timestamp) :
    WritesTable .codes (createPrimaryCodeInCurrentTx itemId code remark newId now : PmsTx n Unit) := by
  unfold createPrimaryCodeInCurrentTx
  refine Prog.writes_bind (Prog.writes_ofExcept _) fun code => ?_
  refine Prog.writes_bind (Prog.writes_read _) fun existing => ?_
  cases existing with
  | some c => exact Prog.writes_require _ _
  | none => exact writes_insertCode _

/-! ### Units -/

theorem writes_clearUomFlags (us : List UomRow) :
    WritesTable .uoms (clearUomFlags us : PmsTx n Unit) := by
  induction us with
  | nil => exact Prog.writes_pure _
  | cons u rest ih => exact Prog.writes_bind (writes_updateUom _ _) fun _ => ih

theorem writes_refreshItemUom (id : Int) {K : PmsDb → PmsRedo n → Prop} :
    (refreshItemUom id : PmsTx n UomRow).Writes K :=
  Prog.writes_bind (Prog.writes_read _) fun _ => Prog.writes_requireSome _ _

theorem writes_upsertUom (itemId newId : Int) (objs : List UomRow) (row : AggregateUomInput) :
    WritesTable .uoms (upsertUom itemId newId objs row : PmsTx n UomRow) := by
  unfold upsertUom
  split
  · split
    · exact Prog.writes_raise _
    · exact Prog.writes_bind (writes_updateUom _ _) fun _ => writes_refreshItemUom _
  · exact Prog.writes_bind (writes_insertUom _) fun _ => writes_refreshItemUom _

theorem writes_upsertUomRows (itemId : Int) (newUomId : Nat → Int) (i : Nat) (objs : List UomRow)
    (rows : List AggregateUomInput) :
    WritesTable .uoms (upsertUomRows itemId newUomId i objs rows : PmsTx n UomKeys) := by
  induction rows generalizing i objs with
  | nil => exact Prog.writes_pure _
  | cons row rest ih =>
      refine Prog.writes_bind (writes_upsertUom _ _ _ _) fun obj => ?_
      exact Prog.writes_bind (ih _ _) fun keys => Prog.writes_pure _

theorem writes_upsertUoms (itemId : Int) (newUomId : Nat → Int) (rows : List AggregateUomInput)
    (existing : List UomRow) :
    WritesTable .uoms (upsertUoms itemId newUomId rows existing : PmsTx n UomKeys) :=
  Prog.writes_bind (writes_clearUomFlags _) fun _ => writes_upsertUomRows _ _ _ _ _

theorem writes_checkObsoleteUoms (us : List UomRow) {K : PmsDb → PmsRedo n → Prop} :
    (checkObsoleteUoms us : PmsTx n Unit).Writes K := by
  induction us with
  | nil => exact Prog.writes_pure _
  | cons u rest ih =>
      refine Prog.writes_bind (Prog.writes_read _) fun _ => ?_
      refine Prog.writes_bind (Prog.writes_require _ _) fun _ => ?_
      refine Prog.writes_bind (Prog.writes_read _) fun _ => ?_
      refine Prog.writes_bind (Prog.writes_require _ _) fun _ => ?_
      refine Prog.writes_bind (Prog.writes_read _) fun _ => ?_
      exact Prog.writes_bind (Prog.writes_require _ _) fun _ => ih

theorem writes_deleteUoms (ids : List Int) : WritesTable .uoms (deleteUoms ids : PmsTx n Unit) := by
  induction ids with
  | nil => exact Prog.writes_pure _
  | cons id rest ih => exact Prog.writes_bind (writes_deleteUom _) fun _ => ih

/-! ### Barcodes -/

theorem writes_updateBarcodes (conn : Fin n) (objs : List HeldBarcode) :
    WritesTable .barcodes (updateBarcodes conn objs) := by
  induction objs with
  | nil => exact Prog.writes_pure _
  | cons o rest ih => exact Prog.writes_bind (writes_updateBarcode _ _ _) fun _ => ih

theorem writes_flushBarcodes (conn : Fin n) (objs : List HeldBarcode) :
    WritesTable .barcodes (flushBarcodes conn objs) :=
  Prog.writes_bind (writes_updateBarcodes _ _) fun _ => Prog.writes_pure _

theorem writes_deleteBarcodes (ids : List Int) :
    WritesTable .barcodes (deleteBarcodes ids : PmsTx n Unit) := by
  induction ids with
  | nil => exact Prog.writes_pure _
  | cons id rest ih => exact Prog.writes_bind (writes_deleteBarcode _) fun _ => ih

theorem writes_heldBarcode (objs : List HeldBarcode) (id : Int) {K : PmsDb → PmsRedo n → Prop} :
    (heldBarcode objs id : PmsTx n HeldBarcode).Writes K := by
  unfold heldBarcode
  split
  · exact Prog.writes_pure _
  · refine Prog.writes_bind (Prog.writes_read _) fun _ => ?_
    exact Prog.writes_bind (Prog.writes_requireSome _ _) fun _ => Prog.writes_pure _

theorem writes_assignBarcode (itemId target : Int) (objs : List HeldBarcode)
    (row : AggregateBarcodeInput) (id : Int) {K : PmsDb → PmsRedo n → Prop} :
    (assignBarcode itemId target objs row id : PmsTx n (List HeldBarcode)).Writes K := by
  unfold assignBarcode
  refine Prog.writes_bind (writes_heldBarcode _ _) fun obj => ?_
  refine Prog.writes_bind (Prog.writes_read _) fun _ => ?_
  refine Prog.writes_bind (Prog.writes_require _ _) fun _ => ?_
  refine Prog.writes_bind (Prog.writes_ite (Prog.writes_pure _) (Prog.writes_read _)) fun _ => ?_
  exact Prog.writes_bind (Prog.writes_require _ _) fun _ => Prog.writes_pure _

theorem writes_createBarcodeRow (conn : Fin n) (itemId target newId : Int)
    (objs : List HeldBarcode) (row : AggregateBarcodeInput) :
    WritesTable .barcodes (createBarcodeRow conn itemId target newId objs row) := by
  unfold createBarcodeRow
  refine Prog.writes_bind (Prog.writes_read _) fun _ => ?_
  refine Prog.writes_bind (Prog.writes_require _ _) fun _ => ?_
  refine Prog.writes_bind (Prog.writes_read _) fun _ => ?_
  refine Prog.writes_bind (Prog.writes_require _ _) fun _ => ?_
  refine Prog.writes_bind (writes_flushBarcodes _ _) fun _ => ?_
  refine Prog.writes_bind (writes_insertBarcode _ _) fun _ => ?_
  refine Prog.writes_bind (Prog.writes_read _) fun _ => ?_
  exact Prog.writes_bind (Prog.writes_requireSome _ _) fun _ => Prog.writes_pure _

theorem writes_syncBarcodeRows (conn : Fin n) (itemId : Int) (newBarcodeId : Nat → Int)
    (keys : UomKeys) (i : Nat) (objs : List HeldBarcode) (rows : List AggregateBarcodeInput) :
    WritesTable .barcodes (syncBarcodeRows conn itemId newBarcodeId keys i objs rows) := by
  induction rows generalizing i objs with
  | nil => exact Prog.writes_pure _
  | cons row rest ih =>
      unfold syncBarcodeRows
      refine Prog.writes_bind (Prog.writes_requireSome _ _) fun target => ?_
      cases row.id with
      | some id => exact Prog.writes_bind (writes_assignBarcode _ _ _ _ _) fun objs => ih _ _
      | none => exact Prog.writes_bind (writes_createBarcodeRow _ _ _ _ _ _) fun objs => ih _ _

theorem writes_syncBarcodes (conn : Fin n) (itemId : Int) (newBarcodeId : Nat → Int)
    (rows : List AggregateBarcodeInput) (keys : UomKeys) (existing : List BarcodeRow) :
    WritesTable .barcodes (syncBarcodes conn itemId newBarcodeId rows keys existing) := by
  unfold syncBarcodes
  refine Prog.writes_bind (writes_deleteBarcodes _) fun _ => ?_
  exact Prog.writes_bind (writes_clearPrimaryFlagsWhen _ _) fun _ =>
    writes_syncBarcodeRows _ _ _ _ _ _ _

end Parts

end WmsDu
