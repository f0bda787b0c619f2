import WmsDu.Pms.Schema

/-!
# The rows of the item tables

What each record makes of the row of an id, and which rows outlive a log.
-/

namespace WmsDu

open Txn

variable {n : Nat}

namespace PmsRedo

/-! ## Items -/

def actItem (u : PmsRedo n) (k : Int) (o : Option ItemMaster) : Option ItemMaster :=
  match u with
  | .itemInsert m => o.or (if k = m.id then some m else none)
  | .itemUpdate old new => if k = old.id then o.map (old.write new) else o
  | _ => o

theorem lookup_items (u : PmsRedo n) (db : PmsDb) (k : Int) :
    (u.apply db).items.lookup k = u.actItem k (db.items.lookup k) := by
  cases u with
  | itemInsert m => exact Table.lookup_insert
  | itemUpdate old new =>
      exact Table.lookup_update_key (t := db.items) (q := fun i => i = old.id)
        (f := old.write new) fun _ => rfl
  | _ => rfl

theorem actItem_unlocked (u : PmsRedo n) (k : Int) (o : Option ItemMaster)
    (h : PmsLock.item k ∉ u.guards) : u.actItem k o = o := by
  cases u with
  | itemInsert m =>
      have hne : k ≠ m.id := by
        rintro rfl
        exact h List.mem_cons_self
      show o.or (if k = m.id then some m else none) = o
      rw [if_neg hne, Option.or_none]
  | itemUpdate old new =>
      refine if_neg ?_
      rintro rfl
      exact h List.mem_cons_self
  | _ => rfl

/-! ## Units -/

def actUom (u : PmsRedo n) (k : Int) (o : Option UomRow) : Option UomRow :=
  match u with
  | .uomInsert v => o.or (if k = v.id then some v else none)
  | .uomUpdate old new => if k = old.id then o.map (old.write new) else o
  | .uomDelete id => if k = id then none else o
  | _ => o

theorem lookup_uoms (u : PmsRedo n) (db : PmsDb) (k : Int) :
    (u.apply db).uoms.lookup k = u.actUom k (db.uoms.lookup k) := by
  cases u with
  | uomInsert v => exact Table.lookup_insert
  | uomUpdate old new =>
      exact Table.lookup_update_key (t := db.uoms) (q := fun i => i = old.id)
        (f := old.write new) fun _ => rfl
  | uomDelete id => exact Table.lookup_delete_key (t := db.uoms) (q := fun i => i = id)
  | _ => rfl

theorem actUom_unlocked (u : PmsRedo n) (k : Int) (o : Option UomRow)
    (h : PmsLock.uom k ∉ u.guards) : u.actUom k o = o := by
  cases u with
  | uomInsert v =>
      have hne : k ≠ v.id := by
        rintro rfl
        exact h List.mem_cons_self
      show o.or (if k = v.id then some v else none) = o
      rw [if_neg hne, Option.or_none]
  | uomUpdate old new =>
      refine if_neg ?_
      rintro rfl
      exact h List.mem_cons_self
  | uomDelete id =>
      refine if_neg ?_
      rintro rfl
      exact h List.mem_cons_self
  | _ => rfl

/-! ## SKU codes -/

def actCode (u : PmsRedo n) (k : Int) (o : Option SkuCodeRow) : Option SkuCodeRow :=
  match u with
  | .codeInsert c => o.or (if k = c.id then some c else none)
  | .codeUpdate old new => if k = old.id then o.map (old.write new) else o
  | _ => o

theorem lookup_codes (u : PmsRedo n) (db : PmsDb) (k : Int) :
    (u.apply db).skuCodes.lookup k = u.actCode k (db.skuCodes.lookup k) := by
  cases u with
  | codeInsert c => exact Table.lookup_insert
  | codeUpdate old new =>
      exact Table.lookup_update_key (t := db.skuCodes) (q := fun i => i = old.id)
        (f := old.write new) fun _ => rfl
  | _ => rfl

theorem actCode_unlocked (u : PmsRedo n) (k : Int) (o : Option SkuCodeRow)
    (h : PmsLock.code k ∉ u.guards) : u.actCode k o = o := by
  cases u with
  | codeInsert c =>
      have hne : k ≠ c.id := by
        rintro rfl
        exact h List.mem_cons_self
      show o.or (if k = c.id then some c else none) = o
      rw [if_neg hne, Option.or_none]
  | codeUpdate old new =>
      refine if_neg ?_
      rintro rfl
      exact h List.mem_cons_self
  | _ => rfl

/-! ## Barcodes -/

def actBarcode (u : PmsRedo n) (k : Int) (o : Option BarcodeRow) : Option BarcodeRow :=
  match u with
  | .barcodeInsert _ b => o.or (if k = b.id then some b else none)
  | .barcodeUpdate _ old new => if k = old.id then o.map (old.write new) else o
  | .barcodeDelete id => if k = id then none else o
  | .primaryClear ids => if k ∈ ids then o.map BarcodeRow.cleared else o
  | _ => o

theorem lookup_barcodes (u : PmsRedo n) (db : PmsDb) (k : Int) :
    (u.apply db).barcodes.lookup k = u.actBarcode k (db.barcodes.lookup k) := by
  cases u with
  | barcodeInsert conn b => exact Table.lookup_insert
  | barcodeUpdate conn old new =>
      exact Table.lookup_update_key (t := db.barcodes) (q := fun i => i = old.id)
        (f := old.write new) fun _ => rfl
  | barcodeDelete id => exact Table.lookup_delete_key (t := db.barcodes) (q := fun i => i = id)
  | primaryClear ids =>
      exact Table.lookup_update_key (t := db.barcodes) (q := fun i => i ∈ ids)
        (f := BarcodeRow.cleared) fun _ => rfl
  | _ => rfl

theorem actBarcode_unlocked (u : PmsRedo n) (k : Int) (o : Option BarcodeRow)
    (h : PmsLock.barcode k ∉ u.guards) : u.actBarcode k o = o := by
  cases u with
  | barcodeInsert conn b =>
      have hne : k ≠ b.id := by
        rintro rfl
        exact h List.mem_cons_self
      show o.or (if k = b.id then some b else none) = o
      rw [if_neg hne, Option.or_none]
  | barcodeUpdate conn old new =>
      refine if_neg ?_
      rintro rfl
      exact h List.mem_cons_self
  | barcodeDelete id =>
      refine if_neg ?_
      rintro rfl
      exact h List.mem_cons_self
  | primaryClear ids => exact if_neg fun hk => h (List.mem_map_of_mem hk)
  | _ => rfl

end PmsRedo

/-! ## Families -/

def itemRows (n : Nat) : Rowwise (PmsRedo n) Int ItemMaster where
  row db k := db.items.lookup k
  lock := .item
  act := PmsRedo.actItem
  row_apply := PmsRedo.lookup_items
  act_unlocked := PmsRedo.actItem_unlocked

def uomRows (n : Nat) : Rowwise (PmsRedo n) Int UomRow where
  row db k := db.uoms.lookup k
  lock := .uom
  act := PmsRedo.actUom
  row_apply := PmsRedo.lookup_uoms
  act_unlocked := PmsRedo.actUom_unlocked

def codeRows (n : Nat) : Rowwise (PmsRedo n) Int SkuCodeRow where
  row db k := db.skuCodes.lookup k
  lock := .code
  act := PmsRedo.actCode
  row_apply := PmsRedo.lookup_codes
  act_unlocked := PmsRedo.actCode_unlocked

def barcodeRows (n : Nat) : Rowwise (PmsRedo n) Int BarcodeRow where
  row db k := db.barcodes.lookup k
  lock := .barcode
  act := PmsRedo.actBarcode
  row_apply := PmsRedo.lookup_barcodes
  act_unlocked := PmsRedo.actBarcode_unlocked

end WmsDu
