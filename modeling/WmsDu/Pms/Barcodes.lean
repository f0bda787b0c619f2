import WmsDu.Pms.Items

/-!
# Barcodes

The `/item-barcodes` routes. That a unit has no barcode yet is looked up before
the write; nothing in the tables keeps it so.
-/

namespace WmsDu

open Txn

variable {n : Nat}

/-! ## Lookups -/

/-- `get_item_barcode_by_id`. -/
def getItemBarcodeById (barcodeId : Int) : PmsTx n (Option BarcodeRow) :=
  Prog.read fun db => if barcodeId ≤ 0 then none else db.barcodes.lookup barcodeId

/-- `get_item_barcode_by_code`: whether another row has the text. -/
def getItemBarcodeByCode (barcode : String) (excludeId : Option Int) : PmsTx n Bool :=
  Prog.read fun db =>
    decide (strip barcode ≠ "") &&
      db.barcodes.rows.any fun b => b.barcode = strip barcode ∧ some b.id ≠ excludeId

/-- `has_barcode_bound_to_item_uom`. -/
def hasBarcodeBoundToItemUom (itemId itemUomId : Int) (excludeId : Option Int) : PmsTx n Bool :=
  Prog.read fun db => db.barcodes.rows.any fun b =>
    b.itemId = itemId ∧ b.itemUomId = itemUomId ∧ some b.id ≠ excludeId

/-- `_ensure_item_uom_barcode_vacant`. -/
def ensureItemUomBarcodeVacant (itemId itemUomId : Int) (excludeId : Option Int) :
    PmsTx n Unit := do
  let bound ← hasBarcodeBoundToItemUom itemId itemUomId excludeId
  Prog.require (bound = false) (.http 409 "Current item_uom already bound to a barcode")

/-- `_normalize_symbology`. -/
def normalizeSymbology (v : String) : String := (orNone (upper (strip v))).getD "CUSTOM"

/-- `db.get(ItemBarcode, id)`, or the route answers 404. -/
def getItemBarcodeOr404 (id : Int) : PmsTx n BarcodeRow := do
  let bc ← getItemBarcodeById id
  Prog.requireSome bc (.http 404 "Barcode not found")

/-! ## Routes -/

/-- `ItemBarcodeCreate`. -/
structure ItemBarcodeCreate where
  itemUomId : Int
  barcode : String
  symbology : String := "CUSTOM"
  active : Bool := true

/-- `create_barcode`, under the id the sequence draws. -/
def createBarcode (conn : Fin n) (body : ItemBarcodeCreate) (newId : Int) : PmsTx n Unit := do
  let uom ← getItemUomOr404 body.itemUomId
  let code := strip body.barcode
  Prog.require (code ≠ "") (.http 400 "barcode is required")
  let taken ← getItemBarcodeByCode code none
  Prog.require (taken = false) (.http 409 "Barcode already exists")
  ensureItemUomBarcodeVacant uom.itemId uom.id none
  insertBarcode conn
    { id := newId, itemId := uom.itemId, itemUomId := uom.id, barcode := code
      symbology := normalizeSymbology body.symbology, active := body.active, isPrimary := false }

/-- `clear_primary_flags_for_item`, or nothing. -/
def clearPrimaryFlagsWhen (c : Bool) (itemId : Int) : PmsTx n Unit :=
  if c then clearPrimaryFlagsForItem itemId else return ()

/-- The copy of a barcode after it. -/
def BarcodeRow.clearedWhen (c : Bool) (b : BarcodeRow) : BarcodeRow := if c then b.cleared else b

/-- `set_primary`; clearing the flags clears that of the loaded copy. -/
def setPrimary (conn : Fin n) (id : Int) : PmsTx n Unit := do
  let bc ← getItemBarcodeOr404 id
  clearPrimaryFlagsForItem bc.itemId
  updateBarcode conn bc.cleared { bc with active := true, isPrimary := true }

/-- `ItemBarcodeUpdate`. -/
structure ItemBarcodeUpdate where
  itemUomId : Option Int := none
  barcode : Option String := none
  symbology : Option String := none
  active : Option Bool := none
  isPrimary : Option Bool := none

/-- The unit a patch binds the barcode to. -/
def ItemBarcodeUpdate.nextUom (body : ItemBarcodeUpdate) (bc : BarcodeRow) :
    PmsTx n (Option Int) :=
  match body.itemUomId with
  | none => return none
  | some itemUomId => do
      let target ← getItemUomOr404 itemUomId
      Prog.require (target.itemId = bc.itemId) (.http 400 "item_uom_id does not belong to current item")
      ensureItemUomBarcodeVacant bc.itemId target.id (some bc.id)
      return some target.id

/-- The text a patch gives the barcode. -/
def ItemBarcodeUpdate.nextBarcode (body : ItemBarcodeUpdate) (bc : BarcodeRow) :
    PmsTx n (Option String) :=
  match body.barcode with
  | none => return none
  | some barcode => do
      let code := strip barcode
      Prog.require (code ≠ "") (.http 400 "barcode is required")
      let taken ← getItemBarcodeByCode code (some bc.id)
      Prog.require (taken = false) (.http 409 "Barcode already exists")
      return some code

/-- A patch that says whether the barcode is active must not make it, or leave
it, a primary one. -/
def ItemBarcodeUpdate.ActiveOk (body : ItemBarcodeUpdate) (bc : BarcodeRow) : Prop :=
  ∀ active ∈ body.active,
    body.isPrimary ≠ some true ∧ ¬ (body.isPrimary = none ∧ bc.isPrimary ∧ active = false)

instance ItemBarcodeUpdate.decidableActiveOk (body : ItemBarcodeUpdate) (bc : BarcodeRow) :
    Decidable (body.ActiveOk bc) := inferInstanceAs (Decidable (∀ active ∈ body.active, _))

/-- `update_barcode`. -/
def updateBarcodeRoute (conn : Fin n) (id : Int) (body : ItemBarcodeUpdate) : PmsTx n Unit := do
  let bc ← getItemBarcodeOr404 id
  let nextUom ← body.nextUom bc
  let nextBarcode ← body.nextBarcode bc
  Prog.require (body.ActiveOk bc) (.http 400 "primary barcode must be active")
  let primary := body.isPrimary = some true
  clearPrimaryFlagsWhen primary bc.itemId
  let old := bc.clearedWhen primary
  let nextActive := if primary then some true else body.active
  updateBarcode conn old
    { old with
      itemUomId := nextUom.getD old.itemUomId
      barcode := nextBarcode.getD old.barcode
      symbology := (body.symbology.map normalizeSymbology).getD old.symbology
      active := nextActive.getD old.active
      isPrimary := body.isPrimary.getD old.isPrimary }

/-- `delete_barcode`. -/
def deleteBarcodeRoute (id : Int) : PmsTx n Unit := do
  let bc ← getItemBarcodeOr404 id
  deleteBarcode bc.id

end WmsDu
