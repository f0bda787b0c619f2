import WmsDu.Pricing.Schema
import WmsDu.Txn.Rows

/-!
# The item tables

Items, their units, SKU codes and barcodes, with the records the services of
this domain write. A session updates the columns whose value differs from the
copy it loaded, so the record of an update carries both copies. A barcode
takes a shared lock on its unit: the lock is split into one part for each
connection, a writer takes the part of its own and a delete takes all of them.
-/

namespace WmsDu

open Txn

/-! ## Rows -/

deriving instance DecidableEq for Item, ItemUom, ItemBarcode

/-- `items`. -/
structure ItemMaster extends Item where
  enabled : Bool := true
  brandId : Option Int := none
  categoryId : Option Int := none
deriving DecidableEq

/-- `item_uoms`. -/
structure UomRow extends ItemUom where
  netWeightKg : Option ℚ := none
  isPurchaseDefault : Bool
  isOutboundDefault : Bool
deriving DecidableEq

/-- `item_barcodes`. -/
structure BarcodeRow extends ItemBarcode where
  symbology : String
deriving DecidableEq

inductive SkuCodeType
  | primary | aliasCode | legacy | manual
deriving DecidableEq, Repr

/-- `item_sku_codes`. -/
structure SkuCodeRow where
  id : Int
  itemId : Int
  code : String
  codeType : SkuCodeType
  isPrimary : Bool
  isActive : Bool
  effectiveFrom : Option Timestamp
  effectiveTo : Option Timestamp
  remark : Option String
deriving DecidableEq, Repr

/-- `pms_brands`. -/
structure PmsBrand where
  id : Int
  isActive : Bool

/-- `pms_business_categories`. -/
structure PmsBusinessCategory where
  id : Int
  isActive : Bool
  isLeaf : Bool

/-- The item tables; of the other tables the units their rows refer to.
`uomIds` and `barcodeIds` are the ids the sequences of `item_uoms` and
`item_barcodes` have given out. -/
structure PmsDb where
  items : Table (fun m : ItemMaster => m.id) := .empty
  uoms : Table (fun u : UomRow => u.id) := .empty
  uomIds : List Int := []
  skuCodes : Table SkuCodeRow.id := .empty
  barcodes : Table (fun b : BarcodeRow => b.id) := .empty
  barcodeIds : List Int := []
  brands : Table PmsBrand.id := .empty
  categories : Table PmsBusinessCategory.id := .empty
  suppliers : Table (id : Int → Int) := .empty
  poLineUomIds : List Int := []
  receiptLineUomIds : List Int := []
  otherUomIds : List Int := []

/-! ## The flags of a unit -/

inductive UomFlag
  | base | purchase | inbound | outbound
deriving DecidableEq, Repr

def UomFlag.all : List UomFlag := [.base, .purchase, .inbound, .outbound]

theorem UomFlag.mem_all (f : UomFlag) : f ∈ UomFlag.all := by cases f <;> decide

/-- The partial unique index of a flag. -/
def UomFlag.index : UomFlag → String
  | .base => "uq_item_uoms_one_base_per_item"
  | .purchase => "uq_item_uoms_one_purchase_default_per_item"
  | .inbound => "uq_item_uoms_one_inbound_default_per_item"
  | .outbound => "uq_item_uoms_one_outbound_default_per_item"

def UomRow.flag (u : UomRow) : UomFlag → Bool
  | .base => u.isBase
  | .purchase => u.isPurchaseDefault
  | .inbound => u.isInboundDefault
  | .outbound => u.isOutboundDefault

/-! ## Updates -/

/-- A column after an update: it is written if its value differs from the
loaded one. -/
def column {α : Type} [DecidableEq α] (old new stored : α) : α := if new = old then stored else new

section Column
variable {α : Type} [DecidableEq α]

@[simp] theorem column_same (old stored : α) : column old old stored = stored := if_pos rfl

@[simp] theorem column_loaded (old new : α) : column old new old = new := by
  unfold column
  split
  · exact Eq.symm ‹_›
  · rfl

theorem column_ne {old new stored : α} (h : new ≠ old) : column old new stored = new := if_neg h

end Column

/-- `net_weight_kg` is a `NUMERIC(10, 3)`. -/
def netWeightColumn (w : Option ℚ) : Option ℚ := w.map (numericColumn 3)

def ItemPolicy.write (old new p : ItemPolicy) : ItemPolicy where
  expiryPolicy := column old.expiryPolicy new.expiryPolicy p.expiryPolicy
  shelfLifeValue := column old.shelfLifeValue new.shelfLifeValue p.shelfLifeValue
  shelfLifeUnit := column old.shelfLifeUnit new.shelfLifeUnit p.shelfLifeUnit
  lotSourcePolicy := column old.lotSourcePolicy new.lotSourcePolicy p.lotSourcePolicy
  derivationAllowed := column old.derivationAllowed new.derivationAllowed p.derivationAllowed
  uomGovernanceEnabled :=
    column old.uomGovernanceEnabled new.uomGovernanceEnabled p.uomGovernanceEnabled

def ItemMaster.write (old new m : ItemMaster) : ItemMaster :=
  { m with
    sku := column old.sku new.sku m.sku
    name := column old.name new.name m.name
    spec := column old.spec new.spec m.spec
    policy := old.policy.write new.policy m.policy
    supplierId := column old.supplierId new.supplierId m.supplierId
    enabled := column old.enabled new.enabled m.enabled
    brandId := column old.brandId new.brandId m.brandId
    categoryId := column old.categoryId new.categoryId m.categoryId }

def UomRow.write (old new u : UomRow) : UomRow :=
  { u with
    uom := column old.uom new.uom u.uom
    displayName := column old.displayName new.displayName u.displayName
    ratioToBase := column old.ratioToBase new.ratioToBase u.ratioToBase
    netWeightKg := column old.netWeightKg (netWeightColumn new.netWeightKg) u.netWeightKg
    isBase := column old.isBase new.isBase u.isBase
    isPurchaseDefault := column old.isPurchaseDefault new.isPurchaseDefault u.isPurchaseDefault
    isInboundDefault := column old.isInboundDefault new.isInboundDefault u.isInboundDefault
    isOutboundDefault := column old.isOutboundDefault new.isOutboundDefault u.isOutboundDefault }

def SkuCodeRow.write (old new c : SkuCodeRow) : SkuCodeRow :=
  { c with
    codeType := column old.codeType new.codeType c.codeType
    isPrimary := column old.isPrimary new.isPrimary c.isPrimary
    isActive := column old.isActive new.isActive c.isActive
    effectiveFrom := column old.effectiveFrom new.effectiveFrom c.effectiveFrom
    effectiveTo := column old.effectiveTo new.effectiveTo c.effectiveTo
    remark := column old.remark new.remark c.remark }

def BarcodeRow.write (old new b : BarcodeRow) : BarcodeRow :=
  { b with
    itemUomId := column old.itemUomId new.itemUomId b.itemUomId
    barcode := column old.barcode new.barcode b.barcode
    active := column old.active new.active b.active
    isPrimary := column old.isPrimary new.isPrimary b.isPrimary
    symbology := column old.symbology new.symbology b.symbology }

/-- A barcode that is not the primary one. -/
def BarcodeRow.cleared (b : BarcodeRow) : BarcodeRow := { b with isPrimary := false }

@[simp] theorem ItemMaster.write_id (old new m : ItemMaster) : (old.write new m).id = m.id := rfl

@[simp] theorem UomRow.write_id (old new u : UomRow) : (old.write new u).id = u.id := rfl

@[simp] theorem UomRow.write_itemId (old new u : UomRow) : (old.write new u).itemId = u.itemId := rfl

@[simp] theorem SkuCodeRow.write_id (old new c : SkuCodeRow) : (old.write new c).id = c.id := rfl

@[simp] theorem BarcodeRow.write_id (old new b : BarcodeRow) : (old.write new b).id = b.id := rfl

@[simp] theorem BarcodeRow.write_itemId (old new b : BarcodeRow) :
    (old.write new b).itemId = b.itemId := rfl

/-! ## Errors -/

inductive PmsErr
  | valueError (message : String)
  | http (status : Nat) (detail : String)
  | integrity (constraint : String)
  /-- The `ValueError` an `IntegrityError` is reported as: "DB integrity error: …". -/
  | dbIntegrity (constraint : String)
  /-- SQLAlchemy's `StaleDataError`: an update found no row. -/
  | staleData
  /-- SQLAlchemy's `InvalidRequestError`: a refresh found no row. -/
  | invalidRequest
deriving DecidableEq, Repr

/-! ## Records -/

inductive PmsRedo (n : Nat)
  | itemInsert (m : ItemMaster)
  | itemUpdate (old new : ItemMaster)
  | uomInsert (u : UomRow)
  | uomUpdate (old new : UomRow)
  | uomDelete (id : Int)
  | codeInsert (c : SkuCodeRow)
  | codeUpdate (old new : SkuCodeRow)
  | barcodeInsert (conn : Fin n) (b : BarcodeRow)
  | barcodeUpdate (conn : Fin n) (old new : BarcodeRow)
  | barcodeDelete (id : Int)
  | primaryClear (ids : List Int)

inductive PmsLock (n : Nat)
  | item (id : Int)
  | sku (sku : String)
  | uom (id : Int)
  | uomName (itemId : Int) (uom : String)
  | uomFlag (itemId : Int) (flag : UomFlag)
  | uomShare (id : Int) (conn : Fin n)
  | code (id : Int)
  | codeText (code : String)
  | primaryCode (itemId : Int)
  | barcode (id : Int)
  | barcodeText (barcode : String)
  | primaryBarcode (itemId : Int)
deriving DecidableEq

namespace PmsRedo
variable {n : Nat}

def apply (u : PmsRedo n) (db : PmsDb) : PmsDb :=
  match u with
  | .itemInsert m => { db with items := db.items.insert m }
  | .itemUpdate old new =>
      { db with items := db.items.update (fun m => m.id = old.id) (old.write new) fun _ => rfl }
  | .uomInsert u => { db with uoms := db.uoms.insert u, uomIds := u.id :: db.uomIds }
  | .uomUpdate old new =>
      { db with uoms := db.uoms.update (fun u => u.id = old.id) (old.write new) fun _ => rfl }
  | .uomDelete id => { db with uoms := db.uoms.delete fun u => u.id = id }
  | .codeInsert c => { db with skuCodes := db.skuCodes.insert c }
  | .codeUpdate old new =>
      { db with
        skuCodes := db.skuCodes.update (fun c => c.id = old.id) (old.write new) fun _ => rfl }
  | .barcodeInsert _ b =>
      { db with barcodes := db.barcodes.insert b, barcodeIds := b.id :: db.barcodeIds }
  | .barcodeUpdate _ old new =>
      { db with
        barcodes := db.barcodes.update (fun b => b.id = old.id) (old.write new) fun _ => rfl }
  | .barcodeDelete id => { db with barcodes := db.barcodes.delete fun b => b.id = id }
  | .primaryClear ids =>
      { db with
        barcodes := db.barcodes.update (fun b => b.id ∈ ids) BarcodeRow.cleared fun _ => rfl }

/-- The locks of a record: the rows it writes and the keys it adds to an
index. -/
def guards : PmsRedo n → List (PmsLock n)
  | .itemInsert m => [.item m.id, .sku m.sku]
  | .itemUpdate old new => .item old.id :: if new.sku = old.sku then [] else [.sku new.sku]
  | .uomInsert u =>
      [.uom u.id, .uomName u.itemId u.uom] ++
        (UomFlag.all.filter u.flag).map (PmsLock.uomFlag u.itemId)
  | .uomUpdate old new =>
      .uom old.id :: (if new.uom = old.uom then [] else [.uomName old.itemId new.uom]) ++
        (UomFlag.all.filter fun f => new.flag f && !old.flag f).map (PmsLock.uomFlag old.itemId)
  | .uomDelete id => .uom id :: (List.finRange n).map (PmsLock.uomShare id)
  | .codeInsert c =>
      [.code c.id, .codeText c.code] ++ if c.isPrimary then [.primaryCode c.itemId] else []
  | .codeUpdate old new =>
      .code old.id :: if new.isPrimary && !old.isPrimary then [.primaryCode old.itemId] else []
  | .barcodeInsert conn b =>
      [.barcode b.id, .barcodeText b.barcode, .uomShare b.itemUomId conn] ++
        if b.isPrimary then [.primaryBarcode b.itemId] else []
  | .barcodeUpdate conn old new =>
      .barcode old.id :: (if new.barcode = old.barcode then [] else [.barcodeText new.barcode]) ++
        (if new.itemUomId = old.itemUomId then [] else [.uomShare new.itemUomId conn]) ++
        if new.isPrimary && !old.isPrimary then [.primaryBarcode old.itemId] else []
  | .barcodeDelete id => [.barcode id]
  | .primaryClear ids => ids.map .barcode

end PmsRedo

instance {n : Nat} : RedoLog (PmsRedo n) PmsDb (PmsLock n) where
  apply := PmsRedo.apply
  guards := PmsRedo.guards

/-- A service of the item tables; a server of `n` connections runs it. -/
abbrev PmsTx (n : Nat) := Prog (Stmt PmsDb (PmsRedo n) PmsErr) PmsErr

/-! ## Constraints -/

/-- The constraint a row of `items` violates beside the other rows. -/
def itemConflict (db : PmsDb) (m : ItemMaster) : Option String :=
  if ∃ s ∈ db.items.rows, s.id ≠ m.id ∧ s.sku = m.sku then some "items_sku_key"
  else if ∃ b ∈ m.brandId, ¬ db.brands.HasKey b then some "fk_items_brand"
  else if ∃ c ∈ m.categoryId, ¬ db.categories.HasKey c then some "fk_items_category"
  else if ∃ s ∈ m.supplierId, ¬ db.suppliers.HasKey s then some "fk_items_supplier"
  else none

/-- The constraint a row of `item_uoms` violates beside the other rows. -/
def uomConflict (db : PmsDb) (u : UomRow) : Option String :=
  if u.ratioToBase < 1 then some "ck_item_uoms_ratio_ge_1"
  else if ∃ v ∈ db.uoms.rows, v.id ≠ u.id ∧ v.itemId = u.itemId ∧ v.uom = u.uom then
    some "uq_item_uoms_item_uom"
  else
    (UomFlag.all.find? fun f =>
      u.flag f ∧ ∃ v ∈ db.uoms.rows, v.id ≠ u.id ∧ v.itemId = u.itemId ∧ v.flag f).map UomFlag.index

/-- The constraint a row of `item_sku_codes` violates beside the other rows. -/
def codeConflict (db : PmsDb) (c : SkuCodeRow) : Option String :=
  if strip c.code = "" then some "ck_item_sku_codes_code_non_empty"
  else if c.isPrimary ∧ ¬ c.isActive then some "ck_item_sku_codes_primary_active"
  else if c.isPrimary ∧ c.effectiveTo.isSome then some "ck_item_sku_codes_primary_no_effective_to"
  else if ¬ (c.codeType = .primary ↔ c.isPrimary) then
    some "ck_item_sku_codes_primary_type_matches_flag"
  else if ∃ d ∈ db.skuCodes.rows, d.id ≠ c.id ∧ d.code = c.code then some "uq_item_sku_codes_code"
  else if c.isPrimary ∧ ∃ d ∈ db.skuCodes.rows, d.id ≠ c.id ∧ d.itemId = c.itemId ∧ d.isPrimary then
    some "uq_item_sku_codes_one_primary_per_item"
  else none

/-- The constraint a row of `item_barcodes` violates beside the other rows. -/
def barcodeConflict (db : PmsDb) (b : BarcodeRow) : Option String :=
  if b.isPrimary ∧ ¬ b.active then some "ck_item_barcodes_primary_must_be_active"
  else if ∃ c ∈ db.barcodes.rows, c.id ≠ b.id ∧ c.barcode = b.barcode then
    some "uq_item_barcodes_barcode"
  else if b.isPrimary ∧ ∃ c ∈ db.barcodes.rows, c.id ≠ b.id ∧ c.itemId = b.itemId ∧ c.isPrimary then
    some "uq_item_barcodes_primary"
  else if ¬ ∃ u ∈ db.uoms.rows, u.id = b.itemUomId ∧ u.itemId = b.itemId then
    some "fk_item_barcodes_item_uom_pair"
  else none

/-- The constraint that keeps a unit from being deleted. -/
def uomReferenced (db : PmsDb) (id : Int) : Option String :=
  if ∃ b ∈ db.barcodes.rows, b.itemUomId = id then some "fk_item_barcodes_item_uom_pair"
  else if id ∈ db.poLineUomIds then some "fk_po_line_purchase_uom"
  else if id ∈ db.receiptLineUomIds then some "fk_inbound_receipt_lines_item_uom"
  else if id ∈ db.otherUomIds then some "fk_inbound_event_lines_actual_uom"
  else none

/-- The records of a statement, unless a constraint is violated. -/
def checked {U : Type} (conflict : Option String) (us : List U) : Except PmsErr (Unit × List U) :=
  match conflict with
  | some c => .error (.integrity c)
  | none => .ok ((), us)

theorem checked_eq_ok {U : Type} {conflict : Option String} {us vs : List U} {a : Unit} :
    checked conflict us = .ok (a, vs) ↔ conflict = none ∧ vs = us := by
  cases conflict with
  | some c => exact iff_of_false nofun nofun
  | none => simp [checked, eq_comm]

/-! ## Statements -/

section Statements
variable {n : Nat}

/-- `db.get(Item, item_id)`; the copies of its units and codes are read by
statements of their own. -/
def getItem (itemId : Int) : PmsTx n (Option ItemMaster) := Prog.read fun db => db.items.lookup itemId

def insertItem (m : ItemMaster) : PmsTx n Unit :=
  Prog.write fun db =>
    if m.id ≤ 0 ∨ db.items.HasKey m.id then .error (.integrity "items_pkey")
    else checked (itemConflict db m) [.itemInsert m]

/-- The update of an item the session has loaded. -/
def updateItem (old new : ItemMaster) : PmsTx n Unit :=
  Prog.write fun db =>
    match db.items.lookup old.id with
    | none => .error .staleData
    | some m => checked (itemConflict db (old.write new m)) [.itemUpdate old new]

/-- `INSERT INTO item_uoms`. -/
def insertUom (u : UomRow) : PmsTx n Unit :=
  Prog.write fun db =>
    if u.id ≤ 0 ∨ db.uoms.HasKey u.id ∨ u.id ∈ db.uomIds then .error (.integrity "item_uoms_pkey")
    else if ¬ db.items.HasKey u.itemId then .error (.integrity "fk_item_uoms_item")
    else checked (uomConflict db u) [.uomInsert { u with netWeightKg := netWeightColumn u.netWeightKg }]

/-- The update of a unit the session has loaded; none if nothing changed. -/
def updateUom (old new : UomRow) : PmsTx n Unit :=
  if new = old then pure ()
  else Prog.write fun db =>
    match db.uoms.lookup old.id with
    | none => .error .staleData
    | some u => checked (uomConflict db (old.write new u)) [.uomUpdate old new]

/-- The delete of a unit the session has loaded. -/
def deleteUom (id : Int) : PmsTx n Unit :=
  Prog.write fun db => checked (uomReferenced db id) [.uomDelete id]

def insertCode (c : SkuCodeRow) : PmsTx n Unit :=
  Prog.write fun db =>
    if c.id ≤ 0 ∨ db.skuCodes.HasKey c.id then .error (.integrity "item_sku_codes_pkey")
    else if ¬ db.items.HasKey c.itemId then .error (.integrity "fk_item_sku_codes_item")
    else checked (codeConflict db c) [.codeInsert c]

/-- The update of a code the session has loaded; the services write
`updated_at` with it, so there always is one. -/
def updateCode (old new : SkuCodeRow) : PmsTx n Unit :=
  Prog.write fun db =>
    match db.skuCodes.lookup old.id with
    | none => .error .staleData
    | some c => checked (codeConflict db (old.write new c)) [.codeUpdate old new]

def insertBarcode (conn : Fin n) (b : BarcodeRow) : PmsTx n Unit :=
  Prog.write fun db =>
    if b.id ≤ 0 ∨ db.barcodes.HasKey b.id ∨ b.id ∈ db.barcodeIds then
      .error (.integrity "item_barcodes_pkey")
    else if ¬ db.items.HasKey b.itemId then .error (.integrity "item_barcodes_item_id_fkey")
    else checked (barcodeConflict db b) [.barcodeInsert conn b]

/-- The update of a barcode the session has loaded; none if nothing changed. -/
def updateBarcode (conn : Fin n) (old new : BarcodeRow) : PmsTx n Unit :=
  if new = old then pure ()
  else Prog.write fun db =>
    match db.barcodes.lookup old.id with
    | none => .error .staleData
    | some b => checked (barcodeConflict db (old.write new b)) [.barcodeUpdate conn old new]

/-- The delete of a barcode the session has loaded. -/
def deleteBarcode (id : Int) : PmsTx n Unit := Prog.record fun _ => [.barcodeDelete id]

/-- `clear_primary_flags_for_item`. -/
def clearPrimaryFlagsForItem (itemId : Int) : PmsTx n Unit :=
  Prog.record fun db =>
    [.primaryClear ((db.barcodes.rows.filter fun b => b.itemId = itemId).map fun b => b.id)]

end Statements

/-- The session's copy of a row: the one it holds, or else the row. -/
def asLoaded {R K : Type} [DecidableEq K] (key : R → K) (loaded : List R) (r : R) : R :=
  (loaded.find? fun o => key o = key r).getD r

end WmsDu
