import WmsDu.Data.Table
import WmsDu.Txn.Pool
import WmsDu.Txn.Stmt

/-!
# Warehouses of a store

A store is bound to warehouses, one of which may be its main one and one its
default. No index stands behind either: a request that sets a flag clears it
elsewhere first, or does not.
-/

namespace WmsDu.Stores

open Txn

/-! ## Tables -/

/-- The unique key of `store_warehouse`: a store and a warehouse. -/
abbrev BindingKey := Int × Int

/-- `store_warehouse`. -/
structure StoreWarehouse where
  storeId : Int
  warehouseId : Int
  isTop : Bool
  isDefault : Bool
  priority : Int
deriving DecidableEq

def StoreWarehouse.key (b : StoreWarehouse) : BindingKey := (b.storeId, b.warehouseId)

structure BindingsDb where
  stores : List Int
  /-- `warehouses`, each with its `active`. -/
  warehouses : List (Int × Bool)
  bindings : Table StoreWarehouse.key := .empty

/-- `BindWarehouseIn`. -/
structure BindWarehouseIn where
  warehouseId : Int
  isDefault : Bool := false
  priority : Int := 100
  isTop : Option Bool := none

/-- `BindingUpdateIn`. -/
structure BindingUpdateIn where
  isDefault : Option Bool := none
  priority : Option Int := none
  isTop : Option Bool := none
deriving DecidableEq

/-- The columns an update sets. -/
def BindingUpdateIn.set (c : BindingUpdateIn) (b : StoreWarehouse) : StoreWarehouse :=
  { b with
    isDefault := c.isDefault.getD b.isDefault
    priority := c.priority.getD b.priority
    isTop := c.isTop.getD b.isTop }

/-- What `bind_warehouse` makes of the store's rows before it writes its own. -/
def BindWarehouseIn.clear (payload : BindWarehouseIn) (b : StoreWarehouse) : StoreWarehouse :=
  { b with isTop := false, isDefault := if payload.isDefault then false else b.isDefault }

/-! ## Records -/

/-- A write to one row; the clearing of a row tells for which request it is. -/
inductive BindingRedo
  | clear (key : BindingKey) (payload : BindWarehouseIn)
  | set (key : BindingKey) (c : BindingUpdateIn)
  | upsert (b : StoreWarehouse)
  | delete (key : BindingKey)

def BindingRedo.key : BindingRedo → BindingKey
  | .clear k _ | .set k _ | .delete k => k
  | .upsert b => b.key

/-- What a record makes of the row of its key. -/
def BindingRedo.onRow : BindingRedo → Option StoreWarehouse → Option StoreWarehouse
  | .clear _ payload, o => o.map payload.clear
  | .set _ c, o => o.map c.set
  | .upsert b, _ => some b
  | .delete _, _ => none

def BindingRedo.apply : BindingRedo → BindingsDb → BindingsDb
  | .clear k payload, db =>
      { db with bindings := db.bindings.update (fun b => b.key = k) payload.clear fun _ => rfl }
  | .set k c, db =>
      { db with bindings := db.bindings.update (fun b => b.key = k) c.set fun _ => rfl }
  | .upsert b, db => { db with bindings := db.bindings.upsert b }
  | .delete k, db => { db with bindings := db.bindings.delete fun b => b.key = k }

/-- A row is locked by its key, which an insert claims as well. -/
instance : RedoLog BindingRedo BindingsDb BindingKey where
  apply := BindingRedo.apply
  guards u := [u.key]

/-- What a log makes of the row of a key. -/
def rowAfter (log : List BindingRedo) (k : BindingKey) (o : Option StoreWarehouse) :
    Option StoreWarehouse :=
  log.foldl (fun o u => if k = u.key then u.onRow o else o) o

theorem rowAfter_append (log log' : List BindingRedo) (k : BindingKey) (o : Option StoreWarehouse) :
    rowAfter (log ++ log') k o = rowAfter log' k (rowAfter log k o) := List.foldl_append

theorem rowAfter_singleton (u : BindingRedo) (k : BindingKey) (o : Option StoreWarehouse) :
    rowAfter [u] k o = if k = u.key then u.onRow o else o := rfl

theorem BindingRedo.lookup_apply (u : BindingRedo) (db : BindingsDb) (k : BindingKey) :
    (u.apply db).bindings.lookup k =
      if k = u.key then u.onRow (db.bindings.lookup k) else db.bindings.lookup k := by
  cases u with
  | clear k' payload =>
      exact Table.lookup_update_key (q := fun q => q = k') (f := payload.clear) fun _ => rfl
  | set k' c => exact Table.lookup_update_key (q := fun q => q = k') (f := c.set) fun _ => rfl
  | upsert b => exact Table.lookup_upsert
  | delete k' => exact Table.lookup_delete_key (q := fun q => q = k')

/-- **Replay.** A log acts on each row by its own records. -/
theorem lookup_redo (log : List BindingRedo) (db : BindingsDb) (k : BindingKey) :
    (redo log db).bindings.lookup k = rowAfter log k (db.bindings.lookup k) := by
  induction log generalizing db with
  | nil => rfl
  | cons u log ih =>
      rw [redo_cons, ih]
      exact congrArg (rowAfter log k) (u.lookup_apply db k)

/-- A row no record is about is left alone. -/
theorem rowAfter_of_not_mem {log : List BindingRedo} {k : BindingKey} (h : k ∉ guardsOf log)
    (o : Option StoreWarehouse) : rowAfter log k o = o := by
  induction log generalizing o with
  | nil => rfl
  | cons u log ih =>
      have hu : k ≠ u.key := fun heq =>
        h (mem_guardsOf.mpr ⟨u, List.mem_cons_self, List.mem_singleton.mpr heq⟩)
      have hrest : k ∉ guardsOf log := fun hmem => by
        obtain ⟨v, hv, hkv⟩ := mem_guardsOf.mp hmem
        exact h (mem_guardsOf.mpr ⟨v, List.mem_cons_of_mem _ hv, hkv⟩)
      show rowAfter log k (if k = u.key then u.onRow o else o) = o
      rw [if_neg hu, ih hrest]

/-- The same write to a list of rows, which a second one would not change. -/
theorem rowAfter_map {f : BindingKey → BindingRedo} {g : StoreWarehouse → StoreWarehouse}
    (hkey : ∀ k, (f k).key = k) (hrow : ∀ k o, (f k).onRow o = o.map g)
    (htwice : ∀ b, g (g b) = g b) (ks : List BindingKey) (k : BindingKey)
    (o : Option StoreWarehouse) :
    rowAfter (ks.map f) k o = if k ∈ ks then o.map g else o := by
  induction ks generalizing o with
  | nil => simp [rowAfter]
  | cons k' ks ih =>
      show rowAfter (ks.map f) k (if k = (f k').key then (f k').onRow o else o) = _
      rw [hkey, hrow, ih]
      by_cases hk : k = k'
      · subst hk
        cases o <;> simp [htwice]
      · simp [hk]

/-! ## Services -/

inductive BindingErr
  | http (status : Int) (detail : String)
  | valueError (message : String)
deriving DecidableEq

abbrev BindingTx (α : Type) := Prog (Stmt BindingsDb BindingRedo BindingErr) BindingErr α

/-- `ensure_store_exists`. -/
def ensureStoreExists (storeId : Int) : BindingTx Unit := do
  let found ← Prog.read fun db => decide (storeId ∈ db.stores)
  Prog.require (found = true) (.http 404 "store not found")

/-- `ensure_warehouse_exists`. -/
def ensureWarehouseExists (warehouseId : Int) (requireActive : Bool) : BindingTx Unit := do
  let row ← Prog.read fun db => db.warehouses.find? fun w => w.1 = warehouseId
  let row ← Prog.requireSome row (.http 404 "warehouse not found")
  Prog.require (¬ (requireActive = true ∧ row.2 = false)) (.http 400 "warehouse is inactive")

/-- The keys of the store's rows. -/
def BindingsDb.keysOf (db : BindingsDb) (storeId : Int) : List BindingKey :=
  (db.bindings.rows.filter fun b => b.storeId = storeId).map StoreWarehouse.key

/-- Whether a bound warehouse becomes the main one: as it says, or with the default. -/
def BindWarehouseIn.top (payload : BindWarehouseIn) : Bool := payload.isTop.getD payload.isDefault

/-- The row a binding ends in. -/
def BindWarehouseIn.row (payload : BindWarehouseIn) (storeId : Int) : StoreWarehouse :=
  ⟨storeId, payload.warehouseId, payload.top, payload.isDefault, payload.priority⟩

/-- The update that clears the flags of the store's rows. -/
def clearBindings (storeId : Int) (payload : BindWarehouseIn) : BindingTx Unit :=
  Prog.write fun db => .ok ((), (db.keysOf storeId).map fun k => .clear k payload)

/-- `StoreService.bind_warehouse`. -/
def bindWarehouse (storeId : Int) (payload : BindWarehouseIn) : BindingTx Unit := do
  let _ ← if payload.top = true ∨ payload.isDefault = true then clearBindings storeId payload
    else pure ()
  Prog.write fun _ => .ok ((), [.upsert (payload.row storeId)])

/-- `StoreService.set_default_warehouse`. -/
def setDefaultWarehouse (storeId warehouseId : Int) : BindingTx Unit := do
  let found ← Prog.read fun db => decide (db.bindings.HasKey (storeId, warehouseId))
  Prog.require (found = true) (.valueError "该仓库未绑定到店铺，不能设为默认仓。")
  let _ ← Prog.write fun db =>
    .ok ((), (db.keysOf storeId).map fun k => .set k { isDefault := some false })
  Prog.write fun db =>
    .ok ((), (db.bindings.lookup (storeId, warehouseId)).toList.map fun b =>
      .set b.key { isDefault := some true })

/-- `bind_store_warehouse`. -/
def bindStoreWarehouse (storeId : Int) (payload : BindWarehouseIn) : BindingTx Unit := do
  ensureStoreExists storeId
  ensureWarehouseExists payload.warehouseId true
  bindWarehouse storeId payload

/-- The columns `update_binding` sets itself: the default flag only when it
does not set it through the service. -/
def BindingUpdateIn.fields (payload : BindingUpdateIn) : BindingUpdateIn :=
  { payload with
    isDefault := if payload.isDefault = some true then none else payload.isDefault }

/-- The update of the remaining columns; it fails where it finds no row. -/
def updateFields (storeId warehouseId : Int) (c : BindingUpdateIn) : BindingTx StoreWarehouse :=
  Prog.write fun db =>
    match db.bindings.lookup (storeId, warehouseId) with
    | none => .error (.http 404 "binding not found")
    | some b => .ok (c.set b, [.set b.key c])

/-- What `update_binding` does once there is something to do. -/
def applyUpdate (storeId warehouseId : Int) (payload : BindingUpdateIn) :
    BindingTx StoreWarehouse := do
  let _ ← if payload.isDefault = some true then setDefaultWarehouse storeId warehouseId
    else pure ()
  if payload.fields = {} then do
    let row ← Prog.read fun db => db.bindings.lookup (storeId, warehouseId)
    Prog.requireSome row (.http 404 "binding not found")
  else updateFields storeId warehouseId payload.fields

/-- A `ValueError` of the service is answered 400. -/
def BindingErr.answer : BindingErr → BindingErr
  | .valueError message => .http 400 message
  | e => e

/-- `update_binding`. -/
def updateBinding (storeId warehouseId : Int) (payload : BindingUpdateIn) :
    BindingTx StoreWarehouse := do
  ensureStoreExists storeId
  ensureWarehouseExists warehouseId false
  Prog.require (payload ≠ {}) (.http 400 "no fields to update")
  (applyUpdate storeId warehouseId payload).mapErr BindingErr.answer

/-- `delete_binding`. -/
def deleteBinding (storeId warehouseId : Int) : BindingTx Unit := do
  ensureStoreExists storeId
  ensureWarehouseExists warehouseId false
  let found ← Prog.write fun db =>
    .ok (db.bindings.lookup (storeId, warehouseId),
      (db.bindings.lookup (storeId, warehouseId)).toList.map fun b => .delete b.key)
  Prog.require (found ≠ none) (.http 404 "binding not found")

/-! ## Requests -/

/-- A request of one of the three routes. -/
inductive BindingCall
  | bind (storeId : Int) (payload : BindWarehouseIn)
  | update (storeId warehouseId : Int) (payload : BindingUpdateIn)
  | delete (storeId warehouseId : Int)

def BindingCall.prog : BindingCall → BindingTx Unit
  | .bind storeId payload => bindStoreWarehouse storeId payload
  | .update storeId warehouseId payload => do
      let _ ← updateBinding storeId warehouseId payload
      return ()
  | .delete storeId warehouseId => deleteBinding storeId warehouseId

/-- The binding a request is about. -/
def BindingCall.key : BindingCall → BindingKey
  | .bind storeId payload => (storeId, payload.warehouseId)
  | .update storeId warehouseId _ => (storeId, warehouseId)
  | .delete storeId warehouseId => (storeId, warehouseId)

/-- The request makes its binding the default one. -/
def BindingCall.SetsDefault : BindingCall → Prop
  | .bind _ payload => payload.isDefault = true
  | .update _ _ payload => payload.isDefault = some true
  | .delete _ _ => False

/-- The request makes its binding the main one. -/
def BindingCall.SetsTop : BindingCall → Prop
  | .bind _ payload => payload.top = true
  | .update _ _ payload => payload.isTop = some true
  | .delete _ _ => False

/-- The request asks for its binding to be the main one. -/
def BindingCall.AsksTop : BindingCall → Prop
  | .bind _ payload => payload.isTop = some true
  | .update _ _ payload => payload.isTop = some true
  | .delete _ _ => False

instance BindingCall.decidableSetsDefault : (op : BindingCall) → Decidable op.SetsDefault
  | .bind _ payload => inferInstanceAs (Decidable (payload.isDefault = true))
  | .update _ _ payload => inferInstanceAs (Decidable (payload.isDefault = some true))
  | .delete _ _ => inferInstanceAs (Decidable False)

instance BindingCall.decidableSetsTop : (op : BindingCall) → Decidable op.SetsTop
  | .bind _ payload => inferInstanceAs (Decidable (payload.top = true))
  | .update _ _ payload => inferInstanceAs (Decidable (payload.isTop = some true))
  | .delete _ _ => inferInstanceAs (Decidable False)

/-- A store has one main and one default warehouse at most. -/
structure BindingsDb.OneEach (db : BindingsDb) : Prop where
  default_one : ∀ a ∈ db.bindings.rows, ∀ b ∈ db.bindings.rows, a.storeId = b.storeId →
    a.isDefault = true → b.isDefault = true → a = b
  top_one : ∀ a ∈ db.bindings.rows, ∀ b ∈ db.bindings.rows, a.storeId = b.storeId →
    a.isTop = true → b.isTop = true → a = b

instance BindingsDb.decidableOneEach (db : BindingsDb) : Decidable db.OneEach :=
  decidable_of_iff (_ ∧ _) ⟨fun h => ⟨h.1, h.2⟩, fun h => ⟨h.default_one, h.top_one⟩⟩

end WmsDu.Stores
