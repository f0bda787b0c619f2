import WmsDu.Oms.Schema
import WmsDu.Txn.Stmt

/-!
# The FSKU tables

A saleable unit, its components and the merchant codes bound to it, with the
records the two services of its life cycle write and the locks that guard them.
-/

namespace WmsDu

open Txn

/-! ## Rows -/

inductive FskuShape
  | single | bundle
deriving DecidableEq, Repr

/-- `fskus`. -/
structure FskuRow extends Fsku where
  name : String
  shape : FskuShape
  publishedAt : Option Timestamp := none
  retiredAt : Option Timestamp := none
  updatedAt : Timestamp

inductive FskuComponentRole
  | primary | gift
deriving DecidableEq, Repr

def FskuComponentRole.text : FskuComponentRole → String
  | .primary => "primary"
  | .gift => "gift"

/-- `merchant_code_fsku_bindings`. -/
structure MerchantCodeFskuBinding extends MerchantCodeBinding where
  id : Int
  reason : Option String

structure FskuDb where
  items : Table (id : Int → Int) := .empty
  fskus : Table (fun f : FskuRow => f.id) := .empty
  components : Table FskuComponent.id := .empty
  bindings : Table (fun b : MerchantCodeFskuBinding => b.id) := .empty

/-- The components of an FSKU. -/
def FskuDb.componentsOf (db : FskuDb) (fskuId : Int) : List FskuComponent :=
  db.components.rows.filter fun c => c.fskuId = fskuId

/-- The binding of a merchant code. -/
def FskuDb.bindingOf (db : FskuDb) (platform storeCode merchantCode : String) :
    Option MerchantCodeFskuBinding :=
  db.bindings.rows.find? fun b =>
    b.platform = platform ∧ b.storeCode = storeCode ∧ b.merchantCode = merchantCode

/-! ## Errors -/

/-- One entry of the details of a refused request. -/
structure FskuDetail where
  path : String
  reason : String
deriving DecidableEq, Repr

inductive FskuErr
  | notFound (message : String)
  | conflict (message : String)
  | badInput (details : List FskuDetail)
  /-- `MerchantCodeBindingService.BadInput`. -/
  | badText (message : String)
  | valueError (message : String)
  /-- SQLAlchemy's `StaleDataError`: an update found no row. -/
  | staleData
  | integrity (constraint : String)
deriving DecidableEq, Repr

/-! ## Records -/

/-- The columns an update of an FSKU writes. -/
inductive FskuChange
  | code (code : String)
  | touch (now : Timestamp)
  | publish (now : Timestamp)
  | retire (now : Timestamp)
deriving DecidableEq, Repr

def FskuChange.set : FskuChange → FskuRow → FskuRow
  | .code text, f => { f with code := text }
  | .touch now, f => { f with updatedAt := now }
  | .publish now, f => { f with status := .published, publishedAt := some now, updatedAt := now }
  | .retire now, f => { f with status := .retired, retiredAt := some now, updatedAt := now }

theorem FskuChange.set_id (ch : FskuChange) (f : FskuRow) : (ch.set f).id = f.id := by
  cases ch <;> rfl

inductive FskuRedo
  | fskuInsert (f : FskuRow)
  | fskuUpdate (id : Int) (ch : FskuChange)
  | componentsDelete (fskuId : Int) (ids : List Int)
  | componentInsert (c : FskuComponent)
  | bindingInsert (b : MerchantCodeFskuBinding)
  | bindingUpdate (id fskuId : Int) (reason : Option String)
  | bindingDelete (id : Int)

def FskuRedo.apply (u : FskuRedo) (db : FskuDb) : FskuDb :=
  match u with
  | .fskuInsert f => { db with fskus := db.fskus.insert f }
  | .fskuUpdate id ch => { db with fskus := db.fskus.update (fun f => f.id = id) ch.set ch.set_id }
  | .componentsDelete fskuId ids =>
      { db with components := db.components.delete fun c => c.fskuId = fskuId ∧ c.id ∈ ids }
  | .componentInsert c => { db with components := db.components.insert c }
  | .bindingInsert b => { db with bindings := db.bindings.insert b }
  | .bindingUpdate id fskuId reason =>
      { db with
        bindings := db.bindings.update (fun b => b.id = id)
          (fun b => { b with fskuId := fskuId, reason := reason }) fun _ => rfl }
  | .bindingDelete id => { db with bindings := db.bindings.delete fun b => b.id = id }

inductive FskuLock
  | fsku (id : Int)
  | code (code : String)
  | component (id : Int)
  | binding (id : Int)
  | merchantCode (platform storeCode merchantCode : String)
deriving DecidableEq

instance : RedoLog FskuRedo FskuDb FskuLock where
  apply := FskuRedo.apply
  guards
    | .fskuInsert f => [.fsku f.id, .code f.code]
    | .fskuUpdate id (.code code) => [.fsku id, .code code]
    | .fskuUpdate id _ => [.fsku id]
    | .componentsDelete _ ids => ids.map .component
    | .componentInsert c => [.component c.id]
    | .bindingInsert b =>
        [.binding b.id, .merchantCode b.platform b.storeCode b.merchantCode]
    | .bindingUpdate id _ _ => [.binding id]
    | .bindingDelete id => [.binding id]

/-- A service of the FSKU tables. -/
abbrev FskuTx := Prog (Stmt FskuDb FskuRedo FskuErr) FskuErr

/-! ## Statements -/

/-- `db.get(Fsku, fsku_id)`. -/
def getFsku (fskuId : Int) : FskuTx (Option FskuRow) := Prog.read fun db => db.fskus.lookup fskuId

def insertFsku (f : FskuRow) : FskuTx Unit :=
  Prog.write fun db =>
    if db.fskus.HasKey f.id then .error (.integrity "fskus_pkey")
    else if ∃ g ∈ db.fskus.rows, g.code = f.code then .error (.integrity "ux_fskus_code")
    else .ok ((), [.fskuInsert f])

/-- The update of an FSKU the session has loaded. The trigger on its status
refuses to retire a bound one; `rename` is what the caller makes of a violated
constraint. -/
def updateFsku (rename : FskuErr → FskuErr) (id : Int) (ch : FskuChange) : FskuTx Unit :=
  Prog.write fun db =>
    match db.fskus.lookup id with
    | none => .error .staleData
    | some f =>
        if (ch.set f).status = .retired ∧ f.status ≠ .retired ∧ ∃ b ∈ db.bindings.rows, b.fskuId = id then
          .error (rename (.integrity "ck_fskus_retire_not_referenced"))
        else if ∃ g ∈ db.fskus.rows, g.id ≠ id ∧ g.code = (ch.set f).code then
          .error (rename (.integrity "ux_fskus_code"))
        else .ok ((), [.fskuUpdate id ch])

def insertComponent (rename : FskuErr → FskuErr) (c : FskuComponent) : FskuTx Unit :=
  Prog.write fun db =>
    if db.components.HasKey c.id then .error (rename (.integrity "fsku_components_pkey"))
    else if ¬ db.fskus.HasKey c.fskuId then
      .error (rename (.integrity "fsku_components_fsku_id_fkey"))
    else if ¬ db.items.HasKey c.itemId then
      .error (rename (.integrity "fsku_components_item_id_fkey"))
    else .ok ((), [.componentInsert c])

def insertBinding (b : MerchantCodeFskuBinding) : FskuTx Unit :=
  Prog.write fun db =>
    if db.bindings.HasKey b.id then .error (.integrity "merchant_code_fsku_bindings_pkey")
    else if (db.bindingOf b.platform b.storeCode b.merchantCode).isSome then
      .error (.integrity "ux_mc_fsku_bindings_store_unique")
    else if ¬ db.fskus.HasKey b.fskuId then
      .error (.integrity "merchant_code_fsku_bindings_fsku_id_fkey")
    else .ok ((), [.bindingInsert b])

def updateBinding (id fskuId : Int) (reason : Option String) : FskuTx Unit :=
  Prog.write fun db =>
    if ¬ db.bindings.HasKey id then .ok ((), [])
    else if ¬ db.fskus.HasKey fskuId then
      .error (.integrity "merchant_code_fsku_bindings_fsku_id_fkey")
    else .ok ((), [.bindingUpdate id fskuId reason])

end WmsDu
