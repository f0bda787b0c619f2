import WmsDu.Fsku.Schema

/-!
# The life cycle of an FSKU

`fsku_service_write` and `MerchantCodeBindingService`: one transaction a call.
A statement checks, another one writes, and nothing is locked in between.
-/

namespace WmsDu

open Txn

/-! ## Drafts -/

/-- `normalize_shape`. -/
def normalizeShape (v : Option String) : Except FskuErr FskuShape :=
  match cleanText v with
  | none => .ok .bundle
  | some s =>
      if s = "single" then .ok .single
      else if s = "bundle" then .ok .bundle
      else .error (.valueError "shape must be 'single' or 'bundle'")

/-- What a service makes of a violated constraint. -/
def asConflict (message : String) : FskuErr → FskuErr
  | .integrity _ => .conflict message
  | e => e

/-- `create_draft`, under the id the sequence draws. -/
def createDraft (name : String) (code shape : Option String) (id : Int) (now : Timestamp) :
    FskuTx Unit := do
  let shape ← Prog.ofExcept (normalizeShape shape)
  insertFsku
    { id := id, code := "__PENDING__", status := .draft, name := strip name, shape := shape
      updatedAt := now }
  updateFsku (asConflict "FSKU code 冲突（必须全局唯一）") id
    (.code ((cleanText code).getD s!"FSKU-{id}"))

/-! ## Components -/

/-- `FskuComponentIn`. -/
structure FskuComponentIn where
  itemId : Int
  qty : Int
  role : FskuComponentRole
  itemId_ge : 1 ≤ itemId := by decide
  qty_ge : 1 ≤ qty := by decide

/-- The entries that repeat the item and role of an earlier one. -/
def repeatedComponents : Nat → List (Int × FskuComponentRole) → List FskuComponentIn →
    List FskuDetail
  | _, _, [] => []
  | i, seen, c :: rest =>
      (if (c.itemId, c.role) ∈ seen then [⟨s!"components[{i}]", "重复的 item_id + role"⟩] else []) ++
        repeatedComponents (i + 1) ((c.itemId, c.role) :: seen) rest

/-- The entries whose item does not exist; one read each. -/
def missingItems : Nat → List FskuComponentIn → FskuTx (List FskuDetail)
  | _, [] => return []
  | i, c :: rest => do
      let found ← Prog.read fun db => decide (db.items.HasKey c.itemId)
      let details ← missingItems (i + 1) rest
      return (if found then [] else [⟨s!"components[{i}].item_id", "Item 不存在"⟩]) ++ details

/-- The row of an entry. -/
def FskuComponentIn.row (fskuId id : Int) (c : FskuComponentIn) : FskuComponent :=
  { id := id, fskuId := fskuId, itemId := c.itemId, qtyNum := c.qty, qtyDen := 1
    role := c.role.text }

/-- The rows of the entries, under the ids the sequence draws. -/
def componentRows (fskuId : Int) (newId : Nat → Int) (components : List FskuComponentIn) :
    List FskuComponent :=
  components.zipIdx.map fun (c, i) => c.row fskuId (newId i)

/-- The inserts of the flush. -/
def insertComponents (rename : FskuErr → FskuErr) : List FskuComponent → FskuTx Unit
  | [] => return ()
  | c :: rest => do
      insertComponent rename c
      insertComponents rename rest

/-- `replace_components_draft`. The delete sees the components there are when
it starts. -/
def replaceComponentsDraft (fskuId : Int) (components : List FskuComponentIn)
    (newId : Nat → Int) (now : Timestamp) : FskuTx Unit := do
  let f ← getFsku fskuId
  let f ← Prog.requireSome f (.notFound "FSKU 不存在")
  Prog.require (f.status = .draft)
    (.conflict "FSKU 非草稿态，components 已冻结；如需改动请新建版本/新 FSKU")
  let details := repeatedComponents 0 [] components
  Prog.require (details = []) (.badInput details)
  Prog.require (∃ c ∈ components, c.role = .primary)
    (.badInput [⟨"components", "必须至少包含 1 条 role=primary（主销商品）"⟩])
  let details ← missingItems 0 components
  Prog.require (details = []) (.badInput details)
  let ids ← Prog.read fun db => (db.componentsOf fskuId).map FskuComponent.id
  Prog.record fun _ => [.componentsDelete fskuId ids]
  let rename := asConflict "components 写入冲突，请重试"
  updateFsku rename fskuId (.touch now)
  insertComponents rename (componentRows fskuId newId components)

/-! ## Publishing and retiring -/

/-- `publish`. -/
def publish (fskuId : Int) (now : Timestamp) : FskuTx Unit := do
  let f ← getFsku fskuId
  let f ← Prog.requireSome f (.notFound "FSKU 不存在")
  Prog.require (f.status = .draft) (.conflict "仅草稿态允许发布")
  let total ← Prog.read fun db => (db.componentsOf fskuId).length
  Prog.require (0 < total) (.conflict "发布前必须至少配置 1 个 component")
  let primaryN ← Prog.read fun db =>
    ((db.componentsOf fskuId).filter fun c => c.role = "primary").length
  Prog.require (0 < primaryN) (.conflict "发布前必须至少包含 1 条 role=primary（主销商品）")
  updateFsku id fskuId (.publish now)

/-- `_is_bound_by_merchant_codes`. -/
def isBoundByMerchantCodes (fskuId : Int) : FskuTx Bool :=
  Prog.read fun db => db.bindings.rows.any fun b => b.fskuId = fskuId

/-- `retire`. -/
def retire (fskuId : Int) (now : Timestamp) : FskuTx Unit := do
  let f ← getFsku fskuId
  let f ← Prog.requireSome f (.notFound "FSKU 不存在")
  Prog.require (f.status = .published) (.conflict "仅已发布的 FSKU 允许停用")
  let bound ← isBoundByMerchantCodes fskuId
  Prog.require (bound = false)
    (.conflict "该 FSKU 正在被店铺商品代码引用（存在绑定），请先改绑/解绑后再退休")
  updateFsku id fskuId (.retire now)

/-! ## Merchant codes -/

/-- What names a binding, cleaned. -/
structure MerchantCodeKey where
  storeCode : String
  merchantCode : String

/-- `normalize_merchant_code` and `normalize_store_code`. -/
def merchantCodeKey (storeCode merchantCode : String) : Except FskuErr MerchantCodeKey :=
  match cleanText (some merchantCode) with
  | none => .error (.badText "merchant_code 不能为空")
  | some code =>
      match cleanText (some storeCode) with
      | none => .error (.badText "store_code 不能为空")
      | some store => .ok ⟨store, code⟩

/-- `MerchantCodeBindingService.bind_upsert`, under the id the sequence draws. -/
def bindUpsert (platform storeCode merchantCode : String) (fskuId : Int) (reason : Option String)
    (newId : Int) : FskuTx Unit := do
  let key ← Prog.ofExcept (merchantCodeKey storeCode merchantCode)
  let f ← getFsku fskuId
  let f ← Prog.requireSome f (.notFound "FSKU 不存在")
  Prog.require (f.status = .published)
    (.conflict "仅 published FSKU 允许绑定（避免草稿/退休被订单引用）")
  let reason := (reason.bind orNone).map strip
  let row ← Prog.read fun db => db.bindingOf platform key.storeCode key.merchantCode
  match row with
  | none =>
      insertBinding
        { platform := platform, storeCode := key.storeCode, merchantCode := key.merchantCode
          fskuId := fskuId, id := newId, reason := reason }
  | some row => updateBinding row.id fskuId reason

/-- `MerchantCodeBindingService.unbind`. -/
def unbind (platform storeCode merchantCode : String) : FskuTx Unit := do
  let key ← Prog.ofExcept (merchantCodeKey storeCode merchantCode)
  let row ← Prog.read fun db => db.bindingOf platform key.storeCode key.merchantCode
  let row ← Prog.requireSome row (.notFound "未找到可解绑的绑定")
  Prog.record fun _ => [.bindingDelete row.id]

/-! ## Calls -/

inductive FskuCall
  | createDraft (name : String) (code shape : Option String) (id : Int) (now : Timestamp)
  | replaceComponentsDraft (fskuId : Int) (components : List FskuComponentIn)
      (newId : Nat → Int) (now : Timestamp)
  | publish (fskuId : Int) (now : Timestamp)
  | retire (fskuId : Int) (now : Timestamp)
  | bindUpsert (platform storeCode merchantCode : String) (fskuId : Int)
      (reason : Option String) (newId : Int)
  | unbind (platform storeCode merchantCode : String)

def FskuCall.prog : FskuCall → FskuTx Unit
  | .createDraft name code shape id now => WmsDu.createDraft name code shape id now
  | .replaceComponentsDraft fskuId components newId now =>
      WmsDu.replaceComponentsDraft fskuId components newId now
  | .publish fskuId now => WmsDu.publish fskuId now
  | .retire fskuId now => WmsDu.retire fskuId now
  | .bindUpsert platform storeCode merchantCode fskuId reason newId =>
      WmsDu.bindUpsert platform storeCode merchantCode fskuId reason newId
  | .unbind platform storeCode merchantCode => WmsDu.unbind platform storeCode merchantCode

end WmsDu
