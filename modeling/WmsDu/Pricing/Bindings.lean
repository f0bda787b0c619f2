import WmsDu.Pricing.Clone
import WmsDu.Pricing.Surcharges

/-!
# Binding price templates

The endpoints that put a template to use for a provider in a warehouse, and
all the calls of the pricing tables. A template may be bound once; this is
checked beforehand and not by a constraint.
-/

namespace WmsDu

open Txn

/-! ## Checks -/

/-- What an endpoint makes of a refusal of `validate_template_ready_for_binding`. -/
def asPricingTemplateInvalid : PricingErr → PricingErr
  | .http _ detail => .http 409 s!"pricing_template invalid: {detail}"
  | e => e

/-- The template belongs to the provider, is in force and validated, and has
its prices; bound to none where that is asked for. -/
def ensureTemplateAllowed (unused : Bool) (shippingProviderId : Int) :
    Option Int → PricingTx Unit
  | none => return ()
  | some templateId => do
      let t ← loadTemplateOr404 templateId
      Prog.require (t.shippingProviderId = shippingProviderId)
        (.http 409 "pricing_template does not belong to shipping_provider")
      Prog.require (t.archivedAt = none ∧ t.status ≠ .archived)
        (.http 409 "pricing_template archived")
      Prog.require (t.validationStatus = .passed) (.http 409 "pricing_template not validated")
      let stats ← buildTemplateStats templateId
      Prog.require (stats.configStatus = .ready) (.http 409 "pricing_template not ready")
      Prog.require (unused = true → stats.usedBindingCount = 0)
        (.http 409 "pricing_template already used by binding")
      let _ ← (validateTemplateReadyForBinding templateId).mapRaise asPricingTemplateInvalid
      return ()

/-- `_ensure_binding_template_allowed`. -/
def ensureBindingTemplateAllowed : Int → Option Int → PricingTx Unit := ensureTemplateAllowed true

/-- `_ensure_activation_template_allowed`. -/
def ensureActivationTemplateAllowed : Int → Option Int → PricingTx Unit := ensureTemplateAllowed false

def requireWarehouse (warehouseId : Int) : PricingTx Unit := do
  let found ← Prog.read fun db => decide (db.warehouses.HasKey warehouseId)
  Prog.require (found = true) (.http 404 "warehouse not found")

def bindingNotFound : PricingErr := .http 404 "warehouse_shipping_provider not found"

/-! ## Configuration -/

/-- `WarehouseShippingProviderBindIn` and `WarehouseShippingProviderUpsertItemIn`. -/
structure BindingIn where
  shippingProviderId : Int
  active : Bool := true
  priority : Int := 0
  pickupCutoffTime : Option String := none
  remark : Option String := none
  activeTemplateId : Option Int := none
deriving DecidableEq, Repr

def BindingIn.row (warehouseId : Int) (b : BindingIn) : WarehouseShippingProvider where
  warehouseId := warehouseId
  shippingProviderId := b.shippingProviderId
  activeTemplateId := b.activeTemplateId
  active := b.active
  priority := b.priority
  pickupCutoffTime := b.pickupCutoffTime
  remark := b.remark

/-- `pricing_bind_provider_to_warehouse`. -/
def bindProviderToWarehouse (warehouseId : Int) (payload : BindingIn) : PricingTx Unit := do
  requireWarehouse warehouseId
  let provider ← Prog.read fun db => db.providers.lookup payload.shippingProviderId
  let _ ← Prog.requireSome provider (.http 404 "shipping_provider not found")
  ensureBindingTemplateAllowed payload.shippingProviderId payload.activeTemplateId
  let inserted ← insertBindingOnConflictDoNothing (payload.row warehouseId)
  Prog.require (inserted = true) (.http 409 "warehouse_shipping_provider already bound")

/-- `WarehouseShippingProviderUpdateIn`. -/
structure BindingUpdateIn where
  active : Option Bool := none
  priority : Option Int := none
  pickupCutoffTime : Option String := none
  remark : Option String := none
  activeTemplateId : Option Int := none
deriving DecidableEq, Repr

def BindingUpdateIn.change (payload : BindingUpdateIn) : BindingChange where
  activeTemplateId := payload.activeTemplateId.map some
  active := payload.active
  priority := payload.priority
  pickupCutoffTime := payload.pickupCutoffTime.map some
  remark := payload.remark.map some

/-- `pricing_update_warehouse_binding`. -/
def updateWarehouseBinding (warehouseId shippingProviderId : Int) (payload : BindingUpdateIn) :
    PricingTx Unit := do
  ensureBindingTemplateAllowed shippingProviderId payload.activeTemplateId
  Prog.require (payload.change ≠ {}) (.http 400 "no fields to update")
  let found ← updateBindingRow warehouseId shippingProviderId payload.change
  Prog.require (found = true) bindingNotFound

/-- `pricing_bulk_upsert_warehouse_bindings`: all items are checked before the
first is written. -/
def bulkUpsertWarehouseBindings (warehouseId : Int) (items : List BindingIn)
    (disableMissing : Bool) : PricingTx Unit := do
  requireWarehouse warehouseId
  let pids := items.map (·.shippingProviderId)
  let missing ← Prog.read fun db => pids.filter fun p => ¬ db.providers.HasKey p
  Prog.require (missing = []) (.http 404 "shipping_provider not found")
  insertEach (fun it : BindingIn =>
    ensureBindingTemplateAllowed it.shippingProviderId it.activeTemplateId) items
  insertEach (fun it : BindingIn => upsertBinding (it.row warehouseId)) items
  if disableMissing then disableOtherBindings warehouseId pids else return ()

/-- `pricing_unbind_provider_from_warehouse`. -/
def unbindProviderFromWarehouse (warehouseId shippingProviderId : Int) : PricingTx Unit := do
  let found ← deleteBindingRow warehouseId shippingProviderId
  Prog.require (found = true) bindingNotFound

/-! ## Runtime -/

/-- `pricing_activate_warehouse_binding`. -/
def activateWarehouseBinding (warehouseId shippingProviderId : Int)
    (effectiveFrom : Option Timestamp) (now : Timestamp) : PricingTx Unit := do
  let existing ← Prog.read fun db => db.bindings.lookup (warehouseId, shippingProviderId)
  let existing ← Prog.requireSome existing bindingNotFound
  let templateId ← Prog.requireSome existing.activeTemplateId
    (.http 409 "active_template_id required before activation")
  ensureActivationTemplateAllowed shippingProviderId (some templateId)
  let _ ← updateBindingRow warehouseId shippingProviderId
    { active := some true, effectiveFrom := some (some (effectiveFrom.getD now))
      disabledAt := some none }

/-- `pricing_deactivate_warehouse_binding`. -/
def deactivateWarehouseBinding (warehouseId shippingProviderId : Int) (now : Timestamp) :
    PricingTx Unit := do
  let found ← updateBindingRow warehouseId shippingProviderId
    { active := some false, disabledAt := some (some now) }
  Prog.require (found = true) bindingNotFound

/-! ## Calls -/

/-- The calls, with what the sequences and the clock give them. -/
inductive PricingCall
  | createTemplate (payload : TemplateCreateIn) (newId : Int)
  | updateTemplate (templateId : Int) (payload : TemplateUpdateIn) (now : Timestamp)
  | putTemplateRanges (templateId : Int) (ranges : List ModuleRangeWriteIn) (newId : Nat → Int)
  | createGroup (templateId : Int) (payload : ModuleGroupWriteIn) (newGroupId : Int)
      (newMemberId : Nat → Int)
  | updateGroup (templateId groupId : Int) (payload : ModuleGroupWriteIn) (newMemberId : Nat → Int)
  | deleteGroup (templateId groupId : Int)
  | putTemplateMatrixCells (templateId : Int) (cells : List ModuleMatrixCellWriteIn)
      (newId : Nat → Int)
  | submitValidation (templateId : Int) (confirmValidated : Bool) (userId newRecordId : Int)
  | cloneTemplate (templateId : Int) (name : Option String) (ids : CloneIds)
  | batchCreateProvinceSurchargeConfigs (templateId : Int)
      (items : List SurchargeConfigBatchProvinceItemIn) (newId : Nat → Int)
  | createSurchargeCityContainer (templateId : Int) (provinceCode : String)
      (provinceName : Option String) (active : Bool) (newId : Int)
  | createSurchargeConfig (templateId : Int) (payload : SurchargeConfigCreateIn) (newId : Int)
      (newCityId : Nat → Int)
  | updateSurchargeConfig (configId : Int) (payload : SurchargeConfigUpdateIn)
      (newCityId : Nat → Int)
  | deleteSurchargeConfig (configId : Int)
  | bindProviderToWarehouse (warehouseId : Int) (payload : BindingIn)
  | updateWarehouseBinding (warehouseId shippingProviderId : Int) (payload : BindingUpdateIn)
  | bulkUpsertWarehouseBindings (warehouseId : Int) (items : List BindingIn) (disableMissing : Bool)
  | unbindProviderFromWarehouse (warehouseId shippingProviderId : Int)
  | activateWarehouseBinding (warehouseId shippingProviderId : Int)
      (effectiveFrom : Option Timestamp) (now : Timestamp)
  | deactivateWarehouseBinding (warehouseId shippingProviderId : Int) (now : Timestamp)

/-- What a call answers: the structure a validation has looked at, else
nothing. -/
abbrev PricingAnswer := Option TemplateShape

/-- A call without an answer. -/
def unanswered (x : PricingTx Unit) : PricingTx PricingAnswer := do
  x
  return none

def PricingCall.prog : PricingCall → PricingTx PricingAnswer
  | .createTemplate payload newId => unanswered (WmsDu.createTemplate payload newId)
  | .updateTemplate templateId payload now =>
      unanswered (WmsDu.updateTemplate templateId payload now)
  | .putTemplateRanges templateId ranges newId =>
      unanswered (WmsDu.putTemplateRanges templateId ranges newId)
  | .createGroup templateId payload newGroupId newMemberId =>
      unanswered (WmsDu.createGroup templateId payload newGroupId newMemberId)
  | .updateGroup templateId groupId payload newMemberId =>
      unanswered (WmsDu.updateGroup templateId groupId payload newMemberId)
  | .deleteGroup templateId groupId => unanswered (WmsDu.deleteGroup templateId groupId)
  | .putTemplateMatrixCells templateId cells newId =>
      unanswered (WmsDu.putTemplateMatrixCells templateId cells newId)
  | .submitValidation templateId confirmValidated userId newRecordId => do
      let shape ← WmsDu.submitValidation templateId confirmValidated userId newRecordId
      return some shape
  | .cloneTemplate templateId name ids => unanswered (WmsDu.cloneTemplate templateId name ids)
  | .batchCreateProvinceSurchargeConfigs templateId items newId =>
      unanswered (WmsDu.batchCreateProvinceSurchargeConfigs templateId items newId)
  | .createSurchargeCityContainer templateId provinceCode provinceName active newId =>
      unanswered (WmsDu.createSurchargeCityContainer templateId provinceCode provinceName active newId)
  | .createSurchargeConfig templateId payload newId newCityId =>
      unanswered (WmsDu.createSurchargeConfig templateId payload newId newCityId)
  | .updateSurchargeConfig configId payload newCityId =>
      unanswered (WmsDu.updateSurchargeConfig configId payload newCityId)
  | .deleteSurchargeConfig configId => unanswered (WmsDu.deleteSurchargeConfig configId)
  | .bindProviderToWarehouse warehouseId payload =>
      unanswered (WmsDu.bindProviderToWarehouse warehouseId payload)
  | .updateWarehouseBinding warehouseId shippingProviderId payload =>
      unanswered (WmsDu.updateWarehouseBinding warehouseId shippingProviderId payload)
  | .bulkUpsertWarehouseBindings warehouseId items disableMissing =>
      unanswered (WmsDu.bulkUpsertWarehouseBindings warehouseId items disableMissing)
  | .unbindProviderFromWarehouse warehouseId shippingProviderId =>
      unanswered (WmsDu.unbindProviderFromWarehouse warehouseId shippingProviderId)
  | .activateWarehouseBinding warehouseId shippingProviderId effectiveFrom now =>
      unanswered (WmsDu.activateWarehouseBinding warehouseId shippingProviderId effectiveFrom now)
  | .deactivateWarehouseBinding warehouseId shippingProviderId now =>
      unanswered (WmsDu.deactivateWarehouseBinding warehouseId shippingProviderId now)

end WmsDu
