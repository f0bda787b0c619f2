import WmsDu.Pricing.Schema
import WmsDu.Txn.Stmt

/-!
# What the pricing services write

Records, the locks that guard them, and the writing statements with the
constraints they meet. A record of a child row names the template of its
parent: a foreign key lets no child outlive the parent it was written for.
-/

namespace WmsDu

open Txn

/-! ## Changes of columns -/

structure TemplateChange where
  name : Option String := none
  expectedRangesCount : Option Int := none
  expectedGroupsCount : Option Int := none
  validationStatus : Option PricingValidationStatus := none
  status : Option PricingTemplateStatus := none
  archivedAt : Option (Option Timestamp) := none
deriving DecidableEq, Repr

def TemplateChange.set (ch : TemplateChange) (t : PricingTemplate) : PricingTemplate :=
  { t with
    name := ch.name.getD t.name
    expectedRangesCount := ch.expectedRangesCount.getD t.expectedRangesCount
    expectedGroupsCount := ch.expectedGroupsCount.getD t.expectedGroupsCount
    validationStatus := ch.validationStatus.getD t.validationStatus
    status := ch.status.getD t.status
    archivedAt := ch.archivedAt.getD t.archivedAt }

structure GroupChange where
  name : Option String := none
  sortOrder : Option Int := none
  active : Option Bool := none
deriving DecidableEq, Repr

def GroupChange.set (ch : GroupChange) (g : DestinationGroup) : DestinationGroup :=
  { g with
    name := ch.name.getD g.name
    sortOrder := ch.sortOrder.getD g.sortOrder
    active := ch.active.getD g.active }

structure SurchargeConfigChange where
  provinceCode : Option String := none
  provinceName : Option (Option String) := none
  provinceMode : Option SurchargeMode := none
  fixedAmount : Option ℚ := none
  active : Option Bool := none
deriving DecidableEq

def SurchargeConfigChange.set (ch : SurchargeConfigChange) (c : SurchargeConfig) : SurchargeConfig :=
  { c with
    provinceCode := ch.provinceCode.getD c.provinceCode
    provinceName := ch.provinceName.getD c.provinceName
    provinceMode := ch.provinceMode.getD c.provinceMode
    fixedAmount := ch.fixedAmount.getD c.fixedAmount
    active := ch.active.getD c.active }

structure SurchargeCityChange where
  cityName : Option (Option String) := none
  fixedAmount : Option ℚ := none
  active : Option Bool := none
deriving DecidableEq

def SurchargeCityChange.set (ch : SurchargeCityChange) (c : SurchargeCity) : SurchargeCity :=
  { c with
    cityName := ch.cityName.getD c.cityName
    fixedAmount := ch.fixedAmount.getD c.fixedAmount
    active := ch.active.getD c.active }

structure BindingChange where
  activeTemplateId : Option (Option Int) := none
  active : Option Bool := none
  priority : Option Int := none
  pickupCutoffTime : Option (Option String) := none
  remark : Option (Option String) := none
  effectiveFrom : Option (Option Timestamp) := none
  disabledAt : Option (Option Timestamp) := none
deriving DecidableEq, Repr

def BindingChange.set (ch : BindingChange) (b : WarehouseShippingProvider) :
    WarehouseShippingProvider :=
  { b with
    activeTemplateId := ch.activeTemplateId.getD b.activeTemplateId
    active := ch.active.getD b.active
    priority := ch.priority.getD b.priority
    pickupCutoffTime := ch.pickupCutoffTime.getD b.pickupCutoffTime
    remark := ch.remark.getD b.remark
    effectiveFrom := ch.effectiveFrom.getD b.effectiveFrom
    disabledAt := ch.disabledAt.getD b.disabledAt }

/-- What the session writes of a loaded column: nothing if it is unchanged. -/
def changed {α : Type} [DecidableEq α] (old new : α) : Option α := if new = old then none else some new

theorem changed_getD {α : Type} [DecidableEq α] (old new : α) : (changed old new).getD old = new := by
  unfold changed
  split
  · rename_i h
    exact h.symm
  · rfl

/-! ## Records -/

inductive PricingRedo
  | templateInsert (t : PricingTemplate)
  | templateUpdate (id : Int) (ch : TemplateChange)
  | validationRecordInsert (r : TemplateValidationRecord)
  | rangesDelete (templateId : Int) (ids : List Int)
  | rangeInsert (r : ModuleRange)
  | groupInsert (g : DestinationGroup)
  | groupUpdate (templateId id : Int) (ch : GroupChange)
  | groupDelete (templateId id : Int)
  | membersDelete (templateId groupId : Int) (ids : List Int)
  | memberInsert (templateId : Int) (m : GroupMember)
  | cellsDelete (templateId : Int) (ids : List Int)
  | cellInsert (templateId : Int) (c : MatrixCell)
  | configInsert (c : SurchargeConfig)
  | configUpdate (id : Int) (ch : SurchargeConfigChange)
  | configDelete (id : Int)
  | cityInsert (c : SurchargeCity)
  | cityUpdate (id : Int) (ch : SurchargeCityChange)
  | cityDelete (id : Int)
  | bindingInsert (b : WarehouseShippingProvider)
  | bindingUpdate (warehouseId shippingProviderId : Int) (ch : BindingChange)
  | bindingDelete (warehouseId shippingProviderId : Int)

/-- A deleted row takes the rows that refer to it along. -/
def PricingRedo.apply (u : PricingRedo) (db : PricingDb) : PricingDb :=
  match u with
  | .templateInsert t => { db with templates := db.templates.insert t }
  | .templateUpdate id ch =>
      { db with templates := db.templates.update (fun t => t.id = id) ch.set fun _ => rfl }
  | .validationRecordInsert r => { db with validationRecords := db.validationRecords.insert r }
  | .rangesDelete templateId ids =>
      { db with
        ranges := db.ranges.delete fun r => r.templateId = templateId ∧ r.id ∈ ids
        cells := db.cells.delete fun c => db.HasRange templateId c.moduleRangeId ∧ c.moduleRangeId ∈ ids }
  | .rangeInsert r => { db with ranges := db.ranges.insert r }
  | .groupInsert g => { db with groups := db.groups.insert g }
  | .groupUpdate templateId id ch =>
      { db with
        groups := db.groups.update (fun g => g.id = id ∧ g.templateId = templateId) ch.set
          fun _ => rfl }
  | .groupDelete templateId id =>
      { db with
        groups := db.groups.delete fun g => g.id = id ∧ g.templateId = templateId
        members := db.members.delete fun m => db.HasGroup templateId m.groupId ∧ m.groupId = id
        cells := db.cells.delete fun c => db.HasGroup templateId c.groupId ∧ c.groupId = id }
  | .membersDelete templateId groupId ids =>
      { db with
        members := db.members.delete fun m =>
          db.HasGroup templateId m.groupId ∧ m.groupId = groupId ∧ m.id ∈ ids }
  | .memberInsert templateId m =>
      if db.HasGroup templateId m.groupId then { db with members := db.members.insert m } else db
  | .cellsDelete templateId ids =>
      { db with cells := db.cells.delete fun c => db.HasGroup templateId c.groupId ∧ c.id ∈ ids }
  | .cellInsert templateId c =>
      if db.HasGroup templateId c.groupId ∧ db.HasRange templateId c.moduleRangeId then
        { db with cells := db.cells.insert c }
      else db
  | .configInsert c => { db with configs := db.configs.insert c }
  | .configUpdate id ch =>
      { db with configs := db.configs.update (fun c => c.id = id) ch.set fun _ => rfl }
  | .configDelete id =>
      { db with
        configs := db.configs.delete fun c => c.id = id
        cities := db.cities.delete fun c => c.configId = id }
  | .cityInsert c => { db with cities := db.cities.insert c }
  | .cityUpdate id ch => { db with cities := db.cities.update (fun c => c.id = id) ch.set fun _ => rfl }
  | .cityDelete id => { db with cities := db.cities.delete fun c => c.id = id }
  | .bindingInsert b => { db with bindings := db.bindings.insert b }
  | .bindingUpdate w p ch =>
      { db with bindings := db.bindings.update (fun b => b.key = (w, p)) ch.set fun _ => rfl }
  | .bindingDelete w p => { db with bindings := db.bindings.delete fun b => b.key = (w, p) }

inductive PricingLock
  | template (id : Int)
  | validationRecord (id : Int)
  | range (id : Int)
  | rangeSortOrder (templateId sortOrder : Int)
  | rangeBounds (templateId : Int) (minKg maxKg : ℚ)
  | group (id : Int)
  | groupSortOrder (templateId sortOrder : Int)
  | member (id : Int)
  | memberProvince (groupId : Int) (key : String × String)
  | cell (id : Int)
  | cellPlace (groupId moduleRangeId : Int)
  | config (id : Int)
  | configProvince (templateId : Int) (provinceCode : String)
  | city (id : Int)
  | cityCode (configId : Int) (cityCode : String)
  | binding (warehouseId shippingProviderId : Int)
deriving DecidableEq

instance : RedoLog PricingRedo PricingDb PricingLock where
  apply := PricingRedo.apply
  guards
    | .templateInsert t => [.template t.id]
    | .templateUpdate id _ => [.template id]
    | .validationRecordInsert r => [.validationRecord r.id]
    | .rangesDelete _ ids => ids.map .range
    | .rangeInsert r =>
        [.range r.id, .rangeSortOrder r.templateId r.sortOrder] ++
          (r.maxKg.map fun max => PricingLock.rangeBounds r.templateId r.minKg max).toList
    | .groupInsert g => [.group g.id, .groupSortOrder g.templateId g.sortOrder]
    | .groupUpdate templateId id ch =>
        PricingLock.group id :: (ch.sortOrder.map fun s => PricingLock.groupSortOrder templateId s).toList
    | .groupDelete _ id => [.group id]
    | .membersDelete _ _ ids => ids.map .member
    | .memberInsert _ m => [.member m.id, .memberProvince m.groupId m.key]
    | .cellsDelete _ ids => ids.map .cell
    | .cellInsert _ c => [.cell c.id, .cellPlace c.groupId c.moduleRangeId]
    | .configInsert c => [.config c.id, .configProvince c.templateId c.provinceCode]
    | .configUpdate id _ => [.config id]
    | .configDelete id => [.config id]
    | .cityInsert c => [.city c.id, .cityCode c.configId c.cityCode]
    | .cityUpdate id _ => [.city id]
    | .cityDelete id => [.city id]
    | .bindingInsert b => [.binding b.warehouseId b.shippingProviderId]
    | .bindingUpdate w p _ => [.binding w p]
    | .bindingDelete w p => [.binding w p]

/-- A service of the pricing tables. -/
abbrev PricingTx := Prog (Stmt PricingDb PricingRedo PricingErr) PricingErr

/-! ## Templates -/

def insertTemplate (t : PricingTemplate) : PricingTx Unit :=
  Prog.write fun db =>
    if db.templates.HasKey t.id then .error (.integrity "shipping_provider_pricing_templates_pkey")
    else if ¬ db.providers.HasKey t.shippingProviderId then .error (.integrity "fk_sppt_provider_id")
    else .ok ((), [.templateInsert t])

/-- The update of a template the session has loaded. -/
def updateTemplateRow (id : Int) (ch : TemplateChange) : PricingTx Unit :=
  Prog.write fun db =>
    if ch = {} then .ok ((), [])
    else
      match db.templates.lookup id with
      | none => .error .staleData
      | some t =>
          if ¬ (ch.set t).ArchivedConsistent then
            .error (.integrity "ck_sppt_archived_state_consistent")
          else .ok ((), [.templateUpdate id ch])

def insertValidationRecord (r : TemplateValidationRecord) : PricingTx Unit :=
  Prog.write fun db =>
    if db.validationRecords.HasKey r.id then
      .error (.integrity "shipping_provider_pricing_template_validation_records_pkey")
    else .ok ((), [.validationRecordInsert r])

/-! ## Ranges -/

def insertRange (r : ModuleRange) : PricingTx Unit :=
  Prog.write fun db =>
    if db.ranges.HasKey r.id then
      .error (.integrity "shipping_provider_pricing_template_module_ranges_pkey")
    else if ¬ db.templates.HasKey r.templateId then .error (.integrity "fk_spptmr_template_id")
    else if ¬ r.Valid then .error (.integrity "ck_spptmr_range_valid")
    else if r.defaultPricingMode ∉ pricingModes then
      .error (.integrity "ck_spptmr_default_mode_valid")
    else if ∃ s ∈ db.rangesOf r.templateId, s.sortOrder = r.sortOrder then
      .error (.integrity "uq_spptmr_template_sort_order")
    else if r.maxKg.isSome ∧ ∃ s ∈ db.rangesOf r.templateId, s.minKg = r.minKg ∧ s.maxKg = r.maxKg then
      .error (.integrity "uq_spptmr_template_range")
    else .ok ((), [.rangeInsert r])

/-- Delete the ranges the statement sees. -/
def deleteRanges (templateId : Int) : PricingTx Unit :=
  Prog.record fun db => [.rangesDelete templateId ((db.rangesOf templateId).map (·.id))]

/-! ## Groups -/

def insertGroup (g : DestinationGroup) : PricingTx Unit :=
  Prog.write fun db =>
    if db.groups.HasKey g.id then
      .error (.integrity "shipping_provider_pricing_template_destination_groups_pkey")
    else if ¬ db.templates.HasKey g.templateId then .error (.integrity "fk_spptdg_template_id")
    else if ∃ h ∈ db.groupsOf g.templateId, h.sortOrder = g.sortOrder then
      .error (.integrity "uq_spptdg_template_sort_order")
    else .ok ((), [.groupInsert g])

/-- The update of a group the session has loaded. -/
def updateGroupRow (templateId id : Int) (ch : GroupChange) : PricingTx Unit :=
  Prog.write fun db =>
    if ch = {} then .ok ((), [])
    else if ¬ db.HasGroup templateId id then .error .staleData
    else if ∃ s ∈ ch.sortOrder, ∃ h ∈ db.groupsOf templateId, h.id ≠ id ∧ h.sortOrder = s then
      .error (.integrity "uq_spptdg_template_sort_order")
    else .ok ((), [.groupUpdate templateId id ch])

def deleteGroupRow (templateId id : Int) : PricingTx Unit :=
  Prog.record fun _ => [.groupDelete templateId id]

def insertMember (templateId : Int) (m : GroupMember) : PricingTx Unit :=
  Prog.write fun db =>
    if db.members.HasKey m.id then
      .error (.integrity "shipping_provider_pricing_template_destination_group_members_pkey")
    else if ¬ db.groups.HasKey m.groupId then .error (.integrity "fk_spptdgm_group_id")
    else if m.provinceCode = none ∧ m.provinceName = none then
      .error (.integrity "ck_spptdgm_province_required")
    else if ∃ n ∈ db.membersOf m.groupId, n.key = m.key then
      .error (.integrity "uq_spptdgm_group_province_key")
    else .ok ((), [.memberInsert templateId m])

/-- Delete the members the statement sees. -/
def deleteMembers (templateId groupId : Int) : PricingTx Unit :=
  Prog.record fun db => [.membersDelete templateId groupId ((db.membersOf groupId).map (·.id))]

/-! ## Cells -/

def insertCell (templateId : Int) (c : MatrixCell) : PricingTx Unit :=
  Prog.write fun db =>
    if db.cells.HasKey c.id then
      .error (.integrity "shipping_provider_pricing_template_matrix_pkey")
    else if ¬ db.groups.HasKey c.groupId then .error (.integrity "fk_spptm_group_id")
    else if ¬ db.ranges.HasKey c.moduleRangeId then .error (.integrity "fk_spptm_module_range_id")
    else if ∃ d ∈ db.cellsOfGroup c.groupId, d.moduleRangeId = c.moduleRangeId then
      .error (.integrity "uq_spptm_group_module_range")
    else .ok ((), [.cellInsert templateId c])

/-- Delete the cells of some groups that the statement sees. -/
def deleteCells (templateId : Int) (groupIds : List Int) : PricingTx Unit :=
  Prog.record fun db =>
    [.cellsDelete templateId ((db.cells.rows.filter fun c => c.groupId ∈ groupIds).map (·.id))]

/-! ## Surcharges -/

def insertConfig (c : SurchargeConfig) : PricingTx Unit :=
  Prog.write fun db =>
    if db.configs.HasKey c.id then
      .error (.integrity "shipping_provider_pricing_template_surcharge_configs_pkey")
    else if ¬ db.templates.HasKey c.templateId then .error (.integrity "fk_spptsc_template_id")
    else if c.fixedAmount < 0 then .error (.integrity "ck_spptsc_fixed_amount")
    else if ∃ d ∈ db.configsOf c.templateId, d.provinceCode = c.provinceCode then
      .error (.integrity "uq_spptsc_template_province")
    else .ok ((), [.configInsert c])

/-- The update of a config the session has loaded. -/
def updateConfigRow (id : Int) (ch : SurchargeConfigChange) : PricingTx Unit :=
  Prog.write fun db =>
    if ch = {} then .ok ((), [])
    else
      match db.configs.lookup id with
      | none => .error .staleData
      | some c =>
          if (ch.set c).fixedAmount < 0 then .error (.integrity "ck_spptsc_fixed_amount")
          else if ∃ d ∈ db.configsOf c.templateId,
              d.id ≠ id ∧ d.provinceCode = (ch.set c).provinceCode then
            .error (.integrity "uq_spptsc_template_province")
          else .ok ((), [.configUpdate id ch])

def deleteConfigRow (id : Int) : PricingTx Unit := Prog.record fun _ => [.configDelete id]

def insertCity (c : SurchargeCity) : PricingTx Unit :=
  Prog.write fun db =>
    if db.cities.HasKey c.id then
      .error (.integrity "shipping_provider_pricing_template_surcharge_config_cities_pkey")
    else if ¬ db.configs.HasKey c.configId then .error (.integrity "fk_spptscc_config_id")
    else if c.fixedAmount < 0 then .error (.integrity "ck_spptscc_fixed_amount")
    else if ∃ d ∈ db.citiesOf c.configId, d.cityCode = c.cityCode then
      .error (.integrity "uq_spptscc_city")
    else .ok ((), [.cityInsert c])

/-- The update of a city the session has loaded. -/
def updateCityRow (id : Int) (ch : SurchargeCityChange) : PricingTx Unit :=
  Prog.write fun db =>
    if ch = {} then .ok ((), [])
    else
      match db.cities.lookup id with
      | none => .error .staleData
      | some c =>
          if (ch.set c).fixedAmount < 0 then .error (.integrity "ck_spptscc_fixed_amount")
          else .ok ((), [.cityUpdate id ch])

def deleteCityRow (id : Int) : PricingTx Unit := Prog.record fun _ => [.cityDelete id]

/-! ## Bindings -/

/-- The template a binding is to use exists. -/
def BindingTemplateExists (db : PricingDb) (templateId : Option Int) : Prop :=
  ∀ t ∈ templateId, db.templates.HasKey t

instance (db : PricingDb) (templateId : Option Int) : Decidable (BindingTemplateExists db templateId) :=
  inferInstanceAs (Decidable (∀ t ∈ templateId, _))

/-- The insert of a binding; nothing happens to one that exists. -/
def insertBindingOnConflictDoNothing (b : WarehouseShippingProvider) : PricingTx Bool :=
  Prog.write fun db =>
    if db.bindings.HasKey b.key then .ok (false, [])
    else if ¬ db.warehouses.HasKey b.warehouseId then
      .error (.integrity "warehouse_shipping_providers_warehouse_id_fkey")
    else if ¬ db.providers.HasKey b.shippingProviderId then
      .error (.integrity "warehouse_shipping_providers_shipping_provider_id_fkey")
    else if ¬ BindingTemplateExists db b.activeTemplateId then
      .error (.integrity "fk_wh_shipping_providers_active_template_id")
    else .ok (true, [.bindingInsert b])

/-- The update of a binding; whether there is one. -/
def updateBindingRow (warehouseId shippingProviderId : Int) (ch : BindingChange) : PricingTx Bool :=
  Prog.write fun db =>
    if ¬ db.bindings.HasKey (warehouseId, shippingProviderId) then .ok (false, [])
    else if ¬ BindingTemplateExists db (ch.activeTemplateId.getD none) then
      .error (.integrity "fk_wh_shipping_providers_active_template_id")
    else .ok (true, [.bindingUpdate warehouseId shippingProviderId ch])

/-- The insert of a binding, or the update of the columns it names. -/
def upsertBinding (b : WarehouseShippingProvider) : PricingTx Unit :=
  Prog.write fun db =>
    if ¬ db.warehouses.HasKey b.warehouseId then
      .error (.integrity "warehouse_shipping_providers_warehouse_id_fkey")
    else if ¬ db.providers.HasKey b.shippingProviderId then
      .error (.integrity "warehouse_shipping_providers_shipping_provider_id_fkey")
    else if ¬ BindingTemplateExists db b.activeTemplateId then
      .error (.integrity "fk_wh_shipping_providers_active_template_id")
    else if db.bindings.HasKey b.key then
      .ok ((), [.bindingUpdate b.warehouseId b.shippingProviderId
        { activeTemplateId := some b.activeTemplateId, active := some b.active
          priority := some b.priority, pickupCutoffTime := some b.pickupCutoffTime
          remark := some b.remark }])
    else .ok ((), [.bindingInsert b])

/-- Deactivate the bindings of a warehouse with other providers. -/
def disableOtherBindings (warehouseId : Int) (providerIds : List Int) : PricingTx Unit :=
  Prog.record fun db =>
    (db.bindings.rows.filter fun b =>
        b.warehouseId = warehouseId ∧ b.shippingProviderId ∉ providerIds).map fun b =>
      .bindingUpdate b.warehouseId b.shippingProviderId { active := some false }

/-- The delete of a binding; whether there was one. -/
def deleteBindingRow (warehouseId shippingProviderId : Int) : PricingTx Bool :=
  Prog.write fun db =>
    if ¬ db.bindings.HasKey (warehouseId, shippingProviderId) then .ok (false, [])
    else .ok (true, [.bindingDelete warehouseId shippingProviderId])

end WmsDu
