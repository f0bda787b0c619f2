import Mathlib.Data.Prod.Lex
import Mathlib.Data.String.Basic
import WmsDu.Db.Schema
import WmsDu.Shared.Decimals
import WmsDu.Shared.Fallible

/-!
# The pricing tables

A price template of a shipping provider: its weight ranges, its groups of
provinces, one price a cell of the two, and the surcharges; and the bindings
that put a template to use in a warehouse. Weights and amounts are rationals,
rounded where a column keeps them.
-/

namespace WmsDu

/-! ## Rows -/

inductive PricingTemplateStatus
  | draft | archived
deriving DecidableEq, Repr

inductive PricingValidationStatus
  | notValidated | passed | failed
deriving DecidableEq, Repr

/-- `shipping_provider_pricing_templates`. -/
structure PricingTemplate where
  id : Int
  shippingProviderId : Int
  sourceTemplateId : Option Int := none
  name : String
  expectedRangesCount : Int
  expectedGroupsCount : Int
  status : PricingTemplateStatus := .draft
  archivedAt : Option Timestamp := none
  validationStatus : PricingValidationStatus := .notValidated
deriving DecidableEq, Repr

/-- `ck_sppt_archived_state_consistent`. -/
def PricingTemplate.ArchivedConsistent (t : PricingTemplate) : Prop :=
  t.status = .draft ∧ t.archivedAt = none ∨ t.status = .archived ∧ t.archivedAt.isSome

instance (t : PricingTemplate) : Decidable t.ArchivedConsistent :=
  inferInstanceAs (Decidable (_ ∨ _))

def pricingModes : List String := ["flat", "linear_total", "step_over", "manual_quote"]

/-- `shipping_provider_pricing_template_module_ranges`. -/
structure ModuleRange where
  id : Int
  templateId : Int
  minKg : ℚ
  maxKg : Option ℚ
  sortOrder : Int
  defaultPricingMode : String
deriving DecidableEq

/-- `ck_spptmr_range_valid`. -/
def ModuleRange.Valid (r : ModuleRange) : Prop := 0 ≤ r.minKg ∧ ∀ max ∈ r.maxKg, r.minKg < max

instance ModuleRange.decidableValid (r : ModuleRange) : Decidable r.Valid := inferInstanceAs (Decidable (_ ∧ _))

/-- `shipping_provider_pricing_template_destination_groups`. -/
structure DestinationGroup where
  id : Int
  templateId : Int
  name : String
  sortOrder : Int
  active : Bool
deriving DecidableEq, Repr

/-- `shipping_provider_pricing_template_destination_group_members`. -/
structure GroupMember where
  id : Int
  groupId : Int
  provinceCode : Option String
  provinceName : Option String
deriving DecidableEq, Repr

/-- `province_key`. -/
def provinceKey (code name : Option String) : String × String := (code.getD "", name.getD "")

def GroupMember.key (m : GroupMember) : String × String := provinceKey m.provinceCode m.provinceName

/-- `shipping_provider_pricing_template_matrix`. -/
structure MatrixCell where
  id : Int
  groupId : Int
  moduleRangeId : Int
  pricingMode : String
  flatAmount : Option ℚ := none
  baseAmount : Option ℚ := none
  ratePerKg : Option ℚ := none
  baseKg : Option ℚ := none
  active : Bool := true
deriving DecidableEq

inductive SurchargeMode
  | province | cities
deriving DecidableEq, Repr

/-- `shipping_provider_pricing_template_surcharge_configs`. -/
structure SurchargeConfig where
  id : Int
  templateId : Int
  provinceCode : String
  provinceName : Option String
  provinceMode : SurchargeMode
  fixedAmount : ℚ
  active : Bool
deriving DecidableEq

/-- `shipping_provider_pricing_template_surcharge_config_cities`. -/
structure SurchargeCity where
  id : Int
  configId : Int
  cityCode : String
  cityName : Option String
  fixedAmount : ℚ
  active : Bool
deriving DecidableEq

/-- `shipping_providers`. -/
structure ShippingProvider where
  id : Int
  name : String
  shippingProviderCode : String
  companyCode : Option String := none
  active : Bool := true
  priority : Int := 100
deriving DecidableEq, Repr

/-- `warehouse_shipping_providers`, one row a warehouse and provider. -/
structure WarehouseShippingProvider where
  warehouseId : Int
  shippingProviderId : Int
  activeTemplateId : Option Int
  active : Bool
  priority : Int
  pickupCutoffTime : Option String := none
  remark : Option String := none
  effectiveFrom : Option Timestamp := none
  disabledAt : Option Timestamp := none
deriving DecidableEq, Repr

def WarehouseShippingProvider.key (b : WarehouseShippingProvider) : Int × Int :=
  (b.warehouseId, b.shippingProviderId)

/-- `shipping_provider_pricing_template_validation_records`. -/
structure TemplateValidationRecord where
  id : Int
  templateId : Int
  operatorUserId : Int
deriving DecidableEq, Repr

structure PricingDb where
  warehouses : Table (id : Int → Int) := .empty
  providers : Table ShippingProvider.id := .empty
  templates : Table PricingTemplate.id := .empty
  ranges : Table ModuleRange.id := .empty
  groups : Table DestinationGroup.id := .empty
  members : Table GroupMember.id := .empty
  cells : Table MatrixCell.id := .empty
  configs : Table SurchargeConfig.id := .empty
  cities : Table SurchargeCity.id := .empty
  bindings : Table WarehouseShippingProvider.key := .empty
  validationRecords : Table TemplateValidationRecord.id := .empty

inductive PricingErr
  | http (status : Nat) (detail : String)
  | valueError (message : String)
  | typeError
  | integrity (constraint : String)
  /-- SQLAlchemy's `StaleDataError`: an update found no row. -/
  | staleData
deriving DecidableEq, Repr

/-! ## Readings -/

namespace PricingDb

variable (db : PricingDb) (templateId : Int)

def rangesOf : List ModuleRange := db.ranges.rows.filter fun r => r.templateId = templateId

def groupsOf : List DestinationGroup := db.groups.rows.filter fun g => g.templateId = templateId

def membersOf (groupId : Int) : List GroupMember :=
  db.members.rows.filter fun m => m.groupId = groupId

def cellsOfGroup (groupId : Int) : List MatrixCell :=
  db.cells.rows.filter fun c => c.groupId = groupId

def configsOf : List SurchargeConfig := db.configs.rows.filter fun c => c.templateId = templateId

def citiesOf (configId : Int) : List SurchargeCity :=
  db.cities.rows.filter fun c => c.configId = configId

/-- The template has the group. -/
def HasGroup (groupId : Int) : Prop :=
  ∃ g ∈ db.groups.rows, g.id = groupId ∧ g.templateId = templateId

/-- The template has the range. -/
def HasRange (rangeId : Int) : Prop :=
  ∃ r ∈ db.ranges.rows, r.id = rangeId ∧ r.templateId = templateId

instance (groupId : Int) : Decidable (db.HasGroup templateId groupId) :=
  inferInstanceAs (Decidable (∃ g ∈ db.groups.rows, _))

instance (rangeId : Int) : Decidable (db.HasRange templateId rangeId) :=
  inferInstanceAs (Decidable (∃ r ∈ db.ranges.rows, _))

/-- The cells of the template's groups. -/
def cellsOf : List MatrixCell := db.cells.rows.filter fun c => db.HasGroup templateId c.groupId

/-- The bindings that use the template. -/
def bindingsOf : List WarehouseShippingProvider :=
  db.bindings.rows.filter fun b => b.activeTemplateId = some templateId

variable {db templateId}

@[simp] theorem mem_rangesOf {r : ModuleRange} :
    r ∈ db.rangesOf templateId ↔ r ∈ db.ranges.rows ∧ r.templateId = templateId := by
  simp [rangesOf]

@[simp] theorem mem_groupsOf {g : DestinationGroup} :
    g ∈ db.groupsOf templateId ↔ g ∈ db.groups.rows ∧ g.templateId = templateId := by
  simp [groupsOf]

@[simp] theorem mem_membersOf {groupId : Int} {m : GroupMember} :
    m ∈ db.membersOf groupId ↔ m ∈ db.members.rows ∧ m.groupId = groupId := by
  simp [membersOf]

@[simp] theorem mem_cellsOfGroup {groupId : Int} {c : MatrixCell} :
    c ∈ db.cellsOfGroup groupId ↔ c ∈ db.cells.rows ∧ c.groupId = groupId := by
  simp [cellsOfGroup]

@[simp] theorem mem_configsOf {c : SurchargeConfig} :
    c ∈ db.configsOf templateId ↔ c ∈ db.configs.rows ∧ c.templateId = templateId := by
  simp [configsOf]

@[simp] theorem mem_citiesOf {configId : Int} {c : SurchargeCity} :
    c ∈ db.citiesOf configId ↔ c ∈ db.cities.rows ∧ c.configId = configId := by
  simp [citiesOf]

@[simp] theorem mem_cellsOf {c : MatrixCell} :
    c ∈ db.cellsOf templateId ↔ c ∈ db.cells.rows ∧ db.HasGroup templateId c.groupId := by
  simp [cellsOf]

@[simp] theorem mem_bindingsOf {b : WarehouseShippingProvider} :
    b ∈ db.bindingsOf templateId ↔
      b ∈ db.bindings.rows ∧ b.activeTemplateId = some templateId := by
  simp [bindingsOf]

end PricingDb

end WmsDu
