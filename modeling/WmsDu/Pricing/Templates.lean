import WmsDu.Data.Sorting
import WmsDu.Pricing.Records
import WmsDu.Pricing.Quote

/-!
# Writing price templates

The endpoints that create, change and validate a template. What may be changed
is decided from counts read beforehand; nothing is locked in between.
-/

namespace WmsDu

open Txn

/-! ## Capabilities -/

inductive ConfigStatus
  | empty | incomplete | ready
deriving DecidableEq, Repr

structure TemplateStats where
  usedBindingCount : Nat
  rangesCount : Nat
  groupsCount : Nat
  matrixCellsCount : Nat
  configStatus : ConfigStatus
deriving DecidableEq, Repr

/-- `_compute_config_status`. -/
def computeConfigStatus (expectedRangesCount expectedGroupsCount : Int)
    (rangesCount groupsCount matrixCellsCount : Nat) : ConfigStatus :=
  if rangesCount = 0 ∧ groupsCount = 0 ∧ matrixCellsCount = 0 then .empty
  else if rangesCount = expectedRangesCount ∧ groupsCount = expectedGroupsCount ∧
      matrixCellsCount = expectedRangesCount * expectedGroupsCount then .ready
  else .incomplete

inductive ReadonlyReason
  | archivedTemplate | validatedTemplate | clonedTemplateStructureLocked
deriving DecidableEq, Repr

structure TemplateCapabilities where
  canEditStructure : Bool
  canSubmitValidation : Bool
  canClone : Bool
  canArchive : Bool
  readonlyReason : Option ReadonlyReason
deriving DecidableEq, Repr

/-- `build_template_capabilities`. -/
def buildTemplateCapabilities (t : PricingTemplate) (stats : TemplateStats) : TemplateCapabilities :=
  let isDraft := t.status = .draft
  let isValidated := t.validationStatus = .passed
  let isCloned := t.sourceTemplateId.isSome
  { canEditStructure := isDraft ∧ ¬ isValidated ∧ ¬ isCloned
    canSubmitValidation :=
      isDraft ∧ ¬ isValidated ∧ stats.configStatus = .ready ∧ stats.usedBindingCount = 0
    canClone := true
    canArchive := isDraft ∧ stats.usedBindingCount = 0
    readonlyReason :=
      if t.status = .archived then some .archivedTemplate
      else if isValidated then some .validatedTemplate
      else if isCloned then some .clonedTemplateStructureLocked
      else none }

/-- `build_template_stats`. -/
def buildTemplateStats (templateId : Int) : PricingTx TemplateStats := do
  let rangesCount ← Prog.read fun db => (db.rangesOf templateId).length
  let groupsCount ← Prog.read fun db => (db.groupsOf templateId).length
  let matrixCellsCount ← Prog.read fun db => (db.cellsOf templateId).length
  let usedBindingCount ← Prog.read fun db => (db.bindingsOf templateId).length
  let expected ← Prog.read fun db =>
    ((db.templates.lookup templateId).map fun t =>
      (t.expectedRangesCount, t.expectedGroupsCount)).getD (0, 0)
  return {
    usedBindingCount, rangesCount, groupsCount, matrixCellsCount
    configStatus :=
      computeConfigStatus expected.1 expected.2 rangesCount groupsCount matrixCellsCount }

/-! ## Loading -/

def loadTemplateOr404 (templateId : Int) : PricingTx PricingTemplate := do
  let t ← Prog.read fun db => db.templates.lookup templateId
  Prog.requireSome t (.http 404 "PricingTemplate not found")

/-- `ensure_template_draft`, for the loaded template. -/
def ensureTemplateDraft (t : PricingTemplate) : PricingTx Unit := do
  let stats ← buildTemplateStats t.id
  let caps := buildTemplateCapabilities t stats
  if caps.canEditStructure then return ()
  else
    match caps.readonlyReason with
    | some .validatedTemplate =>
        Prog.raise (.http 400 "Validated template cannot be modified; clone a new draft to edit")
    | some .archivedTemplate =>
        Prog.raise (.http 400 "Archived template cannot be modified; clone a new draft to edit")
    | some .clonedTemplateStructureLocked =>
        Prog.raise (.http 400 ("Cloned template cannot modify weight ranges or destination groups; " ++
          "create a new template if you need a different structure"))
    | none => Prog.raise (.http 400 "Template cannot be modified in current state")

def listTemplateRanges (templateId : Int) : PricingTx (List ModuleRange) :=
  Prog.read fun db => sortOn ModuleRange.order (db.rangesOf templateId)

/-- A group with the members loaded for it. -/
structure LoadedGroup where
  group : DestinationGroup
  members : List GroupMember
deriving DecidableEq, Repr

def listTemplateGroups (templateId : Int) : PricingTx (List LoadedGroup) := do
  let groups ← Prog.read fun db => sortOn DestinationGroup.order (db.groupsOf templateId)
  let members ← Prog.read fun db =>
    db.members.rows.filter fun m => m.groupId ∈ groups.map DestinationGroup.id
  return groups.map fun g => ⟨g, members.filter fun m => m.groupId = g.id⟩

def listTemplateMatrixCells (templateId : Int) : PricingTx (List MatrixCell) := do
  let groups ← listTemplateGroups templateId
  if groups = [] then return []
  else
    Prog.read fun db =>
      sortOn (fun c : MatrixCell => toLex (c.groupId, c.moduleRangeId))
        (db.cells.rows.filter fun c => c.groupId ∈ groups.map (·.group.id))

def loadGroupOr404 (templateId groupId : Int) : PricingTx DestinationGroup := do
  let g ← Prog.read fun db => (db.groupsOf templateId).find? fun g => g.id = groupId
  Prog.requireSome g (.http 404 "Group not found")

/-! ## Create and update -/

/-- `_norm_nonempty`. -/
def normNonempty (value : Option String) (fieldName : String) : Except PricingErr String :=
  let v := strip (value.getD "")
  if v = "" then .error (.http 422 s!"{fieldName} must be non-empty") else .ok v

structure TemplateCreateIn where
  shippingProviderId : Int
  name : String
  expectedRangesCount : Int
  expectedGroupsCount : Int
  ranges_ge : 1 ≤ expectedRangesCount := by decide
  groups_ge : 1 ≤ expectedGroupsCount := by decide

def createTemplate (payload : TemplateCreateIn) (newId : Int) : PricingTx Unit := do
  let provider ← Prog.read fun db => db.providers.lookup payload.shippingProviderId
  let _ ← Prog.requireSome provider (.http 404 "ShippingProvider not found")
  let name ← Prog.ofExcept (normNonempty (some payload.name) "name")
  insertTemplate
    { id := newId, shippingProviderId := payload.shippingProviderId, name := name
      expectedRangesCount := payload.expectedRangesCount
      expectedGroupsCount := payload.expectedGroupsCount }

/-- `TemplateUpdateIn`: a field may be left out or sent as null. -/
structure TemplateUpdateIn where
  name : Option (Option String) := none
  expectedRangesCount : Option (Option Int) := none
  expectedGroupsCount : Option (Option Int) := none
  status : Option (Option PricingTemplateStatus) := none
deriving DecidableEq, Repr

/-- The fields sent ask for a change of the template's own data. -/
def TemplateUpdateIn.ChangesMetadata (payload : TemplateUpdateIn) : Prop :=
  payload.name.isSome ∨ payload.expectedRangesCount.isSome ∨ payload.expectedGroupsCount.isSome

instance (payload : TemplateUpdateIn) : Decidable payload.ChangesMetadata :=
  inferInstanceAs (Decidable (_ ∨ _))

/-- `_ensure_template_metadata_editable`. -/
def ensureTemplateMetadataEditable (t : PricingTemplate) (bound changingStructureContract : Bool) :
    PricingTx Unit := do
  Prog.require (t.status = .draft) (.http 400 "Only draft template can be modified")
  Prog.require (t.validationStatus ≠ .passed)
    (.http 400 "Validated template cannot be modified; clone a new draft to edit")
  Prog.require (bound = false) (.http 409 "pricing_template is bound; unbind it before editing")
  let stats ← buildTemplateStats t.id
  let caps := buildTemplateCapabilities t stats
  Prog.require (¬ (changingStructureContract ∧
      caps.readonlyReason = some .clonedTemplateStructureLocked))
    (.http 400 ("Cloned template cannot modify expected ranges/groups; " ++
      "create a new template if you need a different structure"))

/-- The row with the metadata that was sent. -/
def TemplateUpdateIn.setMetadata (payload : TemplateUpdateIn) (t : PricingTemplate) :
    Except PricingErr PricingTemplate := do
  let name ←
    match payload.name with
    | none => pure t.name
    | some name => normNonempty name "name"
  let ranges ←
    match payload.expectedRangesCount with
    | none => pure t.expectedRangesCount
    | some n => demandSome n .typeError
  let groups ←
    match payload.expectedGroupsCount with
    | none => pure t.expectedGroupsCount
    | some n => demandSome n .typeError
  return { t with
    name := name, expectedRangesCount := ranges, expectedGroupsCount := groups
    validationStatus := .notValidated }

/-- The columns in which a row differs from the one that was loaded. -/
def PricingTemplate.changes (t t' : PricingTemplate) : TemplateChange where
  name := changed t.name t'.name
  expectedRangesCount := changed t.expectedRangesCount t'.expectedRangesCount
  expectedGroupsCount := changed t.expectedGroupsCount t'.expectedGroupsCount
  validationStatus := changed t.validationStatus t'.validationStatus
  status := changed t.status t'.status
  archivedAt := changed t.archivedAt t'.archivedAt

/-- The status that was sent, and when the template was archived. -/
def setTemplateStatus (bound : Bool) (now : Timestamp) (t : PricingTemplate) :
    Option (Option PricingTemplateStatus) → Except PricingErr PricingTemplate
  | none => .ok t
  | some none => .error (.integrity "ck_sppt_status_valid")
  | some (some .archived) => do
      demand (bound = false) (.http 409 "pricing_template is bound; unbind it before archiving")
      return { t with status := .archived, archivedAt := some now }
  | some (some .draft) => .ok { t with status := .draft, archivedAt := none }

/-- `update_template`. -/
def updateTemplate (templateId : Int) (payload : TemplateUpdateIn) (now : Timestamp) :
    PricingTx Unit := do
  let t ← loadTemplateOr404 templateId
  let stats ← buildTemplateStats templateId
  let bound : Bool := 0 < stats.usedBindingCount
  let t' ←
    if payload.ChangesMetadata then do
      ensureTemplateMetadataEditable t bound
        (payload.expectedRangesCount.isSome ∨ payload.expectedGroupsCount.isSome)
      Prog.ofExcept (payload.setMetadata t)
    else pure t
  let t' ← Prog.ofExcept (setTemplateStatus bound now t' payload.status)
  updateTemplateRow templateId (t.changes t')

/-! ## Ranges -/

structure ModuleRangeWriteIn where
  minKg : ℚ
  maxKg : Option ℚ
  sortOrder : Option Int := none
  defaultPricingMode : String := "flat"
deriving DecidableEq

/-- A range begins below the end of the one before it. -/
def rangesOverlap : Option ℚ → List (ℚ × Option ℚ) → Bool
  | _, [] => false
  | prevMax, (minKg, maxKg) :: rest =>
      (match prevMax with
        | some prev => decide (minKg < prev)
        | none => false) || rangesOverlap maxKg rest

/-- `validate_ranges_no_overlap`. -/
def validateRangesNoOverlap (ranges : List (ℚ × Option ℚ)) : Except PricingErr Unit :=
  let ordered := sortOn (fun r : ℚ × Option ℚ => toLex (r.1, r.2.getD 999999999)) ranges
  demand (rangesOverlap none ordered = false) (.http 422 "weight ranges overlap")

/-- The row of the `idx`-th range that was sent. -/
def ModuleRangeWriteIn.row (templateId id : Int) (idx : Nat) (r : ModuleRangeWriteIn) : ModuleRange where
  id := id
  templateId := templateId
  minKg := numericColumn 3 r.minKg
  maxKg := r.maxKg.map (numericColumn 3)
  sortOrder := r.sortOrder.getD idx
  defaultPricingMode := r.defaultPricingMode

/-- One statement for each row. -/
def insertEach {α : Type} (insert : α → PricingTx Unit) : List α → PricingTx Unit
  | [] => return ()
  | a :: rest => do
      insert a
      insertEach insert rest

/-- `put_template_ranges`, under the ids the sequence draws. -/
def putTemplateRanges (templateId : Int) (ranges : List ModuleRangeWriteIn) (newId : Nat → Int) :
    PricingTx Unit := do
  let t ← loadTemplateOr404 templateId
  ensureTemplateDraft t
  Prog.ofExcept (validateRangesNoOverlap (ranges.map fun r => (r.minKg, r.maxKg)))
  deleteRanges templateId
  insertEach insertRange (ranges.zipIdx.map fun (r, i) => r.row templateId (newId i) i)

/-! ## Groups -/

structure ModuleGroupProvinceWriteIn where
  provinceCode : Option String := none
  provinceName : Option String := none
deriving DecidableEq, Repr

def ModuleGroupProvinceWriteIn.key (p : ModuleGroupProvinceWriteIn) : String × String :=
  provinceKey p.provinceCode p.provinceName

structure ModuleGroupWriteIn where
  sortOrder : Option Int := none
  active : Bool := true
  provinces : List ModuleGroupProvinceWriteIn := []
deriving DecidableEq, Repr

/-- The provinces are new to the group and to the others. -/
def checkProvinces (owner : List (String × String)) :
    List (String × String) → List ModuleGroupProvinceWriteIn → Except PricingErr Unit
  | _, [] => .ok ()
  | seen, p :: rest =>
      if p.key ∈ seen then .error (.http 422 "duplicate province in group")
      else if p.key ∈ owner then .error (.http 422 "province already used in another group")
      else checkProvinces owner (p.key :: seen) rest

/-- `validate_group_provinces_unique_in_template`. -/
def validateGroupProvincesUniqueInTemplate (templateId : Int)
    (provinces : List ModuleGroupProvinceWriteIn) (excludeGroupId : Option Int) :
    PricingTx Unit := do
  let groups ← listTemplateGroups templateId
  let others := groups.filter fun g => some g.group.id ≠ excludeGroupId
  let owner := others.flatMap fun g => g.members.map GroupMember.key
  Prog.ofExcept (checkProvinces owner [] provinces)

/-- The rows of the provinces, under the ids the sequence draws. -/
def memberRows (groupId : Int) (newId : Nat → Int) (provinces : List ModuleGroupProvinceWriteIn) :
    List GroupMember :=
  provinces.zipIdx.map fun (p, i) =>
    { id := newId i, groupId := groupId, provinceCode := p.provinceCode, provinceName := p.provinceName }

/-- `generate_group_display_name`. -/
def generateGroupDisplayName (groupId : Int) : String := s!"G-{groupId}"

/-- `create_group`; the name is known once the group has its id. -/
def createGroup (templateId : Int) (payload : ModuleGroupWriteIn) (newGroupId : Int)
    (newMemberId : Nat → Int) : PricingTx Unit := do
  let t ← loadTemplateOr404 templateId
  ensureTemplateDraft t
  validateGroupProvincesUniqueInTemplate templateId payload.provinces none
  insertGroup
    { id := newGroupId, templateId := templateId, name := "__tmp__"
      sortOrder := payload.sortOrder.getD 0, active := payload.active }
  deleteMembers templateId newGroupId
  updateGroupRow templateId newGroupId { name := some (generateGroupDisplayName newGroupId) }
  insertEach (insertMember templateId) (memberRows newGroupId newMemberId payload.provinces)

/-- `update_group`; the group's prices are gone afterwards. -/
def updateGroup (templateId groupId : Int) (payload : ModuleGroupWriteIn)
    (newMemberId : Nat → Int) : PricingTx Unit := do
  let t ← loadTemplateOr404 templateId
  ensureTemplateDraft t
  let g ← loadGroupOr404 templateId groupId
  validateGroupProvincesUniqueInTemplate templateId payload.provinces (some groupId)
  deleteMembers templateId groupId
  deleteCells templateId [groupId]
  updateGroupRow templateId groupId
    { sortOrder := payload.sortOrder.bind (changed g.sortOrder)
      active := changed g.active payload.active }
  insertEach (insertMember templateId) (memberRows groupId newMemberId payload.provinces)

/-- `delete_group`. -/
def deleteGroup (templateId groupId : Int) : PricingTx Unit := do
  let t ← loadTemplateOr404 templateId
  ensureTemplateDraft t
  let _ ← loadGroupOr404 templateId groupId
  deleteGroupRow templateId groupId

/-! ## The matrix -/

structure ModuleMatrixCellWriteIn where
  groupId : Int
  moduleRangeId : Int
  pricingMode : String
  flatAmount : Option ℚ := none
  baseAmount : Option ℚ := none
  ratePerKg : Option ℚ := none
  baseKg : Option ℚ := none
  active : Bool := true
deriving DecidableEq

def ModuleMatrixCellWriteIn.row (id : Int) (c : ModuleMatrixCellWriteIn) : MatrixCell where
  id := id
  groupId := c.groupId
  moduleRangeId := c.moduleRangeId
  pricingMode := c.pricingMode
  flatAmount := c.flatAmount.map (numericColumn 2)
  baseAmount := c.baseAmount.map (numericColumn 2)
  ratePerKg := c.ratePerKg.map (numericColumn 4)
  baseKg := c.baseKg.map (numericColumn 3)
  active := c.active

/-- Every cell names a group and a range of the template. -/
def checkCellPlaces (groupIds rangeIds : List Int) : List ModuleMatrixCellWriteIn → Except PricingErr Unit
  | [] => .ok ()
  | c :: rest =>
      if c.groupId ∉ groupIds then
        .error (.http 422 s!"group_id {c.groupId} does not belong to template")
      else if c.moduleRangeId ∉ rangeIds then
        .error (.http 422 s!"module_range_id {c.moduleRangeId} does not belong to template")
      else checkCellPlaces groupIds rangeIds rest

/-- `put_template_matrix_cells`. -/
def putTemplateMatrixCells (templateId : Int) (cells : List ModuleMatrixCellWriteIn)
    (newId : Nat → Int) : PricingTx Unit := do
  let t ← loadTemplateOr404 templateId
  ensureTemplateDraft t
  let groups ← listTemplateGroups templateId
  let ranges ← listTemplateRanges templateId
  let groupIds := groups.map (·.group.id)
  Prog.ofExcept (checkCellPlaces groupIds (ranges.map ModuleRange.id) cells)
  deleteCells templateId groupIds
  insertEach (insertCell templateId) (cells.zipIdx.map fun (c, i) => c.row (newId i))

/-! ## Validation -/

/-- The structure that was looked at. -/
structure TemplateShape where
  ranges : List ModuleRange
  groups : List LoadedGroup
  cells : List MatrixCell
deriving DecidableEq

/-- `validate_template_ready_for_binding`, with the structure it looked at. -/
def validateTemplateReadyForBinding (templateId : Int) : PricingTx TemplateShape := do
  let _ ← loadTemplateOr404 templateId
  let ranges ← listTemplateRanges templateId
  let groups ← listTemplateGroups templateId
  Prog.require (ranges ≠ []) (.http 422 "template has no weight ranges")
  Prog.require (groups ≠ []) (.http 422 "template has no destination groups")
  let cells ← listTemplateMatrixCells templateId
  Prog.require (cells.length = ranges.length * groups.length)
    (.http 422 "template pricing matrix incomplete")
  return ⟨ranges, groups, cells⟩

/-- `submit_validation`, with the structure it validated. -/
def submitValidation (templateId : Int) (confirmValidated : Bool) (userId newRecordId : Int) :
    PricingTx TemplateShape := do
  Prog.require (confirmValidated = true) (.http 400 "confirm_validated must be true")
  let t ← loadTemplateOr404 templateId
  let stats ← buildTemplateStats templateId
  let caps := buildTemplateCapabilities t stats
  if caps.canSubmitValidation then do
    let shape ← validateTemplateReadyForBinding templateId
    updateTemplateRow templateId { validationStatus := changed t.validationStatus .passed }
    insertValidationRecord { id := newRecordId, templateId := templateId, operatorUserId := userId }
    return shape
  else
    match caps.readonlyReason with
    | some .archivedTemplate =>
        Prog.raise (.http 400 "Archived template cannot be validated; clone a new draft to continue")
    | some .validatedTemplate => Prog.raise (.http 400 "Template already validated")
    | _ => Prog.raise (.http 400 "Template cannot submit validation in current state")

end WmsDu
