import WmsDu.Pricing.Templates

/-!
# Cloning a price template

`clone_template`: a new draft with copies of every row under the source. The
rows of each table are copied in a sorted order, so the ids the sequences draw
for them follow that order.
-/

namespace WmsDu

open Txn

/-- What the sequences draw for a clone. -/
structure CloneIds where
  template : Int
  ranges : Nat → Int
  groups : Nat → Int
  members : Nat → Int
  cells : Nat → Int
  configs : Nat → Int
  cities : Nat → Int

/-- The tree under a template, as the session loads it. -/
structure TemplateTree where
  template : PricingTemplate
  ranges : List ModuleRange
  groups : List DestinationGroup
  members : List GroupMember
  cells : List MatrixCell
  cellRanges : List ModuleRange
  configs : List SurchargeConfig
  cities : List SurchargeCity

/-- `_load_template_for_clone_or_404`. -/
def loadTemplateForClone (templateId : Int) : PricingTx TemplateTree := do
  let template ← loadTemplateOr404 templateId
  let ranges ← Prog.read fun db => db.rangesOf templateId
  let groups ← Prog.read fun db => db.groupsOf templateId
  let members ← Prog.read fun db =>
    db.members.rows.filter fun m => m.groupId ∈ groups.map DestinationGroup.id
  let cells ← Prog.read fun db =>
    db.cells.rows.filter fun c => c.groupId ∈ groups.map DestinationGroup.id
  let cellRanges ← Prog.read fun db =>
    db.ranges.rows.filter fun r => r.id ∈ cells.map MatrixCell.moduleRangeId
  let configs ← Prog.read fun db => db.configsOf templateId
  let cities ← Prog.read fun db =>
    db.cities.rows.filter fun c => c.configId ∈ configs.map SurchargeConfig.id
  return { template, ranges, groups, members, cells, cellRanges, configs, cities }

/-- `_derive_clone_expected_counts`. -/
def deriveCloneExpectedCounts (source : TemplateTree) : Except PricingErr (Int × Int) := do
  let ranges : Int :=
    if 0 < source.ranges.length then source.ranges.length else source.template.expectedRangesCount
  let groups : Int :=
    if 0 < source.groups.length then source.groups.length else source.template.expectedGroupsCount
  demand (0 < ranges) (.http 400 "Source template has invalid expected_ranges_count for clone")
  demand (0 < groups) (.http 400 "Source template has invalid expected_groups_count for clone")
  return (ranges, groups)

/-- The id the `i`-th copied row gets for an old one. -/
def copiedId (olds : List Int) (newId : Nat → Int) (old : Int) : Option Int :=
  if old ∈ olds then some (newId (olds.idxOf old)) else none

namespace TemplateTree
variable (source : TemplateTree)

def sortedRanges : List ModuleRange := sortOn ModuleRange.order source.ranges

def sortedGroups : List DestinationGroup := sortOn DestinationGroup.order source.groups

def sortedConfigs : List SurchargeConfig := sortOn SurchargeConfig.order source.configs

def sortedMembers (g : DestinationGroup) : List GroupMember :=
  sortOn GroupMember.order (source.members.filter fun m => m.groupId = g.id)

def cellOrder (c : MatrixCell) : Int ×ₗ Int ×ₗ Int :=
  toLex (((source.cellRanges.find? fun r => r.id = c.moduleRangeId).map (·.sortOrder)).getD 0,
    toLex (c.moduleRangeId, c.id))

def sortedCells (g : DestinationGroup) : List MatrixCell :=
  sortOn source.cellOrder (source.cells.filter fun c => c.groupId = g.id)

def sortedCities (cfg : SurchargeConfig) : List SurchargeCity :=
  sortOn SurchargeCity.order (source.cities.filter fun c => c.configId = cfg.id)

variable (ids : CloneIds)

def newRangeId : Int → Option Int := copiedId (source.sortedRanges.map ModuleRange.id) ids.ranges

def newGroupId : Int → Option Int := copiedId (source.sortedGroups.map DestinationGroup.id) ids.groups

def copiedRanges : List ModuleRange :=
  source.sortedRanges.zipIdx.map fun (r, i) => { r with id := ids.ranges i, templateId := ids.template }

def copiedGroups : List DestinationGroup :=
  source.sortedGroups.zipIdx.map fun (g, i) => { g with id := ids.groups i, templateId := ids.template }

def copiedMembers : List GroupMember :=
  (source.sortedGroups.zipIdx.flatMap fun (g, i) =>
      (source.sortedMembers g).map fun m => (m, ids.groups i)).zipIdx.map fun ((m, groupId), j) =>
    { m with id := ids.members j, groupId := groupId }

/-- The cells in the order they are copied, each with the group it is found
under. -/
def cellsToCopy : List (MatrixCell × Int) :=
  source.sortedGroups.flatMap fun g => (source.sortedCells g).map fun c => (c, g.id)

def copiedCells : Except PricingErr (List MatrixCell) :=
  source.cellsToCopy.zipIdx.mapM fun ((c, groupId), j) =>
    match source.newRangeId ids c.moduleRangeId, source.newGroupId ids groupId with
    | some rangeId, some groupId =>
        .ok { c with id := ids.cells j, groupId := groupId, moduleRangeId := rangeId }
    | _, _ => .error (.http 500 "template clone range/group map broken")

def copiedConfigs : List SurchargeConfig :=
  source.sortedConfigs.zipIdx.map fun (c, i) =>
    { c with id := ids.configs i, templateId := ids.template }

def copiedCities : List SurchargeCity :=
  (source.sortedConfigs.zipIdx.flatMap fun (cfg, i) =>
      (source.sortedCities cfg).map fun c => (c, ids.configs i)).zipIdx.map fun ((c, configId), j) =>
    { c with id := ids.cities j, configId := configId }

end TemplateTree

/-- `_clone_template_tree`; the session writes the rows of a table in the order
in which they were added. -/
def cloneTemplateTree (source : TemplateTree) (ids : CloneIds) : PricingTx Unit := do
  insertEach insertRange (source.copiedRanges ids)
  insertEach insertGroup (source.copiedGroups ids)
  insertEach (insertMember ids.template) (source.copiedMembers ids)
  let cells ← Prog.ofExcept (source.copiedCells ids)
  insertEach (insertCell ids.template) cells
  insertEach insertConfig (source.copiedConfigs ids)
  insertEach insertCity (source.copiedCities ids)

/-- `clone_template`. -/
def cloneTemplate (templateId : Int) (name : Option String) (ids : CloneIds) : PricingTx Unit := do
  let source ← loadTemplateForClone templateId
  let (ranges, groups) ← Prog.ofExcept (deriveCloneExpectedCounts source)
  let name ←
    match name.bind orNone with
    | some name => Prog.ofExcept (normNonempty (some name) "name")
    | none => pure s!"{source.template.name}-副本"
  insertTemplate
    { id := ids.template, shippingProviderId := source.template.shippingProviderId
      sourceTemplateId := some source.template.id, name := name
      expectedRangesCount := ranges, expectedGroupsCount := groups }
  cloneTemplateTree source ids

end WmsDu
