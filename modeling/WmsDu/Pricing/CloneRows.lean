import WmsDu.Data.Renaming
import WmsDu.Pricing.QuoteCopies
import WmsDu.Pricing.Writes

/-!
# The rows of a clone

What a clone leaves in each table: the rows that were there, then the copies,
which are the rows under the source with their ids renamed.
-/

namespace WmsDu

open Txn

/-! ## Runs -/

/-- The tree under a template in one state. -/
def PricingDb.treeOf (db : PricingDb) (template : PricingTemplate) : TemplateTree where
  template := template
  ranges := db.rangesOf template.id
  groups := db.groupsOf template.id
  members := db.members.rows.filter fun m => m.groupId ∈ (db.groupsOf template.id).map DestinationGroup.id
  cells := db.cells.rows.filter fun c => c.groupId ∈ (db.groupsOf template.id).map DestinationGroup.id
  cellRanges := db.ranges.rows.filter fun r =>
    r.id ∈ (db.cells.rows.filter fun c =>
      c.groupId ∈ (db.groupsOf template.id).map DestinationGroup.id).map MatrixCell.moduleRangeId
  configs := db.configsOf template.id
  cities := db.cities.rows.filter fun c => c.configId ∈ (db.configsOf template.id).map SurchargeConfig.id

/-- The state after a clone: the copies below their new template, behind the
rows that were there. -/
structure PricingDb.Cloned (db db' : PricingDb) (source : TemplateTree) (ids : CloneIds)
    (row : PricingTemplate) : Prop where
  row_id : row.id = ids.template
  row_provider : row.shippingProviderId = source.template.shippingProviderId
  row_status : row.status = .draft ∧ row.archivedAt = none
  fresh : ¬ db.templates.HasKey ids.template
  providers : db'.providers = db.providers
  templates : db'.templates = db.templates.insert row
  ranges : db'.ranges.rows = db.ranges.rows ++ source.copiedRanges ids
  groups : db'.groups.rows = db.groups.rows ++ source.copiedGroups ids
  members : db'.members.rows = db.members.rows ++ source.copiedMembers ids
  cells : ∃ cells, source.copiedCells ids = .ok cells ∧ db'.cells.rows = db.cells.rows ++ cells
  configs : db'.configs.rows = db.configs.rows ++ source.copiedConfigs ids
  cities : db'.cities.rows = db.cities.rows ++ source.copiedCities ids

section Runs
variable {db db' : PricingDb}

/-- Rows inserted one by one stand behind those of their table, and the rest of
the state stays. -/
private theorem run_insertRows {R : Type} {key : R → Int} {insert : R → PricingTx Unit}
    {record : R → PricingRedo} (hinserts : ∀ r, Inserts (insert r) (record r))
    (put : Table key → PricingDb) {rows : List R} {t : Table key}
    (hfits : ∀ r ∈ rows, ∀ t, (record r).Fits (put t) → ¬ t.HasKey (key r))
    (happly : ∀ r ∈ rows, ∀ t, (record r).apply (put t) = put (t.insert r))
    (hrun : (insertEach insert rows).run (put t) = .ok ((), db')) :
    ∃ t', db' = put t' ∧ t'.rows = t.rows ++ rows := by
  induction rows generalizing t with
  | nil =>
      cases hrun
      exact ⟨t, rfl, (List.append_nil _).symm⟩
  | cons r rows ih =>
      obtain ⟨_, w, hfirst, hrest⟩ := Prog.run_bind_ok.mp hrun
      obtain ⟨hfit, rfl⟩ := (hinserts r).run hfirst
      rw [happly r List.mem_cons_self] at hrest
      obtain ⟨t', rfl, hrows⟩ := ih (fun s hs => hfits s (List.mem_cons_of_mem _ hs))
        (fun s hs => happly s (List.mem_cons_of_mem _ hs)) hrest
      refine ⟨t', rfl, ?_⟩
      rw [hrows, Table.rows_insert_new (hfits r List.mem_cons_self t hfit), List.append_assoc,
        List.singleton_append]

theorem run_loadTemplateForClone {t : Int} {source : TemplateTree}
    (hrun : (loadTemplateForClone t).run db = .ok (source, db')) :
    (∃ s, db.templates.lookup t = some s ∧ source = db.treeOf s) ∧ db' = db := by
  obtain ⟨s, _, hload, hrun⟩ := Prog.run_bind_ok.mp hrun
  obtain ⟨_, _, hread, hload⟩ := Prog.run_bind_ok.mp hload
  cases hread
  obtain ⟨hlookup, rfl⟩ := Prog.run_requireSome_ok.mp hload
  obtain ⟨-, rfl⟩ := Table.lookup_eq_some.mp hlookup
  cases hrun
  exact ⟨⟨s, hlookup, rfl⟩, rfl⟩

/-- A copied member lies in a group that was copied. -/
private theorem copiedMembers_group {source : TemplateTree} {ids : CloneIds} {m : GroupMember}
    (hm : m ∈ source.copiedMembers ids) : ∃ g ∈ source.copiedGroups ids, g.id = m.groupId := by
  obtain ⟨⟨⟨old, groupId⟩, j⟩, hx, rfl⟩ := List.mem_map.mp hm
  obtain ⟨⟨g, i⟩, hg, hold⟩ := List.mem_flatMap.mp (List.fst_mem_of_mem_zipIdx hx)
  obtain ⟨_, -, heq⟩ := List.mem_map.mp hold
  cases heq
  exact ⟨_, List.mem_map_of_mem hg, rfl⟩

/-- A copied row carries the id that is drawn for an old one. -/
private theorem exists_of_copiedId {R : Type} {key : R → Int} {newId : Nat → Int} {rows : List R}
    (copy : R → Int → R) (hcopy : ∀ r id, key (copy r id) = id) {old id : Int}
    (h : copiedId (rows.map key) newId old = some id) :
    ∃ r ∈ rows.zipIdx.map fun x => copy x.1 (newId x.2), key r = id := by
  unfold copiedId at h
  split at h
  · rename_i hold
    cases h
    have hlt : (rows.map key).idxOf old < rows.zipIdx.length := by
      simpa using List.idxOf_lt_length_iff.mpr hold
    refine ⟨_, List.mem_map_of_mem (List.getElem_mem hlt), ?_⟩
    rw [hcopy, List.getElem_zipIdx, Nat.zero_add]
  · cases h

/-- A copied cell lies in a group and a range that were copied. -/
private theorem copiedCells_place {source : TemplateTree} {ids : CloneIds} {cells : List MatrixCell}
    (hcells : source.copiedCells ids = .ok cells) {c : MatrixCell} (hc : c ∈ cells) :
    (∃ g ∈ source.copiedGroups ids, g.id = c.groupId) ∧
      ∃ r ∈ source.copiedRanges ids, r.id = c.moduleRangeId := by
  obtain ⟨⟨⟨old, groupId⟩, j⟩, -, hcopy⟩ := exists_of_forall₂ (forall₂_of_mapM hcells) hc
  dsimp only at hcopy
  split at hcopy
  · rename_i rangeId groupId' hrange hgroup
    cases hcopy
    exact ⟨exists_of_copiedId
        (fun (g : DestinationGroup) id => { g with id := id, templateId := ids.template })
        (fun _ _ => rfl) hgroup,
      exists_of_copiedId (fun (r : ModuleRange) id => { r with id := id, templateId := ids.template })
        (fun _ _ => rfl) hrange⟩
  · cases hcopy

/-- The tree is copied table by table, each below what was copied before. -/
private theorem run_cloneTemplateTree {source : TemplateTree} {ids : CloneIds}
    {row : PricingTemplate}
    (hrun : (cloneTemplateTree source ids).run { db with templates := db.templates.insert row } =
      .ok ((), db')) (hrow : row.id = ids.template)
    (hprovider : row.shippingProviderId = source.template.shippingProviderId)
    (hstatus : row.status = .draft ∧ row.archivedAt = none)
    (hfresh : ¬ db.templates.HasKey ids.template) : db.Cloned db' source ids row := by
  obtain ⟨_, _, hrunRanges, hrun⟩ := Prog.run_bind_ok.mp hrun
  obtain ⟨ranges, rfl, hranges⟩ := run_insertRows inserts_range
    (fun t => { db with templates := db.templates.insert row, ranges := t })
    (fun _ _ _ h => h.1) (fun _ _ _ => rfl) hrunRanges
  obtain ⟨_, _, hrunGroups, hrun⟩ := Prog.run_bind_ok.mp hrun
  obtain ⟨groups, rfl, hgroups⟩ := run_insertRows inserts_group
    (fun t => { db with templates := db.templates.insert row, ranges, groups := t })
    (fun _ _ _ h => h.1) (fun _ _ _ => rfl) hrunGroups
  -- members and cells are written below the template their parents were copied to
  have hgroup : ∀ id, (∃ g ∈ source.copiedGroups ids, g.id = id) →
      ∃ g ∈ groups.rows, g.id = id ∧ g.templateId = ids.template := by
    rintro id ⟨g, hg, hid⟩
    refine ⟨g, hgroups ▸ List.mem_append_right _ hg, hid, ?_⟩
    obtain ⟨_, -, rfl⟩ := List.mem_map.mp hg
    rfl
  have hrange : ∀ id, (∃ r ∈ source.copiedRanges ids, r.id = id) →
      ∃ r ∈ ranges.rows, r.id = id ∧ r.templateId = ids.template := by
    rintro id ⟨r, hr, hid⟩
    refine ⟨r, hranges ▸ List.mem_append_right _ hr, hid, ?_⟩
    obtain ⟨_, -, rfl⟩ := List.mem_map.mp hr
    rfl
  obtain ⟨_, _, hrunMembers, hrun⟩ := Prog.run_bind_ok.mp hrun
  obtain ⟨members, rfl, hmembers⟩ := run_insertRows (inserts_member ids.template)
    (fun t => { db with templates := db.templates.insert row, ranges, groups, members := t })
    (fun _ _ _ h => h.1) (fun m hm _ => if_pos (hgroup _ (copiedMembers_group hm))) hrunMembers
  obtain ⟨cells, _, hrunCopies, hrun⟩ := Prog.run_bind_ok.mp hrun
  obtain ⟨hcopies, rfl⟩ := Prog.run_ofExcept_ok.mp hrunCopies
  obtain ⟨_, _, hrunCells, hrun⟩ := Prog.run_bind_ok.mp hrun
  have hplace := fun c hc => (copiedCells_place hcopies (c := c) hc).imp (hgroup _) (hrange _)
  obtain ⟨cellTable, rfl, hcells⟩ := run_insertRows (inserts_cell ids.template)
    (fun t => { db with templates := db.templates.insert row, ranges, groups, members, cells := t })
    (fun _ _ _ h => h.1) (fun c hc _ => if_pos (hplace c hc)) hrunCells
  obtain ⟨_, _, hrunConfigs, hrunCities⟩ := Prog.run_bind_ok.mp hrun
  obtain ⟨configs, rfl, hconfigs⟩ := run_insertRows inserts_config
    (fun t => { db with
      templates := db.templates.insert row, ranges, groups, members, cells := cellTable, configs := t })
    (fun _ _ _ h => h.1) (fun _ _ _ => rfl) hrunConfigs
  obtain ⟨cities, rfl, hcities⟩ := run_insertRows inserts_city
    (fun t => { db with
      templates := db.templates.insert row, ranges, groups, members, cells := cellTable, configs
      cities := t })
    (fun _ _ _ h => h.1) (fun _ _ _ => rfl) hrunCities
  exact {
    row_id := hrow, row_provider := hprovider, row_status := hstatus, fresh := hfresh
    providers := rfl, templates := rfl, ranges := hranges, groups := hgroups, members := hmembers
    cells := ⟨cells, hcopies, hcells⟩, configs := hconfigs, cities := hcities }

/-- What a clone of a template leaves. -/
theorem run_cloneTemplate {t : Int} {name : Option String} {ids : CloneIds}
    (hrun : (cloneTemplate t name ids).run db = .ok ((), db')) :
    ∃ s row, db.templates.lookup t = some s ∧ db.Cloned db' (db.treeOf s) ids row := by
  obtain ⟨source, _, hload, hrun⟩ := Prog.run_bind_ok.mp hrun
  obtain ⟨⟨s, hs, rfl⟩, rfl⟩ := run_loadTemplateForClone hload
  obtain ⟨counts, _, hcounts, hrun⟩ := Prog.run_bind_ok.mp hrun
  obtain ⟨-, rfl⟩ := Prog.run_ofExcept_ok.mp hcounts
  have htail : ∀ {db₀ : PricingDb} {row : PricingTemplate},
      (do insertTemplate row; cloneTemplateTree (db₀.treeOf s) ids : PricingTx Unit).run db₀ =
        .ok ((), db') → row.id = ids.template → row.shippingProviderId = s.shippingProviderId →
      row.status = .draft ∧ row.archivedAt = none → ∃ row, db₀.Cloned db' (db₀.treeOf s) ids row := by
    intro db₀ row hrun hrow hprovider hstatus
    obtain ⟨_, _, hinsert, hrun⟩ := Prog.run_bind_ok.mp hrun
    obtain ⟨hfresh, rfl⟩ := (inserts_template row).run hinsert
    exact ⟨row, run_cloneTemplateTree hrun hrow hprovider hstatus (hrow ▸ hfresh)⟩
  dsimp only at hrun
  split at hrun
  · obtain ⟨_, _, hname, hrun⟩ := Prog.run_bind_ok.mp hrun
    obtain ⟨-, rfl⟩ := Prog.run_ofExcept_ok.mp hname
    obtain ⟨row, hcloned⟩ := htail hrun rfl rfl ⟨rfl, rfl⟩
    exact ⟨s, row, hs, hcloned⟩
  · obtain ⟨_, _, hname, hrun⟩ := Prog.run_bind_ok.mp hrun
    cases hname
    obtain ⟨row, hcloned⟩ := htail hrun rfl rfl ⟨rfl, rfl⟩
    exact ⟨s, row, hs, hcloned⟩

end Runs

/-! ## Copies -/

section Copies
variable (f : CopiedIds) (t : Int)

def ModuleRange.copied (r : ModuleRange) : ModuleRange :=
  { r with id := f.range r.id, templateId := t }

def DestinationGroup.copied (g : DestinationGroup) : DestinationGroup :=
  { g with id := f.group g.id, templateId := t }

def GroupMember.copied (m : GroupMember) : GroupMember :=
  { m with id := f.member m.id, groupId := f.group m.groupId }

def MatrixCell.copied (c : MatrixCell) : MatrixCell :=
  { c with id := f.cell c.id, groupId := f.group c.groupId, moduleRangeId := f.range c.moduleRangeId }

def SurchargeConfig.copied (c : SurchargeConfig) : SurchargeConfig :=
  { c with id := f.config c.id, templateId := t }

def SurchargeCity.copied (c : SurchargeCity) : SurchargeCity :=
  { c with id := f.city c.id, configId := f.config c.configId }

end Copies

namespace TemplateTree

/-- The rows of the tree carry different ids. -/
structure Keyed (source : TemplateTree) : Prop where
  ranges : (source.ranges.map ModuleRange.id).Nodup
  groups : (source.groups.map DestinationGroup.id).Nodup
  members : (source.members.map GroupMember.id).Nodup
  cells : (source.cells.map MatrixCell.id).Nodup
  configs : (source.configs.map SurchargeConfig.id).Nodup
  cities : (source.cities.map SurchargeCity.id).Nodup

/-- What the copies of a tree's rows are called. -/
def copiedIds (source : TemplateTree) (ids : CloneIds) : CopiedIds where
  group := renamed (source.sortedGroups.map DestinationGroup.id) ids.groups
  member := renamed ((source.sortedGroups.flatMap source.sortedMembers).map GroupMember.id) ids.members
  range := renamed (source.sortedRanges.map ModuleRange.id) ids.ranges
  cell := renamed ((source.sortedGroups.flatMap source.sortedCells).map MatrixCell.id) ids.cells
  config := renamed (source.sortedConfigs.map SurchargeConfig.id) ids.configs
  city := renamed ((source.sortedConfigs.flatMap source.sortedCities).map SurchargeCity.id) ids.cities

theorem keyed_treeOf (db : PricingDb) (s : PricingTemplate) : (db.treeOf s).Keyed where
  ranges := (List.filter_sublist.map _).nodup db.ranges.nodup
  groups := (List.filter_sublist.map _).nodup db.groups.nodup
  members := (List.filter_sublist.map _).nodup db.members.nodup
  cells := (List.filter_sublist.map _).nodup db.cells.nodup
  configs := (List.filter_sublist.map _).nodup db.configs.nodup
  cities := (List.filter_sublist.map _).nodup db.cities.nodup

private theorem nodup_sorted {R K : Type} [LinearOrder K] {id : R → Int} {order : R → K} {rows : List R}
    (hrows : (rows.map id).Nodup) : ((sortOn order rows).map id).Nodup :=
  ((perm_sortOn order rows).map id).nodup_iff.mpr hrows

/-- The children of all parents, in the order in which they are copied, carry
different ids. -/
private theorem nodup_children {P C K : Type} [LinearOrder K] {key : P → Int} {id parent : C → Int}
    {order : C → K} {ps : List P} {rows : List C} (hps : (ps.map key).Nodup)
    (hrows : (rows.map id).Nodup) :
    ((ps.flatMap fun p => sortOn order (rows.filter fun c => parent c = key p)).map id).Nodup := by
  refine nodup_flatMap_of_key id parent hps (fun p _ c hc => ?_) (fun p _ q _ c hc d hd heq => ?_) fun p _ => ?_
  · exact of_decide_eq_true (List.mem_filter.mp (mem_sortOn.mp hc)).2
  · have hmem : ∀ {r : P} {c : C}, c ∈ sortOn order (rows.filter fun c => parent c = key r) →
        c ∈ rows := fun hc => (List.mem_filter.mp (mem_sortOn.mp hc)).1
    rw [List.inj_on_of_nodup_map hrows (hmem hc) (hmem hd) heq]
  · exact nodup_sorted ((List.filter_sublist.map id).nodup hrows)

private theorem renamed_of_copiedId {olds : List Int} {newId : Nat → Int} {old id : Int}
    (h : copiedId olds newId old = some id) : id = renamed olds newId old := by
  unfold copiedId at h
  split at h
  · cases h
    rfl
  · cases h

theorem mem_sortedMembers {source : TemplateTree} {g : DestinationGroup} {m : GroupMember} :
    m ∈ source.sortedMembers g ↔ m ∈ source.members ∧ m.groupId = g.id := by
  simp [sortedMembers]

theorem mem_sortedCells {source : TemplateTree} {g : DestinationGroup} {c : MatrixCell} :
    c ∈ source.sortedCells g ↔ c ∈ source.cells ∧ c.groupId = g.id := by
  simp [sortedCells]

theorem mem_sortedCities {source : TemplateTree} {cfg : SurchargeConfig} {c : SurchargeCity} :
    c ∈ source.sortedCities cfg ↔ c ∈ source.cities ∧ c.configId = cfg.id := by
  simp [sortedCities]

section Keyed
variable {source : TemplateTree} {ids : CloneIds} (h : source.Keyed)
include h

theorem Keyed.sortedRanges : (source.sortedRanges.map ModuleRange.id).Nodup := nodup_sorted h.ranges

theorem Keyed.sortedGroups : (source.sortedGroups.map DestinationGroup.id).Nodup :=
  nodup_sorted h.groups

theorem Keyed.sortedConfigs : (source.sortedConfigs.map SurchargeConfig.id).Nodup :=
  nodup_sorted h.configs

theorem Keyed.sortedMembers :
    ((source.sortedGroups.flatMap source.sortedMembers).map GroupMember.id).Nodup :=
  nodup_children h.sortedGroups h.members

theorem Keyed.sortedCells :
    ((source.sortedGroups.flatMap source.sortedCells).map MatrixCell.id).Nodup :=
  nodup_children h.sortedGroups h.cells

theorem Keyed.sortedCities :
    ((source.sortedConfigs.flatMap source.sortedCities).map SurchargeCity.id).Nodup :=
  nodup_children h.sortedConfigs h.cities

theorem Keyed.copiedRanges :
    source.copiedRanges ids =
      source.sortedRanges.map (·.copied (source.copiedIds ids) ids.template) :=
  zipIdx_map_renamed ids.ranges h.sortedRanges
    fun r id => ({ r with id := id, templateId := ids.template } : ModuleRange)

theorem Keyed.copiedGroups :
    source.copiedGroups ids =
      source.sortedGroups.map (·.copied (source.copiedIds ids) ids.template) :=
  zipIdx_map_renamed ids.groups h.sortedGroups
    fun g id => ({ g with id := id, templateId := ids.template } : DestinationGroup)

theorem Keyed.copiedConfigs :
    source.copiedConfigs ids =
      source.sortedConfigs.map (·.copied (source.copiedIds ids) ids.template) :=
  zipIdx_map_renamed ids.configs h.sortedConfigs
    fun c id => ({ c with id := id, templateId := ids.template } : SurchargeConfig)

theorem Keyed.copiedMembers :
    source.copiedMembers ids =
      (source.sortedGroups.flatMap source.sortedMembers).map (·.copied (source.copiedIds ids)) :=
  zipIdx_children_renamed ids.groups ids.members h.sortedGroups
    (fun _ _ _ hm => (mem_sortedMembers.mp hm).2) h.sortedMembers
    fun m groupId id => ({ m with id := id, groupId := groupId } : GroupMember)

theorem Keyed.copiedCities :
    source.copiedCities ids =
      (source.sortedConfigs.flatMap source.sortedCities).map (·.copied (source.copiedIds ids)) :=
  zipIdx_children_renamed ids.configs ids.cities h.sortedConfigs
    (fun _ _ _ hc => (mem_sortedCities.mp hc).2) h.sortedCities
    fun c configId id => ({ c with id := id, configId := configId } : SurchargeCity)

/-- Every cell found a copy of its group and of its range. -/
theorem Keyed.copiedCells {cells : List MatrixCell} (hcells : source.copiedCells ids = .ok cells) :
    cells = (source.sortedGroups.flatMap source.sortedCells).map (·.copied (source.copiedIds ids)) := by
  let f := source.copiedIds ids
  have hflat : source.cellsToCopy =
      (source.sortedGroups.flatMap source.sortedCells).map fun c => (c, c.groupId) := by
    rw [cellsToCopy, List.map_flatMap]
    refine List.flatMap_congr fun g _ => List.map_congr_left fun c hc => ?_
    rw [(mem_sortedCells.mp hc).2]
  have hcopies : cells = source.cellsToCopy.zipIdx.map fun x =>
      { x.1.1 with
        id := ids.cells x.2, groupId := f.group x.1.2, moduleRangeId := f.range x.1.1.moduleRangeId } := by
    refine (List.forall₂_eq_eq_eq ▸ List.forall₂_map_left_iff.mpr ?_ : _ = cells).symm
    refine (forall₂_of_mapM hcells).imp fun x c hc => ?_
    obtain ⟨⟨old, groupId⟩, j⟩ := x
    dsimp only at hc
    split at hc
    · rename_i rangeId groupId' hrange hgroup
      cases hc
      rw [renamed_of_copiedId hrange, renamed_of_copiedId hgroup]
      rfl
    · cases hc
  rw [hcopies, hflat, List.zipIdx_map, List.map_map]
  exact zipIdx_map_renamed ids.cells h.sortedCells fun c id =>
    ({ c with id := id, groupId := f.group c.groupId, moduleRangeId := f.range c.moduleRangeId } : MatrixCell)

end Keyed

end TemplateTree

end WmsDu
