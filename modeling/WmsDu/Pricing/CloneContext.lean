import WmsDu.Pricing.CloneRows

/-!
# The context of a clone

What a quote loads of a cloned template is the copy of what it loads of the
source: the copies are found below their copied parents, and unique columns
keep them in the order of the rows they were copied from.
-/

namespace WmsDu

open Txn

/-! ## Trees -/

section Trees
variable {db : PricingDb} {s : PricingTemplate}

theorem PricingDb.treeOf_sortedMembers {g : DestinationGroup} (hg : g ∈ db.groupsOf s.id) :
    (db.treeOf s).sortedMembers g = sortOn GroupMember.order (db.membersOf g.id) := by
  unfold TemplateTree.sortedMembers PricingDb.membersOf
  exact congrArg _ (filter_parents_of_mem hg)

theorem PricingDb.treeOf_sortedCities {cfg : SurchargeConfig} (hcfg : cfg ∈ db.configsOf s.id) :
    (db.treeOf s).sortedCities cfg = sortOn SurchargeCity.order (db.citiesOf cfg.id) := by
  unfold TemplateTree.sortedCities PricingDb.citiesOf
  exact congrArg _ (filter_parents_of_mem hcfg)

/-- The session finds the range of a cell it has loaded. -/
theorem PricingDb.treeOf_cellOrder {c : MatrixCell} (hc : c ∈ (db.treeOf s).cells) :
    (db.treeOf s).cellOrder c = db.cellOrder c := by
  have hfind : (db.treeOf s).cellRanges.find? (fun r => r.id = c.moduleRangeId) =
      db.ranges.lookup c.moduleRangeId := by
    refine List.find?_filter.trans (congrArg (List.find? · db.ranges.rows) (funext fun r => ?_))
    have hin : r.id = c.moduleRangeId → r.id ∈ (db.treeOf s).cells.map MatrixCell.moduleRangeId :=
      fun heq => heq ▸ List.mem_map_of_mem hc
    simp only [decide_eq_true_eq, decide_eq_decide, and_iff_right_iff_imp]
    exact hin
  unfold TemplateTree.cellOrder PricingDb.cellOrder
  rw [hfind]

theorem PricingDb.treeOf_sortedCells {g : DestinationGroup} (hg : g ∈ db.groupsOf s.id) :
    (db.treeOf s).sortedCells g = sortOn db.cellOrder (db.cellsOfGroup g.id) := by
  have hfilter : (db.treeOf s).cells.filter (fun c => c.groupId = g.id) = db.cellsOfGroup g.id :=
    filter_parents_of_mem hg
  rw [TemplateTree.sortedCells, hfilter]
  refine sortOn_congr fun c hc d hd => ?_
  rw [← hfilter] at hc hd
  rw [treeOf_cellOrder (List.mem_of_mem_filter hc), treeOf_cellOrder (List.mem_of_mem_filter hd)]

end Trees

/-! ## Rows below the clone -/

section Rows
variable {db db' : PricingDb} {s row : PricingTemplate} {ids : CloneIds}

/-- Rows that were there are outside a selection, copies inside. -/
private theorem filter_copies {R : Type} {p : R → Prop} [DecidablePred p] {rows olds copies : List R}
    (h : rows = olds ++ copies) (holds : ∀ r ∈ olds, ¬ p r) (hcopies : ∀ r ∈ copies, p r) :
    rows.filter (p ·) = copies := by
  have hnone : olds.filter (p ·) = [] :=
    List.filter_eq_nil_iff.mpr fun r hr hp => holds r hr (of_decide_eq_true hp)
  rw [h, List.filter_append, hnone, List.nil_append, List.filter_eq_self]
  exact fun r hr => decide_eq_true (hcopies r hr)

/-- Copies are outside a selection. -/
private theorem filter_olds {R : Type} {p : R → Prop} [DecidablePred p] {rows olds copies : List R}
    (h : rows = olds ++ copies) (hcopies : ∀ r ∈ copies, ¬ p r) :
    rows.filter (p ·) = olds.filter (p ·) := by
  have hnone : copies.filter (p ·) = [] :=
    List.filter_eq_nil_iff.mpr fun r hr hp => hcopies r hr (of_decide_eq_true hp)
  rw [h, List.filter_append, hnone, List.append_nil]

/-- The ids of copies differ from each other and from the ids that were there. -/
private theorem ids_of_copies {R : Type} {key : R → Int} {t t' : Table key} {copies : List R}
    (h : t'.rows = t.rows ++ copies) :
    (copies.map key).Nodup ∧ ∀ id, t.HasKey id → id ∉ copies.map key := by
  have hnodup := t'.nodup
  rw [h, List.map_append, List.nodup_append] at hnodup
  refine ⟨hnodup.2.1, ?_⟩
  rintro _ ⟨r, hr, rfl⟩ hin
  exact hnodup.2.2 _ (List.mem_map_of_mem hr) _ hin rfl

/-- What a loaded context lists. -/
theorem PricingDb.of_load {t : Int} {ctx : QuoteCalcContext}
    (hload : loadTemplateQuoteContext db t = .ok ctx) :
    ctx.groups = (sortOn DestinationGroup.order (db.groupsOf t)).map db.groupContext ∧
    ctx.surchargeConfigs = (sortOn SurchargeConfig.order (db.configsOf t)).map db.surchargeContext ∧
    ((sortOn DestinationGroup.order (db.groupsOf t)).flatMap fun g =>
      sortOn db.cellOrder (db.cellsOfGroup g.id)).mapM db.matrixContext = .ok ctx.matrixRows := by
  obtain ⟨s, -, hload⟩ := bind_eq_ok.mp hload
  obtain ⟨_, -, hload⟩ := bind_eq_ok.mp hload
  obtain ⟨rows, hrows, hload⟩ := bind_eq_ok.mp hload
  cases hload
  exact ⟨rfl, rfl, hrows⟩

namespace PricingDb.Cloned
variable (h : db.Cloned db' (db.treeOf s) ids row) (hdb : db.Admitted)
include h

/-- The copies of the groups have ids of their own. -/
theorem groupIds :
    ((db.treeOf s).sortedGroups.map fun g => ((db.treeOf s).copiedIds ids).group g.id).Nodup ∧
      ∀ g ∈ (db.treeOf s).sortedGroups,
        ¬ db.groups.HasKey (((db.treeOf s).copiedIds ids).group g.id) := by
  have hids := ids_of_copies h.groups
  rw [(TemplateTree.keyed_treeOf db s).copiedGroups, List.map_map] at hids
  exact ⟨hids.1, fun g hg hkey => hids.2 _ hkey (List.mem_map_of_mem hg)⟩

theorem configIds :
    ((db.treeOf s).sortedConfigs.map fun c => ((db.treeOf s).copiedIds ids).config c.id).Nodup ∧
      ∀ c ∈ (db.treeOf s).sortedConfigs,
        ¬ db.configs.HasKey (((db.treeOf s).copiedIds ids).config c.id) := by
  have hids := ids_of_copies h.configs
  rw [(TemplateTree.keyed_treeOf db s).copiedConfigs, List.map_map] at hids
  exact ⟨hids.1, fun c hc hkey => hids.2 _ hkey (List.mem_map_of_mem hc)⟩

/-- The range of a copied cell is the copy of its range. -/
theorem lookup_range {r : ModuleRange} (hr : r ∈ db.rangesOf s.id) :
    db'.ranges.lookup (((db.treeOf s).copiedIds ids).range r.id) =
      some (r.copied ((db.treeOf s).copiedIds ids) ids.template) := by
  refine Table.lookup_eq_some.mpr ⟨?_, rfl⟩
  rw [h.ranges, (TemplateTree.keyed_treeOf db s).copiedRanges]
  exact List.mem_append_right _ (List.mem_map_of_mem (mem_sortOn.mpr hr))

include hdb

theorem groupsOf_clone :
    db'.groupsOf ids.template =
      (db.treeOf s).sortedGroups.map (·.copied ((db.treeOf s).copiedIds ids) ids.template) := by
  rw [← (TemplateTree.keyed_treeOf db s).copiedGroups]
  refine filter_copies h.groups (fun g hg heq => h.fresh (heq ▸ hdb.groups_template g hg)) ?_
  rw [(TemplateTree.keyed_treeOf db s).copiedGroups]
  exact List.forall_mem_map.mpr fun g _ => rfl

theorem configsOf_clone :
    db'.configsOf ids.template =
      (db.treeOf s).sortedConfigs.map (·.copied ((db.treeOf s).copiedIds ids) ids.template) := by
  rw [← (TemplateTree.keyed_treeOf db s).copiedConfigs]
  refine filter_copies h.configs (fun c hc heq => h.fresh (heq ▸ hdb.configs_template c hc)) ?_
  rw [(TemplateTree.keyed_treeOf db s).copiedConfigs]
  exact List.forall_mem_map.mpr fun c _ => rfl

theorem membersOf_clone {g : DestinationGroup} (hg : g ∈ (db.treeOf s).sortedGroups) :
    db'.membersOf (((db.treeOf s).copiedIds ids).group g.id) =
      ((db.treeOf s).sortedMembers g).map (·.copied ((db.treeOf s).copiedIds ids)) := by
  obtain ⟨hnodup, hfresh⟩ := h.groupIds
  rw [membersOf, h.members, (TemplateTree.keyed_treeOf db s).copiedMembers]
  exact filter_copies_of_key GroupMember.groupId _ (fun _ => rfl) hnodup
    (fun _ _ _ hm => (TemplateTree.mem_sortedMembers.mp hm).2) hg
    fun m hm heq => hfresh g hg (heq ▸ hdb.members_group m hm)

theorem cellsOfGroup_clone {g : DestinationGroup} (hg : g ∈ (db.treeOf s).sortedGroups) :
    db'.cellsOfGroup (((db.treeOf s).copiedIds ids).group g.id) =
      ((db.treeOf s).sortedCells g).map (·.copied ((db.treeOf s).copiedIds ids)) := by
  obtain ⟨hnodup, hfresh⟩ := h.groupIds
  obtain ⟨cells, hcells, hrows⟩ := h.cells
  rw [cellsOfGroup, hrows, (TemplateTree.keyed_treeOf db s).copiedCells hcells]
  refine filter_copies_of_key MatrixCell.groupId _ (fun _ => rfl) hnodup
    (fun _ _ _ hc => (TemplateTree.mem_sortedCells.mp hc).2) hg fun c hc heq => hfresh g hg ?_
  obtain ⟨_, ⟨k, hk, hid, -⟩, -⟩ := hdb.placed c hc
  exact ⟨k, hk, hid.trans heq⟩

theorem citiesOf_clone {cfg : SurchargeConfig} (hcfg : cfg ∈ (db.treeOf s).sortedConfigs) :
    db'.citiesOf (((db.treeOf s).copiedIds ids).config cfg.id) =
      ((db.treeOf s).sortedCities cfg).map (·.copied ((db.treeOf s).copiedIds ids)) := by
  obtain ⟨hnodup, hfresh⟩ := h.configIds
  rw [citiesOf, h.cities, (TemplateTree.keyed_treeOf db s).copiedCities]
  exact filter_copies_of_key SurchargeCity.configId _ (fun _ => rfl) hnodup
    (fun _ _ _ hc => (TemplateTree.mem_sortedCities.mp hc).2) hcfg
    fun c hc heq => hfresh cfg hcfg (heq ▸ hdb.cities_config c hc)

/-! ## The context of the clone -/

/-- No two members of a group share a province, so their copies stay sorted. -/
theorem groupContext_clone {g : DestinationGroup} (hg : g ∈ (db.treeOf s).sortedGroups) :
    db'.groupContext (g.copied ((db.treeOf s).copiedIds ids) ids.template) =
      (db.groupContext g).copied ((db.treeOf s).copiedIds ids) := by
  have hin : g ∈ db.groupsOf s.id := mem_sortOn.mp hg
  have hsorted : sortOn GroupMember.order (db'.membersOf (((db.treeOf s).copiedIds ids).group g.id)) =
      (sortOn GroupMember.order (db.membersOf g.id)).map (·.copied ((db.treeOf s).copiedIds ids)) := by
    rw [h.membersOf_clone hdb hg, treeOf_sortedMembers hin]
    refine sortOn_map_sortOn fun a ha b hb hle => ?_
    refine toLex_le_of_ties hle fun hcode hle => toLex_le_of_ties hle fun hname _ => ?_
    obtain ⟨ha, hga⟩ := mem_membersOf.mp ha
    obtain ⟨hb, hgb⟩ := mem_membersOf.mp hb
    have hkey : (a.groupId, a.key) = (b.groupId, b.key) :=
      Prod.ext (hga.trans hgb.symm) (Prod.ext hcode hname)
    rw [hdb.members_key a ha b hb hkey]
  have hmembers : ((sortOn GroupMember.order (db.membersOf g.id)).map
        (·.copied ((db.treeOf s).copiedIds ids))).map GroupMember.context =
      ((sortOn GroupMember.order (db.membersOf g.id)).map GroupMember.context).map
        (·.copied ((db.treeOf s).copiedIds ids)) := by
    rw [List.map_map, List.map_map]
    rfl
  show QuoteGroupContext.mk _ _ _ ((sortOn GroupMember.order (db'.membersOf _)).map _) = _
  exact congrArg _ ((congrArg _ hsorted).trans hmembers)

/-- No two cities of a config share a code. -/
theorem surchargeContext_clone {cfg : SurchargeConfig} (hcfg : cfg ∈ (db.treeOf s).sortedConfigs) :
    db'.surchargeContext (cfg.copied ((db.treeOf s).copiedIds ids) ids.template) =
      (db.surchargeContext cfg).copied ((db.treeOf s).copiedIds ids) := by
  have hin : cfg ∈ db.configsOf s.id := mem_sortOn.mp hcfg
  have hsorted :
      sortOn SurchargeCity.order (db'.citiesOf (((db.treeOf s).copiedIds ids).config cfg.id)) =
        (sortOn SurchargeCity.order (db.citiesOf cfg.id)).map
          (·.copied ((db.treeOf s).copiedIds ids)) := by
    rw [h.citiesOf_clone hdb hcfg, treeOf_sortedCities hin]
    refine sortOn_map_sortOn fun a ha b hb hle => toLex_le_of_ties hle fun hcode _ => ?_
    obtain ⟨ha, hca⟩ := mem_citiesOf.mp ha
    obtain ⟨hb, hcb⟩ := mem_citiesOf.mp hb
    rw [hdb.cities_code a ha b hb (Prod.ext (hca.trans hcb.symm) hcode)]
  have hcities : ((sortOn SurchargeCity.order (db.citiesOf cfg.id)).map
        (·.copied ((db.treeOf s).copiedIds ids))).map SurchargeCity.context =
      ((sortOn SurchargeCity.order (db.citiesOf cfg.id)).map SurchargeCity.context).map
        (·.copied ((db.treeOf s).copiedIds ids)) := by
    rw [List.map_map, List.map_map]
    rfl
  show QuoteSurchargeConfigContext.mk _ _ _ _ _ _ ((sortOn SurchargeCity.order (db'.citiesOf _)).map _) = _
  exact congrArg _ ((congrArg _ hsorted).trans hcities)

omit h in
/-- The range of a cell of the source. -/
theorem range_of_cell {g : DestinationGroup} (hg : g ∈ db.groupsOf s.id) {c : MatrixCell}
    (hc : c ∈ db.cellsOfGroup g.id) : ∃ r ∈ db.rangesOf s.id, r.id = c.moduleRangeId := by
  obtain ⟨hc, hcg⟩ := mem_cellsOfGroup.mp hc
  obtain ⟨t, hgroup, r, hr, hid, ht⟩ := hdb.placed c hc
  have hthis : db.HasGroup s.id c.groupId := hasGroup_iff.mpr ⟨g, hg, hcg.symm⟩
  exact ⟨r, mem_rangesOf.mpr ⟨hr, ht.trans (hgroup.unique hthis)⟩, hid⟩

/-- No two ranges share a sort order, and no two cells of a group a range. -/
theorem sortedCells_clone {g : DestinationGroup} (hg : g ∈ (db.treeOf s).sortedGroups) :
    sortOn db'.cellOrder (db'.cellsOfGroup (((db.treeOf s).copiedIds ids).group g.id)) =
      (sortOn db.cellOrder (db.cellsOfGroup g.id)).map (·.copied ((db.treeOf s).copiedIds ids)) := by
  have hin : g ∈ db.groupsOf s.id := mem_sortOn.mp hg
  rw [h.cellsOfGroup_clone hdb hg, treeOf_sortedCells hin]
  refine sortOn_map_sortOn fun a ha b hb hle => ?_
  obtain ⟨r, hr, hra⟩ := range_of_cell hdb hin ha
  obtain ⟨q, hq, hqb⟩ := range_of_cell hdb hin hb
  have horder : ∀ {c : MatrixCell} {r : ModuleRange}, r ∈ db.rangesOf s.id → r.id = c.moduleRangeId →
      db.cellOrder c = toLex (r.sortOrder, toLex (c.moduleRangeId, c.id)) ∧
      db'.cellOrder (c.copied ((db.treeOf s).copiedIds ids)) = toLex (r.sortOrder,
        toLex (((db.treeOf s).copiedIds ids).range c.moduleRangeId,
          ((db.treeOf s).copiedIds ids).cell c.id)) := by
    intro c r hr hrc
    have hold : db.ranges.lookup c.moduleRangeId = some r :=
      Table.lookup_eq_some.mpr ⟨(mem_rangesOf.mp hr).1, hrc⟩
    have hnew := h.lookup_range hr
    rw [hrc] at hnew
    unfold cellOrder MatrixCell.copied
    rw [hold, hnew]
    exact ⟨rfl, rfl⟩
  rw [(horder hr hra).1, (horder hq hqb).1] at hle
  rw [(horder hr hra).2, (horder hq hqb).2]
  refine toLex_le_of_ties hle fun hsort _ => ?_
  obtain ⟨hr, hrt⟩ := mem_rangesOf.mp hr
  obtain ⟨hq, hqt⟩ := mem_rangesOf.mp hq
  have hrange : r = q := hdb.ranges_order r hr q hq (Prod.ext (hrt.trans hqt.symm) hsort)
  obtain ⟨ha, hag⟩ := mem_cellsOfGroup.mp ha
  obtain ⟨hb, hbg⟩ := mem_cellsOfGroup.mp hb
  have hplace : (a.groupId, a.moduleRangeId) = (b.groupId, b.moduleRangeId) :=
    Prod.ext (hag.trans hbg.symm) (hra.symm.trans ((congrArg _ hrange).trans hqb))
  rw [hdb.cells_place a ha b hb hplace]

/-- The rows of the clone's groups are the copies of the source's. -/
private theorem matrixRows_clone {rows : List QuoteMatrixRowContext}
    (hrows : ((db.treeOf s).sortedGroups.flatMap fun g =>
      sortOn db.cellOrder (db.cellsOfGroup g.id)).mapM db.matrixContext = .ok rows) :
    (((db.treeOf s).sortedGroups.map (·.copied ((db.treeOf s).copiedIds ids) ids.template)).flatMap
      fun g => sortOn db'.cellOrder (db'.cellsOfGroup g.id)).mapM db'.matrixContext =
        .ok (rows.map (·.copied ((db.treeOf s).copiedIds ids))) := by
  have hcells : (((db.treeOf s).sortedGroups.map
        (·.copied ((db.treeOf s).copiedIds ids) ids.template)).flatMap
        fun g => sortOn db'.cellOrder (db'.cellsOfGroup g.id)) =
      ((db.treeOf s).sortedGroups.flatMap fun g =>
        sortOn db.cellOrder (db.cellsOfGroup g.id)).map (·.copied ((db.treeOf s).copiedIds ids)) := by
    rw [List.flatMap_map, List.map_flatMap]
    exact List.flatMap_congr fun g hg => h.sortedCells_clone hdb hg
  rw [hcells]
  refine mapM_map_ok (fun c hc row hrow => ?_) hrows
  obtain ⟨g, hg, hc⟩ := List.mem_flatMap.mp hc
  obtain ⟨r, hr, hrc⟩ := range_of_cell hdb (mem_sortOn.mp hg) (mem_sortOn.mp hc)
  have hold : db.ranges.lookup c.moduleRangeId = some r :=
    Table.lookup_eq_some.mpr ⟨(mem_rangesOf.mp hr).1, hrc⟩
  have hnew := h.lookup_range hr
  rw [hrc] at hnew
  unfold matrixContext at hrow ⊢
  rw [hold] at hrow
  cases hrow
  unfold MatrixCell.copied
  rw [hnew]
  rfl

/-- **Context.** The clone is loaded as the copy of what is loaded of its
source. -/
theorem load_clone {ctx : QuoteCalcContext} (hs : db.templates.lookup s.id = some s)
    (hload : loadTemplateQuoteContext db s.id = .ok ctx) :
    loadTemplateQuoteContext db' ids.template =
      .ok (ctx.copied ((db.treeOf s).copiedIds ids) row) := by
  obtain ⟨s', hs', hload⟩ := bind_eq_ok.mp hload
  rw [demandSome_eq_ok, hs] at hs'
  cases hs'
  obtain ⟨_, -, hload⟩ := bind_eq_ok.mp hload
  obtain ⟨rows, hrows, hload⟩ := bind_eq_ok.mp hload
  cases hload
  have hrow : db'.templates.lookup ids.template = some row := by
    rw [h.templates, Table.lookup_insert, Table.lookup_eq_none.mpr h.fresh, h.row_id]
    simp
  have hgroups : sortOn DestinationGroup.order (db'.groupsOf ids.template) =
      (db.treeOf s).sortedGroups.map (·.copied ((db.treeOf s).copiedIds ids) ids.template) := by
    rw [h.groupsOf_clone hdb]
    refine sortOn_map_sortOn fun a ha b hb hle => toLex_le_of_ties hle fun hsort _ => ?_
    obtain ⟨ha, hta⟩ := mem_groupsOf.mp ha
    obtain ⟨hb, htb⟩ := mem_groupsOf.mp hb
    rw [hdb.groups_order a ha b hb (Prod.ext (hta.trans htb.symm) hsort)]
  have hconfigs : sortOn SurchargeConfig.order (db'.configsOf ids.template) =
      (db.treeOf s).sortedConfigs.map (·.copied ((db.treeOf s).copiedIds ids) ids.template) := by
    rw [h.configsOf_clone hdb]
    refine sortOn_map_sortOn fun a ha b hb hle => toLex_le_of_ties hle fun hcode _ => ?_
    obtain ⟨ha, hta⟩ := mem_configsOf.mp ha
    obtain ⟨hb, htb⟩ := mem_configsOf.mp hb
    rw [hdb.configs_province a ha b hb (Prod.ext (hta.trans htb.symm) hcode)]
  have hquotable : ensureTemplateQuotable row = .ok () :=
    demand_eq_ok.mpr ⟨h.row_status.2, by simp [h.row_status.1]⟩
  unfold loadTemplateQuoteContext
  rw [hrow, hgroups, hconfigs]
  have hgroupContexts : ((db.treeOf s).sortedGroups.map
        (·.copied ((db.treeOf s).copiedIds ids) ids.template)).map db'.groupContext =
      ((db.treeOf s).sortedGroups.map db.groupContext).map
        (·.copied ((db.treeOf s).copiedIds ids)) := by
    rw [List.map_map, List.map_map]
    exact List.map_congr_left fun g hg => h.groupContext_clone hdb hg
  have hconfigContexts : ((db.treeOf s).sortedConfigs.map
        (·.copied ((db.treeOf s).copiedIds ids) ids.template)).map db'.surchargeContext =
      ((db.treeOf s).sortedConfigs.map db.surchargeContext).map
        (·.copied ((db.treeOf s).copiedIds ids)) := by
    rw [List.map_map, List.map_map]
    exact List.map_congr_left fun c hc => h.surchargeContext_clone hdb hc
  simp only [demandSome, hquotable, bind, Except.bind, h.matrixRows_clone hdb hrows, hgroupContexts,
    hconfigContexts, h.providers, h.row_provider]
  rfl

omit hdb in
/-- Rows of different groups are copied below different groups. -/
theorem groupsApart_clone {ctx : QuoteCalcContext}
    (hload : loadTemplateQuoteContext db s.id = .ok ctx) :
    ctx.GroupsApart ((db.treeOf s).copiedIds ids) := by
  obtain ⟨hgroups, -, hrows⟩ := of_load hload
  intro _ hin r hr heq
  rw [hgroups] at hin
  obtain ⟨g, hg, rfl⟩ := List.mem_map.mp hin
  obtain ⟨c, hc, hrow⟩ := exists_of_forall₂ (forall₂_of_mapM hrows) hr
  obtain ⟨g', hg', hc⟩ := List.mem_flatMap.mp hc
  have hgroup : r.groupId = g'.id := by
    obtain ⟨_, -, hrow⟩ := bind_eq_ok.mp hrow
    cases hrow
    exact (mem_cellsOfGroup.mp (mem_sortOn.mp hc)).2
  rw [hgroup] at heq ⊢
  exact congrArg DestinationGroup.id (List.inj_on_of_nodup_map h.groupIds.1 hg' hg heq)

omit h hdb in
/-- The copies of surcharges are numbered in the order of the list. -/
theorem inOrder_clone {ctx : QuoteCalcContext} (hconfigs : ∀ i j, i ≤ j → ids.configs i ≤ ids.configs j)
    (hcities : ∀ i j, i ≤ j → ids.cities i ≤ ids.cities j)
    (hload : loadTemplateQuoteContext db s.id = .ok ctx)
    (dest : Dest) : (ctx.copied ((db.treeOf s).copiedIds ids) row).SurchargesInOrder dest := by
  obtain ⟨-, hctx, -⟩ := of_load hload
  have hkeyed := TemplateTree.keyed_treeOf db s
  have hlist : (ctx.copied ((db.treeOf s).copiedIds ids) row).surchargeConfigs =
      (db.treeOf s).sortedConfigs.map fun cfg =>
        (db.surchargeContext cfg).copied ((db.treeOf s).copiedIds ids) := by
    show ctx.surchargeConfigs.map _ = _
    rw [hctx, List.map_map]
    rfl
  constructor
  · rw [hlist]
    refine List.Pairwise.filter _ (List.pairwise_map.mpr ?_)
    exact pairwise_renamed hkeyed.sortedConfigs hconfigs
  · rw [hlist]
    refine List.forall_mem_map.mpr fun cfg hcfg => List.Pairwise.filter _ ?_
    have hall := pairwise_renamed hkeyed.sortedCities hcities
    have hcfgCities : ((db.treeOf s).sortedCities cfg).Pairwise fun c d =>
        ((db.treeOf s).copiedIds ids).city c.id ≤ ((db.treeOf s).copiedIds ids).city d.id :=
      hall.sublist (List.flatMap_def ▸ List.sublist_flatten_of_mem (List.mem_map_of_mem hcfg))
    rw [treeOf_sortedCities (mem_sortOn.mp hcfg)] at hcfgCities
    exact List.pairwise_map.mpr (List.pairwise_map.mpr hcfgCities)

/-! ## Other templates -/

omit hdb in
private theorem members_other {g : DestinationGroup} (hg : g ∈ db.groups.rows) :
    db'.membersOf g.id = db.membersOf g.id := by
  rw [membersOf, h.members, (TemplateTree.keyed_treeOf db s).copiedMembers]
  refine filter_olds rfl (List.forall_mem_map.mpr fun m hm heq => ?_)
  obtain ⟨k, hk, hm⟩ := List.mem_flatMap.mp hm
  refine h.groupIds.2 k hk ⟨g, hg, ?_⟩
  rw [← heq, ← (TemplateTree.mem_sortedMembers.mp hm).2]
  rfl

omit hdb in
private theorem cells_other {g : DestinationGroup} (hg : g ∈ db.groups.rows) :
    db'.cellsOfGroup g.id = db.cellsOfGroup g.id := by
  obtain ⟨cells, hcells, hrows⟩ := h.cells
  rw [cellsOfGroup, hrows, (TemplateTree.keyed_treeOf db s).copiedCells hcells]
  refine filter_olds rfl (List.forall_mem_map.mpr fun c hc heq => ?_)
  obtain ⟨k, hk, hc⟩ := List.mem_flatMap.mp hc
  refine h.groupIds.2 k hk ⟨g, hg, ?_⟩
  rw [← heq, ← (TemplateTree.mem_sortedCells.mp hc).2]
  rfl

omit hdb in
private theorem cities_other {cfg : SurchargeConfig} (hcfg : cfg ∈ db.configs.rows) :
    db'.citiesOf cfg.id = db.citiesOf cfg.id := by
  rw [citiesOf, h.cities, (TemplateTree.keyed_treeOf db s).copiedCities]
  refine filter_olds rfl (List.forall_mem_map.mpr fun c hc heq => ?_)
  obtain ⟨k, hk, hc⟩ := List.mem_flatMap.mp hc
  refine h.configIds.2 k hk ⟨cfg, hcfg, ?_⟩
  rw [← heq, ← (TemplateTree.mem_sortedCities.mp hc).2]
  rfl

/-- The range of a cell that was there. -/
private theorem range_other {c : MatrixCell} (hc : c ∈ db.cells.rows) :
    db'.ranges.lookup c.moduleRangeId = db.ranges.lookup c.moduleRangeId := by
  obtain ⟨_, -, r, hr, hid, -⟩ := hdb.placed c hc
  rw [Table.lookup_eq_some.mpr ⟨hr, hid⟩, Table.lookup_eq_some]
  exact ⟨h.ranges ▸ List.mem_append_left _ hr, hid⟩

/-- **Frame.** The other templates are loaded as before. -/
theorem load_other {t : Int} (hne : t ≠ ids.template) :
    loadTemplateQuoteContext db' t = loadTemplateQuoteContext db t := by
  have htemplate : db'.templates.lookup t = db.templates.lookup t := by
    rw [h.templates, Table.lookup_insert, h.row_id, if_neg hne, Option.or_none]
  have hgroups : db'.groupsOf t = db.groupsOf t := by
    refine filter_olds h.groups ?_
    rw [(TemplateTree.keyed_treeOf db s).copiedGroups]
    exact List.forall_mem_map.mpr fun g _ heq => hne heq.symm
  have hconfigs : db'.configsOf t = db.configsOf t := by
    refine filter_olds h.configs ?_
    rw [(TemplateTree.keyed_treeOf db s).copiedConfigs]
    exact List.forall_mem_map.mpr fun c _ heq => hne heq.symm
  have hgroupContexts : (sortOn DestinationGroup.order (db.groupsOf t)).map db'.groupContext =
      (sortOn DestinationGroup.order (db.groupsOf t)).map db.groupContext := by
    refine List.map_congr_left fun g hg => ?_
    rw [groupContext, h.members_other (mem_groupsOf.mp (mem_sortOn.mp hg)).1]
    rfl
  have hconfigContexts : (sortOn SurchargeConfig.order (db.configsOf t)).map db'.surchargeContext =
      (sortOn SurchargeConfig.order (db.configsOf t)).map db.surchargeContext := by
    refine List.map_congr_left fun cfg hcfg => ?_
    rw [surchargeContext, h.cities_other (mem_configsOf.mp (mem_sortOn.mp hcfg)).1]
    rfl
  have hcells : ((sortOn DestinationGroup.order (db.groupsOf t)).flatMap fun g =>
        sortOn db'.cellOrder (db'.cellsOfGroup g.id)) =
      (sortOn DestinationGroup.order (db.groupsOf t)).flatMap fun g =>
        sortOn db.cellOrder (db.cellsOfGroup g.id) := by
    refine List.flatMap_congr fun g hg => ?_
    rw [h.cells_other (mem_groupsOf.mp (mem_sortOn.mp hg)).1]
    have horder : ∀ c ∈ db.cellsOfGroup g.id, db'.cellOrder c = db.cellOrder c := fun c hc => by
      rw [cellOrder, h.range_other hdb (mem_cellsOfGroup.mp hc).1]
      rfl
    refine sortOn_congr fun c hc d hd => ?_
    rw [horder c hc, horder d hd]
  have hrows : ((sortOn DestinationGroup.order (db.groupsOf t)).flatMap fun g =>
        sortOn db.cellOrder (db.cellsOfGroup g.id)).mapM db'.matrixContext =
      ((sortOn DestinationGroup.order (db.groupsOf t)).flatMap fun g =>
        sortOn db.cellOrder (db.cellsOfGroup g.id)).mapM db.matrixContext := by
    refine mapM_congr_left fun c hc => ?_
    obtain ⟨g, -, hc⟩ := List.mem_flatMap.mp hc
    rw [matrixContext, h.range_other hdb (mem_cellsOfGroup.mp (mem_sortOn.mp hc)).1]
    rfl
  unfold loadTemplateQuoteContext
  dsimp only
  rw [htemplate, hgroups, hconfigs, hgroupContexts, hconfigContexts, hcells, hrows, h.providers]

end PricingDb.Cloned

end Rows

end WmsDu
