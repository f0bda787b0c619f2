import WmsDu.Pricing.Bindings

/-!
# The structure of a template

The ranges, groups, members and cells of a template, which records write them,
and what the other records leave alone.
-/

namespace WmsDu

open Txn

/-! ## Sameness -/

namespace PricingDb

/-- Every cell lies in a group and a range of one template. -/
def Placed (db : PricingDb) : Prop :=
  ∀ c ∈ db.cells.rows, ∃ t, db.HasGroup t c.groupId ∧ db.HasRange t c.moduleRangeId

instance (db : PricingDb) : Decidable db.Placed :=
  decidable_of_iff (∀ c ∈ db.cells.rows, ∃ g ∈ db.groups.rows, g.id = c.groupId ∧
      db.HasRange g.templateId c.moduleRangeId) <| by
    refine forall₂_congr fun c _ => ⟨?_, ?_⟩
    · rintro ⟨g, hg, hid, hr⟩
      exact ⟨g.templateId, ⟨g, hg, hid, rfl⟩, hr⟩
    · rintro ⟨_, ⟨g, hg, hid, rfl⟩, hr⟩
      exact ⟨g, hg, hid, hr⟩

/-- The template has the same rows below it. -/
structure SameStructure (templateId : Int) (db db' : PricingDb) : Prop where
  ranges : db'.rangesOf templateId = db.rangesOf templateId
  groups : db'.groupsOf templateId = db.groupsOf templateId
  members : ∀ groupId, db.HasGroup templateId groupId → db'.membersOf groupId = db.membersOf groupId
  cells : db'.cellsOf templateId = db.cellsOf templateId

/-- The structure of a template as the services list it. -/
def shapeOf (db : PricingDb) (templateId : Int) : TemplateShape where
  ranges := sortOn ModuleRange.order (db.rangesOf templateId)
  groups := (sortOn DestinationGroup.order (db.groupsOf templateId)).map fun g =>
    ⟨g, db.membersOf g.id⟩
  cells := sortOn (fun c : MatrixCell => toLex (c.groupId, c.moduleRangeId)) (db.cellsOf templateId)

variable {db db' db'' : PricingDb} {templateId t t' groupId rangeId : Int}

theorem hasGroup_iff : db.HasGroup templateId groupId ↔ ∃ g ∈ db.groupsOf templateId, g.id = groupId := by
  constructor
  · rintro ⟨g, hg, hid, ht⟩
    exact ⟨g, mem_groupsOf.mpr ⟨hg, ht⟩, hid⟩
  · rintro ⟨g, hg, hid⟩
    obtain ⟨hg, ht⟩ := mem_groupsOf.mp hg
    exact ⟨g, hg, hid, ht⟩

/-- A group belongs to one template. -/
theorem HasGroup.unique (h : db.HasGroup t groupId) (h' : db.HasGroup t' groupId) : t = t' := by
  obtain ⟨g, hg, hid, rfl⟩ := h
  obtain ⟨g', hg', hid', rfl⟩ := h'
  rw [db.groups.eq_of_key hg hg' (hid.trans hid'.symm)]

/-- A range belongs to one template. -/
theorem HasRange.unique (h : db.HasRange t rangeId) (h' : db.HasRange t' rangeId) : t = t' := by
  obtain ⟨r, hr, hid, rfl⟩ := h
  obtain ⟨r', hr', hid', rfl⟩ := h'
  rw [db.ranges.eq_of_key hr hr' (hid.trans hid'.symm)]

theorem hasGroup_congr (h : db'.groupsOf templateId = db.groupsOf templateId) :
    db'.HasGroup templateId groupId ↔ db.HasGroup templateId groupId := by
  rw [hasGroup_iff, hasGroup_iff, h]

theorem cellsOf_congr (hg : db'.groupsOf templateId = db.groupsOf templateId)
    (hfilter : db'.cells.rows.filter (fun c => db.HasGroup templateId c.groupId) =
      db.cells.rows.filter fun c => db.HasGroup templateId c.groupId) :
    db'.cellsOf templateId = db.cellsOf templateId := by
  unfold cellsOf
  rw [← hfilter]
  refine List.filter_congr fun c _ => ?_
  exact decide_eq_decide.mpr (hasGroup_congr hg)

namespace SameStructure

theorem refl (templateId : Int) (db : PricingDb) : SameStructure templateId db db :=
  ⟨rfl, rfl, fun _ _ => rfl, rfl⟩

theorem hasGroup (h : SameStructure templateId db db') :
    db'.HasGroup templateId groupId ↔ db.HasGroup templateId groupId := hasGroup_congr h.groups

theorem trans (h : SameStructure templateId db db') (h' : SameStructure templateId db' db'') :
    SameStructure templateId db db'' where
  ranges := h'.ranges.trans h.ranges
  groups := h'.groups.trans h.groups
  members groupId hg := (h'.members groupId (h.hasGroup.mpr hg)).trans (h.members groupId hg)
  cells := h'.cells.trans h.cells

theorem symm (h : SameStructure templateId db db') : SameStructure templateId db' db where
  ranges := h.ranges.symm
  groups := h.groups.symm
  members groupId hg := (h.members groupId (h.hasGroup.mp hg)).symm
  cells := h.cells.symm

theorem shape (h : SameStructure templateId db db') : db'.shapeOf templateId = db.shapeOf templateId := by
  unfold shapeOf
  rw [h.ranges, h.groups, h.cells]
  congr 1
  refine List.map_congr_left fun g hg => ?_
  rw [h.members g.id (hasGroup_iff.mpr ⟨g, mem_sortOn.mp hg, rfl⟩)]

end SameStructure

end PricingDb

/-! ## Records -/

/-- The template whose structure a record writes. -/
def PricingRedo.structureOf : PricingRedo → Option Int
  | .rangesDelete t _ | .groupUpdate t _ _ | .groupDelete t _ | .membersDelete t _ _
  | .memberInsert t _ | .cellsDelete t _ | .cellInsert t _ => some t
  | .rangeInsert r => some r.templateId
  | .groupInsert g => some g.templateId
  | _ => none

section Records
variable {db : PricingDb} {u : PricingRedo} {templateId t groupId rangeId : Int}

/-- A group is still there after a record that does not delete it. -/
theorem PricingDb.hasGroup_update {id : Int} {ch : GroupChange} :
    ((PricingRedo.groupUpdate t id ch).apply db).HasGroup templateId groupId ↔
      db.HasGroup templateId groupId := by
  constructor
  · rintro ⟨g, hg, hid, ht⟩
    obtain ⟨h, hh, rfl⟩ := (Table.mem_update (f := ch.set) fun _ => rfl).mp hg
    refine ⟨h, hh, ?_, ?_⟩
    · rw [← hid]
      split <;> rfl
    · rw [← ht]
      split <;> rfl
  · rintro ⟨g, hg, hid, ht⟩
    refine ⟨_, (Table.mem_update (f := ch.set) fun _ => rfl).mpr ⟨g, hg, rfl⟩, ?_, ?_⟩
    · rw [← hid]
      split <;> rfl
    · rw [← ht]
      split <;> rfl

/-- **Placement.** Every record keeps cells in a group and a range of one
template. -/
theorem PricingRedo.placed (h : db.Placed) : (u.apply db).Placed := by
  cases u with
  | rangesDelete t ids =>
      intro c hc
      obtain ⟨hc, hkept⟩ := Table.mem_delete.mp hc
      obtain ⟨s, hg, r, hr, hid, ht⟩ := h c hc
      refine ⟨s, hg, r, Table.mem_delete.mpr ⟨hr, ?_⟩, hid, ht⟩
      rintro ⟨hrt, hids⟩
      rw [hid] at hids
      exact hkept ⟨⟨r, hr, hid, hrt⟩, hids⟩
  | rangeInsert r =>
      intro c hc
      obtain ⟨s, hg, r', hr, hid, ht⟩ := h c hc
      exact ⟨s, hg, r', Table.mem_insert_of_mem hr, hid, ht⟩
  | groupInsert g =>
      intro c hc
      obtain ⟨s, ⟨g', hg, hid, ht⟩, hr⟩ := h c hc
      exact ⟨s, ⟨g', Table.mem_insert_of_mem hg, hid, ht⟩, hr⟩
  | groupUpdate t id ch =>
      intro c hc
      obtain ⟨s, hg, hr⟩ := h c hc
      exact ⟨s, PricingDb.hasGroup_update.mpr hg, hr⟩
  | groupDelete t id =>
      intro c hc
      obtain ⟨hc, hkept⟩ := Table.mem_delete.mp hc
      obtain ⟨s, ⟨g, hg, hid, ht⟩, hr⟩ := h c hc
      refine ⟨s, ⟨g, Table.mem_delete.mpr ⟨hg, ?_⟩, hid, ht⟩, hr⟩
      rintro ⟨hgid, hgt⟩
      exact hkept ⟨⟨g, hg, hid, hgt⟩, hid.symm.trans hgid⟩
  | memberInsert t m =>
      intro c hc
      unfold apply at hc ⊢
      dsimp only at hc ⊢
      split at hc
      · rename_i hg
        rw [if_pos hg]
        exact h c hc
      · rename_i hg
        rw [if_neg hg]
        exact h c hc
  | cellsDelete t ids =>
      intro c hc
      exact h c (Table.mem_delete.mp hc).1
  | cellInsert t d =>
      intro c hc
      unfold apply at hc ⊢
      dsimp only at hc ⊢
      split at hc
      · rename_i hplace
        rw [if_pos hplace]
        rcases Table.mem_of_mem_insert hc with hc | rfl
        · exact h c hc
        · exact ⟨t, hplace⟩
      · rename_i hplace
        rw [if_neg hplace]
        exact h c hc
  | _ => exact h

/-- **Frame.** A record leaves the structure of the other templates alone. -/
theorem PricingRedo.sameStructure (hdb : db.Placed) (h : u.structureOf ≠ some templateId) :
    PricingDb.SameStructure templateId db (u.apply db) := by
  cases u with
  | rangesDelete t ids =>
      have hne : t ≠ templateId := fun heq => h (congrArg some heq)
      refine ⟨Table.filter_delete_rows ?_, rfl, fun _ _ => rfl, ?_⟩
      · rintro r - ⟨hr, -⟩ heq
        exact hne (hr.symm.trans heq)
      · refine PricingDb.cellsOf_congr rfl (Table.filter_delete_rows ?_)
        rintro c hc ⟨hr, -⟩ hg
        obtain ⟨s, hsg, hsr⟩ := hdb c hc
        exact hne ((hr.unique hsr).trans (hsg.unique hg))
  | rangeInsert r =>
      have hne : r.templateId ≠ templateId := fun heq => h (congrArg some heq)
      exact ⟨Table.filter_insert_rows (p := fun r : ModuleRange => r.templateId = templateId) hne,
        rfl, fun _ _ => rfl, rfl⟩
  | groupInsert g =>
      have hne : g.templateId ≠ templateId := fun heq => h (congrArg some heq)
      have hgroups : ((PricingRedo.groupInsert g).apply db).groupsOf templateId =
          db.groupsOf templateId :=
        Table.filter_insert_rows (p := fun g : DestinationGroup => g.templateId = templateId) hne
      exact ⟨rfl, hgroups, fun _ _ => rfl, PricingDb.cellsOf_congr hgroups rfl⟩
  | groupUpdate t id ch =>
      have hne : t ≠ templateId := fun heq => h (congrArg some heq)
      have hgroups : ((PricingRedo.groupUpdate t id ch).apply db).groupsOf templateId =
          db.groupsOf templateId := by
        refine Table.filter_update_rows (p := fun g : DestinationGroup => g.id = id ∧ g.templateId = t)
          (f := ch.set) (q := fun g => g.templateId = templateId) (fun _ => rfl) ?_
        rintro g ⟨-, ht⟩
        exact ⟨fun heq => hne (ht.symm.trans heq), fun heq => hne (ht.symm.trans heq)⟩
      exact ⟨rfl, hgroups, fun _ _ => rfl, PricingDb.cellsOf_congr hgroups rfl⟩
  | groupDelete t id =>
      have hne : t ≠ templateId := fun heq => h (congrArg some heq)
      have hgroups : ((PricingRedo.groupDelete t id).apply db).groupsOf templateId =
          db.groupsOf templateId := by
        refine Table.filter_delete_rows ?_
        rintro g - ⟨-, ht⟩ heq
        exact hne (ht.symm.trans heq)
      refine ⟨rfl, hgroups, fun gid hgid => ?_,
        PricingDb.cellsOf_congr hgroups (Table.filter_delete_rows ?_)⟩
      · refine Table.filter_delete_rows ?_
        rintro m - ⟨hm, -⟩ rfl
        exact hne (hm.unique hgid)
      · rintro c - ⟨hc, -⟩ hg
        exact hne (hc.unique hg)
  | membersDelete t gid ids =>
      have hne : t ≠ templateId := fun heq => h (congrArg some heq)
      refine ⟨rfl, rfl, fun gid' hgid' => Table.filter_delete_rows ?_, rfl⟩
      rintro m - ⟨hm, -⟩ rfl
      exact hne (hm.unique hgid')
  | memberInsert t m =>
      have hne : t ≠ templateId := fun heq => h (congrArg some heq)
      unfold apply
      dsimp only
      split
      · rename_i hm
        refine ⟨rfl, rfl, fun gid hgid => ?_, rfl⟩
        refine Table.filter_insert_rows (p := fun m : GroupMember => m.groupId = gid) ?_
        rintro rfl
        exact hne (hm.unique hgid)
      · exact .refl _ _
  | cellsDelete t ids =>
      have hne : t ≠ templateId := fun heq => h (congrArg some heq)
      refine ⟨rfl, rfl, fun _ _ => rfl, PricingDb.cellsOf_congr rfl (Table.filter_delete_rows ?_)⟩
      rintro c - ⟨hc, -⟩ hg
      exact hne (hc.unique hg)
  | cellInsert t c =>
      have hne : t ≠ templateId := fun heq => h (congrArg some heq)
      unfold apply
      dsimp only
      split
      · rename_i hc
        refine ⟨rfl, rfl, fun _ _ => rfl, PricingDb.cellsOf_congr rfl ?_⟩
        refine Table.filter_insert_rows
          (p := fun c : MatrixCell => db.HasGroup templateId c.groupId) fun hg => ?_
        exact hne (hc.1.unique hg)
      · exact .refl _ _
  | _ => exact ⟨rfl, rfl, fun _ _ => rfl, rfl⟩

theorem placed_redo {log : List PricingRedo} (h : db.Placed) : (redo log db).Placed :=
  redo_preserves (U := PricingRedo) (I := PricingDb.Placed) (fun _ _ _ hw => PricingRedo.placed hw) h

/-- A log leaves the structure of the templates alone that none of its records
writes. -/
theorem redo_sameStructure {log : List PricingRedo} (hdb : db.Placed)
    (h : ∀ u ∈ log, u.structureOf ≠ some templateId) :
    PricingDb.SameStructure templateId db (redo log db) := by
  have hboth : (redo log db).Placed ∧ PricingDb.SameStructure templateId db (redo log db) := by
    refine redo_preserves (U := PricingRedo)
      (I := fun w => w.Placed ∧ PricingDb.SameStructure templateId db w) ?_ ⟨hdb, .refl _ _⟩
    rintro u hu w ⟨hw, hsame⟩
    exact ⟨PricingRedo.placed hw, hsame.trans (PricingRedo.sameStructure hw (h u hu))⟩
  exact hboth.2

end Records

end WmsDu
