import WmsDu.Pricing.Structure

/-!
# The constraints of the pricing tables

What the foreign keys, unique constraints and checks say of the rows of one
state, what a statement has checked of a record it writes, and that such
records keep the constraints.
-/

namespace WmsDu

open Txn

/-! ## Rows of one state -/

/-- The constraints that later proofs read off a state. -/
structure PricingDb.Admitted (db : PricingDb) : Prop where
  ranges_template : ∀ r ∈ db.ranges.rows, db.templates.HasKey r.templateId
  ranges_valid : ∀ r ∈ db.ranges.rows, r.Valid
  ranges_order : db.ranges.Unique fun r => (r.templateId, r.sortOrder)
  groups_template : ∀ g ∈ db.groups.rows, db.templates.HasKey g.templateId
  groups_order : db.groups.Unique fun g => (g.templateId, g.sortOrder)
  members_group : ∀ m ∈ db.members.rows, db.groups.HasKey m.groupId
  members_key : db.members.Unique fun m => (m.groupId, m.key)
  placed : db.Placed
  cells_place : db.cells.Unique fun c => (c.groupId, c.moduleRangeId)
  configs_template : ∀ c ∈ db.configs.rows, db.templates.HasKey c.templateId
  configs_province : db.configs.Unique fun c => (c.templateId, c.provinceCode)
  cities_config : ∀ c ∈ db.cities.rows, db.configs.HasKey c.configId
  cities_code : db.cities.Unique fun c => (c.configId, c.cityCode)

/-- What the statement that writes a record has checked. -/
def PricingRedo.Fits (db : PricingDb) : PricingRedo → Prop
  | .templateInsert t => ¬ db.templates.HasKey t.id
  | .rangeInsert r => ¬ db.ranges.HasKey r.id ∧ db.templates.HasKey r.templateId ∧ r.Valid ∧
      ∀ s ∈ db.rangesOf r.templateId, s.sortOrder ≠ r.sortOrder
  | .groupInsert g => ¬ db.groups.HasKey g.id ∧ db.templates.HasKey g.templateId ∧
      ∀ h ∈ db.groupsOf g.templateId, h.sortOrder ≠ g.sortOrder
  | .groupUpdate t id ch =>
      ∀ s ∈ ch.sortOrder, ∀ h ∈ db.groupsOf t, h.id ≠ id → h.sortOrder ≠ s
  | .memberInsert _ m => ¬ db.members.HasKey m.id ∧ ∀ n ∈ db.membersOf m.groupId, n.key ≠ m.key
  | .cellInsert _ c => ¬ db.cells.HasKey c.id ∧
      ∀ d ∈ db.cellsOfGroup c.groupId, d.moduleRangeId ≠ c.moduleRangeId
  | .configInsert c => ¬ db.configs.HasKey c.id ∧ db.templates.HasKey c.templateId ∧
      ∀ d ∈ db.configsOf c.templateId, d.provinceCode ≠ c.provinceCode
  | .configUpdate id ch => ∀ c ∈ db.configs.rows, c.id = id →
      ∀ d ∈ db.configsOf c.templateId, d.id ≠ id → d.provinceCode ≠ (ch.set c).provinceCode
  | .cityInsert c => ¬ db.cities.HasKey c.id ∧ db.configs.HasKey c.configId ∧
      ∀ d ∈ db.citiesOf c.configId, d.cityCode ≠ c.cityCode
  | _ => True

/-! ## Records -/

section Records
variable {db : PricingDb} {u : PricingRedo} {id : Int}

/-- A member is inserted into the members only. -/
theorem PricingRedo.apply_memberInsert (t : Int) (m : GroupMember) (db : PricingDb) :
    (PricingRedo.memberInsert t m).apply db =
      { db with members := if db.HasGroup t m.groupId then db.members.insert m else db.members } := by
  unfold apply
  dsimp only
  split
  · rfl
  · rfl

/-- A cell is inserted into the cells only. -/
theorem PricingRedo.apply_cellInsert (t : Int) (c : MatrixCell) (db : PricingDb) :
    (PricingRedo.cellInsert t c).apply db =
      { db with
        cells := if db.HasGroup t c.groupId ∧ db.HasRange t c.moduleRangeId then db.cells.insert c
          else db.cells } := by
  unfold apply
  dsimp only
  split
  · rfl
  · rfl

/-- Templates are only added. -/
theorem PricingRedo.hasTemplate (u : PricingRedo) (h : db.templates.HasKey id) :
    (u.apply db).templates.HasKey id := by
  cases u with
  | templateInsert t => exact Table.hasKey_insert.mpr (.inl h)
  | templateUpdate id' ch => exact (Table.hasKey_update (f := ch.set) fun _ => rfl).mpr h
  | memberInsert t m => rw [apply_memberInsert]; exact h
  | cellInsert t c => rw [apply_cellInsert]; exact h
  | _ => exact h

/-! ### Ranges and groups -/

private theorem admitted_ranges (hu : u.Fits db) (h : db.Admitted) :
    (∀ r ∈ (u.apply db).ranges.rows, (u.apply db).templates.HasKey r.templateId ∧ r.Valid) ∧
    (u.apply db).ranges.Unique fun r => (r.templateId, r.sortOrder) := by
  have hsame : ∀ {db' : PricingDb}, db'.ranges = db.ranges →
      (∀ id, db.templates.HasKey id → db'.templates.HasKey id) →
      (∀ r ∈ db'.ranges.rows, db'.templates.HasKey r.templateId ∧ r.Valid) ∧
      db'.ranges.Unique fun r => (r.templateId, r.sortOrder) := by
    intro db' heq htemplates
    rw [heq]
    exact ⟨fun r hr => ⟨htemplates _ (h.ranges_template r hr), h.ranges_valid r hr⟩, h.ranges_order⟩
  have htemplates : ∀ id, db.templates.HasKey id → (u.apply db).templates.HasKey id :=
    fun _ => u.hasTemplate
  cases u with
  | rangesDelete t ids =>
      refine ⟨fun r hr => ?_, h.ranges_order.delete⟩
      have hold := (Table.mem_delete.mp hr).1
      exact ⟨h.ranges_template r hold, h.ranges_valid r hold⟩
  | rangeInsert r =>
      obtain ⟨-, htemplate, hvalid, hnew⟩ := hu
      refine ⟨fun s hs => ?_, h.ranges_order.insert fun s hs heq => ?_⟩
      · rcases Table.mem_of_mem_insert hs with hs' | rfl
        · exact ⟨h.ranges_template s hs', h.ranges_valid s hs'⟩
        · exact ⟨htemplate, hvalid⟩
      · obtain ⟨ht, ho⟩ := Prod.mk.inj heq
        exact hnew s (PricingDb.mem_rangesOf.mpr ⟨hs, ht⟩) ho
  | memberInsert t m => exact hsame (by rw [PricingRedo.apply_memberInsert]) htemplates
  | cellInsert t c => exact hsame (by rw [PricingRedo.apply_cellInsert]) htemplates
  | _ => exact hsame rfl htemplates

private theorem admitted_groups (hu : u.Fits db) (h : db.Admitted) :
    (∀ g ∈ (u.apply db).groups.rows, (u.apply db).templates.HasKey g.templateId) ∧
    (u.apply db).groups.Unique fun g => (g.templateId, g.sortOrder) := by
  have hsame : ∀ {db' : PricingDb}, db'.groups = db.groups →
      (∀ id, db.templates.HasKey id → db'.templates.HasKey id) →
      (∀ g ∈ db'.groups.rows, db'.templates.HasKey g.templateId) ∧
      db'.groups.Unique fun g => (g.templateId, g.sortOrder) := by
    intro db' heq htemplates
    rw [heq]
    exact ⟨fun g hg => htemplates _ (h.groups_template g hg), h.groups_order⟩
  have htemplates : ∀ id, db.templates.HasKey id → (u.apply db).templates.HasKey id :=
    fun _ => u.hasTemplate
  cases u with
  | groupInsert g =>
      obtain ⟨-, htemplate, hnew⟩ := hu
      refine ⟨fun s hs => ?_, h.groups_order.insert fun s hs heq => ?_⟩
      · rcases Table.mem_of_mem_insert hs with hs' | rfl
        · exact h.groups_template s hs'
        · exact htemplate
      · obtain ⟨ht, ho⟩ := Prod.mk.inj heq
        exact hnew s (PricingDb.mem_groupsOf.mpr ⟨hs, ht⟩) ho
  | groupUpdate t id ch =>
      refine ⟨fun g hg => ?_, Table.Unique.update (g := ch.set) (fun _ => rfl) h.groups_order ?_ ?_⟩
      · obtain ⟨g', hg', rfl⟩ := (Table.mem_update (f := ch.set) fun _ => rfl).mp hg
        have htemplate := h.groups_template g' hg'
        split
        · exact htemplate
        · exact htemplate
      · rintro g hg g' hg' ⟨hid, -⟩ ⟨hid', -⟩
        exact db.groups.eq_of_key hg hg' (hid.trans hid'.symm)
      · rintro g hg ⟨hid, ht⟩ g' hg' hne heq
        obtain ⟨ht', ho⟩ := Prod.mk.inj heq
        have ht' : g.templateId = g'.templateId := ht'
        have hne' : g'.id ≠ id := fun hid' => hne ⟨hid', ht'.symm.trans ht⟩
        cases hch : ch.sortOrder with
        | some o =>
            -- the new sort order was free
            refine hu o hch g' (PricingDb.mem_groupsOf.mpr ⟨hg', ht'.symm.trans ht⟩) hne' ?_
            rw [← ho]
            simp [GroupChange.set, hch]
        | none =>
            refine hne' ?_
            have hsame : g.sortOrder = g'.sortOrder := by
              rw [← ho]
              simp [GroupChange.set, hch]
            rw [← h.groups_order g hg g' hg' (Prod.ext ht' hsame)]
            exact hid
  | groupDelete t id =>
      exact ⟨fun g hg => h.groups_template g (Table.mem_delete.mp hg).1, h.groups_order.delete⟩
  | memberInsert t m => exact hsame (by rw [PricingRedo.apply_memberInsert]) htemplates
  | cellInsert t c => exact hsame (by rw [PricingRedo.apply_cellInsert]) htemplates
  | _ => exact hsame rfl htemplates

/-! ### Members and cells -/

private theorem admitted_members (hu : u.Fits db) (h : db.Admitted) :
    (∀ m ∈ (u.apply db).members.rows, (u.apply db).groups.HasKey m.groupId) ∧
    (u.apply db).members.Unique fun m => (m.groupId, m.key) := by
  have hsame : ∀ {db' : PricingDb}, db'.members = db.members →
      (∀ id, db.groups.HasKey id → db'.groups.HasKey id) →
      (∀ m ∈ db'.members.rows, db'.groups.HasKey m.groupId) ∧
      db'.members.Unique fun m => (m.groupId, m.key) := by
    intro db' heq hgroups
    rw [heq]
    exact ⟨fun m hm => hgroups _ (h.members_group m hm), h.members_key⟩
  cases u with
  | groupInsert g => exact hsame rfl fun id hid => Table.hasKey_insert.mpr (.inl hid)
  | groupUpdate t id ch =>
      exact hsame rfl fun id hid => (Table.hasKey_update (f := ch.set) fun _ => rfl).mpr hid
  | groupDelete t id =>
      refine ⟨fun m hm => ?_, h.members_key.delete⟩
      obtain ⟨hm, hkept⟩ := Table.mem_delete.mp hm
      obtain ⟨g, hg, hid⟩ := h.members_group m hm
      refine ⟨g, Table.mem_delete.mpr ⟨hg, ?_⟩, hid⟩
      rintro ⟨hgid, hgt⟩
      exact hkept ⟨⟨g, hg, hid, hgt⟩, hid.symm.trans hgid⟩
  | membersDelete t gid ids =>
      exact ⟨fun m hm => h.members_group m (Table.mem_delete.mp hm).1, h.members_key.delete⟩
  | memberInsert t m =>
      rw [PricingRedo.apply_memberInsert]
      dsimp only
      split
      · rename_i hg
        refine ⟨fun n hn => ?_, h.members_key.insert fun n hn heq => ?_⟩
        · rcases Table.mem_of_mem_insert hn with hn' | rfl
          · exact h.members_group n hn'
          · obtain ⟨g, hg, hid, -⟩ := hg
            exact ⟨g, hg, hid⟩
        · obtain ⟨hgid, hkey⟩ := Prod.mk.inj heq
          exact hu.2 n (PricingDb.mem_membersOf.mpr ⟨hn, hgid⟩) hkey
      · exact ⟨h.members_group, h.members_key⟩
  | cellInsert t c =>
      rw [PricingRedo.apply_cellInsert]
      exact hsame rfl fun _ hid => hid
  | _ => exact hsame rfl fun _ hid => hid

private theorem admitted_cells (hu : u.Fits db) (h : db.Admitted) :
    (u.apply db).cells.Unique fun c => (c.groupId, c.moduleRangeId) := by
  cases u with
  | rangesDelete t ids => exact h.cells_place.delete
  | groupDelete t id => exact h.cells_place.delete
  | cellsDelete t ids => exact h.cells_place.delete
  | memberInsert t m => rw [PricingRedo.apply_memberInsert]; exact h.cells_place
  | cellInsert t c =>
      rw [PricingRedo.apply_cellInsert]
      dsimp only
      split
      · refine h.cells_place.insert fun d hd heq => ?_
        obtain ⟨hgid, hrid⟩ := Prod.mk.inj heq
        exact hu.2 d (PricingDb.mem_cellsOfGroup.mpr ⟨hd, hgid⟩) hrid
      · exact h.cells_place
  | _ => exact h.cells_place

/-! ### Surcharges -/

private theorem admitted_configs (hu : u.Fits db) (h : db.Admitted) :
    (∀ c ∈ (u.apply db).configs.rows, (u.apply db).templates.HasKey c.templateId) ∧
    (u.apply db).configs.Unique fun c => (c.templateId, c.provinceCode) := by
  have hsame : ∀ {db' : PricingDb}, db'.configs = db.configs →
      (∀ id, db.templates.HasKey id → db'.templates.HasKey id) →
      (∀ c ∈ db'.configs.rows, db'.templates.HasKey c.templateId) ∧
      db'.configs.Unique fun c => (c.templateId, c.provinceCode) := by
    intro db' heq htemplates
    rw [heq]
    exact ⟨fun c hc => htemplates _ (h.configs_template c hc), h.configs_province⟩
  have htemplates : ∀ id, db.templates.HasKey id → (u.apply db).templates.HasKey id :=
    fun _ => u.hasTemplate
  cases u with
  | configInsert c =>
      obtain ⟨-, htemplate, hnew⟩ := hu
      refine ⟨fun d hd => ?_, h.configs_province.insert fun d hd heq => ?_⟩
      · rcases Table.mem_of_mem_insert hd with hd' | rfl
        · exact h.configs_template d hd'
        · exact htemplate
      · obtain ⟨ht, hcode⟩ := Prod.mk.inj heq
        exact hnew d (PricingDb.mem_configsOf.mpr ⟨hd, ht⟩) hcode
  | configUpdate id ch =>
      refine ⟨fun c hc => ?_, Table.Unique.update (g := ch.set) (fun _ => rfl) h.configs_province ?_ ?_⟩
      · obtain ⟨c', hc', rfl⟩ := (Table.mem_update (f := ch.set) fun _ => rfl).mp hc
        have htemplate := h.configs_template c' hc'
        split
        · exact htemplate
        · exact htemplate
      · rintro c hc c' hc' hid hid'
        exact db.configs.eq_of_key hc hc' (hid.trans hid'.symm)
      · rintro c hc hid d hd hne heq
        obtain ⟨ht, hcode⟩ := Prod.mk.inj heq
        exact hu c hc hid d (PricingDb.mem_configsOf.mpr ⟨hd, ht.symm⟩) hne hcode.symm
  | configDelete id =>
      exact ⟨fun c hc => h.configs_template c (Table.mem_delete.mp hc).1, h.configs_province.delete⟩
  | memberInsert t m => exact hsame (by rw [PricingRedo.apply_memberInsert]) htemplates
  | cellInsert t c => exact hsame (by rw [PricingRedo.apply_cellInsert]) htemplates
  | _ => exact hsame rfl htemplates

private theorem admitted_cities (hu : u.Fits db) (h : db.Admitted) :
    (∀ c ∈ (u.apply db).cities.rows, (u.apply db).configs.HasKey c.configId) ∧
    (u.apply db).cities.Unique fun c => (c.configId, c.cityCode) := by
  have hsame : ∀ {db' : PricingDb}, db'.cities = db.cities →
      (∀ id, db.configs.HasKey id → db'.configs.HasKey id) →
      (∀ c ∈ db'.cities.rows, db'.configs.HasKey c.configId) ∧
      db'.cities.Unique fun c => (c.configId, c.cityCode) := by
    intro db' heq hconfigs
    rw [heq]
    exact ⟨fun c hc => hconfigs _ (h.cities_config c hc), h.cities_code⟩
  cases u with
  | configInsert c => exact hsame rfl fun _ hid => Table.hasKey_insert.mpr (.inl hid)
  | configUpdate id ch =>
      exact hsame rfl fun _ hid => (Table.hasKey_update (f := ch.set) fun _ => rfl).mpr hid
  | configDelete id =>
      refine ⟨fun c hc => ?_, h.cities_code.delete⟩
      obtain ⟨hc, hkept⟩ := Table.mem_delete.mp hc
      obtain ⟨d, hd, hid⟩ := h.cities_config c hc
      exact ⟨d, Table.mem_delete.mpr ⟨hd, fun hdid => hkept (hid.symm.trans hdid)⟩, hid⟩
  | cityInsert c =>
      obtain ⟨-, hconfig, hnew⟩ := hu
      refine ⟨fun d hd => ?_, h.cities_code.insert fun d hd heq => ?_⟩
      · rcases Table.mem_of_mem_insert hd with hd' | rfl
        · exact h.cities_config d hd'
        · exact hconfig
      · obtain ⟨hcfg, hcode⟩ := Prod.mk.inj heq
        exact hnew d (PricingDb.mem_citiesOf.mpr ⟨hd, hcfg⟩) hcode
  | cityUpdate id ch =>
      refine ⟨fun c hc => ?_, Table.Unique.update (g := ch.set) (fun _ => rfl) h.cities_code ?_ ?_⟩
      · obtain ⟨c', hc', rfl⟩ := (Table.mem_update (f := ch.set) fun _ => rfl).mp hc
        have hconfig := h.cities_config c' hc'
        split
        · exact hconfig
        · exact hconfig
      · rintro c hc c' hc' hid hid'
        exact db.cities.eq_of_key hc hc' (hid.trans hid'.symm)
      · rintro c hc hid d hd hne heq
        refine hne ?_
        rw [← h.cities_code c hc d hd heq]
        exact hid
  | cityDelete id =>
      exact ⟨fun c hc => h.cities_config c (Table.mem_delete.mp hc).1, h.cities_code.delete⟩
  | memberInsert t m => exact hsame (by rw [PricingRedo.apply_memberInsert]) (by
      rw [PricingRedo.apply_memberInsert]
      exact fun _ hid => hid)
  | cellInsert t c => exact hsame (by rw [PricingRedo.apply_cellInsert]) (by
      rw [PricingRedo.apply_cellInsert]
      exact fun _ hid => hid)
  | _ => exact hsame rfl fun _ hid => hid

/-- **Constraints.** A record that was checked keeps the constraints. -/
theorem PricingRedo.admitted (hu : u.Fits db) (h : db.Admitted) : (u.apply db).Admitted where
  ranges_template r hr := ((admitted_ranges hu h).1 r hr).1
  ranges_valid r hr := ((admitted_ranges hu h).1 r hr).2
  ranges_order := (admitted_ranges hu h).2
  groups_template := (admitted_groups hu h).1
  groups_order := (admitted_groups hu h).2
  members_group := (admitted_members hu h).1
  members_key := (admitted_members hu h).2
  placed := PricingRedo.placed h.placed
  cells_place := admitted_cells hu h
  configs_template := (admitted_configs hu h).1
  configs_province := (admitted_configs hu h).2
  cities_config := (admitted_cities hu h).1
  cities_code := (admitted_cities hu h).2

end Records

end WmsDu
