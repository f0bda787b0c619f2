import WmsDu.Pricing.Writes

/-!
# The members of groups

When a destination matches two members, and what the calls on groups make of
the groups of a template and of their members.
-/

namespace WmsDu

open Txn

/-! ## Destinations of two members -/

/-- The members of a group match the destination. -/
def PricingDb.GroupMatches (db : PricingDb) (groupId : Int) (dest : Dest) : Prop :=
  ∃ m ∈ db.membersOf groupId, provinceMatch m.context dest = true

/-- Each destination is matched by one group of a template at most. -/
def PricingDb.OneGroup (db : PricingDb) : Prop :=
  ∀ t g h dest, db.HasGroup t g → db.HasGroup t h → db.GroupMatches g dest →
    db.GroupMatches h dest → g = h

/-- Some destination matches both places: they have the same code or the same
name, or one is known by its code and the other by its name alone. -/
def PlacesMeet (code name code' name' : Option String) : Prop :=
  (trimmed code ≠ "" ∧ trimmed code = trimmed code') ∨
    (trimmed name ≠ "" ∧ trimmed name = trimmed name') ∨
    (trimmed code ≠ "" ∧ trimmed code' = "" ∧ trimmed name' ≠ "") ∨
    (trimmed code' ≠ "" ∧ trimmed code = "" ∧ trimmed name ≠ "")

instance decidablePlacesMeet (code name code' name' : Option String) :
    Decidable (PlacesMeet code name code' name') := inferInstanceAs (Decidable (_ ∨ _))

theorem placeMatch_iff {rowCode rowName destCode destName : Option String} :
    placeMatch rowCode rowName destCode destName = true ↔
      (trimmed rowCode ≠ "" ∧ trimmed rowCode = trimmed destCode) ∨
        ((trimmed rowCode = "" ∨ trimmed destCode = "") ∧ trimmed rowName ≠ "" ∧
          trimmed rowName = trimmed destName) := by
  unfold placeMatch
  by_cases hrc : trimmed rowCode = "" <;> by_cases hdc : trimmed destCode = "" <;>
    by_cases hrn : trimmed rowName = "" <;> by_cases hdn : trimmed destName = "" <;>
    simp [hrc, hdc, hrn, hdn]

private theorem trimmed_none : trimmed none = "" := rfl

/-- The places meet exactly if some destination matches both. -/
theorem placesMeet_iff {code name code' name' : Option String} :
    PlacesMeet code name code' name' ↔ ∃ dest : Dest,
      placeMatch code name dest.provinceCode dest.province = true ∧
        placeMatch code' name' dest.provinceCode dest.province = true := by
  simp only [placeMatch_iff]
  constructor
  · rintro (⟨hne, heq⟩ | ⟨hne, heq⟩ | ⟨hne, hblank, hname⟩ | ⟨hne, hblank, hname⟩)
    · refine ⟨{ provinceCode := code }, .inl ⟨hne, rfl⟩, .inl ⟨heq ▸ hne, heq.symm⟩⟩
    · refine ⟨{ province := name }, .inr ⟨.inr trimmed_none, hne, rfl⟩, ?_⟩
      exact .inr ⟨.inr trimmed_none, heq ▸ hne, heq.symm⟩
    · exact ⟨{ provinceCode := code, province := name' }, .inl ⟨hne, rfl⟩,
        .inr ⟨.inl hblank, hname, rfl⟩⟩
    · exact ⟨{ provinceCode := code', province := name }, .inr ⟨.inl hblank, hname, rfl⟩,
        .inl ⟨hne, rfl⟩⟩
  · rintro ⟨dest, h, h'⟩
    rcases h with ⟨hne, hcode⟩ | ⟨hblank, hne, hname⟩
    · rcases h' with ⟨-, hcode'⟩ | ⟨hblank', hne', hname'⟩
      · exact .inl ⟨hne, hcode.trans hcode'.symm⟩
      · -- the destination has a code, so the other place has none
        refine .inr (.inr (.inl ⟨hne, hblank'.resolve_right ?_, hne'⟩))
        rw [← hcode]
        exact hne
    · rcases h' with ⟨hne', hcode'⟩ | ⟨-, hne', hname'⟩
      · refine .inr (.inr (.inr ⟨hne', hblank.resolve_right ?_, hne⟩))
        rw [← hcode']
        exact hne'
      · exact .inr (.inl ⟨hne, hname.trans hname'.symm⟩)

/-! ## New members of a group -/

section Members
variable {db db' : PricingDb} {t groupId : Int} {rows : List GroupMember}

/-- A group of the template has other members, whether it was there or not. -/
structure SetsMembers (t groupId : Int) (rows : List GroupMember) (db db' : PricingDb) : Prop where
  groups : ∀ t' h, db'.HasGroup t' h ↔ db.HasGroup t' h ∨ (t' = t ∧ h = groupId)
  members : ∀ m, m ∈ db'.members.rows ↔ (m ∈ db.members.rows ∧ m.groupId ≠ groupId) ∨ m ∈ rows
  owned : ∀ m ∈ rows, m.groupId = groupId

/-- The provinces meet no member of the template's groups, up to one. -/
def PricingDb.ProvincesApart (db : PricingDb) (t : Int) (provinces : List ModuleGroupProvinceWriteIn)
    (excludeGroupId : Option Int) : Prop :=
  ∀ n ∈ db.members.rows, db.HasGroup t n.groupId → some n.groupId ≠ excludeGroupId →
    ∀ p ∈ provinces, ¬ PlacesMeet p.provinceCode p.provinceName n.provinceCode n.provinceName

instance PricingDb.decidableProvincesApart (db : PricingDb) (t : Int)
    (provinces : List ModuleGroupProvinceWriteIn) (excludeGroupId : Option Int) :
    Decidable (db.ProvincesApart t provinces excludeGroupId) :=
  inferInstanceAs (Decidable (∀ n ∈ db.members.rows, _ → _ → _))

namespace SetsMembers

theorem matches_other (h : SetsMembers t groupId rows db db') {g : Int} (hne : g ≠ groupId)
    (dest : Dest) : db'.GroupMatches g dest ↔ db.GroupMatches g dest := by
  unfold PricingDb.GroupMatches
  simp only [PricingDb.mem_membersOf, h.members]
  constructor
  · rintro ⟨m, ⟨⟨hm, -⟩ | hm, hg⟩, hmatch⟩
    · exact ⟨m, ⟨hm, hg⟩, hmatch⟩
    · exact absurd (hg.symm.trans (h.owned m hm)) hne
  · rintro ⟨m, ⟨hm, rfl⟩, hmatch⟩
    exact ⟨m, ⟨.inl ⟨hm, hne⟩, rfl⟩, hmatch⟩

theorem matches_self (h : SetsMembers t groupId rows db db') (dest : Dest) :
    db'.GroupMatches groupId dest ↔ ∃ m ∈ rows, provinceMatch m.context dest = true := by
  unfold PricingDb.GroupMatches
  simp only [PricingDb.mem_membersOf, h.members]
  constructor
  · rintro ⟨m, ⟨⟨-, hne⟩ | hm, hg⟩, hmatch⟩
    · exact absurd hg hne
    · exact ⟨m, hm, hmatch⟩
  · rintro ⟨m, hm, hmatch⟩
    exact ⟨m, ⟨.inr hm, h.owned m hm⟩, hmatch⟩

/-- **New members.** Destinations still belong to one group at most exactly if
the new members meet none of the other groups. -/
theorem oneGroup_iff (h : SetsMembers t groupId rows db db') (hone : db.OneGroup) :
    db'.OneGroup ↔ ∀ n ∈ db.members.rows, db.HasGroup t n.groupId → n.groupId ≠ groupId →
      ∀ m ∈ rows, ¬ PlacesMeet m.provinceCode m.provinceName n.provinceCode n.provinceName := by
  have hself : db'.HasGroup t groupId := (h.groups t groupId).mpr (.inr ⟨rfl, rfl⟩)
  constructor
  · intro hone' n hn hgroup hne m hm hmeet
    obtain ⟨dest, hmatch, hmatch'⟩ := placesMeet_iff.mp hmeet
    refine hne (hone' t n.groupId groupId dest ((h.groups _ _).mpr (.inl hgroup)) hself ?_ ?_)
    · exact (h.matches_other hne dest).mpr ⟨n, PricingDb.mem_membersOf.mpr ⟨hn, rfl⟩, hmatch'⟩
    · exact (h.matches_self dest).mpr ⟨m, hm, hmatch⟩
  · intro hapart
    -- a destination of the group and of another one is a place where two members meet
    have hmixed : ∀ t' g dest, g ≠ groupId → db'.HasGroup t' g → db'.HasGroup t' groupId →
        db'.GroupMatches g dest → ¬ db'.GroupMatches groupId dest := by
      intro t' g dest hne hg hgroup hmatch hmatch'
      have ht : t' = t := hgroup.unique hself
      have hold : db.HasGroup t g := by
        rcases (h.groups t' g).mp hg with hold | ⟨-, heq⟩
        · exact ht ▸ hold
        · exact absurd heq hne
      obtain ⟨n, hin, hnmatch⟩ := (h.matches_other hne dest).mp hmatch
      obtain ⟨hn, hgn⟩ := PricingDb.mem_membersOf.mp hin
      obtain ⟨m, hm, hmmatch⟩ := (h.matches_self dest).mp hmatch'
      exact hapart n hn (hgn ▸ hold) (hgn ▸ hne) m hm (placesMeet_iff.mpr ⟨dest, hmmatch, hnmatch⟩)
    intro t' g g' dest hg hg' hmatch hmatch'
    by_cases hgid : g = groupId
    · by_cases hgid' : g' = groupId
      · rw [hgid, hgid']
      · subst hgid
        exact absurd hmatch (hmixed t' g' dest hgid' hg' hg hmatch')
    · by_cases hgid' : g' = groupId
      · subst hgid'
        exact absurd hmatch' (hmixed t' g dest hgid hg hg' hmatch)
      · have hold : ∀ g, g ≠ groupId → db'.HasGroup t' g → db.HasGroup t' g := fun g hne hg =>
          ((h.groups t' g).mp hg).resolve_right fun heq => hne heq.2
        exact hone t' g g' dest (hold g hgid hg) (hold g' hgid' hg')
          ((h.matches_other hgid dest).mp hmatch) ((h.matches_other hgid' dest).mp hmatch')

end SetsMembers

/-! ## Calls -/

/-- Members are inserted one by one into a group that is there. -/
private theorem run_insertMembers
    (hrun : (insertEach (insertMember t) rows).run db = .ok ((), db'))
    (hgroup : db.HasGroup t groupId) (howned : ∀ m ∈ rows, m.groupId = groupId) :
    (∀ t' h, db'.HasGroup t' h ↔ db.HasGroup t' h) ∧
      ∀ m, m ∈ db'.members.rows ↔ m ∈ db.members.rows ∨ m ∈ rows := by
  induction rows generalizing db with
  | nil =>
      cases hrun
      exact ⟨fun _ _ => Iff.rfl, fun m => by simp⟩
  | cons m rows ih =>
      obtain ⟨_, db₁, hfirst, hrest⟩ := Prog.run_bind_ok.mp hrun
      obtain ⟨hfits, rfl⟩ := (inserts_member t m).run hfirst
      have hin : db.HasGroup t m.groupId := by
        rw [howned m List.mem_cons_self]
        exact hgroup
      rw [PricingRedo.apply_memberInsert, if_pos hin] at hrest
      obtain ⟨hgroups, hmembers⟩ := ih hrest hgroup fun n hn => howned n (List.mem_cons_of_mem _ hn)
      refine ⟨fun t' h => hgroups t' h, fun n => ?_⟩
      rw [hmembers n, Table.rows_insert_new hfits.1]
      simp [or_assoc]

/-- The members of a group that is there are all deleted. -/
private theorem run_deleteMembers (hrun : (deleteMembers t groupId).run db = .ok ((), db'))
    (hgroup : db.HasGroup t groupId) :
    (∀ t' h, db'.HasGroup t' h ↔ db.HasGroup t' h) ∧
      ∀ m, m ∈ db'.members.rows ↔ m ∈ db.members.rows ∧ m.groupId ≠ groupId := by
  obtain ⟨us, hus, rfl⟩ := Prog.run_write_ok.mp hrun
  cases hus
  refine ⟨fun _ _ => Iff.rfl, fun m => ?_⟩
  refine Table.mem_delete.trans (and_congr_right fun hm => not_congr ⟨fun h => h.2.1, ?_⟩)
  rintro rfl
  exact ⟨hgroup, rfl, List.mem_map_of_mem (PricingDb.mem_membersOf.mpr ⟨hm, rfl⟩)⟩

/-- What changes columns of groups, or cells, leaves groups and members where
they are. -/
private theorem run_keeps_members {α : Type} {K : PricingRedo → Prop} {x : PricingTx α} {a : α}
    (hx : Keeping K x) (hK : ∀ u, K u → u.part = .cells ∨ ∃ t id ch, u = .groupUpdate t id ch)
    (hrun : x.run db = .ok (a, db')) :
    (∀ t' h, db'.HasGroup t' h ↔ db.HasGroup t' h) ∧ db'.members = db.members := by
  have hframe := hx.run_frame (f := fun db => (db.HasGroup, db.members)) (fun u w hu => ?_) hrun
  · obtain ⟨hgroups, hmembers⟩ := Prod.mk.inj hframe
    exact ⟨fun t' h => iff_of_eq (congrFun (congrFun hgroups t') h), hmembers⟩
  · rcases hK u hu with hpart | ⟨t, id, ch, rfl⟩
    · cases u with
      | cellsDelete t ids => rfl
      | cellInsert t c => rw [PricingRedo.apply_cellInsert]; rfl
      | _ => cases hpart
    · refine Prod.ext (funext fun t' => funext fun h => propext ?_) rfl
      exact PricingDb.hasGroup_update

private theorem memberRows_owned {newId : Nat → Int} {provinces : List ModuleGroupProvinceWriteIn} :
    ∀ m ∈ memberRows groupId newId provinces, m.groupId = groupId := by
  intro m hm
  obtain ⟨x, -, rfl⟩ := List.mem_map.mp hm
  rfl

/-- Members take the place of those a group has, once columns and cells were
written. -/
private theorem run_replaceMembers {α : Type} {K : PricingRedo → Prop} {x : PricingTx α}
    {newId : Nat → Int} {provinces : List ModuleGroupProvinceWriteIn} (hx : Keeping K x)
    (hK : ∀ u, K u → u.part = .cells ∨ ∃ t id ch, u = .groupUpdate t id ch)
    (hgroup : db.HasGroup t groupId)
    (hrun : (do
      deleteMembers t groupId
      let _ ← x
      insertEach (insertMember t) (memberRows groupId newId provinces)).run db = .ok ((), db')) :
    (∀ t' h, db'.HasGroup t' h ↔ db.HasGroup t' h) ∧
      ∀ m, m ∈ db'.members.rows ↔
        (m ∈ db.members.rows ∧ m.groupId ≠ groupId) ∨ m ∈ memberRows groupId newId provinces := by
  obtain ⟨_, db₁, hdelete, hrest⟩ := Prog.run_bind_ok.mp hrun
  obtain ⟨a, db₂, hcolumns, hinsert⟩ := Prog.run_bind_ok.mp hrest
  obtain ⟨hgroups₁, hmembers₁⟩ := run_deleteMembers hdelete hgroup
  obtain ⟨hgroups₂, hmembers₂⟩ := run_keeps_members hx hK hcolumns
  have hgroup₂ : db₂.HasGroup t groupId := (hgroups₂ _ _).mpr ((hgroups₁ _ _).mpr hgroup)
  obtain ⟨hgroups₃, hmembers₃⟩ := run_insertMembers hinsert hgroup₂ memberRows_owned
  refine ⟨fun t' h => ?_, fun m => ?_⟩
  · rw [hgroups₃, hgroups₂, hgroups₁]
  · rw [hmembers₃, hmembers₂, hmembers₁]

/-- `create_group` adds a new group with the members that were sent. -/
theorem createGroup_sets {payload : ModuleGroupWriteIn} {newId : Nat → Int}
    (hrun : (createGroup t payload groupId newId).run db = .ok ((), db')) :
    ¬ db.groups.HasKey groupId ∧
      SetsMembers t groupId (memberRows groupId newId payload.provinces) db db' := by
  obtain ⟨_, _, hload, hrest⟩ := Prog.run_bind_ok.mp hrun
  cases (keeping_loadTemplate _).run_same hload
  obtain ⟨_, _, hdraft, hrest⟩ := Prog.run_bind_ok.mp hrest
  cases (keeping_ensureDraft _).run_same hdraft
  obtain ⟨_, _, hcheck, hrest⟩ := Prog.run_bind_ok.mp hrest
  cases (keeping_validateProvinces _ _ _).run_same hcheck
  obtain ⟨_, db₁, hinsert, hrest⟩ := Prog.run_bind_ok.mp hrest
  obtain ⟨⟨hfresh, -⟩, hdb₁⟩ := (inserts_group _).run hinsert
  have hrows : db₁.groups.rows = db.groups.rows ++ [⟨groupId, t, "__tmp__", payload.sortOrder.getD 0,
      payload.active⟩] := by
    rw [hdb₁]
    exact Table.rows_insert_new hfresh
  have hgroups₁ : ∀ t' h, db₁.HasGroup t' h ↔ db.HasGroup t' h ∨ (t' = t ∧ h = groupId) := by
    intro t' h
    unfold PricingDb.HasGroup
    rw [hrows]
    simp only [List.mem_append, List.mem_singleton, or_and_right, exists_or, exists_eq_left]
    refine or_congr Iff.rfl ⟨?_, ?_⟩
    · rintro ⟨rfl, rfl⟩
      exact ⟨rfl, rfl⟩
    · rintro ⟨rfl, rfl⟩
      exact ⟨rfl, rfl⟩
  obtain ⟨hgroups, hmembers⟩ := run_replaceMembers
    (keeping_updateGroupRow (K := fun u => ∃ t id ch, u = .groupUpdate t id ch) ⟨_, _, _, rfl⟩)
    (fun _ hu => .inr hu) ((hgroups₁ _ _).mpr (.inr ⟨rfl, rfl⟩)) hrest
  refine ⟨hfresh, fun t' h => (hgroups t' h).trans (hgroups₁ t' h), fun m => ?_, memberRows_owned⟩
  rw [hmembers, hdb₁]
  rfl

/-- Every row is a province that was sent, and every province has a row. -/
theorem forall_memberRows {newId : Nat → Int} {provinces : List ModuleGroupProvinceWriteIn}
    {P : Option String → Option String → Prop} :
    (∀ m ∈ memberRows groupId newId provinces, P m.provinceCode m.provinceName) ↔
      ∀ p ∈ provinces, P p.provinceCode p.provinceName := by
  constructor
  · intro h p hp
    rw [← List.zipIdx_map_fst 0 provinces] at hp
    obtain ⟨⟨q, i⟩, hq, rfl⟩ := List.mem_map.mp hp
    exact h _ (List.mem_map_of_mem hq)
  · intro h m hm
    obtain ⟨⟨p, i⟩, hp, rfl⟩ := List.mem_map.mp hm
    exact h p (List.fst_mem_of_mem_zipIdx hp)

/-- `update_group` gives a group of the template the members that were sent. -/
theorem updateGroup_sets {payload : ModuleGroupWriteIn} {newId : Nat → Int}
    (hrun : (updateGroup t groupId payload newId).run db = .ok ((), db')) :
    SetsMembers t groupId (memberRows groupId newId payload.provinces) db db' := by
  obtain ⟨_, _, hload, hrest⟩ := Prog.run_bind_ok.mp hrun
  cases (keeping_loadTemplate _).run_same hload
  obtain ⟨_, _, hdraft, hrest⟩ := Prog.run_bind_ok.mp hrest
  cases (keeping_ensureDraft _).run_same hdraft
  obtain ⟨g, _, hfound, hrest⟩ := Prog.run_bind_ok.mp hrest
  obtain ⟨_, _, hread, hfound⟩ := Prog.run_bind_ok.mp hfound
  cases hread
  obtain ⟨hfind, hdb⟩ := Prog.run_requireSome_ok.mp hfound
  cases hdb
  have hgroup : db.HasGroup t groupId :=
    PricingDb.hasGroup_iff.mpr ⟨g, List.mem_of_find?_eq_some hfind, by simpa using List.find?_some hfind⟩
  obtain ⟨_, _, hcheck, hrest⟩ := Prog.run_bind_ok.mp hrest
  cases (keeping_validateProvinces _ _ _).run_same hcheck
  have hx : Keeping (fun u => u.part = .cells ∨ ∃ t id ch, u = .groupUpdate t id ch) (do
      deleteCells t [groupId]
      updateGroupRow t groupId
        { sortOrder := payload.sortOrder.bind (changed g.sortOrder)
          active := changed g.active payload.active }) :=
    .bind (keeping_deleteCells fun _ => .inl rfl) fun _ =>
      keeping_updateGroupRow (.inr ⟨_, _, _, rfl⟩)
  obtain ⟨hgroups, hmembers⟩ := run_replaceMembers hx (fun _ hu => hu) hgroup hrest
  refine ⟨fun t' h => ?_, hmembers, memberRows_owned⟩
  rw [hgroups]
  refine ⟨.inl, ?_⟩
  rintro (hold | ⟨rfl, rfl⟩)
  · exact hold
  · exact hgroup

/-- `delete_group` leaves the groups of a template with one less, and no
member more. -/
theorem deleteGroup_oneGroup (hrun : (deleteGroup t groupId).run db = .ok ((), db'))
    (h : db.OneGroup) : db'.OneGroup := by
  obtain ⟨_, _, hload, hrest⟩ := Prog.run_bind_ok.mp hrun
  cases (keeping_loadTemplate _).run_same hload
  obtain ⟨_, _, hdraft, hrest⟩ := Prog.run_bind_ok.mp hrest
  cases (keeping_ensureDraft _).run_same hdraft
  obtain ⟨_, _, hfound, hrest⟩ := Prog.run_bind_ok.mp hrest
  cases (keeping_loadGroup _ _).run_same hfound
  obtain ⟨us, hus, rfl⟩ := Prog.run_write_ok.mp hrest
  cases hus
  have hgroup : ∀ t' g, ((PricingRedo.groupDelete t groupId).apply db).HasGroup t' g →
      db.HasGroup t' g := fun t' g ⟨row, hrow, hid⟩ => ⟨row, (Table.mem_delete.mp hrow).1, hid⟩
  have hmatch : ∀ g dest, ((PricingRedo.groupDelete t groupId).apply db).GroupMatches g dest →
      db.GroupMatches g dest := by
    rintro g dest ⟨m, hm, hit⟩
    obtain ⟨hm, hg⟩ := PricingDb.mem_membersOf.mp hm
    exact ⟨m, PricingDb.mem_membersOf.mpr ⟨(Table.mem_delete.mp hm).1, hg⟩, hit⟩
  exact fun t' g g' dest hg hg' hit hit' =>
    h t' g g' dest (hgroup t' g hg) (hgroup t' g' hg') (hmatch g dest hit) (hmatch g' dest hit')

end Members

end WmsDu
