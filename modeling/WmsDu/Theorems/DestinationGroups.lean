import WmsDu.Pricing.Members

/-!
# Groups of destinations

The provinces of a group are compared with those of the others as pairs of a
code and a name; a destination is compared with them by code where both have
one, else by name. Pairs that differ may so still match one destination.
-/

namespace WmsDu

open Txn

/-! ## The calls -/

inductive GroupCall
  | create (templateId : Int) (payload : ModuleGroupWriteIn) (newGroupId : Int)
      (newMemberId : Nat → Int)
  | update (templateId groupId : Int) (payload : ModuleGroupWriteIn) (newMemberId : Nat → Int)
  | delete (templateId groupId : Int)

def GroupCall.prog : GroupCall → PricingTx Unit
  | .create templateId payload newGroupId newMemberId =>
      createGroup templateId payload newGroupId newMemberId
  | .update templateId groupId payload newMemberId =>
      updateGroup templateId groupId payload newMemberId
  | .delete templateId groupId => deleteGroup templateId groupId

/-- The call on one database, rolled back when it raises. -/
def GroupCall.call (c : GroupCall) (db : PricingDb) : Except PricingErr PricingDb := do
  let out ← c.prog.run db
  return out.2

/-- The provinces a call gives a group meet no member of the others. -/
def GroupCall.Apart (db : PricingDb) : GroupCall → Prop
  | .create templateId payload _ _ => db.ProvincesApart templateId payload.provinces none
  | .update templateId groupId payload _ =>
      db.ProvincesApart templateId payload.provinces (some groupId)
  | .delete _ _ => True

instance GroupCall.decidableApart (db : PricingDb) : (c : GroupCall) → Decidable (c.Apart db)
  | .create _ _ _ _ => PricingDb.decidableProvincesApart _ _ _ _
  | .update _ _ _ _ => PricingDb.decidableProvincesApart _ _ _ _
  | .delete _ _ => inferInstanceAs (Decidable True)

/-- **Step.** A call leaves each destination to one group at most exactly if
the provinces it sets meet no member of the others. -/
theorem GroupCall.oneGroup_iff {c : GroupCall} {db db' : PricingDb} (h : c.call db = .ok db')
    (hone : db.OneGroup) : db'.OneGroup ↔ c.Apart db := by
  obtain ⟨⟨_, w⟩, hrun, hret⟩ := bind_eq_ok.mp h
  cases hret
  cases c with
  | create t payload groupId newId =>
      obtain ⟨hfresh, hsets⟩ := createGroup_sets hrun
      rw [hsets.oneGroup_iff hone]
      refine forall₂_congr fun n _ => forall_congr' fun hgroup => ?_
      have hne : n.groupId ≠ groupId := by
        rintro rfl
        obtain ⟨g, hg, hid, -⟩ := hgroup
        exact hfresh ⟨g, hg, hid⟩
      rw [forall_memberRows (P := fun code name =>
        ¬ PlacesMeet code name n.provinceCode n.provinceName)]
      simp [hne]
  | update t groupId payload newId =>
      rw [(updateGroup_sets hrun).oneGroup_iff hone]
      refine forall₂_congr fun n _ => forall_congr' fun _ => imp_congr (by simp) ?_
      exact forall_memberRows (P := fun code name =>
        ¬ PlacesMeet code name n.provinceCode n.provinceName)
  | delete t groupId => exact iff_of_true (deleteGroup_oneGroup hrun hone) trivial

/-- **Destinations.** In every run of calls each of which sets provinces that
meet no member of the template's other groups, every destination belongs to
one group of a template at most; and of a call that goes through, this is true
afterwards exactly if it is such. -/
theorem destination_groups {db₀ db : PricingDb} (h₀ : db₀.OneGroup)
    (h : Reaches GroupCall.call (fun db c => c.Apart db) db₀ db) :
    db.OneGroup ∧ ∀ (c : GroupCall) (db' : PricingDb), c.call db = .ok db' →
      (db'.OneGroup ↔ c.Apart db) := by
  have hone : db.OneGroup := h.invariant h₀ fun _ _ _ hapart hw hcall =>
    (GroupCall.oneGroup_iff hcall hw).mpr hapart
  exact ⟨hone, fun _ _ hcall => GroupCall.oneGroup_iff hcall hone⟩

/-! ## Beijing by code, Beijing by name -/

/-- A draft without groups. -/
def sampleDraftDb : PricingDb where
  templates := ⟨[⟨1, 1, none, "2026", 1, 2, .draft, none, .notValidated⟩], List.nodup_singleton _⟩

theorem oneGroup_sampleDraftDb : sampleDraftDb.OneGroup := by
  rintro t g h dest ⟨g', hg, -⟩
  cases hg

def sampleByCode : GroupCall :=
  .create 1 { sortOrder := some 1, provinces := [⟨some "110000", none⟩] } 1 fun i => i + 1

/-- Beijing and Shanghai, each by its code, in two groups; then the first goes. -/
theorem destination_groups_sample : ∃ db,
    callAll GroupCall.call (fun db c => c.Apart db) sampleDraftDb
        [sampleByCode,
          .create 1 { sortOrder := some 2, provinces := [⟨some "310000", none⟩] } 2 fun i => i + 2,
          .update 1 2 { provinces := [⟨some "310000", some "上海市"⟩] } fun i => i + 3,
          .delete 1 1] = some db ∧
      (db.OneGroup ∧ ∀ (c : GroupCall) (db' : PricingDb), c.call db = .ok db' →
        (db'.OneGroup ↔ c.Apart db)) ∧
      db.members.rows.map (·.groupId) = [2] := by
  have hrun : ∃ db ∈ callAll GroupCall.call (fun db c => c.Apart db) sampleDraftDb
      [sampleByCode,
        .create 1 { sortOrder := some 2, provinces := [⟨some "310000", none⟩] } 2 fun i => i + 2,
        .update 1 2 { provinces := [⟨some "310000", some "上海市"⟩] } fun i => i + 3,
        .delete 1 1],
      db.members.rows.map (·.groupId) = [2] := by
    decide
  obtain ⟨db, hdb, hrows⟩ := hrun
  exact ⟨db, hdb, destination_groups oneGroup_sampleDraftDb (.of_callAll .start hdb), hrows⟩

/-- Beijing by its code in one group and by its name in another: what is sent
to Beijing by both belongs to both. -/
theorem destination_groups_not : sampleDraftDb.OneGroup ∧
    ∃ db, Reaches GroupCall.call (fun _ _ => True) sampleDraftDb db ∧ ¬ db.OneGroup := by
  refine ⟨oneGroup_sampleDraftDb, ?_⟩
  have hrun : ∃ db ∈ callAll GroupCall.call (fun _ _ => True) sampleDraftDb
      [sampleByCode,
        .create 1 { sortOrder := some 2, provinces := [⟨none, some "北京市"⟩] } 2 fun i => i + 2],
      db.HasGroup 1 1 ∧ db.HasGroup 1 2 ∧
        (∃ m ∈ db.membersOf 1,
          provinceMatch m.context { province := some "北京市", provinceCode := some "110000" } = true) ∧
        ∃ m ∈ db.membersOf 2,
          provinceMatch m.context { province := some "北京市", provinceCode := some "110000" } = true := by
    decide
  obtain ⟨db, hdb, hg, hg', hit, hit'⟩ := hrun
  refine ⟨db, .of_callAll .start hdb, fun hone => ?_⟩
  exact absurd (hone 1 1 2 _ hg hg' hit hit') (by decide)

end WmsDu
