import WmsDu.Pricing.Constraints

/-!
# What the calls of the pricing tables write

Which tables a call writes, below which template, and that every statement
keeps the constraints: it checks them for the one record it writes, and the
bindings have none.
-/

namespace WmsDu

open Txn

/-! ## Parts -/

/-- The tables a record is about; a deleted range or group takes rows of other
tables along. -/
inductive PricingPart
  | templates | validationRecords | ranges | groups | members | cells | surcharges | bindings
deriving DecidableEq, Repr

def PricingRedo.part : PricingRedo → PricingPart
  | .templateInsert _ | .templateUpdate _ _ => .templates
  | .validationRecordInsert _ => .validationRecords
  | .rangesDelete _ _ | .rangeInsert _ => .ranges
  | .groupInsert _ | .groupUpdate _ _ _ | .groupDelete _ _ => .groups
  | .membersDelete _ _ _ | .memberInsert _ _ => .members
  | .cellsDelete _ _ | .cellInsert _ _ => .cells
  | .configInsert _ | .configUpdate _ _ | .configDelete _ | .cityInsert _ | .cityUpdate _ _
  | .cityDelete _ => .surcharges
  | .bindingInsert _ | .bindingUpdate _ _ _ | .bindingDelete _ _ => .bindings

def PricingCall.parts : PricingCall → List PricingPart
  | .createTemplate _ _ | .updateTemplate _ _ _ => [.templates]
  | .putTemplateRanges _ _ _ => [.ranges]
  | .createGroup _ _ _ _ => [.groups, .members]
  | .updateGroup _ _ _ _ => [.groups, .members, .cells]
  | .deleteGroup _ _ => [.groups]
  | .putTemplateMatrixCells _ _ _ => [.cells]
  | .submitValidation _ _ _ _ => [.templates, .validationRecords]
  | .cloneTemplate _ _ _ => [.templates, .ranges, .groups, .members, .cells, .surcharges]
  | .batchCreateProvinceSurchargeConfigs _ _ _ | .createSurchargeCityContainer _ _ _ _ _
  | .createSurchargeConfig _ _ _ _ | .updateSurchargeConfig _ _ _ | .deleteSurchargeConfig _ =>
      [.surcharges]
  | .bindProviderToWarehouse _ _ | .updateWarehouseBinding _ _ _ | .bulkUpsertWarehouseBindings _ _ _
  | .unbindProviderFromWarehouse _ _ | .activateWarehouseBinding _ _ _ _
  | .deactivateWarehouseBinding _ _ _ => [.bindings]

/-- The template whose structure a call edits. -/
def PricingCall.edits : PricingCall → Option Int
  | .putTemplateRanges t _ _ | .createGroup t _ _ _ | .updateGroup t _ _ _ | .deleteGroup t _
  | .putTemplateMatrixCells t _ _ => some t
  | .cloneTemplate _ _ ids => some ids.template
  | _ => none

/-- The record may be written by the call. -/
def PricingCall.May (c : PricingCall) (u : PricingRedo) : Prop :=
  u.part ∈ c.parts ∧ ∀ t ∈ u.structureOf, c.edits = some t

/-! ## Statements -/

section Keeping
variable {α β : Type} {K : PricingRedo → Prop} {x : PricingTx α}

/-- Every record the program can write satisfies `K`, and every statement keeps
the constraints. -/
structure Keeping (K : PricingRedo → Prop) (x : PricingTx α) : Prop where
  every : x.Every fun s => ∀ db a us, s.exec db = .ok (a, us) →
    (∀ u ∈ us, K u) ∧ (db.Admitted → (redo us db).Admitted)

namespace Keeping

theorem ret (a : α) : Keeping K (pure a) := ⟨Prog.every_pure a⟩

theorem raise (e : PricingErr) : Keeping K (Prog.raise e : PricingTx α) := ⟨Prog.every_raise e⟩

theorem bind {y : PricingTx β} {f : β → PricingTx α} (hy : Keeping K y)
    (hf : ∀ b, Keeping K (f b)) : Keeping K (y >>= f) :=
  ⟨Prog.every_bind hy.every fun b => (hf b).every⟩

theorem ite {c : Prop} [Decidable c] {y : PricingTx α} (hx : Keeping K x) (hy : Keeping K y) :
    Keeping K (if c then x else y) := ⟨Prog.every_ite hx.every hy.every⟩

theorem mapRaise {f : PricingErr → PricingErr} (hx : Keeping K x) : Keeping K (x.mapRaise f) :=
  ⟨Prog.every_mapRaise hx.every⟩

theorem read (q : PricingDb → α) : Keeping K (Prog.read q) := by
  refine ⟨Prog.every_exec fun db a us h => ?_⟩
  cases h
  exact ⟨by simp, fun hdb => hdb⟩

theorem require (c : Prop) [Decidable c] (e : PricingErr) : Keeping K (Prog.require c e) :=
  .ite (.ret ()) (.raise e)

theorem requireSome (o : Option α) (e : PricingErr) : Keeping K (Prog.requireSome o e) := by
  cases o with
  | none => exact raise _
  | some a => exact ret a

theorem ofExcept (r : Except PricingErr α) : Keeping K (Prog.ofExcept r) := by
  cases r with
  | error e => exact raise _
  | ok a => exact ret a

theorem each {insert : β → PricingTx Unit} {l : List β} (h : ∀ b ∈ l, Keeping K (insert b)) :
    Keeping K (insertEach insert l) := by
  induction l with
  | nil => exact ret ()
  | cons b l ih =>
      exact bind (h b List.mem_cons_self) fun _ => ih fun c hc => h c (List.mem_cons_of_mem _ hc)

/-- A statement that writes one record at most, after its checks. -/
theorem write {f : PricingDb → Except PricingErr (α × List PricingRedo)}
    (h : ∀ db a us, f db = .ok (a, us) → us = [] ∨ ∃ u, us = [u] ∧ K u ∧ u.Fits db) :
    Keeping K (Prog.write f) := by
  refine ⟨Prog.every_exec fun db a us hs => ?_⟩
  rcases h db a us hs with rfl | ⟨u, rfl, hu, hfits⟩
  · exact ⟨by simp, fun hdb => hdb⟩
  · exact ⟨by simpa using hu, fun hdb => PricingRedo.admitted hfits hdb⟩

/-- A statement that writes records which fit any state. -/
theorem record {f : PricingDb → List PricingRedo}
    (h : ∀ db, ∀ u ∈ f db, K u ∧ ∀ db', u.Fits db') : Keeping K (Prog.record f) := by
  refine ⟨Prog.every_exec fun db a us hs => ?_⟩
  cases hs
  refine ⟨fun u hu => (h db u hu).1, fun hdb => ?_⟩
  exact redo_preserves (U := PricingRedo) (I := PricingDb.Admitted)
    (fun u hu _ hw => PricingRedo.admitted ((h db u hu).2 _) hw) hdb

/-- What every record keeps and the constraints hold after a run. -/
theorem run_preserves {I : PricingDb → Prop} (hx : Keeping K x)
    (hI : ∀ u db, K u → I db → I (u.apply db)) {db db' : PricingDb} {a : α}
    (h : x.run db = .ok (a, db')) (hdb : db.Admitted) (hI₀ : I db) : db'.Admitted ∧ I db' := by
  refine Prog.Every.run_preserves (I := fun w => w.Admitted ∧ I w) hx.every ?_ h ⟨hdb, hI₀⟩
  rintro β s w b us hs hexec ⟨hw, hIw⟩
  obtain ⟨hK, hkeep⟩ := hs w b us hexec
  exact ⟨hkeep hw, redo_preserves (U := PricingRedo) (fun u hu v hv => hI u v (hK u hu) hv) hIw⟩

/-- A reading that no record changes is the same after a run. -/
theorem run_frame {γ : Type} {f : PricingDb → γ} (hx : Keeping K x)
    (hf : ∀ u db, K u → f (u.apply db) = f db) {db db' : PricingDb} {a : α}
    (h : x.run db = .ok (a, db')) : f db' = f db := by
  refine Prog.Every.run_frame hx.every (fun s w b us hs hexec => ?_) h
  exact redo_frame (U := PricingRedo) fun u hu v => hf u v ((hs w b us hexec).1 u hu)

/-- What only reads leaves the database as it is. -/
theorem run_same (hx : Keeping (fun _ => False) x) {db db' : PricingDb} {a : α}
    (h : x.run db = .ok (a, db')) : db' = db :=
  hx.run_frame (f := fun db => db) (fun _ _ hu => hu.elim) h

end Keeping

/-! ## Inserts -/

/-- The program is one statement, which writes the record once it fits. -/
def Inserts (x : PricingTx Unit) (u : PricingRedo) : Prop :=
  ∃ f, x = Prog.write f ∧ ∀ db a us, f db = .ok (a, us) → us = [u] ∧ u.Fits db

namespace Inserts
variable {x : PricingTx Unit} {u : PricingRedo}

theorem keeping (h : Inserts x u) (hu : K u) : Keeping K x := by
  obtain ⟨f, rfl, hf⟩ := h
  refine Keeping.write fun db a us hs => .inr ?_
  obtain ⟨rfl, hfits⟩ := hf db a us hs
  exact ⟨u, rfl, hu, hfits⟩

theorem run {db db' : PricingDb} (h : Inserts x u) (hrun : x.run db = .ok ((), db')) :
    u.Fits db ∧ db' = u.apply db := by
  obtain ⟨f, rfl, hf⟩ := h
  obtain ⟨us, hs, rfl⟩ := Prog.run_write_ok.mp hrun
  obtain ⟨rfl, hfits⟩ := hf db () us hs
  exact ⟨hfits, rfl⟩

end Inserts

theorem inserts_template (t : PricingTemplate) : Inserts (insertTemplate t) (.templateInsert t) := by
  refine ⟨_, rfl, fun db a us hs => ?_⟩
  split at hs
  · cases hs
  · rename_i hkey
    split at hs <;> cases hs
    exact ⟨rfl, hkey⟩

theorem inserts_validationRecord (r : TemplateValidationRecord) :
    Inserts (insertValidationRecord r) (.validationRecordInsert r) := by
  refine ⟨_, rfl, fun db a us hs => ?_⟩
  split at hs <;> cases hs
  exact ⟨rfl, trivial⟩

theorem inserts_range (r : ModuleRange) : Inserts (insertRange r) (.rangeInsert r) := by
  refine ⟨_, rfl, fun db a us hs => ?_⟩
  split at hs
  · cases hs
  · rename_i hkey
    split at hs
    · cases hs
    · rename_i htemplate
      split at hs
      · cases hs
      · rename_i hvalid
        split at hs
        · cases hs
        · split at hs
          · cases hs
          · rename_i horder
            split at hs <;> cases hs
            exact ⟨rfl, hkey, not_not.mp htemplate, not_not.mp hvalid,
              fun s hr heq => horder ⟨s, hr, heq⟩⟩

theorem inserts_group (g : DestinationGroup) : Inserts (insertGroup g) (.groupInsert g) := by
  refine ⟨_, rfl, fun db a us hs => ?_⟩
  split at hs
  · cases hs
  · rename_i hkey
    split at hs
    · cases hs
    · rename_i htemplate
      split at hs
      · cases hs
      · rename_i horder
        cases hs
        exact ⟨rfl, hkey, not_not.mp htemplate, fun h hh heq => horder ⟨h, hh, heq⟩⟩

theorem inserts_member (t : Int) (m : GroupMember) :
    Inserts (insertMember t m) (.memberInsert t m) := by
  refine ⟨_, rfl, fun db a us hs => ?_⟩
  split at hs
  · cases hs
  · rename_i hkey
    split at hs
    · cases hs
    · split at hs
      · cases hs
      · split at hs
        · cases hs
        · rename_i hnew
          cases hs
          exact ⟨rfl, hkey, fun n hn heq => hnew ⟨n, hn, heq⟩⟩

theorem inserts_cell (t : Int) (c : MatrixCell) : Inserts (insertCell t c) (.cellInsert t c) := by
  refine ⟨_, rfl, fun db a us hs => ?_⟩
  split at hs
  · cases hs
  · rename_i hkey
    split at hs
    · cases hs
    · split at hs
      · cases hs
      · split at hs
        · cases hs
        · rename_i hnew
          cases hs
          exact ⟨rfl, hkey, fun d hd heq => hnew ⟨d, hd, heq⟩⟩

theorem inserts_config (c : SurchargeConfig) : Inserts (insertConfig c) (.configInsert c) := by
  refine ⟨_, rfl, fun db a us hs => ?_⟩
  split at hs
  · cases hs
  · rename_i hkey
    split at hs
    · cases hs
    · rename_i htemplate
      split at hs
      · cases hs
      · split at hs
        · cases hs
        · rename_i hnew
          cases hs
          exact ⟨rfl, hkey, not_not.mp htemplate, fun d hd heq => hnew ⟨d, hd, heq⟩⟩

theorem inserts_city (c : SurchargeCity) : Inserts (insertCity c) (.cityInsert c) := by
  refine ⟨_, rfl, fun db a us hs => ?_⟩
  split at hs
  · cases hs
  · rename_i hkey
    split at hs
    · cases hs
    · rename_i hconfig
      split at hs
      · cases hs
      · split at hs
        · cases hs
        · rename_i hnew
          cases hs
          exact ⟨rfl, hkey, not_not.mp hconfig, fun d hd heq => hnew ⟨d, hd, heq⟩⟩

/-! ## Updates and deletions -/

theorem keeping_updateTemplateRow {id : Int} {ch : TemplateChange} (h : K (.templateUpdate id ch)) :
    Keeping K (updateTemplateRow id ch) := by
  refine Keeping.write fun db a us hs => ?_
  split at hs
  · cases hs
    exact .inl rfl
  · split at hs
    · cases hs
    · split at hs <;> cases hs
      exact .inr ⟨_, rfl, h, trivial⟩

theorem keeping_updateGroupRow {t id : Int} {ch : GroupChange} (h : K (.groupUpdate t id ch)) :
    Keeping K (updateGroupRow t id ch) := by
  refine Keeping.write fun db a us hs => ?_
  split at hs
  · cases hs
    exact .inl rfl
  · split at hs
    · cases hs
    · split at hs
      · cases hs
      · rename_i hfree
        cases hs
        exact .inr ⟨_, rfl, h, fun s hs g hg hne heq => hfree ⟨s, hs, g, hg, hne, heq⟩⟩

theorem keeping_updateConfigRow {id : Int} {ch : SurchargeConfigChange} (h : K (.configUpdate id ch)) :
    Keeping K (updateConfigRow id ch) := by
  refine Keeping.write fun db a us hs => ?_
  split at hs
  · cases hs
    exact .inl rfl
  · split at hs
    · cases hs
    · rename_i c hlook
      split at hs
      · cases hs
      · split at hs
        · cases hs
        · rename_i hfree
          cases hs
          refine .inr ⟨_, rfl, h, fun d hd hid e he hne heq => ?_⟩
          obtain ⟨hc, hcid⟩ := Table.lookup_eq_some.mp hlook
          cases db.configs.eq_of_key hd hc (hid.trans hcid.symm)
          exact hfree ⟨e, he, hne, heq⟩

theorem keeping_updateCityRow {id : Int} {ch : SurchargeCityChange} (h : K (.cityUpdate id ch)) :
    Keeping K (updateCityRow id ch) := by
  refine Keeping.write fun db a us hs => ?_
  split at hs
  · cases hs
    exact .inl rfl
  · split at hs
    · cases hs
    · split at hs <;> cases hs
      exact .inr ⟨_, rfl, h, trivial⟩

theorem keeping_deleteRanges {t : Int} (h : ∀ ids, K (.rangesDelete t ids)) :
    Keeping K (deleteRanges t) :=
  Keeping.record fun _ u hu => by
    rw [List.mem_singleton.mp hu]
    exact ⟨h _, fun _ => trivial⟩

theorem keeping_deleteGroupRow {t id : Int} (h : K (.groupDelete t id)) :
    Keeping K (deleteGroupRow t id) :=
  Keeping.record fun _ u hu => by
    rw [List.mem_singleton.mp hu]
    exact ⟨h, fun _ => trivial⟩

theorem keeping_deleteMembers {t groupId : Int} (h : ∀ ids, K (.membersDelete t groupId ids)) :
    Keeping K (deleteMembers t groupId) :=
  Keeping.record fun _ u hu => by
    rw [List.mem_singleton.mp hu]
    exact ⟨h _, fun _ => trivial⟩

theorem keeping_deleteCells {t : Int} {groupIds : List Int} (h : ∀ ids, K (.cellsDelete t ids)) :
    Keeping K (deleteCells t groupIds) :=
  Keeping.record fun _ u hu => by
    rw [List.mem_singleton.mp hu]
    exact ⟨h _, fun _ => trivial⟩

theorem keeping_deleteConfigRow {id : Int} (h : K (.configDelete id)) :
    Keeping K (deleteConfigRow id) :=
  Keeping.record fun _ u hu => by
    rw [List.mem_singleton.mp hu]
    exact ⟨h, fun _ => trivial⟩

theorem keeping_deleteCityRow {id : Int} (h : K (.cityDelete id)) : Keeping K (deleteCityRow id) :=
  Keeping.record fun _ u hu => by
    rw [List.mem_singleton.mp hu]
    exact ⟨h, fun _ => trivial⟩

/-! ## Bindings -/

theorem keeping_insertBinding {b : WarehouseShippingProvider} (h : K (.bindingInsert b)) :
    Keeping K (insertBindingOnConflictDoNothing b) := by
  refine Keeping.write fun db a us hs => ?_
  split at hs
  · cases hs
    exact .inl rfl
  · split at hs
    · cases hs
    · split at hs
      · cases hs
      · split at hs <;> cases hs
        exact .inr ⟨_, rfl, h, trivial⟩

theorem keeping_updateBindingRow {w p : Int} {ch : BindingChange} (h : K (.bindingUpdate w p ch)) :
    Keeping K (updateBindingRow w p ch) := by
  refine Keeping.write fun db a us hs => ?_
  split at hs
  · cases hs
    exact .inl rfl
  · split at hs <;> cases hs
    exact .inr ⟨_, rfl, h, trivial⟩

theorem keeping_upsertBinding {b : WarehouseShippingProvider} (hi : K (.bindingInsert b))
    (hu : ∀ ch, K (.bindingUpdate b.warehouseId b.shippingProviderId ch)) :
    Keeping K (upsertBinding b) := by
  refine Keeping.write fun db a us hs => ?_
  split at hs
  · cases hs
  · split at hs
    · cases hs
    · split at hs
      · cases hs
      · split at hs <;> cases hs
        · exact .inr ⟨_, rfl, hu _, trivial⟩
        · exact .inr ⟨_, rfl, hi, trivial⟩

theorem keeping_disableOtherBindings {w : Int} {ps : List Int}
    (h : ∀ p ch, K (.bindingUpdate w p ch)) : Keeping K (disableOtherBindings w ps) := by
  refine Keeping.record fun db u hu => ?_
  obtain ⟨b, hb, rfl⟩ := List.mem_map.mp hu
  have hw : b.warehouseId = w := (of_decide_eq_true (List.mem_filter.mp hb).2).1
  rw [hw]
  exact ⟨h _ _, fun _ => trivial⟩

theorem keeping_deleteBindingRow {w p : Int} (h : K (.bindingDelete w p)) :
    Keeping K (deleteBindingRow w p) := by
  refine Keeping.write fun db a us hs => ?_
  split at hs <;> cases hs
  · exact .inl rfl
  · exact .inr ⟨_, rfl, h, trivial⟩

/-! ## Readings -/

theorem keeping_loadTemplate (t : Int) : Keeping K (loadTemplateOr404 t) :=
  .bind (.read _) fun _ => .requireSome _ _

theorem keeping_buildStats (t : Int) : Keeping K (buildTemplateStats t) :=
  .bind (.read _) fun _ => .bind (.read _) fun _ => .bind (.read _) fun _ => .bind (.read _) fun _ =>
    .bind (.read _) fun _ => .ret _

theorem keeping_ensureDraft (t : PricingTemplate) : Keeping K (ensureTemplateDraft t) := by
  refine .bind (keeping_buildStats _) fun stats => ?_
  dsimp only
  split
  · exact .ret _
  · split <;> exact .raise _

theorem keeping_listGroups (t : Int) : Keeping K (listTemplateGroups t) :=
  .bind (.read _) fun _ => .bind (.read _) fun _ => .ret _

theorem keeping_listCells (t : Int) : Keeping K (listTemplateMatrixCells t) := by
  refine .bind (keeping_listGroups _) fun groups => ?_
  split
  · exact .ret _
  · exact .read _

theorem keeping_loadGroup (t g : Int) : Keeping K (loadGroupOr404 t g) :=
  .bind (.read _) fun _ => .requireSome _ _

theorem keeping_validateProvinces (t : Int) (provinces : List ModuleGroupProvinceWriteIn)
    (g : Option Int) : Keeping K (validateGroupProvincesUniqueInTemplate t provinces g) :=
  .bind (keeping_listGroups _) fun _ => .ofExcept _

theorem keeping_validateReady (t : Int) : Keeping K (validateTemplateReadyForBinding t) :=
  .bind (keeping_loadTemplate _) fun _ => .bind (.read _) fun _ => .bind (keeping_listGroups _)
    fun _ => .bind (.require _ _) fun _ => .bind (.require _ _) fun _ => .bind (keeping_listCells _)
    fun _ => .bind (.require _ _) fun _ => .ret _

theorem keeping_requireDraft (t : Int) : Keeping K (requireTemplateDraft t) :=
  .bind (keeping_loadTemplate _) fun _ => keeping_ensureDraft _

theorem keeping_templateAllowed (unused : Bool) (p : Int) (t : Option Int) :
    Keeping K (ensureTemplateAllowed unused p t) := by
  cases t with
  | none => exact .ret _
  | some t =>
      exact .bind (keeping_loadTemplate _) fun _ => .bind (.require _ _) fun _ =>
        .bind (.require _ _) fun _ => .bind (.require _ _) fun _ => .bind (keeping_buildStats _)
        fun _ => .bind (.require _ _) fun _ => .bind (.require _ _) fun _ =>
        .bind (.mapRaise (keeping_validateReady _)) fun _ => .ret _

theorem keeping_requireWarehouse (w : Int) : Keeping K (requireWarehouse w) :=
  .bind (.read _) fun _ => .require _ _

end Keeping

/-! ## Calls -/

section Calls

attribute [local simp] PricingCall.May PricingCall.parts PricingCall.edits PricingRedo.part
  PricingRedo.structureOf

private theorem keeping_unanswered {K : PricingRedo → Prop} {x : PricingTx Unit} (hx : Keeping K x) :
    Keeping K (unanswered x) := .bind hx fun _ => .ret _

private theorem keeping_createTemplate (payload : TemplateCreateIn) (newId : Int) :
    Keeping (PricingCall.createTemplate payload newId).May (createTemplate payload newId) :=
  .bind (.read _) fun _ => .bind (.requireSome _ _) fun _ => .bind (.ofExcept _) fun _ =>
    (inserts_template _).keeping (by simp)

private theorem keeping_updateTemplate (t : Int) (payload : TemplateUpdateIn) (now : Timestamp) :
    Keeping (PricingCall.updateTemplate t payload now).May (updateTemplate t payload now) := by
  have htail : ∀ (r r' : PricingTemplate) (stats : TemplateStats),
      Keeping (PricingCall.updateTemplate t payload now).May (do
        let r'' ← Prog.ofExcept (setTemplateStatus (0 < stats.usedBindingCount) now r' payload.status)
        updateTemplateRow t (r.changes r'')) := fun r r' stats =>
    .bind (.ofExcept _) fun _ => keeping_updateTemplateRow (by simp)
  refine .bind (keeping_loadTemplate _) fun r => .bind (keeping_buildStats _) fun stats => ?_
  dsimp only
  split
  · refine .bind ?_ fun _ => .bind (.ofExcept _) fun r' => htail r r' stats
    exact .bind (.require _ _) fun _ => .bind (.require _ _) fun _ => .bind (.require _ _) fun _ =>
      .bind (keeping_buildStats _) fun _ => .require _ _
  · exact htail r r stats

private theorem keeping_putRanges (t : Int) (ranges : List ModuleRangeWriteIn) (newId : Nat → Int) :
    Keeping (PricingCall.putTemplateRanges t ranges newId).May (putTemplateRanges t ranges newId) := by
  refine .bind (keeping_loadTemplate _) fun _ => .bind (keeping_ensureDraft _) fun _ =>
    .bind (.ofExcept _) fun _ => .bind (keeping_deleteRanges (by simp)) fun _ => .each fun r hr => ?_
  obtain ⟨⟨raw, i⟩, -, rfl⟩ := List.mem_map.mp hr
  exact (inserts_range _).keeping (by simp [ModuleRangeWriteIn.row])

private theorem keeping_createGroup (t : Int) (payload : ModuleGroupWriteIn) (newGroupId : Int)
    (newMemberId : Nat → Int) :
    Keeping (PricingCall.createGroup t payload newGroupId newMemberId).May
      (createGroup t payload newGroupId newMemberId) :=
  .bind (keeping_loadTemplate _) fun _ => .bind (keeping_ensureDraft _) fun _ =>
    .bind (keeping_validateProvinces _ _ _) fun _ => .bind ((inserts_group _).keeping (by simp))
    fun _ => .bind (keeping_deleteMembers (by simp)) fun _ =>
    .bind (keeping_updateGroupRow (by simp)) fun _ =>
    .each fun m _ => (inserts_member _ m).keeping (by simp)

private theorem keeping_updateGroup (t g : Int) (payload : ModuleGroupWriteIn)
    (newMemberId : Nat → Int) :
    Keeping (PricingCall.updateGroup t g payload newMemberId).May
      (updateGroup t g payload newMemberId) :=
  .bind (keeping_loadTemplate _) fun _ => .bind (keeping_ensureDraft _) fun _ =>
    .bind (keeping_loadGroup _ _) fun _ => .bind (keeping_validateProvinces _ _ _) fun _ =>
    .bind (keeping_deleteMembers (by simp)) fun _ => .bind (keeping_deleteCells (by simp)) fun _ =>
    .bind (keeping_updateGroupRow (by simp)) fun _ =>
    .each fun m _ => (inserts_member _ m).keeping (by simp)

private theorem keeping_deleteGroup (t g : Int) :
    Keeping (PricingCall.deleteGroup t g).May (deleteGroup t g) :=
  .bind (keeping_loadTemplate _) fun _ => .bind (keeping_ensureDraft _) fun _ =>
    .bind (keeping_loadGroup _ _) fun _ => keeping_deleteGroupRow (by simp)

private theorem keeping_putCells (t : Int) (cells : List ModuleMatrixCellWriteIn)
    (newId : Nat → Int) :
    Keeping (PricingCall.putTemplateMatrixCells t cells newId).May
      (putTemplateMatrixCells t cells newId) :=
  .bind (keeping_loadTemplate _) fun _ => .bind (keeping_ensureDraft _) fun _ =>
    .bind (keeping_listGroups _) fun _ => .bind (.read _) fun _ => .bind (.ofExcept _) fun _ =>
    .bind (keeping_deleteCells (by simp)) fun _ =>
    .each fun c _ => (inserts_cell _ c).keeping (by simp)

private theorem keeping_submit (t : Int) (confirm : Bool) (user newId : Int) :
    Keeping (PricingCall.submitValidation t confirm user newId).May
      (submitValidation t confirm user newId) := by
  refine .bind (.require _ _) fun _ => .bind (keeping_loadTemplate _) fun r =>
    .bind (keeping_buildStats _) fun stats => ?_
  dsimp only
  split
  · exact .bind (keeping_validateReady _) fun _ => .bind (keeping_updateTemplateRow (by simp))
      fun _ => .bind ((inserts_validationRecord _).keeping (by simp)) fun _ => .ret _
  · split <;> exact .raise _

private theorem keeping_clone (t : Int) (name : Option String) (ids : CloneIds) :
    Keeping (PricingCall.cloneTemplate t name ids).May (cloneTemplate t name ids) := by
  have htree : ∀ source : TemplateTree,
      Keeping (PricingCall.cloneTemplate t name ids).May (cloneTemplateTree source ids) := by
    intro source
    refine .bind (.each fun r hr => ?_) fun _ => .bind (.each fun g hg => ?_) fun _ =>
      .bind (.each fun m _ => (inserts_member _ m).keeping (by simp)) fun _ =>
      .bind (.ofExcept _) fun _ => .bind (.each fun c _ => (inserts_cell _ c).keeping (by simp))
      fun _ => .bind (.each fun c _ => (inserts_config c).keeping (by simp)) fun _ =>
      .each fun c _ => (inserts_city c).keeping (by simp)
    · obtain ⟨⟨r', i⟩, -, rfl⟩ := List.mem_map.mp hr
      exact (inserts_range _).keeping (by simp)
    · obtain ⟨⟨g', i⟩, -, rfl⟩ := List.mem_map.mp hg
      exact (inserts_group _).keeping (by simp)
  refine .bind ?_ fun source => .bind (.ofExcept _) fun counts => ?_
  · exact .bind (keeping_loadTemplate _) fun _ => .bind (.read _) fun _ => .bind (.read _) fun _ =>
      .bind (.read _) fun _ => .bind (.read _) fun _ => .bind (.read _) fun _ => .bind (.read _)
      fun _ => .bind (.read _) fun _ => .ret _
  · dsimp only
    split
    · exact .bind (.ofExcept _) fun _ => .bind ((inserts_template _).keeping (by simp)) fun _ =>
        htree source
    · exact .bind (.ret _) fun _ => .bind ((inserts_template _).keeping (by simp)) fun _ =>
        htree source

/-! ### Surcharges -/

/-- A record of the surcharges belongs to no template's structure. -/
private theorem may_surcharges {c : PricingCall} {u : PricingRedo} (hc : .surcharges ∈ c.parts)
    (hu : u.part = .surcharges) : c.May u := by
  refine ⟨hu ▸ hc, fun t ht => ?_⟩
  cases u with
  | configInsert _ | configUpdate _ _ | configDelete _ | cityInsert _ | cityUpdate _ _
  | cityDelete _ => cases ht
  | _ => cases hu

private theorem keeping_sync {K : PricingRedo → Prop} (hK : ∀ u : PricingRedo, u.part = .surcharges →
    K u) (id : Int) (existing : List SurchargeCity) (cities : List SurchargeConfigCityIn)
    (newId : Nat → Int) : Keeping K (syncConfigCities id existing cities newId) :=
  .bind (.ofExcept _) fun _ => .bind (.each fun _ _ => keeping_updateCityRow (hK _ rfl)) fun _ =>
    .bind (.each fun c _ => (inserts_city c).keeping (hK _ rfl)) fun _ =>
    .each fun _ _ => keeping_deleteCityRow (hK _ rfl)

private theorem keeping_batch (t : Int) (newId : Nat → Int)
    (items all : List SurchargeConfigBatchProvinceItemIn) (n : Nat) (seen : List String) :
    Keeping (PricingCall.batchCreateProvinceSurchargeConfigs t all newId).May
      (createProvinceConfigs t newId n seen items) := by
  induction items generalizing n seen with
  | nil => exact .ret _
  | cons item rest ih =>
      refine .bind (.ofExcept _) fun code => .ite (ih _ _) (.bind (.read _) fun found => ?_)
      exact .ite (ih _ _) (.bind ((inserts_config _).keeping (by simp)) fun _ => ih _ _)

private theorem keeping_cityContainer (t : Int) (code : String) (name : Option String)
    (active : Bool) (newId : Int) :
    Keeping (PricingCall.createSurchargeCityContainer t code name active newId).May
      (createSurchargeCityContainer t code name active newId) :=
  .bind (keeping_requireDraft _) fun _ => .bind (.ofExcept _) fun _ => .bind (.read _) fun _ =>
    .bind (.require _ _) fun _ => (inserts_config _).keeping (by simp)

private theorem keeping_createConfig (t : Int) (payload : SurchargeConfigCreateIn) (newId : Int)
    (newCityId : Nat → Int) :
    Keeping (PricingCall.createSurchargeConfig t payload newId newCityId).May
      (createSurchargeConfig t payload newId newCityId) := by
  refine .bind (keeping_requireDraft _) fun _ => .bind (.ofExcept _) fun _ =>
    .bind (.ofExcept _) fun mode => .bind (.read _) fun _ => .bind (.require _ _) fun _ =>
    .bind ((inserts_config _).keeping (by simp)) fun _ => ?_
  split
  · exact keeping_sync (fun u => may_surcharges List.mem_cons_self) _ _ _ _
  · exact .ret _

/-- What either mode of a surcharge does to its cities. -/
private theorem keeping_updateMode {K : PricingRedo → Prop}
    (hK : ∀ u : PricingRedo, u.part = .surcharges → K u) (id : Int) (cities : List SurchargeCity)
    (newCityId : Nat → Int) (mode : SurchargeMode) (province city : SurchargeConfigChange)
    (sent : List SurchargeConfigCityIn) :
    Keeping K (match mode with
      | .province => do
          insertEach (fun row : SurchargeCity => deleteCityRow row.id) cities
          updateConfigRow id province
      | .cities => do
          updateConfigRow id city
          syncConfigCities id cities sent newCityId) := by
  cases mode with
  | province =>
      exact .bind (.each fun _ _ => keeping_deleteCityRow (hK _ rfl)) fun _ =>
        keeping_updateConfigRow (hK _ rfl)
  | cities => exact .bind (keeping_updateConfigRow (hK _ rfl)) fun _ => keeping_sync hK _ _ _ _

private theorem keeping_updateConfig (id : Int) (payload : SurchargeConfigUpdateIn)
    (newCityId : Nat → Int) :
    Keeping (PricingCall.updateSurchargeConfig id payload newCityId).May
      (updateSurchargeConfig id payload newCityId) := by
  have hK : ∀ u : PricingRedo, u.part = .surcharges →
      (PricingCall.updateSurchargeConfig id payload newCityId).May u :=
    fun u => may_surcharges List.mem_cons_self
  refine .bind (.read _) fun _ => .bind (.requireSome _ _) fun cfg => .bind (.read _) fun cities =>
    .bind (keeping_requireDraft _) fun _ => ?_
  have hmode := keeping_updateMode hK id cities newCityId
  dsimp only
  -- the code that was sent, or the old one; another config of it is looked for if it changed
  split
  · refine .bind (.ofExcept _) fun code => ?_
    split
    · exact .bind (.read _) fun _ => .bind (.require _ _) fun _ => .bind (.ofExcept _) fun mode =>
        hmode mode _ _ _
    · exact .bind (.ofExcept _) fun mode => hmode mode _ _ _
  · refine .bind (.ret _) fun code => ?_
    split
    · exact .bind (.read _) fun _ => .bind (.require _ _) fun _ => .bind (.ofExcept _) fun mode =>
        hmode mode _ _ _
    · exact .bind (.ofExcept _) fun mode => hmode mode _ _ _

private theorem keeping_deleteConfig (id : Int) :
    Keeping (PricingCall.deleteSurchargeConfig id).May (deleteSurchargeConfig id) :=
  .bind (.read _) fun _ => .bind (.requireSome _ _) fun _ => .bind (keeping_requireDraft _) fun _ =>
    keeping_deleteConfigRow (by simp)

/-! ### Bindings -/

private theorem keeping_bulkUpsert (w : Int) (items : List BindingIn) (disable : Bool) :
    Keeping (PricingCall.bulkUpsertWarehouseBindings w items disable).May
      (bulkUpsertWarehouseBindings w items disable) := by
  refine .bind (keeping_requireWarehouse _) fun _ => .bind (.read _) fun _ =>
    .bind (.require _ _) fun _ => .bind (.each fun _ _ => keeping_templateAllowed _ _ _) fun _ =>
    .bind (.each fun it _ => keeping_upsertBinding (by simp) (by simp)) fun _ => ?_
  exact .ite (keeping_disableOtherBindings (by simp)) (.ret _)

/-- **Records.** A call writes its own tables, below the template it edits, and
every statement keeps the constraints. -/
theorem PricingCall.keeping (c : PricingCall) : Keeping c.May c.prog := by
  cases c with
  | createTemplate payload newId => exact keeping_unanswered (keeping_createTemplate _ _)
  | updateTemplate t payload now => exact keeping_unanswered (keeping_updateTemplate _ _ _)
  | putTemplateRanges t ranges newId => exact keeping_unanswered (keeping_putRanges _ _ _)
  | createGroup t payload g m => exact keeping_unanswered (keeping_createGroup _ _ _ _)
  | updateGroup t g payload m => exact keeping_unanswered (keeping_updateGroup _ _ _ _)
  | deleteGroup t g => exact keeping_unanswered (keeping_deleteGroup _ _)
  | putTemplateMatrixCells t cells newId => exact keeping_unanswered (keeping_putCells _ _ _)
  | submitValidation t confirm user newId =>
      exact .bind (keeping_submit _ _ _ _) fun _ => .ret _
  | cloneTemplate t name ids => exact keeping_unanswered (keeping_clone _ _ _)
  | batchCreateProvinceSurchargeConfigs t items newId =>
      exact keeping_unanswered (.bind (keeping_requireDraft _) fun _ => keeping_batch _ _ _ _ _ _)
  | createSurchargeCityContainer t code name active newId =>
      exact keeping_unanswered (keeping_cityContainer _ _ _ _ _)
  | createSurchargeConfig t payload newId newCityId =>
      exact keeping_unanswered (keeping_createConfig _ _ _ _)
  | updateSurchargeConfig id payload newCityId =>
      exact keeping_unanswered (keeping_updateConfig _ _ _)
  | deleteSurchargeConfig id => exact keeping_unanswered (keeping_deleteConfig _)
  | bindProviderToWarehouse w payload =>
      refine keeping_unanswered (.bind (keeping_requireWarehouse _) fun _ => .bind (.read _) fun _ =>
        .bind (.requireSome _ _) fun _ => .bind (keeping_templateAllowed _ _ _) fun _ => ?_)
      exact .bind (keeping_insertBinding (by simp)) fun _ => .require _ _
  | updateWarehouseBinding w p payload =>
      refine keeping_unanswered (.bind (keeping_templateAllowed _ _ _) fun _ =>
        .bind (.require _ _) fun _ => ?_)
      exact .bind (keeping_updateBindingRow (by simp)) fun _ => .require _ _
  | bulkUpsertWarehouseBindings w items disable =>
      exact keeping_unanswered (keeping_bulkUpsert _ _ _)
  | unbindProviderFromWarehouse w p =>
      exact keeping_unanswered (.bind (keeping_deleteBindingRow (by simp)) fun _ => .require _ _)
  | activateWarehouseBinding w p from_ now =>
      exact keeping_unanswered (.bind (.read _) fun _ => .bind (.requireSome _ _) fun _ =>
        .bind (.requireSome _ _) fun _ => .bind (keeping_templateAllowed _ _ _) fun _ =>
        .bind (keeping_updateBindingRow (by simp)) fun _ => .ret _)
  | deactivateWarehouseBinding w p now =>
      exact keeping_unanswered (.bind (keeping_updateBindingRow (by simp)) fun _ => .require _ _)

end Calls

/-- The call on one database, rolled back when it raises. -/
def PricingCall.call (c : PricingCall) (db : PricingDb) : Except PricingErr PricingDb := do
  let out ← c.prog.run db
  return out.2

theorem PricingCall.call_ok {c : PricingCall} {db db' : PricingDb} :
    c.call db = .ok db' ↔ ∃ a, c.prog.run db = .ok (a, db') := by
  rw [call, bind_eq_ok]
  constructor
  · rintro ⟨⟨a, w⟩, hrun, hret⟩
    cases hret
    exact ⟨a, hrun⟩
  · rintro ⟨a, hrun⟩
    exact ⟨(a, db'), hrun, rfl⟩

/-- A call keeps the constraints, and what its records keep. -/
theorem PricingCall.call_preserves {c : PricingCall} {db db' : PricingDb} {I : PricingDb → Prop}
    (hI : ∀ u db, c.May u → I db → I (u.apply db)) (h : c.call db = .ok db') (hdb : db.Admitted)
    (hI₀ : I db) : db'.Admitted ∧ I db' := by
  obtain ⟨a, hrun⟩ := call_ok.mp h
  exact c.keeping.run_preserves hI hrun hdb hI₀

/-! ## A provider without templates -/

/-- One provider, and no template yet. -/
def sampleProviderDb : PricingDb where
  providers := ⟨[{ id := 1, name := "SF", shippingProviderCode := "SF" }], List.nodup_singleton _⟩

theorem admitted_sampleProviderDb : sampleProviderDb.Admitted where
  ranges_template := by simp [sampleProviderDb, Table.empty]
  ranges_valid := by simp [sampleProviderDb, Table.empty]
  ranges_order := by simp [sampleProviderDb, Table.empty, Table.Unique]
  groups_template := by simp [sampleProviderDb, Table.empty]
  groups_order := by simp [sampleProviderDb, Table.empty, Table.Unique]
  members_group := by simp [sampleProviderDb, Table.empty]
  members_key := by simp [sampleProviderDb, Table.empty, Table.Unique]
  placed := by simp [sampleProviderDb, Table.empty, PricingDb.Placed]
  cells_place := by simp [sampleProviderDb, Table.empty, Table.Unique]
  configs_template := by simp [sampleProviderDb, Table.empty]
  configs_province := by simp [sampleProviderDb, Table.empty, Table.Unique]
  cities_config := by simp [sampleProviderDb, Table.empty]
  cities_code := by simp [sampleProviderDb, Table.empty, Table.Unique]

end WmsDu
