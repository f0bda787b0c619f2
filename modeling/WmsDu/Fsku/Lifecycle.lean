import WmsDu.Fsku.Service

/-!
# The life cycle under interference

What each call has written when it ends, what stays true of it while others
commit, and why their commits keep the life cycle of every FSKU, as long as
the writes find the status their call had checked and no merchant code is
bound to an FSKU while it is being retired.
-/

namespace WmsDu

open Txn

/-! ## The life cycle -/

def FskuDb.HasPrimary (db : FskuDb) (fskuId : Int) : Prop :=
  ∃ c ∈ db.components.rows, c.fskuId = fskuId ∧ c.role = "primary"

/-- The FSKU is published. -/
def FskuDb.Published (db : FskuDb) (fskuId : Int) : Prop :=
  ∃ f ∈ db.fskus.rows, f.id = fskuId ∧ f.status = .published

/-- No merchant code is bound to the FSKU. -/
def FskuDb.Unbound (db : FskuDb) (fskuId : Int) : Prop :=
  ∀ b ∈ db.bindings.rows, b.fskuId ≠ fskuId

instance (db : FskuDb) (fskuId : Int) : Decidable (db.HasPrimary fskuId) :=
  inferInstanceAs (Decidable (∃ c ∈ db.components.rows, _))

instance (db : FskuDb) (fskuId : Int) : Decidable (db.Published fskuId) :=
  inferInstanceAs (Decidable (∃ f ∈ db.fskus.rows, _))

/-- A published or retired FSKU has a primary component, and a binding points
to a published FSKU. -/
structure FskuDb.Sound (db : FskuDb) : Prop where
  primary : ∀ f ∈ db.fskus.rows, f.status ≠ .draft → db.HasPrimary f.id
  bound : ∀ b ∈ db.bindings.rows, db.Published b.fskuId

instance (db : FskuDb) : Decidable db.Sound :=
  decidable_of_iff ((∀ f ∈ db.fskus.rows, f.status ≠ .draft → db.HasPrimary f.id) ∧
    ∀ b ∈ db.bindings.rows, db.Published b.fskuId) ⟨fun h => ⟨h.1, h.2⟩, fun h => ⟨h.1, h.2⟩⟩

/-- One step of the life cycle, or none. -/
inductive FskuStatus.Moves : FskuStatus → FskuStatus → Prop
  | stays (s : FskuStatus) : FskuStatus.Moves s s
  | publishes : FskuStatus.Moves .draft .published
  | retires : FskuStatus.Moves .published .retired

instance : (s t : FskuStatus) → Decidable (s.Moves t)
  | .draft, .draft | .published, .published | .retired, .retired => isTrue (.stays _)
  | .draft, .published => isTrue .publishes
  | .published, .retired => isTrue .retires
  | .draft, .retired | .published, .draft | .retired, .draft | .retired, .published =>
      isFalse nofun

/-- Every FSKU is still there, its status moved on by at most one step, and
its components are frozen once it is published. -/
def FskuDb.MovesOn (db db' : FskuDb) : Prop :=
  ∀ f ∈ db.fskus.rows, ∃ f' ∈ db'.fskus.rows, f'.id = f.id ∧ f.status.Moves f'.status ∧
    (f.status ≠ .draft → db'.componentsOf f.id = db.componentsOf f.id)

instance (db db' : FskuDb) : Decidable (db.MovesOn db') :=
  inferInstanceAs (Decidable (∀ f ∈ db.fskus.rows, ∃ f' ∈ db'.fskus.rows, _))

theorem FskuDb.MovesOn.refl (db : FskuDb) : db.MovesOn db :=
  fun f hf => ⟨f, hf, rfl, .stays _, fun _ => rfl⟩

theorem FskuDb.MovesOn.published {db db' : FskuDb} (h : db.MovesOn db') {fskuId : Int}
    (hstays : ∀ f ∈ db'.fskus.rows, f.id = fskuId → f.status ≠ .retired)
    (hp : db.Published fskuId) : db'.Published fskuId := by
  obtain ⟨f, hf, hid, hs⟩ := hp
  obtain ⟨f', hf', hid', hmoves, -⟩ := h f hf
  refine ⟨f', hf', hid'.trans hid, ?_⟩
  rw [hs] at hmoves
  cases hmoves' : f'.status with
  | published => rfl
  | draft => rw [hmoves'] at hmoves; cases hmoves
  | retired => exact absurd hmoves' (hstays f' hf' (hid'.trans hid))

/-! ## The calls side by side -/

/-- The FSKU a call retires. -/
def FskuCall.retires : FskuCall → Option Int
  | .retire fskuId _ => some fskuId
  | _ => none

/-- The FSKU a call binds a merchant code to. -/
def FskuCall.binds : FskuCall → Option Int
  | .bindUpsert _ _ _ fskuId _ _ => some fskuId
  | _ => none

/-- One call retires the FSKU the other one binds. -/
def FskuCall.Crosses (a b : FskuCall) : Prop := ∃ id ∈ a.retires, b.binds = some id

instance (a b : FskuCall) : Decidable (a.Crosses b) :=
  match h : a.retires with
  | none => isFalse fun ⟨id, hid, _⟩ => by rw [h] at hid; cases hid
  | some id => decidable_of_iff (b.binds = some id)
      ⟨fun hb => ⟨id, h, hb⟩, fun ⟨id', hid', hb⟩ => by rw [h] at hid'; cases hid'; exact hb⟩

/-- A record finds the status its call checked: components are replaced in a
draft, and what is published is not retired yet. -/
def FskuRedo.Timely (db : FskuDb) : FskuRedo → Prop
  | .fskuUpdate id (.touch _) => ∀ f ∈ db.fskus.rows, f.id = id → f.status = .draft
  | .fskuUpdate id (.publish _) => ∀ f ∈ db.fskus.rows, f.id = id → f.status ≠ .retired
  | _ => True

instance (db : FskuDb) : (u : FskuRedo) → Decidable (u.Timely db)
  | .fskuUpdate _ (.touch _) => inferInstanceAs (Decidable (∀ f ∈ db.fskus.rows, _))
  | .fskuUpdate _ (.publish _) => inferInstanceAs (Decidable (∀ f ∈ db.fskus.rows, _))
  | .fskuUpdate _ (.code _) | .fskuUpdate _ (.retire _) => isTrue trivial
  | .fskuInsert _ | .componentsDelete _ _ | .componentInsert _ | .bindingInsert _
  | .bindingUpdate _ _ _ | .bindingDelete _ => isTrue trivial

/-- The writes are timely, and nothing is bound to an FSKU that is being
retired. -/
def fskuTerms : Terms FskuCall (Stmt FskuDb FskuRedo FskuErr) FskuDb :=
  .fitting FskuRedo.Timely (fun a b => ¬ a.Crosses b ∧ ¬ b.Crosses a) fun _ _ h => h.symm

instance (a b : FskuCall) : Decidable (fskuTerms.together a b) :=
  inferInstanceAs (Decidable (_ ∧ _))

instance {β : Type} (s : Stmt FskuDb FskuRedo FskuErr β) (db : FskuDb) :
    Decidable (fskuTerms.issue s db) :=
  inferInstanceAs (Decidable (∀ u ∈ s.writes db, u.Timely db))

/-- What the commits of others do while a call holds some locks. -/
structure FskuRely (op : FskuCall) (held : List FskuLock) (db db' : FskuDb) : Prop where
  moves : db.MovesOn db'
  primary : ∀ id, db.HasPrimary id → db'.HasPrimary id
  fsku : ∀ id, FskuLock.fsku id ∈ held → ∀ f : FskuRow, f.id = id →
    (f ∈ db'.fskus.rows ↔ f ∈ db.fskus.rows)
  component : ∀ id, FskuLock.component id ∈ held → ∀ c : FskuComponent, c.id = id →
    (c ∈ db'.components.rows ↔ c ∈ db.components.rows)
  unbound : ∀ id ∈ op.retires, db.Unbound id → db'.Unbound id
  published : ∀ id ∈ op.binds, db.Published id → db'.Published id

def fskuSetting (op : FskuCall) : Setting (Stmt FskuDb FskuRedo FskuErr) FskuDb FskuLock :=
  .fitting FskuRedo.Timely (FskuRely op)

/-! ## Records and rows -/

section Records
variable {db : FskuDb} {id : Int}

/-- A row whose lock a record does not need is left alone. -/
theorem FskuRedo.mem_fskus {u : FskuRedo} (h : FskuLock.fsku id ∉ RedoLog.guards u)
    {f : FskuRow} (hf : f.id = id) : f ∈ (u.apply db).fskus.rows ↔ f ∈ db.fskus.rows := by
  cases u with
  | fskuInsert g =>
      refine Table.mem_insert_of_ne fun heq => h ?_
      rw [← hf, heq]
      exact List.mem_cons_self
  | fskuUpdate id' ch =>
      have hne : id ≠ id' := by
        intro heq
        rw [heq] at h
        cases ch <;> exact h List.mem_cons_self
      refine (Table.mem_update ch.set_id).trans ?_
      constructor
      · rintro ⟨g, hg, rfl⟩
        split at hf
        · rename_i hid
          rw [ch.set_id] at hf
          exact absurd (hf.symm.trans hid) hne
        · rename_i hid
          rw [if_neg hid]
          exact hg
      · intro hmem
        exact ⟨f, hmem, by rw [if_neg (by rw [hf]; exact hne)]⟩
  | _ => rfl

theorem FskuRedo.mem_components {u : FskuRedo} (h : FskuLock.component id ∉ RedoLog.guards u)
    {c : FskuComponent} (hc : c.id = id) :
    c ∈ (u.apply db).components.rows ↔ c ∈ db.components.rows := by
  cases u with
  | componentInsert d =>
      refine Table.mem_insert_of_ne fun heq => h ?_
      rw [← hc, heq]
      exact List.mem_singleton.mpr rfl
  | componentsDelete fskuId ids =>
      refine Table.mem_delete.trans (and_iff_left ?_)
      rintro ⟨-, hid⟩
      exact h (List.mem_map.mpr ⟨id, hc ▸ hid, rfl⟩)
  | _ => rfl

theorem mem_fskus_redo {log : List FskuRedo} (h : FskuLock.fsku id ∉ guardsOf log)
    {f : FskuRow} (hf : f.id = id) : f ∈ (redo log db).fskus.rows ↔ f ∈ db.fskus.rows := by
  refine redo_preserves (I := fun w : FskuDb => f ∈ w.fskus.rows ↔ f ∈ db.fskus.rows) ?_ Iff.rfl
  intro u hu w hw
  exact (FskuRedo.mem_fskus (fun hl => h (mem_guardsOf.mpr ⟨u, hu, hl⟩)) hf).trans hw

theorem mem_components_redo {log : List FskuRedo} (h : FskuLock.component id ∉ guardsOf log)
    {c : FskuComponent} (hc : c.id = id) :
    c ∈ (redo log db).components.rows ↔ c ∈ db.components.rows := by
  refine redo_preserves (I := fun w : FskuDb => c ∈ w.components.rows ↔ c ∈ db.components.rows) ?_ Iff.rfl
  intro u hu w hw
  exact (FskuRedo.mem_components (fun hl => h (mem_guardsOf.mpr ⟨u, hu, hl⟩)) hc).trans hw

/-- The rows after an update of one FSKU. -/
theorem mem_fskuUpdate {ch : FskuChange} {f : FskuRow} :
    f ∈ ((FskuRedo.fskuUpdate id ch).apply db).fskus.rows ↔
      ∃ g ∈ db.fskus.rows, f = if g.id = id then ch.set g else g :=
  Table.mem_update ch.set_id

/-- A row after an update of one FSKU is that FSKU changed, or another one. -/
theorem mem_fskuUpdate_cases {ch : FskuChange} {f : FskuRow}
    (h : f ∈ ((FskuRedo.fskuUpdate id ch).apply db).fskus.rows) :
    (∃ g ∈ db.fskus.rows, g.id = id ∧ f = ch.set g) ∨ (f ∈ db.fskus.rows ∧ f.id ≠ id) := by
  obtain ⟨g, hg, rfl⟩ := mem_fskuUpdate.mp h
  by_cases hid : g.id = id
  · rw [if_pos hid]
    exact .inl ⟨g, hg, hid, rfl⟩
  · rw [if_neg hid]
    exact .inr ⟨hg, hid⟩

theorem redo_componentInserts (new : List FskuComponent) (db : FskuDb) :
    redo (new.map FskuRedo.componentInsert) db =
      { db with components := new.foldl Table.insert db.components } := by
  induction new generalizing db with
  | nil => rfl
  | cons c new ih =>
      rw [List.map_cons, redo_cons, ih]
      rfl

end Records

/-! ## What a call has written -/

/-- The components of a draft are replaced. -/
structure Replaces (fskuId : Int) (ids : List Int) (new : List FskuComponent) (db : FskuDb) :
    Prop where
  draft : ∀ f ∈ db.fskus.rows, f.id = fskuId → f.status = .draft
  owned : ∀ c ∈ new, c.fskuId = fskuId
  nodup : (new.map FskuComponent.id).Nodup
  free : ∀ c ∈ new, ∀ d ∈ db.components.rows, d.id = c.id → d.fskuId = fskuId ∧ d.id ∈ ids

/-- The log of a call that replaced components. -/
def replaceLog (fskuId : Int) (ids : List Int) (now : Timestamp) (new : List FskuComponent) :
    List FskuRedo :=
  .componentsDelete fskuId ids :: .fskuUpdate fskuId (.touch now) ::
    new.map FskuRedo.componentInsert

/-- What a finished call wrote, and what it knows of the committed state. -/
def FskuCall.Wrote : FskuCall → FskuDb → List FskuRedo → Prop
  | .createDraft .., _, log => ∃ f code,
      f.status = .draft ∧ log = [.fskuInsert f, .fskuUpdate f.id (.code code)]
  | .replaceComponentsDraft fskuId .., db, log => ∃ ids now new,
      log = replaceLog fskuId ids now new ∧ Replaces fskuId ids new db ∧
        ∃ c ∈ new, c.role = "primary"
  | .publish fskuId _, db, log => ∃ now, log = [.fskuUpdate fskuId (.publish now)] ∧
      db.HasPrimary fskuId ∧ ∀ f ∈ db.fskus.rows, f.id = fskuId → f.status ≠ .retired
  | .retire fskuId _, db, log => ∃ now, log = [.fskuUpdate fskuId (.retire now)] ∧
      db.Unbound fskuId ∧ ∀ f ∈ db.fskus.rows, f.id = fskuId → f.status ≠ .draft
  | .bindUpsert _ _ _ fskuId _ _, db, log => db.Published fskuId ∧
      ((∃ b, b.fskuId = fskuId ∧ log = [.bindingInsert b]) ∨
        log = [] ∨ ∃ id reason, log = [.bindingUpdate id fskuId reason])
  | .unbind .., _, log => ∃ id, log = [.bindingDelete id]

/-! ## What a commit does -/

section Commit
variable {db : FskuDb} {log : List FskuRedo}

/-- The rows of a replaced draft. -/
theorem Replaces.mem_components {fskuId : Int} {ids : List Int} {now : Timestamp}
    {new : List FskuComponent} (h : Replaces fskuId ids new db) {c : FskuComponent} :
    c ∈ (redo (replaceLog fskuId ids now new) db).components.rows ↔
      (c ∈ db.components.rows ∧ ¬ (c.fskuId = fskuId ∧ c.id ∈ ids)) ∨ c ∈ new := by
  have hrows : (redo (replaceLog fskuId ids now new) db).components.rows =
      (db.components.delete fun c => c.fskuId = fskuId ∧ c.id ∈ ids).rows ++ new := by
    rw [replaceLog, redo_cons, redo_cons, redo_componentInserts]
    refine Table.rows_insertAll new _ ?_ h.nodup
    rintro d hd ⟨d', hd', hid⟩
    obtain ⟨hd', hkept⟩ := Table.mem_delete.mp hd'
    exact hkept (h.free d hd d' hd' hid)
  rw [hrows, List.mem_append, Table.mem_delete]

/-- The components of another FSKU are those there were. -/
theorem Replaces.componentsOf {fskuId id : Int} {ids : List Int} {now : Timestamp}
    {new : List FskuComponent} (h : Replaces fskuId ids new db) (hne : id ≠ fskuId) :
    (redo (replaceLog fskuId ids now new) db).componentsOf id = db.componentsOf id := by
  rw [replaceLog, redo_cons, redo_cons, redo_componentInserts]
  unfold FskuDb.componentsOf
  rw [Table.rows_insertAll new _ ?_ h.nodup, List.filter_append]
  · have hnew : new.filter (fun c => decide (c.fskuId = id)) = [] := by
      rw [List.filter_eq_nil_iff]
      intro c hc
      rw [h.owned c hc]
      simp [hne.symm]
    rw [hnew, List.append_nil]
    show List.filter _ (List.filter _ db.components.rows) = _
    rw [List.filter_filter]
    refine List.filter_congr fun c _ => ?_
    by_cases hc : c.fskuId = id
    · simp [hc, hne]
    · simp [hc]
  · rintro d hd ⟨d', hd', hid⟩
    obtain ⟨hd', hkept⟩ := Table.mem_delete.mp hd'
    exact hkept (h.free d hd d' hd' hid)

theorem fskus_replaceLog (fskuId : Int) (ids : List Int) (now : Timestamp)
    (new : List FskuComponent) (db : FskuDb) :
    (redo (replaceLog fskuId ids now new) db).fskus =
      ((FskuRedo.fskuUpdate fskuId (.touch now)).apply db).fskus := by
  rw [replaceLog, redo_cons, redo_cons, redo_componentInserts]
  rfl

/-- An update of one FSKU that moves its status on. -/
theorem FskuDb.movesOn_update {id : Int} {ch : FskuChange}
    (h : ∀ f ∈ db.fskus.rows, f.id = id → f.status.Moves (ch.set f).status) :
    db.MovesOn ((FskuRedo.fskuUpdate id ch).apply db) := by
  intro f hf
  by_cases hid : f.id = id
  · exact ⟨ch.set f, mem_fskuUpdate.mpr ⟨f, hf, (if_pos hid).symm⟩, ch.set_id f, h f hf hid,
      fun _ => rfl⟩
  · exact ⟨f, mem_fskuUpdate.mpr ⟨f, hf, (if_neg hid).symm⟩, rfl, .stays _, fun _ => rfl⟩

/-- Bindings may change beside the FSKUs. -/
theorem FskuDb.movesOn_of_eq {db' : FskuDb} (hf : db'.fskus = db.fskus)
    (hc : db'.components = db.components) : db.MovesOn db' := by
  intro f hmem
  refine ⟨f, by rw [hf]; exact hmem, rfl, .stays _, fun _ => ?_⟩
  rw [FskuDb.componentsOf, hc]
  rfl

/-- **Commit.** Every FSKU moves on. -/
theorem FskuCall.Wrote.movesOn {op : FskuCall} (h : op.Wrote db log) :
    db.MovesOn (redo log db) := by
  cases op with
  | createDraft name code shape id now =>
      obtain ⟨g, code, hdraft, rfl⟩ := h
      intro f hf
      have hins : f ∈ ((FskuRedo.fskuInsert g).apply db).fskus.rows := Table.mem_insert_of_mem hf
      by_cases hid : f.id = g.id
      · exact ⟨_, mem_fskuUpdate.mpr ⟨f, hins, (if_pos hid).symm⟩, rfl, .stays _, fun _ => rfl⟩
      · exact ⟨f, mem_fskuUpdate.mpr ⟨f, hins, (if_neg hid).symm⟩, rfl, .stays _, fun _ => rfl⟩
  | replaceComponentsDraft fskuId components newId now =>
      obtain ⟨ids, now, new, rfl, hrep, -⟩ := h
      intro f hf
      by_cases hid : f.id = fskuId
      · refine ⟨FskuChange.set (.touch now) f, ?_, rfl, .stays _, fun hne => ?_⟩
        · rw [fskus_replaceLog]
          exact mem_fskuUpdate.mpr ⟨f, hf, (if_pos hid).symm⟩
        · exact absurd (hrep.draft f hf hid) hne
      · refine ⟨f, ?_, rfl, .stays _, fun _ => hrep.componentsOf hid⟩
        rw [fskus_replaceLog]
        exact mem_fskuUpdate.mpr ⟨f, hf, (if_neg hid).symm⟩
  | publish fskuId now =>
      obtain ⟨now, rfl, -, hnot⟩ := h
      refine FskuDb.movesOn_update fun f hf hid => ?_
      show f.status.Moves .published
      cases hs : f.status with
      | draft => exact .publishes
      | published => exact .stays _
      | retired => exact absurd hs (hnot f hf hid)
  | retire fskuId now =>
      obtain ⟨now, rfl, -, hnot⟩ := h
      refine FskuDb.movesOn_update fun f hf hid => ?_
      show f.status.Moves .retired
      cases hs : f.status with
      | draft => exact absurd hs (hnot f hf hid)
      | published => exact .retires
      | retired => exact .stays _
  | bindUpsert platform storeCode merchantCode fskuId reason newId =>
      obtain ⟨-, ⟨b, -, rfl⟩ | rfl | ⟨id, reason, rfl⟩⟩ := h
      · exact FskuDb.movesOn_of_eq rfl rfl
      · exact .refl db
      · exact FskuDb.movesOn_of_eq rfl rfl
  | unbind platform storeCode merchantCode =>
      obtain ⟨id, rfl⟩ := h
      exact FskuDb.movesOn_of_eq rfl rfl

/-- **Commit.** A primary component is never lost. -/
theorem FskuCall.Wrote.primary {op : FskuCall} (h : op.Wrote db log) {id : Int}
    (hp : db.HasPrimary id) : (redo log db).HasPrimary id := by
  cases op with
  | createDraft name code shape id now =>
      obtain ⟨g, code, -, rfl⟩ := h
      exact hp
  | replaceComponentsDraft fskuId components newId now =>
      obtain ⟨ids, now, new, rfl, hrep, c, hc, hrole⟩ := h
      by_cases hid : id = fskuId
      · exact ⟨c, hrep.mem_components.mpr (.inr hc), (hrep.owned c hc).trans hid.symm, hrole⟩
      · obtain ⟨d, hd, hdid, hdrole⟩ := hp
        refine ⟨d, hrep.mem_components.mpr (.inl ⟨hd, fun hdel => hid ?_⟩), hdid, hdrole⟩
        exact hdid.symm.trans hdel.1
  | publish fskuId now =>
      obtain ⟨now, rfl, -⟩ := h
      exact hp
  | retire fskuId now =>
      obtain ⟨now, rfl, -⟩ := h
      exact hp
  | bindUpsert platform storeCode merchantCode fskuId reason newId =>
      obtain ⟨-, ⟨b, -, rfl⟩ | rfl | ⟨id, reason, rfl⟩⟩ := h
      · exact hp
      · exact hp
      · exact hp
  | unbind platform storeCode merchantCode =>
      obtain ⟨id, rfl⟩ := h
      exact hp

/-- **Commit.** The FSKU of a call that does not retire it stays published. -/
theorem FskuCall.Wrote.published {op : FskuCall} (h : op.Wrote db log) {id : Int}
    (hp : db.Published id) (hret : op.retires ≠ some id) : (redo log db).Published id := by
  refine h.movesOn.published ?_ hp
  obtain ⟨f₀, hf₀, hid₀, hs₀⟩ := hp
  -- the only row of the id was published
  have hone : ∀ f ∈ db.fskus.rows, f.id = id → f.status = .published := by
    intro f hf hid
    rw [db.fskus.eq_of_key hf hf₀ (hid.trans hid₀.symm)]
    exact hs₀
  have hsame : ∀ {db' : FskuDb}, db'.fskus = db.fskus →
      ∀ f ∈ db'.fskus.rows, f.id = id → f.status ≠ .retired := by
    intro db' heq f hf hid hs
    rw [heq] at hf
    rw [hone f hf hid] at hs
    cases hs
  have hupdate : ∀ {X : Int} {ch : FskuChange},
      (∀ g : FskuRow, g.id = X → g.status = .published → g.id = id → (ch.set g).status ≠ .retired) →
      ∀ f ∈ ((FskuRedo.fskuUpdate X ch).apply db).fskus.rows, f.id = id →
        f.status ≠ .retired := by
    intro X ch hch f hf hid
    rcases mem_fskuUpdate_cases hf with ⟨g, hg, hX, rfl⟩ | ⟨hf, -⟩
    · rw [ch.set_id] at hid
      exact hch g hX (hone g hg hid) hid
    · rw [hone f hf hid]
      simp
  cases op with
  | createDraft name code shape id' now =>
      obtain ⟨g, code, hdraft, rfl⟩ := h
      have hins : ∀ f ∈ ((FskuRedo.fskuInsert g).apply db).fskus.rows, f.id = id →
          f.status ≠ .retired := by
        intro f hf hid
        rcases Table.mem_of_mem_insert hf with hf | rfl
        · rw [hone f hf hid]
          simp
        · rw [hdraft]
          simp
      intro f hf hid
      rcases mem_fskuUpdate_cases hf with ⟨f', hf', -, rfl⟩ | ⟨hf', -⟩
      · exact hins f' hf' hid
      · exact hins f hf' hid
  | replaceComponentsDraft fskuId components newId now =>
      obtain ⟨ids, now, new, rfl, -⟩ := h
      rw [fskus_replaceLog]
      refine hupdate fun g _ hs _ => ?_
      show g.status ≠ .retired
      simp [hs]
  | publish fskuId now =>
      obtain ⟨now, rfl, -⟩ := h
      exact hupdate fun g _ _ _ => by simp [FskuChange.set]
  | retire fskuId now =>
      obtain ⟨now, rfl, -⟩ := h
      exact hupdate fun g hX _ hid => absurd (congrArg some (hX.symm.trans hid)) hret
  | bindUpsert platform storeCode merchantCode fskuId reason newId =>
      obtain ⟨-, ⟨b, -, rfl⟩ | rfl | ⟨id, reason, rfl⟩⟩ := h
      · exact hsame rfl
      · exact hsame rfl
      · exact hsame rfl
  | unbind platform storeCode merchantCode =>
      obtain ⟨id, rfl⟩ := h
      exact hsame rfl

/-- **Commit.** A binding afterwards was there before, or is the one of a call
that bound it to a published FSKU. -/
theorem FskuCall.Wrote.bindings {op : FskuCall} (h : op.Wrote db log)
    {b : MerchantCodeFskuBinding} (hb : b ∈ (redo log db).bindings.rows) :
    b ∈ db.bindings.rows ∨ (op.binds = some b.fskuId ∧ db.Published b.fskuId) := by
  cases op with
  | createDraft name code shape id now =>
      obtain ⟨g, code, -, rfl⟩ := h
      exact .inl hb
  | replaceComponentsDraft fskuId components newId now =>
      obtain ⟨ids, now, new, rfl, -⟩ := h
      rw [replaceLog, redo_cons, redo_cons, redo_componentInserts] at hb
      exact .inl hb
  | publish fskuId now =>
      obtain ⟨now, rfl, -⟩ := h
      exact .inl hb
  | retire fskuId now =>
      obtain ⟨now, rfl, -⟩ := h
      exact .inl hb
  | bindUpsert platform storeCode merchantCode fskuId reason newId =>
      obtain ⟨hpub, ⟨b', rfl, rfl⟩ | rfl | ⟨id, reason, rfl⟩⟩ := h
      · rcases Table.mem_of_mem_insert hb with hb | rfl
        · exact .inl hb
        · exact .inr ⟨rfl, hpub⟩
      · exact .inl hb
      · obtain ⟨b', hb', rfl⟩ := List.mem_map.mp hb
        split
        · exact .inr ⟨rfl, hpub⟩
        · exact .inl hb'
  | unbind platform storeCode merchantCode =>
      obtain ⟨id, rfl⟩ := h
      exact .inl (Table.mem_delete.mp hb).1

/-- **Commit.** Only a publish, of an FSKU with a primary component, takes one
out of its draft. -/
theorem FskuCall.Wrote.leaves_draft {op : FskuCall} (h : op.Wrote db log) {f : FskuRow}
    (hf : f ∈ (redo log db).fskus.rows) (hs : f.status ≠ .draft) :
    (∃ g ∈ db.fskus.rows, g.id = f.id ∧ g.status ≠ .draft) ∨ db.HasPrimary f.id := by
  cases op with
  | createDraft name code shape id now =>
      obtain ⟨g, code, hdraft, rfl⟩ := h
      have hins : ∀ f ∈ ((FskuRedo.fskuInsert g).apply db).fskus.rows, f.status ≠ .draft →
          ∃ g ∈ db.fskus.rows, g.id = f.id ∧ g.status ≠ .draft := by
        intro f hf hs
        rcases Table.mem_of_mem_insert hf with hf | rfl
        · exact ⟨f, hf, rfl, hs⟩
        · exact absurd hdraft hs
      rcases mem_fskuUpdate_cases hf with ⟨f', hf', -, rfl⟩ | ⟨hf', -⟩
      · exact .inl (hins f' hf' hs)
      · exact .inl (hins f hf' hs)
  | replaceComponentsDraft fskuId components newId now =>
      obtain ⟨ids, now, new, rfl, -⟩ := h
      rw [fskus_replaceLog] at hf
      rcases mem_fskuUpdate_cases hf with ⟨g, hg, -, rfl⟩ | ⟨hf, -⟩
      · exact .inl ⟨g, hg, rfl, hs⟩
      · exact .inl ⟨f, hf, rfl, hs⟩
  | publish fskuId now =>
      obtain ⟨now, rfl, hp, -⟩ := h
      rcases mem_fskuUpdate_cases hf with ⟨g, hg, hid, rfl⟩ | ⟨hf, -⟩
      · rw [FskuChange.set_id, hid]
        exact .inr hp
      · exact .inl ⟨f, hf, rfl, hs⟩
  | retire fskuId now =>
      obtain ⟨now, rfl, -, hnot⟩ := h
      rcases mem_fskuUpdate_cases hf with ⟨g, hg, hid, rfl⟩ | ⟨hf, -⟩
      · exact .inl ⟨g, hg, (FskuChange.set_id _ g).symm, hnot g hg hid⟩
      · exact .inl ⟨f, hf, rfl, hs⟩
  | bindUpsert platform storeCode merchantCode fskuId reason newId =>
      obtain ⟨-, ⟨b, -, rfl⟩ | rfl | ⟨id, reason, rfl⟩⟩ := h
      · exact .inl ⟨f, hf, rfl, hs⟩
      · exact .inl ⟨f, hf, rfl, hs⟩
      · exact .inl ⟨f, hf, rfl, hs⟩
  | unbind platform storeCode merchantCode =>
      obtain ⟨id, rfl⟩ := h
      exact .inl ⟨f, hf, rfl, hs⟩

/-- **Commit.** What a call retires is not bound. -/
theorem FskuCall.Wrote.not_retires {op : FskuCall} (h : op.Wrote db log)
    {b : MerchantCodeFskuBinding} (hb : b ∈ (redo log db).bindings.rows) :
    op.retires ≠ some b.fskuId := by
  cases op with
  | retire fskuId now =>
      obtain ⟨now, rfl, hunbound, -⟩ := h
      intro heq
      exact hunbound b hb (Option.some.inj heq).symm
  | _ => nofun

/-- **Commit.** The life cycle is kept. -/
theorem FskuCall.Wrote.sound {op : FskuCall} (h : op.Wrote db log) (hdb : db.Sound) :
    (redo log db).Sound where
  primary := by
    intro f hf hne
    rcases h.leaves_draft hf hne with ⟨g, hg, hid, hs⟩ | hp
    · rw [← hid]
      exact h.primary (hdb.primary g hg hs)
    · exact h.primary hp
  bound := by
    intro b hb
    rcases h.bindings hb with hold | ⟨-, hpub⟩
    · exact h.published (hdb.bound b hold) (h.not_retires hb)
    · exact h.published hpub (h.not_retires hb)

end Commit

/-! ## What stays true -/

section Steady
variable {op : FskuCall} {db : FskuDb} {log : List FskuRedo}

/-- A commit is what the calls in flight rely on. -/
theorem FskuCall.Wrote.rely {op' : FskuCall} (h : op.Wrote db log) {held : List FskuLock}
    (htog : fskuTerms.together op' op) (hdis : ∀ l ∈ guardsOf log, l ∉ held) :
    FskuRely op' held db (redo log db) where
  moves := h.movesOn
  primary := fun _ => h.primary
  fsku := fun _ hid _ hf => mem_fskus_redo (fun hl => hdis _ hl hid) hf
  component := fun _ hid _ hc => mem_components_redo (fun hl => hdis _ hl hid) hc
  unbound := by
    intro id hid hun b hb heq
    rcases h.bindings hb with hold | ⟨hbinds, -⟩
    · exact hun b hold heq
    · exact htog.1 ⟨id, hid, by rw [hbinds, heq]⟩
  published := by
    intro id hid hp
    exact h.published hp fun hret => htog.2 ⟨id, hret, hid⟩

/-- A draft whose components are being replaced stays one. -/
theorem Replaces.steady {db' : FskuDb} {fskuId : Int} {ids : List Int} {now : Timestamp}
    {new : List FskuComponent} (h : Replaces fskuId ids new db)
    (hrely : FskuRely op (guardsOf (replaceLog fskuId ids now new)) db db') :
    Replaces fskuId ids new db' := by
  refine ⟨?_, h.owned, h.nodup, ?_⟩
  · intro f hf hid
    refine h.draft f ((hrely.fsku fskuId ?_ f hid).mp hf) hid
    exact mem_guardsOf.mpr ⟨_, List.mem_cons_of_mem _ List.mem_cons_self, List.mem_cons_self⟩
  · intro c hc d hd hid
    refine h.free c hc d ((hrely.component c.id ?_ d hid).mp hd) hid
    exact mem_guardsOf.mpr ⟨.componentInsert c, List.mem_cons_of_mem _
      (List.mem_cons_of_mem _ (List.mem_map_of_mem hc)), List.mem_cons_self⟩

/-- What a finished call wrote stays so until it commits. -/
theorem FskuCall.steady_wrote (op : FskuCall) : Steady (fskuSetting op) op.Wrote := by
  intro w w' log h hrely
  cases op with
  | createDraft name code shape id now => exact h
  | replaceComponentsDraft fskuId components newId now =>
      obtain ⟨ids, now, new, rfl, hrep, hprimary⟩ := h
      exact ⟨ids, now, new, rfl, hrep.steady hrely, hprimary⟩
  | publish fskuId now =>
      obtain ⟨now, rfl, hp, hnot⟩ := h
      refine ⟨now, rfl, hrely.primary _ hp, fun f hf hid => hnot f ?_ hid⟩
      exact (hrely.fsku fskuId List.mem_cons_self f hid).mp hf
  | retire fskuId now =>
      obtain ⟨now, rfl, hun, hnot⟩ := h
      refine ⟨now, rfl, hrely.unbound _ rfl hun, fun f hf hid => hnot f ?_ hid⟩
      exact (hrely.fsku fskuId List.mem_cons_self f hid).mp hf
  | bindUpsert platform storeCode merchantCode fskuId reason newId =>
      exact ⟨hrely.published _ rfl h.1, h.2⟩
  | unbind platform storeCode merchantCode => exact h

/-- Nothing is written yet. -/
theorem steady_begun : Steady (fskuSetting op) fun _ log => log = [] :=
  fun _ _ _ h _ => h

end Steady

/-! ## The calls -/

section Calls
variable {op : FskuCall} {α : Type} {P Q : FskuDb → List FskuRedo → Prop}

theorem meets_updateFsku {rename : FskuErr → FskuErr} {id : Int} {ch : FskuChange}
    (hP : Steady (fskuSetting op) P) (hQ : Steady (fskuSetting op) Q)
    (h : ∀ w log, P w log → FskuRedo.Timely (redo log w) (.fskuUpdate id ch) →
      Q w (log ++ [.fskuUpdate id ch])) :
    Meets (fskuSetting op) (Holds P) (updateFsku rename id ch) (fun _ => Holds Q) := by
  refine Meets.write hP (fun _ => hQ) ?_
  intro w log a us hlog hfit hs
  have hus : us = [.fskuUpdate id ch] := by
    split at hs
    · cases hs
    · (repeat' split at hs) <;> cases hs
      rfl
  subst hus
  exact h w log hlog (hfit _ List.mem_cons_self)

/-- An FSKU once read: a fact that its row gives and that stays true. -/
theorem meets_getFsku {fskuId : Int} {e : FskuErr} {R : FskuRow → FskuDb → Prop}
    (hR : ∀ f, Steady (fskuSetting op) fun w _ => R f w)
    (h : ∀ w, ∀ f ∈ w.fskus.rows, f.id = fskuId → R f w) :
    Meets (fskuSetting op) (Holds fun _ log => log = [])
      (getFsku fskuId >>= fun o => Prog.requireSome o e)
      (fun f => Holds fun w log => log = [] ∧ R f w) := by
  have hQ : ∀ o : Option FskuRow,
      Steady (fskuSetting op) fun w log => log = [] ∧ ∀ f ∈ o, R f w := by
    intro o w w' log hw hrely
    exact ⟨hw.1, fun f hf => hR f w w' log (hw.2 f hf) hrely⟩
  refine Meets.bind (M := fun o => Holds fun w log => log = [] ∧ ∀ f ∈ o, R f w)
    (Meets.read steady_begun hQ ?_) fun o => ?_
  · rintro w log rfl
    refine ⟨rfl, fun f hf => ?_⟩
    obtain ⟨hmem, hid⟩ := Table.lookup_eq_some.mp hf
    exact h w f hmem hid
  · refine (Meets.requireSome (hQ o)).consequence (fun _ hc => hc) fun f c hc => ?_
    exact ⟨hc.1, hc.2.2.1, hc.2.2.2 f hc.2.1⟩

theorem meets_publish (fskuId : Int) (now : Timestamp) :
    Meets (fskuSetting (.publish fskuId now)) (Holds fun _ log => log = [])
      (publish fskuId now) (fun _ => Holds (FskuCall.Wrote (.publish fskuId now))) := by
  unfold publish
  rw [← bind_assoc]
  refine Meets.bind (meets_getFsku (R := fun _ _ => True) (fun _ _ _ _ _ _ => trivial)
    fun _ _ _ _ => trivial) fun f => ?_
  refine Meets.weaken (P := fun _ log => log = []) (fun _ _ h => h.1) ?_
  refine Meets.bind (Meets.require steady_begun) fun _ => Meets.fact fun _ => ?_
  refine Meets.bind (M := fun _ => Holds fun _ log => log = [])
    (Meets.read steady_begun (fun _ => steady_begun) fun _ _ h => h) fun total => ?_
  refine Meets.bind (Meets.require steady_begun) fun _ => Meets.fact fun _ => ?_
  have hcounted : ∀ n : Nat, Steady (fskuSetting (.publish fskuId now))
      fun w log => log = [] ∧ (0 < n → w.HasPrimary fskuId) :=
    fun n w w' log h hrely => ⟨h.1, fun hn => hrely.primary _ (h.2 hn)⟩
  refine Meets.bind (M := fun n => Holds fun w log => log = [] ∧ (0 < n → w.HasPrimary fskuId))
    (Meets.read steady_begun hcounted ?_) fun n => ?_
  · rintro w log rfl
    refine ⟨rfl, fun hn => ?_⟩
    obtain ⟨c, hc⟩ := List.exists_mem_of_length_pos hn
    obtain ⟨hc, hrole⟩ := List.mem_filter.mp hc
    obtain ⟨hc, hid⟩ := List.mem_filter.mp hc
    exact ⟨c, hc, of_decide_eq_true hid, of_decide_eq_true hrole⟩
  refine Meets.bind (Meets.require (hcounted n)) fun _ => Meets.fact fun hn => ?_
  refine meets_updateFsku (hcounted n) (FskuCall.steady_wrote _) ?_
  rintro w log ⟨rfl, hprimary⟩ htimely
  exact ⟨now, rfl, hprimary hn, htimely⟩

theorem meets_retire (fskuId : Int) (now : Timestamp) :
    Meets (fskuSetting (.retire fskuId now)) (Holds fun _ log => log = [])
      (retire fskuId now) (fun _ => Holds (FskuCall.Wrote (.retire fskuId now))) := by
  let Left (w : FskuDb) : Prop := ∃ f ∈ w.fskus.rows, f.id = fskuId ∧ f.status ≠ .draft
  have hleft : ∀ {w w' : FskuDb}, w.MovesOn w' → Left w → Left w' := by
    rintro w w' hmoves ⟨f, hf, hid, hs⟩
    obtain ⟨f', hf', hid', hmove, -⟩ := hmoves f hf
    refine ⟨f', hf', hid'.trans hid, fun hdraft => hs ?_⟩
    rw [hdraft] at hmove
    cases hmove'' : f.status with
    | draft => rfl
    | published => rw [hmove''] at hmove; cases hmove
    | retired => rw [hmove''] at hmove; cases hmove
  unfold retire
  rw [← bind_assoc]
  refine Meets.bind (meets_getFsku (R := fun f w => f.status = .published → Left w)
    (fun f w w' _ h hrely hs => hleft hrely.moves (h hs)) ?_) fun f => ?_
  · intro w f hf hid hs
    exact ⟨f, hf, hid, by rw [hs]; simp⟩
  have hread : Steady (fskuSetting (.retire fskuId now))
      fun w log => log = [] ∧ (f.status = .published → Left w) :=
    fun w w' log h hrely => ⟨h.1, fun hs => hleft hrely.moves (h.2 hs)⟩
  refine Meets.bind (Meets.require hread) fun _ => Meets.fact fun hs => ?_
  have hbound : ∀ bound : Bool, Steady (fskuSetting (.retire fskuId now))
      fun w log => log = [] ∧ Left w ∧ (bound = false → w.Unbound fskuId) :=
    fun bound w w' log h hrely =>
      ⟨h.1, hleft hrely.moves h.2.1, fun hb => hrely.unbound _ rfl (h.2.2 hb)⟩
  refine Meets.bind (M := fun bound =>
      Holds fun w log => log = [] ∧ Left w ∧ (bound = false → w.Unbound fskuId))
    (Meets.read hread hbound ?_) fun bound => ?_
  · rintro w log ⟨rfl, hl⟩
    refine ⟨rfl, hl hs, fun hb b hmem heq => ?_⟩
    rw [List.any_eq_false] at hb
    exact hb b hmem (decide_eq_true heq)
  refine Meets.bind (Meets.require (hbound bound)) fun _ => Meets.fact fun hb => ?_
  refine meets_updateFsku (hbound bound) (FskuCall.steady_wrote _) ?_
  rintro w log ⟨rfl, ⟨f', hf', hid', hs'⟩, hun⟩ -
  refine ⟨now, rfl, hun hb, fun g hg hid => ?_⟩
  rw [w.fskus.eq_of_key hg hf' (hid.trans hid'.symm)]
  exact hs'

theorem meets_createDraft (name : String) (code shape : Option String) (id : Int)
    (now : Timestamp) :
    Meets (fskuSetting (.createDraft name code shape id now)) (Holds fun _ log => log = [])
      (createDraft name code shape id now)
      (fun _ => Holds (FskuCall.Wrote (.createDraft name code shape id now))) := by
  unfold createDraft
  refine Meets.bind (Meets.ofExcept steady_begun) fun shp => Meets.fact fun _ => ?_
  have hinserted : Steady (fskuSetting (.createDraft name code shape id now))
      fun _ log => ∃ f : FskuRow, f.id = id ∧ f.status = .draft ∧ log = [.fskuInsert f] :=
    fun _ _ _ h _ => h
  refine Meets.bind (M := fun _ => Holds fun _ log =>
      ∃ f : FskuRow, f.id = id ∧ f.status = .draft ∧ log = [FskuRedo.fskuInsert f])
    (Meets.write steady_begun (fun _ => hinserted) ?_) fun _ => ?_
  · rintro w log a us rfl - hs
    dsimp only at hs
    (repeat' split at hs) <;> cases hs
    exact ⟨_, rfl, rfl, rfl⟩
  · refine meets_updateFsku hinserted (FskuCall.steady_wrote _) ?_
    rintro w log ⟨f, rfl, hs, rfl⟩ -
    exact ⟨f, _, hs, rfl⟩

theorem meets_bindUpsert (platform storeCode merchantCode : String) (fskuId : Int)
    (reason : Option String) (newId : Int) :
    Meets (fskuSetting (.bindUpsert platform storeCode merchantCode fskuId reason newId))
      (Holds fun _ log => log = [])
      (bindUpsert platform storeCode merchantCode fskuId reason newId)
      (fun _ => Holds (FskuCall.Wrote
        (.bindUpsert platform storeCode merchantCode fskuId reason newId))) := by
  generalize hop : FskuCall.bindUpsert platform storeCode merchantCode fskuId reason newId = op
  have hbinds : op.binds = some fskuId := by rw [← hop]; rfl
  unfold bindUpsert
  refine Meets.bind (Meets.ofExcept steady_begun) fun key => Meets.fact fun _ => ?_
  rw [← bind_assoc]
  refine Meets.bind (meets_getFsku (R := fun f w => f.status = .published → w.Published fskuId)
    (fun f w w' _ h hrely hs => hrely.published _ hbinds (h hs)) ?_) fun f => ?_
  · intro w f hf hid hs
    exact ⟨f, hf, hid, hs⟩
  have hread : Steady (fskuSetting op)
      fun w log => log = [] ∧ (f.status = .published → w.Published fskuId) :=
    fun w w' log h hrely => ⟨h.1, fun hs => hrely.published _ hbinds (h.2 hs)⟩
  have hpub : Steady (fskuSetting op) fun w log => log = [] ∧ w.Published fskuId :=
    fun w w' log h hrely => ⟨h.1, hrely.published _ hbinds h.2⟩
  refine Meets.bind (Meets.require hread) fun _ => Meets.fact fun hs => ?_
  dsimp only
  refine Meets.bind (M := fun _ => Holds fun w log => log = [] ∧ w.Published fskuId)
    (Meets.read hread (fun _ => hpub) ?_) fun row => ?_
  · rintro w log ⟨hlog, h⟩
    exact ⟨hlog, h hs⟩
  cases row with
  | none =>
      refine Meets.write hpub (fun _ => FskuCall.steady_wrote _) ?_
      rintro w log a us ⟨rfl, hp⟩ - hs
      (repeat' split at hs) <;> cases hs
      rw [← hop]
      exact ⟨hp, .inl ⟨_, rfl, rfl⟩⟩
  | some row =>
      refine Meets.write hpub (fun _ => FskuCall.steady_wrote _) ?_
      rintro w log a us ⟨rfl, hp⟩ - hs
      rw [← hop]
      (repeat' split at hs) <;> cases hs
      · exact ⟨hp, .inr (.inl rfl)⟩
      · exact ⟨hp, .inr (.inr ⟨_, _, rfl⟩)⟩

theorem meets_unbind (platform storeCode merchantCode : String) :
    Meets (fskuSetting (.unbind platform storeCode merchantCode)) (Holds fun _ log => log = [])
      (unbind platform storeCode merchantCode)
      (fun _ => Holds (FskuCall.Wrote (.unbind platform storeCode merchantCode))) := by
  unfold unbind
  refine Meets.bind (Meets.ofExcept steady_begun) fun key => Meets.fact fun _ => ?_
  refine Meets.bind (M := fun _ => Holds fun _ log => log = [])
    (Meets.read steady_begun (fun _ => steady_begun) fun _ _ h => h) fun row => ?_
  refine Meets.bind (Meets.requireSome steady_begun) fun row => Meets.fact fun _ => ?_
  refine Meets.write steady_begun (fun _ => FskuCall.steady_wrote _) ?_
  rintro w log a us rfl - hs
  cases hs
  exact ⟨_, rfl⟩

/-! ### Replacing -/

theorem meets_missingItems (i : Nat) (components : List FskuComponentIn) :
    Meets (fskuSetting op) (Holds fun _ log => log = []) (missingItems i components)
      (fun _ => Holds fun _ log => log = []) := by
  induction components generalizing i with
  | nil => exact Meets.ret (Q := fun _ _ log => log = []) steady_begun
  | cons c rest ih =>
      unfold missingItems
      refine Meets.bind (M := fun _ => Holds fun _ log => log = [])
        (Meets.read steady_begun (fun _ => steady_begun) fun _ _ h => h) fun found => ?_
      refine Meets.bind (ih (i + 1)) fun details => ?_
      exact Meets.ret (Q := fun _ _ log => log = []) steady_begun

/-- The entries before `new` have been written. -/
private def Replacing (fskuId : Int) (ids : List Int) (now : Timestamp)
    (new : List FskuComponent) (db : FskuDb) (log : List FskuRedo) : Prop :=
  log = replaceLog fskuId ids now new ∧ Replaces fskuId ids new db

private theorem steady_replacing {fskuId : Int} {components : List FskuComponentIn}
    {newId : Nat → Int} {t : Timestamp} (ids : List Int) (now : Timestamp)
    (new : List FskuComponent) :
    Steady (fskuSetting (.replaceComponentsDraft fskuId components newId t))
      (Replacing fskuId ids now new) := by
  rintro w w' log ⟨rfl, hrep⟩ hrely
  exact ⟨rfl, hrep.steady hrely⟩

/-- One more component. -/
private theorem Replacing.snoc {fskuId : Int} {ids : List Int} {now : Timestamp}
    {new : List FskuComponent} {db : FskuDb} {log : List FskuRedo} {c : FskuComponent}
    (h : Replacing fskuId ids now new db log) (hc : c.fskuId = fskuId)
    (hfree : ¬ (redo log db).components.HasKey c.id) :
    Replacing fskuId ids now (new ++ [c]) db (log ++ [.componentInsert c]) := by
  obtain ⟨rfl, hrep⟩ := h
  have hmem : ∀ d, (d ∈ db.components.rows ∧ ¬ (d.fskuId = fskuId ∧ d.id ∈ ids)) ∨ d ∈ new →
      d.id ≠ c.id := by
    intro d hd hid
    exact hfree ⟨d, hrep.mem_components.mpr hd, hid⟩
  refine ⟨by simp [replaceLog], hrep.draft, ?_, ?_, ?_⟩
  · intro d hd
    rcases List.mem_append.mp hd with hd | hd
    · exact hrep.owned d hd
    · rw [List.mem_singleton.mp hd]
      exact hc
  · rw [List.map_append, List.nodup_append]
    refine ⟨hrep.nodup, List.nodup_singleton _, ?_⟩
    intro a ha b hb hab
    obtain ⟨d, hd, rfl⟩ := List.mem_map.mp ha
    rw [List.map_singleton, List.mem_singleton] at hb
    exact hmem d (.inr hd) (hab.trans hb)
  · intro d hd e he hid
    rcases List.mem_append.mp hd with hd | hd
    · exact hrep.free d hd e he hid
    · rw [List.mem_singleton.mp hd] at hid
      by_contra hkept
      exact hmem e (.inl ⟨he, hkept⟩) hid

private theorem meets_insertComponents {fskuId : Int} {components : List FskuComponentIn}
    {newId : Nat → Int} {t : Timestamp} (rename : FskuErr → FskuErr) (ids : List Int)
    (now : Timestamp) (rest new : List FskuComponent) (hrest : ∀ c ∈ rest, c.fskuId = fskuId) :
    Meets (fskuSetting (.replaceComponentsDraft fskuId components newId t))
      (Holds (Replacing fskuId ids now new)) (insertComponents rename rest)
      (fun _ => Holds (Replacing fskuId ids now (new ++ rest))) := by
  induction rest generalizing new with
  | nil =>
      rw [List.append_nil]
      exact Meets.ret (Q := fun _ => Replacing fskuId ids now new) (steady_replacing _ _ _)
  | cons c rest ih =>
      unfold insertComponents
      refine Meets.bind (M := fun _ => Holds (Replacing fskuId ids now (new ++ [c])))
        (Meets.write (steady_replacing _ _ _) (fun _ => steady_replacing _ _ _) ?_) fun _ => ?_
      · intro w log a us h _ hs
        split at hs
        · cases hs
        · rename_i hfree
          (repeat' split at hs) <;> cases hs
          exact h.snoc (hrest c List.mem_cons_self) hfree
      · have hnext := ih (new ++ [c]) fun d hd => hrest d (List.mem_cons_of_mem _ hd)
        rw [List.append_assoc, List.singleton_append] at hnext
        exact hnext

theorem mem_componentRows {fskuId : Int} {newId : Nat → Int} {components : List FskuComponentIn}
    {c : FskuComponent} (h : c ∈ componentRows fskuId newId components) : c.fskuId = fskuId := by
  obtain ⟨⟨c', i⟩, -, rfl⟩ := List.mem_map.mp h
  rfl

/-- A primary entry has a primary row. -/
theorem exists_primary_row {fskuId : Int} {newId : Nat → Int} {components : List FskuComponentIn}
    (h : ∃ c ∈ components, c.role = .primary) :
    ∃ c ∈ componentRows fskuId newId components, c.role = "primary" := by
  obtain ⟨c, hc, hrole⟩ := h
  obtain ⟨i, hi⟩ := List.mem_iff_getElem?.mp hc
  refine ⟨c.row fskuId (newId i), List.mem_map.mpr ⟨(c, i), ?_, rfl⟩, ?_⟩
  · exact List.mk_mem_zipIdx_iff_getElem?.mpr hi
  · show c.role.text = "primary"
    rw [hrole]
    rfl

theorem meets_replaceComponentsDraft (fskuId : Int) (components : List FskuComponentIn)
    (newId : Nat → Int) (now : Timestamp) :
    Meets (fskuSetting (.replaceComponentsDraft fskuId components newId now))
      (Holds fun _ log => log = []) (replaceComponentsDraft fskuId components newId now)
      (fun _ => Holds (FskuCall.Wrote (.replaceComponentsDraft fskuId components newId now))) := by
  unfold replaceComponentsDraft
  rw [← bind_assoc]
  refine Meets.bind (meets_getFsku (R := fun _ _ => True) (fun _ _ _ _ _ _ => trivial)
    fun _ _ _ _ => trivial) fun f => ?_
  refine Meets.weaken (P := fun _ log => log = []) (fun _ _ h => h.1) ?_
  refine Meets.bind (Meets.require steady_begun) fun _ => Meets.fact fun _ => ?_
  dsimp only
  refine Meets.bind (Meets.require steady_begun) fun _ => Meets.fact fun _ => ?_
  refine Meets.bind (Meets.require steady_begun) fun _ => Meets.fact fun hprimary => ?_
  refine Meets.bind (meets_missingItems 0 components) fun details => ?_
  refine Meets.bind (Meets.require steady_begun) fun _ => Meets.fact fun _ => ?_
  refine Meets.bind (M := fun _ => Holds fun _ log => log = [])
    (Meets.read steady_begun (fun _ => steady_begun) fun _ _ h => h) fun ids => ?_
  have hdeleted : Steady (fskuSetting (.replaceComponentsDraft fskuId components newId now))
      fun _ log => log = [FskuRedo.componentsDelete fskuId ids] := fun _ _ _ h _ => h
  refine Meets.bind (M := fun _ => Holds fun _ log =>
      log = [FskuRedo.componentsDelete fskuId ids])
    (Meets.write steady_begun (fun _ => hdeleted) ?_) fun _ => ?_
  · rintro w log a us rfl - hs
    cases hs
    rfl
  refine Meets.bind (M := fun _ => Holds (Replacing fskuId ids now []))
    (meets_updateFsku hdeleted (steady_replacing _ _ _) ?_) fun _ => ?_
  · rintro w log rfl htimely
    refine ⟨rfl, htimely, ?_, List.nodup_nil, ?_⟩
    · intro c hc
      cases hc
    · intro c hc
      cases hc
  refine (meets_insertComponents _ ids now _ [] fun c hc => mem_componentRows hc).consequence
    (fun _ hc => hc) fun _ c hc => ?_
  obtain ⟨hheld, hlog, hrep⟩ := hc
  exact ⟨hheld, ids, now, _, hlog, hrep, exists_primary_row hprimary⟩

end Calls

/-! ## The discipline -/

/-- **One call.** -/
theorem FskuCall.meets (op : FskuCall) :
    Meets (fskuSetting op) (Holds fun _ log => log = []) op.prog (fun _ => Holds op.Wrote) := by
  cases op with
  | createDraft name code shape id now => exact meets_createDraft name code shape id now
  | replaceComponentsDraft fskuId components newId now =>
      exact meets_replaceComponentsDraft fskuId components newId now
  | publish fskuId now => exact meets_publish fskuId now
  | retire fskuId now => exact meets_retire fskuId now
  | bindUpsert platform storeCode merchantCode fskuId reason newId =>
      exact meets_bindUpsert platform storeCode merchantCode fskuId reason newId
  | unbind platform storeCode merchantCode => exact meets_unbind platform storeCode merchantCode

/-- Within the terms, calls leave each other what they checked. -/
def fskuDiscipline : Discipline FskuCall.prog fskuTerms FskuLock FskuRedo where
  inv := FskuDb.Sound
  rely := FskuRely
  done op _ := Holds op.Wrote
  post _ _ _ := True
  meets op := op.meets.consequence (fun c hc => by rw [hc.2]; exact ⟨rfl, rfl⟩) fun _ _ hc => hc
  keeps hdone hinv := hdone.2.sound hinv
  guarantee := by
    intro op a c op' held hdone _ htog hdis
    exact hdone.2.rely htog (by rw [← hdone.1]; exact hdis)
  answers _ _ := trivial
  lasting _ _ _ := trivial

end WmsDu
