import WmsDu.User.Service

/-!
# Administrators under interference

The check that a user is not the last administrator is a count in a statement
of its own. What it finds, another administrator beside the user, stays true
while no removal of another user is in flight.
-/

namespace WmsDu

open Txn

/-! ## Administrators -/

/-- The user is active and holds `page.admin.write`. -/
def UserDb.Admin (db : UserDb) (userId : Int) : Prop :=
  ∃ u ∈ db.users.rows, u.id = userId ∧ u.isActive = true ∧
    adminWritePermission ∈ db.permissionNames userId

/-- Some active user holds `page.admin.write`. -/
def UserDb.HasAdmin (db : UserDb) : Prop :=
  ∃ u ∈ db.users.rows, u.isActive = true ∧ adminWritePermission ∈ db.permissionNames u.id

instance UserDb.decidableHasAdmin (db : UserDb) : Decidable db.HasAdmin :=
  inferInstanceAs (Decidable (∃ u ∈ db.users.rows, _))

section Admin
variable {db : UserDb} {userId : Int}

theorem UserDb.hasAdmin_iff : db.HasAdmin ↔ ∃ userId, db.Admin userId := by
  constructor
  · rintro ⟨u, hu, hactive, hname⟩
    exact ⟨u.id, u, hu, rfl, hactive, hname⟩
  · rintro ⟨_, u, hu, rfl, hactive, hname⟩
    exact ⟨u, hu, hactive, hname⟩

theorem UserDb.mem_permissionNames {name : String} :
    name ∈ db.permissionNames userId ↔ ∃ p ∈ db.permissions.rows, p.name = name ∧
      (⟨userId, p.id⟩ : UserPermission) ∈ db.userPermissions.rows := by
  unfold UserDb.permissionNames
  rw [List.mem_map]
  simp only [List.mem_filter, decide_eq_true_eq]
  constructor
  · rintro ⟨p, ⟨hp, hheld⟩, hname⟩
    exact ⟨p, hp, hname, hheld⟩
  · rintro ⟨p, hp, hname, hheld⟩
    exact ⟨p, ⟨hp, hheld⟩, hname⟩

/-- Another user is an administrator. -/
def UserDb.AdminBeside (db : UserDb) (userId : Int) : Prop := ∃ w, w ≠ userId ∧ db.Admin w

/-- While there is an administrator, a user who is none is not the last. -/
theorem UserDb.HasAdmin.beside (h : db.HasAdmin) (hnot : ¬ db.Admin userId) :
    db.AdminBeside userId := by
  obtain ⟨w, hw⟩ := UserDb.hasAdmin_iff.mp h
  refine ⟨w, ?_, hw⟩
  rintro rfl
  exact hnot hw

/-- Where two are counted, one is not the user. -/
theorem UserDb.adminBeside_of_count
    (h : 1 < (db.users.rows.filter fun u =>
      u.isActive ∧ adminWritePermission ∈ db.permissionNames u.id).length) :
    db.AdminBeside userId := by
  have hnodup : ((db.users.rows.filter fun u =>
      u.isActive ∧ adminWritePermission ∈ db.permissionNames u.id).map fun u : UserRow => u.id).Nodup :=
    db.users.nodup.sublist (List.filter_sublist.map _)
  generalize hl : (db.users.rows.filter fun u =>
    u.isActive ∧ adminWritePermission ∈ db.permissionNames u.id) = l at h hnodup
  have hadmin : ∀ u ∈ l, db.Admin u.id := by
    intro u hu
    rw [← hl] at hu
    obtain ⟨hu, hcond⟩ := List.mem_filter.mp hu
    obtain ⟨hactive, hname⟩ := of_decide_eq_true hcond
    exact ⟨u, hu, rfl, hactive, hname⟩
  match l, h, hnodup with
  | u :: v :: rest, _, hnodup =>
      by_cases hu : u.id = userId
      · refine ⟨v.id, ?_, hadmin v (by simp)⟩
        rintro hv
        simp [hu, hv] at hnodup
      · exact ⟨u.id, hu, hadmin u (by simp)⟩

end Admin

/-! ## Records -/

/-- The user a record is about. -/
def UserRedo.about : UserRedo → Int
  | .userInsert u => u.id
  | .userUpdate id _ | .userDelete id | .revoke id _ | .grant id _ => id

section Records
variable {db : UserDb} {u : UserRedo} {log : List UserRedo} {userId : Int}

theorem UserRedo.apply_pages : (u.apply db).pages = db.pages := by cases u <;> rfl

theorem UserRedo.apply_permissions : (u.apply db).permissions = db.permissions := by
  cases u <;> rfl

theorem redo_pages : (redo log db).pages = db.pages := redo_frame fun _ _ _ => UserRedo.apply_pages

theorem redo_permissions : (redo log db).permissions = db.permissions :=
  redo_frame fun _ _ _ => UserRedo.apply_permissions

theorem UserDb.rootPages_congr {db' : UserDb} (hpages : db'.pages = db.pages)
    (hpermissions : db'.permissions = db.permissions) : db'.rootPages = db.rootPages := by
  unfold UserDb.rootPages UserDb.rootPage UserDb.permissionName
  rw [hpages, hpermissions]

/-- An administrator needs the row and one of the permissions. -/
theorem UserDb.Admin.of_kept {db' : UserDb} (h : db.Admin userId)
    (huser : ∀ u ∈ db.users.rows, u.id = userId → u.isActive = true →
      ∃ v ∈ db'.users.rows, v.id = userId ∧ v.isActive = true)
    (hpermissions : db'.permissions = db.permissions)
    (hheld : ∀ p, (⟨userId, p⟩ : UserPermission) ∈ db.userPermissions.rows →
      (⟨userId, p⟩ : UserPermission) ∈ db'.userPermissions.rows) : db'.Admin userId := by
  obtain ⟨u, hu, hid, hactive, hname⟩ := h
  obtain ⟨v, hv, hvid, hvactive⟩ := huser u hu hid hactive
  obtain ⟨p, hp, hpname, hmem⟩ := UserDb.mem_permissionNames.mp hname
  refine ⟨v, hv, hvid, hvactive, UserDb.mem_permissionNames.mpr ⟨p, ?_, hpname, hheld p.id hmem⟩⟩
  rw [hpermissions]
  exact hp

/-- A record about one user leaves the others administrators. -/
theorem UserRedo.apply_admin (hne : u.about ≠ userId) (h : db.Admin userId) :
    (u.apply db).Admin userId := by
  cases u with
  | userInsert v =>
      refine h.of_kept (fun w hw hid ha => ⟨w, ?_, hid, ha⟩) rfl fun _ hp => hp
      exact Table.mem_insert_of_mem hw
  | userUpdate id ch =>
      refine h.of_kept (fun w hw hid ha => ⟨w, ?_, hid, ha⟩) rfl fun _ hp => hp
      refine (Table.mem_update (f := ch.set) fun _ => rfl).mpr ⟨w, hw, ?_⟩
      rw [if_neg]
      rintro rfl
      exact hne hid
  | userDelete id =>
      refine h.of_kept (fun w hw hid ha => ⟨w, ?_, hid, ha⟩) rfl fun p hp => ?_
      · refine Table.mem_delete.mpr ⟨hw, ?_⟩
        rintro rfl
        exact hne hid
      · exact Table.mem_delete.mpr ⟨hp, fun heq => hne heq.symm⟩
  | revoke id ps =>
      refine h.of_kept (fun w hw hid ha => ⟨w, hw, hid, ha⟩) rfl fun p hp => ?_
      exact Table.mem_delete.mpr ⟨hp, fun hdel => hne hdel.1.symm⟩
  | grant id p =>
      exact h.of_kept (fun w hw hid ha => ⟨w, hw, hid, ha⟩) rfl
        fun _ hp => Table.mem_insert_of_mem hp

theorem redo_admin (hne : ∀ u ∈ log, u.about ≠ userId) (h : db.Admin userId) :
    (redo log db).Admin userId :=
  redo_preserves (I := fun w : UserDb => w.Admin userId)
    (fun u hu _ hw => UserRedo.apply_admin (hne u hu) hw) h

/-- A user whose lock a log does not need is there after it if before. -/
theorem hasKey_users_redo (h : UserLock.user userId ∉ guardsOf log) :
    (redo log db).users.HasKey userId ↔ db.users.HasKey userId := by
  refine redo_preserves (I := fun w : UserDb => w.users.HasKey userId ↔ db.users.HasKey userId) ?_
    Iff.rfl
  intro u hu w hw
  have hfree : UserLock.user userId ∉ RedoLog.guards u :=
    fun hl => h (mem_guardsOf.mpr ⟨u, hu, hl⟩)
  rw [← hw]
  cases u with
  | userInsert v =>
      refine Table.hasKey_insert.trans (or_iff_left ?_)
      rintro rfl
      exact hfree List.mem_cons_self
  | userUpdate id ch => exact Table.hasKey_update (f := ch.set) fun _ => rfl
  | userDelete id =>
      constructor
      · rintro ⟨v, hv, hid⟩
        exact ⟨v, (Table.mem_delete.mp hv).1, hid⟩
      · rintro ⟨v, hv, hid⟩
        refine ⟨v, Table.mem_delete.mpr ⟨hv, ?_⟩, hid⟩
        rintro rfl
        exact hfree (List.mem_singleton.mpr (congrArg _ hid.symm))
  | revoke id ps => exact Iff.rfl
  | grant id p => exact Iff.rfl

end Records

/-! ## Calls side by side -/

/-- The user a call is about. -/
def UserCall.target : UserCall → Int
  | .createUser _ id => id
  | .updateUser userId _ => userId
  | .deleteUser userId => userId
  | .updateMatrixForUser userId _ _ => userId

/-- The call may take `page.admin.write` or the activity away from its user:
it deactivates or deletes the user, or its matrix does not have the write cell
of the permission's page. -/
def UserCall.Removes (pages : List RootPage) : UserCall → Prop
  | .createUser .. => False
  | .updateUser _ body => body.isActive = some false
  | .deleteUser _ => True
  | .updateMatrixForUser _ _ body => adminWritePermission ∉ body.desired pages

instance UserCall.decidableRemoves (pages : List RootPage) :
    (op : UserCall) → Decidable (op.Removes pages)
  | .createUser .. => isFalse id
  | .updateUser _ _ => inferInstanceAs (Decidable (_ = _))
  | .deleteUser _ => isTrue trivial
  | .updateMatrixForUser _ _ _ => inferInstanceAs (Decidable (_ ∉ _))

/-- No two removals of different users are in flight together. -/
def userTerms (pages : List RootPage) : Terms UserCall (Stmt UserDb UserRedo UserErr) UserDb :=
  .fitting (fun _ _ => True)
    (fun a b => a.Removes pages → b.Removes pages → a.target = b.target)
    fun _ _ h hb ha => (h ha hb).symm

instance userTerms.decidableTogether (pages : List RootPage) (a b : UserCall) :
    Decidable ((userTerms pages).together a b) :=
  inferInstanceAs (Decidable (_ → _ → _))

instance userTerms.decidableIssue (pages : List RootPage) {β : Type}
    (s : Stmt UserDb UserRedo UserErr β) (db : UserDb) :
    Decidable ((userTerms pages).issue s db) :=
  isTrue fun _ _ => trivial

/-- What the commits of others do while a call holds some locks. -/
structure UserRely (pages : List RootPage) (op : UserCall) (held : List UserLock)
    (db db' : UserDb) : Prop where
  samePages : db'.pages = db.pages
  samePermissions : db'.permissions = db.permissions
  hasAdmin : db.HasAdmin → db'.HasAdmin
  beside : op.Removes pages → ∀ w, w ≠ op.target → db.Admin w → db'.Admin w
  user : ∀ id, UserLock.user id ∈ held → (db'.users.HasKey id ↔ db.users.HasKey id)

def userSetting (pages : List RootPage) (op : UserCall) :
    Setting (Stmt UserDb UserRedo UserErr) UserDb UserLock :=
  .fitting (fun _ _ => True) (UserRely pages op)

/-! ## What a call has written -/

/-- The log of a call that replaced permissions. -/
def grantLog (userId : Int) (seen ids : List Int) : List UserRedo :=
  .revoke userId seen :: ids.map (.grant userId)

/-- The log cannot end the administration of its user: the user is new, or
only attributes change, or the permission is granted anew. -/
def KeepsAdmin (userId : Int) (db : UserDb) (log : List UserRedo) : Prop :=
  (¬ db.users.HasKey userId ∧ UserLock.user userId ∈ guardsOf log) ∨
  (∀ u ∈ log, ∃ ch : UserChange, ch.isActive ≠ some false ∧ u = .userUpdate userId ch) ∨
  ∃ seen ids, log = grantLog userId seen ids ∧
    ∃ p ∈ db.permissions.rows, p.name = adminWritePermission ∧ p.id ∈ ids

/-- What a finished call wrote, and what it knows of the committed state. -/
structure UserCall.Wrote (pages : List RootPage) (op : UserCall) (db : UserDb)
    (log : List UserRedo) : Prop where
  about : ∀ u ∈ log, u.about = op.target
  safe : KeepsAdmin op.target db log ∨ (op.Removes pages ∧ db.AdminBeside op.target)

section Commit
variable {pages : List RootPage} {op op' : UserCall} {db db' : UserDb} {log : List UserRedo}
  {userId : Int} {held : List UserLock}

theorem redo_grants (ids : List Int) (db : UserDb) :
    redo (ids.map (UserRedo.grant userId)) db =
      { db with
        userPermissions := (ids.map (UserPermission.mk userId)).foldl Table.insert
          db.userPermissions } := by
  induction ids generalizing db with
  | nil => rfl
  | cons p ids ih =>
      rw [List.map_cons, redo_cons, ih]
      rfl

theorem KeepsAdmin.admin (h : KeepsAdmin userId db log) (ha : db.Admin userId) :
    (redo log db).Admin userId := by
  rcases h with ⟨hnew, -⟩ | hch | ⟨seen, ids, rfl, p, hp, hname, hmem⟩
  · obtain ⟨u, hu, hid, -⟩ := ha
    exact absurd ⟨u, hu, hid⟩ hnew
  · refine redo_preserves (I := fun w : UserDb => w.Admin userId) ?_ ha
    intro u hu w hw
    obtain ⟨ch, hactive, rfl⟩ := hch u hu
    refine hw.of_kept (fun v hv hid hva => ⟨ch.set v, ?_, hid, ?_⟩) rfl fun _ hp => hp
    · exact (Table.mem_update (f := ch.set) fun _ => rfl).mpr ⟨v, hv, (if_pos hid).symm⟩
    · show ch.isActive.getD v.isActive = true
      cases hc : ch.isActive with
      | none => exact hva
      | some b =>
          cases b with
          | true => rfl
          | false => exact absurd hc hactive
  · obtain ⟨u, hu, hid, hactive, -⟩ := ha
    rw [grantLog, redo_cons, redo_grants]
    refine ⟨u, hu, hid, hactive, UserDb.mem_permissionNames.mpr ⟨p, hp, hname, ?_⟩⟩
    exact Table.mem_insertAll _ _ (.inr ⟨fun _ h => h, List.mem_map_of_mem hmem⟩)

/-- **Commit.** A commit leaves the other users their administration. -/
theorem UserCall.Wrote.admin (h : op.Wrote pages db log) (hne : userId ≠ op.target)
    (ha : db.Admin userId) : (redo log db).Admin userId :=
  redo_admin (fun u hu heq => hne (heq.symm.trans (h.about u hu))) ha

/-- **Commit.** A call that removes nobody leaves every user the
administration. -/
theorem UserCall.Wrote.admin_of_not_removes (h : op.Wrote pages db log)
    (hop : ¬ op.Removes pages) (ha : db.Admin userId) : (redo log db).Admin userId := by
  by_cases hid : userId = op.target
  · subst hid
    rcases h.safe with hkeeps | ⟨hremoves, -⟩
    · exact hkeeps.admin ha
    · exact absurd hremoves hop
  · exact h.admin hid ha

/-- **Commit.** There still is an administrator. -/
theorem UserCall.Wrote.hasAdmin (h : op.Wrote pages db log) (hdb : db.HasAdmin) :
    (redo log db).HasAdmin := by
  refine UserDb.hasAdmin_iff.mpr ?_
  rcases h.safe with hkeeps | ⟨-, w, hne, hw⟩
  · obtain ⟨w, hw⟩ := UserDb.hasAdmin_iff.mp hdb
    by_cases hid : w = op.target
    · subst hid
      exact ⟨_, hkeeps.admin hw⟩
    · exact ⟨w, h.admin hid hw⟩
  · exact ⟨w, h.admin hne hw⟩

/-- A commit is what the calls in flight rely on. -/
theorem UserCall.Wrote.rely (h : op.Wrote pages db log)
    (htog : (userTerms pages).together op' op) (hdis : ∀ l ∈ guardsOf log, l ∉ held) :
    UserRely pages op' held db (redo log db) where
  samePages := redo_pages
  samePermissions := redo_permissions
  hasAdmin := h.hasAdmin
  beside := by
    intro hremoves w hne hw
    by_cases hop : op.Removes pages
    · refine h.admin ?_ hw
      rw [← htog hremoves hop]
      exact hne
    · exact h.admin_of_not_removes hop hw
  user := fun id hid => hasKey_users_redo fun hl => hdis _ hl hid

/-- What a finished call wrote stays so until it commits. -/
theorem UserCall.steady_wrote (op : UserCall) : Steady (userSetting pages op) (op.Wrote pages) := by
  intro w w' log h hrely
  refine ⟨h.about, ?_⟩
  rcases h.safe with (⟨hnew, hlock⟩ | hch | ⟨seen, ids, hlog, p, hp, hids⟩) | ⟨hop, v, hne, hv⟩
  · exact .inl (.inl ⟨fun hk => hnew ((hrely.user _ hlock).mp hk), hlock⟩)
  · exact .inl (.inr (.inl hch))
  · refine .inl (.inr (.inr ⟨seen, ids, hlog, p, ?_, hids⟩))
    rw [hrely.samePermissions]
    exact hp
  · exact .inr ⟨hop, v, hne, hrely.beside hop v hne hv⟩

end Commit

/-! ## What a call knows -/

/-- Nothing is written yet; where `c` holds, a removal knows of another
administrator. -/
structure Knows (pages : List RootPage) (op : UserCall) (c : Prop) (db : UserDb)
    (log : List UserRedo) : Prop where
  begun : log = []
  registry : db.rootPages = pages
  hasAdmin : db.HasAdmin
  beside : op.Removes pages → c → db.AdminBeside op.target

section Calls
variable {pages : List RootPage} {op : UserCall} {c c' : Prop} {α : Type}
  {P : UserDb → List UserRedo → Prop}

theorem steady_knows : Steady (userSetting pages op) (Knows pages op c) := by
  intro w w' log h hrely
  refine ⟨h.begun, ?_, hrely.hasAdmin h.hasAdmin, ?_⟩
  · rw [UserDb.rootPages_congr hrely.samePages hrely.samePermissions]
    exact h.registry
  · intro hop hc
    obtain ⟨v, hne, hv⟩ := h.beside hop hc
    exact ⟨v, hne, hrely.beside hop v hne hv⟩

theorem Knows.mono {db : UserDb} {log : List UserRedo} (h : Knows pages op c db log)
    (hc : op.Removes pages → c' → c) : Knows pages op c' db log :=
  ⟨h.begun, h.registry, h.hasAdmin, fun hop hc' => h.beside hop (hc hop hc')⟩

/-- What a statement sees shows that the user of the call is no administrator. -/
theorem Knows.of_not_admin {db : UserDb} {log : List UserRedo} (h : Knows pages op c db log)
    (hnot : c' → ¬ db.Admin op.target) : Knows pages op c' db log :=
  ⟨h.begun, h.registry, h.hasAdmin, fun _ hc => h.hasAdmin.beside (hnot hc)⟩

theorem meets_loadUser :
    Meets (userSetting pages op) (Holds (Knows pages op c)) (loadUser op.target)
      (fun o => Holds fun w log => (∀ user ∈ o, user.row.id = op.target) ∧
        Knows pages op (∃ user ∈ o, user.row.isActive = false ∨
          adminWritePermission ∉ user.permissions.map PermissionRow.name) w log) := by
  unfold loadUser
  refine Meets.bind (M := fun o => Holds fun w log => (∀ row ∈ o, row.id = op.target) ∧
      Knows pages op (∃ row ∈ o, row.isActive = false) w log)
    (Meets.read steady_knows (fun _ => steady_knows.fact) ?_) fun o => Meets.fact fun hid => ?_
  · intro w log h
    obtain rfl := h.begun
    refine ⟨fun row hrow => (Table.lookup_eq_some.mp hrow).2, h.of_not_admin ?_⟩
    rintro ⟨row, hrow, hinactive⟩ ⟨u, hu, huid, hactive, -⟩
    obtain ⟨hmem, hrid⟩ := Table.lookup_eq_some.mp hrow
    rw [w.users.eq_of_key hu hmem (huid.trans hrid.symm), hinactive] at hactive
    cases hactive
  cases o with
  | none =>
      refine Meets.weaken ?_ (Meets.ret steady_knows.fact)
      intro w log h
      exact ⟨nofun, h.mono fun _ ⟨_, hu, _⟩ => by cases hu⟩
  | some row =>
      have hrow : row.id = op.target := hid row rfl
      have hsteady : ∀ ps : List PermissionRow, Steady (userSetting pages op)
          (Knows pages op (row.isActive = false ∨
            adminWritePermission ∉ ps.map PermissionRow.name)) := fun _ => steady_knows
      refine Meets.bind (M := fun ps => Holds (Knows pages op (row.isActive = false ∨
          adminWritePermission ∉ ps.map PermissionRow.name)))
        (Meets.read steady_knows hsteady ?_) fun ps => ?_
      · intro w log h
        obtain rfl := h.begun
        refine ⟨h.begun, h.registry, h.hasAdmin, fun hop hc => ?_⟩
        rcases hc with hinactive | hnone
        · exact h.beside hop ⟨row, rfl, hinactive⟩
        · refine h.hasAdmin.beside ?_
          rintro ⟨u, -, -, -, hname⟩
          refine hnone ?_
          rw [hrow]
          exact hname
      · refine Meets.weaken ?_ (Meets.ret steady_knows.fact)
        intro w log h
        refine ⟨fun user huser => ?_, h.mono ?_⟩
        · cases huser
          exact hrow
        · rintro - ⟨user, huser, hc⟩
          cases huser
          exact hc

/-- The user of a request, if there is one. -/
theorem meets_requireUser {e : UserErr} :
    Meets (userSetting pages op) (Holds (Knows pages op c))
      (loadUser op.target >>= fun o => Prog.requireSome o e)
      (fun user => Holds fun w log => user.row.id = op.target ∧
        Knows pages op (user.row.isActive = false ∨
          adminWritePermission ∉ user.permissions.map PermissionRow.name) w log) := by
  refine Meets.bind meets_loadUser fun o => Meets.fact fun hid => ?_
  refine (Meets.requireSome steady_knows).consequence (fun _ hc => hc) fun user s hs => ?_
  obtain ⟨hheld, hsome, hknows⟩ := hs
  exact ⟨hheld, hid user hsome, hknows.mono fun _ h => ⟨user, hsome, h⟩⟩

theorem meets_getUserPermissions {user : LoadedUser} :
    Meets (userSetting pages op)
      (Holds (Knows pages op (user.row.isActive = false ∨
        adminWritePermission ∉ user.permissions.map PermissionRow.name)))
      (getUserPermissions user)
      (fun names => Holds (Knows pages op
        (user.row.isActive = false ∨ adminWritePermission ∉ names))) := by
  unfold getUserPermissions
  split
  · rename_i hnone
    refine Meets.read steady_knows (fun _ => steady_knows) fun w log h => h.mono fun _ _ => .inr ?_
    rw [hnone]
    exact List.not_mem_nil
  · exact Meets.ret (Q := fun names => Knows pages op
      (user.row.isActive = false ∨ adminWritePermission ∉ names)) steady_knows

theorem meets_isActiveAdminWriteUser {user : LoadedUser} :
    Meets (userSetting pages op)
      (Holds (Knows pages op (user.row.isActive = false ∨
        adminWritePermission ∉ user.permissions.map PermissionRow.name)))
      (isActiveAdminWriteUser user)
      (fun admin => Holds (Knows pages op (admin = false))) := by
  unfold isActiveAdminWriteUser
  split
  · rename_i hinactive
    refine Meets.weaken ?_ (Meets.ret (Q := fun b => Knows pages op (b = false)) steady_knows)
    exact fun w log h => h.mono fun _ _ => .inl hinactive
  · refine Meets.bind meets_getUserPermissions fun names => ?_
    refine Meets.weaken ?_ (Meets.ret (Q := fun b => Knows pages op (b = false)) steady_knows)
    exact fun w log h => h.mono fun _ hc => .inr (of_decide_eq_false hc)

/-- Two administrators were counted. -/
theorem meets_countActiveUsers {e : UserErr} :
    Meets (userSetting pages op) (Holds (Knows pages op c))
      (countActiveUsersWithPermission adminWritePermission >>= fun n => Prog.require (1 < n) e)
      (fun _ => Holds (Knows pages op True)) := by
  refine Meets.bind (M := fun n => Holds (Knows pages op (1 < n)))
    (Meets.read steady_knows (fun _ => steady_knows) ?_) fun n => ?_
  · intro w log h
    obtain rfl := h.begun
    exact ⟨rfl, h.registry, h.hasAdmin, fun _ hc => UserDb.adminBeside_of_count hc⟩
  · refine (Meets.require steady_knows).consequence (fun _ hc => hc) fun _ s hs => ?_
    exact ⟨hs.1, hs.2.2.mono fun _ _ => hs.2.1⟩

/-- The check of a deactivation and of a delete. -/
theorem meets_ensureAnotherAdmin {user : LoadedUser} {action : String} :
    Meets (userSetting pages op)
      (Holds (Knows pages op (user.row.isActive = false ∨
        adminWritePermission ∉ user.permissions.map PermissionRow.name)))
      (ensureAnotherAdmin user action)
      (fun _ => Holds (Knows pages op True)) := by
  refine Meets.bind meets_isActiveAdminWriteUser fun admin => ?_
  split
  · exact meets_countActiveUsers
  · rename_i hadmin
    refine Meets.weaken ?_ (Meets.ret (Q := fun _ => Knows pages op True) steady_knows)
    exact fun w log h => h.mono fun _ _ => by simpa using hadmin

/-! ### Programs that write about one user -/

theorem silent_reloadUser (userId : Int) :
    (reloadUser userId).Writes fun _ _ => False :=
  Prog.writes_bind (Prog.writes_read _) fun _ =>
    Prog.writes_bind (Prog.writes_requireSome _ _) fun _ => Prog.writes_pure _

theorem silent_ensurePermissionsExist (ids : List Int) :
    (ensurePermissionsExist ids).Writes fun _ _ => False := by
  unfold ensurePermissionsExist
  refine Prog.writes_ite (Prog.writes_pure _) (Prog.writes_bind (Prog.writes_read _) fun _ => ?_)
  exact Prog.writes_bind (Prog.writes_require _ _) fun _ => Prog.writes_pure _

theorem writes_insertGrant (userId p : Int) :
    (insertGrant userId p).Writes fun _ u => u = .grant userId p := by
  refine Prog.writes_write fun w a us hs u hu => ?_
  (repeat' split at hs) <;> cases hs
  exact List.mem_singleton.mp hu

theorem writes_insertGrants (userId : Int) (ids : List Int) :
    (insertGrants userId ids).Writes fun _ u => u.about = userId := by
  induction ids with
  | nil => exact Prog.writes_pure _
  | cons p ids ih =>
      refine Prog.writes_bind ((writes_insertGrant userId p).mono ?_) fun _ => ih
      rintro w u rfl
      rfl

theorem writes_replacePermissionRows (userId : Int) (ids : List Int) :
    (replacePermissionRows userId ids).Writes fun _ u => u.about = userId := by
  refine Prog.writes_bind (Prog.writes_read _) fun seen => ?_
  refine Prog.writes_bind (Prog.writes_record fun w u hu => ?_) fun _ => writes_insertGrants _ _
  rw [List.mem_singleton.mp hu]
  rfl

theorem writes_revokeLoaded (userId : Int) (ids : List Int) :
    (revokeLoaded userId ids).Writes fun _ u => u.about = userId := by
  refine Prog.writes_write fun w a us hs u hu => ?_
  split at hs <;> cases hs
  rw [List.mem_singleton.mp hu]
  rfl

/-! ### The calls -/

/-- The records of a call are about its user, and a removal knows of another
administrator. -/
def Removing (pages : List RootPage) (op : UserCall) (db : UserDb) (log : List UserRedo) : Prop :=
  (∀ u ∈ log, u.about = op.target) ∧ op.Removes pages ∧ db.AdminBeside op.target

theorem steady_removing : Steady (userSetting pages op) (Removing pages op) := by
  rintro w w' log ⟨habout, hop, v, hne, hv⟩ hrely
  exact ⟨habout, hop, v, hne, hrely.beside hop v hne hv⟩

theorem Removing.append {db : UserDb} {log us : List UserRedo} (h : Removing pages op db log)
    (hus : ∀ u ∈ us, u.about = op.target) : Removing pages op db (log ++ us) := by
  refine ⟨fun u hu => ?_, h.2⟩
  rcases List.mem_append.mp hu with hu | hu
  · exact h.1 u hu
  · exact hus u hu

/-- What follows the check of a removal. -/
theorem meets_removing {x : UserTx α} (hop : op.Removes pages)
    (hx : x.Writes fun _ u => u.about = op.target) :
    Meets (userSetting pages op) (Holds (Knows pages op True)) x
      (fun _ => Holds (op.Wrote pages)) := by
  refine (Meets.weaken ?_ (Meets.writes hx steady_removing fun w log us h hus =>
    h.append hus)).consequence (fun _ hc => hc) fun _ s hs => ?_
  · intro w log h
    obtain rfl := h.begun
    exact ⟨nofun, hop, h.beside hop trivial⟩
  · exact ⟨hs.1, hs.2.1, .inr hs.2.2⟩

/-- The user of the call is new. -/
def Creating (op : UserCall) (db : UserDb) (log : List UserRedo) : Prop :=
  (∀ u ∈ log, u.about = op.target) ∧ ¬ db.users.HasKey op.target ∧
    UserLock.user op.target ∈ guardsOf log

theorem steady_creating : Steady (userSetting pages op) (Creating op) := by
  rintro w w' log ⟨habout, hnew, hlock⟩ hrely
  exact ⟨habout, fun hk => hnew ((hrely.user _ hlock).mp hk), hlock⟩

theorem meets_createUser (body : UserCreateIn) (id : Int) :
    Meets (userSetting pages (.createUser body id))
      (Holds (Knows pages (.createUser body id) False)) (createUser body id)
      (fun _ => Holds (UserCall.Wrote pages (.createUser body id))) := by
  generalize hop : UserCall.createUser body id = op
  obtain rfl : id = op.target := by rw [← hop]; rfl
  unfold createUser
  refine Meets.bind (Meets.silent (Prog.writes_read _) steady_knows) fun existed => ?_
  refine Meets.bind (Meets.silent (Prog.writes_require _ _) steady_knows) fun _ => ?_
  refine Meets.bind (Meets.silent (silent_ensurePermissionsExist _) steady_knows) fun ids => ?_
  refine Meets.bind (M := fun _ => Holds (Creating op))
    (Meets.write steady_knows (fun _ => steady_creating) ?_) fun _ => ?_
  · intro w log a us h _ hs
    obtain rfl := h.begun
    split at hs
    · cases hs
    · rename_i hnew
      split at hs <;> cases hs
      refine ⟨?_, hnew, mem_guardsOf.mpr ⟨_, List.mem_cons_self, List.mem_cons_self⟩⟩
      intro u hu
      rw [List.mem_singleton.mp hu]
      rfl
  · refine (Meets.writes (writes_replacePermissionRows _ _) steady_creating ?_).consequence
      (fun _ hc => hc) fun _ s hs => ?_
    · rintro w log us ⟨habout, hnew, hlock⟩ hus
      refine ⟨fun u hu => ?_, hnew, ?_⟩
      · rcases List.mem_append.mp hu with hu | hu
        · exact habout u hu
        · exact hus u hu
      · rw [guardsOf_append]
        exact List.mem_append_left _ hlock
    · obtain ⟨hheld, habout, hnew, hlock⟩ := hs
      exact ⟨hheld, habout, .inl (.inl ⟨hnew, hlock⟩)⟩

theorem UserUpdateIn.changes_isActive {body : UserUpdateIn} {row : UserRow}
    (h : (body.changes row).isActive = some false) : body.isActive = some false :=
  (Option.filter_eq_some_iff.mp h).1

theorem meets_updateUser (userId : Int) (body : UserUpdateIn) :
    Meets (userSetting pages (.updateUser userId body))
      (Holds (Knows pages (.updateUser userId body) False)) (updateUser userId body)
      (fun _ => Holds (UserCall.Wrote pages (.updateUser userId body))) := by
  generalize hop : UserCall.updateUser userId body = op
  obtain rfl : userId = op.target := by rw [← hop]; rfl
  have hremoves : op.Removes pages ↔ body.isActive = some false := by rw [← hop]; rfl
  unfold updateUser
  rw [← bind_assoc]
  refine Meets.bind meets_requireUser fun user => Meets.fact fun hid => ?_
  refine Meets.bind (M := fun _ => Holds (Knows pages op True)) ?_ fun _ => ?_
  · split
    · exact meets_ensureAnotherAdmin
    · rename_i hactive
      refine Meets.weaken ?_ (Meets.ret (Q := fun _ => Knows pages op True) steady_knows)
      exact fun w log h => h.mono fun hop => absurd (hremoves.mp hop) hactive
  refine Meets.bind (Meets.silent (silent_reloadUser _) steady_knows) fun _ => ?_
  dsimp only
  split
  · refine Meets.weaken ?_ (Meets.ret (Q := fun _ => op.Wrote pages) op.steady_wrote)
    intro w log h
    obtain rfl := h.begun
    exact ⟨nofun, .inl (.inr (.inl nofun))⟩
  · refine Meets.write steady_knows (fun _ => op.steady_wrote) ?_
    intro w log a us h _ hs
    obtain rfl := h.begun
    split at hs <;> cases hs
    refine ⟨fun u hu => by rw [List.mem_singleton.mp hu]; rfl, ?_⟩
    by_cases hch : (body.changes user.row).isActive = some false
    · have hrem := hremoves.mpr (UserUpdateIn.changes_isActive hch)
      exact .inr ⟨hrem, h.beside hrem trivial⟩
    · refine .inl (.inr (.inl fun u hu => ⟨_, hch, ?_⟩))
      exact List.mem_singleton.mp hu

theorem meets_deleteUser (userId : Int) :
    Meets (userSetting pages (.deleteUser userId)) (Holds (Knows pages (.deleteUser userId) False))
      (deleteUser userId) (fun _ => Holds (UserCall.Wrote pages (.deleteUser userId))) := by
  generalize hop : UserCall.deleteUser userId = op
  obtain rfl : userId = op.target := by rw [← hop]; rfl
  have hremoves : op.Removes pages := by rw [← hop]; trivial
  unfold deleteUser
  rw [← bind_assoc]
  refine Meets.bind meets_requireUser fun user => Meets.fact fun hid => ?_
  refine Meets.bind (M := fun _ => Holds (Knows pages op (user.row.isActive = false ∨
      adminWritePermission ∉ user.permissions.map PermissionRow.name))) ?_ fun _ => ?_
  · refine Meets.silent ?_ steady_knows
    unfold getUserPermissions
    exact Prog.writes_ite (Prog.writes_read _) (Prog.writes_pure _)
  refine Meets.bind meets_ensureAnotherAdmin fun _ => meets_removing hremoves ?_
  refine Prog.writes_bind ((silent_reloadUser _).mono nofun) fun _ => ?_
  refine Prog.writes_bind (writes_revokeLoaded _ _) fun _ => ?_
  refine Prog.writes_record fun w u hu => ?_
  rw [List.mem_singleton.mp hu]
  rfl

/-! ### The matrix -/

theorem meets_guardAdminWriteLockout {user : UserRow} {actorUserId : Int}
    {current final : List String} :
    Meets (userSetting pages op)
      (Holds (Knows pages op (user.isActive = false ∨ adminWritePermission ∉ current)))
      (guardAdminWriteLockout user actorUserId current final)
      (fun _ => Holds (Knows pages op (adminWritePermission ∉ final))) := by
  unfold guardAdminWriteLockout
  refine Meets.bind (Meets.require steady_knows) fun _ => Meets.fact fun _ => ?_
  split
  · refine meets_countActiveUsers.consequence (fun _ hc => hc) fun _ s hs => ?_
    exact ⟨hs.1, hs.2.mono fun _ _ => trivial⟩
  · rename_i hguard
    refine Meets.weaken ?_ (Meets.ret
      (Q := fun _ => Knows pages op (adminWritePermission ∉ final)) steady_knows)
    refine fun w log h => h.mono fun _ hfinal => ?_
    by_contra hc
    rw [not_or, Bool.not_eq_false, not_not] at hc
    exact hguard ⟨hc.1, hc.2, hfinal⟩

/-- The administrator's permission is among the ids. -/
def GrantsAdmin (ids : List Int) (db : UserDb) : Prop :=
  ∃ p ∈ db.permissions.rows, p.name = adminWritePermission ∧ p.id ∈ ids

theorem GrantsAdmin.rely {ids : List Int} {held : List UserLock} {db db' : UserDb}
    (h : GrantsAdmin ids db) (hrely : UserRely pages op held db db') : GrantsAdmin ids db' := by
  unfold GrantsAdmin
  rw [hrely.samePermissions]
  exact h

theorem meets_resolvePermissionIdsByNames {names : List String} :
    Meets (userSetting pages op) (Holds (Knows pages op c)) (resolvePermissionIdsByNames names)
      (fun ids => Holds fun w log =>
        (adminWritePermission ∈ names → GrantsAdmin ids w) ∧ Knows pages op c w log) := by
  have hQ : ∀ ids : List Int, Steady (userSetting pages op) fun w log =>
      (adminWritePermission ∈ names → GrantsAdmin ids w) ∧ Knows pages op c w log :=
    fun ids w w' log h hrely =>
      ⟨fun hname => (h.1 hname).rely hrely, steady_knows _ _ _ h.2 hrely⟩
  unfold resolvePermissionIdsByNames
  split
  · rename_i hnone
    refine Meets.weaken ?_ (Meets.ret (hQ []))
    intro w log h
    refine ⟨fun hname => ?_, h⟩
    rw [hnone] at hname
    cases hname
  · have hrows : ∀ rows : List PermissionRow, Steady (userSetting pages op) fun w log =>
        (∀ p ∈ rows, p ∈ w.permissions.rows) ∧ Knows pages op c w log := by
      intro rows w w' log h hrely
      refine ⟨fun p hp => ?_, steady_knows _ _ _ h.2 hrely⟩
      rw [hrely.samePermissions]
      exact h.1 p hp
    refine Meets.bind (M := fun rows => Holds fun w log =>
        (∀ p ∈ rows, p ∈ w.permissions.rows) ∧ Knows pages op c w log)
      (Meets.read steady_knows hrows ?_) fun rows => ?_
    · intro w log h
      obtain rfl := h.begun
      exact ⟨fun p hp => (List.mem_filter.mp hp).1, h⟩
    dsimp only
    refine Meets.bind (Meets.require (hrows rows)) fun _ => Meets.fact fun hmissing => ?_
    refine Meets.weaken ?_ (Meets.ret (hQ _))
    rintro w log ⟨hmem, h⟩
    refine ⟨fun hname => ?_, h⟩
    cases hfind : rows.find? fun p => p.name = adminWritePermission with
    | none =>
        have hmiss : adminWritePermission ∈
            sortOn id (names.filter fun n => n ∉ rows.map PermissionRow.name) := by
          refine mem_sortOn.mpr (List.mem_filter.mpr ⟨hname, decide_eq_true ?_⟩)
          intro hin
          obtain ⟨p, hp, hpname⟩ := List.mem_map.mp hin
          exact absurd (decide_eq_true hpname) (List.find?_eq_none.mp hfind p hp)
        rw [hmissing] at hmiss
        cases hmiss
    | some p =>
        refine ⟨p, hmem p (List.mem_of_find?_eq_some hfind),
          of_decide_eq_true (List.find?_some hfind :), ?_⟩
        refine List.mem_filterMap.mpr ⟨adminWritePermission, mem_sortOn.mpr hname, ?_⟩
        rw [hfind]
        rfl

theorem meets_ensurePermissionsExist {ids : List Int} (hP : Steady (userSetting pages op) P) :
    Meets (userSetting pages op) (Holds P) (ensurePermissionsExist ids)
      (fun out => Holds fun w log => out = ids.eraseDups ∧ P w log) := by
  unfold ensurePermissionsExist
  dsimp only
  split
  · rename_i hnone
    refine Meets.weaken ?_ (Meets.ret (Q := fun out w log => out = ids.eraseDups ∧ P w log) hP.fact)
    exact fun w log h => ⟨hnone.symm, h⟩
  · refine Meets.bind (Meets.silent (Prog.writes_read _) hP) fun existing => ?_
    refine Meets.bind (Meets.silent (Prog.writes_require _ _) hP) fun _ => ?_
    refine Meets.weaken ?_ (Meets.ret (Q := fun out w log => out = ids.eraseDups ∧ P w log) hP.fact)
    exact fun w log h => ⟨rfl, h⟩

/-- The permissions are replaced by some that make an administrator. -/
private theorem meets_insertGrants {userId : Int} {all seen : List Int} (rest granted : List Int) :
    Meets (userSetting pages op)
      (Holds fun w log => log = grantLog userId seen granted ∧ GrantsAdmin all w)
      (insertGrants userId rest)
      (fun _ => Holds fun w log =>
        log = grantLog userId seen (granted ++ rest) ∧ GrantsAdmin all w) := by
  have hsteady : ∀ granted, Steady (userSetting pages op) fun w log =>
      log = grantLog userId seen granted ∧ GrantsAdmin all w :=
    fun _ _ _ _ h hrely => ⟨h.1, h.2.rely hrely⟩
  induction rest generalizing granted with
  | nil =>
      rw [List.append_nil]
      exact Meets.ret (Q := fun _ w log => log = grantLog userId seen granted ∧ GrantsAdmin all w)
        (hsteady granted)
  | cons p rest ih =>
      refine Meets.bind (M := fun _ => Holds fun w log =>
          log = grantLog userId seen (granted ++ [p]) ∧ GrantsAdmin all w)
        (Meets.write (hsteady granted) (fun _ => hsteady _) ?_) fun _ => ?_
      · rintro w log a us ⟨rfl, h⟩ - hs
        (repeat' split at hs) <;> cases hs
        exact ⟨by simp [grantLog], h⟩
      · have hnext := ih (granted ++ [p])
        rw [List.append_assoc, List.singleton_append] at hnext
        exact hnext

theorem meets_replaceGranting {ids : List Int} :
    Meets (userSetting pages op)
      (Holds fun w log => log = [] ∧ GrantsAdmin ids w) (replacePermissionRows op.target ids)
      (fun _ => Holds (op.Wrote pages)) := by
  have hbegun : Steady (userSetting pages op) fun w log => log = [] ∧ GrantsAdmin ids w :=
    fun _ _ _ h hrely => ⟨h.1, h.2.rely hrely⟩
  have hrevoked : ∀ seen, Steady (userSetting pages op) fun w log =>
      log = grantLog op.target seen [] ∧ GrantsAdmin ids w :=
    fun _ _ _ _ h hrely => ⟨h.1, h.2.rely hrely⟩
  unfold replacePermissionRows
  refine Meets.bind (Meets.silent (Prog.writes_read _) hbegun) fun seen => ?_
  refine Meets.bind (M := fun _ => Holds fun w log =>
      log = grantLog op.target seen [] ∧ GrantsAdmin ids w)
    (Meets.write hbegun (fun _ => hrevoked seen) ?_) fun _ => ?_
  · rintro w log a us ⟨rfl, h⟩ - hs
    cases hs
    exact ⟨rfl, h⟩
  · refine (meets_insertGrants ids []).consequence (fun _ hc => hc) fun _ s hs => ?_
    obtain ⟨hheld, hlog, p, hp, hname, hmem⟩ := hs
    rw [List.nil_append] at hlog
    refine ⟨hheld, fun u hu => ?_, .inl (.inr (.inr ⟨seen, ids, hlog, p, hp, hname, hmem⟩))⟩
    rw [hlog] at hu
    rcases List.mem_cons.mp hu with rfl | hu
    · rfl
    · obtain ⟨q, -, rfl⟩ := List.mem_map.mp hu
      rfl

theorem writes_replaceUserPermissions (userId : Int) (ids : List Int) :
    (replaceUserPermissions userId ids).Writes fun _ u => u.about = userId :=
  Prog.writes_bind ((silent_reloadUser _).mono nofun) fun _ =>
    Prog.writes_bind ((silent_ensurePermissionsExist _).mono nofun) fun _ =>
      writes_replacePermissionRows _ _

theorem meets_updateMatrixForUser (userId actorUserId : Int) (body : MatrixUpdateIn) :
    Meets (userSetting pages (.updateMatrixForUser userId actorUserId body))
      (Holds (Knows pages (.updateMatrixForUser userId actorUserId body) False))
      (updateMatrixForUser userId actorUserId body)
      (fun _ => Holds (UserCall.Wrote pages (.updateMatrixForUser userId actorUserId body))) := by
  generalize hop : UserCall.updateMatrixForUser userId actorUserId body = op
  obtain rfl : userId = op.target := by rw [← hop]; rfl
  have hremoves : op.Removes pages ↔ adminWritePermission ∉ body.desired pages := by
    rw [← hop]
    rfl
  unfold updateMatrixForUser
  rw [← bind_assoc]
  refine Meets.bind meets_requireUser fun user => Meets.fact fun hid => ?_
  refine Meets.bind (M := fun roots => Holds fun w log => roots = pages ∧
      Knows pages op (user.row.isActive = false ∨
        adminWritePermission ∉ user.permissions.map PermissionRow.name) w log)
    (Meets.read steady_knows (fun _ => steady_knows.fact) ?_) fun roots => Meets.fact fun hroots => ?_
  · intro w log h
    obtain rfl := h.begun
    exact ⟨h.registry, h⟩
  subst hroots
  refine Meets.bind (Meets.ofExcept steady_knows) fun _ => Meets.fact fun _ => ?_
  dsimp only
  refine Meets.bind (Meets.require steady_knows) fun _ => Meets.fact fun _ => ?_
  refine Meets.bind meets_getUserPermissions fun current => ?_
  generalize hfinal : ((current.filter fun n => n ∉ managedPermissionNames roots) ++
    body.desired roots).eraseDups = final
  refine Meets.bind meets_guardAdminWriteLockout fun _ => ?_
  rw [hid]
  by_cases hadmin : adminWritePermission ∈ final
  · refine Meets.bind meets_resolvePermissionIdsByNames fun ids => ?_
    have hgranting : ∀ l : List Int, Steady (userSetting roots op) fun w log =>
        log = [] ∧ GrantsAdmin l w := fun _ _ _ _ h hrely => ⟨h.1, h.2.rely hrely⟩
    refine Meets.weaken (P := fun w log => log = [] ∧ GrantsAdmin ids w)
      (fun w log h => ⟨h.2.begun, h.1 hadmin⟩) ?_
    refine Meets.bind (Meets.silent (silent_reloadUser _) (hgranting ids)) fun _ => ?_
    refine Meets.bind (meets_ensurePermissionsExist (hgranting ids)) fun out => Meets.fact fun hout => ?_
    refine Meets.weaken ?_ meets_replaceGranting
    rintro w log ⟨hlog, p, hp, hname, hmem⟩
    refine ⟨hlog, p, hp, hname, ?_⟩
    rw [hout]
    exact List.mem_eraseDups.mpr hmem
  · have hdesired : adminWritePermission ∉ body.desired roots := by
      intro hin
      rw [← hfinal] at hadmin
      exact hadmin (List.mem_eraseDups.mpr (List.mem_append_right _ hin))
    refine Meets.bind (M := fun _ => Holds (Knows roots op (adminWritePermission ∉ final)))
      (meets_resolvePermissionIdsByNames.consequence (fun _ hc => hc)
        fun _ s hs => ⟨hs.1, hs.2.2⟩) fun ids => ?_
    refine Meets.weaken ?_
      (meets_removing (hremoves.mpr hdesired) (writes_replaceUserPermissions _ ids))
    exact fun w log h => h.mono fun _ _ => hadmin

end Calls

/-! ## The discipline -/

/-- **One call.** -/
theorem UserCall.meets (pages : List RootPage) (op : UserCall) :
    Meets (userSetting pages op) (Holds (Knows pages op False)) op.prog
      (fun _ => Holds (op.Wrote pages)) := by
  cases op with
  | createUser body id => exact meets_createUser body id
  | updateUser userId body => exact meets_updateUser userId body
  | deleteUser userId => exact meets_deleteUser userId
  | updateMatrixForUser userId actorUserId body =>
      exact meets_updateMatrixForUser userId actorUserId body

/-- Within the terms, a removal keeps the other administrator it knows of. -/
def userDiscipline (pages : List RootPage) :
    Discipline UserCall.prog (userTerms pages) UserLock UserRedo where
  inv db := db.rootPages = pages ∧ db.HasAdmin
  rely := UserRely pages
  done op _ := Holds (op.Wrote pages)
  post _ _ _ := True
  meets op := by
    refine (op.meets pages).consequence (fun c hc => ?_) fun _ _ hc => hc
    obtain ⟨⟨hpages, hadmin⟩, hfresh⟩ := hc
    rw [hfresh]
    exact ⟨rfl, rfl, hpages, hadmin, fun _ => False.elim⟩
  keeps hdone hinv :=
    ⟨(UserDb.rootPages_congr redo_pages redo_permissions).trans hinv.1, hdone.2.hasAdmin hinv.2⟩
  guarantee := by
    intro op a c op' held hdone _ htog hdis
    exact hdone.2.rely htog (by rw [← hdone.1]; exact hdis)
  answers _ _ := trivial
  lasting _ _ _ := trivial

end WmsDu
