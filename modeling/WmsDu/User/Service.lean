import Mathlib.Data.String.Basic
import WmsDu.User.Schema

/-!
# Admin user services

`UserService` and `UserPermissionMatrixWriteService` with the repository below
them. Every call is one transaction; the audit events written after its commit
are left out.
-/

namespace WmsDu

open Txn

def adminWritePermission : String := "page.admin.write"

/-! ## Loading -/

/-- A user as the session keeps it: the row, and the permissions that came
along with it. -/
structure LoadedUser where
  row : UserRow
  permissions : List PermissionRow

/-- `get_user_by_id`, the first time; the permissions are a second statement. -/
def loadUser (userId : Int) : UserTx (Option LoadedUser) := do
  let row ← Prog.read fun db => db.users.lookup userId
  match row with
  | none => return none
  | some row => do
      let permissions ← Prog.read fun db => db.permissions.rows.filter fun p =>
        (⟨row.id, p.id⟩ : UserPermission) ∈ db.userPermissions.rows
      return some ⟨row, permissions⟩

/-- `get_user_by_id` again: the session keeps the attributes it has. -/
def reloadUser (userId : Int) : UserTx Unit := do
  let row ← Prog.read fun db => db.users.lookup userId
  let _ ← Prog.requireSome row (.notFound "用户不存在")

/-- `get_user_permissions`: the loaded names, or a query when there are none. -/
def getUserPermissions (user : LoadedUser) : UserTx (List String) :=
  if user.permissions = [] then Prog.read fun db => db.permissionNames user.row.id
  else return user.permissions.map PermissionRow.name

/-- `count_active_users_with_permission`. -/
def countActiveUsersWithPermission (name : String) : UserTx Nat :=
  Prog.read fun db =>
    (db.users.rows.filter fun u => u.isActive ∧ name ∈ db.permissionNames u.id).length

/-- `_is_active_admin_write_user`. -/
def isActiveAdminWriteUser (user : LoadedUser) : UserTx Bool :=
  if user.row.isActive = false then return false
  else do
    let names ← getUserPermissions user
    return decide (adminWritePermission ∈ names)

/-- `_ensure_not_last_active_admin_writer`. -/
def ensureNotLastActiveAdminWriter (action : String) : UserTx Unit := do
  let count ← countActiveUsersWithPermission adminWritePermission
  Prog.require (1 < count)
    (.valueError s!"不能{action}最后一个仍拥有 page.admin.write 的有效用户")

/-- The check before a user is taken from the administrators. -/
def ensureAnotherAdmin (user : LoadedUser) (action : String) : UserTx Unit := do
  let admin ← isActiveAdminWriteUser user
  if admin = true then ensureNotLastActiveAdminWriter action else return ()

/-! ## Permissions of a user -/

/-- `_ensure_permissions_exist`. -/
def ensurePermissionsExist (permissionIds : List Int) : UserTx (List Int) := do
  let ids := permissionIds.eraseDups
  if ids = [] then return []
  else do
    let existing ← Prog.read fun db => db.permissions.rows.filter fun p => p.id ∈ ids
    let missing := ids.filter fun i => i ∉ existing.map PermissionRow.id
    Prog.require (missing = []) (.notFound s!"权限不存在: {missing}")
    return ids

def insertGrants (userId : Int) : List Int → UserTx Unit
  | [] => return ()
  | p :: rest => do
      insertGrant userId p
      insertGrants userId rest

/-- `_replace_user_permissions`. The delete sees the permissions there are when
it starts. -/
def replacePermissionRows (userId : Int) (permissionIds : List Int) : UserTx Unit := do
  let seen ← Prog.read fun db =>
    (db.userPermissions.rows.filter fun p => p.userId = userId).map UserPermission.permissionId
  Prog.record fun _ => [.revoke userId seen]
  insertGrants userId permissionIds

/-- `replace_user_permissions`, of a loaded user. -/
def replaceUserPermissions (userId : Int) (permissionIds : List Int) : UserTx Unit := do
  reloadUser userId
  let ids ← ensurePermissionsExist permissionIds
  replacePermissionRows userId ids

/-! ## Users -/

/-- `(value or "").strip() or None`. -/
def strippedOrNone (value : Option String) : Option String := orNone (strip (value.getD ""))

structure UserCreateIn where
  username : String
  permissionIds : List Int := []
  fullName : Option String := none
  phone : Option String := none
  email : Option String := none

/-- `create_user`, under the id the sequence draws. -/
def createUser (body : UserCreateIn) (id : Int) : UserTx Unit := do
  let existed ← Prog.read fun db => db.users.rows.find? fun u => u.username = body.username
  Prog.require (existed.isNone) (.duplicate "用户名已存在")
  let ids ← ensurePermissionsExist body.permissionIds
  insertUser
    { id := id, username := strip body.username, fullName := strippedOrNone body.fullName
      phone := strippedOrNone body.phone, email := strippedOrNone body.email }
  replacePermissionRows id ids

structure UserUpdateIn where
  fullName : Option String := none
  phone : Option String := none
  email : Option String := none
  isActive : Option Bool := none

/-- The columns that differ from what was loaded. -/
def UserUpdateIn.changes (body : UserUpdateIn) (row : UserRow) : UserChange where
  fullName := (body.fullName.map orNone).filter (· ≠ row.fullName)
  phone := (body.phone.map orNone).filter (· ≠ row.phone)
  email := (body.email.map orNone).filter (· ≠ row.email)
  isActive := body.isActive.filter (· ≠ row.isActive)

/-- `update_user`. -/
def updateUser (userId : Int) (body : UserUpdateIn) : UserTx Unit := do
  let user ← loadUser userId
  let user ← Prog.requireSome user (.notFound "用户不存在")
  (if body.isActive = some false then ensureAnotherAdmin user "停用" else pure ())
  reloadUser userId
  let ch := body.changes user.row
  if ch = {} then return () else updateUserRow userId ch

/-- `delete_user`. No foreign key to a user is without an action. -/
def deleteUser (userId : Int) : UserTx Unit := do
  let user ← loadUser userId
  let user ← Prog.requireSome user (.notFound "用户不存在")
  let _ ← getUserPermissions user
  ensureAnotherAdmin user "删除"
  reloadUser userId
  revokeLoaded userId (user.permissions.map PermissionRow.id)
  Prog.record fun _ => [.userDelete userId]

/-! ## The permission matrix -/

/-- A page of the matrix. -/
structure RootPage where
  code : String
  readPermission : String
  writePermission : String
deriving DecidableEq

/-- The name of a permission a page points to. -/
def UserDb.permissionName (db : UserDb) (permissionId : Option Int) : Option String :=
  (permissionId.bind db.permissions.lookup).map PermissionRow.name

/-- `_is_grantable_root_page`: the page of the matrix a registered page is. -/
def UserDb.rootPage (db : UserDb) (page : PageRow) : Option RootPage :=
  match db.permissionName page.readPermissionId, db.permissionName page.writePermissionId with
  | some r, some w =>
      if page.isActive ∧ page.level = 1 ∧ strip page.code ≠ "" ∧ strip page.name ≠ "" ∧
          page.inheritPermissions = false ∧ strip r ≠ "" ∧ strip w ≠ "" then
        some ⟨strip page.code, r, w⟩
      else none
  | _, _ => none

/-- `_list_root_pages`. -/
def UserDb.rootPages (db : UserDb) : List RootPage := db.pages.rows.filterMap db.rootPage

structure PageCell where
  read : Bool := false
  write : Bool := false

structure MatrixUpdateIn where
  pageCodes : List String
  pages : List (String × PageCell)

/-- The cell the body has for a page. -/
def MatrixUpdateIn.cell (body : MatrixUpdateIn) (code : String) : PageCell :=
  ((body.pages.find? fun e => e.1 = code).map Prod.snd).getD {}

/-- A list of texts as Python prints it. -/
def listText (l : List String) : String := "[" ++ ", ".intercalate (l.map fun s => "'" ++ s ++ "'") ++ "]"

/-- `_ensure_page_codes_match`. -/
def ensurePageCodesMatch (expected incoming : List String) : Except UserErr Unit :=
  let incoming := ((incoming.map strip).filter fun c => c ≠ "").eraseDups
  if sortOn id incoming = sortOn id expected then .ok ()
  else
    let missing := listText ((sortOn id expected).filter fun c => c ∉ incoming)
    let extra := listText ((sortOn id incoming).filter fun c => c ∉ expected)
    .error (.valueError s!"矩阵列已过期，请刷新页面后重试 缺失列={missing} 多余列={extra}")

/-- `_collect_managed_permission_names`. -/
def managedPermissionNames (pages : List RootPage) : List String :=
  pages.flatMap fun p => [p.readPermission, p.writePermission]

/-- `_build_desired_managed_permission_names`. -/
def MatrixUpdateIn.desired (body : MatrixUpdateIn) (pages : List RootPage) : List String :=
  pages.flatMap fun p =>
    let cell := body.cell p.code
    (if cell.read ∨ cell.write then [p.readPermission] else []) ++
      if cell.write then [p.writePermission] else []

/-- `_guard_admin_write_lockout`. -/
def guardAdminWriteLockout (user : UserRow) (actorUserId : Int) (current final : List String) :
    UserTx Unit := do
  Prog.require (¬ (actorUserId = user.id ∧ adminWritePermission ∈ current ∧
      adminWritePermission ∉ final))
    (.valueError "不能移除当前登录用户自己的 page.admin.write")
  if user.isActive ∧ adminWritePermission ∈ current ∧ adminWritePermission ∉ final then do
    let count ← countActiveUsersWithPermission adminWritePermission
    Prog.require (1 < count) (.valueError "不能移除最后一个仍拥有 page.admin.write 的有效用户")
  else return ()

/-- `_resolve_permission_ids_by_names`. -/
def resolvePermissionIdsByNames (names : List String) : UserTx (List Int) := do
  if names = [] then return []
  else do
    let rows ← Prog.read fun db => db.permissions.rows.filter fun p => p.name ∈ names
    let missing := sortOn id (names.filter fun n => n ∉ rows.map PermissionRow.name)
    Prog.require (missing = []) (.valueError s!"权限不存在: {listText missing}")
    return (sortOn id names).filterMap fun n =>
      (rows.find? fun p => p.name = n).map PermissionRow.id

/-- `update_matrix_for_user`. -/
def updateMatrixForUser (userId actorUserId : Int) (body : MatrixUpdateIn) : UserTx Unit := do
  let user ← loadUser userId
  let user ← Prog.requireSome user (.notFound "用户不存在")
  let pages ← Prog.read fun db => db.rootPages
  Prog.ofExcept (ensurePageCodesMatch (pages.map RootPage.code) body.pageCodes)
  let unknown := sortOn id ((body.pages.map Prod.fst).filter fun c => c ∉ pages.map RootPage.code)
  Prog.require (unknown = []) (.valueError s!"非法一级页面: {listText unknown}")
  let current ← getUserPermissions user
  let preserved := current.filter fun n => n ∉ managedPermissionNames pages
  let final := (preserved ++ body.desired pages).eraseDups
  guardAdminWriteLockout user.row actorUserId current final
  let ids ← resolvePermissionIdsByNames final
  replaceUserPermissions user.row.id ids

/-! ## Calls -/

inductive UserCall
  | createUser (body : UserCreateIn) (id : Int)
  | updateUser (userId : Int) (body : UserUpdateIn)
  | deleteUser (userId : Int)
  | updateMatrixForUser (userId actorUserId : Int) (body : MatrixUpdateIn)

def UserCall.prog : UserCall → UserTx Unit
  | .createUser body id => WmsDu.createUser body id
  | .updateUser userId body => WmsDu.updateUser userId body
  | .deleteUser userId => WmsDu.deleteUser userId
  | .updateMatrixForUser userId actorUserId body =>
      WmsDu.updateMatrixForUser userId actorUserId body

end WmsDu
