import WmsDu.Data.Sorting
import WmsDu.Data.Table
import WmsDu.Shared.Text
import WmsDu.Txn.Stmt

/-!
# The user tables

Users, permissions, who holds which, and the page registry the permission
matrix is drawn from, with the records the admin services write and the locks
that guard them.
-/

namespace WmsDu

open Txn

/-! ## Rows -/

/-- `users`, without the password hash. -/
structure UserRow where
  id : Int
  username : String
  isActive : Bool := true
  fullName : Option String := none
  phone : Option String := none
  email : Option String := none
deriving DecidableEq

structure PermissionRow where
  id : Int
  name : String
deriving DecidableEq

/-- `user_permissions`. -/
structure UserPermission where
  userId : Int
  permissionId : Int
deriving DecidableEq

/-- `page_registry`. -/
structure PageRow where
  code : String
  name : String
  level : Int
  isActive : Bool
  inheritPermissions : Bool
  readPermissionId : Option Int
  writePermissionId : Option Int
deriving DecidableEq

structure UserDb where
  users : Table (fun u : UserRow => u.id) := .empty
  permissions : Table PermissionRow.id := .empty
  userPermissions : Table (id : UserPermission → UserPermission) := .empty
  pages : Table PageRow.code := .empty

/-- The names of the permissions a user holds. -/
def UserDb.permissionNames (db : UserDb) (userId : Int) : List String :=
  (db.permissions.rows.filter fun p => (⟨userId, p.id⟩ : UserPermission) ∈ db.userPermissions.rows).map
    PermissionRow.name

/-! ## Errors -/

inductive UserErr
  | notFound (message : String)
  | duplicate (message : String)
  | valueError (message : String)
  /-- SQLAlchemy's `StaleDataError`: a statement of a flush did not find its rows. -/
  | staleData
  | integrity (constraint : String)
deriving DecidableEq, Repr

/-! ## Records -/

/-- The columns an update of a user writes. -/
structure UserChange where
  fullName : Option (Option String) := none
  phone : Option (Option String) := none
  email : Option (Option String) := none
  isActive : Option Bool := none
deriving DecidableEq, Repr

def UserChange.set (ch : UserChange) (u : UserRow) : UserRow :=
  { u with
    fullName := ch.fullName.getD u.fullName
    phone := ch.phone.getD u.phone
    email := ch.email.getD u.email
    isActive := ch.isActive.getD u.isActive }

inductive UserRedo
  | userInsert (u : UserRow)
  | userUpdate (id : Int) (ch : UserChange)
  /-- `ON DELETE CASCADE` takes the permissions of the user along. -/
  | userDelete (id : Int)
  | revoke (userId : Int) (permissionIds : List Int)
  | grant (userId permissionId : Int)

def UserRedo.apply (u : UserRedo) (db : UserDb) : UserDb :=
  match u with
  | .userInsert u => { db with users := db.users.insert u }
  | .userUpdate id ch =>
      { db with users := db.users.update (fun u => u.id = id) ch.set fun _ => rfl }
  | .userDelete id =>
      { db with
        users := db.users.delete fun u => u.id = id
        userPermissions := db.userPermissions.delete fun p => p.userId = id }
  | .revoke userId permissionIds =>
      { db with
        userPermissions := db.userPermissions.delete fun p =>
          p.userId = userId ∧ p.permissionId ∈ permissionIds }
  | .grant userId permissionId =>
      { db with userPermissions := db.userPermissions.insert ⟨userId, permissionId⟩ }

inductive UserLock
  | user (id : Int)
  | username (name : String)
  | userPermission (userId permissionId : Int)
deriving DecidableEq

instance : RedoLog UserRedo UserDb UserLock where
  apply := UserRedo.apply
  guards
    | .userInsert u => [.user u.id, .username u.username]
    | .userUpdate id _ => [.user id]
    | .userDelete id => [.user id]
    | .revoke userId permissionIds => permissionIds.map (.userPermission userId)
    | .grant userId permissionId => [.userPermission userId permissionId]

/-- A service of the user tables. -/
abbrev UserTx := Prog (Stmt UserDb UserRedo UserErr) UserErr

/-! ## Statements -/

def insertUser (u : UserRow) : UserTx Unit :=
  Prog.write fun db =>
    if db.users.HasKey u.id then .error (.integrity "users_pkey")
    else if ∃ v ∈ db.users.rows, v.username = u.username then
      .error (.integrity "users_username_key")
    else .ok ((), [.userInsert u])

/-- The update of a user the session has loaded. -/
def updateUserRow (id : Int) (ch : UserChange) : UserTx Unit :=
  Prog.write fun db =>
    if db.users.HasKey id then .ok ((), [.userUpdate id ch]) else .error .staleData

/-- The delete of permissions the session has loaded. -/
def revokeLoaded (userId : Int) (permissionIds : List Int) : UserTx Unit :=
  Prog.write fun db =>
    if ∀ p ∈ permissionIds, db.userPermissions.HasKey ⟨userId, p⟩ then
      .ok ((), [.revoke userId permissionIds])
    else .error .staleData

def insertGrant (userId permissionId : Int) : UserTx Unit :=
  Prog.write fun db =>
    if db.userPermissions.HasKey ⟨userId, permissionId⟩ then
      .error (.integrity "pk_user_permissions")
    else if ¬ db.users.HasKey userId then
      .error (.integrity "fk_user_permissions_user_id_users")
    else if ¬ db.permissions.HasKey permissionId then
      .error (.integrity "fk_user_permissions_permission_id_permissions")
    else .ok ((), [.grant userId permissionId])

end WmsDu
