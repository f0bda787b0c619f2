import Mathlib
import WmsDu.Data.ParentLinks
import WmsDu.Data.Sorting
import WmsDu.User.Schema

/-!
# The navigation of a user

The active pages a user may read, as a tree, with the route prefixes that lead
to them. A page takes its permissions from the nearest page above it that does
not inherit; what is found is kept in a cache that all pages share.
-/

namespace WmsDu

/-! ## Tables -/

/-- `page_registry` with the columns the navigation reads. -/
structure RegistryRow extends PageRow where
  parentCode : Option String
  domainCode : String
  showInTopbar : Bool
  showInSidebar : Bool
  sortOrder : Int
deriving DecidableEq

/-- `page_route_prefixes`. -/
structure RoutePrefixRow where
  routePrefix : String
  pageCode : String
  sortOrder : Int
  isActive : Bool
deriving DecidableEq

structure NavigationDb where
  permissions : Table PermissionRow.id
  userPermissions : Table (id : UserPermission → UserPermission)
  pages : Table fun p : RegistryRow => p.code
  routePrefixes : Table RoutePrefixRow.routePrefix

/-! ## Pages -/

/-- A row of `list_pages`. -/
structure PageRecord where
  code : String
  name : String
  parentCode : Option String
  level : Int
  domainCode : String
  showInTopbar : Bool
  showInSidebar : Bool
  sortOrder : Int
  isActive : Bool
  inheritPermissions : Bool
  selfReadPermission : Option String
  selfWritePermission : Option String
deriving DecidableEq

/-- `rows_by_code`. -/
abbrev PageRecords := Table PageRecord.code

/-- The parent code, where it is neither null nor empty. -/
def PageRecord.parent (row : PageRecord) : Option String := row.parentCode.filter (· ≠ "")

/-- The left join of a permission. -/
def NavigationDb.permissionName (db : NavigationDb) (id : Option Int) : Option String :=
  (id.bind db.permissions.lookup).map PermissionRow.name

def NavigationDb.pageRecord (db : NavigationDb) (page : RegistryRow) : PageRecord :=
  { code := page.code, name := page.name, parentCode := page.parentCode, level := page.level
    domainCode := page.domainCode, showInTopbar := page.showInTopbar
    showInSidebar := page.showInSidebar, sortOrder := page.sortOrder
    isActive := page.isActive, inheritPermissions := page.inheritPermissions
    selfReadPermission := db.permissionName page.readPermissionId
    selfWritePermission := db.permissionName page.writePermissionId }

/-- The active pages by level, sort order and code. -/
def NavigationDb.activePages (db : NavigationDb) : List RegistryRow :=
  sortOn (fun p => toLex (p.level, toLex (p.sortOrder, p.code))) (db.pages.rows.filter (·.isActive))

theorem NavigationDb.nodup_activePages (db : NavigationDb) :
    ((db.activePages.map db.pageRecord).map PageRecord.code).Nodup := by
  rw [List.map_map]
  have hperm := (perm_sortOn (fun p : RegistryRow => toLex (p.level, toLex (p.sortOrder, p.code)))
    (db.pages.rows.filter (·.isActive))).map fun p => p.code
  exact hperm.nodup_iff.mpr (db.pages.nodup.sublist (List.filter_sublist.map _))

/-- `list_pages`. -/
def NavigationDb.listPages (db : NavigationDb) : PageRecords :=
  ⟨db.activePages.map db.pageRecord, db.nodup_activePages⟩

/-- `get_user_permissions`. -/
def NavigationDb.getUserPermissions (db : NavigationDb) (userId : Int) : List String :=
  ((db.permissions.rows.filter fun p =>
    (⟨userId, p.id⟩ : UserPermission) ∈ db.userPermissions.rows).map PermissionRow.name).filter
      (· ≠ "")

/-! ## Permissions -/

/-- The read and the write permission of a page. -/
abbrev Permissions := Option String × Option String

/-- What is found so far, by code. -/
abbrev PermissionCache := String → Option Permissions

def PermissionCache.set (cache : PermissionCache) (code : String) (result : Permissions) :
    PermissionCache := Function.update cache code (some result)

/-- `_resolve_effective_permissions`. The set `visiting` is handed down; a call
takes out again what it has put in. Answers nothing if the fuel runs out. -/
def resolveEffectivePermissions (rowsByCode : PageRecords) :
    Nat → String → PermissionCache → List String → Option (Permissions × PermissionCache)
  | 0, _, _, _ => none
  | fuel + 1, code, cache, visiting =>
      match cache code with
      | some cached => some (cached, cache)
      | none =>
          match rowsByCode.lookup code with
          | none => some ((none, none), cache.set code (none, none))
          | some row =>
              if row.inheritPermissions = false then
                some ((row.selfReadPermission, row.selfWritePermission),
                  cache.set code (row.selfReadPermission, row.selfWritePermission))
              else
                match row.parent with
                | none => some ((none, none), cache.set code (none, none))
                | some parentCode =>
                    if code ∈ visiting then some ((none, none), cache.set code (none, none))
                    else
                      match resolveEffectivePermissions rowsByCode fuel parentCode cache
                          (code :: visiting) with
                      | none => none
                      | some (result, cache) => some (result, cache.set code result)

/-- Queries that share a cache, one after another. -/
def resolveAll (rowsByCode : PageRecords) (fuel : Nat) :
    List String → PermissionCache → Option (List Permissions × PermissionCache)
  | [], cache => some ([], cache)
  | code :: codes, cache =>
      match resolveEffectivePermissions rowsByCode fuel code cache [] with
      | none => none
      | some (result, cache) =>
          (resolveAll rowsByCode fuel codes cache).map fun (results, cache) =>
            (result :: results, cache)

/-! ## The tree -/

/-- A node of the tree, without its children. -/
structure PageNode where
  code : String
  name : String
  parentCode : Option String
  level : Int
  domainCode : String
  showInTopbar : Bool
  showInSidebar : Bool
  sortOrder : Int
  isActive : Bool
  inheritPermissions : Bool
  effectiveReadPermission : Option String
  effectiveWritePermission : Option String
deriving DecidableEq

/-- `_to_page_node`. -/
def toPageNode (row : PageRecord) (effective : Permissions) : PageNode :=
  { code := row.code, name := row.name, parentCode := row.parentCode, level := row.level
    domainCode := row.domainCode, showInTopbar := row.showInTopbar
    showInSidebar := row.showInSidebar, sortOrder := row.sortOrder, isActive := row.isActive
    inheritPermissions := row.inheritPermissions, effectiveReadPermission := effective.1
    effectiveWritePermission := effective.2 }

/-- `not effective_read_permission or … not in user_permissions`, negated. -/
def mayRead (userPermissions : List String) (effective : Permissions) : Bool :=
  effective.1.any fun name => name ≠ "" && decide (name ∈ userPermissions)

/-- The loop of `get_my_navigation` over the pages: `visible_pages_by_code`. -/
def visiblePages (rowsByCode : PageRecords) (userPermissions : List String) (fuel : Nat) :
    List PageRecord → PermissionCache → Option (List PageNode)
  | [], _ => some []
  | row :: rows, cache =>
      match resolveEffectivePermissions rowsByCode fuel row.code cache [] with
      | none => none
      | some (effective, cache) =>
          (visiblePages rowsByCode userPermissions fuel rows cache).map fun nodes =>
            if mayRead userPermissions effective then toPageNode row effective :: nodes else nodes

/-- `_page_sort_key`. -/
def pageSortKey (node : PageNode) : ℤ ×ₗ String := toLex (node.sortOrder, node.code)

def PageNode.parent (node : PageNode) : Option String := node.parentCode.filter (· ≠ "")

/-- The children that the visible pages are appended to. -/
def childrenByParent (visible : List PageNode) (parentCode : String) : List PageNode :=
  sortOn pageSortKey (visible.filter fun node => node.parent = some parentCode)

/-- The nodes as they refer to each other: the pages of level 1, and below each
node its children. -/
def pageTree (visible : List PageNode) : Forest PageNode :=
  { roots := sortOn pageSortKey (visible.filter fun node => node.level = 1)
    children := fun node => childrenByParent visible node.code }

/-! ## Route prefixes -/

structure RoutePrefixOut where
  routePrefix : String
  pageCode : String
  sortOrder : Int
  isActive : Bool
  effectiveReadPermission : Option String
  effectiveWritePermission : Option String
deriving DecidableEq

/-- `list_route_prefixes`. -/
def NavigationDb.listRoutePrefixes (db : NavigationDb) (pageCodes : List String) :
    List RoutePrefixRow :=
  sortOn (fun r => toLex (r.sortOrder, r.routePrefix))
    (db.routePrefixes.rows.filter fun r => r.isActive ∧ r.pageCode ∈ pageCodes.filter (· ≠ ""))

def routePrefixOut (row : RoutePrefixRow) (page : PageNode) : RoutePrefixOut :=
  { routePrefix := row.routePrefix, pageCode := row.pageCode, sortOrder := row.sortOrder
    isActive := row.isActive, effectiveReadPermission := page.effectiveReadPermission
    effectiveWritePermission := page.effectiveWritePermission }

structure Navigation where
  pages : Forest PageNode
  routePrefixes : List RoutePrefixOut

/-- `get_my_navigation`, with fuel to visit each page once. -/
def getMyNavigation (db : NavigationDb) (userId : Int) : Option Navigation :=
  let pageRows := db.listPages
  let fuel := pageRows.rows.length + 1
  (visiblePages pageRows (db.getUserPermissions userId) fuel pageRows.rows fun _ => none).map
    fun visible =>
      { pages := pageTree visible
        routePrefixes := (db.listRoutePrefixes (visible.map PageNode.code)).filterMap fun row =>
          (visible.find? fun page => page.code = row.pageCode).map (routePrefixOut row) }

end WmsDu
