import Mathlib
import WmsDu.Theorems.EffectivePermissions

/-!
# The page tree

A page is shown below its parent, if the user may read the parent, and at the
top, if its level is 1. A page of a deeper level whose parent the user may not
read is shown nowhere, while its route prefixes are still returned.
-/

namespace WmsDu

open PageRecords

/-! ## Readable pages -/

/-- An active page whose effective read permission the user holds. -/
def NavigationDb.Readable (db : NavigationDb) (userId : Int) (page : RegistryRow) : Prop :=
  page ∈ db.pages.rows ∧ page.isActive = true ∧
    ∃ effective name, db.listPages.IsEffective page.code effective ∧
      effective.1 = some name ∧ name ∈ db.getUserPermissions userId

/-- The parent of a readable page, where the user may read it too. -/
def NavigationDb.ReadableParent (db : NavigationDb) (userId : Int) (page parent : RegistryRow) :
    Prop :=
  db.Readable userId page ∧ db.Readable userId parent ∧ page.parentCode = some parent.code ∧
    parent.code ≠ ""

/-- The node of a page carries its columns and its effective permissions. -/
def NavigationDb.Shows (db : NavigationDb) (page : RegistryRow) (node : PageNode) : Prop :=
  ∃ effective, db.listPages.IsEffective page.code effective ∧
    node = toPageNode (db.pageRecord page) effective

/-- The tree shows the readable pages once each and no others, and the page of
every route prefix. -/
structure Navigation.Complete (nav : Navigation) (db : NavigationDb) (userId : Int) : Prop where
  once : ∀ page, db.Readable userId page →
    ∃! place, (nav.pages.nodeAt place).map PageNode.code = some page.code
  only : ∀ place node, nav.pages.nodeAt place = some node →
    ∃ page, db.Readable userId page ∧ db.Shows page node
  prefixes : ∀ p ∈ nav.routePrefixes, ∃ place node,
    nav.pages.nodeAt place = some node ∧ node.code = p.pageCode

/-- The readable pages of level 1 are those without a readable parent, and no
readable page is above itself. -/
structure NavigationDb.Rooted (db : NavigationDb) (userId : Int) : Prop where
  roots : ∀ page, db.Readable userId page →
    (page.level = 1 ↔ ∀ parent, ¬ db.ReadableParent userId page parent)
  acyclic : ∀ page, ¬ Relation.TransGen (db.ReadableParent userId) page page

/-! ## The tree of a list of nodes -/

section Tree
variable {visible : List PageNode} {n p : PageNode}

/-- The node of the parent, among the nodes of a list. -/
def linkedParent (visible : List PageNode) (n : PageNode) : Option PageNode :=
  if n ∈ visible then n.parent.bind fun code => visible.find? fun m => m.code = code else none

theorem eq_of_code (hnodup : (visible.map PageNode.code).Nodup) (hn : n ∈ visible)
    (hp : p ∈ visible) (h : n.code = p.code) : n = p :=
  List.inj_on_of_nodup_map hnodup hn hp h

theorem find?_code (hnodup : (visible.map PageNode.code).Nodup) {code : String} :
    (visible.find? fun m => m.code = code) = some p ↔ p ∈ visible ∧ p.code = code := by
  constructor
  · intro h
    exact ⟨List.mem_of_find?_eq_some h, by simpa using List.find?_some h⟩
  · rintro ⟨hp, rfl⟩
    cases h : visible.find? fun m => m.code = p.code with
    | none =>
        have hnone := List.find?_eq_none.mp h p hp
        simp at hnone
    | some q =>
        have hq : q.code = p.code := by simpa using List.find?_some h
        rw [eq_of_code hnodup (List.mem_of_find?_eq_some h) hp hq]

theorem linkedParent_eq_some (hnodup : (visible.map PageNode.code).Nodup) :
    linkedParent visible n = some p ↔ n ∈ visible ∧ p ∈ visible ∧ n.parent = some p.code := by
  unfold linkedParent
  split
  next hn =>
    rw [Option.bind_eq_some_iff]
    simp only [find?_code hnodup, hn, true_and]
    constructor
    · rintro ⟨code, hcode, hp, rfl⟩
      exact ⟨hp, hcode⟩
    · rintro ⟨hp, hcode⟩
      exact ⟨p.code, hcode, hp, rfl⟩
  next hn => simp [hn]

/-- The tree is drawn by the parent links and the level. -/
theorem pageTree_draws (hnodup : (visible.map PageNode.code).Nodup) :
    (pageTree visible).Draws visible (linkedParent visible) fun n => n.level = 1 where
  roots_nodup := (perm_sortOn _ _).nodup_iff.mpr (hnodup.of_map.filter _)
  mem_roots n := by
    unfold pageTree
    simp only [mem_sortOn, List.mem_filter, decide_eq_true_eq]
  children_nodup p := (perm_sortOn _ _).nodup_iff.mpr (hnodup.of_map.filter _)
  mem_children p hp n := by
    unfold pageTree childrenByParent
    simp only [mem_sortOn, List.mem_filter, decide_eq_true_eq, linkedParent_eq_some hnodup, hp,
      true_and]
    tauto
  parent_mem n p h := ((linkedParent_eq_some hnodup).mp h).2.1

end Tree

/-! ## Visible pages -/

/-- The loop keeps the pages that may be read, with their effective permissions. -/
theorem visiblePages_eq {rows : PageRecords} (userPermissions : List String) {fuel : Nat}
    {answer : String → Permissions} (hanswer : ∀ code, rows.IsEffective code (answer code))
    (hfuel : rows.rows.length < fuel) (l : List PageRecord) {cache : PermissionCache}
    (hcache : rows.CacheFinal cache) :
    visiblePages rows userPermissions fuel l cache =
      some ((l.filter fun row => mayRead userPermissions (answer row.code)).map fun row =>
        toPageNode row (answer row.code)) := by
  induction l generalizing cache with
  | nil => rfl
  | cons row l ih =>
      obtain ⟨result, cache', hone, heff, hfinal⟩ := resolve_top row.code hcache hfuel
      obtain rfl := heff.unique (hanswer row.code)
      unfold visiblePages
      rw [hone]
      simp only [ih hfinal, Option.map_some, List.filter_cons]
      split
      · rfl
      · rfl

section Visible
variable {db : NavigationDb} {userId : Int} {answer : String → Permissions}

theorem mem_getUserPermissions_ne {name : String} (h : name ∈ db.getUserPermissions userId) :
    name ≠ "" := by
  unfold NavigationDb.getUserPermissions at h
  simpa using (List.mem_filter.mp h).2

theorem mem_activePages {page : RegistryRow} :
    page ∈ db.activePages ↔ page ∈ db.pages.rows ∧ page.isActive = true := by
  unfold NavigationDb.activePages
  rw [mem_sortOn, List.mem_filter]

/-- The node of a page. -/
def NavigationDb.node (db : NavigationDb) (answer : String → Permissions) (page : RegistryRow) :
    PageNode := toPageNode (db.pageRecord page) (answer page.code)

/-- The nodes of the readable pages. -/
def NavigationDb.visible (db : NavigationDb) (userId : Int) (answer : String → Permissions) :
    List PageNode :=
  (db.activePages.filter fun page =>
    mayRead (db.getUserPermissions userId) (answer page.code)).map (db.node answer)

theorem readable_iff (hanswer : ∀ code, db.listPages.IsEffective code (answer code))
    {page : RegistryRow} :
    db.Readable userId page ↔ page ∈ db.activePages.filter fun page =>
      mayRead (db.getUserPermissions userId) (answer page.code) := by
  rw [List.mem_filter, mem_activePages]
  unfold NavigationDb.Readable mayRead
  constructor
  · rintro ⟨hmem, hactive, effective, name, heff, hname, hheld⟩
    obtain rfl := heff.unique (hanswer page.code)
    refine ⟨⟨hmem, hactive⟩, ?_⟩
    simp [hname, hheld, mem_getUserPermissions_ne hheld]
  · rintro ⟨⟨hmem, hactive⟩, hread⟩
    refine ⟨hmem, hactive, answer page.code, ?_⟩
    cases hname : (answer page.code).1 with
    | none => simp [hname] at hread
    | some name =>
        simp only [hname, Option.any_some, Bool.and_eq_true, decide_eq_true_eq] at hread
        exact ⟨name, hanswer page.code, rfl, hread.2⟩

theorem nodup_visible (db : NavigationDb) (userId : Int) (answer : String → Permissions) :
    ((db.visible userId answer).map PageNode.code).Nodup := by
  unfold NavigationDb.visible
  rw [List.map_map]
  have hnodup := db.nodup_activePages
  rw [List.map_map] at hnodup
  exact hnodup.sublist (List.filter_sublist.map _)

theorem mem_visible (hanswer : ∀ code, db.listPages.IsEffective code (answer code))
    {n : PageNode} :
    n ∈ db.visible userId answer ↔ ∃ page, db.Readable userId page ∧ db.node answer page = n := by
  unfold NavigationDb.visible
  simp only [List.mem_map, readable_iff hanswer]

/-- Nodes of readable pages are linked as the pages are. -/
theorem linkedParent_node (hanswer : ∀ code, db.listPages.IsEffective code (answer code))
    {page parent : RegistryRow} (hpage : db.Readable userId page)
    (hparent : db.Readable userId parent) :
    linkedParent (db.visible userId answer) (db.node answer page) = some (db.node answer parent) ↔
      db.ReadableParent userId page parent := by
  rw [linkedParent_eq_some (nodup_visible _ _ _), mem_visible hanswer, mem_visible hanswer]
  have hcode : (db.node answer page).parent = some (db.node answer parent).code ↔
      page.parentCode = some parent.code ∧ parent.code ≠ "" := by
    show page.parentCode.filter _ = some parent.code ↔ _
    rw [Option.filter_eq_some_iff]
    simp
  rw [hcode]
  unfold NavigationDb.ReadableParent
  constructor
  · rintro ⟨-, -, h⟩
    exact ⟨hpage, hparent, h⟩
  · rintro ⟨-, -, h⟩
    exact ⟨⟨page, hpage, rfl⟩, ⟨parent, hparent, rfl⟩, h⟩

/-- A link between nodes is one between readable pages. -/
theorem exists_of_linked (hanswer : ∀ code, db.listPages.IsEffective code (answer code))
    {n p : PageNode} (h : linkedParent (db.visible userId answer) n = some p) :
    ∃ page parent, db.ReadableParent userId page parent ∧ db.node answer page = n ∧
      db.node answer parent = p := by
  obtain ⟨hn, hp, -⟩ := (linkedParent_eq_some (nodup_visible _ _ _)).mp h
  obtain ⟨page, hpage, rfl⟩ := (mem_visible hanswer).mp hn
  obtain ⟨parent, hparent, rfl⟩ := (mem_visible hanswer).mp hp
  exact ⟨page, parent, (linkedParent_node hanswer hpage hparent).mp h, rfl, rfl⟩

/-- A readable page is told by its node. -/
theorem eq_of_node {page page' : RegistryRow} (h : db.Readable userId page)
    (h' : db.Readable userId page') (heq : db.node answer page = db.node answer page') :
    page = page' :=
  db.pages.eq_of_key h.1 h'.1 (congrArg PageNode.code heq)

/-- Chains of parents run through the nodes as through the pages. -/
theorem transGen_linked (hanswer : ∀ code, db.listPages.IsEffective code (answer code)) :
    (∀ n, ¬ Relation.TransGen
      (fun a b => linkedParent (db.visible userId answer) a = some b) n n) ↔
      ∀ page, ¬ Relation.TransGen (db.ReadableParent userId) page page := by
  have hdown : ∀ {n p}, Relation.TransGen
      (fun a b => linkedParent (db.visible userId answer) a = some b) n p →
      ∃ page parent, Relation.TransGen (db.ReadableParent userId) page parent ∧
        db.Readable userId page ∧ db.Readable userId parent ∧
        db.node answer page = n ∧ db.node answer parent = p := by
    intro n p h
    induction h with
    | single h =>
        obtain ⟨page, parent, hlink, hn, hp⟩ := exists_of_linked hanswer h
        exact ⟨page, parent, .single hlink, hlink.1, hlink.2.1, hn, hp⟩
    | tail _ h ih =>
        obtain ⟨page, parent, hchain, hpage, hparent, hn, hp⟩ := ih
        obtain ⟨parent', above, hlink, hp', ha⟩ := exists_of_linked hanswer h
        obtain rfl := eq_of_node hparent hlink.1 (hp.trans hp'.symm)
        exact ⟨page, above, hchain.tail hlink, hpage, hlink.2.1, hn, ha⟩
  constructor
  · intro h page hcycle
    refine h (db.node answer page) (hcycle.lift (db.node answer) ?_)
    intro a b hab
    exact (linkedParent_node hanswer hab.1 hab.2.1).mpr hab
  · intro h n hcycle
    obtain ⟨page, parent, hchain, hpage, hparent, hn, hp⟩ := hdown hcycle
    obtain rfl := eq_of_node hpage hparent (hn.trans hp.symm)
    exact h page hchain

/-- What the navigation answers. -/
theorem getMyNavigation_eq (hanswer : ∀ code, db.listPages.IsEffective code (answer code)) :
    getMyNavigation db userId = some
      { pages := pageTree (db.visible userId answer)
        routePrefixes :=
          (db.listRoutePrefixes ((db.visible userId answer).map PageNode.code)).filterMap fun row =>
            ((db.visible userId answer).find? fun page => page.code = row.pageCode).map
              (routePrefixOut row) } := by
  have hloop := visiblePages_eq (db.getUserPermissions userId) hanswer
    (Nat.lt_succ_self _) db.listPages.rows (cacheFinal_empty db.listPages)
  have hvisible : ((db.listPages.rows.filter fun row =>
      mayRead (db.getUserPermissions userId) (answer row.code)).map fun row =>
        toPageNode row (answer row.code)) = db.visible userId answer := by
    unfold NavigationDb.listPages NavigationDb.visible
    rw [List.filter_map, List.map_map]
    rfl
  rw [hvisible] at hloop
  unfold getMyNavigation
  simp only [hloop, Option.map_some]

/-- A page is shown once if its node is. -/
theorem once_iff_node (hanswer : ∀ code, db.listPages.IsEffective code (answer code)) :
    (∀ page, db.Readable userId page → ∃! place,
      ((pageTree (db.visible userId answer)).nodeAt place).map PageNode.code = some page.code) ↔
    ∀ n ∈ db.visible userId answer, ∃! place,
      (pageTree (db.visible userId answer)).nodeAt place = some n := by
  have hdraws := pageTree_draws (nodup_visible db userId answer)
  -- only the node of the page has its code
  have hcode : ∀ {page}, db.Readable userId page → ∀ place,
      ((pageTree (db.visible userId answer)).nodeAt place).map PageNode.code = some page.code ↔
        (pageTree (db.visible userId answer)).nodeAt place = some (db.node answer page) := by
    intro page hpage place
    constructor
    · intro h
      obtain ⟨m, hm, hcode⟩ := Option.map_eq_some_iff.mp h
      have hnode := (mem_visible hanswer).mpr ⟨page, hpage, rfl⟩
      rw [hm, eq_of_code (nodup_visible _ _ _) (hdraws.nodeAt_mem hm) hnode hcode]
    · intro h
      rw [h]
      rfl
  constructor
  · intro h n hn
    obtain ⟨page, hpage, rfl⟩ := (mem_visible hanswer).mp hn
    obtain ⟨place, hplace, huniq⟩ := h page hpage
    exact ⟨place, (hcode hpage place).mp hplace, fun place' h' =>
      huniq place' ((hcode hpage place').mpr h')⟩
  · intro h page hpage
    obtain ⟨place, hplace, huniq⟩ := h _ ((mem_visible hanswer).mpr ⟨page, hpage, rfl⟩)
    exact ⟨place, (hcode hpage place).mpr hplace, fun place' h' =>
      huniq place' ((hcode hpage place').mp h')⟩

/-- The links draw every node once if the readable pages are rooted. -/
theorem rooted_iff (hanswer : ∀ code, db.listPages.IsEffective code (answer code)) :
    ((∀ n ∈ db.visible userId answer, n.level = 1 ↔
      linkedParent (db.visible userId answer) n = none) ∧
        Acyclic (linkedParent (db.visible userId answer))) ↔ db.Rooted userId := by
  rw [acyclic_iff, transGen_linked hanswer]
  -- a page has a readable parent if its node has one
  have htop : ∀ {page}, db.Readable userId page →
      (linkedParent (db.visible userId answer) (db.node answer page) = none ↔
        ∀ parent, ¬ db.ReadableParent userId page parent) := by
    intro page hpage
    rw [Option.eq_none_iff_forall_not_mem]
    constructor
    · intro h parent hlink
      exact h _ ((linkedParent_node hanswer hpage hlink.2.1).mpr hlink)
    · intro h p hp
      obtain ⟨page', parent, hlink, hn, rfl⟩ := exists_of_linked hanswer hp
      obtain rfl := eq_of_node hlink.1 hpage hn
      exact h parent hlink
  constructor
  · rintro ⟨hroots, hacyclic⟩
    refine ⟨fun page hpage => ?_, hacyclic⟩
    rw [← htop hpage]
    exact hroots _ ((mem_visible hanswer).mpr ⟨page, hpage, rfl⟩)
  · rintro ⟨hroots, hacyclic⟩
    refine ⟨fun n hn => ?_, hacyclic⟩
    obtain ⟨page, hpage, rfl⟩ := (mem_visible hanswer).mp hn
    rw [htop hpage]
    exact hroots page hpage

end Visible

/-- **The tree is complete** exactly if the readable pages of level 1 are those
without a readable parent and no readable page is above itself. -/
theorem page_tree (db : NavigationDb) (userId : Int) :
    ∃ nav, getMyNavigation db userId = some nav ∧
      (nav.Complete db userId ↔ db.Rooted userId) := by
  choose answer hanswer using db.listPages.exists_isEffective
  refine ⟨_, getMyNavigation_eq hanswer, ?_⟩
  have hdraws := pageTree_draws (nodup_visible db userId answer)
  rw [← rooted_iff hanswer, ← hdraws.once_iff, ← once_iff_node hanswer]
  · constructor
    · exact Navigation.Complete.once
    · intro honce
      refine ⟨honce, fun place node hnode => ?_, fun p hp => ?_⟩
      · obtain ⟨page, hpage, rfl⟩ := (mem_visible hanswer).mp (hdraws.nodeAt_mem hnode)
        exact ⟨page, hpage, _, hanswer page.code, rfl⟩
      · -- the page of a returned prefix is one of the visible nodes
        obtain ⟨row, -, hrow⟩ := List.mem_filterMap.mp hp
        obtain ⟨n, hn, rfl⟩ := Option.map_eq_some_iff.mp hrow
        obtain ⟨hmem, hcode⟩ := (find?_code (nodup_visible _ _ _)).mp hn
        obtain ⟨place, hplace, -⟩ := (once_iff_node hanswer).mp honce n hmem
        exact ⟨place, n, hplace, hcode⟩
  · intro n hn
    exact if_neg hn

/-! ## A page without its parent -/

/-- A page of level 1, and one below it with permissions of its own, the only
one the user may read. -/
def sampleNavigationDb : NavigationDb where
  permissions := (((Table.empty.insert ⟨1, "page.wms.read"⟩).insert ⟨2, "page.wms.write"⟩).insert
    ⟨3, "page.wms.order.read"⟩).insert ⟨4, "page.wms.order.write"⟩
  userPermissions := Table.empty.insert ⟨1, 3⟩
  pages := (Table.empty.insert
    { code := "wms", name := "WMS", level := 1, isActive := true, inheritPermissions := false
      readPermissionId := some 1, writePermissionId := some 2, parentCode := none
      domainCode := "wms", showInTopbar := true, showInSidebar := true, sortOrder := 1 }).insert
    { code := "wms.order", name := "Orders", level := 2, isActive := true
      inheritPermissions := false, readPermissionId := some 3, writePermissionId := some 4
      parentCode := some "wms", domainCode := "wms", showInTopbar := false
      showInSidebar := true, sortOrder := 1 }
  routePrefixes := Table.empty.insert ⟨"/orders", "wms.order", 1, true⟩

theorem Forest.nodeAt_of_empty {N : Type} {f : Forest N} (h : f.roots = []) (place : List Nat) :
    f.nodeAt place = none := by
  induction place with
  | nil => rfl
  | cons i rest ih =>
      cases rest with
      | nil => simp [Forest.nodeAt, h]
      | cons j rest => rw [Forest.nodeAt_cons (List.cons_ne_nil j rest), ih, Option.bind_none]

/-- The page is in no place of the tree, and its route prefix is returned. -/
theorem page_tree_not : ∃ nav, getMyNavigation sampleNavigationDb 1 = some nav ∧
    nav.routePrefixes.map RoutePrefixOut.pageCode = ["wms.order"] ∧
    ¬ nav.Complete sampleNavigationDb 1 := by
  have hrun : ((getMyNavigation sampleNavigationDb 1).map fun nav =>
      (nav.pages.roots, nav.routePrefixes.map RoutePrefixOut.pageCode)) =
        some ([], ["wms.order"]) := by decide
  obtain ⟨nav, hnav, hout⟩ := Option.map_eq_some_iff.mp hrun
  obtain ⟨hroots, hprefixes⟩ := Prod.mk.inj hout
  refine ⟨nav, hnav, hprefixes, fun hcomplete => ?_⟩
  have hreturned : "wms.order" ∈ nav.routePrefixes.map RoutePrefixOut.pageCode := by
    rw [hprefixes]
    exact List.mem_singleton_self _
  obtain ⟨p, hp, -⟩ := List.mem_map.mp hreturned
  obtain ⟨place, node, hplace, -⟩ := hcomplete.prefixes p hp
  rw [Forest.nodeAt_of_empty hroots] at hplace
  cases hplace

end WmsDu
