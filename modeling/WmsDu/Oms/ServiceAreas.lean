import Mathlib.Data.String.Basic
import WmsDu.Data.Sorting
import WmsDu.Oms.Routing
import WmsDu.Shared.Fallible

/-!
# Service areas

A warehouse serves the provinces and the cities its configuration lists; a
province that is split is served by cities. Each of the three lists is put
whole. The lists are kept as they are spelled, while an order's province is
looked up by its canonical name.
-/

namespace WmsDu

open Txn

/-! ## Names -/

/-- `_normalize_provinces`, `_normalize_cities` and `_normalize`: the names
stripped, each once, in order. -/
def normalizeNames (raw : List String) : List String :=
  sortOn id ((raw.map strip).filter fun s => s ≠ "").eraseDups

/-- A name as the lists keep it. -/
def IsName (s : String) : Prop := strip s = s ∧ s ≠ ""

theorem isName_of_mem {raw : List String} {s : String} (h : s ∈ normalizeNames raw) : IsName s := by
  rw [normalizeNames, mem_sortOn, List.mem_eraseDups, List.mem_filter] at h
  obtain ⟨r, -, rfl⟩ := List.mem_map.mp h.1
  exact ⟨strip_strip r, of_decide_eq_true h.2⟩

theorem IsName.cleanText {s : String} (h : IsName s) : cleanText (some s) = some s := by
  simp [WmsDu.cleanText, h.1, orNone, h.2]

theorem IsName.canonical {s : String} (h : IsName s) : ∃ p, normalizeProvinceName (some s) = some p :=
  normalizeProvinceName_isSome h.1 h.2

/-! ## The routes -/

/-- What the routes of the service areas raise. -/
inductive ServiceErr
  | http (status : Int) (detail : String)
  | conflict (message : String) (warehouseId : Int) (conflicts : List (String × Int))
  | integrity (constraint : String)
deriving DecidableEq

/-- `_ensure_warehouse_exists`. -/
def ensureServiceWarehouse (wid : Int) (db : OmsDb) : Except ServiceErr Unit :=
  demand (db.wms.warehouses.HasKey wid) (.http 404 "warehouse not found")

/-- Put the areas of one warehouse: none may be another's, then the old rows
go and the new ones come in. -/
def replaceAreas {R : Type} (name : R → String) (owner : R → Int) (row : String → R)
    (message constraint : String) (wid : Int) (names : List String) (rows : List R) :
    Except ServiceErr (List R) := do
  let taken := sortOn name (rows.filter fun r => name r ∈ names ∧ owner r ≠ wid)
  demand (taken.map (fun r => (name r, owner r)) = [])
    (.conflict message wid (taken.map fun r => (name r, owner r)))
  let others := rows.filter fun r => owner r ≠ wid
  demand (∀ r ∈ others, name r ∉ names) (.integrity constraint)
  return others ++ names.map row

/-- `put_service_provinces`. -/
def putServiceProvinces (wid : Int) (data : List String) (db : OmsDb) :
    Except ServiceErr OmsDb := do
  ensureServiceWarehouse wid db
  let rows ← replaceAreas (·.1) (·.2) (fun x => (x, wid))
    "省份互斥冲突：部分省份已属于其他仓库，无法绑定。" "uq_wh_service_province_code" wid (normalizeNames data)
    db.serviceProvinces
  return { db with serviceProvinces := rows }

/-- `put_service_cities`: the rows name no province. -/
def putServiceCities (wid : Int) (data : List String) (db : OmsDb) : Except ServiceErr OmsDb := do
  ensureServiceWarehouse wid db
  let rows ← replaceAreas (·.2.1) (·.2.2) (fun x => (none, x, wid))
    "城市互斥冲突：部分城市已属于其他仓库，无法绑定。" "ux_wh_service_cities_city_code" wid (normalizeNames data)
    db.serviceCities
  return { db with serviceCities := rows }

/-- `put_city_split_provinces`: the province rows go that are spelled so. -/
def putCitySplitProvinces (data : List String) (db : OmsDb) : Except ServiceErr OmsDb :=
  let provinces := normalizeNames data
  .ok { db with
    citySplitProvinces := provinces
    serviceProvinces := db.serviceProvinces.filter fun r => r.1 ∉ provinces }

/-- One put of a list. -/
inductive ServicePut
  | provinces (warehouseId : Int) (data : List String)
  | cities (warehouseId : Int) (data : List String)
  | split (data : List String)

/-- The put as one transaction. -/
def ServicePut.call (op : ServicePut) (db : OmsDb) : Except ServiceErr OmsDb :=
  match op with
  | .provinces wid data => putServiceProvinces wid data db
  | .cities wid data => putServiceCities wid data db
  | .split data => putCitySplitProvinces data db

/-- **What a put of areas leaves.** -/
theorem replaceAreas_ok {R : Type} {name : R → String} {owner : R → Int} {row : String → R}
    {message constraint : String} {wid : Int} {names : List String} {rows rows' : List R}
    (h : replaceAreas name owner row message constraint wid names rows = .ok rows') :
    (∀ r ∈ rows, owner r ≠ wid → name r ∉ names) ∧
    ∀ r, r ∈ rows' ↔ r ∈ rows ∧ owner r ≠ wid ∨ ∃ x ∈ names, row x = r := by
  obtain ⟨_, -, h⟩ := bind_eq_ok.mp h
  obtain ⟨_, hfree, h⟩ := bind_eq_ok.mp h
  rw [pure_eq_ok] at h
  subst h
  have hothers := demand_eq_ok.mp hfree
  constructor
  · intro r hr hne
    exact hothers r (List.mem_filter.mpr ⟨hr, decide_eq_true hne⟩)
  · intro r
    simp [List.mem_append, List.mem_filter]

/-- A put leaves each area to one warehouse. -/
theorem replaceAreas_once {R : Type} {name : R → String} {owner : R → Int} {row : String → R}
    {message constraint : String} {wid : Int} {names : List String} {rows rows' : List R}
    (h : replaceAreas name owner row message constraint wid names rows = .ok rows')
    (hrow : ∀ x, name (row x) = x ∧ owner (row x) = wid)
    (honce : ∀ r ∈ rows, ∀ r' ∈ rows, name r = name r' → owner r = owner r') :
    ∀ r ∈ rows', ∀ r' ∈ rows', name r = name r' → owner r = owner r' := by
  obtain ⟨hfree, hmem⟩ := replaceAreas_ok h
  intro r hr r' hr' hsame
  rcases (hmem r).mp hr with ⟨hold, hne⟩ | ⟨x, hx, rfl⟩
  · rcases (hmem r').mp hr' with ⟨hold', -⟩ | ⟨x', hx', rfl⟩
    · exact honce r hold r' hold' hsame
    · rw [(hrow x').1] at hsame
      exact absurd (hsame ▸ hx') (hfree r hold hne)
  · rcases (hmem r').mp hr' with ⟨hold', hne'⟩ | ⟨x', -, rfl⟩
    · rw [(hrow x).1] at hsame
      exact absurd (hsame ▸ hx) (hfree r' hold' hne')
    · rw [(hrow x).2, (hrow x').2]

/-- What `put_service_provinces` leaves. -/
theorem putServiceProvinces_ok {wid : Int} {data : List String} {db db' : OmsDb}
    (h : putServiceProvinces wid data db = .ok db') : db.wms.warehouses.HasKey wid ∧
    ∃ rows, db' = { db with serviceProvinces := rows } ∧
      ((∀ r ∈ db.serviceProvinces, ∀ r' ∈ db.serviceProvinces, r.1 = r'.1 → r.2 = r'.2) →
        ∀ r ∈ rows, ∀ r' ∈ rows, r.1 = r'.1 → r.2 = r'.2) ∧
      ∀ r, r ∈ rows ↔ r ∈ db.serviceProvinces ∧ r.2 ≠ wid ∨ r.1 ∈ normalizeNames data ∧ r.2 = wid := by
  obtain ⟨_, hwid, h⟩ := bind_eq_ok.mp h
  obtain ⟨rows, hput, h⟩ := bind_eq_ok.mp h
  rw [pure_eq_ok] at h
  refine ⟨demand_eq_ok.mp hwid, rows, h.symm, replaceAreas_once hput fun _ => ⟨rfl, rfl⟩, fun r => ?_⟩
  rw [(replaceAreas_ok hput).2]
  refine or_congr_right ⟨?_, ?_⟩
  · rintro ⟨x, hx, rfl⟩
    exact ⟨hx, rfl⟩
  · rintro ⟨hx, rfl⟩
    exact ⟨r.1, hx, rfl⟩

/-- What `put_service_cities` leaves. -/
theorem putServiceCities_ok {wid : Int} {data : List String} {db db' : OmsDb}
    (h : putServiceCities wid data db = .ok db') :
    ∃ rows, db' = { db with serviceCities := rows } ∧
      ((∀ r ∈ db.serviceCities, ∀ r' ∈ db.serviceCities, r.2.1 = r'.2.1 → r.2.2 = r'.2.2) →
        ∀ r ∈ rows, ∀ r' ∈ rows, r.2.1 = r'.2.1 → r.2.2 = r'.2.2) ∧
      ∀ r, r ∈ rows ↔ r ∈ db.serviceCities ∧ r.2.2 ≠ wid ∨
        r.1 = none ∧ r.2.1 ∈ normalizeNames data ∧ r.2.2 = wid := by
  obtain ⟨_, -, h⟩ := bind_eq_ok.mp h
  obtain ⟨rows, hput, h⟩ := bind_eq_ok.mp h
  rw [pure_eq_ok] at h
  refine ⟨rows, h.symm, replaceAreas_once hput fun _ => ⟨rfl, rfl⟩, fun r => ?_⟩
  rw [(replaceAreas_ok hput).2]
  refine or_congr_right ⟨?_, ?_⟩
  · rintro ⟨x, hx, rfl⟩
    exact ⟨rfl, hx, rfl⟩
  · rintro ⟨hnone, hx, rfl⟩
    exact ⟨r.2.1, hx, Prod.ext hnone.symm rfl⟩

/-! ## The last accepted configuration -/

/-- The lists as they were last accepted. -/
structure ServiceConfig where
  provinces : Int → List String
  cities : Int → List String
  split : List String

/-- No list was put yet. -/
def ServiceConfig.empty : ServiceConfig := ⟨fun _ => [], fun _ => [], []⟩

/-- The configuration after a put. -/
def ServiceConfig.accept (op : ServicePut) (cfg : ServiceConfig) : ServiceConfig :=
  match op with
  | .provinces wid data =>
      { cfg with provinces := Function.update cfg.provinces wid (normalizeNames data) }
  | .cities wid data =>
      { cfg with cities := Function.update cfg.cities wid (normalizeNames data) }
  | .split data => { cfg with split := normalizeNames data }

/-- A put on the tables, beside what was accepted so far. -/
def ServicePut.run (op : ServicePut) (w : ServiceConfig × OmsDb) :
    Except ServiceErr (ServiceConfig × OmsDb) :=
  (op.call w.2).map fun db => (w.1.accept op, db)

/-- The province is on the list of split ones, in some spelling. -/
def SplitBy (split : List String) (p : String) : Prop :=
  ∃ s ∈ split, normalizeProvinceName (some s) = some p

instance decidableSplitBy (split : List String) (p : String) : Decidable (SplitBy split p) :=
  inferInstanceAs (Decidable (∃ s ∈ split, normalizeProvinceName (some s) = some p))

/-- The warehouse serves the address, as the configuration says. -/
def ServiceConfig.Serves (cfg : ServiceConfig) (address : Option Address) (w : Int) : Prop :=
  ∃ p, (resolveRouteAddress address {}).1 = some p ∧
    ((SplitBy cfg.split p ∧ ∃ c ∈ cfg.cities w, (resolveRouteAddress address {}).2 = some c) ∨
      (¬ SplitBy cfg.split p ∧ ∃ s ∈ cfg.provinces w, normalizeProvinceName (some s) = some p))

/-- An order to the address is assigned to the warehouse. -/
def OmsDb.Assigns (db : OmsDb) (address : Option Address) (w : Int) : Prop :=
  ∃ route c, resolveRoutePayload address {} ⟨db, false⟩ = (.ok route, c) ∧
    route.status = some "SERVICE_ASSIGNED" ∧ route.serviceWarehouseId = some w

/-- Orders go where the last accepted configuration says. -/
structure RoutesFollow (cfg : ServiceConfig) (db : OmsDb) : Prop where
  assigns : ∀ address w, db.Assigns address w ↔ cfg.Serves address w
  city_once : ∀ r ∈ db.serviceCities, ∀ r' ∈ db.serviceCities, r.2.1 = r'.2.1 → r.2.2 = r'.2.2
  province_once : ∀ r ∈ db.serviceProvinces, ∀ r' ∈ db.serviceProvinces,
    normalizeProvinceName (some r.1) = normalizeProvinceName (some r'.1) → r.2 = r'.2
  split_clean : ∀ r ∈ db.serviceProvinces, ∀ p, normalizeProvinceName (some r.1) = some p →
    ¬ SplitBy cfg.split p

/-! ## Routes as the tables give them -/

theorem serviceRoute_assigned (mode missing : String) {found : Option Int} {w : Int} :
    (serviceRoute mode missing found).status = some "SERVICE_ASSIGNED" ∧
        (serviceRoute mode missing found).serviceWarehouseId = some w ↔
      found = some w ∧ 0 < w := by
  unfold serviceRoute
  split
  · rename_i v hv
    obtain ⟨hfound, hpos⟩ := Option.filter_eq_some_iff.mp hv
    have hpos : 0 < v := by simpa using hpos
    simp only [true_and, Option.some.injEq, hfound]
    constructor
    · rintro rfl
      exact ⟨rfl, hpos⟩
    · exact And.left
  · rename_i hnone
    refine iff_of_false (fun h => absurd h.1 (by simp [blockedRoute])) ?_
    rintro ⟨rfl, hpos⟩
    simp [Option.filter, hpos] at hnone

theorem blockedRoute_not_assigned {mode reason : String} {w : Int} :
    ¬ ((blockedRoute mode reason).status = some "SERVICE_ASSIGNED" ∧
      (blockedRoute mode reason).serviceWarehouseId = some w) :=
  fun h => absurd h.1 (by simp [blockedRoute])

/-- **Routes.** An order is assigned to the warehouse the tables name. -/
theorem OmsDb.assigns_iff {db : OmsDb} {address : Option Address} {w : Int} :
    db.Assigns address w ↔ 0 < w ∧ ∃ p, (resolveRouteAddress address {}).1 = some p ∧
      ((p ∈ db.citySplitProvinces ∧ ∃ city, (resolveRouteAddress address {}).2 = some city ∧
          (db.serviceCities.find? fun c => c.1 = some p ∧ c.2.1 = city).map (·.2.2) = some w) ∨
        (p ∉ db.citySplitProvinces ∧
          (db.serviceProvinces.find? fun r => r.1 = p).map Prod.snd = some w)) := by
  unfold OmsDb.Assigns resolveRoutePayload
  obtain ⟨province, city⟩ := resolveRouteAddress address {}
  dsimp only
  cases province with
  | none =>
      refine iff_of_false ?_ (by simp)
      rintro ⟨route, c, hrun, hassigned⟩
      cases hrun
      exact blockedRoute_not_assigned hassigned
  | some p =>
      by_cases hsplit : p ∈ db.citySplitProvinces
      · have hread : isCitySplitProvince p ⟨db, false⟩ = (.ok true, ⟨db, false⟩) := by
          simp [isCitySplitProvince, hsplit]
        dsimp only
        rw [Sess.run_bind_of_ok hread]
        cases city with
        | none =>
            refine iff_of_false ?_ (by simp [hsplit])
            rintro ⟨route, c, hrun, hassigned⟩
            cases hrun
            exact blockedRoute_not_assigned hassigned
        | some city =>
            simp only [hsplit, Option.some.injEq, exists_eq_left', true_and, not_true_eq_false,
              false_and, or_false]
            rw [and_comm, ← serviceRoute_assigned "city" "NO_SERVICE_WAREHOUSE"]
            constructor
            · rintro ⟨route, c, hrun, hassigned⟩
              cases hrun
              exact hassigned
            · exact fun h => ⟨_, _, rfl, h⟩
      · have hread : isCitySplitProvince p ⟨db, false⟩ = (.ok false, ⟨db, false⟩) := by
          simp [isCitySplitProvince, hsplit]
        dsimp only
        rw [Sess.run_bind_of_ok hread]
        simp only [hsplit, Option.some.injEq, exists_eq_left', false_and, false_or,
          not_false_eq_true, true_and]
        rw [and_comm, ← serviceRoute_assigned "province" "NO_SERVICE_PROVINCE"]
        constructor
        · rintro ⟨route, c, hrun, hassigned⟩
          cases hrun
          exact hassigned
        · exact fun h => ⟨_, _, rfl, h⟩

/-! ## Tables and configuration -/

/-- The tables hold what was accepted: the cities and the split provinces as
they were listed, of the provinces no more than was listed. -/
structure ServiceConfig.Records (cfg : ServiceConfig) (db : OmsDb) : Prop where
  provinces : ∀ r ∈ db.serviceProvinces, r.1 ∈ cfg.provinces r.2
  province_once : ∀ r ∈ db.serviceProvinces, ∀ r' ∈ db.serviceProvinces, r.1 = r'.1 → r.2 = r'.2
  cities : ∀ r, r ∈ db.serviceCities ↔ r.1 = none ∧ r.2.1 ∈ cfg.cities r.2.2
  city_once : ∀ r ∈ db.serviceCities, ∀ r' ∈ db.serviceCities, r.2.1 = r'.2.1 → r.2.2 = r'.2.2
  split : db.citySplitProvinces = cfg.split
  isName_province : ∀ w, ∀ s ∈ cfg.provinces w, IsName s
  isName_city : ∀ w, ∀ s ∈ cfg.cities w, IsName s
  isName_split : ∀ s ∈ cfg.split, IsName s
  warehouse : ∀ w, cfg.provinces w ≠ [] → db.wms.warehouses.HasKey w
  positive : ∀ w, db.wms.warehouses.HasKey w → 0 < w

/-- What the configuration names is found under its canonical name. -/
structure ServiceConfig.Findable (cfg : ServiceConfig) (db : OmsDb) : Prop where
  no_cities : cfg.split ≠ [] → db.serviceCities = []
  split_clean : ∀ r ∈ db.serviceProvinces, ∀ p, normalizeProvinceName (some r.1) = some p →
    ¬ SplitBy cfg.split p
  stored : ∀ w, ∀ s ∈ cfg.provinces w, ∀ p, normalizeProvinceName (some s) = some p →
    ¬ SplitBy cfg.split p → (p, w) ∈ db.serviceProvinces

namespace ServiceConfig

variable {cfg : ServiceConfig} {db : OmsDb}

/-- A province is found under its name by its only row. -/
theorem Records.find_province (h : cfg.Records db) {p : String} {w : Int} :
    (db.serviceProvinces.find? fun r => r.1 = p).map Prod.snd = some w ↔
      (p, w) ∈ db.serviceProvinces := by
  rw [Option.map_eq_some_iff]
  constructor
  · rintro ⟨r, hr, rfl⟩
    have hp : r.1 = p := by simpa using List.find?_some hr
    rw [← hp]
    exact List.mem_of_find?_eq_some hr
  · intro hmem
    cases hr : db.serviceProvinces.find? fun r => r.1 = p with
    | none => exact absurd (List.find?_eq_none.mp hr _ hmem) (by simp)
    | some r =>
        have hp : r.1 = p := by simpa using List.find?_some hr
        exact ⟨r, rfl, h.province_once r (List.mem_of_find?_eq_some hr) _ hmem hp⟩

/-- The cities are stored without a province, so none is found by one. -/
theorem Records.find_city (h : cfg.Records db) (p city : String) :
    (db.serviceCities.find? fun c => c.1 = some p ∧ c.2.1 = city) = none := by
  refine List.find?_eq_none.mpr fun c hc hfound => ?_
  have hnone := ((h.cities c).mp hc).1
  simp [hnone] at hfound

/-- What the tables assign, where they record the configuration. -/
theorem Records.assigns_iff (h : cfg.Records db) {address : Option Address} {w : Int} :
    db.Assigns address w ↔ ∃ p, (resolveRouteAddress address {}).1 = some p ∧
      p ∉ cfg.split ∧ (p, w) ∈ db.serviceProvinces := by
  rw [OmsDb.assigns_iff, h.split]
  constructor
  · rintro ⟨-, p, hp, ⟨-, city, -, hfound⟩ | ⟨hsplit, hfound⟩⟩
    · rw [h.find_city] at hfound
      cases hfound
    · exact ⟨p, hp, hsplit, h.find_province.mp hfound⟩
  · rintro ⟨p, hp, hsplit, hmem⟩
    have hwarehouse := h.warehouse w (List.ne_nil_of_mem (h.provinces _ hmem))
    exact ⟨h.positive w hwarehouse, p, hp, .inr ⟨hsplit, h.find_province.mpr hmem⟩⟩

private theorem resolveRouteAddress_named {s : String} (hs : IsName s) (city : Option String) :
    resolveRouteAddress (some ⟨some s, city⟩) {} =
      (normalizeProvinceName (some s), cleanText city) := by
  have hnone : cleanText none = none := rfl
  simp [resolveRouteAddress, hs.cleanText, hnone]

private theorem resolveRouteAddress_canonical {address : Option Address} {p : String}
    (h : (resolveRouteAddress address {}).1 = some p) : normalizeProvinceName (some p) = some p :=
  normalizeProvinceName_idem h

/-- **When routes follow.** Tables that record the configuration route as it
says exactly if what it names is found. -/
theorem Records.routesFollow_iff (h : cfg.Records db) : RoutesFollow cfg db ↔ cfg.Findable db := by
  constructor
  · intro hf
    refine ⟨fun hsplit => ?_, hf.split_clean, ?_⟩
    · -- a city row would have to be found by an order to a split province
      refine List.eq_nil_iff_forall_not_mem.mpr fun r hr => ?_
      obtain ⟨t, ht⟩ := List.exists_mem_of_ne_nil _ hsplit
      obtain ⟨p, hp⟩ := (h.isName_split t ht).canonical
      have hcity := ((h.cities r).mp hr).2
      have hserves : cfg.Serves (some ⟨some t, some r.2.1⟩) r.2.2 := by
        refine ⟨p, ?_, .inl ⟨⟨t, ht, hp⟩, r.2.1, hcity, ?_⟩⟩
        · rw [resolveRouteAddress_named (h.isName_split t ht), hp]
        · rw [resolveRouteAddress_named (h.isName_split t ht), (h.isName_city _ _ hcity).cleanText]
      obtain ⟨p', hp', -, hmem⟩ := h.assigns_iff.mp ((hf.assigns _ _).mpr hserves)
      rw [resolveRouteAddress_named (h.isName_split t ht), hp] at hp'
      cases hp'
      exact hf.split_clean _ hmem p (normalizeProvinceName_idem hp) ⟨t, ht, hp⟩
    · intro w s hs p hp hsplit
      have hname := h.isName_province w s hs
      have hserves : cfg.Serves (some ⟨some s, none⟩) w := by
        refine ⟨p, ?_, .inr ⟨hsplit, s, hs, hp⟩⟩
        rw [resolveRouteAddress_named hname, hp]
      obtain ⟨p', hp', -, hmem⟩ := h.assigns_iff.mp ((hf.assigns _ _).mpr hserves)
      rw [resolveRouteAddress_named hname, hp] at hp'
      cases hp'
      exact hmem
  · intro hf
    refine ⟨fun address w => ?_, h.city_once, ?_, hf.split_clean⟩
    · rw [h.assigns_iff]
      constructor
      · rintro ⟨p, hp, -, hmem⟩
        have hself := resolveRouteAddress_canonical hp
        exact ⟨p, hp, .inr ⟨hf.split_clean _ hmem p hself, p, h.provinces _ hmem, hself⟩⟩
      · rintro ⟨p, hp, ⟨⟨t, ht, -⟩, c, hc, -⟩ | ⟨hsplit, s, hs, hsp⟩⟩
        · -- nothing is served by cities
          have hrow : (none, c, w) ∈ db.serviceCities := (h.cities _).mpr ⟨rfl, hc⟩
          rw [hf.no_cities (List.ne_nil_of_mem ht)] at hrow
          cases hrow
        · refine ⟨p, hp, fun hmem => ?_, hf.stored w s hs p hsp hsplit⟩
          exact hsplit ⟨p, hmem, resolveRouteAddress_canonical hp⟩
    · intro r hr r' hr' hsame
      obtain ⟨p, hp⟩ := (h.isName_province _ _ (h.provinces r hr)).canonical
      have hclean := hf.split_clean r hr p hp
      have hrow := hf.stored _ _ (h.provinces r hr) p hp hclean
      have hrow' := hf.stored _ _ (h.provinces r' hr') p (hsame ▸ hp) hclean
      exact h.province_once (p, r.2) hrow (p, r'.2) hrow' rfl

end ServiceConfig

end WmsDu
