import WmsDu.Oms.ServiceAreas

/-!
# Service routing

The lists of the service areas are put one at a time, and every order after
them is looked up by the canonical name of its province, and by its city where
the province is split. The puts leave the names as they are spelled, store a
city without its province, and clear of the province rows those alone that are
spelled as a split province is.
-/

namespace WmsDu

open Txn

/-! ## Puts that keep the routes -/

/-- The put lists provinces by their canonical names, none of them split; lists
cities only while no province is split, and splits only while no city is
listed; and the split list names every spelling of its provinces that is stored,
and gives up none that a warehouse lists. -/
def ServicePut.Plain (cfg : ServiceConfig) (db : OmsDb) : ServicePut → Prop
  | .provinces _ data => ∀ s ∈ normalizeNames data, ∀ p ∈ normalizeProvinceName (some s),
      p ∈ normalizeNames data ∧ ¬ SplitBy cfg.split p
  | .cities _ data => cfg.split = [] ∨ normalizeNames data = []
  | .split data =>
      (normalizeNames data = [] ∨ db.serviceCities = []) ∧
      (∀ r ∈ db.serviceProvinces, ∀ p ∈ normalizeProvinceName (some r.1),
        SplitBy (normalizeNames data) p → r.1 ∈ normalizeNames data) ∧
      ∀ w ∈ db.wms.warehouses.rows, ∀ s ∈ cfg.provinces w, ∀ p ∈ normalizeProvinceName (some s),
        SplitBy cfg.split p → SplitBy (normalizeNames data) p

instance ServicePut.decidablePlain (cfg : ServiceConfig) (db : OmsDb) :
    (op : ServicePut) → Decidable (op.Plain cfg db)
  | .provinces _ data => inferInstanceAs (Decidable (∀ s ∈ normalizeNames data,
      ∀ p ∈ normalizeProvinceName (some s), p ∈ normalizeNames data ∧ ¬ SplitBy cfg.split p))
  | .cities _ data => inferInstanceAs (Decidable (cfg.split = [] ∨ normalizeNames data = []))
  | .split data => inferInstanceAs (Decidable (
      (normalizeNames data = [] ∨ db.serviceCities = []) ∧
      (∀ r ∈ db.serviceProvinces, ∀ p ∈ normalizeProvinceName (some r.1),
        SplitBy (normalizeNames data) p → r.1 ∈ normalizeNames data) ∧
      ∀ w ∈ db.wms.warehouses.rows, ∀ s ∈ cfg.provinces w, ∀ p ∈ normalizeProvinceName (some s),
        SplitBy cfg.split p → SplitBy (normalizeNames data) p))

variable {cfg cfg' : ServiceConfig} {db db' : OmsDb} {op : ServicePut}

/-- A put keeps the tables what was accepted. -/
theorem ServicePut.call_records (h : op.call db = .ok db') (hrec : cfg.Records db) :
    (cfg.accept op).Records db' := by
  cases op with
  | provinces wid data =>
      obtain ⟨hwid, rows, rfl, honce, hrows⟩ := putServiceProvinces_ok h
      have hlist (w : Int) : (cfg.accept (.provinces wid data)).provinces w =
          if w = wid then normalizeNames data else cfg.provinces w := Function.update_apply ..
      refine { hrec with
        provinces := fun r hr => ?_, province_once := honce hrec.province_once
        isName_province := fun w s hs => ?_, warehouse := fun w hw => ?_ }
      · rw [hlist]
        rcases (hrows r).mp hr with ⟨hold, hne⟩ | ⟨hnew, heq⟩
        · rw [if_neg hne]
          exact hrec.provinces r hold
        · rwa [if_pos heq]
      · rw [hlist] at hs
        split at hs
        · exact isName_of_mem hs
        · exact hrec.isName_province w s hs
      · rw [hlist] at hw
        split at hw
        · subst w
          exact hwid
        · exact hrec.warehouse w hw
  | cities wid data =>
      obtain ⟨rows, rfl, honce, hrows⟩ := putServiceCities_ok h
      have hlist (w : Int) : (cfg.accept (.cities wid data)).cities w =
          if w = wid then normalizeNames data else cfg.cities w := Function.update_apply ..
      refine { hrec with
        cities := fun r => ?_, city_once := honce hrec.city_once, isName_city := fun w s hs => ?_ }
      · rw [hlist, hrows, hrec.cities]
        by_cases heq : r.2.2 = wid
        · simp [heq]
        · simp [heq]
      · rw [hlist] at hs
        split at hs
        · exact isName_of_mem hs
        · exact hrec.isName_city w s hs
  | split data =>
      cases h
      refine { hrec with
        provinces := fun r hr => hrec.provinces r (List.mem_filter.mp hr).1
        province_once := fun r hr r' hr' =>
          hrec.province_once r (List.mem_filter.mp hr).1 r' (List.mem_filter.mp hr').1
        split := rfl
        isName_split := fun s hs => isName_of_mem hs }

/-- **Step.** Of a put that goes through, the routes follow the configuration
afterwards exactly if it is plain. -/
theorem ServicePut.routesFollow_iff (h : op.call db = .ok db') (hrec : cfg.Records db)
    (hf : RoutesFollow cfg db) : RoutesFollow (cfg.accept op) db' ↔ op.Plain cfg db := by
  rw [(op.call_records h hrec).routesFollow_iff]
  rw [hrec.routesFollow_iff] at hf
  cases op with
  | provinces wid data =>
      obtain ⟨-, rows, rfl, -, hrows⟩ := putServiceProvinces_ok h
      have hlist (w : Int) : (cfg.accept (.provinces wid data)).provinces w =
          if w = wid then normalizeNames data else cfg.provinces w := Function.update_apply ..
      constructor
      · intro hf' s hs p hp
        have hclean := hf'.split_clean (s, wid) ((hrows _).mpr (.inr ⟨hs, rfl⟩)) p hp
        refine ⟨?_, hclean⟩
        have hrow := hf'.stored wid s (by rwa [hlist, if_pos rfl]) p hp hclean
        rcases (hrows _).mp hrow with ⟨-, hne⟩ | ⟨hmem, -⟩
        · exact absurd rfl hne
        · exact hmem
      · intro hplain
        refine ⟨hf.no_cities, fun r hr p hp => ?_, fun w s hs p hp hsplit => ?_⟩
        · rcases (hrows r).mp hr with ⟨hold, -⟩ | ⟨hnew, -⟩
          · exact hf.split_clean r hold p hp
          · exact (hplain r.1 hnew p hp).2
        · rw [hlist] at hs
          split at hs
          · rename_i heq
            exact (hrows _).mpr (.inr ⟨(hplain s hs p hp).1, heq⟩)
          · rename_i hne
            exact (hrows _).mpr (.inl ⟨hf.stored w s hs p hp hsplit, hne⟩)
  | cities wid data =>
      obtain ⟨rows, rfl, -, hrows⟩ := putServiceCities_ok h
      constructor
      · intro hf'
        by_contra hnot
        obtain ⟨hsplit, hnames⟩ := not_or.mp hnot
        obtain ⟨c, hc⟩ := List.exists_mem_of_ne_nil _ hnames
        have hrow : (none, c, wid) ∈ rows := (hrows _).mpr (.inr ⟨rfl, hc, rfl⟩)
        have hempty : rows = [] := hf'.no_cities hsplit
        rw [hempty] at hrow
        cases hrow
      · intro hplain
        refine ⟨fun hsplit => ?_, hf.split_clean, hf.stored⟩
        have hnames : normalizeNames data = [] := hplain.resolve_left hsplit
        refine List.eq_nil_iff_forall_not_mem.mpr fun r hr => ?_
        rcases (hrows r).mp hr with ⟨hold, -⟩ | ⟨-, hnew, -⟩
        · rw [hf.no_cities hsplit] at hold
          cases hold
        · rw [hnames] at hnew
          cases hnew
  | split data =>
      cases h
      constructor
      · intro hf'
        refine ⟨?_, fun r hr p hp hsplit => ?_, fun w _ s hs p hp hold => ?_⟩
        · by_contra hnot
          obtain ⟨hnames, hcities⟩ := not_or.mp hnot
          exact hcities (hf'.no_cities hnames)
        · by_contra hspelled
          have hkept : r ∈ db.serviceProvinces.filter fun r => r.1 ∉ normalizeNames data :=
            List.mem_filter.mpr ⟨hr, decide_eq_true hspelled⟩
          exact hf'.split_clean r hkept p hp hsplit
        · by_contra hnew
          have hrow := hf'.stored w s hs p hp hnew
          exact hf.split_clean _ (List.mem_filter.mp hrow).1 p (normalizeProvinceName_idem hp) hold
      · rintro ⟨hcities, hspelled, hkept⟩
        refine ⟨fun hnames => hcities.resolve_left hnames, fun r hr p hp hsplit => ?_,
          fun w s hs p hp hsplit => ?_⟩
        · have hr := List.mem_filter.mp hr
          exact of_decide_eq_true hr.2 (hspelled r hr.1 p hp hsplit)
        · -- a province listed and not split now was not split before
          have hwarehouse : db.wms.warehouses.HasKey w := hrec.warehouse w (List.ne_nil_of_mem hs)
          obtain ⟨w', hw', heq⟩ := hwarehouse
          have hw : w ∈ db.wms.warehouses.rows := by rwa [← heq]
          have hold : ¬ SplitBy cfg.split p := fun hold => hsplit (hkept w hw s hs p hp hold)
          refine List.mem_filter.mpr ⟨hf.stored w s hs p hp hold, decide_eq_true fun hmem => ?_⟩
          exact hsplit ⟨p, hmem, normalizeProvinceName_idem hp⟩

/-! ## Runs -/

/-- No service area was put yet. -/
structure OmsDb.NoAreas (db : OmsDb) : Prop where
  provinces : db.serviceProvinces = []
  cities : db.serviceCities = []
  split : db.citySplitProvinces = []
  positive : ∀ w, db.wms.warehouses.HasKey w → 0 < w

theorem OmsDb.NoAreas.records (h : db.NoAreas) : ServiceConfig.empty.Records db where
  provinces := by simp [h.provinces]
  province_once := by simp [h.provinces]
  cities := by simp [h.cities, ServiceConfig.empty]
  city_once := by simp [h.cities]
  split := h.split
  isName_province := fun _ _ hs => absurd hs List.not_mem_nil
  isName_city := fun _ _ hs => absurd hs List.not_mem_nil
  isName_split := fun _ hs => absurd hs List.not_mem_nil
  warehouse := fun _ hne => absurd rfl hne
  positive := h.positive

theorem OmsDb.NoAreas.findable (h : db.NoAreas) : ServiceConfig.empty.Findable db where
  no_cities := fun hne => absurd rfl hne
  split_clean := by simp [h.provinces]
  stored := fun _ _ hs => absurd hs List.not_mem_nil

/-- **Service routing.** In every run of plain puts, orders are assigned as the
last accepted configuration says, each area has one warehouse and no split
province has a row; and of a put that goes through, this is true afterwards
exactly if it is plain. -/
theorem service_routing {db₀ : OmsDb} {cfg : ServiceConfig} {db : OmsDb} (h₀ : db₀.NoAreas)
    (h : Reaches ServicePut.run (fun w op => op.Plain w.1 w.2) (.empty, db₀) (cfg, db)) :
    RoutesFollow cfg db ∧ ∀ (op : ServicePut) (db' : OmsDb), op.call db = .ok db' →
      (RoutesFollow (cfg.accept op) db' ↔ op.Plain cfg db) := by
  have hreached : cfg.Records db ∧ RoutesFollow cfg db := by
    refine h.invariant (I := fun w => w.1.Records w.2 ∧ RoutesFollow w.1 w.2)
      ⟨h₀.records, h₀.records.routesFollow_iff.mpr h₀.findable⟩ ?_
    rintro ⟨cfg, db⟩ w' op hplain ⟨hrec, hf⟩ hrun
    obtain ⟨db', hcall, rfl⟩ := map_eq_ok.mp hrun
    exact ⟨op.call_records hcall hrec, (op.routesFollow_iff hcall hrec hf).mpr hplain⟩
  exact ⟨hreached.2, fun op _ hcall => op.routesFollow_iff hcall hreached.1 hreached.2⟩

/-! ## Guangdong, and Hebei by its cities -/

theorem noAreas_sampleShop : sampleShop.NoAreas where
  provinces := rfl
  cities := rfl
  split := rfl
  positive := by
    intro w hw
    have hw : w ∈ [(1 : Int), 2] := by
      obtain ⟨w', hw', rfl⟩ := hw
      exact hw'
    rcases List.mem_cons.mp hw with rfl | hw
    · decide
    · rw [List.mem_singleton.mp hw]
      decide

/-- Guangdong in two spellings and a region of its own name; another province
is split, and the list of the first warehouse is put again. -/
def samplePuts : List ServicePut :=
  [.provinces 1 ["广东", " 广东省"], .provinces 2 ["EAST"], .split ["河北省", "河北"],
    .cities 2 [" "], .provinces 1 ["广东省", "浙江省"]]

theorem service_routing_sample : ∃ cfg db,
    callAll ServicePut.run (fun w op => op.Plain w.1 w.2) (.empty, sampleShop) samplePuts =
        some (cfg, db) ∧
      db.serviceProvinces = [("EAST", 2), ("广东省", 1), ("浙江省", 1)] ∧
      RoutesFollow cfg db ∧ ∀ (op : ServicePut) (db' : OmsDb), op.call db = .ok db' →
        (RoutesFollow (cfg.accept op) db' ↔ op.Plain cfg db) := by
  have hrun : ∃ w ∈ callAll ServicePut.run (fun w op => op.Plain w.1 w.2) (.empty, sampleShop)
      samplePuts, w.2.serviceProvinces = [("EAST", 2), ("广东省", 1), ("浙江省", 1)] := by
    decide +kernel
  obtain ⟨⟨cfg, db⟩, hw, hrows⟩ := hrun
  exact ⟨cfg, db, hw, hrows, service_routing noAreas_sampleShop (.of_callAll .start hw)⟩

/-- Hebei is split and its capital listed for the first warehouse. -/
def sampleSplitPuts : List ServicePut := [.split ["河北省"], .cities 1 ["石家庄市"]]

/-- A city is stored without its province, and no order to it is assigned. -/
theorem service_routing_not : sampleShop.NoAreas ∧
    ∃ cfg db, Reaches ServicePut.run (fun _ _ => True) (.empty, sampleShop) (cfg, db) ∧
      cfg.Serves (some ⟨some "河北省", some "石家庄市"⟩) 1 ∧ ¬ RoutesFollow cfg db := by
  refine ⟨noAreas_sampleShop, ?_⟩
  have hrun : ∃ w ∈ callAll ServicePut.run (fun _ _ => True) (.empty, sampleShop) sampleSplitPuts,
      (w.1.split = ["河北省"] ∧ w.1.cities 1 = ["石家庄市"]) ∧
      (resolveRoutePayload (some ⟨some "河北省", some "石家庄市"⟩) {} ⟨w.2, false⟩).1.toOption =
        some (blockedRoute "city" "NO_SERVICE_WAREHOUSE") := by
    decide
  obtain ⟨⟨cfg, db⟩, hw, ⟨hsplit, hcity⟩, hblocked⟩ := hrun
  have hserves : cfg.Serves (some ⟨some "河北省", some "石家庄市"⟩) 1 := by
    refine ⟨"河北省", by decide, .inl ⟨⟨"河北省", ?_, by decide⟩, "石家庄市", ?_, ?_⟩⟩
    · exact hsplit ▸ List.mem_singleton_self _
    · exact hcity ▸ List.mem_singleton_self _
    · decide
  refine ⟨cfg, db, .of_callAll .start hw, hserves, fun hf => ?_⟩
  obtain ⟨route, c, hrun, hassigned⟩ := (hf.assigns _ _).mpr hserves
  rw [hrun] at hblocked
  cases hblocked
  exact blockedRoute_not_assigned hassigned

end WmsDu
