import WmsDu.Oms.Fulfillment

/-!
# Service routing

Where a new order is to be served from: the province of its address, made
canonical, or the city where the province is split by cities, names a service
warehouse. The route goes into the order's fulfilment record, and a repeated
ingest reads it back.
-/

namespace WmsDu

open Txn

/-! ## Provinces -/

/-- The full names of the provinces. -/
def canonicalProvinces : List String :=
  ["北京市", "天津市", "上海市", "重庆市", "河北省", "山西省", "辽宁省", "吉林省", "黑龙江省", "江苏省", "浙江省", "安徽省", "福建省",
    "江西省", "山东省", "河南省", "湖北省", "湖南省", "广东省", "海南省", "四川省", "贵州省", "云南省", "陕西省", "甘肃省", "青海省",
    "台湾省", "内蒙古自治区", "广西壮族自治区", "西藏自治区", "宁夏回族自治区", "新疆维吾尔自治区", "香港特别行政区", "澳门特别行政区"]

/-- Common short forms. -/
def provinceAliases : List (String × String) :=
  [("北京", "北京市"), ("天津", "天津市"), ("上海", "上海市"), ("重庆", "重庆市"), ("河北", "河北省"), ("山西", "山西省"),
    ("辽宁", "辽宁省"), ("吉林", "吉林省"), ("黑龙江", "黑龙江省"), ("江苏", "江苏省"), ("浙江", "浙江省"), ("安徽", "安徽省"),
    ("福建", "福建省"), ("江西", "江西省"), ("山东", "山东省"), ("河南", "河南省"), ("湖北", "湖北省"), ("湖南", "湖南省"),
    ("广东", "广东省"), ("海南", "海南省"), ("四川", "四川省"), ("贵州", "贵州省"), ("云南", "云南省"), ("陕西", "陕西省"),
    ("甘肃", "甘肃省"), ("青海", "青海省"), ("台湾", "台湾省"), ("内蒙古", "内蒙古自治区"), ("内蒙", "内蒙古自治区"),
    ("广西", "广西壮族自治区"), ("西藏", "西藏自治区"), ("宁夏", "宁夏回族自治区"), ("新疆", "新疆维吾尔自治区"), ("香港", "香港特别行政区"),
    ("澳门", "澳门特别行政区")]

/-- `normalize_province_name`: an unknown name is kept as it is. -/
def normalizeProvinceName (raw : Option String) : Option String :=
  raw.bind fun r =>
    let s := strip (String.ofList (r.toList.map fun c => if c.toNat = 0x3000 then ' ' else c))
    if s = "" then none
    else if s ∈ canonicalProvinces then some s
    else
      match provinceAliases.find? fun a => a.1 = s with
      | some a => some a.2
      | none =>
          ((["", "省", "市", "自治区", "特别行政区"].map fun suf => s ++ suf).find?
            fun cand => cand ∈ canonicalProvinces) <|> some s

private theorem toList_unspaced (s : String) :
    (String.ofList (s.toList.map fun c => if c.toNat = 0x3000 then ' ' else c)).toList =
      s.toList.map fun c => if c.toNat = 0x3000 then ' ' else c := String.toList_ofList

private theorem unspaced_of_not_mem {s : String} (h : ∀ c ∈ s.toList, c.toNat ≠ 0x3000) :
    String.ofList (s.toList.map fun c => if c.toNat = 0x3000 then ' ' else c) = s := by
  have hself : (s.toList.map fun c => if c.toNat = 0x3000 then ' ' else c) = s.toList := by
    conv_rhs => rw [← List.map_id s.toList]
    exact List.map_congr_left fun c hc => if_neg (h c hc)
  rw [hself, String.ofList_toList]

/-- The full names are kept. -/
theorem normalizeProvinceName_canonical :
    ∀ p ∈ canonicalProvinces, normalizeProvinceName (some p) = some p := by
  decide +kernel

private theorem provinceAliases_canonical : ∀ a ∈ provinceAliases, a.2 ∈ canonicalProvinces := by
  decide

/-- A name made canonical is kept. -/
theorem normalizeProvinceName_idem {raw : Option String} {p : String}
    (h : normalizeProvinceName raw = some p) : normalizeProvinceName (some p) = some p := by
  obtain ⟨r, -, h⟩ := Option.bind_eq_some_iff.mp h
  dsimp only at h
  generalize ht : String.ofList (r.toList.map fun c => if c.toNat = 0x3000 then ' ' else c) = t at h
  have hno : ∀ c ∈ t.toList, c.toNat ≠ 0x3000 := by
    intro c hc
    rw [← ht, toList_unspaced] at hc
    obtain ⟨d, -, rfl⟩ := List.mem_map.mp hc
    split
    · decide
    · assumption
  have hkept : String.ofList ((strip t).toList.map fun c => if c.toNat = 0x3000 then ' ' else c) =
      strip t := unspaced_of_not_mem fun c hc => hno c (mem_toList_strip hc)
  split at h
  · cases h
  · rename_i hne
    split at h
    · rename_i hcanon
      cases h
      exact normalizeProvinceName_canonical _ hcanon
    · rename_i hcanon
      split at h
      · rename_i a ha
        cases h
        exact normalizeProvinceName_canonical _
          (provinceAliases_canonical a (List.mem_of_find?_eq_some ha))
      · rename_i halias
        rw [Option.orElse_eq_orElse, Option.orElse_eq_or] at h
        rcases Option.or_eq_some_iff.mp h with hsuffix | ⟨hsuffix, hself⟩
        · exact normalizeProvinceName_canonical _ (by simpa using List.find?_some hsuffix)
        · -- an unknown name, kept as it is, is unknown again
          cases hself
          simp only [normalizeProvinceName, Option.bind_some, hkept, strip_strip]
          rw [if_neg hne, if_neg hcanon, halias]
          rw [Option.orElse_eq_orElse, Option.orElse_eq_or]
          exact Option.or_eq_some_iff.mpr (.inr ⟨hsuffix, rfl⟩)

/-- A stripped name that is not blank has a canonical form. -/
theorem normalizeProvinceName_isSome {s : String} (hs : strip s = s) (hne : s ≠ "") :
    ∃ p, normalizeProvinceName (some s) = some p := by
  have hblank : strip (String.ofList (s.toList.map fun c => if c.toNat = 0x3000 then ' ' else c)) ≠
      "" := by
    intro hblank
    rw [strip_eq_empty_iff, toList_unspaced] at hblank
    refine hne (hs ▸ strip_eq_empty_iff.mpr fun c hc => ?_)
    have hspace := hblank _ (List.mem_map_of_mem hc)
    by_cases hwide : c.toNat = 0x3000
    · simp [isSpaceChar, hwide]
    · rwa [if_neg hwide] at hspace
  refine Option.ne_none_iff_exists'.mp fun hnone => ?_
  simp only [normalizeProvinceName, Option.bind_some, if_neg hblank] at hnone
  split at hnone
  · cases hnone
  · split at hnone
    · cases hnone
    · rw [Option.orElse_eq_orElse, Option.orElse_eq_or, Option.or_eq_none_iff] at hnone
      cases hnone.2

/-- The part of an address that routing reads. -/
structure Address where
  province : Option String := none
  city : Option String := none

/-- `_resolve_route_address`; `defaults` is what the environment falls back
to. -/
def resolveRouteAddress (address : Option Address) (defaults : Address) :
    Option String × Option String :=
  let raw := address.getD {}
  (normalizeProvinceName (cleanText raw.province <|> cleanText defaults.province),
    cleanText raw.city <|> cleanText defaults.city)

/-! ## Routes -/

/-- A route, as it is computed or read back. -/
structure RoutePayload where
  status : Option String
  mode : Option String
  reason : Option String
  serviceWarehouseId : Option Int
deriving DecidableEq

/-- A route that names no warehouse. -/
def blockedRoute (mode reason : String) : RoutePayload :=
  ⟨some "FULFILLMENT_BLOCKED", some mode, some reason, none⟩

/-- A route to a service warehouse, or none. -/
def serviceRoute (mode missing : String) (warehouseId : Option Int) : RoutePayload :=
  match warehouseId.filter fun w => 0 < w with
  | some w => ⟨some "SERVICE_ASSIGNED", some mode, some "OK", some w⟩
  | none => blockedRoute mode missing

/-- `_is_city_split_province`. -/
def isCitySplitProvince (province : String) : Oms Bool :=
  Oms.select fun db => province ∈ db.citySplitProvinces

/-- `_load_service_warehouse_by_province`. -/
def loadServiceWarehouseByProvince (province : String) : Oms (Option Int) :=
  Oms.select fun db => (db.serviceProvinces.find? fun p => p.1 = province).map Prod.snd

/-- `_load_service_warehouse_by_city`. -/
def loadServiceWarehouseByCity (province city : String) : Oms (Option Int) :=
  Oms.select fun db =>
    (db.serviceCities.find? fun c => c.1 = some province ∧ c.2.1 = city).map fun c => c.2.2

/-- `_resolve_route_payload`. -/
def resolveRoutePayload (address : Option Address) (defaults : Address) : Oms RoutePayload := do
  let (province, city) := resolveRouteAddress address defaults
  match province with
  | none => return blockedRoute "province" "PROVINCE_MISSING_OR_INVALID"
  | some province => do
      let split ← isCitySplitProvince province
      if split then
        match city with
        | none => return blockedRoute "city" "NO_SERVICE_WAREHOUSE"
        | some city => do
            let warehouseId ← loadServiceWarehouseByCity province city
            return serviceRoute "city" "NO_SERVICE_WAREHOUSE" warehouseId
      else do
        let warehouseId ← loadServiceWarehouseByProvince province
        return serviceRoute "province" "NO_SERVICE_PROVINCE" warehouseId

/-- The row `_upsert_order_fulfillment_route` leaves: the route replaces the
planned warehouse, the status and the blocks. -/
def routedFulfillment (orderId : Int) (route : RoutePayload) (old : Option OrderFulfillment) :
    OrderFulfillment :=
  let status := upper (strip (route.status.getD ""))
  let blocks :=
    if status = "FULFILLMENT_BLOCKED" then some (cleanText route.reason).toList else none
  match old with
  | none =>
      { orderId := orderId, plannedWarehouseId := route.serviceWarehouseId
        actualWarehouseId := none, fulfillmentStatus := some status, blockedReasons := blocks
        executionStage := none, shipCommittedAt := none, shippedAt := none }
  | some f =>
      { f with
        plannedWarehouseId := route.serviceWarehouseId
        fulfillmentStatus := some status
        blockedReasons := blocks }

/-- `_upsert_order_fulfillment_route`. -/
def upsertOrderFulfillmentRoute (orderId : Int) (route : RoutePayload) : Oms Unit :=
  Oms.write fun db =>
    let f := routedFulfillment orderId route (db.orderFulfillment.lookup orderId)
    match f.violates db with
    | some c => .error (.integrity c)
    | none => .ok ((), { db with orderFulfillment := db.orderFulfillment.upsert f })

/-- `_load_existing_route_payload`. -/
def loadExistingRoutePayload (orderId : Int) : Oms (Option RoutePayload) :=
  Oms.select fun db => (db.orderFulfillment.lookup orderId).map fun f =>
    let status := cleanText f.fulfillmentStatus
    let reason :=
      match f.blockedReasons with
      | none => none
      | some [] => some "[]"
      | some (r :: _) => cleanText (some r)
    if status = some "SERVICE_ASSIGNED" then ⟨status, none, some "OK", f.plannedWarehouseId⟩
    else ⟨status, none, reason, f.plannedWarehouseId⟩

end WmsDu
