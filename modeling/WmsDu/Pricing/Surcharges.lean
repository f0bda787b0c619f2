import WmsDu.Pricing.Templates

/-!
# Writing surcharges

The surcharge configs of a template: one a province, which charges the whole
province or single cities of it.
-/

namespace WmsDu

open Txn

/-- `_require_template_draft`. -/
def requireTemplateDraft (templateId : Int) : PricingTx Unit := do
  let t ← loadTemplateOr404 templateId
  ensureTemplateDraft t

/-- `_find_config_for_province`. -/
def findConfigForProvince (templateId : Int) (provinceCode : String) :
    PricingTx (Option SurchargeConfig) :=
  Prog.read fun db => (db.configsOf templateId).find? fun c => c.provinceCode = provinceCode

def configExistsErr : PricingErr := .http 409 "Surcharge config for this province already exists"

/-! ## Payloads -/

structure SurchargeConfigCityIn where
  cityCode : String
  cityName : Option String := none
  fixedAmount : ℚ := 0
  active : Bool := true
deriving DecidableEq

structure SurchargeConfigCreateIn where
  provinceCode : String
  provinceName : Option String := none
  provinceMode : String := "province"
  fixedAmount : ℚ := 0
  active : Bool := true
  cities : List SurchargeConfigCityIn := []
deriving DecidableEq

/-- A field may be left out or sent as null. -/
structure SurchargeConfigUpdateIn where
  provinceCode : Option (Option String) := none
  provinceName : Option (Option String) := none
  provinceMode : Option (Option String) := none
  fixedAmount : Option (Option ℚ) := none
  active : Option (Option Bool) := none
  cities : Option (Option (List SurchargeConfigCityIn)) := none
deriving DecidableEq

structure SurchargeConfigBatchProvinceItemIn where
  provinceCode : String
  provinceName : Option String := none
  fixedAmount : ℚ := 0
  active : Bool := true
deriving DecidableEq

/-- `_validate_config_payload_for_write`, with the mode it accepted. -/
def validateConfigPayloadForWrite (provinceMode : String) (fixedAmount : Option ℚ)
    (citiesCount : Nat) : Except PricingErr SurchargeMode := do
  let mode := lower (strip provinceMode)
  if mode = "province" then
    demand (fixedAmount.isSome)
      (.http 422 "fixed_amount is required when province_mode=province")
    demand (citiesCount = 0) (.http 422 "cities must be empty when province_mode=province")
    return .province
  else if mode = "cities" then
    demand (fixedAmount.getD 0 = 0)
      (.http 422 "fixed_amount must be 0 when province_mode=cities")
    return .cities
  else .error (.http 422 "province_mode must be one of: province / cities")

/-! ## Cities -/

/-- The entries that were sent, cleaned. -/
def cleanCities (cities : List SurchargeConfigCityIn) :
    Except PricingErr (List SurchargeConfigCityIn) :=
  cities.mapM fun c => do
    let cityCode ← normNonempty (some c.cityCode) "city_code"
    return { c with
      cityCode := cityCode, cityName := cleanText c.cityName
      fixedAmount := numericColumn 2 c.fixedAmount }

/-- The last entry of a city that is there already. -/
def cityChange (cities : List SurchargeConfigCityIn) (row : SurchargeCity) : SurchargeCityChange :=
  match cities.reverse.find? fun c => c.cityCode = row.cityCode with
  | none => {}
  | some c =>
      { cityName := changed row.cityName c.cityName
        fixedAmount := changed row.fixedAmount c.fixedAmount
        active := changed row.active c.active }

/-- `_sync_config_cities`: entries of cities that are there already change
their rows, the others are new, and the rows left over are deleted. -/
def syncConfigCities (configId : Int) (existing : List SurchargeCity)
    (cities : List SurchargeConfigCityIn) (newId : Nat → Int) : PricingTx Unit := do
  let cities ← Prog.ofExcept (cleanCities cities)
  let codes := existing.map SurchargeCity.cityCode
  insertEach (fun row : SurchargeCity => updateCityRow row.id (cityChange cities row)) existing
  insertEach insertCity
    ((cities.filter fun c => c.cityCode ∉ codes).zipIdx.map fun (c, i) =>
      { id := newId i, configId := configId, cityCode := c.cityCode, cityName := c.cityName
        fixedAmount := c.fixedAmount, active := c.active })
  insertEach (fun row : SurchargeCity => deleteCityRow row.id)
    (existing.filter fun row => row.cityCode ∉ cities.map SurchargeConfigCityIn.cityCode)

/-! ## Endpoints -/

/-- The items of a batch, after the codes seen before them. -/
def createProvinceConfigs (templateId : Int) (newId : Nat → Int) :
    Nat → List String → List SurchargeConfigBatchProvinceItemIn → PricingTx Unit
  | _, _, [] => return ()
  | n, seen, item :: rest => do
      let provinceCode ← Prog.ofExcept (normNonempty (some item.provinceCode) "province_code")
      if provinceCode ∈ seen then createProvinceConfigs templateId newId n seen rest
      else do
        let found ← findConfigForProvince templateId provinceCode
        if found.isSome then createProvinceConfigs templateId newId n (provinceCode :: seen) rest
        else do
          insertConfig
            { id := newId n, templateId := templateId, provinceCode := provinceCode
              provinceName := cleanText item.provinceName, provinceMode := .province
              fixedAmount := numericColumn 2 item.fixedAmount, active := item.active }
          createProvinceConfigs templateId newId (n + 1) (provinceCode :: seen) rest

/-- `batch_create_province_surcharge_configs`. -/
def batchCreateProvinceSurchargeConfigs (templateId : Int)
    (items : List SurchargeConfigBatchProvinceItemIn) (newId : Nat → Int) : PricingTx Unit := do
  requireTemplateDraft templateId
  createProvinceConfigs templateId newId 0 [] items

/-- `create_surcharge_city_container`. -/
def createSurchargeCityContainer (templateId : Int) (provinceCode : String)
    (provinceName : Option String) (active : Bool) (newId : Int) : PricingTx Unit := do
  requireTemplateDraft templateId
  let provinceCode ← Prog.ofExcept (normNonempty (some provinceCode) "province_code")
  let found ← findConfigForProvince templateId provinceCode
  Prog.require (found = none) configExistsErr
  insertConfig
    { id := newId, templateId := templateId, provinceCode := provinceCode
      provinceName := cleanText provinceName, provinceMode := .cities, fixedAmount := 0
      active := active }

/-- `create_surcharge_config`. -/
def createSurchargeConfig (templateId : Int) (payload : SurchargeConfigCreateIn) (newId : Int)
    (newCityId : Nat → Int) : PricingTx Unit := do
  requireTemplateDraft templateId
  let provinceCode ← Prog.ofExcept (normNonempty (some payload.provinceCode) "province_code")
  let mode ← Prog.ofExcept (validateConfigPayloadForWrite payload.provinceMode
    (some payload.fixedAmount) payload.cities.length)
  let found ← findConfigForProvince templateId provinceCode
  Prog.require (found = none) configExistsErr
  insertConfig
    { id := newId, templateId := templateId, provinceCode := provinceCode
      provinceName := cleanText payload.provinceName, provinceMode := mode
      fixedAmount := if mode = .province then numericColumn 2 payload.fixedAmount else 0
      active := payload.active }
  if mode = .cities then syncConfigCities newId [] payload.cities newCityId else return ()

/-- A row as an entry of a payload. -/
def SurchargeCity.payload (c : SurchargeCity) : SurchargeConfigCityIn :=
  ⟨c.cityCode, c.cityName, c.fixedAmount, c.active⟩

def SurchargeMode.text : SurchargeMode → String
  | .province => "province"
  | .cities => "cities"

/-- `update_surcharge_config`. -/
def updateSurchargeConfig (configId : Int) (payload : SurchargeConfigUpdateIn)
    (newCityId : Nat → Int) : PricingTx Unit := do
  let cfg ← Prog.read fun db => db.configs.lookup configId
  let cfg ← Prog.requireSome cfg (.http 404 "Surcharge config not found")
  let cities ← Prog.read fun db => sortOn (·.id) (db.citiesOf configId)
  requireTemplateDraft cfg.templateId
  let provinceCode ←
    match payload.provinceCode.join with
    | some code => Prog.ofExcept (normNonempty (some code) "province_code")
    | none => pure cfg.provinceCode
  let provinceName := (payload.provinceName.map cleanText).getD cfg.provinceName
  let provinceMode := (payload.provinceMode.join.map fun m => lower (strip m)).getD cfg.provinceMode.text
  let fixedAmount := payload.fixedAmount.join.getD cfg.fixedAmount
  let active := payload.active.join.getD cfg.active
  let citiesPayload := (payload.cities.map fun cs => cs.getD []).getD (cities.map SurchargeCity.payload)
  if provinceCode ≠ cfg.provinceCode then do
    let found ← findConfigForProvince cfg.templateId provinceCode
    Prog.require (∀ c ∈ found, c.id = cfg.id) configExistsErr
  else pure ()
  let mode ← Prog.ofExcept (validateConfigPayloadForWrite provinceMode (some fixedAmount)
    citiesPayload.length)
  let change (fixed : ℚ) : SurchargeConfigChange :=
    { provinceCode := changed cfg.provinceCode provinceCode
      provinceName := changed cfg.provinceName provinceName
      provinceMode := changed cfg.provinceMode mode
      fixedAmount := changed cfg.fixedAmount fixed
      active := changed cfg.active active }
  match mode with
  | .province => do
      insertEach (fun row : SurchargeCity => deleteCityRow row.id) cities
      updateConfigRow configId (change (numericColumn 2 fixedAmount))
  | .cities => do
      updateConfigRow configId (change 0)
      syncConfigCities configId cities citiesPayload newCityId

/-- `delete_surcharge_config`. -/
def deleteSurchargeConfig (configId : Int) : PricingTx Unit := do
  let cfg ← Prog.read fun db => db.configs.lookup configId
  let cfg ← Prog.requireSome cfg (.http 404 "Surcharge config not found")
  requireTemplateDraft cfg.templateId
  deleteConfigRow configId

end WmsDu
