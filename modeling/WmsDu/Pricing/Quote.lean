import Mathlib.Data.Rat.Floor
import WmsDu.Data.Sorting
import WmsDu.Pricing.Schema

/-!
# Quotes

`load_template_quote_context` and `calc_quote_level3`: a template is loaded
into a context, the destination picks a group, the billable weight picks a row
of the group's matrix, and a surcharge of the province or city is added. Where
several entries match, an order breaks the tie.
-/

namespace WmsDu

/-! ## Contexts -/

structure Dest where
  province : Option String := none
  city : Option String := none
  district : Option String := none
  provinceCode : Option String := none
  cityCode : Option String := none
deriving DecidableEq, Repr

structure QuoteGroupMemberContext where
  id : Int
  provinceCode : Option String
  provinceName : Option String
deriving DecidableEq

structure QuoteMatrixRowContext where
  id : Int
  groupId : Int
  moduleRangeId : Int
  pricingMode : String
  flatAmount : Option ℚ
  baseAmount : Option ℚ
  ratePerKg : Option ℚ
  baseKg : Option ℚ
  active : Bool
  minKg : ℚ
  maxKg : Option ℚ
deriving DecidableEq

structure QuoteGroupContext where
  id : Int
  name : String
  active : Bool
  members : List QuoteGroupMemberContext
deriving DecidableEq

structure QuoteSurchargeCityContext where
  id : Int
  cityCode : Option String
  cityName : Option String
  fixedAmount : ℚ
  active : Bool
deriving DecidableEq

structure QuoteSurchargeConfigContext where
  id : Int
  provinceCode : Option String
  provinceName : Option String
  provinceMode : SurchargeMode
  fixedAmount : ℚ
  active : Bool
  cities : List QuoteSurchargeCityContext
deriving DecidableEq

structure QuoteCalcContext where
  templateId : Int
  shippingProviderId : Int
  shippingProviderName : Option String
  templateName : String
  status : PricingTemplateStatus
  archivedAt : Option Timestamp
  currency : String
  billableWeightStrategy : String
  volumeDivisor : Option Int
  roundingMode : String
  roundingStepKg : Option ℚ
  minBillableWeightKg : Option ℚ
  groups : List QuoteGroupContext
  matrixRows : List QuoteMatrixRowContext
  surchargeConfigs : List QuoteSurchargeConfigContext
deriving DecidableEq

/-! ## Loading -/

def GroupMember.context (m : GroupMember) : QuoteGroupMemberContext :=
  ⟨m.id, m.provinceCode, m.provinceName⟩

def MatrixCell.context (c : MatrixCell) (r : ModuleRange) : QuoteMatrixRowContext where
  id := c.id
  groupId := c.groupId
  moduleRangeId := c.moduleRangeId
  pricingMode := c.pricingMode
  flatAmount := c.flatAmount
  baseAmount := c.baseAmount
  ratePerKg := c.ratePerKg
  baseKg := c.baseKg
  active := c.active
  minKg := r.minKg
  maxKg := r.maxKg

def SurchargeCity.context (c : SurchargeCity) : QuoteSurchargeCityContext :=
  ⟨c.id, some c.cityCode, c.cityName, c.fixedAmount, c.active⟩

def GroupMember.order (m : GroupMember) : String ×ₗ String ×ₗ Int :=
  toLex (m.provinceCode.getD "", toLex (m.provinceName.getD "", m.id))

def DestinationGroup.order (g : DestinationGroup) : Int ×ₗ Int := toLex (g.sortOrder, g.id)

def ModuleRange.order (r : ModuleRange) : Int ×ₗ Int := toLex (r.sortOrder, r.id)

def SurchargeConfig.order (c : SurchargeConfig) : String ×ₗ Int := toLex (c.provinceCode, c.id)

def SurchargeCity.order (c : SurchargeCity) : String ×ₗ Int := toLex (c.cityCode, c.id)

namespace PricingDb
variable (db : PricingDb)

/-- A cell without its range counts as one of the first. -/
def cellOrder (c : MatrixCell) : Int ×ₗ Int ×ₗ Int :=
  toLex (((db.ranges.lookup c.moduleRangeId).map (·.sortOrder)).getD 0, toLex (c.moduleRangeId, c.id))

def groupContext (g : DestinationGroup) : QuoteGroupContext where
  id := g.id
  name := g.name
  active := g.active
  members := (sortOn GroupMember.order (db.membersOf g.id)).map GroupMember.context

def matrixContext (c : MatrixCell) : Except PricingErr QuoteMatrixRowContext := do
  let r ← demandSome (db.ranges.lookup c.moduleRangeId)
    (.valueError s!"template matrix row missing module_range (row_id={c.id})")
  return c.context r

def surchargeContext (c : SurchargeConfig) : QuoteSurchargeConfigContext where
  id := c.id
  provinceCode := some c.provinceCode
  provinceName := c.provinceName
  provinceMode := c.provinceMode
  fixedAmount := c.fixedAmount
  active := c.active
  cities := (sortOn SurchargeCity.order (db.citiesOf c.id)).map SurchargeCity.context

end PricingDb

/-- `ensure_template_quotable`. -/
def ensureTemplateQuotable (t : PricingTemplate) : Except PricingErr Unit :=
  demand (t.archivedAt = none ∧ t.status ≠ .archived) (.valueError "template archived")

/-- `load_template_quote_context`. -/
def loadTemplateQuoteContext (db : PricingDb) (templateId : Int) :
    Except PricingErr QuoteCalcContext := do
  let t ← demandSome (db.templates.lookup templateId) (.valueError "template not found")
  ensureTemplateQuotable t
  let groups := sortOn DestinationGroup.order (db.groupsOf templateId)
  let matrixRows ←
    (groups.flatMap fun g => sortOn db.cellOrder (db.cellsOfGroup g.id)).mapM db.matrixContext
  return {
    templateId := t.id
    shippingProviderId := t.shippingProviderId
    shippingProviderName := (db.providers.lookup t.shippingProviderId).map (·.name)
    templateName := t.name
    status := t.status
    archivedAt := t.archivedAt
    currency := "CNY"
    billableWeightStrategy := "actual_only"
    volumeDivisor := none
    roundingMode := "ceil"
    roundingStepKg := some 1
    minBillableWeightKg := none
    groups := groups.map db.groupContext
    matrixRows := matrixRows
    surchargeConfigs :=
      (sortOn SurchargeConfig.order (db.configsOf templateId)).map db.surchargeContext }

/-! ## Billable weight -/

structure WeightRounding where
  mode : String
  stepKg : ℚ
deriving DecidableEq

/-- The rule of a context; nothing sets the divisor that would count volume. -/
structure BillableWeightRule where
  divisorCm : Option ℚ := none
  volumeDivisor : Option Int := none
  minBillableWeightKg : Option ℚ := none
  rounding : Option WeightRounding := none
deriving DecidableEq

structure WeightInfo where
  realWeightKg : ℚ
  volWeightKg : ℚ
  billableWeightKgRaw : ℚ
  billableWeightKg : ℚ
  rounding : Option WeightRounding := none
deriving DecidableEq

/-- `_context_rounding_rule`. -/
def contextRoundingRule (ctx : QuoteCalcContext) : Option WeightRounding :=
  let mode := lower (strip ctx.roundingMode)
  if mode = "" ∨ mode = "none" then none
  else
    match ctx.roundingStepKg with
    | none => none
    | some step => if step ≤ 0 then none else some ⟨mode, step⟩

/-- `_context_billable_weight_rule`. -/
def contextBillableWeightRule (ctx : QuoteCalcContext) :
    Except PricingErr (Option BillableWeightRule) := do
  let strategy := lower (strip ctx.billableWeightStrategy)
  let volumeDivisor ←
    if strategy = "max_actual_volume" then
      (demandSome ctx.volumeDivisor (.valueError
        "quote context billable_weight_strategy=max_actual_volume requires volume_divisor")).map some
    else pure none
  let rule : BillableWeightRule :=
    { volumeDivisor, minBillableWeightKg := ctx.minBillableWeightKg, rounding := contextRoundingRule ctx }
  return if rule = {} then none else some rule

/-- `_round_weight`. -/
def roundWeight (weight : ℚ) : Option WeightRounding → ℚ
  | none => weight
  | some rounding =>
      if weight < 0 then weight
      else
        let mode := lower (if rounding.mode = "" then "ceil" else rounding.mode)
        let step := if rounding.stepKg ≤ 0 then 1 else rounding.stepKg
        let q := weight / step
        if mode = "floor" then ⌊q⌋ * step
        else if mode = "round" then roundHalfEven q * step
        else ⌈q⌉ * step

/-- `_compute_billable_weight_kg`. -/
def computeBillableWeightKg (real : ℚ) (dimsCm : Option (ℚ × ℚ × ℚ))
    (rule : Option BillableWeightRule) : WeightInfo :=
  let vol : ℚ :=
    match dimsCm, rule.bind (·.divisorCm) with
    | some (length, width, height), some d => if 0 < d then length * width * height / d else 0
    | _, _ => 0
  let raw := max real vol
  { realWeightKg := real
    volWeightKg := vol
    billableWeightKgRaw := raw
    billableWeightKg := roundWeight raw (rule.bind (·.rounding)) }

/-! ## Matching -/

/-- `_s`. -/
def trimmed (v : Option String) : String := strip (v.getD "")

/-- Codes decide where both sides have one, names otherwise. -/
def placeMatch (rowCode rowName destCode destName : Option String) : Bool :=
  if trimmed rowCode ≠ "" ∧ trimmed destCode ≠ "" then trimmed rowCode = trimmed destCode
  else if trimmed rowName ≠ "" ∧ trimmed destName ≠ "" then trimmed rowName = trimmed destName
  else false

/-- `_province_match`. -/
def provinceMatch (member : QuoteGroupMemberContext) (dest : Dest) : Bool :=
  placeMatch member.provinceCode member.provinceName dest.provinceCode dest.province

/-- `_province_surcharge_match`. -/
def provinceSurchargeMatch (cfg : QuoteSurchargeConfigContext) (dest : Dest) : Bool :=
  placeMatch cfg.provinceCode cfg.provinceName dest.provinceCode dest.province

/-- `_city_match`. -/
def cityMatch (row : QuoteSurchargeCityContext) (dest : Dest) : Bool :=
  placeMatch row.cityCode row.cityName dest.cityCode dest.city

/-- The first member of a group that matches. -/
def QuoteGroupContext.hit (g : QuoteGroupContext) (dest : Dest) : Option QuoteGroupMemberContext :=
  g.members.find? fun m => provinceMatch m dest

/-- `_match_destination_group`. -/
def matchDestinationGroup (groups : List QuoteGroupContext) (dest : Dest) :
    Option (QuoteGroupContext × Option QuoteGroupMemberContext) :=
  let activeGroups := groups.filter (·.active)
  match activeGroups.findSome? fun g => (g.hit dest).map fun m => (g, some m) with
  | some found => some found
  | none => activeGroups.head?.map fun g => (g, none)

/-- The weight is in the row's half-open range. -/
def QuoteMatrixRowContext.Covers (r : QuoteMatrixRowContext) (bw : ℚ) : Prop :=
  r.minKg ≤ bw ∧ ∀ max ∈ r.maxKg, bw < max

instance (r : QuoteMatrixRowContext) (bw : ℚ) : Decidable (r.Covers bw) :=
  inferInstanceAs (Decidable (_ ∧ _))

/-- `_match_pricing_matrix`. -/
def matchPricingMatrix (rows : List QuoteMatrixRowContext) (bw : ℚ) : Option QuoteMatrixRowContext :=
  (rows.filter (·.active)).find? fun r => r.Covers bw

/-! ## Amounts -/

inductive BaseDetail
  | manualQuote (message : String) (billableWeightKg : ℚ)
  | flat (amount billableWeightKg : ℚ)
  | linearTotal (baseAmount ratePerKg billableWeightKg amount : ℚ)
deriving DecidableEq

/-- `_calc_base_amount`. -/
def calcBaseAmount (row : QuoteMatrixRowContext) (w : ℚ) : ℚ × BaseDetail :=
  let mode := lower (strip row.pricingMode)
  if mode = "manual_quote" then (0, .manualQuote "manual quote required" w)
  else if mode = "flat" then
    let amount := row.flatAmount.getD 0
    (amount, .flat amount w)
  else if mode = "linear_total" then
    let base := row.baseAmount.getD 0
    let rate := row.ratePerKg.getD 0
    let amount := base + rate * w
    (amount, .linearTotal base rate w amount)
  else (0, .manualQuote s!"unsupported pricing_mode={mode}" w)

/-- Python's `a or b` of two texts. -/
def textOr (a b : Option String) : Option String := (a.bind orNone).or b

inductive QuoteReason
  | groupMatch (group : String) (province : Option String)
  | groupFallback (group : String)
  | matrixMatch (minKg : ℚ) (maxKg : Option ℚ) (billable : ℚ)
  | manualQuoteRequired
  | surchargeProvince (province : Option String)
  | surchargeCity (province city : Option String)
  | surchargeHit (amount : ℚ)
  | total (amount : ℚ) (currency : String)
deriving DecidableEq

/-- What `_select_surcharge_from_configs` chose; `fixed` is its detail. -/
structure SurchargeSelection where
  cfg : Option QuoteSurchargeConfigContext := none
  city : Option QuoteSurchargeCityContext := none
  amount : ℚ := 0
  fixed : Option ℚ := none
  reasons : List QuoteReason := []
deriving DecidableEq

def QuoteSurchargeConfigContext.provinceLabel (cfg : QuoteSurchargeConfigContext) : Option String :=
  textOr cfg.provinceName cfg.provinceCode

/-- The city of the config that is charged: the matching one with the least
id. -/
def QuoteSurchargeConfigContext.chargedCity (cfg : QuoteSurchargeConfigContext) (dest : Dest) :
    Option QuoteSurchargeCityContext :=
  (sortOn (·.id) (cfg.cities.filter fun c => c.active ∧ cityMatch c dest)).head?

/-- The config that is charged: the matching one with the least id. -/
def chargedConfig (configs : List QuoteSurchargeConfigContext) (dest : Dest) :
    Option QuoteSurchargeConfigContext :=
  (sortOn (·.id) (configs.filter fun cfg => cfg.active ∧ provinceSurchargeMatch cfg dest)).head?

/-- `_select_surcharge_from_configs`. -/
def selectSurchargeFromConfigs (configs : List QuoteSurchargeConfigContext) (dest : Dest) :
    SurchargeSelection :=
  match chargedConfig configs dest with
  | none => {}
  | some cfg =>
      match cfg.provinceMode with
      | .province =>
          { cfg := some cfg, amount := cfg.fixedAmount, fixed := some cfg.fixedAmount
            reasons := [.surchargeProvince (textOr cfg.provinceLabel (some s!"{cfg.id}"))] }
      | .cities =>
          match cfg.chargedCity dest with
          | none => { cfg := some cfg }
          | some city =>
              { cfg := some cfg, city := some city, amount := city.fixedAmount
                fixed := some city.fixedAmount
                reasons := [.surchargeCity cfg.provinceLabel (textOr city.cityName city.cityCode)] }

/-! ## Results -/

structure HitMemberOut where
  id : Int
  value : String
  provinceCode : Option String
  provinceName : Option String
deriving DecidableEq

/-- `_to_hit_member_out_level3`. -/
def QuoteGroupMemberContext.out (m : QuoteGroupMemberContext) : HitMemberOut :=
  ⟨m.id, (textOr m.provinceName (textOr m.provinceCode (some ""))).getD "", m.provinceCode,
    m.provinceName⟩

structure QuoteGroupOut where
  id : Int
  name : String
  hitMember : Option HitMemberOut
deriving DecidableEq

structure QuoteMatrixOut where
  id : Int
  moduleRangeId : Int
  minKg : ℚ
  maxKg : Option ℚ
  pricingMode : String
  flatAmount : Option ℚ
  baseAmount : Option ℚ
  ratePerKg : Option ℚ
  baseKg : Option ℚ
deriving DecidableEq

def QuoteMatrixRowContext.out (r : QuoteMatrixRowContext) : QuoteMatrixOut :=
  ⟨r.id, r.moduleRangeId, r.minKg, r.maxKg, r.pricingMode, r.flatAmount, r.baseAmount, r.ratePerKg,
    r.baseKg⟩

/-- One surcharge of the breakdown, a city's if it names one. -/
structure SurchargeOut where
  id : Int
  name : String
  ofCity : Bool
  provinceCode : Option String
  cityCode : Option String
  provinceName : Option String
  cityName : Option String
  amount : ℚ
deriving DecidableEq

structure QuoteSummary where
  baseAmount : ℚ
  surchargeAmount : ℚ
  extraAmount : ℚ
  totalAmount : Option ℚ
deriving DecidableEq

structure QuoteBreakdown where
  baseAmount : ℚ
  base : BaseDetail
  surcharges : List SurchargeOut
  summary : QuoteSummary
deriving DecidableEq

inductive QuoteStatus
  | ok | manualRequired
deriving DecidableEq, Repr

structure Quote where
  templateId : Int
  shippingProviderId : Int
  currency : String
  status : QuoteStatus
  reasons : List QuoteReason
  dest : Dest
  weight : WeightInfo
  destinationGroup : QuoteGroupOut
  pricingMatrix : QuoteMatrixOut
  breakdown : QuoteBreakdown
  totalAmount : Option ℚ
deriving DecidableEq

/-- The entry of the breakdown for a surcharge that was charged. -/
def SurchargeSelection.out (s : SurchargeSelection) : List SurchargeOut :=
  match s.cfg, s.fixed, s.city with
  | some cfg, some _, some city =>
      [{ id := city.id
         name := cfg.provinceLabel.getD "None" ++ "-" ++
           (textOr city.cityName city.cityCode).getD "None"
         ofCity := true, provinceCode := cfg.provinceCode, cityCode := city.cityCode
         provinceName := cfg.provinceName, cityName := city.cityName, amount := s.amount }]
  | some cfg, some _, none =>
      [{ id := cfg.id, name := (textOr cfg.provinceLabel (some s!"{cfg.id}")).getD "None"
         ofCity := false, provinceCode := cfg.provinceCode, cityCode := none
         provinceName := cfg.provinceName, cityName := none, amount := s.amount }]
  | _, _, _ => []

/-- The price of the chosen row, with what the destination is charged. -/
def quoteOf (ctx : QuoteCalcContext) (dest : Dest) (weight : WeightInfo)
    (group : QuoteGroupContext) (hit : Option QuoteGroupMemberContext)
    (row : QuoteMatrixRowContext) : Quote :=
  let bw := weight.billableWeightKg
  let (base, detail) := calcBaseAmount row bw
  let matched : List QuoteReason :=
    [match hit with
      | some m => .groupMatch group.name (textOr m.provinceName m.provinceCode)
      | none => .groupFallback group.name,
     .matrixMatch row.minKg row.maxKg bw]
  let result (status : QuoteStatus) (reasons : List QuoteReason) (breakdown : QuoteBreakdown) : Quote :=
    { templateId := ctx.templateId
      shippingProviderId := ctx.shippingProviderId
      currency := ctx.currency
      status := status
      reasons := reasons
      dest := dest
      weight := { weight with rounding := contextRoundingRule ctx }
      destinationGroup := ⟨group.id, group.name, hit.map (·.out)⟩
      pricingMatrix := row.out
      breakdown := breakdown
      totalAmount := breakdown.summary.totalAmount }
  match detail with
  | .manualQuote _ _ =>
      result .manualRequired (matched ++ [.manualQuoteRequired])
        ⟨base, detail, [], ⟨base, 0, 0, none⟩⟩
  | _ =>
      let surcharge := selectSurchargeFromConfigs ctx.surchargeConfigs dest
      let sum := if surcharge.fixed.isSome then surcharge.amount else 0
      let total := base + sum
      let hitReasons : List QuoteReason :=
        if surcharge.fixed.isSome then [.surchargeHit surcharge.amount] else []
      result .ok (matched ++ surcharge.reasons ++ hitReasons ++ [.total total ctx.currency])
        ⟨base, detail, surcharge.out, ⟨base, sum, sum, some total⟩⟩

/-- `calc_quote_level3`. -/
def calcQuoteLevel3 (ctx : QuoteCalcContext) (dest : Dest) (realWeightKg : ℚ)
    (dimsCm : Option (ℚ × ℚ × ℚ)) : Except PricingErr Quote := do
  let rule ← contextBillableWeightRule ctx
  let weight := computeBillableWeightKg realWeightKg dimsCm rule
  let (group, hit) ← demandSome (matchDestinationGroup ctx.groups dest)
    (.valueError "no matching destination group")
  let groupMatrix := ctx.matrixRows.filter fun r => r.groupId = group.id ∧ r.active
  let row ← demandSome (matchPricingMatrix groupMatrix weight.billableWeightKg)
    (.valueError "no matching pricing matrix")
  return quoteOf ctx dest weight group hit row

/-- `calc_quote`. -/
def calcQuote (db : PricingDb) (templateId : Int) (dest : Dest) (realWeightKg : ℚ)
    (dimsCm : Option (ℚ × ℚ × ℚ)) : Except PricingErr Quote := do
  let ctx ← loadTemplateQuoteContext db templateId
  calcQuoteLevel3 ctx dest realWeightKg dimsCm

end WmsDu
