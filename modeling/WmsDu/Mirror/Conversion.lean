import Mathlib.Data.Prod.Lex
import Mathlib.Order.WithBot
import WmsDu.Data.Sorting
import WmsDu.Mirror.Schema
import WmsDu.Oms.Resolver
import WmsDu.Shared.Fallible

/-!
# Converting a mirror

`fulfillment_conversion_service` expands the lines of a mirror in one query,
a chain of left joins from the lines to the components of their FSKUs, and
folds its rows into a map of items. Problems of a line are collected, a
quantity that is not a positive integer raises at once.
-/

namespace WmsDu

/-! ## The query -/

/-- The right side of a `LEFT JOIN`: the rows that match, or nulls. -/
def orNull {α : Type} (rows : List α) : List (Option α) :=
  match rows with
  | [] => [none]
  | r :: rs => (r :: rs).map some

theorem mem_orNull {α : Type} {rows : List α} {o : Option α} :
    o ∈ orNull rows ↔ (o = none ∧ rows = []) ∨ ∃ r ∈ rows, o = some r := by
  cases rows with
  | nil => simp [orNull]
  | cons r rs => simp [orNull, eq_comm]

/-- A row of the query. -/
structure LineComponentRow where
  line : MirrorLineRow
  binding : Option MerchantCodeBinding
  fsku : Option Fsku
  component : Option FskuComponent

/-- The bindings of a line: the code is compared as the line has it. -/
def bindingsOf (db : OmsDb) (platform storeCode : String) (l : MirrorLineRow) :
    List MerchantCodeBinding :=
  db.merchantCodeBindings.filter fun b =>
    b.platform = platform ∧ b.storeCode = storeCode ∧ some b.merchantCode = l.merchantSku

/-- The rows of the query for one line. -/
def lineComponentRows (db : OmsDb) (platform storeCode : String) (l : MirrorLineRow) :
    List LineComponentRow :=
  (orNull (bindingsOf db platform storeCode l)).flatMap fun binding =>
    (orNull (binding.elim [] fun b => db.fskus.rows.filter fun f => f.id = b.fskuId)).flatMap
      fun fsku =>
        (orNull (fsku.elim [] fun f => db.fskuComponents.rows.filter fun c =>
          c.fskuId = f.id)).map fun component => ⟨l, binding, fsku, component⟩

/-- `ORDER BY l.id ASC, c.id ASC`, nulls last. -/
def LineComponentRow.key (r : LineComponentRow) : Int ×ₗ (WithTop Int) :=
  toLex (r.line.id, r.component.elim ⊤ fun c => (c.id : WithTop Int))

/-- `_load_line_component_rows`, for a mirror that is there. -/
def loadLineComponentRows (db : OmsDb) (mirrors : MirrorDb) (mirror : OrderMirror) :
    List LineComponentRow :=
  sortOn LineComponentRow.key ((mirrors.linesOf mirror.platform mirror.id).flatMap
    (lineComponentRows db (normPlatform mirror.platform.text) mirror.collectorStoreCode))

/-! ## The fold -/

/-- `FulfillmentConversionValidationError`. -/
inductive ConversionErr
  | noLines
  | notPositive (label : String) (value : ℚ)
  | notIntegral (label : String) (value : ℚ)
  /-- The first ten problems, joined. -/
  | problems (errors : List String)
  | nothingToConvert
deriving DecidableEq, Repr

/-- An entry of `resolved`. -/
structure ConvertedRow where
  lineId : Int
  collectorLineId : Int
  merchantCode : String
  fskuId : Int
  fskuCode : Option String
  componentItemId : Int
  qty : Int
  title : Option String
deriving DecidableEq, Repr

structure Conversion where
  itemQtyMap : Tally Int := .empty
  resolved : List ConvertedRow := []
  errors : List String := []
  seenLines : List Int := []

/-- `_as_positive_integral_decimal`. -/
def asPositiveIntegralDecimal (value : ℚ) (label : String) : Except ConversionErr Int :=
  if value ≤ 0 then .error (.notPositive label value)
  else if value ≠ ⌊value⌋ then .error (.notIntegral label value)
  else .ok ⌊value⌋

/-- The quantity of a component. -/
def FskuComponent.qty (c : FskuComponent) : ℚ := c.qtyNum / c.qtyDen

/-- A problem of a line, told once. -/
def Conversion.problem (st : Conversion) (lineId : Int) (error : String) : Conversion :=
  if lineId ∈ st.seenLines then st
  else { st with errors := st.errors ++ [error], seenLines := st.seenLines ++ [lineId] }

/-- One round of the loop. -/
def convertRow (st : Conversion) (r : LineComponentRow) : Except ConversionErr Conversion :=
  let lineId := r.line.id
  match r.line.merchantSku.bind fun sku => orNone (strip sku) with
  | none => .ok (st.problem lineId s!"line_id={lineId} 缺少 merchant_code")
  | some code =>
      match r.binding with
      | none => .ok (st.problem lineId s!"line_id={lineId} merchant_code={code} 未绑定 FSKU")
      | some b =>
          if r.fsku.map Fsku.status ≠ some .published then
            .ok (st.problem lineId
              s!"line_id={lineId} merchant_code={code} 绑定的 FSKU 不是 published")
          else
            match r.component with
            | none =>
                .ok (st.problem lineId
                  s!"line_id={lineId} merchant_code={code} 对应 FSKU 没有 components")
            | some c => do
                let lineQty ←
                  asPositiveIntegralDecimal r.line.quantity s!"line_id={lineId}.quantity"
                let componentQty ←
                  asPositiveIntegralDecimal c.qty s!"line_id={lineId}.component_qty"
                -- a product of integers, so the check that it is one passes
                let qty := lineQty * componentQty
                pure { st with
                  itemQtyMap := st.itemQtyMap.add c.itemId qty
                  resolved := st.resolved ++ [{
                    lineId := lineId, collectorLineId := r.line.collectorLineId
                    merchantCode := code, fskuId := b.fskuId, fskuCode := r.fsku.map Fsku.code
                    componentItemId := c.itemId, qty := qty, title := r.line.title }] }

/-- `_build_item_qty_map`: the map, the resolved rows and the number of lines. -/
def buildItemQtyMap (rows : List LineComponentRow) :
    Except ConversionErr (Tally Int × List ConvertedRow × Nat) := do
  demand (rows ≠ []) .noLines
  let st ← rows.foldlM convertRow {}
  demand (st.errors = []) (.problems (st.errors.take 10))
  demand (st.itemQtyMap.rows ≠ []) .nothingToConvert
  return (st.itemQtyMap, st.resolved, (rows.map fun r => r.line.id).dedup.length)

/-! ## What the fold takes -/

/-- A quantity the conversion accepts. -/
def IsPieces (q : ℚ) : Prop := 0 < q ∧ q = ⌊q⌋

instance decidableIsPieces (q : ℚ) : Decidable (IsPieces q) := inferInstanceAs (Decidable (_ ∧ _))

theorem asPositiveIntegralDecimal_ok {q : ℚ} {label : String} {n : Int} :
    asPositiveIntegralDecimal q label = .ok n ↔ IsPieces q ∧ n = ⌊q⌋ := by
  unfold asPositiveIntegralDecimal IsPieces
  split
  · rename_i h
    exact iff_of_false nofun fun hq => absurd hq.1.1 (not_lt.mpr h)
  · rename_i h
    split
    · rename_i hne
      exact iff_of_false nofun fun hq => hne hq.1.2
    · rename_i heq
      rw [not_not] at heq
      rw [Except.ok.injEq]
      exact ⟨fun hn => ⟨⟨not_le.mp h, heq⟩, hn.symm⟩, fun hn => hn.2.symm⟩

theorem IsPieces.floor_pos {q : ℚ} (h : IsPieces q) : 0 < ⌊q⌋ := by
  have hpos := h.1
  rw [h.2] at hpos
  exact_mod_cast hpos

/-- A row that is counted, with its component. -/
structure LineComponentRow.Counts (r : LineComponentRow) (c : FskuComponent) : Prop where
  component : r.component = some c
  code : (r.line.merchantSku.bind fun sku => orNone (strip sku)).isSome
  bound : r.binding.isSome
  published : r.fsku.map Fsku.status = some .published
  line : IsPieces r.line.quantity
  pieces : IsPieces c.qty

/-- What a row adds to an item. -/
def LineComponentRow.adds (itemId : Int) (r : LineComponentRow) : Int :=
  match r.component with
  | some c => if c.itemId = itemId then ⌊r.line.quantity⌋ * ⌊c.qty⌋ else 0
  | none => 0

/-- A line with a problem has it told. -/
def Conversion.Told (st : Conversion) : Prop := st.seenLines ≠ [] → st.errors ≠ []

theorem Conversion.Told.problem {st : Conversion} (h : st.Told) (lineId : Int) (error : String) :
    (st.problem lineId error).Told ∧ (st.problem lineId error).errors ≠ [] := by
  unfold Conversion.problem
  split
  · rename_i hseen
    exact ⟨h, h (List.ne_nil_of_mem hseen)⟩
  · exact ⟨fun _ => by simp, by simp⟩

section Round
variable {st st' : Conversion} {r : LineComponentRow}

/-- A row that counts is added. -/
theorem convertRow_counts {c : FskuComponent} (h : r.Counts c) (st : Conversion) :
    ∃ st', convertRow st r = .ok st' ∧
      st'.itemQtyMap = st.itemQtyMap.add c.itemId (⌊r.line.quantity⌋ * ⌊c.qty⌋) ∧
      st'.errors = st.errors ∧ st'.seenLines = st.seenLines := by
  obtain ⟨code, hcode⟩ := Option.isSome_iff_exists.mp h.code
  obtain ⟨b, hb⟩ := Option.isSome_iff_exists.mp h.bound
  let st' : Conversion :=
    { st with
      itemQtyMap := st.itemQtyMap.add c.itemId (⌊r.line.quantity⌋ * ⌊c.qty⌋)
      resolved := st.resolved ++ [{
        lineId := r.line.id, collectorLineId := r.line.collectorLineId
        merchantCode := code, fskuId := b.fskuId, fskuCode := r.fsku.map Fsku.code
        componentItemId := c.itemId, qty := ⌊r.line.quantity⌋ * ⌊c.qty⌋
        title := r.line.title }] }
  refine ⟨st', ?_, rfl, rfl, rfl⟩
  unfold convertRow
  simp only [hcode, hb, h.published, h.component, ne_eq, not_true_eq_false, if_false]
  rw [asPositiveIntegralDecimal_ok.mpr ⟨h.line, rfl⟩, asPositiveIntegralDecimal_ok.mpr ⟨h.pieces, rfl⟩]
  rfl

/-- Any other row that passes is a problem of its line. -/
theorem convertRow_cases (h : convertRow st r = .ok st') :
    (∃ c, r.Counts c) ∨ ∃ error, st' = st.problem r.line.id error := by
  unfold convertRow at h
  dsimp only at h
  split at h
  · exact .inr ⟨_, (Except.ok.inj h).symm⟩
  rename_i code hcode
  split at h
  · exact .inr ⟨_, (Except.ok.inj h).symm⟩
  rename_i b hb
  split at h
  · exact .inr ⟨_, (Except.ok.inj h).symm⟩
  rename_i hpublished
  split at h
  · exact .inr ⟨_, (Except.ok.inj h).symm⟩
  rename_i c hc
  obtain ⟨lineQty, hline, h⟩ := bind_eq_ok.mp h
  obtain ⟨componentQty, hpieces, -⟩ := bind_eq_ok.mp h
  exact .inl ⟨c, hc, by rw [hcode]; rfl, by rw [hb]; rfl, not_not.mp hpublished,
    (asPositiveIntegralDecimal_ok.mp hline).1, (asPositiveIntegralDecimal_ok.mp hpieces).1⟩

end Round

/-- Rows that all count are folded into the sum of what they add. -/
theorem foldlM_counts {rows : List LineComponentRow} (h : ∀ r ∈ rows, ∃ c, r.Counts c)
    (st : Conversion) (hpos : AllPos st.itemQtyMap) :
    ∃ st', rows.foldlM convertRow st = .ok st' ∧ st'.errors = st.errors ∧
      AllPos st'.itemQtyMap ∧
      ∀ itemId, st'.itemQtyMap.get itemId =
        st.itemQtyMap.get itemId + (rows.map (LineComponentRow.adds itemId)).sum := by
  induction rows generalizing st with
  | nil => exact ⟨st, rfl, rfl, hpos, by simp⟩
  | cons r rows ih =>
      obtain ⟨c, hc⟩ := h r List.mem_cons_self
      obtain ⟨st₁, hst₁, hmap, herrors, -⟩ := convertRow_counts hc st
      have hqty : 0 < ⌊r.line.quantity⌋ * ⌊c.qty⌋ :=
        Int.mul_pos hc.line.floor_pos hc.pieces.floor_pos
      obtain ⟨st', hst', herrors', hpos', hget⟩ := ih
        (fun r hr => h r (List.mem_cons_of_mem _ hr)) st₁ (by rw [hmap]; exact hpos.add hqty)
      refine ⟨st', ?_, herrors'.trans herrors, hpos', fun itemId => ?_⟩
      · rw [List.foldlM_cons, hst₁]
        exact hst'
      · rw [hget, hmap, Tally.get_add, List.map_cons, List.sum_cons, LineComponentRow.adds,
          hc.component]
        dsimp only
        split <;> ring

/-- A fold that told no problem counted every row. -/
theorem counts_of_foldlM {rows : List LineComponentRow} {st st' : Conversion} (htold : st.Told)
    (h : rows.foldlM convertRow st = .ok st') :
    st'.Told ∧ (st'.errors = [] → st.errors = [] ∧ ∀ r ∈ rows, ∃ c, r.Counts c) := by
  induction rows generalizing st with
  | nil =>
      obtain rfl := Except.ok.inj h
      exact ⟨htold, fun herrors => ⟨herrors, fun _ hr => absurd hr List.not_mem_nil⟩⟩
  | cons r rows ih =>
      rw [List.foldlM_cons] at h
      obtain ⟨st₁, hst₁, hrest⟩ := bind_eq_ok.mp h
      rcases convertRow_cases hst₁ with ⟨c, hc⟩ | ⟨error, rfl⟩
      · obtain ⟨st₂, hst₂, -, herrors, hseen⟩ := convertRow_counts hc st
        obtain rfl := Except.ok.inj (hst₂.symm.trans hst₁)
        have htold₁ : st₂.Told := by
          unfold Conversion.Told
          rw [herrors, hseen]
          exact htold
        obtain ⟨htold', hall⟩ := ih htold₁ hrest
        refine ⟨htold', fun hnone => ?_⟩
        obtain ⟨hbefore, hrows⟩ := hall hnone
        exact ⟨herrors ▸ hbefore, List.forall_mem_cons.mpr ⟨⟨c, hc⟩, hrows⟩⟩
      · obtain ⟨htold₁, hne⟩ := htold.problem r.line.id error
        obtain ⟨htold', hall⟩ := ih htold₁ hrest
        exact ⟨htold', fun hnone => absurd (hall hnone).1 hne⟩

/-- Rows that count add up to nothing negative. -/
theorem sum_adds_nonneg {rows : List LineComponentRow} (h : ∀ r ∈ rows, ∃ c, r.Counts c)
    (itemId : Int) : 0 ≤ (rows.map (LineComponentRow.adds itemId)).sum := by
  induction rows with
  | nil => exact le_rfl
  | cons r rows ih =>
      obtain ⟨c, hc⟩ := h r List.mem_cons_self
      have hqty : 0 < ⌊r.line.quantity⌋ * ⌊c.qty⌋ :=
        Int.mul_pos hc.line.floor_pos hc.pieces.floor_pos
      have hrest := ih fun r hr => h r (List.mem_cons_of_mem _ hr)
      rw [List.map_cons, List.sum_cons, LineComponentRow.adds, hc.component]
      dsimp only
      split <;> omega

/-- **The conversion of rows.** They are accepted exactly if there are some
and all of them count. -/
theorem buildItemQtyMap_ok {rows : List LineComponentRow} :
    (∃ out, buildItemQtyMap rows = .ok out) ↔ rows ≠ [] ∧ ∀ r ∈ rows, ∃ c, r.Counts c := by
  constructor
  · rintro ⟨out, h⟩
    unfold buildItemQtyMap at h
    obtain ⟨_, hrows, h⟩ := bind_eq_ok.mp h
    obtain ⟨st, hst, h⟩ := bind_eq_ok.mp h
    obtain ⟨_, herrors, -⟩ := bind_eq_ok.mp h
    have htold : Conversion.Told {} := fun h => absurd rfl h
    exact ⟨demand_eq_ok.mp hrows,
      ((counts_of_foldlM htold hst).2 (demand_eq_ok.mp herrors)).2⟩
  · rintro ⟨hrows, hcounts⟩
    obtain ⟨st, hst, herrors, hpos, hget⟩ := foldlM_counts hcounts {} (fun _ he => nomatch he)
    have hmap : st.itemQtyMap.rows ≠ [] := by
      obtain ⟨r, rest, rfl⟩ := List.exists_cons_of_ne_nil hrows
      obtain ⟨c, hc⟩ := hcounts r List.mem_cons_self
      have hqty : 0 < ⌊r.line.quantity⌋ * ⌊c.qty⌋ :=
        Int.mul_pos hc.line.floor_pos hc.pieces.floor_pos
      have hrest := sum_adds_nonneg (fun r hr => hcounts r (List.mem_cons_of_mem _ hr)) c.itemId
      have hfirst : r.adds c.itemId = ⌊r.line.quantity⌋ * ⌊c.qty⌋ := by
        simp only [LineComponentRow.adds, hc.component, if_true]
      have hitem := hget c.itemId
      rw [List.map_cons, List.sum_cons, hfirst,
        show ({} : Conversion).itemQtyMap.get c.itemId = 0 from rfl] at hitem
      intro hnil
      rw [Tally.get, hnil, sumOver_nil] at hitem
      omega
    refine ⟨(st.itemQtyMap, st.resolved, (rows.map fun r => r.line.id).dedup.length), ?_⟩
    unfold buildItemQtyMap
    refine bind_eq_ok.mpr ⟨(), demand_eq_ok.mpr hrows, bind_eq_ok.mpr ⟨st, hst, ?_⟩⟩
    refine bind_eq_ok.mpr ⟨(), demand_eq_ok.mpr herrors, ?_⟩
    exact bind_eq_ok.mpr ⟨(), demand_eq_ok.mpr hmap, rfl⟩

/-- The map of accepted rows is the sum of what they add. -/
theorem buildItemQtyMap_map {rows : List LineComponentRow} {map : Tally Int}
    {resolved : List ConvertedRow} {n : Nat} (h : buildItemQtyMap rows = .ok (map, resolved, n)) :
    AllPos map ∧ ∀ itemId, map.get itemId = (rows.map (LineComponentRow.adds itemId)).sum := by
  obtain ⟨-, hcounts⟩ := buildItemQtyMap_ok.mp ⟨_, h⟩
  obtain ⟨st, hst, -, hpos, hget⟩ := foldlM_counts hcounts {} (fun _ he => nomatch he)
  unfold buildItemQtyMap at h
  obtain ⟨-, -, h⟩ := bind_eq_ok.mp h
  obtain ⟨st', hst', h⟩ := bind_eq_ok.mp h
  obtain ⟨-, -, h⟩ := bind_eq_ok.mp h
  obtain ⟨-, -, h⟩ := bind_eq_ok.mp h
  obtain rfl := Except.ok.inj (hst.symm.trans hst')
  obtain ⟨rfl, -⟩ := Prod.mk.inj (Except.ok.inj h)
  refine ⟨hpos, fun itemId => ?_⟩
  rw [hget, show ({} : Conversion).itemQtyMap.get itemId = 0 from rfl, zero_add]

end WmsDu
