import Mathlib
import WmsDu.Procurement.Amounts
import WmsDu.System.Purchases
import WmsDu.System.Sample

/-!
# The amounts of a purchase order

The lines and the completion rows of an order always amount to the same: both
start from the stored prices. The total in the head starts from the prices of
the payload, and agrees with them as long as the roundings lose less than half
a cent together.
-/

namespace WmsDu

open PricedDb

variable {db db' : PricedDb} {poId : Int} {newLineId : Int → Int} {payload : PricedOrderIn}

/-- Head, lines and completion rows of an order amount to the same. -/
def AmountsAgree (db : PricedDb) (poId : Int) : Prop :=
  ∃ total, db.totalAmount poId = some total ∧ total = db.linesAmount poId ∧
    total = db.plannedAmount poId

/-! ## What a payload amounts to -/

/-- The base quantity a line orders. -/
def orderedBase (db : Db) (raw : PurchaseOrderUpdateLineIn) : Int :=
  raw.qtyInput * (uomOfItem db raw.itemId raw.uomId).elim 0 ItemUom.ratioToBase

/-- Price and base quantity of each line. -/
def basePrices (db : Db) (payload : PricedOrderIn) : List (ℚ × Int) :=
  payload.lines.map fun raw =>
    (raw.supplyPrice.getD 0, orderedBase db raw.toPurchaseOrderUpdateLineIn)

/-- The total as `Decimal` computes it. -/
def decimalTotal (l : List (ℚ × Int)) : ℚ :=
  l.foldl (fun total x => decimalAdd total (decimalMul x.1 x.2)) 0

/-- What the prices lose when they are stored, for all that is ordered. -/
def priceRounding (l : List (ℚ × Int)) : ℚ :=
  (l.map fun x => (x.1 - numericColumn 2 x.1) * x.2).sum

/-- What the total loses to the 28 digits of `Decimal`. -/
def decimalRounding (l : List (ℚ × Int)) : ℚ := decimalTotal l - (l.map fun x => x.1 * (x.2 : ℚ)).sum

/-- The roundings together stay within half a cent. -/
def RoundingsCancel (l : List (ℚ × Int)) : Prop :=
  -(1 / 200) ≤ priceRounding l + decimalRounding l ∧ priceRounding l + decimalRounding l < 1 / 200

/-- The total of the stored prices. -/
def storedTotal (l : List (ℚ × Int)) : ℚ := (l.map fun x => numericColumn 2 x.1 * x.2).sum

theorem roundings_eq (l : List (ℚ × Int)) :
    priceRounding l + decimalRounding l = decimalTotal l - storedTotal l := by
  have hsplit : priceRounding l = (l.map fun x => x.1 * (x.2 : ℚ)).sum - storedTotal l := by
    unfold priceRounding storedTotal
    induction l with
    | nil => simp
    | cons x l ih =>
        simp only [List.map_cons, List.sum_cons, ih]
        ring
  rw [hsplit, decimalRounding]
  ring

theorem decimalTotal_nonneg {l : List (ℚ × Int)} (h : ∀ x ∈ l, 0 ≤ x.1 ∧ 0 ≤ x.2) :
    0 ≤ decimalTotal l := by
  have hfold : ∀ (l : List (ℚ × Int)) (total : ℚ), (∀ x ∈ l, 0 ≤ x.1 ∧ 0 ≤ x.2) → 0 ≤ total →
      0 ≤ l.foldl (fun total x => decimalAdd total (decimalMul x.1 x.2)) total := by
    intro l
    induction l with
    | nil => exact fun _ _ htotal => htotal
    | cons x l ih =>
        intro total h htotal
        obtain ⟨⟨hp, hq⟩, hl⟩ := List.forall_mem_cons.mp h
        refine ih _ hl (roundSignificant_nonneg (add_nonneg htotal (roundSignificant_nonneg ?_)))
        exact mul_nonneg hp (by exact_mod_cast hq)
  exact hfold l 0 h (le_refl 0)

theorem isCents_storedTotal (l : List (ℚ × Int)) : IsCents (storedTotal l) := by
  refine isCents_sum fun q hq => ?_
  obtain ⟨x, -, rfl⟩ := List.mem_map.mp hq
  exact (isCents_numericColumn x.1).mul_int x.2

/-- The total is stored as the stored prices amount to, exactly when the
roundings cancel. -/
theorem numericColumn_decimalTotal {l : List (ℚ × Int)} (h : ∀ x ∈ l, 0 ≤ x.1 ∧ 0 ≤ x.2) :
    numericColumn 2 (decimalTotal l) = storedTotal l ↔ RoundingsCancel l := by
  rw [numericColumn_eq_iff (decimalTotal_nonneg h) (isCents_storedTotal l), RoundingsCancel,
    roundings_eq]

/-! ## The loop -/

/-- What the loop made of the payload: the total, and lines with the payload's
prices and quantities, none of them zero. -/
theorem normalizePriced_spec
    {normalizeLine : List Int → PurchaseOrderUpdateLineIn → Except Err PurchaseLineValues}
    {qty : PurchaseOrderUpdateLineIn → Int}
    (hline : ∀ seen raw v, normalizeLine seen raw = .ok v →
      v.qtyOrderedBase = qty raw ∧ 0 < v.qtyOrderedBase)
    {seen : List Int} {total total' : ℚ} {raws : List PricedLineIn} {vs : List PricedLineValues}
    (h : normalizePriced normalizeLine seen total raws = .ok (total', vs)) :
    total' = (raws.map fun raw => (raw.supplyPrice.getD 0,
        qty raw.toPurchaseOrderUpdateLineIn)).foldl
          (fun total x => decimalAdd total (decimalMul x.1 x.2)) total ∧
      (vs.map fun v => (v.supplyPrice.getD 0, v.qtyOrderedBase)) = (raws.map fun raw =>
        (raw.supplyPrice.getD 0, qty raw.toPurchaseOrderUpdateLineIn)) ∧
      ∀ v ∈ vs, 0 < v.qtyOrderedBase := by
  induction raws generalizing seen total vs with
  | nil =>
      cases h
      exact ⟨rfl, rfl, by simp⟩
  | cons raw rest ih =>
      simp only [normalizePriced, bind_eq_ok, pure_eq_ok] at h
      obtain ⟨v, hv, ⟨total₁, others⟩, hothers, hres⟩ := h
      cases hres
      obtain ⟨htotal, hvs, hpos⟩ := ih hothers
      obtain ⟨hqty, hv⟩ := hline _ _ _ hv
      have hterm : lineTotal raw.supplyPrice v.qtyOrderedBase =
          decimalMul (raw.supplyPrice.getD 0) (qty raw.toPurchaseOrderUpdateLineIn) := by
        rw [← hqty]
        cases raw.supplyPrice with
        | none => simp [lineTotal, decimalMul, roundSignificant]
        | some p => rfl
      rw [List.map_cons, List.map_cons, List.foldl_cons, htotal, hterm, hvs, hqty]
      exact ⟨rfl, rfl, List.forall_mem_cons.mpr ⟨hv, hpos⟩⟩

theorem requireItemUomRatioToBase_ok {db : Db} {itemId uomId ratio : Int} {name : String}
    (h : requireItemUomRatioToBase db itemId uomId = .ok (ratio, name)) :
    (uomOfItem db itemId uomId).elim 0 ItemUom.ratioToBase = ratio := by
  simp only [requireItemUomRatioToBase, bind_eq_ok, pure_eq_ok, demandSome_eq_ok] at h
  obtain ⟨u, hu, _, -, _, -, hres⟩ := h
  cases hres
  rw [hu]
  rfl

theorem normalizeUpdateLine_qty {base : PurchaseDb} {supplierId : Int} (seen : List Int)
    (raw : PurchaseOrderUpdateLineIn) (v : PurchaseLineValues)
    (h : normalizeUpdateLine base supplierId seen raw = .ok v) :
    v.qtyOrderedBase = orderedBase base.wms raw ∧ 0 < v.qtyOrderedBase := by
  simp only [normalizeUpdateLine, bind_eq_ok, demand_eq_ok, pure_eq_ok] at h
  obtain ⟨_, -, _, -, it, -, _, -, ⟨ratio, name⟩, hratio, _, hpos, rfl⟩ := h
  exact ⟨by rw [orderedBase, requireItemUomRatioToBase_ok hratio], hpos⟩

theorem normalizeCreateLine_qty {base : PurchaseDb} {supplierId : Int} (_ : List Int)
    (raw : PurchaseOrderUpdateLineIn) (v : PurchaseLineValues)
    (h : normalizeCreateLine base supplierId raw = .ok v) :
    v.qtyOrderedBase = orderedBase base.wms raw ∧ 0 < v.qtyOrderedBase := by
  simp only [normalizeCreateLine, bind_eq_ok, demand_eq_ok, pure_eq_ok] at h
  obtain ⟨it, -, _, -, ⟨ratio, name⟩, hratio, _, hpos, rfl⟩ := h
  exact ⟨by rw [orderedBase, requireItemUomRatioToBase_ok hratio], hpos⟩

/-! ## The rows -/

/-- The row of a line. -/
def PurchaseLineValues.row (v : PurchaseLineValues) (newLineId : Int → Int) (poId : Int) :
    PurchaseOrderLine :=
  { v with id := newLineId v.lineNo, poId := poId }

/-- The new rows, in the order of the lines. -/
theorem rows_insertLines {base base' : PurchaseDb} {vs : List PurchaseLineValues}
    (h : base.insertLines poId newLineId vs = .ok base') :
    base'.purchaseOrderLines.rows =
      base.purchaseOrderLines.rows ++ vs.map fun v => v.row newLineId poId := by
  induction vs generalizing base with
  | nil =>
      cases h
      simp
  | cons v vs ih =>
      simp only [PurchaseDb.insertLines, bind_eq_ok] at h
      obtain ⟨db₁, hline, hrest⟩ := h
      obtain ⟨hnew, rfl⟩ := PurchaseDb.insertLine_ok hline
      rw [ih hrest, Table.rows_insert_new hnew.new, List.map_cons, List.append_assoc]
      rfl

/-- Of rows with distinct keys the one found by its key. -/
theorem find?_key {α : Type} {key : α → Int} {l : List α} (hnd : (l.map key).Nodup) {a : α}
    (ha : a ∈ l) : (l.find? fun b => key b = key a) = some a := by
  cases hfind : l.find? fun b => key b = key a with
  | none =>
      rw [List.find?_eq_none] at hfind
      exact absurd (decide_eq_true rfl) (hfind a ha)
  | some b =>
      have hkey : key b = key a := by simpa using List.find?_some hfind
      rw [List.inj_on_of_nodup_map hnd (List.mem_of_find?_eq_some hfind) ha hkey]

/-- New lines of an order that has none: they are its lines, at the stored
prices. -/
theorem insertLines_amount {vs : List PricedLineValues}
    (h : db.insertLines poId newLineId vs = .ok db')
    (hnone : ∀ l ∈ db.base.purchaseOrderLines.rows, l.poId ≠ poId) :
    db'.base.wms = db.base.wms ∧ db'.totalAmount = db.totalAmount ∧
      (∀ l ∈ db'.orderLines poId, db.base.wms.itemUoms.HasKey l.purchaseUomIdSnapshot ∧
        IsCents ((db'.supplyPrice l.id).getD 0)) ∧
      db'.linesAmount poId = storedTotal (vs.map fun v => (v.supplyPrice.getD 0, v.qtyOrderedBase)) := by
  simp only [PricedDb.insertLines, bind_eq_ok, pure_eq_ok] at h
  obtain ⟨base, hbase, rfl⟩ := h
  obtain ⟨hdb, -, hback⟩ := PurchaseDb.insertLines_ok hbase
  have hrows := rows_insertLines hbase
  rw [List.map_map] at hrows
  have hids : (vs.map fun v => newLineId v.lineNo).Nodup := by
    have hnd := base.purchaseOrderLines.nodup
    rw [hrows, List.map_append, List.map_map] at hnd
    exact (List.nodup_append.mp hnd).2.1
  -- the lines of the order are the new ones
  have hlines : base.purchaseOrderLines.rows.filter (fun l => l.poId = poId) =
      vs.map fun v => v.toPurchaseLineValues.row newLineId poId := by
    rw [hrows, List.filter_append]
    have hold : db.base.purchaseOrderLines.rows.filter (fun l => l.poId = poId) = [] :=
      List.filter_eq_nil_iff.mpr fun l hl hp => hnone l hl (by simpa using hp)
    rw [hold, List.nil_append, List.filter_eq_self.mpr]
    · rfl
    · intro l hl
      obtain ⟨v, -, rfl⟩ := List.mem_map.mp hl
      exact decide_eq_true rfl
  have hprice : ∀ v ∈ vs, priceAfter newLineId vs db.supplyPrice (newLineId v.lineNo) =
      v.supplyPrice.map (numericColumn 2) := by
    intro v hv
    rw [priceAfter, find?_key hids hv]
  have hzero : numericColumn 2 0 = 0 := IsCents.numericColumn_eq ⟨0, by simp⟩
  have hstored (p : Option ℚ) : (p.map (numericColumn 2)).getD 0 = numericColumn 2 (p.getD 0) := by
    cases p with
    | none => exact hzero.symm
    | some p => rfl
  have hwms : base.wms = db.base.wms := (congrArg PurchaseDb.wms hdb :)
  refine ⟨hwms, rfl, ?_, ?_⟩
  · intro l hl
    have hl' : l ∈ base.purchaseOrderLines.rows.filter fun l => l.poId = poId := hl
    obtain ⟨hmem, hpo⟩ := List.mem_filter.mp hl'
    rw [hlines] at hl'
    obtain ⟨v, hv, rfl⟩ := List.mem_map.mp hl'
    refine ⟨?_, ?_⟩
    · rcases hback _ hmem with hold | hnew
      · exact absurd (by simpa using hpo) (hnone _ hold)
      · exact hnew.uom
    · show IsCents ((priceAfter newLineId vs db.supplyPrice (newLineId v.lineNo)).getD 0)
      rw [hprice v hv, hstored]
      exact isCents_numericColumn _
  · show ((base.purchaseOrderLines.rows.filter fun l => l.poId = poId).map _).sum = _
    rw [hlines, storedTotal, List.map_map, List.map_map]
    refine congrArg List.sum (List.map_congr_left fun v hv => ?_)
    show (priceAfter newLineId vs db.supplyPrice (newLineId v.lineNo)).getD 0 * _ = _
    rw [hprice v hv, hstored]
    rfl

/-- A row there after upserts was there before or is one of the lines'. -/
theorem mem_of_foldl_upsertCompletion {base : PurchaseDb} {ls : List PurchaseOrderLine}
    {c : PoLineCompletion}
    (hc : c ∈ (ls.foldl PurchaseDb.upsertCompletion base).wms.poLineCompletion.rows) :
    c ∈ base.wms.poLineCompletion.rows ∨ ∃ l ∈ ls, c.poLineId = l.id := by
  induction ls generalizing base with
  | nil => exact .inl hc
  | cons l ls ih =>
      rcases ih hc with hold | ⟨m, hm, hid⟩
      · rcases Table.mem_upsert.mp hold with ⟨hold, -⟩ | rfl
        · exact .inl hold
        · exact .inr ⟨l, List.mem_cons_self, (PurchaseDb.completionRow_of base l).line⟩
      · exact .inr ⟨m, List.mem_cons_of_mem _ hm, hid⟩

/-- Completion rows of an order that had none amount to what its lines do. -/
theorem upsertCompletionRows_amount
    (hunits : ∀ l ∈ db.orderLines poId, db.base.wms.itemUoms.HasKey l.purchaseUomIdSnapshot ∧
      IsCents ((db.supplyPrice l.id).getD 0))
    (hnone : ∀ c ∈ db.base.wms.poLineCompletion.rows, c.poId ≠ poId) :
    (db.upsertCompletionRows poId).linesAmount poId = db.linesAmount poId ∧
      (db.upsertCompletionRows poId).plannedAmount poId = db.linesAmount poId := by
  -- every line has its unit, so none is left out by the join
  have hjoined : joinedLines db.base poId = db.orderLines poId := by
    refine List.filter_congr fun l hl => ?_
    by_cases hpo : l.poId = poId
    · have hunit := (hunits l (List.mem_filter.mpr ⟨hl, decide_eq_true hpo⟩)).1
      simp [hpo, hunit]
    · simp [hpo]
  have hfold : (db.upsertCompletionRows poId).base =
      (db.orderLines poId).foldl PurchaseDb.upsertCompletion db.base := by
    rw [← hjoined]
    rfl
  have hids : ((db.orderLines poId).map PurchaseOrderLine.id).Nodup :=
    (List.filter_sublist.map _).nodup db.base.purchaseOrderLines.nodup
  have hlines : (db.upsertCompletionRows poId).orderLines poId = db.orderLines poId := by
    unfold PricedDb.orderLines
    rw [hfold, PurchaseDb.foldl_upsertCompletion_eq]
  refine ⟨?_, ?_⟩
  · unfold PricedDb.linesAmount
    rw [hlines]
    rfl
  · -- one row for each line, under its key
    have hkeys : (((db.upsertCompletionRows poId).orderCompletions poId).map
        PoLineCompletion.poLineId).Perm ((db.orderLines poId).map PurchaseOrderLine.id) := by
      refine (List.perm_ext_iff_of_nodup ((List.filter_sublist.map _).nodup
        (db.upsertCompletionRows poId).base.wms.poLineCompletion.nodup) hids).mpr fun k => ?_
      constructor
      · intro hk
        obtain ⟨c, hc, rfl⟩ := List.mem_map.mp hk
        obtain ⟨hmem, hpo⟩ := List.mem_filter.mp hc
        rw [hfold] at hmem
        rcases mem_of_foldl_upsertCompletion hmem with hold | ⟨l, hl, hid⟩
        · exact absurd (by simpa using hpo) (hnone c hold)
        · rw [hid]
          exact List.mem_map_of_mem hl
      · intro hk
        obtain ⟨l, hl, rfl⟩ := List.mem_map.mp hk
        have hl' : l.poId = poId := by simpa using (List.mem_filter.mp hl).2
        obtain ⟨c, hc, hof⟩ := PurchaseDb.exists_foldl_upsertCompletion hids hl
        rw [← hfold] at hc
        rw [← hof.line]
        exact List.mem_map_of_mem (List.mem_filter.mpr
          ⟨hc, decide_eq_true (hof.order.trans hl')⟩)
    have hplanned : ∀ l ∈ db.orderLines poId,
        (db.upsertCompletionRows poId).plannedLineAmount l.id =
          (db.supplyPrice l.id).getD 0 * l.qtyOrderedBase := by
      intro l hl
      show db.plannedAfter (joinedLines db.base poId) l.id = _
      rw [plannedAfter, hjoined, find?_key hids hl]
      exact ((hunits l hl).2.mul_int _).numericColumn_eq
    have hamounts := (hkeys.map (db.upsertCompletionRows poId).plannedLineAmount).sum_eq
    rw [List.map_map, List.map_map] at hamounts
    exact hamounts.trans (congrArg List.sum (List.map_congr_left fun l hl => hplanned l hl))

/-! ## Both services -/

/-- Prices and quantities of accepted lines are not negative. -/
theorem basePrices_nonneg {wms : Db} {vs : List PricedLineValues}
    (hvs : (vs.map fun v => (v.supplyPrice.getD 0, v.qtyOrderedBase)) = basePrices wms payload)
    (hpos : ∀ v ∈ vs, 0 < v.qtyOrderedBase) :
    ∀ x ∈ basePrices wms payload, 0 ≤ x.1 ∧ 0 ≤ x.2 := by
  intro x hx
  constructor
  · obtain ⟨raw, -, rfl⟩ := List.mem_map.mp hx
    cases hp : raw.supplyPrice with
    | none => exact le_refl 0
    | some p => exact raw.supplyPrice_nonneg p hp
  · rw [← hvs] at hx
    obtain ⟨v, hv, rfl⟩ := List.mem_map.mp hx
    exact (hpos v hv).le

/-- Lines and completion rows written for an order that had none: they agree
with the head when it has the total of the stored prices. -/
theorem written_agree {vs : List PricedLineValues} {total : ℚ}
    (h : db.insertLines poId newLineId vs = .ok db')
    (hnone : ∀ l ∈ db.base.purchaseOrderLines.rows, l.poId ≠ poId)
    (htotal : db.totalAmount poId = some total)
    (t : Table PoLineCompletion.poLineId) (ht : ∀ c ∈ t.rows, c.poId ≠ poId) :
    AmountsAgree (PricedDb.upsertCompletionRows { db' with base := { db'.base with wms :=
        { db'.base.wms with poLineCompletion := t } } } poId) poId ↔
      total = storedTotal (vs.map fun v => (v.supplyPrice.getD 0, v.qtyOrderedBase)) := by
  obtain ⟨hwms, htotal', hunits, hamount⟩ := insertLines_amount h hnone
  rw [← hwms] at hunits
  obtain ⟨hlines, hplanned⟩ := @upsertCompletionRows_amount
    { db' with base := { db'.base with wms := { db'.base.wms with poLineCompletion := t } } }
    poId hunits ht
  unfold AmountsAgree
  rw [hlines, hplanned]
  have hsame : PricedDb.linesAmount { db' with base := { db'.base with wms :=
      { db'.base.wms with poLineCompletion := t } } } poId = db'.linesAmount poId := rfl
  rw [hsame, hamount]
  constructor
  · rintro ⟨x, hx, hagree, -⟩
    have hx' : db'.totalAmount poId = some x := hx
    rw [htotal', htotal] at hx'
    cases hx'
    exact hagree
  · intro heq
    exact ⟨total, (congrFun htotal' poId).trans htotal, heq, heq⟩

theorem createPoV2_agree (hnamed : db.base.OrdersNamed)
    (h : db.createPoV2 payload poId newLineId = .ok db') :
    AmountsAgree db' poId ↔ RoundingsCancel (basePrices db.base.wms payload) := by
  simp only [createPoV2, PricedDb.insertHead, bind_eq_ok, demand_eq_ok, pure_eq_ok] at h
  obtain ⟨_, -, ⟨supplierId, supplierName⟩, -, ⟨total, vs⟩, hlines, db₁, ⟨_, hnew, rfl⟩,
    db₂, hinsert, rfl⟩ := h
  obtain ⟨htotal, hvs, hpos⟩ := normalizePriced_spec (fun seen => normalizeCreateLine_qty seen) hlines
  have hhead : Function.update db.totalAmount poId (some (numericColumn 2 total)) poId =
      some (numericColumn 2 (decimalTotal (basePrices db.base.wms payload))) := by
    rw [Function.update_self, htotal]
    rfl
  -- the key of the head is new, so nothing names it yet
  have hnone : ∀ l ∈ db.base.purchaseOrderLines.rows, l.poId ≠ poId := by
    rintro l hl rfl
    exact hnew (hnamed.lines l hl)
  have hrows : ∀ c ∈ db₂.base.wms.poLineCompletion.rows, c.poId ≠ poId := by
    rw [show db₂.base.wms = db.base.wms from (insertLines_amount hinsert hnone).1]
    rintro c hc rfl
    exact hnew (hnamed.completions c hc)
  rw [← numericColumn_decimalTotal (basePrices_nonneg hvs hpos)]
  have hagree := written_agree hinsert hnone hhead db₂.base.wms.poLineCompletion hrows
  rw [hvs] at hagree
  exact hagree

theorem updatePoV2_agree (h : db.updatePoV2 poId payload newLineId = .ok db') :
    AmountsAgree db' poId ↔ RoundingsCancel (basePrices db.base.wms payload) := by
  simp only [updatePoV2, PricedDb.rebuildCompletionRows, bind_eq_ok, demand_eq_ok,
    demandSome_eq_ok, pure_eq_ok] at h
  obtain ⟨po, hpo, _, -, _, -, ⟨supplierId, supplierName⟩, -, ⟨total, vs⟩, hlines, db₂, hinsert,
    rfl⟩ := h
  obtain rfl : po.id = poId := (Table.lookup_eq_some.mp hpo).2
  obtain ⟨htotal, hvs, hpos⟩ :=
    normalizePriced_spec (fun seen => normalizeUpdateLine_qty seen) hlines
  have hhead : Function.update db.totalAmount po.id (some (numericColumn 2 total)) po.id =
      some (numericColumn 2 (decimalTotal (basePrices db.base.wms payload))) := by
    rw [Function.update_self, htotal]
    rfl
  rw [← numericColumn_decimalTotal (basePrices_nonneg hvs hpos)]
  have hagree := written_agree hinsert (fun l hl => (Table.mem_delete.mp hl).2) hhead
    (db₂.base.wms.poLineCompletion.delete fun c => c.poId = po.id)
    fun c hc => (Table.mem_delete.mp hc).2
  rw [hvs] at hagree
  exact hagree

/-! ## Amounts agree when the roundings cancel -/

/-- **Amounts of a purchase order.** Head, lines and completion rows of an
order that was created or updated agree exactly when the roundings of its
payload stay within half a cent together. -/
theorem purchase_amounts {db db' : PricedDb} {poId : Int} {newLineId : Int → Int}
    {payload : PricedOrderIn} (hnamed : db.base.OrdersNamed)
    (h : db.createPoV2 payload poId newLineId = .ok db' ∨
      db.updatePoV2 poId payload newLineId = .ok db') :
    AmountsAgree db' poId ↔ RoundingsCancel (basePrices db.base.wms payload) := by
  rcases h with hcreate | hupdate
  · exact createPoV2_agree hnamed hcreate
  · exact updatePoV2_agree hupdate

/-- A warehouse and a supplier, nothing ordered yet. -/
def samplePricedDb : PricedDb where
  base := { wms := sampleDb, suppliers := Table.empty.insert ⟨1, "Tea House", true⟩ }

theorem sample_price_nonneg {price : ℚ} (h : 0 ≤ price) (p : ℚ) (hp : some price = some p) :
    0 ≤ p := by
  cases hp
  exact h

/-- Four pieces of tea at a price. -/
def samplePricedOrder (price : ℚ) (h : 0 ≤ price) : PricedOrderIn where
  supplierId := 1
  warehouseId := 1
  purchaser := "Ann"
  lines := [{
    lineNo := 1, itemId := 1, uomId := 1, qtyInput := 4, supplyPrice := some price
    lineNo_pos := one_gt_zero, itemId_pos := one_gt_zero, uomId_pos := one_gt_zero
    qtyInput_pos := four_gt_zero, supplyPrice_nonneg := sample_price_nonneg h }]
  supplierId_pos := one_gt_zero
  warehouseId_pos := one_gt_zero
  lines_ne_nil := List.cons_ne_nil _ _

theorem samplePricedDb_named : samplePricedDb.base.OrdersNamed where
  lines := by decide
  completions := by decide

/-- Four pieces at 2.50. -/
theorem purchase_amounts_sample : ∃ db',
    samplePricedDb.createPoV2 (samplePricedOrder (5 / 2) (by norm_num)) 1 id = .ok db' ∧
      AmountsAgree db' 1 ∧ db'.totalAmount 1 = some 10 := by
  have hrun : ∃ db' ∈ (samplePricedDb.createPoV2 (samplePricedOrder (5 / 2) (by norm_num)) 1
      id).toOption, db'.totalAmount 1 = some 10 := by decide +kernel
  obtain ⟨db', hdb', htotal⟩ := hrun
  have hok : samplePricedDb.createPoV2 (samplePricedOrder (5 / 2) (by norm_num)) 1 id =
      .ok db' := toOption_eq_some.mp hdb'
  refine ⟨db', hok, (purchase_amounts samplePricedDb_named (.inl hok)).mpr ?_, htotal⟩
  unfold RoundingsCancel
  decide +kernel

/-- Four pieces at 0.004: the head says two cents, the lines say nothing. -/
theorem purchase_amounts_not : samplePricedDb.base.OrdersNamed ∧ ∃ db',
    samplePricedDb.createPoV2 (samplePricedOrder (1 / 250) (by norm_num)) 1 id = .ok db' ∧
      db'.totalAmount 1 = some (1 / 50) ∧ db'.linesAmount 1 = 0 ∧ db'.plannedAmount 1 = 0 ∧
      ¬ AmountsAgree db' 1 := by
  have hrun : ∃ db' ∈ (samplePricedDb.createPoV2 (samplePricedOrder (1 / 250) (by norm_num)) 1
      id).toOption, db'.totalAmount 1 = some (1 / 50) ∧ db'.linesAmount 1 = 0 ∧
        db'.plannedAmount 1 = 0 := by decide +kernel
  obtain ⟨db', hdb', htotal, hlines, hplanned⟩ := hrun
  refine ⟨samplePricedDb_named, db', toOption_eq_some.mp hdb', htotal, hlines, hplanned, ?_⟩
  rintro ⟨total, hhead, hagree, -⟩
  rw [htotal] at hhead
  cases hhead
  rw [hlines] at hagree
  norm_num at hagree

end WmsDu
