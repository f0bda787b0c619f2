import WmsDu.Oms.IngestRuns

/-!
# Order items and order lines

The items of an order are written once, its lines on every ingest. Both state
what the order asks for, item by item; they agree as long as no item is
dropped on the way in and no repeated call brings other items.
-/

namespace WmsDu

open Txn

/-! ## Demand -/

/-- What the items of an order ask for. -/
def itemDemand (db : OmsDb) (orderId itemId : Int) : Int :=
  sumOver (fun i : OrderItem => i.orderId = orderId ∧ i.itemId = itemId) OrderItem.qty
    db.orderItems.rows

/-- What the lines of an order ask for. -/
def lineDemand (db : OmsDb) (orderId itemId : Int) : Int :=
  sumOver (fun l : OrderLine => l.orderId = orderId ∧ l.itemId = itemId) OrderLine.reqQty
    db.wms.orderLines.rows

/-- What a payload asks for. -/
def payloadDemand (items : List IngestItem) (itemId : Int) : Int :=
  sumOver (fun it : IngestItem => it.Demands ∧ it.itemId.getD 0 = itemId) (fun it => it.qty.getD 0)
    items

/-- Items and lines state the same demand. -/
def SameDemand (db : OmsDb) : Prop :=
  ∀ orderId itemId, 0 < itemId → itemDemand db orderId itemId = lineDemand db orderId itemId

/-- The foreign keys of the two tables on `orders`. -/
structure Grounded (db : OmsDb) : Prop where
  items : ∀ i ∈ db.orderItems.rows, db.wms.orders.HasKey i.orderId
  lines : ∀ l ∈ db.wms.orderLines.rows, db.wms.orders.HasKey l.orderId

theorem itemDemand_absent {db : OmsDb} (h : Grounded db) {orderId : Int}
    (hnew : ¬ db.wms.orders.HasKey orderId) (itemId : Int) : itemDemand db orderId itemId = 0 := by
  refine sumOver_eq_zero ?_
  rintro i hi ⟨rfl, -⟩
  exact absurd (h.items i hi) hnew

theorem lineDemand_absent {db : OmsDb} (h : Grounded db) {orderId : Int}
    (hnew : ¬ db.wms.orders.HasKey orderId) (itemId : Int) : lineDemand db orderId itemId = 0 := by
  refine sumOver_eq_zero ?_
  rintro l hl ⟨rfl, -⟩
  exact absurd (h.lines l hl) hnew

theorem payloadDemand_cons (it : IngestItem) (items : List IngestItem) (itemId : Int) :
    payloadDemand (it :: items) itemId =
      (if it.Demands ∧ it.itemId.getD 0 = itemId then it.qty.getD 0 else 0) +
        payloadDemand items itemId := sumOver_cons _ _

/-- The lines of a payload carry its demand. -/
theorem sumOver_extractReqQty (items : List IngestItem) (itemId : Int) :
    sumOver (fun e : Int × Int => e.1 = itemId) Prod.snd (extractReqQty items).rows =
      payloadDemand items itemId :=
  Tally.get_ofList items itemId

theorem extractReqQty_eq_nil {items : List IngestItem} :
    (extractReqQty items).rows = [] ↔ ∀ it ∈ items, ¬ it.Demands := by
  constructor
  · intro h it hit hd
    have hkey : (extractReqQty items).HasKey (it.itemId.getD 0) :=
      Tally.hasKey_ofList.mpr ⟨it, hit, hd, rfl⟩
    obtain ⟨e, he, -⟩ := hkey
    rw [h] at he
    cases he
  · intro h
    rw [List.eq_nil_iff_forall_not_mem]
    intro e he
    obtain ⟨it, hit, hd, -⟩ := Tally.hasKey_ofList.mp (Table.hasKey_of_mem he)
    exact h it hit hd

/-! ## The items of a new order -/

/-- No item with a positive id and quantity repeats the sku of an earlier one. -/
def DropsNone (items : List IngestItem) : Prop :=
  items.Pairwise fun a b =>
    b.Demands → normStr a.skuId 128 ≠ none → normStr a.skuId 128 ≠ normStr b.skuId 128

/-- No item of the payload that demands anything has the sku of a row. -/
def SkusFree (rows : List OrderItem) (orderId : Int) (items : List IngestItem) : Prop :=
  ∀ i ∈ rows, i.orderId = orderId → i.skuId ≠ none → ∀ it ∈ items, it.Demands →
    i.skuId ≠ normStr it.skuId 128

theorem OrderItem.qty_pos_of_check {i : OrderItem} (h : i.check = none) : 0 < i.qty := by
  unfold OrderItem.check at h
  split_ifs at h with hmoney hqty
  omega

/-- Writing the items of an order adds the payload's demand to its own and to
no other. -/
theorem run_insertOrderItems_demand {orderId : Int} {id : Nat → Int} {itemId : Int}
    (hpos : 0 < itemId) (orderId' : Int) :
    ∀ (items : List IngestItem) (n : Nat) {db db' : OmsDb} {u : Unit},
      insertOrderItems orderId id items n ⟨db, false⟩ = (.ok u, ⟨db', false⟩) → DropsNone items →
        SkusFree db.orderItems.rows orderId items →
          itemDemand db' orderId' itemId = itemDemand db orderId' itemId +
            if orderId = orderId' then payloadDemand items itemId else 0 := by
  intro items
  induction items with
  | nil =>
      intro n db db' u h _ _
      cases h
      rw [show payloadDemand [] itemId = 0 from rfl, ite_self, add_zero]
  | cons it items ih =>
      intro n db db' u h hdrops hfree
      obtain ⟨hhead, htail⟩ := List.pairwise_cons.mp hdrops
      rw [insertOrderItems, Sess.run_bind_ok] at h
      obtain ⟨u₁, c₁, hitem, h⟩ := h
      obtain ⟨-, rowItem, hid, hcheck, hcase⟩ := run_insertOrderItem_ok hitem
      have hqty : 0 < it.qty.getD 0 := OrderItem.qty_pos_of_check hcheck
      rw [payloadDemand_cons]
      rcases hcase with ⟨⟨i, hi, hclash⟩, rfl⟩ | ⟨-, hkey, -, rfl⟩
      · -- the row is dropped, so the item must not have asked for anything
        have hnot : ¬ it.Demands := by
          intro hd
          exact hfree i hi hclash.1 hclash.2.1 it List.mem_cons_self hd hclash.2.2
        have hzero : (if it.Demands ∧ it.itemId.getD 0 = itemId then it.qty.getD 0 else 0) = 0 :=
          if_neg fun hd => hnot hd.1
        rw [hzero, zero_add]
        exact ih (n + 1) h htail fun j hj hoid hsku it' hit' =>
          hfree j hj hoid hsku it' (List.mem_cons_of_mem _ hit')
      · have hfree' : SkusFree (db.orderItems.insert (it.row (id n) orderId rowItem)).rows
            orderId items := by
          intro j hj hoid hsku it' hit' hd
          rcases Table.mem_of_mem_insert hj with hj | rfl
          · exact hfree j hj hoid hsku it' (List.mem_cons_of_mem _ hit') hd
          · exact hhead it' hit' hd hsku
        rw [ih (n + 1) h htail hfree']
        unfold itemDemand
        rw [Table.sumOver_insert_new hkey]
        have hdem : it.Demands ↔ 0 < rowItem := by
          rw [IngestItem.Demands, hid, Option.getD_some]
          exact and_iff_left hqty
        simp only [IngestItem.row, hdem, hid, Option.getD_some]
        by_cases ho : orderId = orderId'
        · by_cases hi : rowItem = itemId
          · subst hi
            simp only [ho, hpos, and_self, if_true]
            ring
          · simp only [ho, hi, and_false, if_false, if_true]
            ring
        · simp only [ho, false_and, if_false]
          ring

theorem run_insertOrderItems_grounded {orderId : Int} {id : Nat → Int} :
    ∀ (items : List IngestItem) (n : Nat) {db db' : OmsDb} {u : Unit},
      insertOrderItems orderId id items n ⟨db, false⟩ = (.ok u, ⟨db', false⟩) →
        Grounded db → Grounded db' := by
  intro items
  induction items with
  | nil =>
      intro n db db' u h hdb
      cases h
      exact hdb
  | cons it items ih =>
      intro n db db' u h hdb
      rw [insertOrderItems, Sess.run_bind_ok] at h
      obtain ⟨u₁, c₁, hitem, h⟩ := h
      obtain ⟨-, rowItem, -, -, ⟨-, rfl⟩ | ⟨-, -, horder, rfl⟩⟩ := run_insertOrderItem_ok hitem
      · exact ih (n + 1) h hdb
      · refine ih (n + 1) h ⟨?_, hdb.lines⟩
        intro i hi
        rcases Table.mem_of_mem_insert hi with hi | rfl
        · exact hdb.items i hi
        · exact horder

/-! ## The lines -/

/-- Some outbound line names a line of the order. -/
def LinesReferenced (db : OmsDb) (orderId : Int) : Prop :=
  ∃ l ∈ db.wms.orderLines.rows, l.orderId = orderId ∧
    ∃ o ∈ db.wms.outboundEventLines.rows, o.orderLineId = some l.id

/-- The line writer leaves the items alone, and the lines of other orders; the
order's own lines it leaves alone too or makes the payload's. -/
theorem run_insertOrderLines_demand {orderId : Int} {id : Nat → Int} {items : List IngestItem}
    {db db' : OmsDb} {u : Unit}
    (h : insertOrderLines orderId id items ⟨db, false⟩ = (.ok u, ⟨db', false⟩)) :
    db'.orderItems = db.orderItems ∧ (Grounded db → Grounded db') ∧
      (∀ orderId' itemId, orderId' ≠ orderId →
        lineDemand db' orderId' itemId = lineDemand db orderId' itemId) ∧
      ((∀ it ∈ items, ¬ it.Demands) ∧ db' = db ∨
        (∃ it ∈ items, it.Demands) ∧ ¬ LinesReferenced db orderId ∧
          ∀ itemId, lineDemand db' orderId itemId = payloadDemand items itemId) := by
  rcases run_insertOrderLines_ok h with ⟨hnil, hdb⟩ | ⟨hne, horder, href, t, hdb, ht⟩
  · cases hdb
    exact ⟨rfl, fun hg => hg, fun _ _ _ => rfl, Or.inl ⟨extractReqQty_eq_nil.mp hnil, rfl⟩⟩
  · cases hdb
    have hdemand : ∀ orderId' itemId,
        lineDemand (db.withOrderLines t) orderId' itemId =
          sumOver (fun l : OrderLine => (l.orderId = orderId' ∧ l.itemId = itemId) ∧
            ¬ l.orderId = orderId) OrderLine.reqQty db.wms.orderLines.rows +
          sumOver (fun l : OrderLine => l.orderId = orderId' ∧ l.itemId = itemId) OrderLine.reqQty
            (orderLinesFrom orderId id (extractReqQty items).rows 0) := by
      intro orderId' itemId
      show sumOver _ _ t.rows = _
      rw [ht, sumOver_append, Table.sumOver_delete]
    have hsome : ∃ it ∈ items, it.Demands := by
      by_contra hnone
      exact hne (extractReqQty_eq_nil.mpr fun it hit hd => hnone ⟨it, hit, hd⟩)
    refine ⟨rfl, fun hg => ⟨hg.items, ?_⟩, ?_, Or.inr ⟨hsome, href, ?_⟩⟩
    · intro l hl
      have hl' : l ∈ t.rows := hl
      rw [ht] at hl'
      rcases List.mem_append.mp hl' with hl' | hl'
      · exact hg.lines l (Table.mem_delete.mp hl').1
      · rw [(mem_orderLinesFrom _ 0 hl').1]
        exact horder
    · intro orderId' itemId hother
      rw [hdemand]
      have hadded : sumOver (fun l : OrderLine => l.orderId = orderId' ∧ l.itemId = itemId)
          OrderLine.reqQty (orderLinesFrom orderId id (extractReqQty items).rows 0) = 0 := by
        refine sumOver_eq_zero ?_
        rintro l hl ⟨rfl, -⟩
        exact absurd (mem_orderLinesFrom _ 0 hl).1 hother
      rw [hadded, add_zero]
      refine sumOver_congr ?_ fun _ _ _ => rfl
      intro l hl
      constructor
      · exact And.left
      · rintro ⟨rfl, hi⟩
        exact ⟨⟨rfl, hi⟩, hother⟩
    · intro itemId
      rw [hdemand, sumOver_orderLinesFrom, sumOver_extractReqQty]
      rw [sumOver_eq_zero, zero_add]
      rintro l - ⟨⟨rfl, -⟩, hne⟩
      exact absurd rfl hne

/-! ## Runs -/

/-- A call after which items and lines still agree: a new order whose payload
drops no demanded item; or a repeated call without a demand, with one that
outbound lines block, or with the demand the order's items state. -/
def StatesDemand (db : OmsDb) (req : IngestRequest) : Prop :=
  match orderByKey db req.order.platform req.storeCode req.extOrderNo with
  | none => DropsNone req.items
  | some o =>
      (∀ it ∈ req.items, ¬ it.Demands) ∨ LinesReferenced db o.id ∨
        ∀ itemId, 0 < itemId → payloadDemand req.items itemId = itemDemand db o.id itemId

/-- The state a call leaves. -/
def ingestStep (req : IngestRequest) (db : OmsDb) : OmsDb := ((ingest req).call db).2

theorem KeepsLines.itemDemand_eq {c c' : Conn OmsDb} (h : KeepsLines c c') (orderId itemId : Int) :
    itemDemand c'.state orderId itemId = itemDemand c.state orderId itemId := by
  unfold itemDemand
  rw [h.2]

theorem KeepsLines.lineDemand_eq {c c' : Conn OmsDb} (h : KeepsLines c c') (orderId itemId : Int) :
    lineDemand c'.state orderId itemId = lineDemand c.state orderId itemId := by
  unfold lineDemand
  rw [h.1]

theorem KeepsLines.grounded {c c' : Conn OmsDb} (h : KeepsLines c c') (hg : Grounded c.state) :
    Grounded c'.state := by
  refine ⟨?_, ?_⟩
  · rw [h.1, h.2]
    exact hg.items
  · rw [h.1]
    exact hg.lines

theorem KeepsLines.sameDemand {c c' : Conn OmsDb} (h : KeepsLines c c')
    (hs : SameDemand c.state) : SameDemand c'.state := by
  intro orderId itemId hpos
  rw [h.itemDemand_eq, h.lineDemand_eq]
  exact hs orderId itemId hpos

/-- A new order is grounded without rows. -/
theorem Grounded.withOrder {db : OmsDb} (hg : Grounded db) (order : OrderHead) :
    Grounded (db.withOrder order) where
  items i hi := Table.hasKey_insert.mpr (Or.inl (hg.items i hi))
  lines l hl := Table.hasKey_insert.mpr (Or.inl (hg.lines l hl))

theorem ingestStep_sameDemand {req : IngestRequest} {db : OmsDb} (hg : Grounded db)
    (hs : SameDemand db) (hcall : StatesDemand db req) :
    Grounded (ingestStep req db) ∧ SameDemand (ingestStep req db) := by
  rcases Sess.call_cases (ingest req) db with ⟨out, db', hrun, hstep⟩ | hsame
  swap
  · rw [ingestStep, hsame]
    exact ⟨hg, hs⟩
  rw [ingestStep, hstep]
  obtain ⟨db₁, hkeep, db₂, db₃, orderId, hlines, hlast, hcase⟩ := run_ingest_ok hrun
  obtain ⟨hitems, hground, hothers, hown⟩ := run_insertOrderLines_demand hlines
  have hg₁ : Grounded db₁ := hkeep.grounded hg
  have hs₁ : SameDemand db₁ := hkeep.sameDemand hs
  have hfound : orderByKey db₁ req.order.platform req.storeCode req.extOrderNo =
      orderByKey db req.order.platform req.storeCode req.extOrderNo := by
    unfold orderByKey
    rw [hkeep.1]
  have hitemDemand : ∀ orderId' itemId,
      itemDemand db₃ orderId' itemId = itemDemand db₂ orderId' itemId := by
    intro orderId' itemId
    unfold itemDemand
    rw [hitems]
  unfold StatesDemand at hcall
  rw [← hfound] at hcall
  rcases hcase with ⟨o, ho, rfl, rfl, -⟩ | ⟨hnone, rfl, hnew, hrows⟩
  · -- a repeated call: the lines answer for the payload, the items stay
    rw [ho] at hcall
    refine ⟨hlast.grounded (hground hg₁), hlast.sameDemand ?_⟩
    intro orderId' itemId hpos
    rw [hitemDemand]
    by_cases horder : orderId' = o.id
    · subst horder
      rcases hown with ⟨-, rfl⟩ | ⟨⟨it, hit, hd⟩, href, hnow⟩
      · exact hs₁ _ _ hpos
      · rw [hnow]
        rcases hcall with hnil | hblocked | hsame
        · exact absurd hd (hnil it hit)
        · rw [LinesReferenced, ← hkeep.1] at hblocked
          exact absurd hblocked href
        · exact (hkeep.itemDemand_eq _ _).trans (hsame itemId hpos).symm
    · rw [hothers _ _ horder]
      exact hs₁ _ _ hpos
  · -- a new order: it starts without rows, and both writers add the payload's demand
    rw [hnone] at hcall
    have hg₂ : Grounded db₂ := run_insertOrderItems_grounded _ 0 hrows (hg₁.withOrder _)
    refine ⟨hlast.grounded (hground hg₂), hlast.sameDemand ?_⟩
    have hfree : SkusFree (db₁.withOrder req.order).orderItems.rows req.orderId req.items := by
      intro i hi hid
      exact absurd (hid ▸ hg₁.items i hi) hnew
    obtain ⟨t, ht⟩ := run_insertOrderItems_ok req.items 0 rfl hrows
    cases ht
    intro orderId' itemId hpos
    have hadd := run_insertOrderItems_demand hpos orderId' req.items 0 hrows hcall hfree
    rw [hitemDemand, hadd]
    show itemDemand db₁ orderId' itemId + _ = _
    by_cases horder : orderId' = req.orderId
    · subst horder
      rw [if_pos rfl, itemDemand_absent hg₁ hnew, zero_add]
      rcases hown with ⟨hnil, rfl⟩ | ⟨-, -, hnow⟩
      · rw [payloadDemand, sumOver_eq_zero fun it hit hd => absurd hd.1 (hnil it hit)]
        exact (lineDemand_absent hg₁ hnew itemId).symm
      · exact (hnow itemId).symm
    · rw [if_neg (Ne.symm horder), add_zero, hothers _ _ horder]
      exact hs₁ _ _ hpos

/-- **Items and lines state the same demand** in every state of a run whose
calls all meet the condition. -/
theorem ingest_sameDemand {db₀ db : OmsDb} (hg : Grounded db₀) (hs : SameDemand db₀)
    (h : Calls ingestStep StatesDemand db₀ db) : SameDemand db := by
  have hboth : Grounded db ∧ SameDemand db := by
    refine h.invariant (I := fun db => Grounded db ∧ SameDemand db) ⟨hg, hs⟩ ?_
    intro db req _ hcall hdb
    exact ingestStep_sameDemand hdb.1 hdb.2 hcall
  exact hboth.2

/-! ## Repeated calls -/

/-- A call that answers IDEMPOTENT and leaves the items and the lines of the
order alone. -/
def Undisturbed (db : OmsDb) (req : IngestRequest) (orderId : Int) : Prop :=
  ∃ out db', (ingest req).call db = (.ok out, db') ∧ out.status = "IDEMPOTENT" ∧
    db'.orderItems.rows.filter (·.orderId = orderId) =
      db.orderItems.rows.filter (·.orderId = orderId) ∧
    db'.wms.orderLines.rows.filter (·.orderId = orderId) =
      db.wms.orderLines.rows.filter (·.orderId = orderId)

/-- The sequences hand out ids that are not in use. -/
structure IngestRequest.Draws (req : IngestRequest) (db : OmsDb) : Prop where
  store : FreshStore db req.storeId
  line : ∀ n, ¬ db.wms.orderLines.HasKey (req.lineId n)

/-- Lines that were written again have ids the old ones did not have. -/
theorem rewritten_lines_differ {req : IngestRequest} {db : OmsDb} {orderId : Int}
    (hline : ∀ n, ¬ db.wms.orderLines.HasKey (req.lineId n)) {lines : List (Int × Int)}
    (hne : lines ≠ []) {t : Table OrderLine.id}
    (ht : t.rows = (db.wms.orderLines.delete fun l => l.orderId = orderId).rows ++
      orderLinesFrom orderId req.lineId lines 0) :
    t.rows.filter (·.orderId = orderId) ≠
      db.wms.orderLines.rows.filter (·.orderId = orderId) := by
  intro hsame
  have hnil : orderLinesFrom orderId req.lineId lines 0 ≠ [] := orderLinesFrom_ne_nil hne 0
  obtain ⟨l, hl⟩ := List.exists_mem_of_ne_nil _ hnil
  obtain ⟨hoid, m, hid⟩ := mem_orderLinesFrom lines 0 hl
  have hmem : l ∈ t.rows.filter (·.orderId = orderId) := by
    rw [ht, List.filter_append]
    exact List.mem_append_right _ (List.mem_filter.mpr ⟨hl, decide_eq_true hoid⟩)
  rw [hsame] at hmem
  exact hline m ⟨l, (List.mem_filter.mp hmem).1, hid⟩

/-- **Idempotent ingest.** A repeated call leaves its order undisturbed exactly
when no item of its payload has a positive id and quantity. -/
theorem ingest_undisturbed {db : OmsDb} {req : IngestRequest} {o : OrderHead}
    (ho : orderByKey db req.order.platform req.storeCode req.extOrderNo = some o)
    (hdraws : req.Draws db) :
    Undisturbed db req o.id ↔ ∀ it ∈ req.items, ¬ it.Demands := by
  rw [← extractReqQty_eq_nil]
  constructor
  · rintro ⟨out, db', hcall, -, -, hlines⟩
    by_contra hne
    rcases hrun : ingest req ⟨db, false⟩ with ⟨e | a, ⟨w, ab⟩⟩
    · rw [Sess.call_of_error hrun] at hcall
      cases hcall
    · obtain rfl : ab = false := run_ingest_alive hrun
      rw [Sess.call_of_ok hrun] at hcall
      cases hcall
      obtain ⟨db₁, hkeep, db₂, db₃, orderId, hwritten, hlast, hcase⟩ := run_ingest_ok hrun
      have ho₁ : orderByKey db₁ req.order.platform req.storeCode req.extOrderNo = some o := by
        rw [← ho]
        unfold orderByKey
        rw [hkeep.1]
      rcases hcase with ⟨o', ho', rfl, rfl, -⟩ | ⟨hnone, -⟩
      · obtain rfl : o = o' := Option.some.inj (ho₁.symm.trans ho')
        rcases run_insertOrderLines_ok hwritten with ⟨hnil, -⟩ | ⟨-, -, -, t, hdb₃, ht⟩
        · exact hne hnil
        · cases hdb₃
          have hwms : db'.wms.orderLines = t := congrArg Db.orderLines hlast.1
          have hold : db₂.wms = db.wms := hkeep.1
          rw [hold] at ht
          rw [hwms] at hlines
          exact rewritten_lines_differ hdraws.line hne ht hlines
      · rw [ho₁] at hnone
        cases hnone
  · intro hnil
    obtain ⟨out, db', hrun, hstatus, hwms, hitems⟩ := run_ingest_hit ho hdraws.store hnil
    refine ⟨out, db', Sess.call_of_ok hrun, hstatus, ?_, ?_⟩
    · exact congrArg (fun t : Table OrderItem.id => t.rows.filter (·.orderId = o.id)) hitems
    · exact congrArg (fun d : Db => d.orderLines.rows.filter (·.orderId = o.id)) hwms

/-! ## The sample shop -/

/-- A call on the sample shop that draws from ten and a hundred on. -/
def sampleIngest (extOrderNo : String) (items : List IngestItem) : IngestRequest :=
  { platform := "PDD", storeCode := "S1", extOrderNo := extOrderNo, items := items
    storeId := 10, orderId := 10, itemRowId := fun n => n + 100, lineId := fun n => n + 100 }

theorem sampleIngest_draws (extOrderNo : String) (items : List IngestItem) :
    (sampleIngest extOrderNo items).Draws sampleShop where
  store := ⟨show (0 : Int) < 10 by decide, show ¬ sampleShop.stores.HasKey 10 by decide⟩
  line n := by
    rintro ⟨l, hl, hid⟩
    obtain rfl : l = ⟨1, 1, 1, 10⟩ := List.mem_singleton.mp hl
    have : (1 : Int) = n + 100 := hid
    omega

theorem sampleShop_grounded : Grounded sampleShop where
  items := by decide
  lines := by decide

theorem sampleShop_sameDemand : SameDemand sampleShop := by
  intro orderId itemId _
  simp [itemDemand, lineDemand, sampleShop, sumOver_singleton]

/-- Two skus of one item. -/
def twoSkus : List IngestItem :=
  [{ itemId := some 1, qty := some 2, skuId := some "A" },
    { itemId := some 1, qty := some 3, skuId := some "B" }]

/-- A new order of two skus, then a repeated call without items. -/
theorem ingest_sameDemand_sample :
    SameDemand (ingestStep (sampleIngest "E2" [])
      (ingestStep (sampleIngest "E2" twoSkus) sampleShop)) := by
  refine ingest_sameDemand sampleShop_grounded sampleShop_sameDemand
    (.call _ (.call _ .start ?_) (Or.inl ?_))
  · show DropsNone twoSkus
    unfold DropsNone
    decide
  · intro it hit
    cases hit

/-- A new order that names one sku twice: the second item is dropped, its line
is not. -/
theorem repeated_sku_differs :
    ¬ ∀ (db₀ db : OmsDb), Grounded db₀ → SameDemand db₀ →
      Calls ingestStep (fun _ _ => True) db₀ db → SameDemand db := by
  intro hclaim
  have hsame := hclaim sampleShop
    (ingestStep (sampleIngest "E2" [{ itemId := some 1, qty := some 2, skuId := some "A" },
      { itemId := some 1, qty := some 3, skuId := some "A" }]) sampleShop)
    sampleShop_grounded sampleShop_sameDemand (.call _ .start trivial) 10 1 (by decide)
  exact absurd hsame (by decide)

/-- The order of the sample shop comes again with a quantity of zero. -/
theorem ingest_undisturbed_sample :
    Undisturbed sampleShop (sampleIngest "E1" [{ itemId := some 1, qty := some 0 }]) 1 := by
  have hiff := @ingest_undisturbed sampleShop
    (sampleIngest "E1" [{ itemId := some 1, qty := some 0 }]) ⟨1, "PDD", "S1", "E1"⟩ rfl
    (sampleIngest_draws _ _)
  exact hiff.mpr (by decide)

/-- The sample shop after a submit of four pieces of its order. -/
def sampleShipped : OmsDb where
  wms :=
    { sampleShop.wms with
      wmsEvents :=
        ⟨[⟨1, "OUT-1", .outbound, 1, .order, some "ORD:PDD:S1:E1", 0, "T-1", .commit, none,
          .committed, none, none⟩], by decide⟩
      outboundEventLines :=
        ⟨[⟨1, 1, 1, 4, 1, none, some 1, none, some "tea", some "TEA", none, none⟩], by decide⟩ }
  stores := sampleShop.stores
  orderItems := sampleShop.orderItems

/-- The same payload comes again after a submit: the foreign key stops the
delete, the error is swallowed, and the aborted transaction raises later. -/
theorem shipped_order_disturbed :
    ¬ ∀ (db : OmsDb) (req : IngestRequest) (o : OrderHead),
      orderByKey db req.order.platform req.storeCode req.extOrderNo = some o → req.Draws db →
        Undisturbed db req o.id := by
  intro hclaim
  obtain ⟨out, db', hcall, -⟩ := hclaim sampleShipped
    (sampleIngest "E1" [{ itemId := some 1, qty := some 10 }]) ⟨1, "PDD", "S1", "E1"⟩ rfl
    ⟨(sampleIngest_draws "E1" []).store, (sampleIngest_draws "E1" []).line⟩
  have hraise : ((ingest (sampleIngest "E1" [{ itemId := some 1, qty := some 10 }])).call
      sampleShipped).1 = .error Oms.refused := rfl
  rw [hcall] at hraise
  cases hraise

end WmsDu
