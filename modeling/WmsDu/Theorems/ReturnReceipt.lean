import Mathlib
import WmsDu.Returns.Receipt

/-!
# Return receipts and what was shipped

A line of the payload is checked against what may come back, in base units,
and written with the unit the item is received in. In base units the receipt
stays within what was shipped exactly when no line multiplies beyond it.
-/

namespace WmsDu

variable {db db' : OmsDb} {c : ReturnReceiptDraws} {payload : ReturnReceiptIn}

/-- Every receipt line has its receipt. -/
def Db.ReceiptLinesOwned (db : Db) : Prop :=
  ∀ l ∈ db.inboundReceiptLines.rows, db.inboundReceipts.HasKey l.inboundReceiptId

/-- What operations may receive for the lines of a receipt was shipped and
has not come back. -/
def ReturnWithinShipped (db : OmsDb) (receipt : InboundReceipt) : Prop :=
  ∀ t ∈ operationTaskLines db.wms receipt, ∀ oi ∈ db.orderItems.rows,
    t.line.sourceLineId = some oi.id → t.plannedQtyBase ≤ oi.shippedQty - oi.returnedQty

/-- The unit the item is received in holds one base unit, or the line asks for
no more such units than the rest of the order item fills. -/
def ReturnReceiptLineIn.FitsUnit (line : ReturnReceiptLineIn) (db : OmsDb) : Prop :=
  ∀ u ∈ inboundUom line.itemId db.wms, u.ratioToBase ≤ 1 ∨
    ∀ oi ∈ db.orderItems.rows, oi.id = line.orderLineId →
      line.plannedQty ≤ (oi.shippedQty - oi.returnedQty) / u.ratioToBase

/-! ## The source -/

theorem returnSourceLine_ok {oi : OrderItem} {src : ReturnSourceLine}
    (h : returnSourceLine db oi = .ok src) :
    ∃ u, inboundUom oi.itemId db.wms = some u ∧ src = returnSourceRow db oi u ∧ src.Valid := by
  unfold returnSourceLine at h
  obtain ⟨u, hu, h⟩ := bind_eq_ok.mp h
  obtain ⟨_, hvalid, h⟩ := bind_eq_ok.mp h
  rw [pure_eq_ok] at h
  subst h
  exact ⟨u, (Option.filter_eq_some_iff.mp (demandSome_eq_ok.mp hu)).1, rfl,
    demand_eq_ok.mp hvalid⟩

/-- The lines of a source are order items with something left to come back. -/
theorem getInboundReturnSource_ok {orderKey : String} {source : ReturnSource}
    (h : getInboundReturnSource orderKey db = .ok source) {src : ReturnSourceLine}
    (hsrc : src ∈ source.lines) :
    ∃ oi ∈ db.orderItems.rows, 0 < oi.remainingRefundable ∧ returnSourceLine db oi = .ok src := by
  unfold getInboundReturnSource at h
  obtain ⟨order, -, h⟩ := bind_eq_ok.mp h
  obtain ⟨⟨warehouseId, warehouseName⟩, -, h⟩ := bind_eq_ok.mp h
  obtain ⟨-, -, h⟩ := bind_eq_ok.mp h
  obtain ⟨lines, hlines, h⟩ := bind_eq_ok.mp h
  obtain ⟨-, -, h⟩ := bind_eq_ok.mp h
  rw [pure_eq_ok] at h
  subst h
  obtain ⟨oi, hoi, hline⟩ := exists_of_forall₂ (forall₂_of_mapM hlines) hsrc
  obtain ⟨hoi, hsel⟩ := List.mem_filter.mp ((List.mem_insertionSort _).mp hoi)
  exact ⟨oi, hoi, (of_decide_eq_true hsel).2, hline⟩

/-! ## The lines that are written -/

/-- A receipt line was written for a line of the payload. -/
def Plans (source : ReturnSource) (receiptId : Int) (line : ReturnReceiptLineIn)
    (l : InboundReceiptLine) : Prop :=
  ∃ src ∈ source.lines, src.orderLineId = line.orderLineId ∧ src.itemId = line.itemId ∧
    line.plannedQty ≤ src.qtyRemainingRefundable ∧
    ∃ lineNo, l = returnReceiptLine receiptId lineNo src line

theorem checkReturnLine_ok {source : ReturnSource} {seen : List Int} {line : ReturnReceiptLineIn}
    {src : ReturnSourceLine} (h : checkReturnLine source seen line = .ok src) :
    src ∈ source.lines ∧ src.orderLineId = line.orderLineId ∧ src.itemId = line.itemId ∧
      line.plannedQty ≤ src.qtyRemainingRefundable := by
  unfold checkReturnLine at h
  obtain ⟨-, -, h⟩ := bind_eq_ok.mp h
  obtain ⟨src', hfind, h⟩ := bind_eq_ok.mp h
  obtain ⟨_, hitem, h⟩ := bind_eq_ok.mp h
  obtain ⟨_, hqty, h⟩ := bind_eq_ok.mp h
  rw [pure_eq_ok] at h
  subst h
  have hfind := demandSome_eq_ok.mp hfind
  exact ⟨List.mem_of_find?_eq_some hfind, by simpa using List.find?_some hfind,
    demand_eq_ok.mp hitem, demand_eq_ok.mp hqty⟩

theorem insertInboundReceiptLine_ok {l : InboundReceiptLine}
    (h : insertInboundReceiptLine l db = .ok db') :
    db' = db.withReceiptLines (db.wms.inboundReceiptLines.insert l) ∧
      db'.wms.inboundReceiptLines.rows = db.wms.inboundReceiptLines.rows ++ [l] := by
  unfold insertInboundReceiptLine at h
  obtain ⟨-, -, h⟩ := bind_eq_ok.mp h
  obtain ⟨-, -, h⟩ := bind_eq_ok.mp h
  obtain ⟨_, hnew, h⟩ := bind_eq_ok.mp h
  obtain ⟨-, -, h⟩ := bind_eq_ok.mp h
  obtain ⟨-, -, h⟩ := bind_eq_ok.mp h
  obtain ⟨-, -, h⟩ := bind_eq_ok.mp h
  rw [pure_eq_ok] at h
  subst h
  exact ⟨rfl, Table.rows_insert_new (demand_eq_ok.mp hnew)⟩

/-- **The loop.** It appends one receipt line for each line of the payload
and touches nothing else. -/
theorem insertReturnReceiptLines_ok {source : ReturnSource} {receiptId lineNo : Int}
    {seen : List Int} {lines : List ReturnReceiptLineIn}
    (h : insertReturnReceiptLines source receiptId lineNo seen lines db = .ok db') :
    db' = db.withReceiptLines db'.wms.inboundReceiptLines ∧
      ∃ new, db'.wms.inboundReceiptLines.rows = db.wms.inboundReceiptLines.rows ++ new ∧
        List.Forall₂ (Plans source receiptId) lines new := by
  induction lines generalizing lineNo seen db with
  | nil =>
      cases h
      exact ⟨rfl, [], by simp, .nil⟩
  | cons line rest ih =>
      unfold insertReturnReceiptLines at h
      obtain ⟨src, hcheck, h⟩ := bind_eq_ok.mp h
      obtain ⟨db₁, hinsert, h⟩ := bind_eq_ok.mp h
      obtain ⟨hmem, hid, hitem, hqty⟩ := checkReturnLine_ok hcheck
      obtain ⟨hdb₁, hrows⟩ := insertInboundReceiptLine_ok hinsert
      obtain ⟨hdb', new, hnew, hplans⟩ := ih h
      refine ⟨?_, _ :: new, ?_, .cons ⟨src, hmem, hid, hitem, hqty, lineNo, rfl⟩ hplans⟩
      · rw [hdb', hdb₁]
        rfl
      · rw [hnew, hrows, List.append_assoc, List.singleton_append]

/-- One line, in base units. -/
theorem plans_iff {source : ReturnSource} {receiptId : Int} {orderKey : String}
    (hsource : getInboundReturnSource orderKey db = .ok source) {line : ReturnReceiptLineIn}
    {l : InboundReceiptLine} (h : Plans source receiptId line l) :
    (∀ oi ∈ db.orderItems.rows, l.sourceLineId = some oi.id →
        l.plannedQty * l.ratioToBaseSnapshot ≤ oi.shippedQty - oi.returnedQty) ↔
      line.FitsUnit db := by
  obtain ⟨src, hsrc, hid, hitem, hqty, lineNo, rfl⟩ := h
  obtain ⟨oi, hoi, hpos, hrow⟩ := getInboundReturnSource_ok hsource hsrc
  obtain ⟨u, hu, rfl, hvalid⟩ := returnSourceLine_ok hrow
  have hid : oi.id = line.orderLineId := hid
  have hitem : oi.itemId = line.itemId := hitem
  have hqty : line.plannedQty ≤ oi.remainingRefundable := hqty
  have hratio : 1 ≤ (if u.ratioToBase = 0 then 1 else u.ratioToBase) := hvalid.2.2.2.1
  have hrest : oi.remainingRefundable = oi.shippedQty - oi.returnedQty := by
    unfold OrderItem.remainingRefundable at hpos ⊢
    omega
  rw [hrest] at hqty
  -- the order item of the line is the only one of its id
  have hone : ∀ oi' ∈ db.orderItems.rows, line.orderLineId = oi'.id → oi' = oi := by
    intro oi' hoi' heq
    exact db.orderItems.eq_of_key hoi' hoi (by rw [hid, heq])
  have hplan : (∀ oi' ∈ db.orderItems.rows,
      (returnReceiptLine receiptId lineNo (returnSourceRow db oi u) line).sourceLineId =
        some oi'.id →
      line.plannedQty * (if u.ratioToBase = 0 then 1 else u.ratioToBase) ≤
        oi'.shippedQty - oi'.returnedQty) ↔
      line.plannedQty * (if u.ratioToBase = 0 then 1 else u.ratioToBase) ≤
        oi.shippedQty - oi.returnedQty := by
    constructor
    · intro hall
      exact hall oi hoi (by rw [hid]; rfl)
    · intro hle oi' hoi' heq
      rw [hone oi' hoi' (Option.some.inj heq)]
      exact hle
  refine hplan.trans ?_
  unfold ReturnReceiptLineIn.FitsUnit
  rw [← hitem, hu]
  constructor
  · intro hle u' hu'
    cases hu'
    by_cases hbig : u.ratioToBase ≤ 1
    · exact .inl hbig
    · refine .inr fun oi' hoi' heq => ?_
      rw [hone oi' hoi' heq.symm]
      rw [if_neg (by omega)] at hle
      exact (Int.le_ediv_iff_mul_le (by omega)).mpr hle
  · intro hfits
    rcases hfits u rfl with hsmall | hle
    · have hratio_one : (if u.ratioToBase = 0 then 1 else u.ratioToBase) = 1 := by
        split at hratio
        · rw [if_pos ‹_›]
        · rw [if_neg ‹_›]
          omega
      rw [hratio_one, mul_one]
      exact hqty
    · by_cases hzero : u.ratioToBase = 0
      · rw [if_pos hzero, mul_one]
        exact hqty
      · rw [if_neg hzero] at hratio ⊢
        exact (Int.le_ediv_iff_mul_le (by omega)).mp (hle oi hoi hid)

/-! ## The receipt -/

theorem insertInboundReceipt_ok {r : InboundReceipt} (h : insertInboundReceipt r db = .ok db') :
    ¬ db.wms.inboundReceipts.HasKey r.id ∧
      db' = db.withReceipts (db.wms.inboundReceipts.insert r) := by
  unfold insertInboundReceipt at h
  obtain ⟨_, hnew, h⟩ := bind_eq_ok.mp h
  obtain ⟨-, -, h⟩ := bind_eq_ok.mp h
  obtain ⟨-, -, h⟩ := bind_eq_ok.mp h
  rw [pure_eq_ok] at h
  exact ⟨demand_eq_ok.mp hnew, h.symm⟩

theorem getInboundReceipt_ok {receiptId : Int} {w : Db} {out : InboundReceiptReadOut}
    (h : getInboundReceipt receiptId w = .ok out) : out.receipt.id = receiptId := by
  unfold getInboundReceipt at h
  obtain ⟨receipt, hfound, h⟩ := bind_eq_ok.mp h
  rw [pure_eq_ok] at h
  subst h
  exact (Table.lookup_eq_some.mp (demandSome_eq_ok.mp hfound)).2

/-- **A created receipt.** The lines operations receive against are those of
the payload. -/
theorem createInboundReceiptFromReturnOrder_ok {out : InboundReceiptReadOut}
    (howned : db.wms.ReceiptLinesOwned)
    (h : createInboundReceiptFromReturnOrder payload c db = .ok (out, db')) :
    ∃ source new, getInboundReturnSource payload.orderKey db = .ok source ∧
      List.Forall₂ (Plans source c.receiptId) payload.lines new ∧
      db'.orderItems = db.orderItems ∧
      ∀ l, (∃ t ∈ operationTaskLines db'.wms out.receipt, t.line = l) ↔ l ∈ new := by
  unfold createInboundReceiptFromReturnOrder at h
  obtain ⟨source, hsource, h⟩ := bind_eq_ok.mp h
  split at h
  · cases h
  obtain ⟨-, -, h⟩ := bind_eq_ok.mp h
  obtain ⟨db₁, hhead, h⟩ := bind_eq_ok.mp h
  obtain ⟨db₂, hlines, h⟩ := bind_eq_ok.mp h
  obtain ⟨out', hread, h⟩ := bind_eq_ok.mp h
  cases h
  obtain ⟨hfresh, rfl⟩ := insertInboundReceipt_ok hhead
  obtain ⟨hdb', new, hrows, hplans⟩ := insertReturnReceiptLines_ok hlines
  have hid : out.receipt.id = c.receiptId := getInboundReceipt_ok hread
  refine ⟨source, new, hsource, hplans, by rw [hdb']; rfl, fun l => ?_⟩
  have hrows : db'.wms.inboundReceiptLines.rows = db.wms.inboundReceiptLines.rows ++ new := hrows
  have htask : (∃ t ∈ operationTaskLines db'.wms out.receipt, t.line = l) ↔
      l ∈ db'.wms.inboundReceiptLines.rows ∧ l.inboundReceiptId = c.receiptId := by
    simp [operationTaskLines, hid, List.mem_insertionSort]
  rw [htask, hrows, List.mem_append]
  constructor
  · rintro ⟨hold | hnew, hl⟩
    · exact absurd (show db.wms.inboundReceipts.HasKey c.receiptId from hl ▸ howned l hold) hfresh
    · exact hnew
  · intro hnew
    obtain ⟨line, -, src, -, -, -, -, lineNo, rfl⟩ := exists_of_forall₂ hplans hnew
    exact ⟨.inr hnew, rfl⟩

/-- **Returns within the shipped quantity.** What operations may receive for
a created return receipt was shipped and has not come back, exactly when every
line fits the unit its item is received in. -/
theorem return_receipt_within_shipped {out : InboundReceiptReadOut}
    (howned : db.wms.ReceiptLinesOwned)
    (h : createInboundReceiptFromReturnOrder payload c db = .ok (out, db')) :
    ReturnWithinShipped db' out.receipt ↔ ∀ line ∈ payload.lines, line.FitsUnit db := by
  obtain ⟨source, new, hsource, hplans, hitems, htask⟩ :=
    createInboundReceiptFromReturnOrder_ok howned h
  rw [← forall_iff_of_forall₂ hplans fun line l hplan => plans_iff hsource hplan]
  unfold ReturnWithinShipped
  rw [hitems]
  constructor
  · intro hall l hl oi hoi heq
    obtain ⟨t, ht, rfl⟩ := (htask l).mpr hl
    have hbase : t.plannedQtyBase = t.line.plannedQty * t.line.ratioToBaseSnapshot := by
      obtain ⟨l', -, rfl⟩ := List.mem_map.mp ht
      rfl
    rw [← hbase]
    exact hall t ht oi hoi heq
  · intro hall t ht oi hoi heq
    have hbase : t.plannedQtyBase = t.line.plannedQty * t.line.ratioToBaseSnapshot := by
      obtain ⟨l', -, rfl⟩ := List.mem_map.mp ht
      rfl
    rw [hbase]
    exact hall t.line ((htask t.line).mp ⟨t, ht, rfl⟩) oi hoi heq

/-! ## Boxes -/

/-- The tea was shipped from the first warehouse; it is kept by the piece and
received in boxes of twelve. -/
def sampleReturnShop (shipped : Int) : OmsDb where
  wms :=
    { sampleShop.wms with
      itemUoms :=
        ⟨[{ id := 1, itemId := 1, uom := "PCS", displayName := none, ratioToBase := 1
            isBase := true },
          { id := 2, itemId := 1, uom := "BOX", displayName := none, ratioToBase := 12
            isBase := false, isInboundDefault := true }], by decide⟩
      stockLedger :=
        ⟨[{ key := ⟨"OUTBOUND_SHIP", "ORD:PDD:S1:E1", 1, ⟨1, 1, 1⟩⟩
            reasonCanon := some "OUTBOUND_SHIP", subReason := none, delta := - shipped
            afterQty := 0, occurredAt := 0, traceId := none, eventId := none
            productionDate := none, expiryDate := none }], by simp⟩ }
  orderItems := ⟨[⟨1, 1, 1, none, none, shipped, 0, 0, 0, shipped, 0⟩], by simp⟩

/-- The return of some units of the tea. -/
def sampleReturn (qty : Int) (h : 1 ≤ qty) : ReturnReceiptIn where
  orderKey := "ORD:PDD:S1:E1"
  lines := [{ orderLineId := 1, itemId := 1, plannedQty := qty, plannedQty_ge := h
              orderLineId_ge := one_ge_one, itemId_ge := one_ge_one }]

def sampleReturnDraws : ReturnReceiptDraws := ⟨1, "20260301000000", "ABCDEF"⟩

/-- Two boxes of the twenty-four pieces shipped. -/
theorem return_receipt_within_shipped_sample : ∃ out db',
    createInboundReceiptFromReturnOrder (sampleReturn 2 (by decide)) sampleReturnDraws
      (sampleReturnShop 24) = .ok (out, db') ∧
    (ReturnWithinShipped db' out.receipt ↔
      ∀ line ∈ (sampleReturn 2 (by decide)).lines, line.FitsUnit (sampleReturnShop 24)) ∧
    (operationTaskLines db'.wms out.receipt).map (·.plannedQtyBase) = [24] := by
  have hrun : ∃ x ∈ (createInboundReceiptFromReturnOrder (sampleReturn 2 (by decide))
      sampleReturnDraws (sampleReturnShop 24)).toOption,
      (operationTaskLines x.2.wms x.1.receipt).map (·.plannedQtyBase) = [24] := by
    decide
  obtain ⟨⟨out, db'⟩, hok, hplan⟩ := hrun
  have hok := toOption_eq_some.mp hok
  have howned : (sampleReturnShop 24).wms.ReceiptLinesOwned := by
    intro l hl
    cases hl
  exact ⟨out, db', hok, return_receipt_within_shipped howned hok, hplan⟩

/-- Ten pieces were shipped, and ten boxes are planned to come back. -/
theorem return_receipt_beyond_shipped : ∃ out db',
    createInboundReceiptFromReturnOrder (sampleReturn 10 (by decide)) sampleReturnDraws
      (sampleReturnShop 10) = .ok (out, db') ∧
    ¬ ReturnWithinShipped db' out.receipt ∧
    (operationTaskLines db'.wms out.receipt).map (·.plannedQtyBase) = [120] := by
  have hrun : ∃ x ∈ (createInboundReceiptFromReturnOrder (sampleReturn 10 (by decide))
      sampleReturnDraws (sampleReturnShop 10)).toOption,
      ¬ (∀ t ∈ operationTaskLines x.2.wms x.1.receipt, ∀ oi ∈ x.2.orderItems.rows,
        t.line.sourceLineId = some oi.id → t.plannedQtyBase ≤ oi.shippedQty - oi.returnedQty) ∧
      (operationTaskLines x.2.wms x.1.receipt).map (·.plannedQtyBase) = [120] := by
    decide
  obtain ⟨⟨out, db'⟩, hok, hbeyond, hplan⟩ := hrun
  exact ⟨out, db', toOption_eq_some.mp hok, hbeyond, hplan⟩

end WmsDu
