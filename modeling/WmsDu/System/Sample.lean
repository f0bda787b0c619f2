import WmsDu.Shared.Fallible
import WmsDu.System.Ops

/-!
# A small warehouse

One warehouse, one item without lots of its own and one item kept by
production date, one order and one manual document for each of them. It shows
that a start exists, and the concrete runs of the theorem modules begin here.
-/

namespace WmsDu

/-- An item without expiry dates, kept in the internal lot. -/
def sampleTea : Item :=
  { id := 1, sku := "TEA", name := "tea", spec := none
    policy :=
      { expiryPolicy := .none, shelfLifeValue := none, shelfLifeUnit := none
        lotSourcePolicy := .internalOnly, derivationAllowed := false
        uomGovernanceEnabled := false } }

/-- An item with expiry dates, kept in the supplier's lots. -/
def sampleMilk : Item :=
  { id := 2, sku := "MILK", name := "milk", spec := none
    policy :=
      { expiryPolicy := .required, shelfLifeValue := some 30, shelfLifeUnit := some .day
        lotSourcePolicy := .supplierOnly, derivationAllowed := true
        uomGovernanceEnabled := false } }

/-- The base unit of an item, under the item's id. -/
def sampleUom (itemId : Int) : ItemUom :=
  { id := itemId, itemId := itemId, uom := "PCS", displayName := none, ratioToBase := 1
    isBase := true }

/-- The internal lot of the tea. -/
def sampleTeaLot : Lot :=
  { id := 1, warehouseId := 1, itemId := 1, lotCodeSource := .internal, lotCode := none
    productionDate := none, expiryDate := none, sourceReceiptId := none, sourceLineNo := none
    itemPolicySnapshot := sampleTea.policy }

/-- A lot of the milk. -/
def sampleMilkLot : Lot :=
  { id := 2, warehouseId := 1, itemId := 2, lotCodeSource := .supplier, lotCode := some "LOT-A"
    productionDate := some ⟨2024, 1, 1⟩, expiryDate := some ⟨2024, 1, 31⟩
    sourceReceiptId := none, sourceLineNo := none, itemPolicySnapshot := sampleMilk.policy }

/-- The warehouse before anything happened. -/
def sampleDb : Db :=
  { warehouses := ⟨[1], by decide⟩
    items := ⟨[sampleTea, sampleMilk], by decide⟩
    itemUoms := ⟨[sampleUom 1, sampleUom 2], by decide⟩
    lots := ⟨[sampleTeaLot, sampleMilkLot], by decide⟩
    orders := ⟨[⟨1, "pdd", "S1", "E1"⟩], by decide⟩
    orderLines := ⟨[⟨1, 1, 1, 10⟩, ⟨2, 1, 2, 10⟩], by decide⟩
    manualOutboundDocs := ⟨[⟨1, 1, "MD-1", .released⟩], by decide⟩
    manualOutboundLines := ⟨[⟨1, 1, 1, 1, 10, none, none, none⟩], by decide⟩ }

/-- **A start exists.** -/
theorem sampleDb_start : sampleDb.Start where
  lots := by decide
  stocksLot := rfl
  stockLedger := rfl
  wmsEvents := rfl
  outboundEventLines := rfl
  inboundEventLines := rfl
  countDocs := rfl
  countDocLines := rfl
  countDocLineLotSnapshots := rfl
  returnTasks := rfl
  returnTaskLines := rfl

/-- A count that puts tea into its lot. -/
def sampleCountTea (ref : String) (qty : Int) (h : 0 ≤ qty) : Op :=
  .directCount
    { itemId := 1, warehouseId := 1, qty := qty, ref := ref, occurredAt := 0, qty_ge := h } 0 0

/-- A count that puts milk into its lot. -/
def sampleCountMilk (ref : String) (qty : Int) (h : 0 ≤ qty) : Op :=
  .directCount
    { itemId := 2, warehouseId := 1, qty := qty, ref := ref, lotCode := some "LOT-A"
      occurredAt := 0, productionDate := some ⟨2024, 1, 1⟩, qty_ge := h } 0 0

/-- Tea is counted, shipped for the manual document, and the shipment is
reversed. -/
def sampleReversal : List Op :=
  [sampleCountTea "C1" 7 seven_ge_zero,
    .manualSubmit 1 { traceId := "T1", eventId := 1 }
      { lines := [{ docLineId := 1, itemId := 1, qtyOutbound := 4, lotId := 1
                    docLineId_ge := one_ge_one, itemId_ge := one_ge_one
                    qtyOutbound_gt := four_gt_zero, lotId_ge := one_ge_one }] },
    .outboundReversal 1 { occurredAt := 0, operatorNameSnapshot := "A" } none
      { eventId := 2, eventNo := "R1", traceId := "T2" }]

end WmsDu
