import Mathlib
import WmsDu.Inbound.LiveReceipts

/-!
# One live receipt for each source document

A creation asks whether its source has a receipt in one statement and inserts
its own in another; neither a lock on the source nor an index on the receipts
stands between them. The answer still holds at the insert as long as no other
creation for the source is in flight.
-/

namespace WmsDu

open Txn

/-- A pool of receipt calls. -/
abbrev ReceiptPool := Pool (Stmt ReceiptDb ReceiptRedo Err) ReceiptDb ReceiptLock ReceiptRedo Err
  ReceiptCall Unit

/-- **One live receipt.** In every committed state that calls reach without
overlapping creations for one source, no document has two receipts that are
not voided. -/
theorem one_live_receipt {db : ReceiptDb} (hdb : db.OneLive) {calls : List ReceiptCall}
    {p : ReceiptPool} (h : Pool.Reach ReceiptCall.prog (creationTerms db) (.fresh db calls) p) :
    p.shared.OneLive := by
  have hgov : Pool.Governed (creationDiscipline db) p :=
    Pool.Governed.reach (.fresh (D := creationDiscipline db) ⟨.refl db, hdb⟩ calls) h
  exact hgov.inv.2

/-! ## Overlapping creations -/

/-- An order for ten boxes of tea. -/
def sampleReceiptDb : ReceiptDb where
  oms :=
    { sampleShop with
      wms :=
        { sampleShop.wms with
          itemUoms :=
            ⟨[{ id := 1, itemId := 1, uom := "BOX", displayName := none, ratioToBase := 12
                isBase := false }], by decide⟩ } }
  suppliers := ⟨[⟨1, "grower", true⟩], by decide⟩
  purchaseOrders := ⟨[⟨7, 1, "grower", 1, "ann", .created⟩], by decide⟩
  purchaseOrderLines :=
    ⟨[{ id := 70, poId := 7, lineNo := 1, itemId := 1, itemName := "tea", itemSku := "TEA"
        purchaseUomIdSnapshot := 1, purchaseUomNameSnapshot := "BOX"
        purchaseRatioToBaseSnapshot := 12, qtyOrderedInput := 10, qtyOrderedBase := 120
        remark := none }], by simp⟩

/-- A receipt for the order. -/
def sampleCreate (receiptId : Int) (suffix : String) : ReceiptCall :=
  .fromPurchase { sourceDocId := 7, warehouseId := 1, sourceDocId_ge := seven_ge_one
                  warehouseId_ge := one_ge_one } ⟨receiptId, "20260301000000", suffix⟩

/-- One call after the other: the second creation finds the receipt of the
first, which is then released. -/
theorem one_live_receipt_sample :
    let p : ReceiptPool := (Pool.fresh sampleReceiptDb
      [sampleCreate 1 "AAAAAA", sampleCreate 2 "BBBBBB", .release 1]).run ReceiptCall.prog
        ([0, 1, 2].flatMap (List.replicate 10))
    p.shared.OneLive ∧
      (p.shared.receipts.rows.map fun r => (r.id, r.status)) = [(1, .released)] := by
  have hdb : sampleReceiptDb.OneLive := by decide
  refine ⟨one_live_receipt hdb (Pool.Keeps.reach ?_), ?_⟩
  · decide
  · decide

/-- Two creations side by side: both ask before either has committed. -/
theorem one_live_receipt_not :
    sampleReceiptDb.OneLive ∧ ∃ p : ReceiptPool, Pool.Reach ReceiptCall.prog .free
      (.fresh sampleReceiptDb [sampleCreate 1 "AAAAAA", sampleCreate 2 "BBBBBB"]) p ∧
        ¬ p.shared.OneLive := by
  refine ⟨by decide, _, Pool.reach_run _ (List.replicate 7 0 ++ List.replicate 10 1 ++
    List.replicate 4 0), ?_⟩
  decide

end WmsDu
