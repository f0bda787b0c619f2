import Mathlib
import WmsDu.System.Purchases
import WmsDu.System.Sample

/-!
# The purchase completion read model

`purchase_order_line_completion` against the committed purchase events. The
rows answer to the facts as long as purchases are received through
`commit_inbound`: the operation service adds facts, and the reversal service
takes some away, without a word to the rows.
-/

namespace WmsDu

open Txn

/-- Where purchases stand before anything was received. -/
structure PurchaseDb.Start (db : PurchaseDb) : Prop where
  lines : db.wms.inboundEventLines.rows = []
  rows : ∀ pol ∈ db.purchaseOrderLines.rows, ∃ c ∈ db.wms.poLineCompletion.rows, c.Of pol
  fresh : ∀ c ∈ db.wms.poLineCompletion.rows, c.Shows 0

theorem PurchaseDb.Start.completionOk {db : PurchaseDb} (h : db.Start) : db.CompletionOk where
  linked := by
    intro l hl
    rw [h.lines] at hl
    cases hl
  owned := by
    intro l hl
    rw [h.lines] at hl
    cases hl
  rows := h.rows
  shown := by
    intro c hc
    have hzero : receivedFacts db.wms c.poLineId = 0 := by
      unfold receivedFacts
      rw [h.lines]
      rfl
    rw [hzero]
    exact h.fresh c hc

/-- Calls that leave the facts of purchase lines to `commit_inbound`. -/
def PurchaseOp.Direct (db : PurchaseDb) (op : PurchaseOp) : Prop :=
  op.Fresh db ∧ ¬ op.Bypasses db

instance (db : PurchaseDb) (op : PurchaseOp) : Decidable (op.Direct db) :=
  inferInstanceAs (Decidable (_ ∧ _))

/-- **The read model equals the facts.** After any run of commits, operations,
reversals and updates of which none bypasses the rows, each purchase line has
its row, with what was received for it and what that determines. -/
theorem completion_shows_facts {db₀ db : PurchaseDb} (h₀ : db₀.Start)
    (h : Reaches PurchaseOp.call PurchaseOp.Direct db₀ db) :
    ∀ pol ∈ db.purchaseOrderLines.rows, ∃ c ∈ db.wms.poLineCompletion.rows,
      c.Of pol ∧ c.Shows (receivedFacts db.wms pol.id) := by
  have hok : db.CompletionOk := h.invariant h₀.completionOk
    fun _ _ _ hop hok hcall => hok.call hop.1 hop.2 hcall
  intro pol hpol
  obtain ⟨c, hc, hof⟩ := hok.rows pol hpol
  refine ⟨c, hc, hof, ?_⟩
  rw [← hof.line]
  exact hok.shown c hc

/-! ## An order of tea -/

/-- A row with nothing received. -/
def sampleCompletion (poLineId poId ordered : Int) : PoLineCompletion :=
  { poLineId := poLineId, poId := poId, qtyOrderedBase := ordered, qtyReceivedBase := 0
    qtyRemainingBase := ordered, lineCompletionStatus := .notReceived, lastReceivedAt := none }

/-- A line that orders tea. -/
def sampleTeaLine (id poId qty : Int) : PurchaseOrderLine :=
  { id := id, poId := poId, lineNo := 1, itemId := 1, itemName := "tea", itemSku := "TEA"
    purchaseUomIdSnapshot := 1, purchaseUomNameSnapshot := "PCS"
    purchaseRatioToBaseSnapshot := 1, qtyOrderedInput := qty, qtyOrderedBase := qty
    remark := none }

/-- Two orders of ten, and a released task for the first of them. -/
def samplePurchaseDb : PurchaseDb where
  wms :=
    { sampleDb with
      inboundReceipts := ⟨[
        { id := 1, receiptNo := "R-1", sourceType := .purchaseOrder, sourceDocId := some 1
          warehouseId := 1, warehouseNameSnapshot := none, supplierId := some 1
          counterpartyNameSnapshot := none, status := .released }], by decide⟩
      inboundReceiptLines := ⟨[
        { inboundReceiptId := 1, lineNo := 1, sourceLineId := some 1, itemId := 1, itemUomId := 1
          plannedQty := 10, itemNameSnapshot := none, itemSpecSnapshot := none
          uomNameSnapshot := none, ratioToBaseSnapshot := 1 }], by decide⟩
      poLineCompletion := ⟨[sampleCompletion 1 1 10, sampleCompletion 2 2 10], by decide⟩ }
  suppliers := ⟨[⟨1, "Tea House", true⟩], by decide⟩
  purchaseOrders := ⟨[⟨1, 1, "Tea House", 1, "Ann", .created⟩,
    ⟨2, 1, "Tea House", 1, "Ann", .created⟩], by decide⟩
  purchaseOrderLines := ⟨[sampleTeaLine 1 1 10, sampleTeaLine 2 2 10], by decide⟩

/-- Tea received for a purchase line. -/
def sampleCommitTea (n qty poLineId : Int) (h : 0 < qty) : PurchaseOp :=
  .commit
    { warehouseId := 1, sourceType := .purchaseOrder, sourceRef := some "PO", occurredAt := 5
      lines := [{ itemId := some 1, uomId := some 1, qtyInput := qty, poLineId := some poLineId
                  qtyInput_gt := h }] } none
    { eventId := n, eventNo := toString n, traceId := toString n, newLotId := fun i => 10 * n + i }

/-- The second order raised to twelve, under a new line number. -/
def sampleRaise : PurchaseOp :=
  .update 2
    { supplierId := 1, warehouseId := 1, purchaser := "Ann"
      lines := [{ lineNo := 2, itemId := 1, uomId := 1, qtyInput := 12 }] } fun i => 5 + i

/-- Six of the first ten pieces arrive, the second order is raised, and its
goods arrive. -/
theorem completion_shows_facts_sample : ∃ db,
    callAll PurchaseOp.call PurchaseOp.Direct samplePurchaseDb
        [sampleCommitTea 1 6 1 (by decide), sampleRaise, sampleCommitTea 2 12 7 (by decide)] =
      some db ∧
      (∀ pol ∈ db.purchaseOrderLines.rows, ∃ c ∈ db.wms.poLineCompletion.rows,
        c.Of pol ∧ c.Shows (receivedFacts db.wms pol.id)) ∧
      db.purchaseOrderLines.rows.map (·.id) = [1, 7] ∧
      receivedFacts db.wms 1 = 6 ∧ receivedFacts db.wms 7 = 12 := by
  have hrun : (callAll PurchaseOp.call PurchaseOp.Direct samplePurchaseDb
      [sampleCommitTea 1 6 1 (by decide), sampleRaise,
        sampleCommitTea 2 12 7 (by decide)]).isSome := by decide
  obtain ⟨db, hdb⟩ := Option.isSome_iff_exists.mp hrun
  have hafter : ∀ db' ∈ callAll PurchaseOp.call PurchaseOp.Direct samplePurchaseDb
      [sampleCommitTea 1 6 1 (by decide), sampleRaise, sampleCommitTea 2 12 7 (by decide)],
      db'.purchaseOrderLines.rows.map (·.id) = [1, 7] ∧
        receivedFacts db'.wms 1 = 6 ∧ receivedFacts db'.wms 7 = 12 := by decide
  refine ⟨db, hdb, ?_, hafter db hdb⟩
  have hstart : samplePurchaseDb.Start := ⟨rfl, by decide, by decide⟩
  exact completion_shows_facts hstart (.of_callAll .start hdb)

/-- Four pieces of the first order, received through its task. -/
def sampleOperateTea : PurchaseOp :=
  .operation
    { receiptNo := "R-1"
      lines := [{ receiptLineNo := 1, entries := [{ qtyInbound := 4 }], receiptLineNo_ge := one_ge_one }]
      unique_line_no := List.nodup_singleton _ }
    ⟨none, none⟩
    { operationId := 1, eventId := 1, eventNo := "N-1", traceId := "T-1"
      newLineId := fun i => i, newLotId := fun i => 10 + i }

/-- A reversal of the first event. -/
def sampleReverseTea : PurchaseOp :=
  .reversal 1 { occurredAt := 9, operatorNameSnapshot := "Ann" } none
    { eventId := 9, eventNo := "N-9", traceId := "T-9" }

/-- **The row misses an operation and a reversal.** Four pieces received through
the task leave the row at zero; six received by a commit stay in it after the
commit was reversed. -/
theorem completion_misses_facts :
    (∃ db, Reaches PurchaseOp.call PurchaseOp.Fresh samplePurchaseDb db ∧
      receivedFacts db.wms 1 = 4 ∧
      ∀ c ∈ db.wms.poLineCompletion.rows, c.poLineId = 1 → c.qtyReceivedBase = 0) ∧
    ∃ db, Reaches PurchaseOp.call PurchaseOp.Fresh samplePurchaseDb db ∧
      receivedFacts db.wms 1 = 0 ∧
      ∀ c ∈ db.wms.poLineCompletion.rows, c.poLineId = 1 → c.qtyReceivedBase = 6 := by
  have hrun : ∀ ops : List PurchaseOp,
      (callAll PurchaseOp.call PurchaseOp.Fresh samplePurchaseDb ops).isSome → ∃ db,
        callAll PurchaseOp.call PurchaseOp.Fresh samplePurchaseDb ops = some db ∧
          Reaches PurchaseOp.call PurchaseOp.Fresh samplePurchaseDb db := fun ops h => by
    obtain ⟨db, hdb⟩ := Option.isSome_iff_exists.mp h
    exact ⟨db, hdb, .of_callAll .start hdb⟩
  constructor
  · have hafter : ∀ db ∈ callAll PurchaseOp.call PurchaseOp.Fresh samplePurchaseDb
        [sampleOperateTea], receivedFacts db.wms 1 = 4 ∧
          ∀ c ∈ db.wms.poLineCompletion.rows, c.poLineId = 1 → c.qtyReceivedBase = 0 := by
      decide
    obtain ⟨db, hdb, hreach⟩ := hrun [sampleOperateTea] (by decide)
    exact ⟨db, hreach, hafter db hdb⟩
  · have hafter : ∀ db ∈ callAll PurchaseOp.call PurchaseOp.Fresh samplePurchaseDb
        [sampleCommitTea 1 6 1 (by decide), sampleReverseTea], receivedFacts db.wms 1 = 0 ∧
          ∀ c ∈ db.wms.poLineCompletion.rows, c.poLineId = 1 → c.qtyReceivedBase = 6 := by
      decide
    obtain ⟨db, hdb, hreach⟩ := hrun
      [sampleCommitTea 1 6 1 (by decide), sampleReverseTea] (by decide)
    exact ⟨db, hreach, hafter db hdb⟩

end WmsDu
