import Mathlib
import WmsDu.System.ReceiptSeats
import WmsDu.System.Sample

/-!
# Receiving

No inbound task is received beyond its plan, and a task is completed when all
of it has arrived, as long as one operator at a time works on it. The progress
of a task is read without a lock on it, so two operators at once can go beyond
the plan.
-/

namespace WmsDu

open Txn

/-- Tasks as they are created, before anything is received for them. -/
structure Db.TasksOpen (db : Db) : Prop where
  unique : ∀ r ∈ db.inboundReceipts.rows, ∀ r' ∈ db.inboundReceipts.rows,
    r.receiptNo = r'.receiptNo → r.id = r'.id
  lined : ∀ r ∈ db.inboundReceipts.rows, ∃ l ∈ db.inboundReceiptLines.rows,
    l.inboundReceiptId = r.id
  positive : ∀ l ∈ db.inboundReceiptLines.rows, 0 < l.plannedQty ∧ 0 < l.ratioToBaseSnapshot
  operations : db.wmsInboundOperations = .empty
  operationLines : db.wmsInboundOperationLines = .empty
  pending : ∀ r ∈ db.inboundReceipts.rows, r.status ≠ .completed

theorem Db.TasksOpen.receiptsOk {db : Db} (h : db.TasksOpen) : db.ReceiptsOk := by
  have hnone : ∀ receiptNo lineNo, receivedQtyBase db receiptNo lineNo = 0 := by
    intro receiptNo lineNo
    unfold receivedQtyBase
    rw [h.operationLines]
    rfl
  have hpos : ∀ l ∈ db.inboundReceiptLines.rows, 0 < l.plannedBase := fun l hl =>
    Int.mul_pos (h.positive l hl).1 (h.positive l hl).2
  refine ⟨?_, ?_, h.lined, ?_, ?_⟩
  · intro r hr r' hr' hno
    exact db.inboundReceipts.eq_of_key hr hr' (h.unique r hr r' hr' hno)
  · intro l hl
    rw [h.operationLines] at hl
    cases hl
  · intro r _ l hl _
    rw [hnone]
    exact (hpos l hl).le
  · intro r hr
    refine iff_of_false (h.pending r hr) fun hfull => ?_
    obtain ⟨l, hl, hid⟩ := h.lined r hr
    have hle := hfull l hl hid
    rw [hnone] at hle
    exact absurd (hpos l hl) (by omega)

/-- A task is received within its plan, and completed when all has arrived. -/
def Db.ReceivedInPlan (db : Db) (r : InboundReceipt) : Prop :=
  (∀ l ∈ db.inboundReceiptLines.rows, l.inboundReceiptId = r.id →
    receivedQtyBase db r.receiptNo l.lineNo ≤ l.plannedQty * l.ratioToBaseSnapshot) ∧
  (r.status = .completed ↔ ∀ l ∈ db.inboundReceiptLines.rows, l.inboundReceiptId = r.id →
    receivedQtyBase db r.receiptNo l.lineNo = l.plannedQty * l.ratioToBaseSnapshot)

instance (db : Db) (r : InboundReceipt) : Decidable (db.ReceivedInPlan r) :=
  inferInstanceAs (Decidable ((∀ l ∈ db.inboundReceiptLines.rows, _) ∧
    (_ ↔ ∀ l ∈ db.inboundReceiptLines.rows, _)))

/-- A pool of submits. -/
abbrev OperationPool := Pool Sql Db Lock Redo Err OperationCall InboundOperationSubmitOut

/-- **Receiving.** In every state that submits reach of which no two on one task
overlap, every task is received within its plan, and completed exactly when
every line of it is fully received. -/
theorem receipt_received_in_plan {db : Db} (hdb : db.TasksOpen) {calls : List OperationCall}
    {p : OperationPool} (h : Pool.Reach OperationCall.prog onePerTask (.fresh db calls) p) :
    ∀ r ∈ p.shared.inboundReceipts.rows, p.shared.ReceivedInPlan r := by
  have hstart : Pool.Governed receiptDiscipline (.fresh db calls) :=
    .fresh (D := receiptDiscipline) hdb.receiptsOk calls
  have hok : p.shared.ReceiptsOk := (hstart.reach h).inv
  intro r hr
  refine ⟨hok.bound r hr, (hok.completed r hr).trans ?_⟩
  constructor
  · intro hfull l hl hid
    exact le_antisymm (hok.bound r hr l hl hid) (hfull l hl hid)
  · intro hall l hl hid
    exact (hall l hl hid).ge

/-! ## Two operators -/

/-- The tea is expected: ten pieces. -/
def sampleTaskDb : Db :=
  { sampleDb with
    inboundReceipts := ⟨[
      { id := 1, receiptNo := "R-1", sourceType := .manual, sourceDocId := none, warehouseId := 1
        warehouseNameSnapshot := none, supplierId := none, counterpartyNameSnapshot := none
        status := .released }], by decide⟩
    inboundReceiptLines := ⟨[
      { inboundReceiptId := 1, lineNo := 1, sourceLineId := none, itemId := 1, itemUomId := 1
        plannedQty := 10, itemNameSnapshot := none, itemSpecSnapshot := none
        uomNameSnapshot := none, ratioToBaseSnapshot := 1 }], by decide⟩ }

/-- An operator receives some of the tea. -/
def sampleReceive (n qty : Int) (h : 1 ≤ qty) : OperationCall where
  payload :=
    { receiptNo := "R-1"
      lines := [{ receiptLineNo := 1, receiptLineNo_ge := one_ge_one
                  entries := [{ qtyInbound := qty, qtyInbound_ge := h, dates := dates_none }] }]
      unique_line_no := List.nodup_singleton _ }
  operator := ⟨none, none⟩
  draws :=
    { operationId := n, eventId := n, eventNo := toString n, traceId := toString n
      newLineId := fun i => 10 * n + i, newLotId := fun i => 10 * n + i }

/-- The turns that take one submit to its end. -/
def sampleTurns (i : Nat) : List Nat := List.replicate 24 i

/-- One operator after the other receives six and four pieces. -/
theorem receipt_received_in_plan_sample :
    let p : OperationPool :=
      (Pool.fresh sampleTaskDb [sampleReceive 1 6 (by decide), sampleReceive 2 4 (by decide)]).run
        OperationCall.prog (sampleTurns 0 ++ sampleTurns 1)
    (∀ r ∈ p.shared.inboundReceipts.rows, p.shared.ReceivedInPlan r) ∧
      receivedQtyBase p.shared "R-1" 1 = 10 := by
  have hopen : sampleTaskDb.TasksOpen := ⟨by decide, by decide, by decide, rfl, rfl, by decide⟩
  refine ⟨receipt_received_in_plan hopen (Pool.Keeps.reach ?_), ?_⟩
  · decide
  · decide

/-- Both operators have read the task when the first of them records. -/
def sampleReceivePool : OperationPool :=
  (Pool.fresh sampleTaskDb [sampleReceive 1 6 (by decide), sampleReceive 2 6 (by decide)]).run
    OperationCall.prog
    (List.replicate 4 0 ++ List.replicate 4 1 ++ sampleTurns 0 ++ sampleTurns 1)

/-- Six and six of ten pieces are received, and the task stays open. -/
theorem receipt_over_received :
    Pool.Reach OperationCall.prog .free
        (.fresh sampleTaskDb [sampleReceive 1 6 (by decide), sampleReceive 2 6 (by decide)])
        sampleReceivePool ∧
      receivedQtyBase sampleReceivePool.shared "R-1" 1 = 12 ∧
      ¬ ∀ r ∈ sampleReceivePool.shared.inboundReceipts.rows,
        sampleReceivePool.shared.ReceivedInPlan r :=
  ⟨Pool.reach_run _ _, by decide +kernel, by decide +kernel⟩

end WmsDu
