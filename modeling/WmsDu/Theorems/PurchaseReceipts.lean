import Mathlib
import WmsDu.System.PurchaseReceipts
import WmsDu.Theorems.LiveReceipts

/-!
# Purchase receipts mirror their order

An order is edited by new lines in place of the old ones, and an edit looks
for released receipts and received goods, not for drafts. A draft made before
the edit keeps naming lines that are gone; its release does not look for them.
Receipts in force mirror their order as long as no such draft is released.
-/

namespace WmsDu

open Txn

/-- Where no purchase receipt was made yet. -/
structure ReceiptDb.Start (db : ReceiptDb) : Prop where
  owned : ∀ l ∈ db.receiptLines.rows, db.receipts.HasKey l.inboundReceiptId
  none : ∀ r ∈ db.receipts.rows, r.sourceType ≠ .purchaseOrder

theorem ReceiptDb.Start.faithful {db : ReceiptDb} (h : db.Start) : db.Faithful where
  owned := h.owned
  copied := fun r hr _ _ hplans => absurd hplans.1 (h.none r hr)
  there := fun r hr _ _ hplans => absurd hplans.1 (h.none r hr)
  received := fun r hr hpurchase => absurd hpurchase (h.none r hr)

/-- Drawn numbers are new, and a released draft is up to date. -/
def PurchaseReceiptOp.InTime (db : ReceiptDb) (op : PurchaseReceiptOp) : Prop :=
  op.Fresh db ∧ op.Current db

instance PurchaseReceiptOp.decidableInTime (db : ReceiptDb) (op : PurchaseReceiptOp) :
    Decidable (op.InTime db) := inferInstanceAs (Decidable (_ ∧ _))

/-- A draft that was released in spite of a missing line does not mirror its
order. -/
theorem PurchaseReceiptOp.current_of_mirrored {db db' : ReceiptDb} {op : PurchaseReceiptOp}
    (hcall : op.call db = .ok db') (hdb' : db'.Mirrored) : op.Current db := by
  cases op with
  | create payload c => trivial
  | operate payload operator c => trivial
  | update poId payload newLineId => trivial
  | release receiptId =>
      intro r hr hid hdraft l hl hplans
      obtain ⟨⟨out, db₁⟩, hrun, hret⟩ := bind_eq_ok.mp hcall
      cases hret
      have hlook : db.receipts.lookup receiptId = some r := Table.lookup_eq_some.mpr ⟨hr, hid⟩
      -- the release found the draft, so the receipt is in force now
      have hdb : db₁ = (ReceiptRedo.release receiptId).apply db := by
        obtain ⟨updated, db₂, hwrite, hrest⟩ := Prog.run_bind_ok.mp hrun
        obtain ⟨us, hexec, rfl⟩ := Prog.run_write_ok.mp hwrite
        rw [hlook] at hexec
        dsimp only at hexec
        rw [if_pos hdraft] at hexec
        cases hexec
        cases hrest
        rfl
      have hr' : { r with status := .released } ∈ db₁.receipts.rows := by
        rw [hdb]
        exact mem_release.mpr ⟨r, hr, by rw [if_pos ⟨hid, hdraft⟩]⟩
      have hl' : l ∈ db₁.receiptLines.rows := by
        rw [hdb]
        exact hl
      obtain ⟨pol, hpol, hsource, -⟩ := hdb' _ hr' l hl' hplans (.inl rfl)
      rw [hdb] at hpol
      exact ⟨pol.id, hsource, pol, hpol, rfl⟩

/-- **Receipts mirror their order.** After any run of creations, releases,
operations and updates in which every draft is up to date when it is released,
each line of each released or completed purchase receipt names a line of the
order and plans what it orders. The next call keeps that exactly when it
releases no draft that is out of date. -/
theorem purchase_receipts_mirror {db₀ db : ReceiptDb} (h₀ : db₀.Start)
    (h : Reaches PurchaseReceiptOp.call PurchaseReceiptOp.InTime db₀ db) :
    db.Mirrored ∧ ∀ (op : PurchaseReceiptOp) (db' : ReceiptDb), op.Fresh db → op.call db = .ok db' →
      (db'.Mirrored ↔ op.Current db) := by
  have hok : db.Faithful := h.invariant h₀.faithful
    fun _ _ _ hop hok hcall => hok.call hop.1 hop.2 hcall
  refine ⟨hok.mirrored, fun op db' hfresh hcall => ⟨fun hdb' => ?_, fun hcurrent => ?_⟩⟩
  · exact PurchaseReceiptOp.current_of_mirrored hcall hdb'
  · exact (hok.call hfresh hcurrent hcall).mirrored

/-! ## Ten boxes, then eight -/

/-- The first receipt of the order. -/
def sampleCreateFirst : PurchaseReceiptOp :=
  .create { sourceDocId := 7, warehouseId := 1, sourceDocId_ge := seven_ge_one
            warehouseId_ge := one_ge_one } ⟨1, "20260301000000", "AAAAAA"⟩

/-- Eight boxes in place of ten. -/
def sampleEight : PurchaseReceiptOp :=
  .update 7
    { supplierId := 1, warehouseId := 1, purchaser := "ann"
      supplierId_pos := one_gt_zero, warehouseId_pos := one_gt_zero
      lines := [{ lineNo := 1, itemId := 1, uomId := 1, qtyInput := 8, lineNo_pos := one_gt_zero
                  itemId_pos := one_gt_zero, uomId_pos := one_gt_zero }] } fun i => 70 + i

/-- The eight boxes arrive. -/
def sampleArrive : PurchaseReceiptOp :=
  .operate
    { receiptNo := "IR-PO-7-20260301000000-AAAAAA"
      lines := [{ receiptLineNo := 1, entries := [{ qtyInbound := 8, dates := dates_none }]
                  receiptLineNo_ge := one_ge_one }]
      unique_line_no := List.nodup_singleton _ }
    ⟨none, none⟩
    { operationId := 1, eventId := 1, eventNo := "N-1", traceId := "T-1"
      newLineId := fun i => i, newLotId := fun i => 10 + i }

/-- The order is edited before a receipt is made, which is then released and
completed. -/
theorem purchase_receipts_mirror_sample : ∃ db,
    callAll PurchaseReceiptOp.call PurchaseReceiptOp.InTime sampleReceiptDb
        [sampleEight, sampleCreateFirst, .release 1, sampleArrive] = some db ∧
      (db.Mirrored ∧ ∀ (op : PurchaseReceiptOp) (db' : ReceiptDb), op.Fresh db → op.call db = .ok db' →
        (db'.Mirrored ↔ op.Current db)) ∧
      db.receipts.rows.map (·.status) = [.completed] ∧
      db.receiptLines.rows.map (fun l => (l.sourceLineId, l.plannedQty)) = [(some 71, 8)] := by
  have hrun : ∃ db ∈ callAll PurchaseReceiptOp.call PurchaseReceiptOp.InTime sampleReceiptDb
      [sampleEight, sampleCreateFirst, .release 1, sampleArrive],
      db.receipts.rows.map (·.status) = [.completed] ∧
      db.receiptLines.rows.map (fun l => (l.sourceLineId, l.plannedQty)) = [(some 71, 8)] := by
    decide
  obtain ⟨db, hdb, hafter⟩ := hrun
  have hstart : sampleReceiptDb.Start := ⟨by decide, by decide⟩
  exact ⟨db, hdb, purchase_receipts_mirror hstart (.of_callAll .start hdb), hafter⟩

/-- The order is edited while its receipt is a draft: the receipt is released
for ten boxes of a line that is gone, and cannot be received. -/
theorem purchase_receipts_mirror_not : sampleReceiptDb.Start ∧
    ∃ db, Reaches PurchaseReceiptOp.call PurchaseReceiptOp.Fresh sampleReceiptDb db ∧
      ¬ db.Mirrored ∧ (sampleArrive.call db).toOption = none := by
  refine ⟨⟨by decide, by decide⟩, ?_⟩
  have hrun : ∃ db ∈ callAll PurchaseReceiptOp.call PurchaseReceiptOp.Fresh sampleReceiptDb
      [sampleCreateFirst, sampleEight, .release 1],
      ¬ db.Mirrored ∧ (sampleArrive.call db).toOption.isNone := by
    decide
  obtain ⟨db, hdb, hnot, hfails⟩ := hrun
  exact ⟨db, .of_callAll .start hdb, hnot, Option.isNone_iff_eq_none.mp hfails⟩

end WmsDu
