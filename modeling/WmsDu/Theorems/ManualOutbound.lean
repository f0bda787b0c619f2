import Mathlib
import WmsDu.Outbound.Progress
import WmsDu.System.Sample

/-!
# Manual outbound within what was requested

`submit_order_outbound_event` refuses to ship more of a line than was ordered;
`submit_manual_outbound_event` makes no such check. A manual document is
shipped within its request as long as every payload fits what is still open,
and it is completed exactly when every line is done.
-/

namespace WmsDu

open Txn

/-- A submit of one manual document. -/
structure ManualCall where
  call : SubmitCall
  payload : OutboundSubmitIn

/-- Submits of the document, one after the other. -/
def ManualCall.prog (docId : Int) (c : ManualCall) : Tx Unit :=
  (submitManualOutboundEvent docId c.call c.payload).forget

/-- A released document that is not shipped beyond its request, and not done. -/
structure Db.OpenManualDoc (db : Db) (docId : Int) : Prop where
  released : db.ManualStatus docId .released
  within : db.WithinRequest docId
  undone : ¬ db.ManualDone docId

/-- The document is within its request and its status says whether it is done. -/
structure Db.ManualDocSound (db : Db) (docId : Int) : Prop where
  within : db.WithinRequest docId
  status : ∀ s, db.ManualStatus docId s ↔
    if db.ManualDone docId then s = .completed else s = .released

variable {db db' : Db} {docId : Int}

/-- A submit keeps the document within its request exactly when its payload
fits. -/
theorem withinRequest_iff_fits {c : ManualCall}
    (h : (c.prog docId).run db = .ok ((), db')) :
    db'.WithinRequest docId ↔ c.payload.Fits db docId := by
  obtain ⟨out, hrun⟩ := Tx.run_forget_ok.mp h
  obtain ⟨hlines, hqty, -⟩ := run_submitManualOutboundEvent hrun
  unfold Db.WithinRequest OutboundSubmitIn.Fits
  rw [hlines]
  simp only [hqty]

/-- **Step lemma.** -/
theorem ManualCall.sound {c : ManualCall} (h : (c.prog docId).run db = .ok ((), db'))
    (hfit : c.payload.Fits db docId) : db'.ManualDocSound docId := by
  obtain ⟨out, hrun⟩ := Tx.run_forget_ok.mp h
  obtain ⟨-, -, -, hstatus⟩ := run_submitManualOutboundEvent hrun
  exact ⟨(withinRequest_iff_fits h).mpr hfit, hstatus⟩

/-- **Manual outbound.** In every state that submits of fitting payloads
reach, the document is within its request and completed exactly when it is
done; and the next submit keeps it so exactly when its payload fits. -/
theorem manual_outbound_within_request (hdb : db.OpenManualDoc docId) {w : Db}
    (h : Serial (ManualCall.prog docId) (fun w c => c.payload.Fits w docId) db w) :
    w.WithinRequest docId ∧ (w.ManualStatus docId .completed ↔ w.ManualDone docId) ∧
      ∀ (c : ManualCall) w', (c.prog docId).run w = .ok ((), w') →
        (w'.WithinRequest docId ↔ c.payload.Fits w docId) := by
  have hsound : w.ManualDocSound docId := by
    refine h.invariant ?_ fun w w' c _ hfit _ hrun => ManualCall.sound hrun hfit
    refine ⟨hdb.within, fun s => ?_⟩
    rw [if_neg hdb.undone]
    constructor
    · rintro ⟨d, hd, hid, rfl⟩
      obtain ⟨d', hd', hid', hs⟩ := hdb.released
      rw [db.manualOutboundDocs.eq_of_key hd hd' (hid.trans hid'.symm)]
      exact hs
    · rintro rfl
      exact hdb.released
  refine ⟨hsound.within, ?_, fun c w' hrun => withinRequest_iff_fits hrun⟩
  rw [hsound.status]
  split
  · rename_i hdone
    simp [hdone]
  · rename_i hdone
    simp [hdone]

/-! ## One document of ten pieces -/

/-- Twenty pieces of tea in stock. -/
def sampleShelf : Db := (sampleCountTea "C1" 20 (by decide)).prog.commit sampleDb

/-- One line of a payload for the document. -/
def sampleManualLine (qty : Int) (h : 0 < qty) : OutboundSubmitLineIn where
  docLineId := 1
  itemId := 1
  qtyOutbound := qty
  lotId := 1
  qtyOutbound_gt := h
  docLineId_ge := one_ge_one
  itemId_ge := one_ge_one
  lotId_ge := one_ge_one

def sampleManualCall (n : Int) (lines : List OutboundSubmitLineIn) : ManualCall where
  call := { traceId := s!"T{n}", eventId := n }
  payload := { lines := lines }

/-- Four pieces and six of the same line. -/
def sampleManualEnd : Db :=
  ((sampleManualCall 5 [sampleManualLine 4 four_gt_zero, sampleManualLine 6 (by decide)]).prog 1).commit
    sampleShelf

theorem manual_outbound_within_request_sample :
    (sampleManualEnd.WithinRequest 1 ∧
      (sampleManualEnd.ManualStatus 1 .completed ↔ sampleManualEnd.ManualDone 1) ∧
      ∀ (c : ManualCall) w', (c.prog 1).run sampleManualEnd = .ok ((), w') →
        (w'.WithinRequest 1 ↔ c.payload.Fits sampleManualEnd 1)) ∧
      sampleManualEnd.ManualDone 1 ∧ manualSubmittedQty sampleManualEnd 1 = 10 := by
  have hopen : sampleShelf.OpenManualDoc 1 := by
    refine ⟨?_, ?_, ?_⟩
    · decide
    · decide
    · decide
  refine ⟨manual_outbound_within_request hopen (.call _ .start ?_), ?_, ?_⟩
  · decide
  · decide
  · decide

/-- Twelve pieces are shipped for a line of ten. -/
theorem manual_outbound_over_request :
    sampleShelf.OpenManualDoc 1 ∧
      ∃ w, Serial (ManualCall.prog 1) (fun _ _ => True) sampleShelf w ∧ ¬ w.WithinRequest 1 := by
  refine ⟨⟨?_, ?_, ?_⟩,
    ⟨_, .call (sampleManualCall 5 [sampleManualLine 12 (by decide)]) .start trivial, ?_⟩⟩
  · decide
  · decide
  · decide
  · decide

end WmsDu
