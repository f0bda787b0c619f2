import WmsDu.System.Sample
import WmsDu.System.Shipped

/-!
# What a document has shipped

A submit reads the progress of a document line as a sum over event lines. The
copies a reversal writes are event lines too and they count as shipments, so
what was reversed counts twice and is never open again.
-/

namespace WmsDu

/-- **What a document has shipped.** In every state the services reach, the
progress of a document line is what its live events ship and twice what its
superseded events ship; so it is right exactly when no shipment of the line was
reversed. -/
theorem submit_progress {allowed : Db → Op → Prop} {db : Db} (h : ReachableBy allowed db)
    (d : DocLine) :
    d.submitted db = db.shipped WmsEvent.Live d + 2 * db.shipped WmsEvent.Superseded d ∧
      (d.submitted db = db.shipped WmsEvent.Live d ↔
        ∀ l ∈ db.outboundEventLines.rows, d.Ships l → ¬ l.Under db WmsEvent.Superseded) := by
  have hv := h.valid
  have heq := h.mirrored.submitted_eq hv h.history d
  refine ⟨heq, ?_⟩
  rw [← hv.shipped_eq_zero]
  omega

theorem submit_progress_sample :
    DocLine.submitted (Op.commits sampleDb sampleReversal) (.manual 1) = 8 ∧
      (Op.commits sampleDb sampleReversal).shipped WmsEvent.Live (.manual 1) = 0 := by
  have hreach : ReachableBy (fun _ _ => True) (Op.commits sampleDb sampleReversal) :=
    (Db.Start.reachableBy sampleDb_start).commits (by decide +kernel)
  have hlive : (Op.commits sampleDb sampleReversal).shipped WmsEvent.Live (.manual 1) = 0 :=
    by decide +kernel
  have hsuperseded : (Op.commits sampleDb sampleReversal).shipped WmsEvent.Superseded
      (.manual 1) = 4 := by decide +kernel
  refine ⟨?_, hlive⟩
  rw [(submit_progress hreach (.manual 1)).1, hlive, hsuperseded]
  rfl

end WmsDu
