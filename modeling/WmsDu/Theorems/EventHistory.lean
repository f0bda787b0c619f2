import WmsDu.System.History
import WmsDu.System.Sample

/-!
# Events, reversals and the ledger

What the table of events says about the ledger, in every run of the services.
-/

namespace WmsDu

/-- **Events, reversals and the ledger.** In every state the services reach, an
event is a committed or superseded commit or a reversal; the movements of a
commit are its lines; a reversal names one superseded commit of its type that
no other names and moves every slot back; and what is superseded has its
reversal. -/
theorem event_history {allowed : Db → Op → Prop} {db : Db} (h : ReachableBy allowed db) :
    History db := h.history

theorem event_history_sample :
    History (Op.commits sampleDb sampleReversal) ∧
      (Op.commits sampleDb sampleReversal).wmsEvents.rows.map
          (fun e => (e.eventKind, e.status, e.targetEventId)) =
        [(.commit, .superseded, none), (.reversal, .committed, some 1)] := by
  have hreach : ReachableBy (fun _ _ => True) (Op.commits sampleDb sampleReversal) :=
    (Db.Start.reachableBy sampleDb_start).commits (by decide +kernel)
  exact ⟨event_history hreach, by decide +kernel⟩

end WmsDu
