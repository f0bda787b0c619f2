import Mathlib
import WmsDu.System.Classification
import WmsDu.System.Sample

/-!
# The classes of ledger rows

Two of the three writers of the ledger give a row the class its reason stands
for; the outbound event writer gives its rows one that stands for no reason.
What a row has once been given it keeps.
-/

namespace WmsDu

open Txn

/-- A pool of calls of every service. -/
abbrev OpPool := Pool Sql Db Lock Redo Err Op Unit

private theorem replay_extends {us : List Redo}
    (h : ∀ u ∈ us, ∃ P : StockLedgerRow → Prop, u.Enters P) (db : Db) :
    ∀ row ∈ db.stockLedger.rows, ∃ row' ∈ (replay Sql us db).stockLedger.rows,
      row.Extends row' ∧ (row.Classified → row'.Classified) := by
  induction us generalizing db with
  | nil => exact fun row hrow => ⟨row, hrow, .refl row, id⟩
  | cons u us ih =>
      intro row hrow
      obtain ⟨P, hu⟩ := h u List.mem_cons_self
      obtain ⟨row', hrow', hext, hclass⟩ := Redo.apply_extends hu db row hrow
      obtain ⟨row'', hrow'', hext', hclass'⟩ :=
        ih (fun v hv => h v (List.mem_cons_of_mem _ hv)) _ row' hrow'
      exact ⟨row'', hrow'', hext.trans hext', fun hc => hclass' (hclass hc)⟩

private theorem enters_of_plain {op : Op} (hop : ¬ op.SubmitsOutbound) {u : Redo}
    (hu : u.Enters fun row => row.Classified ↔ ¬ op.SubmitsOutbound) :
    u.Enters StockLedgerRow.Classified := by
  cases u with
  | ledgerInsert row => exact Iff.mpr hu hop
  | _ => exact hu

/-- **Ledger rows.** However the calls of all services are interleaved: the
rows a call enters are classified exactly if it submits no outbound document;
the rows that are there keep their key, their quantities and every column that
was set; and where no call submits an outbound document, a ledger of classified
rows stays one. -/
theorem ledger_rows {db₀ : Db} {ops : List Op} {p p' : OpPool}
    (h : Pool.Reach Op.prog .free (.fresh db₀ ops) p) (h' : Pool.Reach Op.prog .free p p') :
    (∀ {i : Nat} {op : Op} {rest : Tx Unit} {log : List Redo} {held : List Lock},
      p.sessions[i]? = some (op, .live rest log held) → ∀ row, Redo.ledgerInsert row ∈ log →
        (row.Classified ↔ ¬ op.SubmitsOutbound)) ∧
    (∀ row ∈ p.shared.stockLedger.rows, ∃ row' ∈ p'.shared.stockLedger.rows,
      row.Extends row' ∧ (row.Classified → row'.Classified)) ∧
    ((∀ row ∈ db₀.stockLedger.rows, row.Classified) → (∀ op ∈ ops, ¬ op.SubmitsOutbound) →
      ∀ row ∈ p.shared.stockLedger.rows, row.Classified) := by
  have hexec {op : Op} {β : Type} {s : Sql β} {w : Db} {b : β} {us : List Redo}
      (hs : s.Enters fun row => row.Classified ↔ ¬ op.SubmitsOutbound)
      (he : Database.exec s w = .ok (b, us)) :
      ∀ u ∈ us, u.Enters fun row => row.Classified ↔ ¬ op.SubmitsOutbound := Sql.exec_enters hs he
  have hprog : ∀ op : Op, op.prog.Every fun s =>
      s.Enters fun row => row.Classified ↔ ¬ op.SubmitsOutbound := Op.enters
  obtain ⟨hwrote, -, us, hshared, hus⟩ := Pool.Wrote.reach (p := .fresh db₀ ops)
    (Q := fun op _ s => s.Enters fun row => row.Classified ↔ ¬ op.SubmitsOutbound)
    (K := fun op u => u.Enters fun row => row.Classified ↔ ¬ op.SubmitsOutbound)
    Pool.wrote_fresh hprog hexec h
  obtain ⟨-, -, vs, hshared', hvs⟩ := hwrote.reach hprog hexec h'
  refine ⟨fun hi row hrow => (hwrote.runs hi).2 _ hrow, ?_, fun hdb hops => ?_⟩
  · rw [hshared']
    refine replay_extends (fun v hv => ?_) _
    obtain ⟨op, -, hop⟩ := hvs v hv
    exact ⟨_, hop⟩
  · rw [hshared]
    refine replay_preserves (S := Sql) (p := fun u => u.Enters StockLedgerRow.Classified)
      (I := fun db => ∀ row ∈ db.stockLedger.rows, row.Classified)
      (fun u db hu hdb => Redo.apply_classified hu hdb) us _ (fun u hu => ?_) hdb
    obtain ⟨op, hop, hu⟩ := hus u hu
    rw [Pool.calls_fresh] at hop
    exact enters_of_plain (hops op hop) hu

/-! ## Two counts, and a shipment -/

/-- Tea and milk are counted at the same time. -/
def sampleCountPool : OpPool :=
  .fresh sampleDb [sampleCountTea "C1" 10 ten_ge_zero, sampleCountMilk "C2" 10 ten_ge_zero]

/-- Both counts run to their end in turns; the second has written its row when
the first is committed. -/
def sampleCountSchedule : List Nat := List.replicate 30 [0, 1] |>.flatten

def sampleCountEnd : OpPool := sampleCountPool.run Op.prog sampleCountSchedule

theorem ledger_rows_sample :
    sampleCountEnd.shared.stockLedger.rows.map StockLedgerRow.reasonCanon =
        [some "ADJUSTMENT", some "ADJUSTMENT"] ∧
      ∀ row ∈ sampleCountEnd.shared.stockLedger.rows, row.Classified := by
  have hreach : Pool.Reach Op.prog .free sampleCountPool sampleCountEnd := Pool.reach_run _ _
  refine ⟨by decide +kernel, (ledger_rows hreach .start).2.2 ?_ ?_⟩
  · exact fun _ h => absurd h List.not_mem_nil
  · intro op hop
    rcases List.mem_cons.mp hop with rfl | hop
    · exact id
    · rw [List.mem_singleton.mp hop]
      exact id

/-- Milk that was counted is shipped for an order. -/
def sampleShipmentPool : OpPool :=
  .fresh sampleDb [sampleCountMilk "C1" 10 ten_ge_zero,
    .orderSubmit 1 1 { traceId := "T1", eventId := 1 }
      { lines := [{ docLineId := 2, itemId := 2, qtyOutbound := 4, lotId := 2
                    docLineId_ge := two_ge_one, itemId_ge := two_ge_one
                    qtyOutbound_gt := four_gt_zero, lotId_ge := two_ge_one }] }]

/-- The row of a shipment has a class that is not that of its reason. -/
theorem ledger_rows_not : ∃ p : OpPool, Pool.Reach Op.prog .free sampleShipmentPool p ∧
    sampleShipmentPool.shared.stockLedger.rows = [] ∧
    ∃ row ∈ p.shared.stockLedger.rows,
      row.key.reason = "OUTBOUND_SHIP" ∧ row.reasonCanon = some "OUTBOUND" ∧
        canonReason row.key.reason = some "SHIPMENT" := by
  refine ⟨_, Pool.reach_run _ (List.replicate 30 0 ++ List.replicate 30 1), rfl, ?_⟩
  decide +kernel

end WmsDu
