import Mathlib
import WmsDu.System.Counts
import WmsDu.System.Sample

/-!
# A frozen warehouse keeps its stock

The freeze guard is called service by service. Every service but two that
changes the stock of a warehouse calls it first; the commit of a return task
and the direct shipment do not. While a warehouse is frozen its stock stands
still exactly as long as neither of the two has something to move there.
-/

namespace WmsDu

open Txn Tx

variable {db db' : Db} {w : Int}

/-- A call that moves stock in a warehouse without asking the guard: a return
task that something was received for, or a direct shipment that still needs
something. -/
def Op.Unguarded (op : Op) (db : Db) (w : Int) : Prop :=
  match op with
  | .returnCommit taskId _ =>
      ∃ t ∈ db.returnTasks.rows, t.id = taskId ∧ t.warehouseId = w ∧ t.status ≠ .committed ∧
        ∃ l ∈ returnLines db taskId, 0 < l.pickedQty
  | .directShip c lines =>
      c.warehouseId = w ∧ ∃ n ∈ needByItem lines, 0 < n.2 + alreadyShipped db w n.1 c.ref
  | _ => False

/-! ## Frames -/

/-- Every part but the books of one warehouse. -/
def Part.Spares (w : Int) (p : Part) : Prop := p ≠ .books w

theorem Part.spares_books {w' : Int} (h : w' ≠ w) : Part.Spares w (.books w') :=
  fun heq => h (Part.books.inj heq)

/-- A program that spares the books of a warehouse keeps its stock. -/
theorem run_stockOf {α : Type} {x : Tx α} {a : α} (hx : Within (Part.Spares w) x)
    (h : x.run db = .ok (a, db')) : db'.stockOf w = db.stockOf w :=
  hx.frame (f := fun d => d.stockOf w) (fun _ _ hu => Redo.apply_stockOf hu) h

theorem run_frozen {α : Type} {x : Tx α} {a : α} (hx : Within (· ≠ .countDocs) x)
    (h : x.run db = .ok (a, db')) (hf : db.Frozen w) : db'.Frozen w := by
  have hdocs : db'.countDocs = db.countDocs :=
    hx.frame (fun _ _ hu => Redo.apply_countDocs hu) h
  rw [Db.Frozen, hdocs]
  exact hf

/-! ## The guarded services -/

/-- The lines of an inbound commit stop at the guard, which each line asks. -/
theorem run_commitLines_frozen {event : WmsEvent} {now : Timestamp}
    {lines : List ResolvedCommitLine} {u : Unit} (hf : db.Frozen event.warehouseId)
    (h : (commitLines event now lines).run db = .ok (u, db')) : db' = db := by
  cases lines with
  | nil => cases h; rfl
  | cons line rest =>
      simp only [commitLines, applyInboundStock, Prog.run_bind_ok,
        run_ensureWarehouseNotFrozen_ok] at h
      obtain ⟨_, db₁, hins, _, _, ⟨_, _, ⟨hnot, _⟩, _⟩, _⟩ := h
      exact absurd (run_frozen (within_exec (p := .inboundLines) rfl (by rintro ⟨⟩)) hins hf) hnot

private theorem stockOf_inboundCommit {payload : InboundCommitIn} {userId : Option Int}
    {c : InboundDraws} {out : InboundCommitOut} (hf : db.Frozen payload.warehouseId)
    (h : (commitInbound payload userId c).run db = .ok (out, db')) :
    db'.stockOf payload.warehouseId = db.stockOf payload.warehouseId := by
  simp only [commitInbound, Prog.run_bind_ok, run_ofExcept_ok] at h
  obtain ⟨_, _, ⟨_, rfl⟩, lines, db₁, hlines, _, db₂, hevent, _, db₃, hcommit, _, db₄, hcompl,
    hout⟩ := h
  cases hout
  have hf₁ := run_frozen (within_resolveLines (by rintro ⟨⟩) _ _ _ _ _) hlines hf
  have hf₂ := run_frozen (within_exec (p := .events) rfl (by rintro ⟨⟩)) hevent hf₁
  obtain rfl := run_commitLines_frozen hf₂ hcommit
  rw [run_stockOf (within_when (within_exec (p := .completions) rfl (by rintro ⟨⟩))) hcompl,
    run_stockOf (within_exec (p := .events) rfl (by rintro ⟨⟩)) hevent,
    run_stockOf (within_resolveLines (by rintro ⟨⟩) _ _ _ _ _) hlines]

private theorem stockOf_inboundOperation {payload : InboundOperationSubmitIn} {op : Operator}
    {c : OperationDraws} {out : InboundOperationSubmitOut} (hf : db.Frozen w)
    (h : (submitInboundOperationRepo payload op c).run db = .ok (out, db')) :
    db'.stockOf w = db.stockOf w := by
  simp only [submitInboundOperationRepo, Prog.run_bind_ok, Tx.run_select, Tx.run_requireSome_ok,
    Tx.run_require_ok, run_ensureWarehouseNotFrozen_ok] at h
  obtain ⟨_, _, hread, task, _, ⟨_, rfl⟩, _, _, ⟨_, rfl⟩, _, _, ⟨hnot, rfl⟩, h⟩ := h
  cases hread
  have hne : task.warehouseId ≠ w := fun heq => hnot (heq ▸ hf)
  exact run_stockOf (within_submitReleasedOperation (by rintro ⟨⟩) (by rintro ⟨⟩) (by rintro ⟨⟩) (by rintro ⟨⟩) (Part.spares_books hne) _ _ _) h

private theorem stockOf_writeEventAndLedger {ow : OutboundWrite} {lines : List NormalizedLine}
    {saved : List OutboundEventLine} (hf : db.Frozen w)
    (h : (writeEventAndLedger ow lines).run db = .ok (saved, db')) :
    db'.stockOf w = db.stockOf w := by
  have hne : ow.warehouseId ≠ w := by
    intro heq
    simp only [writeEventAndLedger, Prog.run_bind_ok, run_ensureWarehouseNotFrozen_ok] at h
    obtain ⟨_, _, ⟨hnot, _⟩, _⟩ := h
    exact hnot (heq ▸ hf)
  exact run_stockOf (within_writeEventAndLedger (by rintro ⟨⟩) (by rintro ⟨⟩) (Part.spares_books hne) _) h

private theorem stockOf_manualSubmit {docId : Int} {c : SubmitCall} {payload : OutboundSubmitIn}
    {out : OutboundSubmitOut} (hf : db.Frozen w)
    (h : (submitManualOutboundEvent docId c payload).run db = .ok (out, db')) :
    db'.stockOf w = db.stockOf w := by
  simp only [submitManualOutboundEvent, Prog.run_bind_ok, run_ofExcept_ok, Tx.run_select] at h
  obtain ⟨ctx, _, hctx, lines, _, ⟨_, rfl⟩, saved, db₁, hwrite, _, _, hread, _, db₂, hdone, hout⟩ := h
  obtain rfl := (readOnly_loadManualSubmitContext docId).run_db hctx
  cases hread
  cases hout
  rw [run_stockOf (within_when ?_) hdone, stockOf_writeEventAndLedger hf hwrite]
  exact within_bind (within_exec (p := .other) rfl (by rintro ⟨⟩)) fun _ => within_require _ _

private theorem stockOf_orderSubmit {orderId warehouseId : Int} {c : SubmitCall}
    {payload : OutboundSubmitIn} {out : OutboundSubmitOut} (hf : db.Frozen w)
    (h : (submitOrderOutboundEvent orderId warehouseId c payload).run db = .ok (out, db')) :
    db'.stockOf w = db.stockOf w := by
  simp only [submitOrderOutboundEvent, Prog.run_bind_ok, run_ofExcept_ok, Tx.run_select] at h
  obtain ⟨ctx, _, hctx, lines, _, ⟨_, rfl⟩, _, _, hread, _, _, hcheck, saved, db₁, hwrite, hout⟩ := h
  obtain rfl := (readOnly_loadOrderSubmitContext _ _).run_db hctx
  cases hread
  obtain rfl := (readOnly_checkOrderLines _ _ _ _).run_db hcheck
  cases hout
  exact stockOf_writeEventAndLedger hf hwrite

private theorem stockOf_reverseEvent {Line : Type} (side : ReversalSide Line) (copies : Part)
    (hside : ∀ id l, (side.insertCopy id l).part = some copies) (hcopies : copies.Spares w)
    {eventId : Int} {payload : ReversalIn} {userId : Option Int} {c : EventDraws}
    {out : ReversalOut} (hf : db.Frozen w)
    (h : (reverseEvent side eventId payload userId c).run db = .ok (out, db')) :
    db'.stockOf w = db.stockOf w := by
  simp only [reverseEvent, Prog.run_bind_ok, Tx.run_select, Tx.run_require_ok,
    run_ensureWarehouseNotFrozen_ok] at h
  obtain ⟨_, _, hread, _, _, ⟨_, rfl⟩, original, _, horiginal, lines, _, hlines, _, _,
    ⟨hnot, rfl⟩, _, db₁, hevent, _, db₂, hreverse, _, db₃, hmark, hout⟩ := h
  cases hread
  obtain rfl := (readOnly_getEventForReversal _ _).run_db horiginal
  obtain rfl := (readOnly_listEventLines _ _).run_db hlines
  cases hout
  have hne : original.warehouseId ≠ w := fun heq => hnot (heq ▸ hf)
  rw [run_stockOf (within_exec (p := .events) rfl (by rintro ⟨⟩)) hmark,
    run_stockOf (within_reverseLines hside hcopies (Part.spares_books hne) _ _ _) hreverse,
    run_stockOf (within_exec (p := .events) rfl (by rintro ⟨⟩)) hevent]

private theorem stockOf_countSubmit {req : CountRequest} {newLotId : Int} {now : Timestamp}
    {out : CountResponse} (hf : db.Frozen w)
    (h : (countSubmit req newLotId now).run db = .ok (out, db')) :
    db'.stockOf w = db.stockOf w := by
  have hne : req.warehouseId ≠ w := by
    intro heq
    rw [countSubmit, Prog.run_bind_ok] at h
    obtain ⟨_, _, hguard, _⟩ := h
    exact (run_ensureWarehouseNotFrozen_ok.mp hguard).1 (heq ▸ hf)
  exact run_stockOf (within_countSubmit (by rintro ⟨⟩) (Part.spares_books hne) _ _) h

private theorem stockOf_stockRecount {req : StockRecountRequest} {c : RecountDraws}
    {out : StockRecountOut} (hf : db.Frozen w)
    (h : (stockRecount req c).run db = .ok (out, db')) : db'.stockOf w = db.stockOf w := by
  have hne : req.warehouseId ≠ w := by
    intro heq
    simp only [stockRecount, Prog.run_bind_ok, run_ensureWarehouseNotFrozen_ok] at h
    obtain ⟨_, _, ⟨hnot, _⟩, _⟩ := h
    exact hnot (heq ▸ hf)
  exact run_stockOf (within_stockRecount (by rintro ⟨⟩) (by rintro ⟨⟩) (Part.spares_books hne) _) h

/-- A document is only posted in a warehouse without a frozen one, for it is
the active one itself. -/
private theorem stockOf_postDoc {docId : Int} {reviewedBy : String} {c : CountPostDraws}
    {out : CountDocPostOut} (hc : CountsOk db) (hf : db.Frozen w)
    (h : (postDoc docId reviewedBy c).run db = .ok (out, db')) : db'.stockOf w = db.stockOf w := by
  obtain ⟨doc, hdoc, hposted | hcounted⟩ := run_postDoc_status h
  · rw [run_postDoc_posted hdoc hposted h]
  · obtain ⟨-, name, -, db₂, db₃, hp⟩ := (run_postDoc_ok hdoc hcounted).mp h
    have hne : doc.warehouseId ≠ w := by
      intro heq
      obtain ⟨d, hd, hdw, hstatus⟩ := hf
      obtain ⟨hmem, -⟩ := Table.lookup_eq_some.mp hdoc
      have hid := hc.oneActive d hd doc hmem (by rw [CountDoc.Active, hstatus]; decide)
        (by rw [CountDoc.Active, hcounted]; decide) (hdw.trans heq.symm)
      obtain rfl := db.countDocs.eq_of_key hd hmem hid
      rw [hstatus] at hcounted
      cases hcounted
    rw [hp.done]
    have h₃ := run_stockOf (within_postLines (Part.spares_books hne) _) hp.post
    have h₂ := run_stockOf (w := w) (within_exec (p := .events) rfl (by rintro ⟨⟩)) hp.event
    exact (Redo.apply_stockOf (u := .countDocUpdate docId (.posted c.eventId c.postedAt))
      (by rintro ⟨⟩)).trans (h₃.trans h₂)

/-! ## The two services without the guard -/

/-- Lines nothing was received for are passed over. -/
theorem run_commitReturnLines_nothing {task : ReturnTask} {c : ReturnCommitCall}
    {lines : List ReturnTaskLine} (hnone : ∀ l ∈ lines, l.pickedQty ≤ 0) :
    (commitReturnLines task c lines).run db = .ok ([], db) := by
  induction lines with
  | nil => rfl
  | cons l rest ih =>
      rw [commitReturnLines, if_pos (hnone l List.mem_cons_self)]
      exact ih fun l' hl' => hnone l' (List.mem_cons_of_mem _ hl')

theorem run_getWithLines_ok {taskId : Int} {forUpdate : Bool} {t : TaskWithLines}
    (h : (getWithLines taskId forUpdate).run db = .ok (t, db')) :
    t.task ∈ db.returnTasks.rows ∧ t.task.id = taskId ∧ t.lines = returnLines db taskId ∧
      db = db' := by
  obtain rfl := (readOnly_getWithLines _ _).run_db h
  have hread : ∃ task, db.returnTasks.lookup taskId = some task ∧
      t = ⟨task, returnLines db taskId⟩ := by
    cases forUpdate with
    | true =>
        simp only [getWithLines, if_true, Prog.run_bind_ok, run_selectForUpdate,
          Tx.run_requireSome_ok, Tx.run_select] at h
        obtain ⟨_, _, ⟨rfl, rfl⟩, task, _, ⟨htask, rfl⟩, _, _, hread, hout⟩ := h
        cases hread
        cases hout
        exact ⟨task, htask, rfl⟩
    | false =>
        simp only [getWithLines, Bool.false_eq_true, if_false, Prog.run_bind_ok, Tx.run_select,
          Tx.run_requireSome_ok] at h
        obtain ⟨_, _, hread, task, _, ⟨htask, rfl⟩, _, _, hread', hout⟩ := h
        cases hread
        cases hread'
        cases hout
        exact ⟨task, htask, rfl⟩
  obtain ⟨task, htask, rfl⟩ := hread
  obtain ⟨hmem, hid⟩ := Table.lookup_eq_some.mp htask
  exact ⟨hmem, hid, rfl, rfl⟩

private theorem stockOf_commitReturnTask {taskId : Int} {c : ReturnCommitCall}
    {out : TaskWithLines} (hop : ¬ (Op.returnCommit taskId c).Unguarded db w)
    (h : (commitReturnTask taskId c).run db = .ok (out, db')) : db'.stockOf w = db.stockOf w := by
  rw [commitReturnTask, Prog.run_bind_ok] at h
  obtain ⟨t, _, hread, h⟩ := h
  obtain ⟨hmem, hid, hlines, rfl⟩ := run_getWithLines_ok hread
  by_cases hstatus : t.task.status = .committed
  · rw [if_pos hstatus] at h
    cases h
    rfl
  rw [if_neg hstatus] at h
  simp only [Prog.run_bind_ok] at h
  obtain ⟨effects, db₁, hcommit, _, db₂, hmark, _, db₃, hbooks, hout⟩ := h
  obtain rfl := (readOnly_getWithLines _ _).run_db hout
  have h₁ : db₁.stockOf w = db.stockOf w := by
    by_cases hw : t.task.warehouseId = w
    · -- the task is of this warehouse, so nothing was received for it
      have hnone : ∀ l ∈ t.lines, l.pickedQty ≤ 0 := by
        intro l hl
        by_contra hpos
        exact hop ⟨t.task, hmem, hid, hw, hstatus, l, hlines ▸ hl, not_le.mp hpos⟩
      rw [run_commitReturnLines_nothing hnone] at hcommit
      cases hcommit
      rfl
    · exact run_stockOf (within_commitReturnLines (by rintro ⟨⟩) (Part.spares_books hw) _ _) hcommit
  rw [run_stockOf (within_when (within_enforceThreeBooks (by rintro ⟨⟩) _ _ _ _)) hbooks,
    run_stockOf (within_exec (p := .returns) rfl (by rintro ⟨⟩)) hmark, h₁]

/-- Items that need nothing are passed over. -/
theorem run_shipItems_nothing {c : ShipCall} {policy : Int → Option ExpiryPolicy}
    {needs : List (Int × Int)} {effects out : List ShipEffect}
    (hnone : ∀ n ∈ needs, n.2 + alreadyShipped db c.warehouseId n.1 c.ref ≤ 0)
    (h : (shipItems c policy needs effects).run db = .ok (out, db')) : db' = db := by
  induction needs with
  | nil => cases h; rfl
  | cons n rest ih =>
      simp only [shipItems, Prog.run_bind_ok, Tx.run_require_ok, Tx.run_select] at h
      obtain ⟨_, _, ⟨_, rfl⟩, _, _, hread, h⟩ := h
      cases hread
      rw [if_pos (hnone n List.mem_cons_self)] at h
      exact ih (fun n' hn' => hnone n' (List.mem_cons_of_mem _ hn')) h

private theorem stockOf_shipCommitDirect {c : ShipCall} {lines : List ShipLine} {out : ShipOut}
    (hop : ¬ (Op.directShip c lines).Unguarded db w)
    (h : (shipCommitDirect c lines).run db = .ok (out, db')) : db'.stockOf w = db.stockOf w := by
  by_cases hw : c.warehouseId = w
  · have hnone : ∀ n ∈ needByItem lines,
        n.2 + alreadyShipped db c.warehouseId n.1 c.ref ≤ 0 := by
      intro n hn
      by_contra hpos
      exact hop ⟨hw, n, hn, hw ▸ not_le.mp hpos⟩
    unfold shipCommitDirect at h
    dsimp only at h
    split at h
    · cases h
      rfl
    · simp only [Prog.run_bind_ok, Tx.run_select, Tx.run_require_ok] at h
      obtain ⟨_, _, hread, _, _, ⟨_, rfl⟩, effects, _, hship, _, _, hguard, hout⟩ := h
      cases hread
      cases hout
      obtain rfl := run_shipItems_nothing hnone hship
      refine run_stockOf (within_when ?_) hguard
      exact within_bind (within_select _) fun _ => within_require _ _
  · exact run_stockOf (within_shipCommitDirect (Part.spares_books hw) _) h

/-! ## The freeze -/

/-- **Step lemma.** In a state whose count documents are in order, an
operation leaves the stock of a frozen warehouse as it is, unless it moves
stock there unasked. -/
theorem Op.stockOf_frozen {op : Op} (hc : CountsOk db) (hf : db.Frozen w)
    (hop : ¬ op.Unguarded db w) (h : op.prog.run db = .ok ((), db')) :
    db'.stockOf w = db.stockOf w := by
  cases op with
  | inboundCommit payload userId c =>
      by_cases hw : w = payload.warehouseId
      · subst hw
        obtain ⟨out, h⟩ := run_forget_ok.mp h
        exact stockOf_inboundCommit hf h
      · exact Op.run_stockOf h hw
  | inboundOperation payload operator c =>
      obtain ⟨out, h⟩ := run_forget_ok.mp h
      exact stockOf_inboundOperation hf h
  | orderSubmit orderId warehouseId c payload =>
      obtain ⟨out, h⟩ := run_forget_ok.mp h
      exact stockOf_orderSubmit hf h
  | manualSubmit docId c payload =>
      obtain ⟨out, h⟩ := run_forget_ok.mp h
      exact stockOf_manualSubmit hf h
  | outboundReversal eventId payload userId c =>
      obtain ⟨out, h⟩ := run_forget_ok.mp h
      exact stockOf_reverseEvent outboundSide .outboundLines
        (fun _ _ => rfl) (by rintro ⟨⟩) hf h
  | inboundReversal eventId payload userId c =>
      obtain ⟨out, h⟩ := run_forget_ok.mp h
      exact stockOf_reverseEvent inboundSide .inboundLines
        (fun _ _ => rfl) (by rintro ⟨⟩) hf h
  | directCount req newLotId now =>
      obtain ⟨out, h⟩ := run_forget_ok.mp h
      exact stockOf_countSubmit hf h
  | recount req c =>
      obtain ⟨out, h⟩ := run_forget_ok.mp h
      exact stockOf_stockRecount hf h
  | countPost docId reviewedBy c =>
      obtain ⟨out, h⟩ := run_forget_ok.mp h
      exact stockOf_postDoc hc hf h
  | returnCommit taskId c =>
      obtain ⟨out, h⟩ := run_forget_ok.mp h
      exact stockOf_commitReturnTask hop h
  | directShip c lines =>
      obtain ⟨out, h⟩ := run_forget_ok.mp h
      exact stockOf_shipCommitDirect hop h
  | countCreate payload actor c => exact Op.run_stockOf h id
  | countFreeze docId lineId => exact Op.run_stockOf h id
  | countUpdate docId payload now => exact Op.run_stockOf h id
  | countVoid docId => exact Op.run_stockOf h id
  | returnCreate orderId wh z c => exact Op.run_stockOf h id
  | returnReceive taskId itemId qty => exact Op.run_stockOf h id

/-- A call that asks the guard, or moves nothing, in a warehouse that is
frozen when it runs. -/
def Op.HoldsStill (w : Int) (db : Db) (op : Op) : Prop :=
  op.Fresh db ∧ db.Frozen w ∧ ¬ op.Unguarded db w

/-- **A frozen warehouse keeps its stock.** From any reachable state, in any
run whose calls find the warehouse frozen and do not move its stock unasked,
the `stocks_lot` rows of the warehouse stay what they were. -/
theorem frozen_stock_kept {db db' : Db} {w : Int} (h : Reachable db)
    (hrun : Serial Op.prog (Op.HoldsStill w) db db') : db'.stockOf w = db.stockOf w := by
  have hreach : ∀ d : Db, Serial Op.prog (Op.HoldsStill w) db d → Reachable d := by
    intro d hd
    obtain ⟨db₀, h₀, hs⟩ := h
    exact ⟨db₀, h₀, hs.trans (hd.mono fun _ _ hop => ⟨hop.1, trivial⟩)⟩
  exact hrun.invariant (I := fun d => d.stockOf w = db.stockOf w) rfl
    fun d _ op hd hop hkept hstep =>
      (Op.stockOf_frozen (hreach d hd).countsOk hop.2.1 hop.2.2 hstep).trans hkept

/-- Milk was shipped and three pieces of it are back with an open return task
when the warehouse is frozen. -/
def sampleFrozenDb : Db :=
  Op.commits sampleDb
    [sampleCountTea "C1" 10 (by decide), sampleCountMilk "C2" 10 (by decide),
      .orderSubmit 1 1 { traceId := "T1", eventId := 1 }
        { lines := [{ docLineId := 2, itemId := 2, qtyOutbound := 4, lotId := 2 }] },
      .returnCreate "ORD:PDD:S1:E1" none false { taskId := 1, newLineId := fun n => n + 1 },
      .returnReceive 1 2 3,
      .countCreate { warehouseId := 1, snapshotAt := 0, warehouseId_ge := one_ge_one } none { docId := 1, countNo := "CN1" },
      .countFreeze 1 fun n => n]

theorem sampleFrozenDb_reachable : Reachable sampleFrozenDb :=
  sampleDb_start.reachableBy.commits (by decide)

/-- The commit of the return task puts the milk back, and a direct shipment
takes tea out, in the frozen warehouse. -/
theorem frozen_stock_moves :
    Reachable sampleFrozenDb ∧ sampleFrozenDb.Frozen 1 ∧
      ((Op.returnCommit 1 { atDate := ⟨2024, 1, 1⟩, today := ⟨2024, 1, 1⟩ }).prog.commit
        sampleFrozenDb).stockOf 1 ≠ sampleFrozenDb.stockOf 1 ∧
      ((Op.directShip { warehouseId := 1, ref := "X" } [⟨1, 2⟩]).prog.commit
        sampleFrozenDb).stockOf 1 ≠ sampleFrozenDb.stockOf 1 :=
  ⟨sampleFrozenDb_reachable, by decide, by decide, by decide⟩

theorem frozen_stock_kept_sample :
    ((sampleCountTea "C3" 7 (by decide)).prog.commit sampleFrozenDb).stockOf 1 =
      sampleFrozenDb.stockOf 1 :=
  frozen_stock_kept sampleFrozenDb_reachable
    (.call _ .start ⟨by decide, by decide, id⟩)

end WmsDu
