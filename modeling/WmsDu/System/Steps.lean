import WmsDu.Count.Runs
import WmsDu.System.Effects

/-!
# What one operation adds to the history

Whatever an operation does to stock, it leaves one of four traces: movements
that no event explains, one committed event with the movements it explains, or
the reversal of an outbound or an inbound event.
-/

namespace WmsDu

open Txn Tx

/-! ## Outbound commits -/

section Commits
variable {db db' : Db}

/-- Goods go out: one outbound event, a row for each of its lines. -/
theorem run_writeEventAndLedger_commits {w : OutboundWrite} {lines : List NormalizedLine}
    {saved : List OutboundEventLine}
    (h : (writeEventAndLedger w lines).run db = .ok (saved, db')) :
    ∃ x, Commits db w.event x db' ∧ x.outbound = saved ∧ x.inbound = [] := by
  obtain ⟨-, hnew, rfl, rows, hadd, hrows⟩ := run_writeEventAndLedger_adds h
  have hmoves : List.Forall₂ (outboundSide.Moves w.event fun l => -l.qtyOutbound)
      (lines.map fun ln => ln.eventLine w.doc w.eventId
        ((db.lots.lookup ln.lotId).bind Lot.lotCode)) rows := by
    refine hrows.imp fun l row hrow => ?_
    obtain ⟨after, rfl⟩ := hrow
    exact ⟨rfl, rfl, rfl⟩
  refine ⟨_, ⟨hnew, rfl, rfl, rfl, ?_, List.forall_mem_nil _,
    ReversalSide.linked_of_moves hmoves, hadd, fun _ => hmoves, ?_⟩, rfl, rfl⟩
  · intro l hl
    obtain ⟨ln, -, rfl⟩ := List.mem_map.mp hl
    rfl
  · intro htype
    cases htype

theorem run_submitOrder_commits {orderId warehouseId : Int} {c : SubmitCall}
    {payload : OutboundSubmitIn} {out : OutboundSubmitOut}
    (h : (submitOrderOutboundEvent orderId warehouseId c payload).run db = .ok (out, db')) :
    ∃ e x, Commits db e x db' ∧ e.eventType = .outbound ∧ x.inbound = [] := by
  simp only [submitOrderOutboundEvent, Prog.run_bind_ok, run_ofExcept_ok, Tx.run_select] at h
  obtain ⟨ctx, db₀, hctx, normalized, _, ⟨-, rfl⟩, progress, _, hread, _, db₁, hcheck, saved, db₂,
    hwrite, hret⟩ := h
  cases hread
  cases hret
  obtain rfl := (readOnly_loadOrderSubmitContext _ _).run_db hctx
  obtain rfl := (readOnly_checkOrderLines _ _ _ _).run_db hcheck
  obtain ⟨x, hx, -, hin⟩ := run_writeEventAndLedger_commits hwrite
  exact ⟨_, x, hx, rfl, hin⟩

/-- What adds nothing may follow. -/
theorem Commits.trans {e : WmsEvent} {x : Additions} {db₁ : Db} (h : Commits db e x db₁)
    (h' : Adds db₁ {} db') : Commits db e x db' :=
  { h with
    adds := by
      have hadd := h.adds.trans h'
      obtain ⟨a, b, c, d⟩ := x
      rwa [show ({} : Additions) = ⟨[], [], [], []⟩ from rfl, Additions.mk_append, List.append_nil,
        List.append_nil, List.append_nil, List.append_nil] at hadd }

theorem run_submitManual_commits {docId : Int} {c : SubmitCall} {payload : OutboundSubmitIn}
    {out : OutboundSubmitOut}
    (h : (submitManualOutboundEvent docId c payload).run db = .ok (out, db')) :
    ∃ e x, Commits db e x db' ∧ e.eventType = .outbound ∧ x.inbound = [] := by
  simp only [submitManualOutboundEvent, Prog.run_bind_ok, run_ofExcept_ok, Tx.run_select] at h
  obtain ⟨ctx, db₀, hctx, normalized, _, ⟨-, rfl⟩, saved, db₁, hwrite, rows, _, hread, _, db₂,
    hdone, hret⟩ := h
  cases hread
  cases hret
  obtain rfl := (readOnly_loadManualSubmitContext _).run_db hctx
  obtain ⟨x, hx, -, hin⟩ := run_writeEventAndLedger_commits hwrite
  have hrest : Within (fun p => ¬ p.InHistory)
      (when (listManualDocProgress db₁ docId ≠ [] ∧ ∀ row ∈ listManualDocProgress db₁ docId,
        row.requestedQty ≤ row.submittedQty) (completeManualDoc docId)) :=
    within_when (within_bind (within_exec rfl Part.other_outside) fun _ => within_require _ _)
  exact ⟨_, x, hx.trans (hrest.adds hdone), rfl, hin⟩

/-! ## Posting a count -/

section Post
variable {ctx : CountPostContext}

/-- The movements of a posted count are linked to its event. -/
theorem addsRows_postArgs (hpos : 0 < ctx.eventId) (line : CountDocLine)
    (snap : CountDocLineLotSnapshot) (delta : Int) (sub : String) :
    AddsRows (fun row => row.eventId = some ctx.eventId)
      (adjustLotImpl (postArgs ctx line snap delta sub)) := by
  refine addsRows_adjustLotImpl (e := some ctx.eventId) ?_ fun row hrow _ _ => hrow
  have hget : metaGet (lineMeta ctx line.id sub) "event_id" = .int ctx.eventId := by
    unfold lineMeta metaGet
    simp [List.lookup]
  show metaInt (lineMeta ctx line.id sub) "event_id" = _
  rw [metaInt, hget]
  simp only [if_pos hpos]

theorem addsRows_consumeSnapshots (hpos : 0 < ctx.eventId) (line : CountDocLine) (remaining : Int)
    (snaps : List CountDocLineLotSnapshot) :
    AddsRows (fun row => row.eventId = some ctx.eventId)
      (consumeSnapshots ctx line remaining snaps) := by
  induction snaps generalizing remaining with
  | nil => exact addsRows_readOnly (readOnly_pure _)
  | cons snap rest ih =>
      refine addsRows_ite (addsRows_readOnly (readOnly_pure _)) (addsRows_ite (ih _) ?_)
      refine addsRows_bind (addsRows_postArgs hpos line snap _ _) fun _ => ?_
      exact addsRows_bind (ih _) fun _ => addsRows_readOnly (readOnly_pure _)

theorem addsRows_postLineDiff (hpos : 0 < ctx.eventId) (line : CountDocLine) :
    AddsRows (fun row => row.eventId = some ctx.eventId) (postLineDiff ctx line) := by
  refine addsRows_bind (addsRows_readOnly (readOnly_select _)) fun snaps => ?_
  cases snaps with
  | nil => exact addsRows_readOnly (readOnly_raise _)
  | cons target rest =>
      refine addsRows_ite ?_ (addsRows_ite ?_ ?_)
      · exact addsRows_bind (addsRows_postArgs hpos line target _ _) fun _ =>
          addsRows_readOnly (readOnly_pure _)
      · exact addsRows_bind (addsRows_postArgs hpos line target _ _) fun _ =>
          addsRows_readOnly (readOnly_pure _)
      · refine addsRows_bind (addsRows_consumeSnapshots hpos line _ _) fun _ => ?_
        exact addsRows_bind (addsRows_readOnly (readOnly_require _ _)) fun _ =>
          addsRows_readOnly (readOnly_pure _)

theorem addsRows_postLines (hpos : 0 < ctx.eventId) (lines : List CountDocLine) :
    AddsRows (fun row => row.eventId = some ctx.eventId) (postLines ctx lines) := by
  induction lines with
  | nil => exact addsRows_readOnly (readOnly_pure _)
  | cons line rest ih => exact addsRows_bind (addsRows_postLineDiff hpos line) fun _ => ih

/-- A count that is posted is an event with its movements; a count that was
posted before adds nothing. -/
theorem run_postDoc_commits {docId : Int} {reviewedBy : String} {c : CountPostDraws}
    {out : CountDocPostOut} (h : (postDoc docId reviewedBy c).run db = .ok (out, db')) :
    db' = db ∨ ∃ e x, Commits db e x db' ∧ e.eventType = .count ∧ x.outbound = [] ∧
      x.inbound = [] := by
  obtain ⟨doc, hdoc, hposted | hcounted⟩ := run_postDoc_status h
  · exact Or.inl (run_postDoc_posted hdoc hposted h)
  · obtain ⟨-, name, -, db₂, db₃, hp⟩ := (run_postDoc_ok hdoc hcounted).mp h
    obtain ⟨hpos, hnew, hadd⟩ := run_insertEvent_adds hp.event
    obtain ⟨rows, hrows, hlinked⟩ := addsRows_postLines hpos _ _ _ _ hp.post
    have hreviewed : Adds db {} (db.reviewed docId name) := .of_eq rfl rfl rfl rfl rfl
    have hdone : Adds db₃ {} db' := by
      rw [hp.done]
      exact .of_eq rfl rfl rfl rfl rfl
    have htotal := hreviewed.trans (hadd.trans (hrows.trans hdone))
    refine Or.inr ⟨_, _, ⟨hnew, rfl, rfl, rfl, List.forall_mem_nil _, List.forall_mem_nil _, hlinked,
      by simpa using htotal, ?_, ?_⟩, rfl, rfl, rfl⟩
    · intro htype
      cases htype
    · intro htype
      cases htype

end Post

end Commits

/-! ## The four traces -/

/-- The event that reverses another. -/
structure IsReversalOf {Line : Type} (side : ReversalSide Line) (original e : WmsEvent) : Prop where
  eventType : e.eventType = side.eventType
  kind : e.eventKind = .reversal
  status : e.status = .committed
  target : e.targetEventId = some original.id
  warehouse : e.warehouseId = original.warehouseId

/-- The operation is a submit. -/
def Op.IsSubmit : Op → Prop
  | .orderSubmit _ _ _ _ => True
  | .manualSubmit _ _ _ => True
  | _ => False

/-- The operation posts a count. -/
def Op.IsCountPost : Op → Prop
  | .countPost _ _ _ => True
  | _ => False

/-- What an operation leaves behind. -/
inductive HistoryStep (op : Op) (db db' : Db) : Prop
  | quiet {rows : List StockLedgerRow} (adds : Adds db { ledger := rows } db')
      (unlinked : ∀ row ∈ rows, row.Unlinked)
  | commits {e : WmsEvent} {x : Additions} (commits : Commits db e x db')
      (outbound : op.IsSubmit ∧ e.eventType = .outbound ∨ x.outbound = [])
      (inbound : e.eventType = .inbound ∨ x.inbound = [])
      (counts : op.IsCountPost ∨ e.eventType ≠ .count)
  | outboundReversal {original e : WmsEvent} {ls : List OutboundEventLine}
      {rows : List StockLedgerRow} (isReversal : IsReversalOf outboundSide original e)
      (reverses : Reverses outboundSide db original e ls
        ⟨[e], ls.map fun l => l.copyFor e.id, [], rows⟩ db')
  | inboundReversal {original e : WmsEvent} {ls : List InboundEventLine}
      {rows : List StockLedgerRow} (isReversal : IsReversalOf inboundSide original e)
      (reverses : Reverses inboundSide db original e ls
        ⟨[e], [], ls.map fun l => l.copyFor e.id, rows⟩ db')

section Steps
variable {op : Op} {db db' : Db}

theorem HistoryStep.of_rows {α : Type} {x : Tx α} {a : α} (hx : AddsRows StockLedgerRow.Unlinked x)
    (h : x.run db = .ok (a, db')) : HistoryStep op db db' := by
  obtain ⟨rows, hadd, hrows⟩ := hx _ _ _ h
  exact .quiet hadd hrows

theorem HistoryStep.of_adds (h : Adds db {} db') : HistoryStep op db db' :=
  .quiet (show Adds db { ledger := [] } db' from h) (List.forall_mem_nil _)

/-- An operation on count documents or return tasks only. -/
theorem Op.adds_nothing (h : op.prog.run db = .ok ((), db'))
    (ht : ∀ p ∈ op.tables, p ∈ [Part.countDocs, Part.countLines, Part.returns])
    (hb : ∀ w, ¬ op.inBooks w) : Adds db {} db' := by
  refine Tx.Within.adds (op.within.mono fun p hp => ?_) h
  rcases hp with hp | ⟨w, -, hw⟩
  · have hmem := ht p hp
    simp only [List.mem_cons, List.not_mem_nil, or_false] at hmem
    rcases hmem with rfl | rfl | rfl
    · exact Part.countDocs_outside
    · exact Part.countLines_outside
    · exact Part.returns_outside
  · exact absurd hw (hb w)

/-- **Every operation leaves one of the traces.** -/
theorem Op.historyStep (hfresh : op.Fresh db) (h : op.prog.run db = .ok ((), db')) :
    HistoryStep op db db' := by
  cases op with
  | inboundCommit payload userId c =>
      obtain ⟨out, h⟩ := Tx.run_forget_ok.mp h
      obtain ⟨x, hx, hout⟩ := run_commitInbound_commits (hfresh c.eventNo rfl) h
      exact .commits hx (Or.inr hout) (Or.inl rfl) (Or.inr (by intro hc; cases hc))
  | inboundOperation payload operator c =>
      obtain ⟨out, h⟩ := Tx.run_forget_ok.mp h
      obtain ⟨task, x, -, -, hx, hout, -⟩ := run_submitInboundOperation_commits h
      exact .commits hx (Or.inr hout) (Or.inl rfl) (Or.inr (by intro hc; cases hc))
  | orderSubmit orderId warehouseId c payload =>
      obtain ⟨out, h⟩ := Tx.run_forget_ok.mp h
      obtain ⟨e, x, hx, htype, hin⟩ := run_submitOrder_commits h
      exact .commits hx (Or.inl ⟨trivial, htype⟩) (Or.inr hin) (Or.inr (by rw [htype]; intro hc; cases hc))
  | manualSubmit docId c payload =>
      obtain ⟨out, h⟩ := Tx.run_forget_ok.mp h
      obtain ⟨e, x, hx, htype, hin⟩ := run_submitManual_commits h
      exact .commits hx (Or.inl ⟨trivial, htype⟩) (Or.inr hin) (Or.inr (by rw [htype]; intro hc; cases hc))
  | outboundReversal eventId payload userId c =>
      obtain ⟨out, h⟩ := Tx.run_forget_ok.mp h
      obtain ⟨original, ls, rows, -, hrev⟩ :=
        run_reverseOutboundEvent_reverses (hfresh c.eventNo rfl) h
      have his : IsReversalOf outboundSide original
          (reversalEvent outboundSide original payload userId c) := ⟨rfl, rfl, rfl, rfl, rfl⟩
      exact .outboundReversal his hrev
  | inboundReversal eventId payload userId c =>
      obtain ⟨out, h⟩ := Tx.run_forget_ok.mp h
      obtain ⟨original, ls, rows, -, hrev⟩ :=
        run_reverseInboundEvent_reverses (hfresh c.eventNo rfl) h
      have his : IsReversalOf inboundSide original
          (reversalEvent inboundSide original payload userId c) := ⟨rfl, rfl, rfl, rfl, rfl⟩
      exact .inboundReversal his hrev
  | directCount req newLotId now =>
      obtain ⟨out, h⟩ := Tx.run_forget_ok.mp h
      exact .of_rows (addsRows_countSubmit req newLotId now) h
  | recount req c =>
      obtain ⟨out, h⟩ := Tx.run_forget_ok.mp h
      exact .of_rows (addsRows_stockRecount req c) h
  | countPost docId reviewedBy c =>
      obtain ⟨out, h⟩ := Tx.run_forget_ok.mp h
      rcases run_postDoc_commits h with rfl | ⟨e, x, hx, -, hout, hin⟩
      · exact .of_adds (.refl _)
      · exact .commits hx (Or.inr hout) (Or.inr hin) (Or.inl trivial)
  | returnCommit taskId c =>
      obtain ⟨out, h⟩ := Tx.run_forget_ok.mp h
      exact .of_rows (addsRows_commitReturnTask taskId c) h
  | directShip c lines =>
      obtain ⟨out, h⟩ := Tx.run_forget_ok.mp h
      exact .of_rows (addsRows_shipCommitDirect c lines) h
  | countCreate payload actor c =>
      exact .of_adds (Op.adds_nothing h (by simp [Op.tables]) fun _ hw => hw)
  | countFreeze docId lineId =>
      exact .of_adds (Op.adds_nothing h (by simp [Op.tables]) fun _ hw => hw)
  | countUpdate docId payload now =>
      exact .of_adds (Op.adds_nothing h (by simp [Op.tables]) fun _ hw => hw)
  | countVoid docId =>
      exact .of_adds (Op.adds_nothing h (by simp [Op.tables]) fun _ hw => hw)
  | returnCreate orderId wh z c =>
      exact .of_adds (Op.adds_nothing h (by simp [Op.tables]) fun _ hw => hw)
  | returnReceive taskId itemId qty =>
      exact .of_adds (Op.adds_nothing h (by simp [Op.tables]) fun _ hw => hw)

end Steps
end WmsDu
