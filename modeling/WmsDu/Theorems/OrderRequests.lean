import WmsDu.Outbound.Progress
import WmsDu.System.Sample
import WmsDu.System.Shipped

/-!
# Orders and what they request

`submit_order_outbound_event` compares each line of a payload with the progress
it read once. Where no line of the order is named twice, that keeps the order
within its request through every run.
-/

namespace WmsDu

open Txn Tx

/-! ## What a submit of an order checks -/

/-- Every line of the payload is normalised. -/
theorem exists_normalizeFrom {texts : LineTexts} {source : Int → Option SourceLine} {n : Int}
    {lines : List OutboundSubmitLineIn} {normalized : List NormalizedLine}
    (h : normalizeFrom texts source n lines = .ok normalized) :
    ∀ l ∈ lines, ∃ ln ∈ normalized, ln.docLineId = l.docLineId ∧ ln.qtyOutbound = l.qtyOutbound := by
  induction lines generalizing n normalized with
  | nil => exact List.forall_mem_nil _
  | cons raw rest ih =>
      rw [normalizeFrom] at h
      (repeat' split at h) <;> cases h
      rename_i hrest
      rw [List.forall_mem_cons]
      refine ⟨⟨_, List.mem_cons_self, rfl, rfl⟩, fun l hl => ?_⟩
      obtain ⟨ln, hln, heq⟩ := ih hrest l hl
      exact ⟨ln, List.mem_cons_of_mem _ hln, heq⟩

theorem run_checkOrderLines_ok {progress : Int → LineProgress} {sourceRef : String}
    {warehouseId : Int} {lines : List NormalizedLine} {db db' : Db} {u : Unit}
    (h : (checkOrderLines progress sourceRef warehouseId lines).run db = .ok (u, db')) :
    ∀ ln ∈ lines, 0 < (progress ln.docLineId).reqQty ∧
      (progress ln.docLineId).submittedQty + ln.qtyOutbound ≤ (progress ln.docLineId).reqQty := by
  induction lines with
  | nil => exact List.forall_mem_nil _
  | cons ln rest ih =>
      simp only [checkOrderLines, Prog.run_bind_ok, Tx.run_require_ok, Tx.run_select] at h
      obtain ⟨_, _, ⟨hreq, rfl⟩, _, _, ⟨-, rfl⟩, _, _, ⟨hfit, rfl⟩, _, _, hread, _, _, ⟨-, rfl⟩,
        hrest⟩ := h
      cases hread
      exact List.forall_mem_cons.mpr ⟨⟨hreq, hfit⟩, ih hrest⟩

/-- A submit of an order ships what its payload says; line by line it fits what
the order requests. -/
theorem run_submitOrder_progress {orderId warehouseId : Int} {c : SubmitCall}
    {payload : OutboundSubmitIn} {out : OutboundSubmitOut} {db db' : Db}
    (h : (submitOrderOutboundEvent orderId warehouseId c payload).run db = .ok (out, db')) :
    (∀ id, submittedQty db' id = submittedQty db id + payload.qtyFor id) ∧
      ∀ l ∈ payload.lines, ∃ ol ∈ db.orderLines.rows, ol.id = l.docLineId ∧
        submittedQty db ol.id + l.qtyOutbound ≤ ol.reqQty := by
  simp only [submitOrderOutboundEvent, Prog.run_bind_ok, run_ofExcept_ok, Tx.run_select] at h
  obtain ⟨ctx, db₀, hctx, normalized, _, ⟨hnorm, rfl⟩, progress, _, hread, _, db₁, hcheck, saved,
    db₂, hwrite, hret⟩ := h
  cases hread
  cases hret
  obtain rfl := (readOnly_loadOrderSubmitContext _ _).run_db hctx
  obtain rfl := (readOnly_checkOrderLines _ _ _ _).run_db hcheck
  have hfrom := normalizeFrom_of_submitLines hnorm
  refine ⟨fun id => ?_, fun l hl => ?_⟩
  · obtain ⟨-, -, rfl, rows, hadd, -⟩ := run_writeEventAndLedger_adds hwrite
    unfold submittedQty
    rw [hadd.outbound, sumOver_append, sumOver_map, OutboundSubmitIn.qtyFor,
      ← sumOver_normalizeFrom hfrom]
    congr 1
    refine sumOver_congr (fun ln _ => ?_) fun _ _ _ => rfl
    show some ln.docLineId = some id ↔ ln.docLineId = id
    exact Option.some_inj
  · obtain ⟨ln, hln, hid, hqty⟩ := exists_normalizeFrom hfrom l hl
    obtain ⟨hreq, hfit⟩ := run_checkOrderLines_ok hcheck ln hln
    unfold orderSubmitProgress at hreq hfit
    cases hlookup : db.orderLines.lookup ln.docLineId with
    | none =>
        rw [hlookup] at hreq
        exact absurd hreq (lt_irrefl 0)
    | some ol =>
        rw [hlookup] at hreq hfit
        obtain ⟨hmem, hkey⟩ := Table.lookup_eq_some.mp hlookup
        dsimp only at hreq hfit
        split at hreq
        · rename_i horder
          rw [if_pos horder, hqty] at hfit
          exact ⟨ol, hmem, hkey.trans hid, by rw [hkey]; exact hfit⟩
        · exact absurd hreq (lt_irrefl 0)

/-- A submit of a manual document ships for no order. -/
theorem run_submitManual_submittedQty {docId : Int} {c : SubmitCall} {payload : OutboundSubmitIn}
    {out : OutboundSubmitOut} {db db' : Db}
    (h : (submitManualOutboundEvent docId c payload).run db = .ok (out, db')) (id : Int) :
    submittedQty db' id = submittedQty db id := by
  simp only [submitManualOutboundEvent, Prog.run_bind_ok, run_ofExcept_ok, Tx.run_select] at h
  obtain ⟨ctx, db₀, hctx, normalized, _, ⟨-, rfl⟩, saved, db₁, hwrite, rows, _, hread, _, db₂,
    hdone, hret⟩ := h
  cases hread
  cases hret
  obtain rfl := (readOnly_loadManualSubmitContext _).run_db hctx
  have hrest : Within (fun p => ¬ p.InHistory)
      (when (listManualDocProgress db₁ docId ≠ [] ∧ ∀ row ∈ listManualDocProgress db₁ docId,
        row.requestedQty ≤ row.submittedQty) (completeManualDoc docId)) :=
    within_when (within_bind (within_exec rfl Part.other_outside) fun _ => within_require _ _)
  obtain ⟨-, -, rfl, moves, hadd, -⟩ := run_writeEventAndLedger_adds hwrite
  unfold submittedQty
  rw [(hrest.adds hdone).outbound, List.append_nil, hadd.outbound, sumOver_append, sumOver_map]
  refine (congrArg _ (sumOver_eq_zero ?_)).trans (add_zero _)
  rintro ln - ⟨⟩

/-! ## Orders stay within what they request -/

/-- What the commit events ship for a document line, reversed or not. -/
def Db.committed (db : Db) (d : DocLine) : Int := db.shipped (fun e => e.eventKind = .commit) d

/-- A payload of an order names each order line once. -/
def Op.NamesLinesOnce : Op → Prop
  | .orderSubmit _ _ _ payload => (payload.lines.map OutboundSubmitLineIn.docLineId).Nodup
  | _ => True

/-- No order line is shipped beyond its request. -/
def Db.OrdersWithin (db : Db) : Prop :=
  ∀ ol ∈ db.orderLines.rows, db.committed (.order ol.id) ≤ max ol.reqQty 0

section Steps
variable {db db' : Db} {d : DocLine} {op : Op}

theorem Db.Valid.committed_le (hv : db.Valid) : db.committed d ≤ d.submitted db := by
  have hsplit := sumOver_and_add_and_not (p := d.Ships)
    (q := fun l => l.Under db fun e => e.eventKind = .commit) (f := OutboundEventLine.qtyOutbound)
    db.outboundEventLines.rows
  have hrest : 0 ≤ sumOver (fun l => d.Ships l ∧ ¬ l.Under db fun e => e.eventKind = .commit)
      OutboundEventLine.qtyOutbound db.outboundEventLines.rows :=
    sumOver_nonneg fun l hl _ => le_of_lt (hv.outbound l hl).1
  rw [DocLine.submitted_eq, ← hsplit]
  exact le_add_of_nonneg_right hrest

/-- An event with its lines under it. -/
theorem Adds.committed {x : Additions} {e : WmsEvent} (hv : db.Valid) (hadd : Adds db x db')
    (hevents : x.events = [e]) (hnew : ¬ db.wmsEvents.HasKey e.id)
    (hls : ∀ l ∈ x.outbound, l.eventId = e.id) :
    db'.committed d = db.committed d + if e.eventKind = .commit
      then d.submitted db' - d.submitted db else 0 := by
  rw [Db.committed, hadd.shipped hv hevents hnew hls, DocLine.submitted_eq, DocLine.submitted_eq,
    hadd.outbound, sumOver_append, add_sub_cancel_left]
  rfl

/-- A reversal ships nothing under a commit. -/
theorem Reverses.committed {Line : Type} {side : ReversalSide Line} {x : Additions}
    {original e : WmsEvent} {ls : List Line} (hv : db.Valid)
    (hrev : Reverses side db original e ls x db') (his : IsReversalOf side original e)
    (hls : ∀ l ∈ x.outbound, l.eventId = e.id) : db'.committed d = db.committed d := by
  obtain ⟨db₁, hadd, rfl⟩ := hrev.adds
  rw [Db.committed, Db.shipped_supersede,
    Db.shipped_congr (q := fun o => o.eventKind = .commit) fun o _ => by
      rw [WmsEvent.marked_eventKind]]
  refine (hadd.committed hv hrev.events hrev.new hls).trans ?_
  rw [if_neg (by rw [his.kind]; exact EventKind.noConfusion), add_zero]

/-- Only a submit ships, and what it ships is what the progress grows by. -/
theorem Op.committed_step (hv : db.Valid) (hfresh : op.Fresh db)
    (hrun : op.prog.run db = .ok ((), db')) :
    db'.committed d = db.committed d ∨
      op.IsSubmit ∧ db'.committed d = db.committed d + (d.submitted db' - d.submitted db) := by
  cases Op.historyStep hfresh hrun with
  | quiet hadd hrows =>
      left
      exact Db.shipped_of_rows (by rw [hadd.events, List.append_nil])
        (by rw [hadd.outbound, List.append_nil])
  | commits hc hout _ _ =>
      have hsum := hc.adds.committed (d := d) hv hc.events hc.new hc.outbound
      rw [if_pos hc.kind] at hsum
      rcases hout with ⟨hsubmit, -⟩ | hnil
      · exact Or.inr ⟨hsubmit, hsum⟩
      · left
        have hsame : d.submitted db' = d.submitted db := by
          rw [DocLine.submitted_eq, DocLine.submitted_eq, hc.adds.outbound, hnil, List.append_nil]
        rw [hsum, hsame, sub_self, add_zero]
  | outboundReversal his hrev =>
      refine Or.inl (hrev.committed hv his fun l hl => ?_)
      obtain ⟨l', -, rfl⟩ := List.mem_map.mp hl
      rfl
  | inboundReversal his hrev => exact Or.inl (hrev.committed hv his (List.forall_mem_nil _))

/-- A payload that names a line once ships it once. -/
theorem OutboundSubmitIn.qtyFor_of_mem {payload : OutboundSubmitIn}
    (hnd : (payload.lines.map OutboundSubmitLineIn.docLineId).Nodup) {l : OutboundSubmitLineIn}
    (hl : l ∈ payload.lines) : payload.qtyFor l.docLineId = l.qtyOutbound :=
  Table.sumOver_key (t := ⟨payload.lines, hnd⟩) hl

theorem OutboundSubmitIn.qtyFor_eq_zero {payload : OutboundSubmitIn} {id : Int}
    (h : ∀ l ∈ payload.lines, l.docLineId ≠ id) : payload.qtyFor id = 0 :=
  sumOver_eq_zero fun l hl hid => absurd hid (h l hl)

/-- **One operation keeps orders within their request.** -/
theorem Db.OrdersWithin.step (h : db.OrdersWithin) (hv : db.Valid) (hfresh : op.Fresh db)
    (hop : op.NamesLinesOnce) (hrun : op.prog.run db = .ok ((), db')) : db'.OrdersWithin := by
  have hlines : db'.orderLines = db.orderLines :=
    op.within.frame (fun u d _ => u.apply_orderLines d) hrun
  intro ol hol
  rw [hlines] at hol
  rcases Op.committed_step (d := .order ol.id) hv hfresh hrun with heq | ⟨hsubmit, heq⟩
  · rw [heq]
    exact h ol hol
  cases op with
  | orderSubmit orderId warehouseId c payload =>
      obtain ⟨out, hrun⟩ := Tx.run_forget_ok.mp hrun
      obtain ⟨hqty, hfit⟩ := run_submitOrder_progress hrun
      have hgrow : db'.committed (.order ol.id) = db.committed (.order ol.id) +
          payload.qtyFor ol.id := by
        rw [heq]
        show _ + (submittedQty db' ol.id - submittedQty db ol.id) = _
        rw [hqty, add_sub_cancel_left]
      rw [hgrow]
      by_cases hnamed : ∃ l ∈ payload.lines, l.docLineId = ol.id
      · obtain ⟨l, hl, hid⟩ := hnamed
        obtain ⟨ol', hol', hkey, hle⟩ := hfit l hl
        obtain rfl := db.orderLines.eq_of_key hol' hol (hkey.trans hid)
        rw [← hid, OutboundSubmitIn.qtyFor_of_mem hop hl, hid]
        have hcommitted : db.committed (.order ol'.id) ≤ submittedQty db ol'.id := hv.committed_le
        exact le_max_of_le_left (by omega)
      · simp only [not_exists, not_and] at hnamed
        rw [OutboundSubmitIn.qtyFor_eq_zero hnamed, add_zero]
        exact h ol hol
  | manualSubmit docId c payload =>
      obtain ⟨out, hrun⟩ := Tx.run_forget_ok.mp hrun
      have hsame : DocLine.submitted db' (.order ol.id) = DocLine.submitted db (.order ol.id) :=
        run_submitManual_submittedQty hrun ol.id
      rw [heq, hsame, sub_self, add_zero]
      exact h ol hol
  | _ => exact absurd hsubmit id

end Steps

theorem Db.Start.ordersWithin {db : Db} (h : db.Start) : db.OrdersWithin := by
  intro ol _
  rw [Db.committed, Db.shipped, h.outboundEventLines]
  exact le_max_right _ _

/-- **Orders stay within what they request.** As long as every payload names
each order line once, no order line is shipped beyond its request, whatever
else runs: reversals open nothing again. -/
theorem order_within_request {db : Db} (h : ReachableBy (fun _ op => op.NamesLinesOnce) db) :
    db.OrdersWithin :=
  h.invariant (fun _ hs => hs.ordersWithin) fun _ _ _ hreach hfresh hop hI hrun =>
    hI.step hreach.valid hfresh hop hrun

/-- Tea is counted and shipped for its order line. -/
def sampleOrderRun : List Op :=
  [sampleCountTea "C1" 7 seven_ge_zero,
    .orderSubmit 1 1 { traceId := "T1", eventId := 1 }
      { lines := [{ docLineId := 1, itemId := 1, qtyOutbound := 4, lotId := 1
                    docLineId_ge := one_ge_one, itemId_ge := one_ge_one
                    qtyOutbound_gt := four_gt_zero, lotId_ge := one_ge_one }] }]

theorem order_within_request_sample :
    (Op.commits sampleDb sampleOrderRun).OrdersWithin ∧
      (Op.commits sampleDb sampleOrderRun).committed (.order 1) = 4 := by
  refine ⟨order_within_request ?_, by decide +kernel⟩
  refine (Db.Start.reachableBy sampleDb_start).commits ?_
  exact ⟨⟨by decide +kernel, trivial⟩, ⟨by decide +kernel, List.nodup_singleton _⟩, trivial⟩

end WmsDu
