import WmsDu.Procurement.UpdateOrder
import WmsDu.System.Effects

/-!
# Purchases and their completion rows

What the calls that receive, reverse and edit purchases do to the facts of a
purchase line, the event lines that received it, and to its row of
`purchase_order_line_completion`.
-/

namespace WmsDu

open Txn Tx

/-! ## The facts -/

/-- What the committed purchase events received for a purchase line. -/
def receivedFacts (db : Db) (poLineId : Int) : Int :=
  sumOver (fun l : InboundEventLine => l.poLineId = some poLineId ∧ l.InPurchaseFact db)
    InboundEventLine.qtyBase db.inboundEventLines.rows

/-- Every inbound line has its event. -/
def Db.InboundOwned (db : Db) : Prop :=
  ∀ l ∈ db.inboundEventLines.rows, db.wmsEvents.HasKey l.eventId

section Facts
variable {db db' : Db} {x : Additions}

theorem Adds.inPurchaseFact (h : Adds db x db') {l : InboundEventLine}
    (hl : db.wmsEvents.HasKey l.eventId) : l.InPurchaseFact db' ↔ l.InPurchaseFact db := by
  have hsub : ∀ e ∈ db.wmsEvents.rows, e ∈ db'.wmsEvents.rows := fun e he => by
    rw [h.events]; exact List.mem_append_left _ he
  constructor
  · rintro ⟨e, he, hid, hfact⟩
    obtain ⟨e', he', hid'⟩ := hl
    obtain rfl := db'.wmsEvents.eq_of_key he (hsub e' he') (hid.trans hid'.symm)
    exact ⟨e, he', hid, hfact⟩
  · rintro ⟨e, he, hfact⟩
    exact ⟨e, hsub e he, hfact⟩

theorem Adds.inboundOwned (h : Adds db x db') (howned : db.InboundOwned)
    (hx : ∀ l ∈ x.inbound, ∃ e ∈ x.events, e.id = l.eventId) : db'.InboundOwned := by
  intro l hl
  rw [h.inbound] at hl
  rcases List.mem_append.mp hl with hl | hl
  · obtain ⟨e, he, hid⟩ := howned l hl
    exact ⟨e, by rw [h.events]; exact List.mem_append_left _ he, hid⟩
  · obtain ⟨e, he, hid⟩ := hx l hl
    exact ⟨e, by rw [h.events]; exact List.mem_append_right _ he, hid⟩

/-- The facts grow by the added lines of received purchases. -/
theorem Adds.facts_eq (h : Adds db x db') (howned : db.InboundOwned) (p : Int) :
    receivedFacts db' p = receivedFacts db p +
      sumOver (fun l : InboundEventLine => l.poLineId = some p ∧ l.InPurchaseFact db')
        InboundEventLine.qtyBase x.inbound := by
  unfold receivedFacts
  rw [h.inbound, sumOver_append]
  congr 1
  exact sumOver_congr (fun l hl => by rw [h.inPurchaseFact (howned l hl)]) fun _ _ _ => rfl

/-- Added lines that name no purchase line are no facts. -/
theorem Adds.facts_unlinked (h : Adds db x db') (howned : db.InboundOwned)
    (hx : ∀ l ∈ x.inbound, l.poLineId ≠ none → ¬ l.InPurchaseFact db') (p : Int) :
    receivedFacts db' p = receivedFacts db p := by
  rw [h.facts_eq howned, sumOver_eq_zero, add_zero]
  rintro l hl ⟨hp, hfact⟩
  exact absurd hfact (hx l hl (by rw [hp]; exact Option.some_ne_none p))

theorem hasKey_supersede {eventId k : Int} :
    ((Redo.eventSupersede eventId).apply db).wmsEvents.HasKey k ↔ db.wmsEvents.HasKey k := by
  show (db.wmsEvents.update (fun e => e.id = eventId)
    (fun e => { e with status := .superseded }) fun _ => rfl).HasKey k ↔ _
  exact Table.hasKey_update _

/-- A supersede bears on the lines of its event only. -/
theorem inPurchaseFact_supersede {eventId : Int} {l : InboundEventLine} :
    l.InPurchaseFact ((Redo.eventSupersede eventId).apply db) ↔
      l.InPurchaseFact db ∧ l.eventId ≠ eventId := by
  have hmem : ∀ e, e ∈ ((Redo.eventSupersede eventId).apply db).wmsEvents.rows ↔
      ∃ e₀ ∈ db.wmsEvents.rows, e = if e₀.id = eventId then { e₀ with status := .superseded }
        else e₀ := fun e => by
    show e ∈ (db.wmsEvents.update (fun e => e.id = eventId)
      (fun e => { e with status := .superseded }) fun _ => rfl).rows ↔ _
    exact Table.mem_update _
  constructor
  · rintro ⟨e, he, hid, hfact⟩
    obtain ⟨e₀, he₀, rfl⟩ := (hmem e).mp he
    by_cases heq : e₀.id = eventId
    · rw [if_pos heq] at hfact
      exact absurd hfact.2.2.2 nofun
    · rw [if_neg heq] at hid hfact
      exact ⟨⟨e₀, he₀, hid, hfact⟩, hid ▸ heq⟩
  · rintro ⟨⟨e, he, hid, hfact⟩, hne⟩
    exact ⟨e, (hmem e).mpr ⟨e, he, by rw [if_neg (hid ▸ hne)]⟩, hid, hfact⟩

/-- A supersede takes nothing from the facts when its event's lines are none. -/
theorem receivedFacts_supersede {eventId : Int}
    (hx : ∀ l ∈ db.inboundEventLines.rows, l.eventId = eventId → l.poLineId ≠ none →
      ¬ l.InPurchaseFact db) (p : Int) :
    receivedFacts ((Redo.eventSupersede eventId).apply db) p = receivedFacts db p := by
  refine sumOver_congr (fun l hl => and_congr_right fun hp => ?_) fun _ _ _ => rfl
  rw [inPurchaseFact_supersede]
  refine and_iff_left_of_imp fun hfact heq => ?_
  have hlinked : l.poLineId ≠ none := by rw [hp]; exact Option.some_ne_none p
  exact hx l hl heq hlinked hfact

end Facts

/-! ## The calls -/

/-- A call that receives, reverses or edits purchases. -/
inductive PurchaseOp
  | commit (payload : InboundCommitIn) (userId : Option Int) (c : InboundDraws)
  | operation (payload : InboundOperationSubmitIn) (operator : Operator) (c : OperationDraws)
  | reversal (eventId : Int) (payload : ReversalIn) (userId : Option Int) (c : EventDraws)
  | update (poId : Int) (payload : PurchaseOrderUpdateIn) (newLineId : Int → Int)

/-- The service a call runs. -/
def PurchaseOp.call : PurchaseOp → PurchaseDb → Except Err PurchaseDb
  | .commit payload userId c => PurchaseDb.wmsCall (commitInbound payload userId c)
  | .operation payload operator c =>
      PurchaseDb.wmsCall (submitInboundOperationRepo payload operator c)
  | .reversal eventId payload userId c =>
      PurchaseDb.wmsCall (reverseInboundEvent eventId payload userId c)
  | .update poId payload newLineId => PurchaseDb.updatePoV2 poId payload newLineId

/-- A drawn event number is new to the ledger. -/
def PurchaseOp.Fresh (db : PurchaseDb) : PurchaseOp → Prop
  | .commit _ _ c => db.wms.NoRef c.eventNo
  | .operation _ _ c => db.wms.NoRef c.eventNo
  | .reversal _ _ _ c => db.wms.NoRef c.eventNo
  | .update _ _ _ => True

instance (db : PurchaseDb) : (op : PurchaseOp) → Decidable (op.Fresh db)
  | .commit _ _ c => inferInstanceAs (Decidable (db.wms.NoRef c.eventNo))
  | .operation _ _ c => inferInstanceAs (Decidable (db.wms.NoRef c.eventNo))
  | .reversal _ _ _ c => inferInstanceAs (Decidable (db.wms.NoRef c.eventNo))
  | .update _ _ _ => inferInstanceAs (Decidable True)

/-! ## What a completion row should be -/

/-- The row says what `received` determines. -/
structure PoLineCompletion.Shows (c : PoLineCompletion) (received : Int) : Prop where
  qtyReceived : c.qtyReceivedBase = received
  qtyRemaining : c.qtyRemainingBase = max (c.qtyOrderedBase - received) 0
  status : c.lineCompletionStatus = PurchaseDb.completionStatus received c.qtyOrderedBase

instance (c : PoLineCompletion) (received : Int) : Decidable (c.Shows received) :=
  decidable_of_iff (_ ∧ _ ∧ _)
    ⟨fun h => ⟨h.1, h.2.1, h.2.2⟩, fun h => ⟨h.qtyReceived, h.qtyRemaining, h.status⟩⟩

/-- A row after a delta says what the larger quantity determines. -/
theorem PoLineCompletion.Shows.add {c : PoLineCompletion} {received : Int} (h : c.Shows received)
    (n : Int) (t : Timestamp) : (c.add n t).Shows (received + n) where
  qtyReceived := by rw [← h.qtyReceived]; rfl
  qtyRemaining := by rw [← h.qtyReceived]; rfl
  status := by rw [← h.qtyReceived]; rfl

/-- The row is the row of the line. -/
structure PoLineCompletion.Of (c : PoLineCompletion) (pol : PurchaseOrderLine) : Prop where
  line : c.poLineId = pol.id
  order : c.poId = pol.poId
  ordered : c.qtyOrderedBase = pol.qtyOrderedBase

instance (c : PoLineCompletion) (pol : PurchaseOrderLine) : Decidable (c.Of pol) :=
  decidable_of_iff (_ ∧ _ ∧ _) ⟨fun h => ⟨h.1, h.2.1, h.2.2⟩, fun h => ⟨h.line, h.order, h.ordered⟩⟩

/-- The completion rows answer to the facts. -/
structure PurchaseDb.CompletionOk (db : PurchaseDb) : Prop where
  linked : db.LinesLinked
  owned : db.wms.InboundOwned
  rows : ∀ pol ∈ db.purchaseOrderLines.rows, ∃ c ∈ db.wms.poLineCompletion.rows, c.Of pol
  shown : ∀ c ∈ db.wms.poLineCompletion.rows, c.Shows (receivedFacts db.wms c.poLineId)

namespace PurchaseDb.CompletionOk
variable {db db' : PurchaseDb}

/-- A warehouse call that leaves the facts and the rows alone keeps them right. -/
theorem wms (h : db.CompletionOk) (hdb : db' = { db with wms := db'.wms })
    (hlinked : db'.LinesLinked) (howned : db'.wms.InboundOwned)
    (hrows : db'.wms.poLineCompletion = db.wms.poLineCompletion)
    (hfacts : ∀ p, receivedFacts db'.wms p = receivedFacts db.wms p) : db'.CompletionOk where
  linked := hlinked
  owned := howned
  rows := by
    rw [hrows, hdb]
    exact h.rows
  shown := by
    rw [hrows]
    intro c hc
    rw [hfacts]
    exact h.shown c hc

end PurchaseDb.CompletionOk

/-! ## The condition -/

/-- The call changes facts behind the back of the completion rows: an
operation on a task line that stands for a purchase line, or a reversal of a
purchase event that received one. -/
def PurchaseOp.Bypasses (db : PurchaseDb) : PurchaseOp → Prop
  | .operation payload _ _ => ∃ r ∈ db.wms.inboundReceipts.rows, r.receiptNo = payload.receiptNo ∧
      r.sourceType = .purchaseOrder ∧ ∃ tl ∈ db.wms.inboundReceiptLines.rows,
        tl.inboundReceiptId = r.id ∧ tl.sourceLineId ≠ none ∧
          ∃ line ∈ payload.lines, line.receiptLineNo = tl.lineNo
  | .reversal eventId _ _ _ => ∃ l ∈ db.wms.inboundEventLines.rows,
      l.eventId = eventId ∧ l.poLineId ≠ none ∧ l.InPurchaseFact db.wms
  | .commit _ _ _ | .update _ _ _ => False

instance (db : PurchaseDb) : (op : PurchaseOp) → Decidable (op.Bypasses db)
  | .operation payload _ _ => inferInstanceAs (Decidable (∃ r ∈ db.wms.inboundReceipts.rows,
      r.receiptNo = payload.receiptNo ∧ r.sourceType = .purchaseOrder ∧
        ∃ tl ∈ db.wms.inboundReceiptLines.rows, tl.inboundReceiptId = r.id ∧
          tl.sourceLineId ≠ none ∧ ∃ line ∈ payload.lines, line.receiptLineNo = tl.lineNo))
  | .reversal eventId _ _ _ => inferInstanceAs (Decidable (∃ l ∈ db.wms.inboundEventLines.rows,
      l.eventId = eventId ∧ l.poLineId ≠ none ∧ l.InPurchaseFact db.wms))
  | .commit _ _ _ => inferInstanceAs (Decidable False)
  | .update _ _ _ => inferInstanceAs (Decidable False)

/-! ## The delta of a commit -/

/-- A line of the event names the purchase line. -/
def EventNames (lines : List InboundEventLine) (eventId poLineId : Int) : Prop :=
  ∃ l ∈ lines, l.eventId = eventId ∧ l.poLineId = some poLineId

instance (lines : List InboundEventLine) (eventId poLineId : Int) :
    Decidable (EventNames lines eventId poLineId) :=
  inferInstanceAs (Decidable (∃ l ∈ lines, _))

/-- What the event's lines received for the purchase line. -/
def eventQty (lines : List InboundEventLine) (eventId poLineId : Int) : Int :=
  sumOver (fun l : InboundEventLine => l.eventId = eventId ∧ l.poLineId = some poLineId)
    InboundEventLine.qtyBase lines

theorem run_applyCompletionDelta_ok {db db' : Db} {eventId : Int} {t : Timestamp} {u : Unit}
    (h : (Prog.exec (.applyCompletionDelta eventId t) : Tx Unit).run db = .ok (u, db')) :
    db'.inboundEventLines = db.inboundEventLines ∧ ∀ s, s ∈ db'.poLineCompletion.rows ↔
      ∃ c ∈ db.poLineCompletion.rows, s =
        if EventNames db.inboundEventLines.rows eventId c.poLineId
        then c.add (eventQty db.inboundEventLines.rows eventId c.poLineId) t else c := by
  obtain ⟨us, hexec, rfl⟩ := Prog.run_exec_ok.mp h
  have hreplay : ∀ (cs : List PoLineCompletion) (w : Db),
      (replay Sql (cs.map .completionPut) w).poLineCompletion =
          cs.foldl Table.put w.poLineCompletion ∧
        (replay Sql (cs.map .completionPut) w).inboundEventLines = w.inboundEventLines := by
    intro cs
    induction cs with
    | nil => intro w; exact ⟨rfl, rfl⟩
    | cons c cs ih => intro w; exact ih _
  have hus : us = (db.poLineCompletion.rows.filterMap fun c =>
      if EventNames db.inboundEventLines.rows eventId c.poLineId
        then some (c.add (eventQty db.inboundEventLines.rows eventId c.poLineId) t)
        else none).map .completionPut := by
    cases hexec
    rw [List.map_filterMap]
    refine List.filterMap_congr fun c _ => ?_
    by_cases hn : EventNames db.inboundEventLines.rows eventId c.poLineId
    · rw [if_pos hn]
      exact if_pos hn
    · rw [if_neg hn]
      exact if_neg hn
  rw [hus]
  refine ⟨(hreplay _ db).2, fun s => ?_⟩
  rw [(hreplay _ db).1]
  exact Table.mem_foldl_put_filterMap (t := db.poLineCompletion)
    (p := fun c : PoLineCompletion => EventNames db.inboundEventLines.rows eventId c.poLineId)
    (f := fun c => c.add (eventQty db.inboundEventLines.rows eventId c.poLineId) t) fun _ => rfl

theorem run_commitInbound_completions {db db' : Db} {payload : InboundCommitIn}
    {userId : Option Int} {c : InboundDraws} {out : InboundCommitOut}
    (h : (commitInbound payload userId c).run db = .ok (out, db')) :
    if payload.sourceType = .purchaseOrder then
      ∀ s, s ∈ db'.poLineCompletion.rows ↔ ∃ r ∈ db.poLineCompletion.rows,
        s = if EventNames db'.inboundEventLines.rows c.eventId r.poLineId
          then r.add (eventQty db'.inboundEventLines.rows c.eventId r.poLineId) payload.occurredAt
          else r
    else db'.poLineCompletion = db.poLineCompletion := by
  simp only [commitInbound, Prog.run_bind_ok, run_ofExcept_ok] at h
  obtain ⟨_, _, ⟨-, rfl⟩, lines, db₁, hlines, _, db₂, hevent, _, db₃, hcommit, _, db₄, hdelta,
    hret⟩ := h
  cases hret
  have hframe : ∀ {α : Type} {x : Tx α} {a : α} {w w' : Db}, x.Within (· ≠ .completions) →
      x.run w = .ok (a, w') → w'.poLineCompletion = w.poLineCompletion := fun hx hrun =>
    hx.frame (f := Db.poLineCompletion) (fun u w hu => by
      cases u <;> first | rfl | exact absurd rfl hu) hrun
  have hbefore : db₃.poLineCompletion = db.poLineCompletion := by
    rw [hframe (within_commitLines (by rintro ⟨⟩) (by rintro ⟨⟩) _ _) hcommit,
      hframe (within_exec (p := .events) rfl (by rintro ⟨⟩)) hevent,
      hframe (within_resolveLines (by rintro ⟨⟩) _ _ _ _ _) hlines]
  split
  · rename_i hpurchase
    rw [run_when_of hpurchase] at hdelta
    obtain ⟨hin, hrows⟩ := run_applyCompletionDelta_ok hdelta
    rw [hbefore] at hrows
    rw [hin]
    exact hrows
  · rename_i hnot
    rw [run_when_of_not hnot] at hdelta
    cases hdelta
    exact hbefore

/-! ## The steps -/

namespace PurchaseDb.CompletionOk
variable {db db' : PurchaseDb}

theorem operation (h : db.CompletionOk) {payload : InboundOperationSubmitIn}
    {operator : Operator} {c : OperationDraws}
    (hop : ¬ (PurchaseOp.operation payload operator c).Bypasses db)
    (hcall : (PurchaseOp.operation payload operator c).call db = .ok db') : db'.CompletionOk := by
  obtain ⟨out, hrun, hlinked, hdb⟩ := wmsCall_ok hcall
  obtain ⟨task, x, htask, hno, hcommits, -, hlines⟩ := run_submitInboundOperation_commits hrun
  have hadd := hcommits.adds
  refine h.wms hdb hlinked (hadd.inboundOwned h.owned ?_) ?_ (hadd.facts_unlinked h.owned ?_)
  · intro l hl
    rw [hcommits.events]
    exact ⟨_, List.mem_singleton.mpr rfl, (hcommits.inbound l hl).symm⟩
  · have hw := within_submitInboundOperationRepo (T := (· ≠ .completions)) nofun nofun nofun nofun
      (fun _ => nofun) payload operator c
    exact hw.frame (f := Db.poLineCompletion) (fun u w hu => by
      cases u <;> first | rfl | exact absurd rfl hu) hrun
  · intro l hl hp
    obtain ⟨tl, htl, hid, hline, hr⟩ := hlines l hl
    rw [hr] at hp
    split at hp
    · rename_i hsource
      exact absurd ⟨task, htask, hno, hsource, tl, htl, hid, hp, hline⟩ hop
    · exact absurd rfl hp

theorem reversal (h : db.CompletionOk) {eventId : Int} {payload : ReversalIn}
    {userId : Option Int} {c : EventDraws} (hfresh : db.wms.NoRef c.eventNo)
    (hop : ¬ (PurchaseOp.reversal eventId payload userId c).Bypasses db)
    (hcall : (PurchaseOp.reversal eventId payload userId c).call db = .ok db') :
    db'.CompletionOk := by
  obtain ⟨out, hrun, hlinked, hdb⟩ := wmsCall_ok hcall
  obtain ⟨original, ls, rows, rfl, hrev⟩ := run_reverseInboundEvent_reverses hfresh hrun
  obtain ⟨w, hadd, hw⟩ := hrev.adds
  -- the copies stand under an event that is no commit
  have hcopies : ∀ l ∈ ls.map fun l => l.copyFor c.eventId, ¬ l.InPurchaseFact w := by
    intro l hl
    obtain ⟨src, -, rfl⟩ := List.mem_map.mp hl
    rintro ⟨e, he, hid, hfact⟩
    have hmem : reversalEvent inboundSide original payload userId c ∈ w.wmsEvents.rows := by
      rw [hadd.events]
      exact List.mem_append_right _ (List.mem_singleton.mpr rfl)
    rw [w.wmsEvents.eq_of_key he hmem hid] at hfact
    exact absurd hfact.2.2.1 nofun
  have howned : w.InboundOwned := by
    refine hadd.inboundOwned h.owned fun l hl => ?_
    obtain ⟨src, -, rfl⟩ := List.mem_map.mp hl
    exact ⟨_, List.mem_singleton.mpr rfl, rfl⟩
  refine h.wms hdb hlinked ?_ ?_ ?_
  · intro l hl
    rw [hw] at hl ⊢
    exact hasKey_supersede.mpr (howned l hl)
  · have hwithin := within_reverseEvent (T := (· ≠ .completions)) inboundSide .inboundLines
      (fun _ _ => rfl) nofun nofun (fun _ => nofun) original.id payload userId c
    exact hwithin.frame (f := Db.poLineCompletion) (fun u w hu => by
      cases u <;> first | rfl | exact absurd rfl hu) hrun
  · intro p
    rw [hw, receivedFacts_supersede ?_, hadd.facts_unlinked h.owned]
    · exact fun l hl _ => hcopies l hl
    · intro l hl hid hlinked
      rw [hadd.inbound] at hl
      rcases List.mem_append.mp hl with hl | hl
      · rw [hadd.inPurchaseFact (h.owned l hl)]
        exact fun hfact => hop ⟨l, hl, hid, hlinked, hfact⟩
      · exact hcopies l hl

theorem commit (h : db.CompletionOk) {payload : InboundCommitIn} {userId : Option Int}
    {c : InboundDraws} (hfresh : db.wms.NoRef c.eventNo)
    (hcall : (PurchaseOp.commit payload userId c).call db = .ok db') : db'.CompletionOk := by
  obtain ⟨out, hrun, hlinked, hdb⟩ := wmsCall_ok hcall
  obtain ⟨x, hcommits, -⟩ := run_commitInbound_commits hfresh hrun
  have hadd := hcommits.adds
  have howned : db'.wms.InboundOwned := by
    refine hadd.inboundOwned h.owned fun l hl => ?_
    rw [hcommits.events]
    exact ⟨_, List.mem_singleton.mpr rfl, (hcommits.inbound l hl).symm⟩
  have hevent : payload.event c userId ∈ db'.wms.wmsEvents.rows := by
    rw [hadd.events, hcommits.events]
    exact List.mem_append_right _ (List.mem_singleton.mpr rfl)
  -- the added lines are facts exactly when the event is a purchase
  have hfact : ∀ l ∈ x.inbound, l.InPurchaseFact db'.wms ↔ payload.sourceType = .purchaseOrder := by
    intro l hl
    constructor
    · rintro ⟨e, he, hid, hfact⟩
      obtain rfl := db'.wms.wmsEvents.eq_of_key he hevent (hid.trans (hcommits.inbound l hl))
      exact hfact.2.1
    · intro hpurchase
      exact ⟨_, hevent, (hcommits.inbound l hl).symm, rfl, hpurchase, rfl, rfl⟩
  have hdelta := run_commitInbound_completions hrun
  by_cases hpurchase : payload.sourceType = .purchaseOrder
  · rw [if_pos hpurchase] at hdelta
    have hqty : ∀ p, receivedFacts db'.wms p =
        receivedFacts db.wms p + eventQty db'.wms.inboundEventLines.rows c.eventId p := by
      intro p
      rw [hadd.facts_eq h.owned, eventQty, hadd.inbound, sumOver_append,
        sumOver_eq_zero (l := db.wms.inboundEventLines.rows), zero_add]
      · refine congrArg _ (sumOver_congr (fun l hl => ?_) fun _ _ _ => rfl)
        rw [hfact l hl]
        exact ⟨fun hp => ⟨hcommits.inbound l hl, hp.1⟩, fun hp => ⟨hp.2, hpurchase⟩⟩
      · -- the event is new, so no older line is its line
        rintro l hl ⟨hid, -⟩
        have hold : db.wms.wmsEvents.HasKey c.eventId := hid ▸ h.owned l hl
        exact absurd hold hcommits.new
    refine ⟨hlinked, howned, ?_, ?_⟩
    · intro pol hpol
      rw [hdb] at hpol
      obtain ⟨r, hr, hof⟩ := h.rows pol hpol
      refine ⟨_, (hdelta _).mpr ⟨r, hr, rfl⟩, ?_⟩
      split
      · exact ⟨hof.line, hof.order, hof.ordered⟩
      · exact hof
    · intro s hs
      obtain ⟨r, hr, rfl⟩ := (hdelta s).mp hs
      split
      · show PoLineCompletion.Shows _ (receivedFacts db'.wms r.poLineId)
        rw [hqty]
        exact (h.shown r hr).add _ _
      · rename_i hnone
        rw [hqty, eventQty, sumOver_eq_zero fun l hl hp => absurd ⟨l, hl, hp⟩ hnone, add_zero]
        exact h.shown r hr
  · rw [if_neg hpurchase] at hdelta
    refine h.wms hdb hlinked howned hdelta (hadd.facts_unlinked h.owned fun l hl _ => ?_)
    rw [hfact l hl]
    exact hpurchase

end PurchaseDb.CompletionOk

/-! ## New order lines -/

namespace PurchaseDb
variable {db db' : PurchaseDb} {poId : Int} {newLineId : Int → Int}

/-- What the flush of new lines has checked of each of them. -/
structure NewLine (db : PurchaseDb) (poId : Int) (l : PurchaseOrderLine) : Prop where
  order : l.poId = poId
  ordered : 0 < l.qtyOrderedBase
  uom : db.wms.itemUoms.HasKey l.purchaseUomIdSnapshot
  new : ¬ db.purchaseOrderLines.HasKey l.id

theorem insertLine_ok {l : PurchaseOrderLine} (h : db.insertLine l = .ok db') :
    db.NewLine l.poId l ∧
      db' = { db with purchaseOrderLines := db.purchaseOrderLines.insert l } := by
  simp only [insertLine, bind_eq_ok, demand_eq_ok, pure_eq_ok] at h
  obtain ⟨_, hpos, _, hnew, _, -, _, -, _, -, _, huom, rfl⟩ := h
  exact ⟨⟨rfl, hpos, huom, hnew⟩, rfl⟩

theorem insertLines_ok {vs : List PurchaseLineValues}
    (h : db.insertLines poId newLineId vs = .ok db') :
    db' = { db with purchaseOrderLines := db'.purchaseOrderLines } ∧
      (∀ l ∈ db.purchaseOrderLines.rows, l ∈ db'.purchaseOrderLines.rows) ∧
      ∀ l ∈ db'.purchaseOrderLines.rows, l ∈ db.purchaseOrderLines.rows ∨ db.NewLine poId l := by
  induction vs generalizing db with
  | nil =>
      cases h
      exact ⟨rfl, fun _ hl => hl, fun _ hl => .inl hl⟩
  | cons v vs ih =>
      simp only [insertLines, bind_eq_ok] at h
      obtain ⟨db₁, hline, hrest⟩ := h
      obtain ⟨hnew, rfl⟩ := insertLine_ok hline
      obtain ⟨hdb, hkeep, hback⟩ := ih hrest
      refine ⟨hdb, fun l hl => hkeep l (Table.mem_insert_of_mem hl), fun l hl => ?_⟩
      rcases hback l hl with hold | hl
      · rcases Table.mem_of_mem_insert hold with hold | rfl
        · exact .inl hold
        · exact .inr hnew
      · exact .inr ⟨hl.order, hl.ordered, hl.uom, fun hk => hl.new (Table.hasKey_insert.mpr (.inl hk))⟩

end PurchaseDb

/-! ## Rebuilt rows -/

namespace PurchaseDb
variable {db : PurchaseDb} {poId : Int}

/-- The row an upsert writes is right when the row it replaces was, or when
nothing was received. -/
theorem completionRow_shows {l : PurchaseOrderLine} {received : Int} (hpos : 0 < l.qtyOrderedBase)
    (hold : ∀ c ∈ db.wms.poLineCompletion.rows, c.poLineId = l.id → c.Shows received)
    (hnone : ¬ db.wms.poLineCompletion.HasKey l.id → received = 0) :
    (completionRow l (db.wms.poLineCompletion.lookup l.id)).Shows received := by
  cases hlook : db.wms.poLineCompletion.lookup l.id with
  | none =>
      rw [hnone (Table.lookup_eq_none.mp hlook)]
      have hall : l.qtyOrderedBase = max (l.qtyOrderedBase - 0) 0 := by omega
      exact ⟨rfl, hall, rfl⟩
  | some c =>
      obtain ⟨hc, hid⟩ := Table.lookup_eq_some.mp hlook
      rw [← (hold c hc hid).qtyReceived]
      exact ⟨rfl, rfl, rfl⟩

theorem completionRow_of (db : PurchaseDb) (l : PurchaseOrderLine) :
    (completionRow l (db.wms.poLineCompletion.lookup l.id)).Of l := by
  cases hlook : db.wms.poLineCompletion.lookup l.id with
  | none => exact ⟨rfl, rfl, rfl⟩
  | some c => exact ⟨(Table.lookup_eq_some.mp hlook).2, rfl, rfl⟩

/-- Upserts of lines keep the rows right and change nothing else. -/
theorem foldl_upsertCompletion_shown (ls : List PurchaseOrderLine) (received : Int → Int)
    (hpos : ∀ l ∈ ls, 0 < l.qtyOrderedBase)
    (hzero : ∀ l ∈ ls, ¬ db.wms.poLineCompletion.HasKey l.id → received l.id = 0)
    (hold : ∀ c ∈ db.wms.poLineCompletion.rows, c.Shows (received c.poLineId)) :
    ∀ c ∈ (ls.foldl upsertCompletion db).wms.poLineCompletion.rows,
      c.Shows (received c.poLineId) := by
  induction ls generalizing db with
  | nil => exact hold
  | cons l ls ih =>
      rw [List.foldl_cons]
      have hrow : (db.upsertCompletion l).wms.poLineCompletion = db.wms.poLineCompletion.upsert
          (completionRow l (db.wms.poLineCompletion.lookup l.id)) := rfl
      refine ih (fun m hm => hpos m (List.mem_cons_of_mem l hm)) ?_ ?_
      · intro m hm hno
        refine hzero m (List.mem_cons_of_mem l hm) fun hk => hno ?_
        rw [hrow]
        exact Table.hasKey_upsert.mpr (.inl hk)
      · intro c hc
        rw [hrow, Table.mem_upsert] at hc
        rcases hc with ⟨hc, -⟩ | rfl
        · exact hold c hc
        · rw [(completionRow_of db l).line]
          refine completionRow_shows (hpos l List.mem_cons_self) ?_
            (hzero l List.mem_cons_self)
          intro c hc hid
          exact hid ▸ hold c hc

theorem foldl_upsertCompletion_eq (db : PurchaseDb) (ls : List PurchaseOrderLine) :
    ls.foldl upsertCompletion db = { db with wms := { db.wms with
      poLineCompletion := (ls.foldl upsertCompletion db).wms.poLineCompletion } } := by
  induction ls generalizing db with
  | nil => rfl
  | cons l ls ih =>
      rw [List.foldl_cons, ih]
      rfl

/-- Upserts of other lines leave a row alone. -/
theorem mem_foldl_upsertCompletion {ls : List PurchaseOrderLine} {c : PoLineCompletion}
    (hc : c ∈ db.wms.poLineCompletion.rows) (hls : ∀ l ∈ ls, c.poLineId ≠ l.id) :
    c ∈ (ls.foldl upsertCompletion db).wms.poLineCompletion.rows := by
  induction ls generalizing db with
  | nil => exact hc
  | cons l ls ih =>
      refine ih (Table.mem_upsert.mpr (.inl ⟨hc, ?_⟩)) fun m hm =>
        hls m (List.mem_cons_of_mem l hm)
      rw [(completionRow_of db l).line]
      exact hls l List.mem_cons_self

/-- Each line gets its row. -/
theorem exists_foldl_upsertCompletion {ls : List PurchaseOrderLine} {l : PurchaseOrderLine}
    (hnd : (ls.map PurchaseOrderLine.id).Nodup) (hl : l ∈ ls) :
    ∃ c ∈ (ls.foldl upsertCompletion db).wms.poLineCompletion.rows, c.Of l := by
  induction ls generalizing db with
  | nil => cases hl
  | cons m ls ih =>
      rw [List.map_cons, List.nodup_cons] at hnd
      rcases List.mem_cons.mp hl with rfl | hl
      · have hrow : completionRow l (db.wms.poLineCompletion.lookup l.id) ∈
            (db.upsertCompletion l).wms.poLineCompletion.rows := Table.mem_upsert.mpr (.inr rfl)
        have hothers : ∀ m ∈ ls,
            (completionRow l (db.wms.poLineCompletion.lookup l.id)).poLineId ≠ m.id := by
          intro m hm hid
          rw [(completionRow_of db l).line] at hid
          exact hnd.1 (hid ▸ List.mem_map_of_mem hm)
        have hkept := mem_foldl_upsertCompletion hrow hothers
        exact ⟨_, hkept, completionRow_of db l⟩
      · exact ih hnd.2 hl

end PurchaseDb

/-! ## Updates of orders -/

namespace PurchaseDb
variable {db : PurchaseDb} {poId : Int}

theorem mem_lineIds {p : Int} :
    p ∈ db.lineIds poId ↔ ∃ l ∈ db.purchaseOrderLines.rows, l.poId = poId ∧ l.id = p := by
  simp only [lineIds, List.mem_map, List.mem_filter, decide_eq_true_iff, and_assoc]

theorem mem_deleteLines_inbound {l : InboundEventLine} :
    l ∈ (db.deleteLines poId).wms.inboundEventLines.rows ↔
      ∃ l₀ ∈ db.wms.inboundEventLines.rows, l = if ∃ p ∈ l₀.poLineId, p ∈ db.lineIds poId
        then { l₀ with poLineId := none } else l₀ := by
  show l ∈ (db.wms.inboundEventLines.update (fun l => ∃ p ∈ l.poLineId, p ∈ db.lineIds poId)
    (fun l => { l with poLineId := none }) fun _ => rfl).rows ↔ _
  exact Table.mem_update _

/-- The facts of the lines that stay are kept. -/
theorem receivedFacts_deleteLines {p : Int} (hp : p ∉ db.lineIds poId) :
    receivedFacts (db.deleteLines poId).wms p = receivedFacts db.wms p := by
  show sumOver _ _ (db.wms.inboundEventLines.rows.map _) = _
  rw [sumOver_map]
  unfold receivedFacts
  refine sumOver_congr (fun l _ => ?_) fun l _ _ => ?_
  · dsimp only
    split
    · rename_i hunlink
      obtain ⟨q, hq, hmem⟩ := hunlink
      refine iff_of_false (fun h => nomatch h.1) fun h => hp ?_
      rw [Option.mem_def.mp hq] at h
      exact Option.some.inj h.1 ▸ hmem
    · exact Iff.rfl
  · dsimp only
    split <;> rfl

end PurchaseDb

namespace PurchaseDb.CompletionOk
variable {db : PurchaseDb} {poId : Int}

/-- The lines and rows of other orders stay right. -/
theorem deleteLines (h : db.CompletionOk) : (db.deleteLines poId).CompletionOk where
  linked := by
    intro l hl p hp
    obtain ⟨l₀, hl₀, rfl⟩ := mem_deleteLines_inbound.mp hl
    split at hp
    · exact absurd hp (Option.not_mem_none p)
    · rename_i hstay
      obtain ⟨pol, hpol, rfl⟩ := h.linked l₀ hl₀ p hp
      refine ⟨pol, Table.mem_delete.mpr ⟨hpol, fun hpo => hstay ?_⟩, rfl⟩
      exact ⟨pol.id, hp, mem_lineIds.mpr ⟨pol, hpol, hpo, rfl⟩⟩
  owned := by
    intro l hl
    obtain ⟨l₀, hl₀, rfl⟩ := mem_deleteLines_inbound.mp hl
    have hkey := h.owned l₀ hl₀
    split
    · exact hkey
    · exact hkey
  rows := by
    intro pol hpol
    obtain ⟨hmem, hpo⟩ := Table.mem_delete.mp hpol
    obtain ⟨c, hc, hof⟩ := h.rows pol hmem
    refine ⟨c, Table.mem_delete.mpr ⟨hc, fun hin => hpo ?_⟩, hof⟩
    obtain ⟨other, hother, hpoId, hid⟩ := mem_lineIds.mp hin
    rw [db.purchaseOrderLines.eq_of_key hmem hother (hof.line.symm.trans hid.symm)]
    exact hpoId
  shown := by
    intro c hc
    obtain ⟨hc, hmem⟩ := Table.mem_delete.mp hc
    rw [receivedFacts_deleteLines hmem]
    exact h.shown c hc

/-- No fact names a line that is not there. -/
theorem receivedFacts_absent (h : db.LinesLinked) {p : Int}
    (hp : ¬ db.purchaseOrderLines.HasKey p) : receivedFacts db.wms p = 0 := by
  refine sumOver_eq_zero ?_
  rintro l hl ⟨hline, -⟩
  exact absurd (h l hl p (Option.mem_def.mpr hline)) hp

/-- New lines of an order that has none, with its rows rebuilt. -/
theorem rebuild (h : db.CompletionOk) {newLineId : Int → Int} {vs : List PurchaseLineValues}
    {db₂ : PurchaseDb} (hnone : ∀ l ∈ db.purchaseOrderLines.rows, l.poId ≠ poId)
    (hins : db.insertLines poId newLineId vs = .ok db₂) :
    (db₂.rebuildCompletionRows poId).CompletionOk := by
  obtain ⟨hdb, hkeep, hback⟩ := insertLines_ok hins
  have hwms : db₂.wms = db.wms := by rw [hdb]
  have hnew : ∀ l ∈ db₂.purchaseOrderLines.rows, l.poId = poId → db.NewLine poId l := by
    intro l hl hpo
    rcases hback l hl with hold | hnew
    · exact absurd hpo (hnone l hold)
    · exact hnew
  unfold rebuildCompletionRows upsertCompletionRows
  -- the rows of the order are gone before its lines are upserted
  let db₃ : PurchaseDb := { db₂ with wms := { db₂.wms with
    poLineCompletion := db₂.wms.poLineCompletion.delete fun c => c.poId = poId } }
  let ls := db₃.purchaseOrderLines.rows.filter fun l => l.poId = poId ∧
    db₃.wms.itemUoms.HasKey l.purchaseUomIdSnapshot
  have hls : ∀ l, l ∈ ls ↔ l ∈ db₂.purchaseOrderLines.rows ∧ l.poId = poId ∧
      db₂.wms.itemUoms.HasKey l.purchaseUomIdSnapshot := fun l => by
    rw [List.mem_filter, decide_eq_true_iff]
  have hrest : ∀ c, c ∈ db₃.wms.poLineCompletion.rows ↔
      c ∈ db.wms.poLineCompletion.rows ∧ c.poId ≠ poId := fun c => by
    rw [← hwms]
    exact Table.mem_delete
  show (ls.foldl upsertCompletion db₃).CompletionOk
  have hfold := foldl_upsertCompletion_eq db₃ ls
  have hin : (ls.foldl upsertCompletion db₃).wms.inboundEventLines = db.wms.inboundEventLines := by
    rw [← hwms]
    exact congrArg (·.wms.inboundEventLines) hfold
  have hev : (ls.foldl upsertCompletion db₃).wms.wmsEvents = db.wms.wmsEvents := by
    rw [← hwms]
    exact congrArg (·.wms.wmsEvents) hfold
  have hlines : (ls.foldl upsertCompletion db₃).purchaseOrderLines = db₂.purchaseOrderLines :=
    congrArg (·.purchaseOrderLines) hfold
  have hfacts : ∀ p, receivedFacts (ls.foldl upsertCompletion db₃).wms p =
      receivedFacts db.wms p := by
    intro p
    unfold receivedFacts
    rw [hin]
    refine sumOver_congr (fun l _ => and_congr_right fun _ => ?_) fun _ _ _ => rfl
    show (∃ e ∈ _, _) ↔ _
    rw [hev]
    exact Iff.rfl
  refine ⟨?_, ?_, ?_, ?_⟩
  · intro l hl p hp
    rw [hin] at hl
    obtain ⟨pol, hpol, hid⟩ := h.linked l hl p hp
    exact ⟨pol, by rw [hlines]; exact hkeep pol hpol, hid⟩
  · intro l hl
    rw [hin] at hl
    rw [hev]
    exact h.owned l hl
  · intro pol hpol
    rw [hlines] at hpol
    rcases hback pol hpol with hold | hpolNew
    · obtain ⟨c, hc, hof⟩ := h.rows pol hold
      have hpo := hnone pol hold
      refine ⟨c, mem_foldl_upsertCompletion ((hrest c).mpr ⟨hc, hof.order ▸ hpo⟩) ?_, hof⟩
      intro l hl hid
      obtain ⟨hmem, hlpo, -⟩ := (hls l).mp hl
      exact hpo (db₂.purchaseOrderLines.eq_of_key hpol hmem (hof.line.symm.trans hid) ▸ hlpo)
    · have hmem : pol ∈ ls :=
        (hls pol).mpr ⟨hpol, hpolNew.order, hwms ▸ hpolNew.uom⟩
      exact exists_foldl_upsertCompletion
        ((List.filter_sublist.map _).nodup db₂.purchaseOrderLines.nodup) hmem
  · intro c hc
    rw [hfacts]
    refine foldl_upsertCompletion_shown ls (receivedFacts db.wms)
      (fun l hl => ?_) (fun l hl _ => ?_) (fun c hc => ?_) c hc
    · obtain ⟨hmem, hlpo, -⟩ := (hls l).mp hl
      exact (hnew l hmem hlpo).ordered
    · obtain ⟨hmem, hlpo, -⟩ := (hls l).mp hl
      exact receivedFacts_absent h.linked (hnew l hmem hlpo).new
    · exact h.shown c ((hrest c).mp hc).1

theorem update (h : db.CompletionOk) {db' : PurchaseDb} {payload : PurchaseOrderUpdateIn}
    {newLineId : Int → Int}
    (hcall : (PurchaseOp.update poId payload newLineId).call db = .ok db') : db'.CompletionOk := by
  simp only [PurchaseOp.call, updatePoV2, bind_eq_ok, pure_eq_ok] at hcall
  obtain ⟨po, -, _, -, _, -, ⟨supplierId, supplierName⟩, -, vs, -, db₂, hreplace, rfl⟩ := hcall
  -- the head of the order bears on no line and no row
  have hhead : ∀ orders, ({ db with purchaseOrders := orders } : PurchaseDb).CompletionOk :=
    fun _ => ⟨h.linked, h.owned, h.rows, h.shown⟩
  exact (hhead _).deleteLines.rebuild (fun l hl => (Table.mem_delete.mp hl).2) hreplace

/-- What a call does not behind the rows' back keeps them right. -/
theorem call (h : db.CompletionOk) {db' : PurchaseDb} {op : PurchaseOp} (hfresh : op.Fresh db)
    (hop : ¬ op.Bypasses db) (hcall : op.call db = .ok db') : db'.CompletionOk := by
  cases op with
  | commit payload userId c => exact h.commit hfresh hcall
  | operation payload operator c => exact h.operation hop hcall
  | reversal eventId payload userId c => exact h.reversal hfresh hop hcall
  | update poId payload newLineId => exact h.update hcall

end PurchaseDb.CompletionOk

end WmsDu
