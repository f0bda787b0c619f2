import WmsDu.Stock.Adds
import WmsDu.System.Writes

/-!
# What the services add

The additions of each service, in the order of its program: events, event
lines and ledger rows, and how the rows answer to the lines.
-/

namespace WmsDu

open Txn Tx

variable {db db' : Db}

/-! ## Programs that add ledger rows only -/

/-- The program adds nothing but ledger rows, which all satisfy `P`. -/
def Tx.AddsRows {α : Type} (P : StockLedgerRow → Prop) (x : Tx α) : Prop :=
  ∀ (db db' : Db) (a : α), x.run db = .ok (a, db') →
    ∃ rows, Adds db { ledger := rows } db' ∧ ∀ row ∈ rows, P row

section AddsRows
variable {α β : Type} {P : StockLedgerRow → Prop}

theorem addsRows_within {x : Tx α} (hx : Within (fun p => ¬ p.InHistory) x) : AddsRows P x :=
  fun _ _ _ h => ⟨[], hx.adds h, List.forall_mem_nil _⟩

theorem addsRows_bind {x : Tx α} {f : α → Tx β} (hx : AddsRows P x)
    (hf : ∀ a, AddsRows P (f a)) : AddsRows P (x >>= f) := by
  intro db db' b h
  obtain ⟨a, db₁, hxa, hfa⟩ := Prog.run_bind_ok.mp h
  obtain ⟨rows, hadd, hrows⟩ := hx _ _ _ hxa
  obtain ⟨rows', hadd', hrows'⟩ := hf a _ _ _ hfa
  refine ⟨rows ++ rows', hadd.trans hadd', ?_⟩
  intro row hrow
  rcases List.mem_append.mp hrow with hrow | hrow
  · exact hrows row hrow
  · exact hrows' row hrow

theorem addsRows_ite {c : Prop} [Decidable c] {x y : Tx α} (hx : AddsRows P x)
    (hy : AddsRows P y) : AddsRows P (if c then x else y) := by
  split
  · exact hx
  · exact hy

theorem addsRows_when {c : Prop} [Decidable c] {x : Tx Unit} (hx : AddsRows P x) :
    AddsRows P (when c x) := addsRows_ite hx (addsRows_within (within_pure _))

theorem addsRows_readOnly {x : Tx α} (hx : x.ReadOnly) : AddsRows P x :=
  addsRows_within hx.within

/-- The lot writer adds one row at most, with the event its meta names. -/
theorem addsRows_adjustLotImpl {a : AdjustLotArgs} {e : Option Int}
    (hev : metaInt a.metaDict "event_id" = .ok e) (hP : ∀ row, row.eventId = e →
      row.key.slot.warehouseId = a.warehouseId → row.delta = a.delta → P row) :
    AddsRows P (adjustLotImpl a) := by
  intro db db' r h
  rcases run_adjustLotImpl_ok h with ⟨-, rfl, -⟩ | ⟨lotId, sub, ev', pd, ed, -, -, hev', hpost, -⟩
  · exact ⟨[], .refl _, List.forall_mem_nil _⟩
  · rw [hev] at hev'
    cases hev'
    refine ⟨[_], .of_posts hpost, ?_⟩
    intro row hrow
    rw [List.mem_singleton] at hrow
    subst hrow
    exact hP _ rfl rfl rfl

end AddsRows

/-! ## Services that write no event -/

/-- A row no event stands behind. -/
def StockLedgerRow.Unlinked (row : StockLedgerRow) : Prop := row.eventId = none

theorem addsRows_countSubmit (req : CountRequest) (newLotId : Int) (now : Timestamp) :
    AddsRows StockLedgerRow.Unlinked (countSubmit req newLotId now) := by
  refine addsRows_bind (addsRows_readOnly (readOnly_ensureWarehouseNotFrozen _)) fun _ => ?_
  refine addsRows_bind (addsRows_readOnly (readOnly_select _)) fun _ => ?_
  refine addsRows_bind (addsRows_readOnly (readOnly_requireSome _ _)) fun _ => ?_
  refine addsRows_bind (addsRows_readOnly (readOnly_ofExcept _)) fun _ => ?_
  refine addsRows_bind (addsRows_readOnly (readOnly_require _ _)) fun _ => ?_
  refine addsRows_bind (addsRows_within (within_resolveLotForStockAdjust Part.lots_outside
    _ _ _ _ _ _)) fun r => ?_
  refine addsRows_bind (addsRows_readOnly (readOnly_select _)) fun current => ?_
  refine addsRows_bind (addsRows_adjustLotImpl (e := none) ?_ fun row h _ _ => h) fun _ =>
    addsRows_readOnly (readOnly_pure _)
  simp only [CountRequest.adjustArgs]
  split <;> rfl

theorem addsRows_stockRecount (req : StockRecountRequest) (c : RecountDraws) :
    AddsRows StockLedgerRow.Unlinked (stockRecount req c) := by
  refine addsRows_bind (addsRows_readOnly (readOnly_ensureWarehouseNotFrozen _)) fun _ => ?_
  refine addsRows_bind (addsRows_readOnly (readOnly_select _)) fun _ => ?_
  refine addsRows_bind (addsRows_when ?_) fun _ => ?_
  · refine addsRows_bind (addsRows_within (within_resolveLotForStockAdjust Part.lots_outside
      _ _ _ _ _ _)) fun r => ?_
    exact addsRows_bind (addsRows_adjustLotImpl (e := none) rfl fun row h _ _ => h) fun _ =>
      addsRows_readOnly (readOnly_pure _)
  exact addsRows_bind (addsRows_within (within_exec rfl Part.other_outside)) fun _ =>
    addsRows_readOnly (readOnly_pure _)

theorem addsRows_commitReturnLines (task : ReturnTask) (c : ReturnCommitCall)
    (lines : List ReturnTaskLine) :
    AddsRows StockLedgerRow.Unlinked (commitReturnLines task c lines) := by
  induction lines with
  | nil => exact addsRows_readOnly (readOnly_pure _)
  | cons ln rest ih =>
      refine addsRows_ite ih ?_
      refine addsRows_bind ?_ fun _ => addsRows_bind ih fun _ => addsRows_readOnly (readOnly_pure _)
      refine addsRows_bind (addsRows_readOnly (readOnly_require _ _)) fun _ => ?_
      refine addsRows_bind (addsRows_readOnly (readOnly_select _)) fun _ => ?_
      refine addsRows_bind (addsRows_readOnly (readOnly_requireSome _ _)) fun _ => ?_
      refine addsRows_bind (addsRows_readOnly (readOnly_require _ _)) fun _ => ?_
      refine addsRows_bind (addsRows_readOnly (readOnly_require _ _)) fun _ => ?_
      refine addsRows_bind (addsRows_readOnly (readOnly_require _ _)) fun _ => ?_
      refine addsRows_bind (addsRows_adjustLotImpl (e := none) rfl fun row h _ _ => h) fun _ => ?_
      exact addsRows_bind (addsRows_within (within_exec rfl Part.returns_outside)) fun _ =>
        addsRows_readOnly (readOnly_pure _)

theorem addsRows_commitReturnTask (taskId : Int) (c : ReturnCommitCall) :
    AddsRows StockLedgerRow.Unlinked (commitReturnTask taskId c) := by
  refine addsRows_bind (addsRows_readOnly (readOnly_getWithLines _ _)) fun t => ?_
  refine addsRows_ite (addsRows_readOnly (readOnly_pure _)) ?_
  refine addsRows_bind (addsRows_commitReturnLines _ _ _) fun _ => ?_
  refine addsRows_bind (addsRows_within (within_exec rfl Part.returns_outside)) fun _ => ?_
  exact addsRows_bind (addsRows_within (within_when (within_enforceThreeBooks Part.other_outside
    _ _ _ _))) fun _ => addsRows_readOnly (readOnly_getWithLines _ _)

theorem readOnly_raiseShortage {α : Type} (w i required : Int) :
    ReadOnly (raiseShortage w i required : Tx α) :=
  readOnly_bind (readOnly_select _) fun _ => readOnly_raise _

theorem addsRows_shipItems (c : ShipCall) (policy : Int → Option ExpiryPolicy)
    (needs : List (Int × Int)) (effects : List ShipEffect) :
    AddsRows StockLedgerRow.Unlinked (shipItems c policy needs effects) := by
  induction needs generalizing effects with
  | nil => exact addsRows_readOnly (readOnly_pure _)
  | cons n rest ih =>
      refine addsRows_bind (addsRows_readOnly (readOnly_require _ _)) fun _ => ?_
      refine addsRows_bind (addsRows_readOnly (readOnly_select _)) fun _ => ?_
      refine addsRows_ite (ih _) (addsRows_bind ?_ fun _ => ih _)
      refine addsRows_bind (addsRows_readOnly (Prog.every_exec trivial)) fun row => ?_
      cases row with
      | none => exact addsRows_readOnly (readOnly_raiseShortage _ _ _)
      | some r =>
          have hshort : ∀ (p : Prop) [Decidable p] (q : Int), AddsRows StockLedgerRow.Unlinked
              (when p (raiseShortage c.warehouseId n.1 q)) := fun p _ q =>
            addsRows_when (addsRows_readOnly (readOnly_raiseShortage _ _ _))
          refine addsRows_bind (hshort _ _) fun _ => ?_
          refine addsRows_bind (addsRows_adjustLotImpl (e := none) rfl fun row h _ _ => h)
            fun _ => ?_
          exact addsRows_bind (hshort _ _) fun _ => addsRows_readOnly (readOnly_pure _)

theorem addsRows_shipCommitDirect (c : ShipCall) (lines : List ShipLine) :
    AddsRows StockLedgerRow.Unlinked (shipCommitDirect c lines) := by
  refine addsRows_ite (addsRows_readOnly (readOnly_pure _)) ?_
  refine addsRows_bind (addsRows_readOnly (readOnly_select _)) fun _ => ?_
  refine addsRows_bind (addsRows_readOnly (readOnly_require _ _)) fun _ => ?_
  refine addsRows_bind (addsRows_shipItems _ _ _ _) fun _ => ?_
  refine addsRows_bind (addsRows_when ?_) fun _ => addsRows_readOnly (readOnly_pure _)
  exact addsRows_readOnly (readOnly_bind (readOnly_select _) fun _ => readOnly_require _ _)

/-! ## How ledger rows answer to lines -/

/-- The slot a line of the event moved; a line without a lot moved none. -/
def ReversalSide.slotOf {Line : Type} (side : ReversalSide Line) (e : WmsEvent) (l : Line) :
    Option Slot := (side.lotId l).map fun lotId => ⟨e.warehouseId, side.itemId l, lotId⟩

/-- The row moves the slot of the line by `d`, under the event `e`. -/
structure ReversalSide.Moves {Line : Type} (side : ReversalSide Line) (e : WmsEvent)
    (d : Line → Int) (l : Line) (row : StockLedgerRow) : Prop where
  slot : side.slotOf e l = some row.slot
  delta : row.delta = d l
  event : row.eventId = some e.id

/-- No ledger row stands under this number and line. -/
def Db.NoRefLine (db : Db) (ref : String) (refLine : Int) : Prop :=
  ∀ row ∈ db.stockLedger.rows, row.key.ref = ref → row.key.refLine ≠ refLine

theorem Db.NoRef.noRefLine {ref : String} (h : db.NoRef ref) (n : Int) : db.NoRefLine ref n :=
  fun row hrow href => absurd href (h row hrow)

/-- An `event_id` that a sequence drew is read back from the meta. -/
theorem metaInt_event {m m' : Meta} {n : Int} (hpos : 0 < n)
    (hm : m.lookup "event_id" = none) :
    metaInt (m ++ ("event_id", .int n) :: m') "event_id" = .ok (some n) := by
  have hget : metaGet (m ++ ("event_id", .int n) :: m') "event_id" = .int n := by
    rw [metaGet, List.lookup_append, hm]
    rfl
  rw [metaInt, hget]
  simp only [if_pos hpos]

/-- **A call under a new number posts.** The row is linked to the event. -/
theorem run_adjustLotImpl_new {a : AdjustLotArgs} {r : AdjustLotResult} {lotId : Int}
    {e : WmsEvent} (hlot : a.lotId = some lotId) (hdelta : a.delta ≠ 0)
    (hev : metaInt a.metaDict "event_id" = .ok (some e.id))
    (hnew : db.NoRefLine a.ref (a.refLine.getD 1)) (h : (adjustLotImpl a).run db = .ok (r, db')) :
    ∃ row, Posts db row db' ∧ row.key = a.key lotId ∧ row.delta = a.delta ∧
      row.eventId = some e.id := by
  rcases run_adjustLotImpl_ok h with ⟨-, -, hzero | ⟨lotId', -, row, hrow, hkey⟩⟩ |
    ⟨lotId', sub, ev, pd, ed, hlot', -, hev', hpost, -⟩
  · exact absurd hzero hdelta
  · exact absurd (by rw [hkey]; rfl) (hnew row hrow (by rw [hkey]; rfl))
  · rw [hlot] at hlot'
    cases hlot'
    rw [hev] at hev'
    cases hev'
    exact ⟨_, hpost, rfl, rfl, rfl⟩

/-- After a row under another line of the number, this line is still new. -/
theorem Posts.noRefLine {row : StockLedgerRow} (h : Posts db row db') {ref : String} {n : Int}
    (hnew : db.NoRefLine ref n) (hrow : row.key.refLine ≠ n) : db'.NoRefLine ref n := by
  intro row' hrow' href
  rcases h.mem_rows.mp hrow' with hold | rfl
  · exact hnew row' hold href
  · exact hrow

theorem Db.NoRefLine.of_ledger {ref : String} {n : Int} (h : db.NoRefLine ref n)
    (hl : db'.stockLedger = db.stockLedger) : db'.NoRefLine ref n := by
  rw [Db.NoRefLine, hl]
  exact h

/-! ## Inbound commit -/

/-- The lines of a commit under a new number: one event line and one row each. -/
theorem run_commitLines_adds {e : WmsEvent} {now : Timestamp} {lines : List ResolvedCommitLine}
    {u : Unit} (hpos : 0 < e.id) (hqty : ∀ l ∈ lines, 0 < l.qtyBase)
    (hnd : (lines.map ResolvedCommitLine.lineNo).Nodup)
    (hnew : ∀ l ∈ lines, db.NoRefLine e.eventNo l.lineNo)
    (h : (commitLines e now lines).run db = .ok (u, db')) :
    ∃ rows, Adds db ⟨[], [], lines.map fun l => l.eventLine e.id, rows⟩ db' ∧
      List.Forall₂ (inboundSide.Moves e InboundEventLine.qtyBase)
        (lines.map fun l => l.eventLine e.id) rows := by
  induction lines generalizing db with
  | nil => cases h; exact ⟨[], .refl _, .nil⟩
  | cons l rest ih =>
      rw [List.map_cons, List.nodup_cons] at hnd
      rw [List.forall_mem_cons] at hqty hnew
      simp only [commitLines, applyInboundStock, Prog.run_bind_ok,
        run_ensureWarehouseNotFrozen_ok] at h
      obtain ⟨_, db₁, hline, r, db₂, ⟨_, _, ⟨-, rfl⟩, hadjust⟩, hrest⟩ := h
      have hledger₁ : db₁.stockLedger = db.stockLedger :=
        (within_exec (T := fun p => p = .inboundLines) rfl rfl).frame
          (fun u d hu => Redo.apply_stockLedger fun w hp => by rw [hu] at hp; cases hp) hline
      obtain ⟨row, hpost, hkey, hdelta, hev⟩ := run_adjustLotImpl_new (e := e)
        (show (l.adjustArgs e now).lotId = some l.lotId from rfl) (ne_of_gt hqty.1)
        (metaInt_event (m := [("sub_reason", .str "ATOMIC_INBOUND")]) hpos rfl)
        (hnew.1.of_ledger hledger₁) hadjust
      have hnew₂ : ∀ l' ∈ rest, db₂.NoRefLine e.eventNo l'.lineNo := by
        intro l' hl'
        refine hpost.noRefLine ((hnew.2 l' hl').of_ledger hledger₁) ?_
        rw [hkey]
        intro hno
        exact hnd.1 (List.mem_map.mpr ⟨l', hl', hno.symm⟩)
      obtain ⟨rows, hadd, hall⟩ := ih hqty.2 hnd.2 hnew₂ hrest
      refine ⟨row :: rows, ?_, .cons ⟨?_, hdelta, hev⟩ hall⟩
      · have htotal := (run_insertInboundLine_adds hline).trans ((Adds.of_posts hpost).trans hadd)
        simpa using htotal
      · rw [StockLedgerRow.slot, hkey]
        rfl

/-- A resolved line carries its number and a positive quantity. -/
theorem run_resolveLine_ok {w lineNo newLotId : Int} {st : SourceType} {line : InboundCommitLineIn}
    {r : ResolvedCommitLine} (h : (resolveLine w lineNo st line newLotId).run db = .ok (r, db')) :
    r.lineNo = lineNo ∧ 0 < r.qtyBase := by
  simp only [resolveLine, Prog.run_bind_ok, Tx.run_require_ok] at h
  obtain ⟨_, _, _, _, _, _, _, _, _, _, _, _, ratio, _, _, _, _, ⟨hqty, _⟩, _, _, _, _, _, _, _, _,
    _, _, _, _, _, _, _, hret⟩ := h
  cases hret
  exact ⟨rfl, hqty⟩

/-- The lines are numbered in order. -/
theorem run_resolveLines_ok {w : Int} {st : SourceType} {newLotId : Int → Int} {n : Int}
    {lines : List InboundCommitLineIn} {rs : List ResolvedCommitLine}
    (h : (resolveLines w st newLotId n lines).run db = .ok (rs, db')) :
    (∀ r ∈ rs, n ≤ r.lineNo ∧ 0 < r.qtyBase) ∧ (rs.map ResolvedCommitLine.lineNo).Nodup := by
  induction lines generalizing db n rs with
  | nil => cases h; exact ⟨List.forall_mem_nil _, List.nodup_nil⟩
  | cons line rest ih =>
      simp only [resolveLines, Prog.run_bind_ok] at h
      obtain ⟨r, db₁, hr, rs', db₂, hrs, hret⟩ := h
      cases hret
      obtain ⟨hno, hqty⟩ := run_resolveLine_ok hr
      obtain ⟨hall, hnd⟩ := ih hrs
      constructor
      · rw [List.forall_mem_cons]
        refine ⟨⟨le_of_eq hno.symm, hqty⟩, fun r' hr' => ?_⟩
        have hle := (hall r' hr').1
        exact ⟨by omega, (hall r' hr').2⟩
      · rw [List.map_cons, List.nodup_cons]
        refine ⟨fun hmem => ?_, hnd⟩
        obtain ⟨r', hr', heq⟩ := List.mem_map.mp hmem
        have hle := (hall r' hr').1
        omega

/-! ## Calls that commit one event -/

/-- The call wrote one event of kind `COMMIT`: every line it added is a line
of the event, and its rows answer to these lines. -/
structure Commits (db : Db) (e : WmsEvent) (x : Additions) (db' : Db) : Prop where
  new : ¬ db.wmsEvents.HasKey e.id
  kind : e.eventKind = .commit
  status : e.status = .committed
  events : x.events = [e]
  outbound : ∀ l ∈ x.outbound, l.eventId = e.id
  inbound : ∀ l ∈ x.inbound, l.eventId = e.id
  ledger : ∀ row ∈ x.ledger, row.eventId = some e.id
  adds : Adds db x db'
  outboundMoves : e.eventType = .outbound →
    List.Forall₂ (outboundSide.Moves e fun l => -l.qtyOutbound) x.outbound x.ledger
  inboundMoves : e.eventType = .inbound →
    List.Forall₂ (inboundSide.Moves e InboundEventLine.qtyBase) x.inbound x.ledger

/-- Rows that answer to lines of an event are linked to it. -/
theorem ReversalSide.linked_of_moves {Line : Type} {side : ReversalSide Line} {e : WmsEvent}
    {d : Line → Int} {ls : List Line} {rows : List StockLedgerRow}
    (h : List.Forall₂ (side.Moves e d) ls rows) : ∀ row ∈ rows, row.eventId = some e.id := by
  induction h with
  | nil => exact List.forall_mem_nil _
  | cons hm _ ih => exact List.forall_mem_cons.mpr ⟨hm.event, ih⟩

/-- Goods come in: one inbound event with its lines. -/
theorem Commits.ofInbound {e : WmsEvent} {ls : List InboundEventLine}
    {rows : List StockLedgerRow} (hnew : ¬ db.wmsEvents.HasKey e.id)
    (hkind : e.eventKind = .commit) (hstatus : e.status = .committed)
    (htype : e.eventType = .inbound) (hls : ∀ l ∈ ls, l.eventId = e.id)
    (hadd : Adds db ⟨[e], [], ls, rows⟩ db')
    (hall : List.Forall₂ (inboundSide.Moves e InboundEventLine.qtyBase) ls rows) :
    Commits db e ⟨[e], [], ls, rows⟩ db' where
  new := hnew
  kind := hkind
  status := hstatus
  events := rfl
  outbound := List.forall_mem_nil _
  inbound := hls
  ledger := ReversalSide.linked_of_moves hall
  adds := hadd
  outboundMoves := fun h => by rw [htype] at h; cases h
  inboundMoves := fun _ => hall

theorem run_commitInbound_commits {payload : InboundCommitIn} {userId : Option Int}
    {c : InboundDraws} {out : InboundCommitOut} (hfresh : db.NoRef c.eventNo)
    (h : (commitInbound payload userId c).run db = .ok (out, db')) :
    ∃ x, Commits db (payload.event c userId) x db' ∧ x.outbound = [] := by
  simp only [commitInbound, Prog.run_bind_ok, run_ofExcept_ok] at h
  obtain ⟨_, _, ⟨-, rfl⟩, lines, db₁, hlines, _, db₂, hevent, _, db₃, hcommit, _, db₄, hdelta,
    hret⟩ := h
  cases hret
  have hl : (resolveLines payload.warehouseId payload.sourceType c.newLotId 1
      payload.lines).Within fun p => ¬ p.InHistory :=
    within_resolveLines Part.lots_outside _ _ _ _ _
  have hadd₁ := hl.adds hlines
  obtain ⟨hall, hnd⟩ := run_resolveLines_ok hlines
  obtain ⟨hpos, hnew, hadd₂⟩ := run_insertEvent_adds hevent
  have hrefs : db₂.NoRef c.eventNo := by
    rw [Db.NoRef, hadd₂.ledger, hadd₁.ledger, List.append_nil, List.append_nil]
    exact hfresh
  obtain ⟨rows, hadd₃, hmoves⟩ := run_commitLines_adds hpos (fun l hl => (hall l hl).2) hnd
    (fun l _ => Db.NoRef.noRefLine hrefs l.lineNo) hcommit
  have hd : (when (payload.sourceType = .purchaseOrder) (Prog.exec (.applyCompletionDelta
      (payload.event c userId).id payload.occurredAt))).Within fun p => ¬ p.InHistory :=
    within_when (within_exec rfl Part.completions_outside)
  have hadd := hadd₁.trans (hadd₂.trans (hadd₃.trans (hd.adds hdelta)))
  have hkey : db₁.wmsEvents.HasKey c.eventId ↔ db.wmsEvents.HasKey c.eventId := by
    rw [Table.HasKey, Table.HasKey, hadd₁.events, List.append_nil]
  refine ⟨_, .ofInbound (fun hk => hnew (hkey.mpr hk)) rfl rfl rfl ?_ (by simpa using hadd) hmoves,
    rfl⟩
  intro l hl
  obtain ⟨r, -, rfl⟩ := List.mem_map.mp hl
  rfl

/-! ## Inbound operations -/

/-- The line answers to a line of a task: it carries the order line of a
purchase. -/
def InboundEventLine.Receives (receipt : InboundReceipt) (tl : InboundReceiptLine)
    (l : InboundEventLine) : Prop :=
  l.poLineId = if receipt.sourceType = .purchaseOrder then tl.sourceLineId else none

/-- An entry adds one event line and one row. -/
theorem run_submitEntry_adds {ctx : OperationContext} {taskLine : OperationTaskLine} {item : Item}
    {entry : InboundOperationEntryIn} {p p' : OperationProgress}
    (h : (submitEntry ctx taskLine item entry p).run db = .ok (p', db')) :
    ∃ l row, Adds db ⟨[], [], [l], [row]⟩ db' ∧ l.eventId = ctx.event.id ∧
      l.Receives ctx.receipt taskLine.line ∧
      inboundSide.Moves ctx.event InboundEventLine.qtyBase l row := by
  simp only [submitEntry, Prog.run_bind_ok, Tx.run_require_ok, run_ofExcept_ok] at h
  obtain ⟨u, db₁, hu, _, _, ⟨-, rfl⟩, _, _, ⟨-, rfl⟩, _, _, ⟨-, rfl⟩, _, _, ⟨-, rfl⟩, lotId, db₂,
    hlot, _, db₃, hop, _, db₄, hline, _, db₅, hstock, hret⟩ := h
  cases hret
  have hpost := run_operationStockStep_ok hstock
  have hwu : (entryUom taskLine.line entry).Within fun p => ¬ p.InHistory := within_entryUom _ _
  have hwl : (resolveInboundLot ctx.receipt.warehouseId item entry.batchNo entry.productionDate
      entry.expiryDate (ctx.draws.newLotId (p.eventLineNo + 1))).Within fun p => ¬ p.InHistory :=
    within_resolveInboundLot Part.lots_outside _ _ _ _ _ _
  have hwo : Within (fun p => ¬ p.InHistory) (Prog.exec (.insertOperationLine
      (operationLine ctx taskLine.line entry u lotId (p.eventLineNo + 1))) : Tx Unit) :=
    within_exec rfl Part.other_outside
  have hadd := (hwu.adds hu).trans ((hwl.adds hlot).trans ((hwo.adds hop).trans
    ((run_insertInboundLine_adds hline).trans (Adds.of_posts hpost))))
  exact ⟨operationEventLine ctx taskLine.line entry u lotId (p.eventLineNo + 1), _,
    by simpa using hadd, rfl, Eq.refl _, rfl, rfl, rfl⟩

/-- The entries add their lines and rows in order. -/
theorem run_submitEntries_adds {ctx : OperationContext} {taskLine : OperationTaskLine}
    {item : Item} {entries : List InboundOperationEntryIn} {p p' : OperationProgress}
    (h : (submitEntries ctx taskLine item entries p).run db = .ok (p', db')) :
    ∃ ls rows, Adds db ⟨[], [], ls, rows⟩ db' ∧
      (∀ l ∈ ls, l.eventId = ctx.event.id ∧ l.Receives ctx.receipt taskLine.line) ∧
      List.Forall₂ (inboundSide.Moves ctx.event InboundEventLine.qtyBase) ls rows := by
  induction entries generalizing db p with
  | nil => cases h; exact ⟨[], [], .refl _, List.forall_mem_nil _, .nil⟩
  | cons entry rest ih =>
      rw [submitEntries, Prog.run_bind_ok] at h
      obtain ⟨p₁, db₁, hentry, hrest⟩ := h
      obtain ⟨l, row, hadd, hl, hlr, hm⟩ := run_submitEntry_adds hentry
      obtain ⟨ls, rows, hadd', hls, hms⟩ := ih hrest
      exact ⟨l :: ls, row :: rows, by simpa using hadd.trans hadd',
        List.forall_mem_cons.mpr ⟨⟨hl, hlr⟩, hls⟩, .cons hm hms⟩

/-- So do the lines of the payload. -/
theorem run_submitOperationLines_adds {ctx : OperationContext}
    {taskLines : List OperationTaskLine} {lines : List InboundOperationLineIn}
    {p p' : OperationProgress}
    (h : (submitOperationLines ctx taskLines lines p).run db = .ok (p', db')) :
    ∃ ls rows, Adds db ⟨[], [], ls, rows⟩ db' ∧
      (∀ l ∈ ls, l.eventId = ctx.event.id ∧ ∃ tl ∈ taskLines,
        (∃ line ∈ lines, line.receiptLineNo = tl.line.lineNo) ∧ l.Receives ctx.receipt tl.line) ∧
      List.Forall₂ (inboundSide.Moves ctx.event InboundEventLine.qtyBase) ls rows := by
  induction lines generalizing db p with
  | nil => cases h; exact ⟨[], [], .refl _, List.forall_mem_nil _, .nil⟩
  | cons line rest ih =>
      simp only [submitOperationLines, Prog.run_bind_ok, Tx.run_requireSome_ok,
        Tx.run_select] at h
      obtain ⟨tl, _, ⟨hfind, rfl⟩, _, _, hread, _, _, ⟨-, rfl⟩, p₁, db₁, hentries, hrest⟩ := h
      cases hread
      have hno : tl.line.lineNo = line.receiptLineNo := by simpa using List.find?_some hfind
      obtain ⟨ls, rows, hadd, hls, hms⟩ := run_submitEntries_adds hentries
      obtain ⟨ls', rows', hadd', hls', hms'⟩ := ih hrest
      refine ⟨ls ++ ls', rows ++ rows', by simpa using hadd.trans hadd', ?_,
        List.rel_append hms hms'⟩
      intro l hl
      rcases List.mem_append.mp hl with hl | hl
      · obtain ⟨heid, hr⟩ := hls l hl
        exact ⟨heid, tl, List.mem_of_find?_eq_some hfind,
          ⟨line, List.mem_cons_self, hno.symm⟩, hr⟩
      · obtain ⟨heid, tl', htl', ⟨line', hline', hno'⟩, hr⟩ := hls' l hl
        exact ⟨heid, tl', htl', ⟨line', List.mem_cons_of_mem _ hline', hno'⟩, hr⟩

/-- A payload has an entry, so an operation adds a line. -/
theorem run_submitOperationLines_adds_some {ctx : OperationContext}
    {taskLines : List OperationTaskLine} {lines : List InboundOperationLineIn}
    {p p' : OperationProgress} (hne : lines ≠ [])
    (h : (submitOperationLines ctx taskLines lines p).run db = .ok (p', db')) :
    db.inboundEventLines.rows.length < db'.inboundEventLines.rows.length := by
  obtain ⟨line, rest, rfl⟩ := List.exists_cons_of_ne_nil hne
  obtain ⟨entry, entries, hentries⟩ := List.exists_cons_of_ne_nil line.entries_ne_nil
  simp only [submitOperationLines, hentries, submitEntries, Prog.run_bind_ok,
    Tx.run_requireSome_ok, Tx.run_select] at h
  obtain ⟨tl, _, ⟨-, rfl⟩, _, _, hread, _, _, ⟨-, rfl⟩, _, db₂, ⟨_, db₁, hentry, hothers⟩, hrest⟩ := h
  cases hread
  obtain ⟨l, row, hadd, -⟩ := run_submitEntry_adds hentry
  obtain ⟨ls, rows, hadd', -⟩ := run_submitEntries_adds hothers
  obtain ⟨ls', rows', hadd'', -⟩ := run_submitOperationLines_adds hrest
  rw [hadd''.inbound, hadd'.inbound, hadd.inbound]
  simp only [List.length_append, List.length_singleton]
  omega

/-- The statements of an operation that succeeded: the task was released, and
the task is completed last or not at all. -/
theorem run_submitInboundOperationRepo_ok {payload : InboundOperationSubmitIn} {op : Operator}
    {c : OperationDraws} {out : InboundOperationSubmitOut}
    (h : (submitInboundOperationRepo payload op c).run db = .ok (out, db')) :
    ∃ task p₀ p₁ db₁ db₂ db₃ done, ∃ _ : Decidable done,
      db.inboundReceipts.rows.find? (fun r => r.receiptNo = payload.receiptNo) = some task ∧
      task.status = .released ∧
      (Prog.exec (.insertOperation (operationHead task op c payload.remark)) : Tx Unit).run db =
        .ok ((), db₁) ∧
      (Prog.exec (.insertEvent (operationEvent task op c payload.remark)) : Tx Unit).run db₁ =
        .ok ((), db₂) ∧
      (submitOperationLines ⟨task, operationEvent task op c payload.remark, c⟩
        (operationTaskLines db task) payload.lines p₀).run db₂ = .ok (p₁, db₃) ∧
      (when done (Prog.exec (.completeReceipt task.id))).run db₃ = .ok ((), db') := by
  simp only [submitInboundOperationRepo, submitReleasedOperation, Prog.run_bind_ok,
    Tx.run_requireSome_ok, Tx.run_require_ok, Tx.run_select,
    run_ensureWarehouseNotFrozen_ok] at h
  obtain ⟨_, _, hread, task, _, ⟨hfind, rfl⟩, _, _, ⟨hstatus, rfl⟩, _, _, ⟨-, rfl⟩, taskLines, _,
    hread', _, db₁, hhead, _, db₂, hevent, p, db₃, hlines, _, db₄, hdone, hret⟩ := h
  cases hread
  cases hread'
  cases hret
  exact ⟨task, _, p, db₁, db₂, db₃, _, _, hfind, hstatus, hhead, hevent, hlines, hdone⟩

/-- What an operation on a task writes. -/
theorem run_submitInboundOperation_writes {payload : InboundOperationSubmitIn} {op : Operator}
    {c : OperationDraws} {task : InboundReceipt} {p₀ p₁ : OperationProgress} {db₁ db₂ db₃ : Db}
    {done : Prop} [Decidable done]
    (hhead : (Prog.exec (.insertOperation (operationHead task op c payload.remark)) : Tx Unit).run
      db = .ok ((), db₁))
    (hevent : (Prog.exec (.insertEvent (operationEvent task op c payload.remark)) : Tx Unit).run
      db₁ = .ok ((), db₂))
    (hlines : (submitOperationLines ⟨task, operationEvent task op c payload.remark, c⟩
      (operationTaskLines db task) payload.lines p₀).run db₂ = .ok (p₁, db₃))
    (hdone : (when done (Prog.exec (.completeReceipt task.id))).run db₃ = .ok ((), db')) :
    ∃ x, Commits db (operationEvent task op c payload.remark) x db' ∧ x.outbound = [] ∧
      x.inbound ≠ [] ∧
      ∀ l ∈ x.inbound, ∃ tl ∈ db.inboundReceiptLines.rows, tl.inboundReceiptId = task.id ∧
        (∃ line ∈ payload.lines, line.receiptLineNo = tl.lineNo) ∧ l.Receives task tl := by
  have hwh : Within (fun p => ¬ p.InHistory)
      (Prog.exec (.insertOperation (operationHead task op c payload.remark)) : Tx Unit) :=
    within_exec rfl Part.other_outside
  have hadd₁ := hwh.adds hhead
  obtain ⟨hpos, hnew, hadd₂⟩ := run_insertEvent_adds hevent
  obtain ⟨ls, rows, hadd₃, hls, hmoves⟩ := run_submitOperationLines_adds hlines
  have hmore := run_submitOperationLines_adds_some payload.lines_ne_nil hlines
  have hadd₄ := Tx.Within.adds (within_when (within_exec rfl Part.other_outside)) hdone
  have hadd := hadd₁.trans (hadd₂.trans (hadd₃.trans hadd₄))
  have hkey : db₁.wmsEvents.HasKey c.eventId ↔ db.wmsEvents.HasKey c.eventId := by
    rw [Table.HasKey, Table.HasKey, hadd₁.events, List.append_nil]
  refine ⟨_, .ofInbound (fun hk => hnew (hkey.mpr hk)) rfl rfl rfl (fun l hl => (hls l hl).1)
      (by simpa using hadd) hmoves, rfl, ?_, ?_⟩
  · rintro rfl
    rw [hadd₃.inbound, List.append_nil] at hmore
    omega
  · intro l hl
    obtain ⟨-, tl, htl, hline, hr⟩ := hls l hl
    obtain ⟨rl, hrl, rfl⟩ := List.mem_map.mp htl
    obtain ⟨hmem, hid⟩ := List.mem_filter.mp ((List.mem_insertionSort _).mp hrl)
    exact ⟨rl, hmem, of_decide_eq_true hid, hline, hr⟩

theorem run_submitInboundOperation_commits {payload : InboundOperationSubmitIn} {op : Operator}
    {c : OperationDraws} {out : InboundOperationSubmitOut}
    (h : (submitInboundOperationRepo payload op c).run db = .ok (out, db')) :
    ∃ task x, task ∈ db.inboundReceipts.rows ∧ task.receiptNo = payload.receiptNo ∧
      Commits db (operationEvent task op c payload.remark) x db' ∧ x.outbound = [] ∧
      ∀ l ∈ x.inbound, ∃ tl ∈ db.inboundReceiptLines.rows, tl.inboundReceiptId = task.id ∧
        (∃ line ∈ payload.lines, line.receiptLineNo = tl.lineNo) ∧ l.Receives task tl := by
  obtain ⟨task, _, _, _, _, _, _, _, hfind, -, hhead, hevent, hlines, hdone⟩ :=
    run_submitInboundOperationRepo_ok h
  have hno : task.receiptNo = payload.receiptNo := by simpa using List.find?_some hfind
  obtain ⟨x, hcommits, hout, -, hreceives⟩ :=
    run_submitInboundOperation_writes hhead hevent hlines hdone
  exact ⟨task, x, List.mem_of_find?_eq_some hfind, hno, hcommits, hout, hreceives⟩

/-! ## Reversals -/

section Reversals
variable {Line : Type} {side : ReversalSide Line}

/-- The loop over the lines copies each of them and moves its slot back. -/
theorem run_reverseLines_adds {original event : WmsEvent} {payload : ReversalIn} {now : Timestamp}
    {ls : List Line} {u : Unit} {fo : Line → List OutboundEventLine}
    {fi : Line → List InboundEventLine} (hpos : 0 < event.id)
    (hw : event.warehouseId = original.warehouseId) (hcancel : ∀ l, 0 < side.qty l → side.cancel l ≠ 0)
    (hcopy : ∀ (db db' : Db) (u : Unit) (l : Line),
      (Prog.exec (side.insertCopy event.id l) : Tx Unit).run db = .ok (u, db') →
        Adds db ⟨[], fo l, fi l, []⟩ db')
    (hnd : (ls.map side.lineNo).Nodup)
    (hnew : ∀ l ∈ ls, db.NoRefLine event.eventNo (side.lineNo l))
    (h : (reverseLines side original event payload now ls).run db = .ok (u, db')) :
    ∃ rows, Adds db ⟨[], ls.flatMap fo, ls.flatMap fi, rows⟩ db' ∧
      List.Forall₂ (side.Moves event side.cancel) ls rows := by
  induction ls generalizing db with
  | nil => cases h; exact ⟨[], .refl _, .nil⟩
  | cons l rest ih =>
      rw [List.map_cons, List.nodup_cons] at hnd
      rw [List.forall_mem_cons] at hnew
      simp only [reverseLines, Prog.run_bind_ok, Tx.run_requireSome_ok, Tx.run_require_ok] at h
      obtain ⟨lotId, _, ⟨hlot, rfl⟩, _, _, ⟨hqty, rfl⟩, _, db₁, hins, r, db₂, hadjust, hrest⟩ := h
      have hadd₁ := hcopy _ _ _ l hins
      have hledger₁ : ∀ n, db.NoRefLine event.eventNo n → db₁.NoRefLine event.eventNo n := by
        intro n hn
        rw [Db.NoRefLine, hadd₁.ledger, List.append_nil]
        exact hn
      obtain ⟨row, hpost, hkey, hdelta, hev⟩ := run_adjustLotImpl_new (e := event)
        (show (cancelArgs side original event payload now l lotId).lotId = some lotId from rfl)
        (hcancel l hqty) (metaInt_event (m := [("sub_reason", .str side.subReason)]) hpos rfl)
        (hledger₁ _ hnew.1) hadjust
      have hnew₂ : ∀ l' ∈ rest, db₂.NoRefLine event.eventNo (side.lineNo l') := by
        intro l' hl'
        refine hpost.noRefLine (hledger₁ _ (hnew.2 l' hl')) ?_
        rw [hkey]
        intro hno
        exact hnd.1 (List.mem_map.mpr ⟨l', hl', hno.symm⟩)
      obtain ⟨rows, hadd, hall⟩ := ih hnd.2 hnew₂ hrest
      refine ⟨row :: rows, ?_, .cons ⟨?_, hdelta, hev⟩ hall⟩
      · have htotal := hadd₁.trans ((Adds.of_posts hpost).trans hadd)
        simpa using htotal
      · rw [ReversalSide.slotOf, hlot, StockLedgerRow.slot, hkey, hw]
        rfl

/-- The call reversed `original` by the event `e`: it copied the lines `ls` of
the original, moved their slots back, and marked the original superseded. -/
structure Reverses (side : ReversalSide Line) (db : Db) (original e : WmsEvent) (ls : List Line)
    (x : Additions) (db' : Db) : Prop where
  new : ¬ db.wmsEvents.HasKey e.id
  found : original ∈ db.wmsEvents.rows
  commit : original.eventType = side.eventType ∧ original.eventKind = .commit ∧
    original.status = .committed
  unreversed : findCommittedReversal db side.eventType original.id = none
  lines : ls.Perm (linesOf side db original.id)
  events : x.events = [e]
  moves : List.Forall₂ (side.Moves e side.cancel) ls x.ledger
  adds : ∃ db₁, Adds db x db₁ ∧ db' = (Redo.eventSupersede original.id).apply db₁

/-- The event a reversal finds. -/
theorem run_getEventForReversal_ok {eventId : Int} {original : WmsEvent}
    (h : (getEventForReversal side eventId).run db = .ok (original, db')) :
    db' = db ∧ original ∈ db.wmsEvents.rows ∧ original.id = eventId ∧
      original.eventType = side.eventType ∧ original.eventKind = .commit ∧
      original.status = .committed := by
  simp only [getEventForReversal, Prog.run_bind_ok, Tx.run_select, Tx.run_require_ok,
    Tx.run_requireSome_ok] at h
  obtain ⟨_, _, hread, row, _, ⟨hsome, rfl⟩, _, _, ⟨hkind, rfl⟩, _, _, ⟨hstatus, rfl⟩, hret⟩ := h
  cases hread
  cases hret
  obtain ⟨hlookup, htype⟩ := Option.filter_eq_some_iff.mp hsome
  obtain ⟨hmem, hid⟩ := Table.lookup_eq_some.mp hlookup
  exact ⟨rfl, hmem, hid, of_decide_eq_true htype, hkind, hstatus⟩

/-- The lines a reversal reads, in the order of their numbers. -/
theorem run_listEventLinesForReversal_ok {eventId : Int} {ls : List Line}
    (h : (listEventLinesForReversal side eventId).run db = .ok (ls, db')) :
    db' = db ∧ ls.Perm (linesOf side db eventId) := by
  simp only [listEventLinesForReversal, Prog.run_bind_ok, Tx.run_select, Tx.run_require_ok] at h
  obtain ⟨_, _, hread, _, _, ⟨-, rfl⟩, hret⟩ := h
  cases hread
  cases hret
  exact ⟨rfl, List.perm_insertionSort _ _⟩

/-- The original is still to be marked when its reversal has been written. -/
theorem run_markSuperseded_of {eventType : EventType} {e : WmsEvent} {u : Unit}
    (he : e ∈ db.wmsEvents.rows) (htype : e.eventType = eventType) (hkind : e.eventKind = .commit)
    (hstatus : e.status = .committed)
    (h : (Prog.exec (.markSuperseded eventType e.id) : Tx Unit).run db = .ok (u, db')) :
    db' = (Redo.eventSupersede e.id).apply db := by
  obtain ⟨us, hexec, rfl⟩ := Prog.run_exec_ok.mp h
  simp only [Database.exec, Sql.exec] at hexec
  rw [if_pos ⟨e, he, rfl, htype, hkind, hstatus⟩] at hexec
  cases hexec
  rfl

theorem run_reverseEvent_reverses {eventId : Int} {payload : ReversalIn} {userId : Option Int}
    {c : EventDraws} {out : ReversalOut} (fo : Line → List OutboundEventLine)
    (fi : Line → List InboundEventLine) (hcancel : ∀ l, 0 < side.qty l → side.cancel l ≠ 0)
    (hcopy : ∀ (db db' : Db) (u : Unit) (l : Line),
      (Prog.exec (side.insertCopy c.eventId l) : Tx Unit).run db = .ok (u, db') →
        Adds db ⟨[], fo l, fi l, []⟩ db')
    (hnd : ((linesOf side db eventId).map side.lineNo).Nodup) (hfresh : db.NoRef c.eventNo)
    (h : (reverseEvent side eventId payload userId c).run db = .ok (out, db')) :
    ∃ original ls rows, original.id = eventId ∧
      Reverses side db original (reversalEvent side original payload userId c) ls
        ⟨[reversalEvent side original payload userId c], ls.flatMap fo, ls.flatMap fi, rows⟩ db' := by
  simp only [reverseEvent, Prog.run_bind_ok, Tx.run_select, Tx.run_require_ok,
    run_ensureWarehouseNotFrozen_ok] at h
  obtain ⟨_, _, hread, _, _, ⟨hnone, rfl⟩, original, _, hget, ls, _, hlist, _, _, ⟨-, rfl⟩,
    _, db₁, hevent, _, db₂, hlines, _, db₃, hmark, hret⟩ := h
  cases hread
  cases hret
  obtain ⟨rfl, hmem, rfl, htype, hkind, hstatus⟩ := run_getEventForReversal_ok hget
  obtain ⟨rfl, hperm⟩ := run_listEventLinesForReversal_ok hlist
  obtain ⟨hpos, hnew, hadd₁⟩ := run_insertEvent_adds hevent
  have hnd' : (ls.map side.lineNo).Nodup := (hperm.map side.lineNo).nodup_iff.mpr hnd
  obtain ⟨rows, hadd₂, hmoves⟩ := run_reverseLines_adds hpos
    (show _ = original.warehouseId from rfl) hcancel hcopy hnd' (by
    intro l _ row hrow href
    rw [hadd₁.ledger, List.append_nil] at hrow
    exact absurd href (hfresh row hrow)) hlines
  have hadd := hadd₁.trans hadd₂
  have hstill : original ∈ db₂.wmsEvents.rows := by
    rw [hadd.events]
    exact List.mem_append_left _ hmem
  refine ⟨original, ls, rows, rfl, hnew, hmem, ⟨htype, hkind, hstatus⟩, ?_, hperm, rfl, hmoves, db₂,
    by simpa using hadd, run_markSuperseded_of hstill htype hkind hstatus hmark⟩
  simpa using hnone

end Reversals

/-- The lines of one event have distinct numbers. -/
theorem nodup_linesOf {Line : Type} {side : ReversalSide Line}
    {t : Table fun l : Line => (side.lineEventId l, side.lineNo l)} (db : Db)
    (ht : side.lines db = t.rows) (eventId : Int) :
    ((linesOf side db eventId).map side.lineNo).Nodup := by
  unfold linesOf
  rw [ht]
  refine List.Nodup.map_on ?_ ((List.Nodup.of_map _ t.nodup).filter _)
  intro a ha b hb hno
  obtain ⟨ha, hea⟩ := List.mem_filter.mp ha
  obtain ⟨hb, heb⟩ := List.mem_filter.mp hb
  have hid : side.lineEventId a = side.lineEventId b :=
    (of_decide_eq_true hea).trans (of_decide_eq_true heb).symm
  exact t.eq_of_key ha hb (Prod.ext hid hno)

/-- What a reversal of an inbound event writes. -/
theorem run_reverseInboundEvent_reverses {eventId : Int} {payload : ReversalIn}
    {userId : Option Int} {c : EventDraws} {out : ReversalOut} (hfresh : db.NoRef c.eventNo)
    (h : (reverseInboundEvent eventId payload userId c).run db = .ok (out, db')) :
    ∃ original ls rows, original.id = eventId ∧
      Reverses inboundSide db original (reversalEvent inboundSide original payload userId c) ls
        ⟨[reversalEvent inboundSide original payload userId c], [],
          ls.map fun l => l.copyFor c.eventId, rows⟩ db' := by
  obtain ⟨original, ls, rows, hid, hrev⟩ := run_reverseEvent_reverses
    (fun _ => []) (fun l => [l.copyFor c.eventId])
    (fun l (hl : 0 < l.qtyBase) => by show -l.qtyBase ≠ 0; omega)
    (fun _ _ _ _ hins => run_insertInboundLine_adds hins) 
    (nodup_linesOf (t := db.inboundEventLines) db rfl eventId) hfresh h
  refine ⟨original, ls, rows, hid, ?_⟩
  rwa [List.map_eq_flatMap, show ([] : List OutboundEventLine) = ls.flatMap fun _ => [] by simp]

/-- What a reversal of an outbound event writes. -/
theorem run_reverseOutboundEvent_reverses {eventId : Int} {payload : ReversalIn}
    {userId : Option Int} {c : EventDraws} {out : ReversalOut} (hfresh : db.NoRef c.eventNo)
    (h : (reverseOutboundEvent eventId payload userId c).run db = .ok (out, db')) :
    ∃ original ls rows, original.id = eventId ∧
      Reverses outboundSide db original (reversalEvent outboundSide original payload userId c) ls
        ⟨[reversalEvent outboundSide original payload userId c],
          ls.map fun l => l.copyFor c.eventId, [], rows⟩ db' := by
  obtain ⟨original, ls, rows, hid, hrev⟩ := run_reverseEvent_reverses
    (fun l => [l.copyFor c.eventId]) (fun _ => [])
    (fun l (hl : 0 < l.qtyOutbound) => by show l.qtyOutbound ≠ 0; omega)
    (fun _ _ _ _ hins => run_insertOutboundLine_adds hins) 
    (nodup_linesOf (t := db.outboundEventLines) db rfl eventId) hfresh h
  refine ⟨original, ls, rows, hid, ?_⟩
  rwa [List.map_eq_flatMap, show ([] : List InboundEventLine) = ls.flatMap fun _ => [] by simp]

end WmsDu
