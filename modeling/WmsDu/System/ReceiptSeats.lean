import WmsDu.Db.Meets
import WmsDu.Inbound.ReceiptLog
import WmsDu.System.Writes
import WmsDu.Txn.Pool

/-!
# Receiving side by side

One submit of an inbound operation under interference. What it reads of its
task's progress stays true as long as no one else works on the same task, so
its checks hold of everything it leaves behind.
-/

namespace WmsDu

open Txn

/-! ## The tasks -/

/-- The planned quantity of a line of a task, in base units. -/
def InboundReceiptLine.plannedBase (l : InboundReceiptLine) : Int :=
  l.plannedQty * l.ratioToBaseSnapshot

/-- Every line of a task is fully received. -/
def Db.FullyReceived (db : Db) (r : InboundReceipt) : Prop :=
  ∀ l ∈ db.inboundReceiptLines.rows, l.inboundReceiptId = r.id →
    l.plannedBase ≤ receivedQtyBase db r.receiptNo l.lineNo

/-- What holds of the inbound tasks: numbers are unique, every task has a line,
no line is received beyond its plan, and a task is completed exactly when all
its lines are fully received. -/
structure Db.ReceiptsOk (db : Db) : Prop where
  unique : ∀ r ∈ db.inboundReceipts.rows, ∀ r' ∈ db.inboundReceipts.rows,
    r.receiptNo = r'.receiptNo → r = r'
  owned : db.LinesOwned
  lined : ∀ r ∈ db.inboundReceipts.rows, ∃ l ∈ db.inboundReceiptLines.rows,
    l.inboundReceiptId = r.id
  bound : ∀ r ∈ db.inboundReceipts.rows, ∀ l ∈ db.inboundReceiptLines.rows,
    l.inboundReceiptId = r.id → receivedQtyBase db r.receiptNo l.lineNo ≤ l.plannedBase
  completed : ∀ r ∈ db.inboundReceipts.rows, (r.status = .completed ↔ db.FullyReceived r)

/-- What others may do while a submit on the task `receiptNo` holds some locks:
work on other tasks. -/
def receiptSetting (receiptNo : String) : Setting Sql Db Lock where
  issue := fun _ _ => True
  rely := fun held w w' => w'.ReceiptsOk ∧ ∃ ops lines completed,
    w.Receives w' ops lines completed ∧
      (∀ o ∈ ops, o.receiptNoSnapshot ≠ receiptNo ∧ Lock.operation o.id ∉ held) ∧
      (∀ l ∈ lines, Lock.operationLine l.id ∉ held) ∧
      ∀ r ∈ w.inboundReceipts.rows, r.id ∈ completed → r.receiptNo ≠ receiptNo

/-! ## The seat of a submit -/

/-- What a submit knows of its task while no one else works on it. -/
structure TaskView where
  task : InboundReceipt
  received : Int → Int
  lines : Table (fun l : InboundReceiptLine => (l.inboundReceiptId, l.lineNo))

/-- What holds of a submit on a task once it has recorded `ops` and `lines`
and completed `completed`. -/
structure ReceiptSeat (t : TaskView) (ops : List WmsInboundOperation)
    (lines : List WmsInboundOperationLine) (completed : List Int) (c : Seat Db Lock Redo) :
    Prop where
  ok : c.shared.ReceiptsOk
  covered : c.Covered Sql
  task : t.task ∈ c.shared.inboundReceipts.rows
  received : ∀ n, receivedQtyBase c.shared t.task.receiptNo n = t.received n
  planned : c.shared.inboundReceiptLines = t.lines
  ops_log : c.log.filterMap Redo.operation? = ops
  lines_log : c.log.filterMap Redo.operationLine? = lines
  completed_log : c.log.filterMap Redo.completes? = completed
  ops_nodup : (ops.map WmsInboundOperation.id).Nodup
  ops_fresh : ∀ o ∈ ops, ¬ c.shared.wmsInboundOperations.HasKey o.id
  lines_nodup : (lines.map WmsInboundOperationLine.id).Nodup
  lines_fresh : ∀ l ∈ lines, ¬ c.shared.wmsInboundOperationLines.HasKey l.id
  ops_task : ∀ o ∈ ops, o.receiptNoSnapshot = t.task.receiptNo
  owned : ∀ l ∈ lines, ∃ o ∈ ops, o.id = l.wmsInboundOperationId
  completed_task : ∀ receiptId ∈ completed, receiptId = t.task.id

namespace ReceiptSeat
variable {t : TaskView} {ops : List WmsInboundOperation} {lines : List WmsInboundOperationLine}
  {completed : List Int} {c : Seat Db Lock Redo}

/-- The view is the committed state and one's own records. -/
theorem own (h : ReceiptSeat t ops lines completed c) :
    c.shared.Receives (c.view Sql) ops lines completed where
  operations := by
    have happ := replay_inserts (fun db => db.wmsInboundOperations) Redo.operation?
      Redo.apply_operations c.log c.shared
      (by rw [h.ops_log]; exact h.ops_nodup) (by rw [h.ops_log]; exact h.ops_fresh)
    rwa [h.ops_log] at happ
  operationLines := by
    have happ := replay_inserts (fun db => db.wmsInboundOperationLines) Redo.operationLine?
      Redo.apply_operationLines c.log c.shared
      (by rw [h.lines_log]; exact h.lines_nodup) (by rw [h.lines_log]; exact h.lines_fresh)
    rwa [h.lines_log] at happ
  receipts := by
    rw [← h.completed_log]
    exact replay_receipts c.log c.shared
  receiptLines := replay_receiptLines c.log c.shared
  owned := h.owned

/-- The key of an operation in flight is locked. -/
theorem operation_held (h : ReceiptSeat t ops lines completed c) {o : WmsInboundOperation}
    (ho : o ∈ ops) : Lock.operation o.id ∈ c.held := by
  rw [← h.ops_log] at ho
  obtain ⟨u, hu, huo⟩ := List.mem_filterMap.mp ho
  cases u with
  | operationInsert o' => cases huo; exact h.covered _ hu _ List.mem_cons_self
  | _ => cases huo

theorem operationLine_held (h : ReceiptSeat t ops lines completed c)
    {l : WmsInboundOperationLine} (hl : l ∈ lines) : Lock.operationLine l.id ∈ c.held := by
  rw [← h.lines_log] at hl
  obtain ⟨u, hu, hul⟩ := List.mem_filterMap.mp hl
  cases u with
  | operationLineInsert l' => cases hul; exact h.covered _ hu _ List.mem_cons_self
  | _ => cases hul

/-- Work on other tasks leaves the seat as it is. -/
theorem moved (h : ReceiptSeat t ops lines completed c) {w : Db}
    (hw : (receiptSetting t.task.receiptNo).rely c.held c.shared w) :
    ReceiptSeat t ops lines completed (c.moved w) := by
  obtain ⟨hok, ops', lines', completed', hrec, hops, hlines, hcompleted⟩ := hw
  have htask : t.task ∈ w.inboundReceipts.rows := by
    rw [hrec.receipts]
    refine mem_completeAll.mpr ⟨t.task, h.task, ?_⟩
    rw [if_neg fun hid => hcompleted t.task h.task hid rfl]
  refine { h with
    ok := hok, covered := h.covered, task := htask, received := ?_, planned := ?_
    ops_fresh := ?_, lines_fresh := ?_ }
  · intro n
    show receivedQtyBase w _ n = _
    rw [hrec.received_other h.ok.owned fun o ho => (hops o ho).1]
    exact h.received n
  · show w.inboundReceiptLines = _
    rw [hrec.receiptLines]
    exact h.planned
  · rintro o ho ⟨o', ho', hid⟩
    rw [show (c.moved w).shared = w from rfl, hrec.operations] at ho'
    rcases List.mem_append.mp ho' with ho' | ho'
    · exact h.ops_fresh o ho ⟨o', ho', hid⟩
    · exact (hops o' ho').2 (hid ▸ h.operation_held ho)
  · rintro l hl ⟨l', hl', hid⟩
    rw [show (c.moved w).shared = w from rfl, hrec.operationLines] at hl'
    rcases List.mem_append.mp hl' with hl' | hl'
    · exact h.lines_fresh l hl ⟨l', hl', hid⟩
    · exact hlines l' hl' (hid ▸ h.operationLine_held hl)

/-! ### The own statements -/

private theorem apart_records {us : List Redo} (h : ∀ u ∈ us, u.part ≠ .other) :
    us.filterMap Redo.operation? = [] ∧ us.filterMap Redo.operationLine? = [] ∧
      us.filterMap Redo.completes? = [] := by
  simp only [List.filterMap_eq_nil_iff]
  refine ⟨?_, ?_, ?_⟩
  all_goals
    intro u hu
    cases u with
    | operationInsert o => exact absurd rfl (h _ hu)
    | operationLineInsert l => exact absurd rfl (h _ hu)
    | receiptComplete receiptId => exact absurd rfl (h _ hu)
    | _ => rfl

/-- A statement on lots, books, events or event lines. -/
theorem after_apart (h : ReceiptSeat t ops lines completed c) {β : Type} {s : Sql β} {b : β}
    {us : List Redo} (hpart : ∀ p, s.part = some p → p ≠ .other)
    (hs : s.exec (c.view Sql) = .ok (b, us)) :
    ReceiptSeat t ops lines completed (c.after s us) := by
  obtain ⟨hops, hlines, hcompleted⟩ := apart_records
    fun u hu => hpart _ (Sql.exec_part hs u hu)
  refine { h with
    ok := h.ok, covered := h.covered.after hs
    ops_log := ?_, lines_log := ?_, completed_log := ?_ }
  · rw [Seat.after, List.filterMap_append, hops, List.append_nil]
    exact h.ops_log
  · rw [Seat.after, List.filterMap_append, hlines, List.append_nil]
    exact h.lines_log
  · rw [Seat.after, List.filterMap_append, hcompleted, List.append_nil]
    exact h.completed_log

private theorem nodup_snoc {R : Type} {key : R → Int} {l : List R} {r : R}
    (h : (l.map key).Nodup) (hr : ∀ s ∈ l, key s ≠ key r) : ((l ++ [r]).map key).Nodup := by
  rw [List.map_append, List.nodup_append]
  refine ⟨h, List.nodup_singleton _, ?_⟩
  intro a ha b hb
  obtain ⟨s, hs, rfl⟩ := List.mem_map.mp ha
  rw [List.map_singleton, List.mem_singleton] at hb
  rw [hb]
  exact hr s hs

/-- The operation is recorded. -/
theorem after_operation (h : ReceiptSeat t ops lines completed c) {o : WmsInboundOperation}
    {u : Unit} {us : List Redo} (ho : o.receiptNoSnapshot = t.task.receiptNo)
    (hs : (Sql.insertOperation o).exec (c.view Sql) = .ok (u, us)) :
    ReceiptSeat t (ops ++ [o]) lines completed (c.after (Sql.insertOperation o) us) := by
  have hcovered := h.covered.after hs
  simp only [Sql.exec, violated] at hs
  split at hs
  · cases hs
  · rename_i hnew
    split at hs <;> cases hs
    -- fresh in the view, so among the committed and one's own
    have hfresh : ¬ c.shared.wmsInboundOperations.HasKey o.id := by
      rintro ⟨o', ho', hid⟩
      exact hnew ⟨o', by rw [h.own.operations]; exact List.mem_append_left _ ho', hid⟩
    have hne : ∀ o' ∈ ops, o'.id ≠ o.id := by
      intro o' ho' hid
      exact hnew ⟨o', by rw [h.own.operations]; exact List.mem_append_right _ ho', hid⟩
    refine { h with
      ok := h.ok, covered := hcovered
      ops_log := ?_, lines_log := ?_, completed_log := ?_, ops_nodup := ?_, ops_fresh := ?_
      ops_task := ?_, owned := ?_ }
    · rw [Seat.after, List.filterMap_append, h.ops_log]
      rfl
    · rw [Seat.after, List.filterMap_append, h.lines_log]
      exact List.append_nil _
    · rw [Seat.after, List.filterMap_append, h.completed_log]
      exact List.append_nil _
    · exact nodup_snoc h.ops_nodup hne
    · intro o' ho'
      rcases List.mem_append.mp ho' with ho' | ho'
      · exact h.ops_fresh o' ho'
      · rw [List.mem_singleton.mp ho']
        exact hfresh
    · intro o' ho'
      rcases List.mem_append.mp ho' with ho' | ho'
      · exact h.ops_task o' ho'
      · rw [List.mem_singleton.mp ho']
        exact ho
    · intro l hl
      obtain ⟨o', ho', hid⟩ := h.owned l hl
      exact ⟨o', List.mem_append_left _ ho', hid⟩

/-- A line of the operation is recorded. -/
theorem after_line (h : ReceiptSeat t ops lines completed c) {l : WmsInboundOperationLine}
    {u : Unit} {us : List Redo} (hl : ∃ o ∈ ops, o.id = l.wmsInboundOperationId)
    (hs : (Sql.insertOperationLine l).exec (c.view Sql) = .ok (u, us)) :
    ReceiptSeat t ops (lines ++ [l]) completed (c.after (Sql.insertOperationLine l) us) := by
  have hcovered := h.covered.after hs
  simp only [Sql.exec, violated] at hs
  split at hs
  · cases hs
  · split at hs
    · cases hs
    · rename_i hnew
      (repeat' split at hs) <;> cases hs
      have hfresh : ¬ c.shared.wmsInboundOperationLines.HasKey l.id := by
        rintro ⟨l', hl', hid⟩
        exact hnew ⟨l', by rw [h.own.operationLines]; exact List.mem_append_left _ hl', hid⟩
      have hne : ∀ l' ∈ lines, l'.id ≠ l.id := by
        intro l' hl' hid
        exact hnew ⟨l', by rw [h.own.operationLines]; exact List.mem_append_right _ hl', hid⟩
      refine { h with
        ok := h.ok, covered := hcovered
        ops_log := ?_, lines_log := ?_, completed_log := ?_, lines_nodup := ?_
        lines_fresh := ?_, owned := ?_ }
      · rw [Seat.after, List.filterMap_append, h.ops_log]
        exact List.append_nil _
      · rw [Seat.after, List.filterMap_append, h.lines_log]
        rfl
      · rw [Seat.after, List.filterMap_append, h.completed_log]
        exact List.append_nil _
      · exact nodup_snoc h.lines_nodup hne
      · intro l' hl'
        rcases List.mem_append.mp hl' with hl' | hl'
        · exact h.lines_fresh l' hl'
        · rw [List.mem_singleton.mp hl']
          exact hfresh
      · intro l' hl'
        rcases List.mem_append.mp hl' with hl' | hl'
        · exact h.owned l' hl'
        · rw [List.mem_singleton.mp hl']
          exact hl

/-- The task, still released, is completed. -/
theorem after_complete (h : ReceiptSeat t ops lines [] c) (hstatus : t.task.status = .released)
    {u : Unit} {us : List Redo}
    (hs : (Sql.completeReceipt t.task.id).exec (c.view Sql) = .ok (u, us)) :
    ReceiptSeat t ops lines [t.task.id] (c.after (Sql.completeReceipt t.task.id) us) := by
  have hcovered := h.covered.after hs
  simp only [Sql.exec] at hs
  have hfound : ∃ r ∈ (c.view Sql).inboundReceipts.rows,
      r.id = t.task.id ∧ r.status = .released := by
    refine ⟨t.task, ?_, rfl, hstatus⟩
    rw [h.own.receipts, completeAll_nil]
    exact h.task
  rw [if_pos hfound] at hs
  cases hs
  refine { h with
    ok := h.ok, covered := hcovered
    ops_log := ?_, lines_log := ?_, completed_log := ?_, completed_task := ?_ }
  · rw [Seat.after, List.filterMap_append, h.ops_log]
    exact List.append_nil _
  · rw [Seat.after, List.filterMap_append, h.lines_log]
    exact List.append_nil _
  · rw [Seat.after, List.filterMap_append, h.completed_log]
    rfl
  · intro receiptId hid
    exact List.mem_singleton.mp hid

/-! ### Rules -/

theorem stable (t : TaskView) (ops : List WmsInboundOperation)
    (lines : List WmsInboundOperationLine) (completed : List Int) :
    Stable Redo (receiptSetting t.task.receiptNo) (ReceiptSeat t ops lines completed) :=
  fun _ _ hc hw => hc.moved hw

/-- A program on lots, books, events and event lines keeps the seat. -/
theorem meets_apart {α : Type} {x : Tx α} (hx : Tx.Within (· ≠ .other) x) :
    Meets (receiptSetting t.task.receiptNo) (ReceiptSeat t ops lines completed) x
      (fun _ => ReceiptSeat t ops lines completed) :=
  Meets.frame hx (stable t ops lines completed) fun _ _ _ _ hc hpart _ hs =>
    hc.after_apart hpart hs

end ReceiptSeat

/-! ## One submit -/

namespace TaskView
variable {t : TaskView}

/-- The lines of the task as the submit reads them. -/
def taskLines (t : TaskView) : List OperationTaskLine :=
  ((t.lines.rows.filter fun l => l.inboundReceiptId = t.task.id).insertionSort
      fun a b => a.lineNo ≤ b.lineNo).map fun l =>
    { line := l, plannedQtyBase := l.plannedQty * l.ratioToBaseSnapshot
      receivedQtyBase := t.received l.lineNo }

theorem mem_taskLines {tl : OperationTaskLine} :
    tl ∈ t.taskLines ↔ ∃ l ∈ t.lines.rows, l.inboundReceiptId = t.task.id ∧
      tl = ⟨l, l.plannedBase, t.received l.lineNo⟩ := by
  unfold taskLines
  rw [List.mem_map]
  constructor
  · rintro ⟨l, hl, rfl⟩
    obtain ⟨hl, hid⟩ := List.mem_filter.mp ((List.mem_insertionSort _).mp hl)
    exact ⟨l, hl, of_decide_eq_true hid, rfl⟩
  · rintro ⟨l, hl, hid, rfl⟩
    refine ⟨l, (List.mem_insertionSort _).mpr (List.mem_filter.mpr ⟨hl, ?_⟩), rfl⟩
    exact decide_eq_true hid

/-- A task has one line of a number. -/
theorem taskLine_unique {tl tl' : OperationTaskLine} (h : tl ∈ t.taskLines)
    (h' : tl' ∈ t.taskLines) (hno : tl.line.lineNo = tl'.line.lineNo) : tl = tl' := by
  obtain ⟨l, hl, hid, rfl⟩ := mem_taskLines.mp h
  obtain ⟨l', hl', hid', rfl⟩ := mem_taskLines.mp h'
  have hkey : (l.inboundReceiptId, l.lineNo) = (l'.inboundReceiptId, l'.lineNo) :=
    Prod.ext (hid.trans hid'.symm) hno
  rw [t.lines.eq_of_key hl hl' hkey]

/-- What the submit has counted of every line of its task: what was received
before and the lines it recorded, within the plan. -/
def Counted (t : TaskView) (lines : List WmsInboundOperationLine) (receivedBase : Int → Int) :
    Prop :=
  ∀ tl ∈ t.taskLines, receivedBase tl.line.lineNo =
      t.received tl.line.lineNo + lineTally lines tl.line.lineNo ∧
    receivedBase tl.line.lineNo ≤ tl.plannedQtyBase

end TaskView

/-- A submit in its loop: the operation is recorded, and some of its lines. -/
def Submitting (t : TaskView) (head : WmsInboundOperation) (p : OperationProgress)
    (c : Seat Db Lock Redo) : Prop :=
  ∃ lines, ReceiptSeat t [head] lines [] c ∧ t.Counted lines p.receivedBase

section Submit
variable {t : TaskView} {head : WmsInboundOperation}

theorem stable_submitting (p : OperationProgress) :
    Stable Redo (receiptSetting t.task.receiptNo) (Submitting t head p) := by
  rintro c w ⟨lines, hseat, hcounted⟩ hw
  exact ⟨lines, hseat.moved hw, hcounted⟩

/-- One more line recorded, and counted. -/
private theorem counted_snoc {lines : List WmsInboundOperationLine} {tl : OperationTaskLine}
    {l : WmsInboundOperationLine} {p : OperationProgress} (htl : tl ∈ t.taskLines)
    (hno : l.receiptLineNoSnapshot = tl.line.lineNo) (hcounted : t.Counted lines p.receivedBase)
    (hle : p.receivedBase tl.line.lineNo + l.qtyBase ≤ tl.plannedQtyBase) :
    t.Counted (lines ++ [l]) (fun n => if n = tl.line.lineNo then
      p.receivedBase tl.line.lineNo + l.qtyBase else p.receivedBase n) := by
  intro tl' htl'
  obtain ⟨heq, hle'⟩ := hcounted tl' htl'
  dsimp only
  rw [lineTally_append, hno]
  by_cases h : tl'.line.lineNo = tl.line.lineNo
  · obtain rfl := TaskView.taskLine_unique htl' htl h
    rw [if_pos rfl, if_pos rfl, heq]
    refine ⟨by ring, ?_⟩
    rw [← heq]
    exact hle
  · rw [if_neg h, if_neg (fun h' => h h'.symm), add_zero]
    exact ⟨heq, hle'⟩

theorem meets_submitEntry {ctx : OperationContext} {tl : OperationTaskLine}
    (htl : tl ∈ t.taskLines) (hid : ctx.draws.operationId = head.id) (item : Item)
    (entry : InboundOperationEntryIn) (p : OperationProgress) :
    Meets (receiptSetting t.task.receiptNo) (Submitting t head p)
      (submitEntry ctx tl item entry p) (Submitting t head) := by
  refine Meets.of_forall fun lines => ?_
  suffices h : t.Counted lines p.receivedBase → Meets (receiptSetting t.task.receiptNo)
      (ReceiptSeat t [head] lines []) (submitEntry ctx tl item entry p) (Submitting t head) from
    (Meets.of_fact h).consequence (fun _ hc => ⟨hc.2, hc.1⟩) fun _ _ hc => hc
  intro hcounted
  have hstable := ReceiptSeat.stable t [head] lines []
  unfold submitEntry
  refine Meets.bind (ReceiptSeat.meets_apart (within_entryUom _ _)) fun u => ?_
  refine Meets.bind (Tx.meets_require hstable) fun _ => Meets.of_fact fun hle => ?_
  refine Meets.bind (Tx.meets_ofExcept hstable) fun _ => ?_
  refine Meets.bind (Tx.meets_ofExcept hstable) fun _ => ?_
  refine Meets.bind (Tx.meets_ofExcept hstable) fun _ => ?_
  refine Meets.bind (ReceiptSeat.meets_apart (within_resolveInboundLot (by decide) _ _ _ _ _ _))
    fun lotId => ?_
  generalize hl : operationLine ctx tl.line entry u lotId (p.eventLineNo + 1) = l
  have hlno : l.receiptLineNoSnapshot = tl.line.lineNo := by rw [← hl]; rfl
  have hlqty : l.qtyBase = entry.qtyInbound * u.ratioToBase := by rw [← hl]; rfl
  have hlop : l.wmsInboundOperationId = head.id := by rw [← hl]; exact hid
  have hstable' := ReceiptSeat.stable t [head] (lines ++ [l]) []
  refine Meets.bind (M := fun _ => ReceiptSeat t [head] (lines ++ [l]) [])
    (Meets.exec hstable (fun _ => hstable') ?_) fun _ => ?_
  · intro c b us hc _ hs
    exact hc.after_line ⟨head, List.mem_singleton.mpr rfl, hlop.symm⟩ hs
  refine Meets.bind (ReceiptSeat.meets_apart (Tx.within_exec rfl (by decide))) fun _ => ?_
  refine Meets.bind (ReceiptSeat.meets_apart (Tx.within_bind (Tx.within_exec rfl (by simp))
    fun _ => Tx.within_exec rfl (by simp))) fun _ => ?_
  refine Meets.consequence (fun c hc => ?_) (Meets.pure (stable_submitting _)) fun _ _ hc => hc
  refine ⟨lines ++ [l], hc, ?_⟩
  have hsnoc := counted_snoc htl hlno hcounted (by rw [hlqty]; exact hle)
  rw [hlqty] at hsnoc
  exact hsnoc

theorem meets_submitEntries {ctx : OperationContext} {tl : OperationTaskLine}
    (htl : tl ∈ t.taskLines) (hid : ctx.draws.operationId = head.id) (item : Item)
    (entries : List InboundOperationEntryIn) (p : OperationProgress) :
    Meets (receiptSetting t.task.receiptNo) (Submitting t head p)
      (submitEntries ctx tl item entries p) (Submitting t head) := by
  induction entries generalizing p with
  | nil => exact Meets.pure (stable_submitting p)
  | cons entry rest ih =>
      exact Meets.bind (meets_submitEntry htl hid item entry p) fun p' => ih p'

theorem meets_submitOperationLines {ctx : OperationContext}
    (hid : ctx.draws.operationId = head.id) (lines : List InboundOperationLineIn)
    (p : OperationProgress) :
    Meets (receiptSetting t.task.receiptNo) (Submitting t head p)
      (submitOperationLines ctx t.taskLines lines p) (Submitting t head) := by
  induction lines generalizing p with
  | nil => exact Meets.pure (stable_submitting p)
  | cons line rest ih =>
      unfold submitOperationLines
      refine Meets.bind (Tx.meets_requireSome (stable_submitting p)) fun tl =>
        Meets.of_fact fun hfind => ?_
      have htl : tl ∈ t.taskLines := List.mem_of_find?_eq_some hfind
      refine Meets.bind (M := fun _ => Submitting t head p)
        (Tx.meets_select (stable_submitting p) (fun _ => stable_submitting p) ?_) fun o => ?_
      · rintro c ⟨recorded, hseat, hcounted⟩
        exact ⟨recorded, hseat.after_apart (fun _ hp => by cases hp) rfl, hcounted⟩
      refine Meets.bind (Tx.meets_requireSome (stable_submitting p)) fun item =>
        Meets.of_fact fun _ => ?_
      exact Meets.bind (meets_submitEntries htl hid item line.entries p) fun p' => ih p'

/-- What a submit leaves: lines within the plan, and its task completed if and
only if it has lines and all of them are fully received. -/
structure Submitted (t : TaskView) (c : Seat Db Lock Redo)
    (ops : List WmsInboundOperation) (lines : List WmsInboundOperationLine)
    (completed : List Int) : Prop where
  seat : ReceiptSeat t ops lines completed c
  released : t.task.status = .released
  within : ∀ tl ∈ t.taskLines,
    t.received tl.line.lineNo + lineTally lines tl.line.lineNo ≤ tl.plannedQtyBase
  completes : completed ≠ [] ↔ t.taskLines ≠ [] ∧ ∀ tl ∈ t.taskLines,
    tl.plannedQtyBase ≤ t.received tl.line.lineNo + lineTally lines tl.line.lineNo

/-- A submit on the task numbered `receiptNo` has finished. -/
def SubmitDone (receiptNo : String) (c : Seat Db Lock Redo) : Prop :=
  ∃ t ops lines completed, t.task.receiptNo = receiptNo ∧ Submitted t c ops lines completed

theorem stable_submitDone (receiptNo : String) :
    Stable Redo (receiptSetting receiptNo) (SubmitDone receiptNo) := by
  rintro c w ⟨t, ops, lines, completed, rfl, h⟩ hw
  exact ⟨t, ops, lines, completed, rfl, { h with seat := h.seat.moved hw }⟩

/-- What the submit reads of its task's lines. -/
theorem ReceiptSeat.operationTaskLines_eq {c : Seat Db Lock Redo}
    (h : ReceiptSeat t [] [] [] c) : operationTaskLines (c.view Sql) t.task = t.taskLines := by
  have hlines : (c.view Sql).inboundReceiptLines = t.lines :=
    h.own.receiptLines.trans h.planned
  have hreceived : ∀ n, receivedQtyBase (c.view Sql) t.task.receiptNo n = t.received n := by
    intro n
    rw [h.own.received_own h.ok.owned (fun o ho => by cases ho), h.received]
    exact add_zero _
  unfold operationTaskLines TaskView.taskLines
  rw [hlines]
  refine List.map_congr_left fun l _ => ?_
  rw [hreceived]

/-- Before the first line, the progress is what was read. -/
private theorem counted_nil {c : Seat Db Lock Redo} {ops completed}
    (h : ReceiptSeat t ops [] completed c) :
    t.Counted [] (fun n => ((t.taskLines.find? fun tl => tl.line.lineNo = n).map
      OperationTaskLine.receivedQtyBase).getD 0) := by
  intro tl htl
  have hfind : t.taskLines.find? (fun tl' => tl'.line.lineNo = tl.line.lineNo) = some tl := by
    cases hf : t.taskLines.find? (fun tl' => tl'.line.lineNo = tl.line.lineNo) with
    | none => exact absurd (List.find?_eq_none.mp hf tl htl) (by simp)
    | some tl' =>
        have hno : tl'.line.lineNo = tl.line.lineNo := by simpa using List.find?_some hf
        rw [TaskView.taskLine_unique (List.mem_of_find?_eq_some hf) htl hno]
  obtain ⟨l, hl, hid, rfl⟩ := TaskView.mem_taskLines.mp htl
  dsimp only
  rw [hfind]
  refine ⟨(add_zero _).symm, ?_⟩
  show t.received l.lineNo ≤ l.plannedBase
  rw [← h.received]
  exact h.ok.bound t.task h.task l (by rw [h.planned]; exact hl) hid

/-- The last step: the task is completed when every line is full. -/
private theorem meets_completeTask (hreleased : t.task.status = .released)
    (p : OperationProgress) (out : InboundOperationSubmitOut) :
    Meets (receiptSetting t.task.receiptNo) (Submitting t head p)
      (Tx.when (t.taskLines ≠ [] ∧
          ∀ tl ∈ t.taskLines, tl.plannedQtyBase ≤ p.receivedBase tl.line.lineNo)
        (Prog.exec (.completeReceipt t.task.id)) >>= fun _ => pure out)
      (fun _ => SubmitDone t.task.receiptNo) := by
  refine Meets.of_forall fun lines => ?_
  refine Meets.consequence (fun c hc => ⟨hc.2, hc.1⟩) (Meets.of_fact fun hcounted => ?_)
    fun _ _ hc => hc
  have hwithin : ∀ tl ∈ t.taskLines,
      t.received tl.line.lineNo + lineTally lines tl.line.lineNo ≤ tl.plannedQtyBase :=
    fun tl htl => (hcounted tl htl).1 ▸ (hcounted tl htl).2
  have hfull : (∀ tl ∈ t.taskLines, tl.plannedQtyBase ≤ p.receivedBase tl.line.lineNo) ↔
      ∀ tl ∈ t.taskLines, tl.plannedQtyBase ≤
        t.received tl.line.lineNo + lineTally lines tl.line.lineNo :=
    forall₂_congr fun tl htl => by rw [(hcounted tl htl).1]
  have hdone : ∀ completed, (completed ≠ [] ↔ t.taskLines ≠ [] ∧
        ∀ tl ∈ t.taskLines, tl.plannedQtyBase ≤ p.receivedBase tl.line.lineNo) →
      ∀ c, ReceiptSeat t [head] lines completed c → SubmitDone t.task.receiptNo c :=
    fun completed hiff c hc =>
      ⟨t, _, lines, _, rfl, hc, hreleased, hwithin, by rw [hiff, hfull]⟩
  unfold Tx.when
  split
  · rename_i hall
    refine Meets.bind (M := fun _ => ReceiptSeat t [head] lines [t.task.id])
      (Meets.exec (ReceiptSeat.stable _ _ _ _) (fun _ => ReceiptSeat.stable _ _ _ _)
        fun _ _ _ hc _ hs => hc.after_complete hreleased hs) fun _ => ?_
    exact Meets.consequence (hdone _ (iff_of_true (by simp) hall))
      (Meets.pure (Q := fun _ => SubmitDone t.task.receiptNo) (stable_submitDone _))
      fun _ _ hc => hc
  · rename_i hnot
    refine Meets.bind (M := fun _ => ReceiptSeat t [head] lines [])
      (Meets.pure (Q := fun _ => ReceiptSeat t [head] lines []) (ReceiptSeat.stable _ _ _ _))
      fun _ => ?_
    exact Meets.consequence (hdone _ (iff_of_false (by simp) hnot))
      (Meets.pure (Q := fun _ => SubmitDone t.task.receiptNo) (stable_submitDone _))
      fun _ _ hc => hc

theorem meets_submitReleasedOperation (hreleased : t.task.status = .released)
    (payload : InboundOperationSubmitIn) (op : Operator) (c : OperationDraws) :
    Meets (receiptSetting t.task.receiptNo) (ReceiptSeat t [] [] [])
      (submitReleasedOperation t.task payload op c)
      (fun _ => SubmitDone t.task.receiptNo) := by
  unfold submitReleasedOperation
  have hstable := ReceiptSeat.stable t [] [] []
  refine Meets.bind (M := fun taskLines c => taskLines = t.taskLines ∧ ReceiptSeat t [] [] [] c)
    (Tx.meets_select hstable (fun _ c w hc hw => ⟨hc.1, hstable c w hc.2 hw⟩) ?_) fun taskLines =>
      Meets.of_fact fun htl => ?_
  · intro c hc
    exact ⟨hc.operationTaskLines_eq, hc.after_apart (fun _ hp => by cases hp) rfl⟩
  subst htl
  generalize hhead : operationHead t.task op c payload.remark = head
  have hno : head.receiptNoSnapshot = t.task.receiptNo := by rw [← hhead]; rfl
  have hid : c.operationId = head.id := by rw [← hhead]; rfl
  refine Meets.bind (M := fun _ => ReceiptSeat t [head] [] [])
    (Meets.exec hstable (fun _ => ReceiptSeat.stable _ _ _ _) ?_) fun _ => ?_
  · intro c _ us hc _ hs
    exact hc.after_operation hno hs
  refine Meets.bind (ReceiptSeat.meets_apart (Tx.within_exec rfl (by decide))) fun _ => ?_
  refine Meets.bind ((meets_submitOperationLines hid payload.lines _).consequence
    (fun _ hc => ⟨[], hc, counted_nil hc⟩) fun _ _ hc => hc) fun p => ?_
  exact meets_completeTask hreleased p _

/-- **One submit.** Beside work on other tasks, a submit keeps its task's lines
within the plan and completes it exactly when it should. -/
theorem meets_submitInboundOperationRepo (payload : InboundOperationSubmitIn) (op : Operator)
    (c : OperationDraws) :
    Meets (receiptSetting payload.receiptNo) (fun c => c.shared.ReceiptsOk ∧ c.log = [])
      (submitInboundOperationRepo payload op c) (fun _ => SubmitDone payload.receiptNo) := by
  unfold submitInboundOperationRepo
  have hstart : Stable Redo (receiptSetting payload.receiptNo)
      (fun c => c.shared.ReceiptsOk ∧ c.log = []) := fun c w hc hw => ⟨hw.1, hc.2⟩
  -- the task once found stays the task of that number
  let Found (o : Option InboundReceipt) (c : Seat Db Lock Redo) : Prop :=
    ∀ task, o = some task → task.receiptNo = payload.receiptNo ∧
      ∃ t : TaskView, t.task = task ∧ ReceiptSeat t [] [] [] c
  have hfound : ∀ o, Stable Redo (receiptSetting payload.receiptNo) (Found o) := by
    intro o c w hc hw task ho
    obtain ⟨hno, t, rfl, hseat⟩ := hc task ho
    exact ⟨hno, t, rfl, hseat.moved (by rw [hno]; exact hw)⟩
  refine Meets.bind (M := Found) (Tx.meets_select hstart hfound ?_) fun o => ?_
  · rintro c ⟨hok, hlog⟩ task hfind
    have hview : c.view Sql = c.shared := by rw [Seat.view, hlog, replay_nil]
    rw [hview] at hfind
    have hno : task.receiptNo = payload.receiptNo := by simpa using List.find?_some hfind
    refine ⟨hno, ⟨task, receivedQtyBase c.shared task.receiptNo, c.shared.inboundReceiptLines⟩,
      rfl, ?_⟩
    exact {
      ok := hok, task := List.mem_of_find?_eq_some hfind, received := fun _ => rfl
      planned := rfl
      covered := by intro u hu; simp [Seat.after, hlog] at hu
      ops_log := by simp [Seat.after, hlog], lines_log := by simp [Seat.after, hlog]
      completed_log := by simp [Seat.after, hlog]
      ops_nodup := List.nodup_nil, ops_fresh := by simp, lines_nodup := List.nodup_nil
      lines_fresh := by simp, ops_task := by simp, owned := by simp, completed_task := by simp }
  refine Meets.bind (Tx.meets_requireSome (hfound o)) fun task => Meets.of_fact fun ho => ?_
  subst ho
  refine Meets.bind (Tx.meets_require (hfound (some task))) fun _ => Meets.of_fact fun hreleased => ?_
  refine Meets.consequence (P := fun c => ∃ t : TaskView, task.receiptNo = payload.receiptNo ∧
      t.task = task ∧ ReceiptSeat t [] [] [] c) (fun c hc => ?_) (Meets.of_forall fun t => ?_)
    fun _ _ hc => hc
  · obtain ⟨hno, t, ht, hseat⟩ := hc task rfl
    exact ⟨t, hno, ht, hseat⟩
  refine Meets.of_fact fun hno => Meets.of_fact fun ht => ?_
  subst ht
  rw [← hno]
  refine Meets.bind (ReceiptSeat.meets_apart (within_ensureWarehouseNotFrozen _)) fun _ => ?_
  exact meets_submitReleasedOperation hreleased payload op c

end Submit

/-! ## The commit -/

namespace Submitted
variable {t : TaskView} {c : Seat Db Lock Redo} {ops : List WmsInboundOperation}
  {lines : List WmsInboundOperationLine} {completed : List Int}

/-- What the view has received for a line of the submit's own task. -/
private theorem received_task (h : Submitted t c ops lines completed) (n : Int) :
    receivedQtyBase (c.view Sql) t.task.receiptNo n = t.received n + lineTally lines n := by
  rw [h.seat.own.received_own h.seat.ok.owned h.seat.ops_task, h.seat.received]

private theorem received_apart (h : Submitted t c ops lines completed) {receiptNo : String}
    (hne : receiptNo ≠ t.task.receiptNo) (n : Int) :
    receivedQtyBase (c.view Sql) receiptNo n = receivedQtyBase c.shared receiptNo n := by
  refine h.seat.own.received_other h.seat.ok.owned (fun o ho hno => hne ?_) n
  rw [← hno, h.seat.ops_task o ho]

private theorem mem_lines (h : Submitted t c ops lines completed) {l : InboundReceiptLine} :
    l ∈ (c.view Sql).inboundReceiptLines.rows ↔ l ∈ t.lines.rows := by
  rw [h.seat.own.receiptLines, h.seat.planned]

private theorem fullyReceived_task (h : Submitted t c ops lines completed) {r : InboundReceipt}
    (hid : r.id = t.task.id) (hno : r.receiptNo = t.task.receiptNo) :
    (c.view Sql).FullyReceived r ↔ ∀ tl ∈ t.taskLines,
      tl.plannedQtyBase ≤ t.received tl.line.lineNo + lineTally lines tl.line.lineNo := by
  constructor
  · intro hfull tl htl
    obtain ⟨l, hl, hlid, rfl⟩ := TaskView.mem_taskLines.mp htl
    have := hfull l (h.mem_lines.mpr hl) (hlid.trans hid.symm)
    rwa [hno, h.received_task] at this
  · intro hfull l hl hlid
    rw [hno, h.received_task]
    exact hfull _ (TaskView.mem_taskLines.mpr ⟨l, h.mem_lines.mp hl, hlid.trans hid, rfl⟩)

private theorem fullyReceived_apart (h : Submitted t c ops lines completed) {r : InboundReceipt}
    (hne : r.receiptNo ≠ t.task.receiptNo) :
    (c.view Sql).FullyReceived r ↔ c.shared.FullyReceived r := by
  unfold Db.FullyReceived
  rw [h.seat.own.receiptLines]
  exact forall₂_congr fun l _ => by rw [h.received_apart hne]

/-- A task of the view is the submit's own, or one it did not touch. -/
private theorem receipt_cases (h : Submitted t c ops lines completed) {r : InboundReceipt}
    (hr : r ∈ (c.view Sql).inboundReceipts.rows) :
    (r.id = t.task.id ∧ r.receiptNo = t.task.receiptNo ∧
        (r.status = .completed ↔ completed ≠ [])) ∨
      r ∈ c.shared.inboundReceipts.rows ∧ r.receiptNo ≠ t.task.receiptNo := by
  rw [h.seat.own.receipts] at hr
  obtain ⟨r₀, hr₀, rfl⟩ := mem_completeAll.mp hr
  by_cases hno : r₀.receiptNo = t.task.receiptNo
  · obtain rfl := h.seat.ok.unique r₀ hr₀ t.task h.seat.task hno
    left
    cases hc : completed with
    | nil => simp [h.released]
    | cons receiptId others =>
        have hid := h.seat.completed_task receiptId (by rw [hc]; exact List.mem_cons_self)
        simp [hid]
  · have hnot : r₀.id ∉ completed := by
      intro hid
      have heq := h.seat.completed_task _ hid
      exact hno (by rw [c.shared.inboundReceipts.eq_of_key hr₀ h.seat.task heq])
    rw [if_neg hnot]
    exact Or.inr ⟨hr₀, hno⟩

/-- A finished submit commits to tasks that are in order. -/
theorem ok (h : Submitted t c ops lines completed) : (c.view Sql).ReceiptsOk where
  unique := by
    intro r hr r' hr' hno
    rcases h.receipt_cases hr with ⟨hid, hown, -⟩ | ⟨hr₀, hne⟩
    · rcases h.receipt_cases hr' with ⟨hid', -, -⟩ | ⟨-, hne'⟩
      · exact (c.view Sql).inboundReceipts.eq_of_key hr hr' (hid.trans hid'.symm)
      · exact absurd (hno.symm.trans hown) hne'
    · rcases h.receipt_cases hr' with ⟨-, hown', -⟩ | ⟨hr₀', -⟩
      · exact absurd (hno.trans hown') hne
      · exact h.seat.ok.unique r hr₀ r' hr₀' hno
  owned := h.seat.own.linesOwned h.seat.ok.owned
  bound := by
    intro r hr l hl hid
    rcases h.receipt_cases hr with ⟨hrid, hown, -⟩ | ⟨hr₀, hne⟩
    · rw [hown, h.received_task]
      exact h.within _ (TaskView.mem_taskLines.mpr ⟨l, h.mem_lines.mp hl, hid.trans hrid, rfl⟩)
    · rw [h.received_apart hne]
      rw [h.seat.own.receiptLines] at hl
      exact h.seat.ok.bound r hr₀ l hl hid
  lined := by
    intro r hr
    rw [h.seat.own.receiptLines]
    rcases h.receipt_cases hr with ⟨hrid, -, -⟩ | ⟨hr₀, -⟩
    · rw [hrid]
      exact h.seat.ok.lined t.task h.seat.task
    · exact h.seat.ok.lined r hr₀
  completed := by
    intro r hr
    rcases h.receipt_cases hr with ⟨hrid, hown, hstatus⟩ | ⟨hr₀, hne⟩
    · obtain ⟨l, hl, hid⟩ := h.seat.ok.lined t.task h.seat.task
      have hnonempty : t.taskLines ≠ [] := List.ne_nil_of_mem
        (TaskView.mem_taskLines.mpr ⟨l, by rwa [h.seat.planned] at hl, hid, rfl⟩)
      rw [hstatus, h.completes, h.fullyReceived_task hrid hown]
      exact and_iff_right hnonempty
    · rw [h.fullyReceived_apart hne]
      exact h.seat.ok.completed r hr₀

/-- To submits on other tasks it is work on another task. -/
theorem rely (h : Submitted t c ops lines completed) {receiptNo : String} {held : List Lock}
    (hne : receiptNo ≠ t.task.receiptNo) (hdis : ∀ l ∈ c.held, l ∉ held) :
    (receiptSetting receiptNo).rely held c.shared (c.view Sql) := by
  refine ⟨h.ok, ops, lines, completed, h.seat.own, ?_, ?_, ?_⟩
  · intro o ho
    refine ⟨?_, hdis _ (h.seat.operation_held ho)⟩
    rw [h.seat.ops_task o ho]
    exact hne.symm
  · exact fun l hl => hdis _ (h.seat.operationLine_held hl)
  · intro r hr hid
    have hown := h.seat.completed_task _ hid
    rw [c.shared.inboundReceipts.eq_of_key hr h.seat.task hown]
    exact hne.symm

end Submitted

/-! ## The discipline -/

/-- A call of `submit_inbound_operation_repo`. -/
structure OperationCall where
  payload : InboundOperationSubmitIn
  operator : Operator
  draws : OperationDraws

def OperationCall.prog (o : OperationCall) : Tx InboundOperationSubmitOut :=
  submitInboundOperationRepo o.payload o.operator o.draws

/-- Two submits in flight together are on different tasks. -/
def onePerTask : Terms OperationCall Sql Db where
  issue := fun _ _ => True
  together := fun a b => a.payload.receiptNo ≠ b.payload.receiptNo
  together_symm := fun _ _ h => h.symm

instance (a b : OperationCall) : Decidable (onePerTask.together a b) :=
  inferInstanceAs (Decidable (a.payload.receiptNo ≠ b.payload.receiptNo))

instance {β : Type} (s : Sql β) (db : Db) : Decidable (onePerTask.issue s db) :=
  inferInstanceAs (Decidable True)

/-- Submits on different tasks leave each other's task alone. -/
def receiptDiscipline : Discipline OperationCall.prog onePerTask Lock Redo where
  inv := Db.ReceiptsOk
  rely := fun o => (receiptSetting o.payload.receiptNo).rely
  done := fun o _ => SubmitDone o.payload.receiptNo
  post := fun _ _ _ => True
  meets := fun o => Meets.consequence
    (fun c hc => ⟨hc.1, by rw [hc.2]; rfl⟩)
    (meets_submitInboundOperationRepo o.payload o.operator o.draws) (fun _ _ => id)
  keeps := by
    rintro o a c ⟨t, ops, lines, completed, -, h⟩ -
    exact h.ok
  guarantee := by
    rintro o a c o' held ⟨t, ops, lines, completed, hno, h⟩ - hne hdis
    exact h.rely (by rw [hno]; exact hne) hdis
  answers := fun _ _ => trivial
  lasting := fun _ _ _ => trivial

end WmsDu
