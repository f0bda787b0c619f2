import Mathlib
import WmsDu.Db.Guards
import WmsDu.Inbound.Operation

/-!
# What a log does to the inbound tasks

Of everything an operation writes, three kinds of records bear on how far a
task has been received: the operation, its lines and the completion of the
task. Their effect on the committed state is read off the log.
-/

namespace WmsDu

open Txn

/-! ## The records of a log -/

def Redo.operation? : Redo → Option WmsInboundOperation
  | .operationInsert o => some o
  | _ => none

def Redo.operationLine? : Redo → Option WmsInboundOperationLine
  | .operationLineInsert l => some l
  | _ => none

def Redo.completes? : Redo → Option Int
  | .receiptComplete receiptId => some receiptId
  | _ => none

/-- A log that only inserts into a table appends to it, where the keys are
fresh. -/
theorem replay_inserts {R K : Type} [DecidableEq K] {key : R → K} (f : Db → Table key)
    (ins : Redo → Option R)
    (hf : ∀ u db, f (u.apply db) = (ins u).elim (f db) (f db).insert)
    (log : List Redo) (w : Db) (hnodup : ((log.filterMap ins).map key).Nodup)
    (hfresh : ∀ r ∈ log.filterMap ins, ¬ (f w).HasKey (key r)) :
    (f (replay Sql log w)).rows = (f w).rows ++ log.filterMap ins := by
  induction log generalizing w with
  | nil => simp
  | cons u log ih =>
      rw [replay_cons, apply_sql]
      cases hr : ins u with
      | none =>
          have hu : f (u.apply w) = f w := by rw [hf, hr]; rfl
          rw [List.filterMap_cons_none hr] at hnodup hfresh ⊢
          rw [ih _ hnodup (by rw [hu]; exact hfresh), hu]
      | some r =>
          have hu : f (u.apply w) = (f w).insert r := by rw [hf, hr]; rfl
          rw [List.filterMap_cons_some hr] at hnodup hfresh ⊢
          obtain ⟨hne, hnodup⟩ := List.nodup_cons.mp hnodup
          have hnew : ¬ (f w).HasKey (key r) := hfresh r List.mem_cons_self
          rw [ih _ hnodup, hu, Table.rows_insert_new hnew, List.append_assoc, List.singleton_append]
          intro s hs hk
          rw [hu, Table.hasKey_insert] at hk
          rcases hk with hk | hk
          · exact hfresh s (List.mem_cons_of_mem _ hs) hk
          · exact hne (hk ▸ List.mem_map_of_mem hs)

theorem Redo.apply_operations (u : Redo) (db : Db) :
    (u.apply db).wmsInboundOperations =
      u.operation?.elim db.wmsInboundOperations db.wmsInboundOperations.insert := by
  cases u <;> rfl

theorem Redo.apply_operationLines (u : Redo) (db : Db) :
    (u.apply db).wmsInboundOperationLines =
      u.operationLine?.elim db.wmsInboundOperationLines db.wmsInboundOperationLines.insert := by
  cases u <;> rfl

theorem Redo.apply_receiptLines (u : Redo) (db : Db) :
    (u.apply db).inboundReceiptLines = db.inboundReceiptLines := by
  cases u <;> rfl

theorem InboundReceipt.id_completed (r : InboundReceipt) :
    ({ r with status := .completed } : InboundReceipt).id = r.id := rfl

/-- The receipts with those of some ids completed. -/
def completeAll (ids : List Int) (t : Table InboundReceipt.id) : Table InboundReceipt.id :=
  t.update (fun r => r.id ∈ ids) (fun r => { r with status := .completed })
    InboundReceipt.id_completed

theorem completeAll_nil (t : Table InboundReceipt.id) : completeAll [] t = t := by
  refine Table.ext_rows ?_
  simp [completeAll, Table.rows_update]

theorem completeAll_append (ids ids' : List Int) (t : Table InboundReceipt.id) :
    completeAll ids' (completeAll ids t) = completeAll (ids ++ ids') t := by
  refine Table.ext_rows ?_
  simp only [completeAll, Table.rows_update, List.map_map]
  refine List.map_congr_left fun r _ => ?_
  by_cases h : r.id ∈ ids
  · by_cases h' : r.id ∈ ids'
    · simp [h, h']
    · simp [h, h']
  · simp [h]

theorem mem_completeAll {ids : List Int} {t : Table InboundReceipt.id} {r : InboundReceipt} :
    r ∈ (completeAll ids t).rows ↔
      ∃ r₀ ∈ t.rows, r = if r₀.id ∈ ids then { r₀ with status := .completed } else r₀ := by
  rw [completeAll, Table.mem_update]

theorem Redo.apply_receipts (u : Redo) (db : Db) :
    (u.apply db).inboundReceipts = completeAll u.completes?.toList db.inboundReceipts := by
  cases u with
  | receiptComplete receiptId =>
      refine Table.ext_rows ?_
      simp [Redo.apply, Redo.completes?, completeAll, Table.rows_update]
  | _ => exact (completeAll_nil _).symm

theorem replay_receipts (log : List Redo) (w : Db) :
    (replay Sql log w).inboundReceipts =
      completeAll (log.filterMap Redo.completes?) w.inboundReceipts := by
  induction log generalizing w with
  | nil => exact (completeAll_nil _).symm
  | cons u log ih =>
      rw [replay_cons, apply_sql, ih, Redo.apply_receipts, completeAll_append]
      congr 1
      cases u <;> rfl

theorem replay_receiptLines (log : List Redo) (w : Db) :
    (replay Sql log w).inboundReceiptLines = w.inboundReceiptLines :=
  replay_frame (p := fun _ => True) (fun u w _ => Redo.apply_receiptLines u w) log w
    (fun _ _ => trivial)

/-! ## Progress of the tasks -/

/-- From `w` to `v` operations were recorded and tasks completed. -/
structure Db.Receives (w v : Db) (ops : List WmsInboundOperation)
    (lines : List WmsInboundOperationLine) (completed : List Int) : Prop where
  operations : v.wmsInboundOperations.rows = w.wmsInboundOperations.rows ++ ops
  operationLines : v.wmsInboundOperationLines.rows = w.wmsInboundOperationLines.rows ++ lines
  receipts : v.inboundReceipts = completeAll completed w.inboundReceipts
  receiptLines : v.inboundReceiptLines = w.inboundReceiptLines
  owned : ∀ l ∈ lines, ∃ o ∈ ops, o.id = l.wmsInboundOperationId

/-- Every operation line has its operation. -/
def Db.LinesOwned (db : Db) : Prop :=
  ∀ l ∈ db.wmsInboundOperationLines.rows, db.wmsInboundOperations.HasKey l.wmsInboundOperationId

/-- The quantity the lines of a list record for one line of a task. -/
def lineTally (lines : List WmsInboundOperationLine) (lineNo : Int) : Int :=
  sumOver (fun l : WmsInboundOperationLine => l.receiptLineNoSnapshot = lineNo)
    WmsInboundOperationLine.qtyBase lines

section Receives
variable {w v : Db} {ops : List WmsInboundOperation} {lines : List WmsInboundOperationLine}
  {completed : List Int}

namespace Db.Receives

theorem linesOwned (h : Receives w v ops lines completed) (hw : w.LinesOwned) : v.LinesOwned := by
  intro l hl
  rw [h.operationLines] at hl
  rcases List.mem_append.mp hl with hl | hl
  · obtain ⟨o, ho, hid⟩ := hw l hl
    exact ⟨o, by rw [h.operations]; exact List.mem_append_left _ ho, hid⟩
  · obtain ⟨o, ho, hid⟩ := h.owned l hl
    exact ⟨o, by rw [h.operations]; exact List.mem_append_right _ ho, hid⟩

private theorem old_line (h : Receives w v ops lines completed) (hw : w.LinesOwned)
    {l : WmsInboundOperationLine} (hl : l ∈ w.wmsInboundOperationLines.rows) (receiptNo : String) :
    (∃ o ∈ v.wmsInboundOperations.rows,
      o.id = l.wmsInboundOperationId ∧ o.receiptNoSnapshot = receiptNo) ↔
      ∃ o ∈ w.wmsInboundOperations.rows,
        o.id = l.wmsInboundOperationId ∧ o.receiptNoSnapshot = receiptNo := by
  have hsub : ∀ o ∈ w.wmsInboundOperations.rows, o ∈ v.wmsInboundOperations.rows := fun o ho => by
    rw [h.operations]; exact List.mem_append_left _ ho
  constructor
  · rintro ⟨o, ho, hid, hno⟩
    obtain ⟨o', ho', hid'⟩ := hw l hl
    obtain rfl := v.wmsInboundOperations.eq_of_key ho (hsub o' ho') (hid.trans hid'.symm)
    exact ⟨o, ho', hid, hno⟩
  · rintro ⟨o, ho, h'⟩
    exact ⟨o, hsub o ho, h'⟩

private theorem new_line (h : Receives w v ops lines completed) {l : WmsInboundOperationLine}
    (hl : l ∈ lines) (receiptNo : String) :
    (∃ o ∈ v.wmsInboundOperations.rows,
      o.id = l.wmsInboundOperationId ∧ o.receiptNoSnapshot = receiptNo) ↔
      ∃ o ∈ ops, o.id = l.wmsInboundOperationId ∧ o.receiptNoSnapshot = receiptNo := by
  have hsub : ∀ o ∈ ops, o ∈ v.wmsInboundOperations.rows := fun o ho => by
    rw [h.operations]; exact List.mem_append_right _ ho
  constructor
  · rintro ⟨o, ho, hid, hno⟩
    obtain ⟨o', ho', hid'⟩ := h.owned l hl
    obtain rfl := v.wmsInboundOperations.eq_of_key ho (hsub o' ho') (hid.trans hid'.symm)
    exact ⟨o, ho', hid, hno⟩
  · rintro ⟨o, ho, h'⟩
    exact ⟨o, hsub o ho, h'⟩

private theorem received_split (h : Receives w v ops lines completed) (hw : w.LinesOwned)
    (receiptNo : String) (lineNo : Int) :
    receivedQtyBase v receiptNo lineNo = receivedQtyBase w receiptNo lineNo +
      sumOver (fun l : WmsInboundOperationLine => l.receiptLineNoSnapshot = lineNo ∧
          ∃ o ∈ v.wmsInboundOperations.rows,
            o.id = l.wmsInboundOperationId ∧ o.receiptNoSnapshot = receiptNo)
        WmsInboundOperationLine.qtyBase lines := by
  unfold receivedQtyBase
  rw [h.operationLines, sumOver_append]
  congr 1
  exact sumOver_congr (fun l hl => by rw [h.old_line hw hl]) fun _ _ _ => rfl

/-- What was received for a task other operations worked on is unchanged. -/
theorem received_other (h : Receives w v ops lines completed) (hw : w.LinesOwned)
    {receiptNo : String} (hne : ∀ o ∈ ops, o.receiptNoSnapshot ≠ receiptNo) (lineNo : Int) :
    receivedQtyBase v receiptNo lineNo = receivedQtyBase w receiptNo lineNo := by
  rw [h.received_split hw, sumOver_eq_zero, add_zero]
  rintro l hl ⟨_, hop⟩
  obtain ⟨o, ho, -, hno⟩ := (h.new_line hl receiptNo).mp hop
  exact absurd hno (hne o ho)

/-- What operations on a task record adds to what was received for it. -/
theorem received_own (h : Receives w v ops lines completed) (hw : w.LinesOwned)
    {receiptNo : String} (hown : ∀ o ∈ ops, o.receiptNoSnapshot = receiptNo) (lineNo : Int) :
    receivedQtyBase v receiptNo lineNo =
      receivedQtyBase w receiptNo lineNo + lineTally lines lineNo := by
  rw [h.received_split hw]
  congr 1
  refine sumOver_congr (fun l hl => ?_) fun _ _ _ => rfl
  rw [h.new_line hl]
  constructor
  · exact fun hl' => hl'.1
  · intro hno
    obtain ⟨o, ho, hid⟩ := h.owned l hl
    exact ⟨hno, o, ho, hid, hown o ho⟩

end Db.Receives

end Receives

theorem lineTally_append (lines : List WmsInboundOperationLine) (l : WmsInboundOperationLine)
    (lineNo : Int) :
    lineTally (lines ++ [l]) lineNo =
      lineTally lines lineNo + if l.receiptLineNoSnapshot = lineNo then l.qtyBase else 0 := by
  rw [lineTally, sumOver_append, sumOver_singleton]
  rfl

end WmsDu
