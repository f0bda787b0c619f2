import WmsDu.Mirror.Sessions

/-!
# An order mirror is one imported payload

However imports of the same and of different orders overlap, the mirror of an
order is what the last committed import of it says, head and lines; one that
does not come to its commit leaves nothing behind.
-/

namespace WmsDu

open Txn

/-- A pool of imports. -/
abbrev ImportPool :=
  Pool (Stmt MirrorDb MirrorRedo MirrorErr) MirrorDb MirrorLock MirrorRedo MirrorErr ImportCall Int

/-- The last import of an order. -/
def lastImport (order : MirrorPlatform × Int) (calls : List ImportCall) : Option ImportCall :=
  (calls.filter fun call => call.order = order).getLast?

theorem lastImport_append (order : MirrorPlatform × Int) (calls : List ImportCall)
    (op : ImportCall) :
    lastImport order (calls ++ [op]) =
      if op.order = order then some op else lastImport order calls := by
  unfold lastImport
  rw [List.filter_append]
  by_cases h : op.order = order
  · simp [h]
  · simp [h]

theorem order_of_lastImport {order : MirrorPlatform × Int} {calls : List ImportCall}
    {call : ImportCall} (h : lastImport order calls = some call) : call.order = order :=
  of_decide_eq_true (List.mem_filter.mp (List.mem_of_getLast? h)).2

/-- The mirror of a call's order is what its payload says: the head, and line
by line the lines. -/
def MirrorDb.Shows (readTime : String → Option Timestamp) (db : MirrorDb) (call : ImportCall) :
    Prop :=
  ∃ h, db.mirrors.lookup call.order = some h ∧ call.HeadOf readTime db h ∧
    (db.linesOf h.platform h.id).map MirrorLineRow.toMirrorLine =
      call.payload.lines.map MirrorLine.stored

/-- The mirror of an order is as it was. -/
def MirrorDb.LeavesMirror (db db' : MirrorDb) (order : MirrorPlatform × Int) : Prop :=
  db'.mirrors.lookup order = db.mirrors.lookup order ∧
    ∀ h ∈ db.mirrors.lookup order, db'.linesOf h.platform h.id = db.linesOf h.platform h.id

/-- What the committed imports have made of a database. -/
def MirrorsOf (readTime : String → Option Timestamp) (db : MirrorDb) (ops : List ImportCall)
    (db' : MirrorDb) : Prop :=
  ∀ order, match lastImport order ops with
    | some call => db'.Shows readTime call
    | none => db.LeavesMirror db' order

section Commit
variable {readTime : String → Option Timestamp} {op : ImportCall} {mirrorId : Int}
  {lines : List MirrorLine} {db : MirrorDb} {log : List MirrorRedo}

/-- **Commit.** The mirror of the order is what the payload says. -/
theorem ImportCall.Wrote.shows (h : op.Wrote readTime mirrorId op.payload.lines db log) :
    (redo log db).Shows readTime op := by
  obtain ⟨was, head, ids, rows, rfl, hhead, -, hrows, hi⟩ := h
  refine ⟨head, ?_, ?_, ?_⟩
  · rw [lookup_mirrors, if_pos]
    unfold ImportCall.HeadOf at hhead
    rw [hhead]
    rfl
  · unfold ImportCall.HeadOf at hhead ⊢
    rw [redo_importLog]
    exact hhead
  · rw [hi.linesOf_head]
    exact hrows

/-- **Commit.** The mirrors of other orders are left alone. -/
theorem ImportCall.Wrote.leaves (h : op.Wrote readTime mirrorId lines db log)
    {order : MirrorPlatform × Int} (hne : op.order ≠ order) : db.LeavesMirror (redo log db) order := by
  obtain ⟨was, head, ids, rows, rfl, hhead, -, -, hi⟩ := h
  have hkey : head.order = op.order := by
    unfold ImportCall.HeadOf at hhead
    rw [hhead]
    rfl
  refine ⟨?_, fun g hg => ?_⟩
  · rw [lookup_mirrors, if_neg fun heq => hne (hkey.symm.trans heq.symm)]
  · obtain ⟨hmem, hgkey⟩ := Table.lookup_eq_some.mp hg
    refine hi.linesOf_other ?_
    rintro ⟨hplat, hid⟩
    exact hne (hkey.symm.trans (((hi.placed g hmem hplat).mp hid).symm.trans hgkey))

theorem ImportCall.Wrote.stores (h : op.Wrote readTime mirrorId lines db log) :
    (redo log db).stores = db.stores := by
  obtain ⟨was, head, ids, rows, rfl, -⟩ := h
  rw [redo_importLog]

theorem MirrorDb.Shows.leaves {db' : MirrorDb} {call : ImportCall} (h : db.Shows readTime call)
    (hstores : db'.stores = db.stores) (hleaves : db.LeavesMirror db' call.order) :
    db'.Shows readTime call := by
  obtain ⟨head, hlookup, hhead, hlines⟩ := h
  refine ⟨head, hleaves.1.trans hlookup, ?_, ?_⟩
  · unfold ImportCall.HeadOf at hhead ⊢
    rw [hstores]
    exact hhead
  · rw [hleaves.2 head hlookup]
    exact hlines

theorem MirrorDb.LeavesMirror.trans {db₁ db₂ : MirrorDb} {order : MirrorPlatform × Int}
    (h : db.LeavesMirror db₁ order) (h' : db₁.LeavesMirror db₂ order) :
    db.LeavesMirror db₂ order := by
  refine ⟨h'.1.trans h.1, fun g hg => ?_⟩
  rw [h'.2 g (h.1.trans hg), h.2 g hg]

end Commit

def sampleMirrorLine (collectorLineId : Int) (sku : String) (quantity : ℚ) : MirrorLine :=
  { collectorLineId := collectorLineId, collectorOrderId := 7, platformOrderNo := "P-7"
    merchantSku := some sku, quantity := quantity }

/-- An import of one order, with the lines it has at the time. -/
def sampleImport (status : String) (lines : List MirrorLine) (newId : Int) : ImportCall :=
  { platform := "pdd", newId := newId, lineIds := fun k => newId * 10 + k
    payload := {
      collectorOrderId := 7, collectorStoreId := 1, collectorStoreCode := "S1"
      collectorStoreName := "tea", platform := .pdd, platformOrderNo := "P-7"
      platformStatus := some status, lines := lines } }

/-- Two imports of a new order. -/
def sampleImports : ImportPool :=
  .fresh {} [sampleImport "paid" [sampleMirrorLine 1 "A" 1, sampleMirrorLine 2 "B" 2] 1,
    sampleImport "sent" [sampleMirrorLine 2 "B" 3] 2]

def sampleImportTurns : List Nat := [0, 1, 0, 1, 0, 1, 1, 0, 0, 1, 0, 0, 1, 1, 1, 1, 1]

end WmsDu
