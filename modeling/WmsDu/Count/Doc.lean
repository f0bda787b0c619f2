import WmsDu.Db.Runs
import WmsDu.Stock.AdjustLot

/-!
# Count documents

`CountDocService` over `CountDocRepo`: a document is created, frozen (which
copies the stock of its warehouse into lines and lot snapshots), counted line
by line, and posted (which spreads each line's difference over its lot
snapshots and adjusts the lots), or voided on the way.
-/

namespace WmsDu

open Txn

/-- A status as the error texts print it. -/
def CountDocStatus.text : CountDocStatus → String
  | .draft => "DRAFT"
  | .frozen => "FROZEN"
  | .counted => "COUNTED"
  | .posted => "POSTED"
  | .voided => "VOIDED"

/-! ## Repository -/

/-- `get_doc`, as `_require_doc` uses it. -/
def requireDoc (docId : Int) : Tx CountDoc := do
  let doc ← Tx.select fun db => db.countDocs.lookup docId
  Tx.requireSome doc (.lookupError s!"count_doc_not_found:{docId}")

/-- `get_active_doc_by_warehouse`: the newest document not yet closed. -/
def activeDocByWarehouse (db : Db) (warehouseId : Int) : Option CountDoc :=
  ((db.countDocs.rows.filter fun d => d.warehouseId = warehouseId ∧
      d.status ∈ [.draft, .frozen, .counted]).insertionSort fun a b =>
    b.createdAt < a.createdAt ∨ (a.createdAt = b.createdAt ∧ b.id ≤ a.id)).head?

/-- The lines of a document. -/
def docLines (db : Db) (docId : Int) : List CountDocLine :=
  db.countDocLines.rows.filter fun l => l.docId = docId

/-- The larger snapshot first, then the smaller lot id. -/
def CountDocLineLotSnapshot.sortsBefore (a b : CountDocLineLotSnapshot) : Prop :=
  b.snapshotQtyBase < a.snapshotQtyBase ∨
    (a.snapshotQtyBase = b.snapshotQtyBase ∧ a.lotId ≤ b.lotId)

instance : DecidableRel CountDocLineLotSnapshot.sortsBefore :=
  fun _ _ => inferInstanceAs (Decidable (_ ∨ (_ ∧ _)))

/-- `get_line_lot_snapshots`. -/
def lineLotSnapshots (db : Db) (lineId : Int) : List CountDocLineLotSnapshot :=
  (db.countDocLineLotSnapshots.rows.filter fun s => s.lineId = lineId).insertionSort
    CountDocLineLotSnapshot.sortsBefore

/-- `UPDATE count_docs SET status = 'FROZEN'`. -/
def markDocFrozen (docId : Int) : Tx Bool := Prog.exec (.updateCountDoc docId .frozen)

/-- The update of `update_line_counts` on the document itself. -/
def setCountedBy (docId : Int) (name : String) : Tx Bool :=
  Prog.exec (.updateCountDoc docId (.countedBy name))

/-- `set_reviewed_by_name_snapshot`. -/
def setReviewedBy (docId : Int) (name : String) : Tx Bool :=
  Prog.exec (.updateCountDoc docId (.reviewedBy name))

/-- `try_mark_doc_counted`: a frozen document with lines, all of them counted. -/
def tryMarkDocCounted (docId : Int) (now : Timestamp) : Tx Bool :=
  Prog.exec (.updateCountDoc docId (.counted now))

/-- `mark_doc_posted`. -/
def markDocPosted (docId postedEventId : Int) (postedAt : Timestamp) : Tx Unit := do
  let done ← Prog.exec (.updateCountDoc docId (.posted postedEventId postedAt))
  Tx.require (done = true) (.lookupError s!"count_doc_not_counted_or_not_found:{docId}")

/-- `mark_doc_voided`. -/
def markDocVoided (docId : Int) : Tx Unit := do
  let done ← Prog.exec (.updateCountDoc docId .voided)
  Tx.require (done = true) (.lookupError s!"count_doc_not_voidable_or_not_found:{docId}")

/-! ## Create, freeze, void -/

/-- `CountDocCreateIn`. -/
structure CountDocCreateIn where
  warehouseId : Int
  snapshotAt : Timestamp
  remark : Option String := none
  warehouseId_ge : 1 ≤ warehouseId := by decide

/-- What uuid4, the clock and the sequence draw for a new document. -/
structure CountDocDraws where
  docId : Int
  countNo : String
  now : Timestamp := 0

/-- `create_doc`. -/
def createDoc (payload : CountDocCreateIn) (actorUserId : Option Int) (c : CountDocDraws) :
    Tx CountDoc := do
  let active ← Tx.select fun db => activeDocByWarehouse db payload.warehouseId
  match active with
  | some d => Prog.raise (.valueError
      s!"count_doc_active_exists: warehouse_id={payload.warehouseId}, doc_id={d.id}, count_no={d.countNo}, status={d.status.text}")
  | none => do
      let doc : CountDoc :=
        { id := c.docId, countNo := c.countNo, warehouseId := payload.warehouseId
          snapshotAt := payload.snapshotAt, status := .draft, postedEventId := none
          createdBy := actorUserId, countedByNameSnapshot := none
          reviewedByNameSnapshot := none, remark := payload.remark.map strip
          createdAt := c.now, countedAt := none, postedAt := none }
      Prog.exec (.insertCountDoc doc)
      return doc

/-- `CountDocFreezeOut`. -/
structure CountDocFreezeOut where
  docId : Int
  status : CountDocStatus
  snapshotAt : Timestamp
  lineCount : Nat
  lotSnapshotCount : Nat

/-- `freeze_doc_lines_from_current_stock`: the lines and lot snapshots of the
document are rebuilt from the stock of its warehouse. -/
def freezeDocLinesFromCurrentStock (docId : Int) (lineId : Nat → Int) : Tx (Nat × Nat) := do
  let doc ← requireDoc docId
  Prog.exec (.deleteCountSnapshots docId)
  Prog.exec (.deleteCountLines docId)
  Prog.exec (.insertCountLines docId doc.warehouseId lineId)
  Prog.exec (.insertCountSnapshots docId)
  let _ ← markDocFrozen docId
  Tx.select fun db =>
    let lineIds := (docLines db docId).map CountDocLine.id
    (lineIds.length,
      (db.countDocLineLotSnapshots.rows.filter fun s => s.lineId ∈ lineIds).length)

/-- `freeze_doc`. -/
def freezeDoc (docId : Int) (lineId : Nat → Int) : Tx CountDocFreezeOut := do
  let doc ← requireDoc docId
  Tx.require (doc.status = .draft)
    (.valueError s!"count_doc_freeze_requires_draft: current={doc.status.text}")
  let (lineCount, lotSnapshotCount) ← freezeDocLinesFromCurrentStock docId lineId
  return ⟨docId, .frozen, doc.snapshotAt, lineCount, lotSnapshotCount⟩

/-- `void_doc`. -/
def voidDoc (docId : Int) : Tx Unit := do
  let doc ← requireDoc docId
  Tx.require (doc.status ≠ .posted) (.valueError "count_doc_void_forbidden_after_posted")
  markDocVoided docId

/-! ## Counting -/

/-- `CountDocLineCountPatch`. -/
structure CountDocLineCountPatch where
  lineId : Int
  countedQtyInput : Int
  lineId_ge : 1 ≤ lineId := by decide
  countedQtyInput_ge : 0 ≤ countedQtyInput := by decide

/-- `CountDocLinesUpdateIn`. -/
structure CountDocLinesUpdateIn where
  countedByNameSnapshot : String
  lines : List CountDocLineCountPatch
  lines_ne_nil : lines ≠ [] := by simp

/-- `CountDocLinesUpdateOut`. -/
structure CountDocLinesUpdateOut where
  docId : Int
  status : CountDocStatus
  updatedCount : Nat
  lines : List CountDocLine

/-- The base unit of an item. -/
def baseUom (db : Db) (itemId : Int) : Option ItemUom :=
  ((db.itemUoms.rows.filter fun u => u.itemId = itemId ∧ u.isBase = true).insertionSort
    fun a b => a.id ≤ b.id).head?

/-- What counting a line in base units fills in. -/
def countedColumns (l : CountDocLine) (u : ItemUom) (qty : Int) : CountedColumns :=
  { itemUomId := u.id, uomName := u.shownName, ratioToBase := 1, qtyInput := qty
    qtyBase := qty, diffQtyBase := qty - l.snapshotQtyBase }

/-- The loop of `update_line_counts`. -/
def updateLines (docId : Int) : List CountDocLineCountPatch → Tx Unit
  | [] => return ()
  | p :: rest => do
      let line ← Tx.select fun db =>
        (db.countDocLines.lookup p.lineId).filter fun l => l.docId = docId
      let line ← Tx.requireSome line (.lookupError s!"count_doc_line_not_found:{p.lineId}")
      let u ← Tx.select fun db => baseUom db line.itemId
      let u ← Tx.requireSome u
        (.lookupError s!"count_doc_line_base_uom_not_found:item_id={line.itemId}")
      Prog.exec (.updateCountLine line.id (countedColumns line u p.countedQtyInput))
      updateLines docId rest

/-- `update_line_counts`. -/
def updateLineCounts (docId : Int) (countedByName : String) (lines : List CountDocLineCountPatch) :
    Tx Nat := do
  updateLines docId lines
  let _ ← setCountedBy docId countedByName
  return lines.length

/-- `update_doc_lines`. -/
def updateDocLines (docId : Int) (payload : CountDocLinesUpdateIn) (now : Timestamp) :
    Tx CountDocLinesUpdateOut := do
  let doc ← requireDoc docId
  Tx.require (doc.status ∈ [.frozen, .counted])
    (.valueError s!"count_doc_lines_update_requires_frozen_or_counted: current={doc.status.text}")
  let name ← Tx.requireSome (cleanText (some payload.countedByNameSnapshot))
    (.valueError "count_doc_lines_update_requires_counted_by_name_snapshot")
  let updated ← updateLineCounts docId name payload.lines
  let _ ← tryMarkDocCounted docId now
  let detail ← Tx.select fun db => db.countDocs.lookup docId
  let detail ← Tx.requireSome detail (.lookupError s!"count_doc_not_found_after_update:{docId}")
  let lines ← Tx.select fun db => docLines db docId
  return ⟨docId, detail.status, updated, lines⟩

/-! ## Posting -/

/-- What posting one document shares over its lines. -/
structure CountPostContext where
  docId : Int
  countNo : String
  warehouseId : Int
  countedBy : Option String
  reviewedBy : Option String
  eventId : Int
  eventNo : String
  traceId : String
  postedAt : Timestamp

/-- `_line_meta`. -/
def lineMeta (ctx : CountPostContext) (lineId : Int) (subReason : String) : Meta :=
  [("sub_reason", .str subReason), ("count_doc_id", .int ctx.docId),
    ("count_doc_line_id", .int lineId), ("count_no", .str ctx.countNo),
    ("event_id", .int ctx.eventId)] ++
  (match ctx.countedBy with | some n => [("counted_by_name_snapshot", .str n)] | none => []) ++
  (match ctx.reviewedBy with | some n => [("reviewed_by_name_snapshot", .str n)] | none => []) ++
  (if subReason = "COUNT_CONFIRM" then [("allow_zero_delta_ledger", .bool true)] else [])

/-- The call of the lot writer that posting makes for one lot snapshot. -/
def postArgs (ctx : CountPostContext) (line : CountDocLine) (snap : CountDocLineLotSnapshot)
    (delta : Int) (subReason : String) : AdjustLotArgs :=
  { itemId := line.itemId, warehouseId := ctx.warehouseId, lotId := some snap.lotId
    delta := delta, reason := MovementType.count.value, ref := ctx.eventNo
    refLine := some line.lineNo, occurredAt := some ctx.postedAt
    lotCode := snap.lotCodeSnapshot, metaDict := lineMeta ctx line.id subReason
    traceId := some ctx.traceId, utcNow := ctx.postedAt }

/-- The loop of `_post_line_diff` over the lot snapshots of a line that counted
short; it answers what is left to take and how many lots it took from. -/
def consumeSnapshots (ctx : CountPostContext) (line : CountDocLine) :
    Int → List CountDocLineLotSnapshot → Tx (Int × Nat)
  | remaining, [] => return (remaining, 0)
  | remaining, snap :: rest =>
      if remaining ≤ 0 then return (remaining, 0)
      else if snap.snapshotQtyBase ≤ 0 then consumeSnapshots ctx line remaining rest
      else do
        let consume := min remaining snap.snapshotQtyBase
        let _ ← adjustLotImpl (postArgs ctx line snap (-consume) "COUNT_ADJUST")
        let (left, written) ← consumeSnapshots ctx line (remaining - consume) rest
        return (left, written + 1)

/-- `_post_line_diff`. -/
def postLineDiff (ctx : CountPostContext) (line : CountDocLine) : Tx Nat := do
  let snapshots ← Tx.select fun db => lineLotSnapshots db line.id
  match snapshots with
  | [] => Prog.raise (.runtimeError s!"count_doc_post_missing_lot_snapshots: line_id={line.id}")
  | target :: rest => do
      let diff := line.diffQtyBase.getD 0
      if diff = 0 then do
        let _ ← adjustLotImpl (postArgs ctx line target 0 "COUNT_CONFIRM")
        return 1
      else if 0 < diff then do
        -- a surplus goes to the first lot snapshot, with no dates
        let _ ← adjustLotImpl (postArgs ctx line target diff "COUNT_ADJUST")
        return 1
      else do
        let (remaining, written) ← consumeSnapshots ctx line (-diff) (target :: rest)
        Tx.require (remaining = 0) (.runtimeError
          s!"count_doc_post_unallocated_negative_diff: line_id={line.id}, remaining={remaining}")
        return written

/-- The lines of a document, posted one after another. -/
def postLines (ctx : CountPostContext) : List CountDocLine → Tx Unit
  | [] => return ()
  | line :: rest => do
      let _ ← postLineDiff ctx line
      postLines ctx rest

/-- The check that every line was counted. -/
def requireAllCounted : List CountDocLine → Tx Unit
  | [] => return ()
  | line :: rest => do
      Tx.require (line.countedQtyBase ≠ none ∧ line.diffQtyBase ≠ none)
        (.valueError s!"count_doc_post_requires_all_lines_counted: line_id={line.id}")
      requireAllCounted rest

/-- `CountDocPostOut`. -/
structure CountDocPostOut where
  docId : Int
  postedEventId : Int
  postedAt : Timestamp

/-- What uuid4, the clock and the sequence draw for one posting. -/
structure CountPostDraws where
  eventId : Int
  eventNo : String
  traceId : String
  postedAt : Timestamp := 0

/-- What posting a document shares over its lines. -/
def CountDoc.postContext (d : CountDoc) (c : CountPostDraws) : CountPostContext :=
  { docId := d.id, countNo := d.countNo, warehouseId := d.warehouseId
    countedBy := cleanText d.countedByNameSnapshot
    reviewedBy := cleanText d.reviewedByNameSnapshot
    eventId := c.eventId, eventNo := c.eventNo, traceId := c.traceId, postedAt := c.postedAt }

/-- The event that posts a document. -/
def CountDoc.postEvent (d : CountDoc) (c : CountPostDraws) : WmsEvent :=
  { id := c.eventId, eventNo := c.eventNo, eventType := .count, warehouseId := d.warehouseId
    sourceType := .manualCount, sourceRef := some d.countNo, occurredAt := c.postedAt
    traceId := c.traceId, eventKind := .commit, targetEventId := none, status := .committed
    createdBy := d.createdBy
    remark := match d.remark.bind orNone with
      | some r => some (strip r)
      | none => some s!"post count doc {d.countNo}" }

/-- The part of `post_doc` behind the check of the reviewer's name. -/
def postCounted (docId : Int) (reviewedBy : String) (c : CountPostDraws) : Tx CountDocPostOut := do
  let _ ← setReviewedBy docId reviewedBy
  let d ← requireDoc docId
  Tx.require (cleanText d.countedByNameSnapshot ≠ none)
    (.valueError "count_doc_post_requires_counted_by_name_snapshot")
  Tx.require (cleanText d.reviewedByNameSnapshot ≠ none)
    (.valueError "count_doc_post_requires_reviewed_by_name_snapshot")
  let lines ← Tx.select fun db => docLines db docId
  Tx.require (lines.isEmpty = false) (.valueError s!"count_doc_post_requires_lines: doc_id={d.id}")
  requireAllCounted lines
  Prog.exec (.insertEvent (d.postEvent c))
  postLines (d.postContext c) lines
  markDocPosted d.id c.eventId c.postedAt
  return ⟨d.id, c.eventId, c.postedAt⟩

/-- `post_doc`. -/
def postDoc (docId : Int) (reviewedByNameSnapshot : String) (c : CountPostDraws) :
    Tx CountDocPostOut := do
  let doc ← requireDoc docId
  if doc.status = .posted then
    match doc.postedEventId, doc.postedAt with
    | some e, some t => return ⟨doc.id, e, t⟩
    | _, _ => Prog.raise (.runtimeError s!"count_doc_posted_missing_bridge_fields:{docId}")
  else do
    Tx.require (doc.status = .counted)
      (.valueError s!"count_doc_post_requires_counted: current={doc.status.text}")
    let reviewedBy ← Tx.requireSome (cleanText (some reviewedByNameSnapshot))
      (.valueError "count_doc_post_requires_reviewed_by_name_snapshot")
    postCounted docId reviewedBy c

end WmsDu
