import WmsDu.Count.FreezeGuard
import WmsDu.Stock.AdjustLot

/-!
# Reversals

`reverse_outbound_event` and `reverse_inbound_event`: a committed event is
cancelled by a new event of kind `REVERSAL` that copies its lines and moves
the stock the other way; the original is then marked superseded. The two
services are one loop over lines of two shapes, so the shape is a parameter.
-/

namespace WmsDu

open Txn

/-- A kind as the error texts print it. -/
def EventKind.text : EventKind → String
  | .commit => "COMMIT"
  | .reversal => "REVERSAL"
  | .correction => "CORRECTION"

/-- A status as the error texts print it. -/
def EventStatus.text : EventStatus → String
  | .committed => "COMMITTED"
  | .voided => "VOIDED"
  | .superseded => "SUPERSEDED"

/-- `OutboundReversalIn` and `InboundReversalIn`. -/
structure ReversalIn where
  occurredAt : Timestamp
  operatorNameSnapshot : String
  remark : Option String := none

/-- What uuid4, the clock and the sequence draw for one event. -/
structure EventDraws where
  eventId : Int
  eventNo : String
  traceId : String
  now : Timestamp := 0

structure ReversalRowOut where
  lineNo : Int
  itemId : Int
  lotId : Option Int
  qty : Int

structure ReversalOut where
  eventId : Int
  eventNo : String
  traceId : String
  targetEventId : Int
  warehouseId : Int
  sourceType : SourceType
  sourceRef : Option String
  occurredAt : Timestamp
  operatorNameSnapshot : String
  remark : Option String
  rows : List ReversalRowOut

/-- What tells the two services apart: the shape of the event lines, the sign
of the stock they gave, and the words of the errors. -/
structure ReversalSide (Line : Type) where
  eventType : EventType
  /-- `outbound` or `inbound`, as the error details start. -/
  word : String
  invalidQty : String
  subReason : String
  lines : Db → List Line
  lineEventId : Line → Int
  lineNo : Line → Int
  itemId : Line → Int
  lotId : Line → Option Int
  qty : Line → Int
  /-- The delta that cancels a line. -/
  cancel : Line → Int
  /-- The insert of the line's copy under the reversal event. -/
  insertCopy : Int → Line → Sql Unit
  operatorMeta : String → MetaVal
  operatorOut : String → String

/-! ## The two shapes -/

/-- The copy of an outbound line that a reversal writes. -/
def OutboundEventLine.copyFor (l : OutboundEventLine) (eventId : Int) : OutboundEventLine :=
  { l with
    eventId := eventId
    lotCodeSnapshot := cleanText l.lotCodeSnapshot
    itemNameSnapshot := cleanText l.itemNameSnapshot
    itemSkuSnapshot := cleanText l.itemSkuSnapshot
    itemSpecSnapshot := cleanText l.itemSpecSnapshot
    remark := cleanText l.remark }

/-- The copy of an inbound line that a reversal writes. -/
def InboundEventLine.copyFor (l : InboundEventLine) (eventId : Int) : InboundEventLine :=
  { l with
    eventId := eventId
    itemNameSnapshot := cleanText l.itemNameSnapshot
    itemSpecSnapshot := cleanText l.itemSpecSnapshot
    actualUomNameSnapshot := cleanText l.actualUomNameSnapshot
    barcodeInput := cleanText l.barcodeInput
    lotCodeInput := cleanText l.lotCodeInput
    remark := cleanText l.remark }

/-- Outbound events: stock had left, the reversal brings it back. -/
def outboundSide : ReversalSide OutboundEventLine where
  eventType := .outbound
  word := "outbound"
  invalidQty := "outbound_event_line_invalid_qty"
  subReason := "OUTBOUND_REVERSAL"
  lines := fun db => db.outboundEventLines.rows
  lineEventId := OutboundEventLine.eventId
  lineNo := OutboundEventLine.refLine
  itemId := OutboundEventLine.itemId
  lotId := fun l => some l.lotId
  qty := OutboundEventLine.qtyOutbound
  cancel := OutboundEventLine.qtyOutbound
  insertCopy := fun eventId l => .insertOutboundLine (l.copyFor eventId)
  operatorMeta := fun name => .str (strip name)
  operatorOut := strip

/-- Inbound events: stock had come, the reversal takes it away. -/
def inboundSide : ReversalSide InboundEventLine where
  eventType := .inbound
  word := "inbound"
  invalidQty := "inbound_event_line_invalid_qty_base"
  subReason := "INBOUND_REVERSAL"
  lines := fun db => db.inboundEventLines.rows
  lineEventId := InboundEventLine.eventId
  lineNo := InboundEventLine.lineNo
  itemId := InboundEventLine.itemId
  lotId := InboundEventLine.lotId
  qty := InboundEventLine.qtyBase
  cancel := fun l => -l.qtyBase
  insertCopy := fun eventId l => .insertInboundLine (l.copyFor eventId)
  operatorMeta := fun name => .ofText (cleanText (some name))
  operatorOut := fun name => name

/-! ## Reads -/

/-- `find_committed_outbound_reversal` and its inbound twin. -/
def findCommittedReversal (db : Db) (eventType : EventType) (targetEventId : Int) :
    Option WmsEvent :=
  ((db.wmsEvents.rows.filter fun e => e.eventType = eventType ∧ e.eventKind = .reversal ∧
      e.targetEventId = some targetEventId ∧ e.status = .committed).insertionSort
    fun a b => b.id ≤ a.id).head?

variable {Line : Type}

/-- `get_outbound_event_for_reversal` and its inbound twin. -/
def getEventForReversal (side : ReversalSide Line) (eventId : Int) : Tx WmsEvent := do
  let row ← Tx.select fun db =>
    (db.wmsEvents.lookup eventId).filter fun e => e.eventType = side.eventType
  let row ← Tx.requireSome row (.http 404 s!"{side.word}_event_not_found:{eventId}")
  Tx.require (row.eventKind = .commit)
    (.http 409 s!"{side.word}_event_not_reversible_kind:{row.eventKind.text}")
  Tx.require (row.status = .committed)
    (.http 409 s!"{side.word}_event_not_reversible_status:{row.status.text}")
  return row

/-- The lines of one event. -/
def linesOf (side : ReversalSide Line) (db : Db) (eventId : Int) : List Line :=
  (side.lines db).filter fun l => side.lineEventId l = eventId

/-- `list_outbound_event_lines_for_reversal` and its inbound twin. -/
def listEventLinesForReversal (side : ReversalSide Line) (eventId : Int) : Tx (List Line) := do
  let rows ← Tx.select fun db =>
    (linesOf side db eventId).insertionSort fun a b => side.lineNo a ≤ side.lineNo b
  Tx.require (rows.isEmpty = false) (.http 409 s!"{side.word}_event_has_no_lines:{eventId}")
  return rows

/-! ## The service -/

/-- The reversal event of `original`. -/
def reversalEvent (side : ReversalSide Line) (original : WmsEvent) (payload : ReversalIn)
    (userId : Option Int) (c : EventDraws) : WmsEvent :=
  { id := c.eventId, eventNo := c.eventNo, eventType := side.eventType
    warehouseId := original.warehouseId, sourceType := original.sourceType
    sourceRef := cleanText original.sourceRef, occurredAt := payload.occurredAt
    traceId := c.traceId, eventKind := .reversal, targetEventId := some original.id
    status := .committed, createdBy := userId
    remark := some ((cleanText payload.remark).getD s!"reversal of {original.eventNo}") }

/-- The call of the lot writer that cancels a line. -/
def cancelArgs (side : ReversalSide Line) (original event : WmsEvent) (payload : ReversalIn)
    (now : Timestamp) (src : Line) (lotId : Int) : AdjustLotArgs :=
  { itemId := side.itemId src, warehouseId := original.warehouseId, lotId := some lotId
    delta := side.cancel src, reason := MovementType.adjustment.value, ref := event.eventNo
    refLine := some (side.lineNo src), occurredAt := some event.occurredAt
    metaDict := [("sub_reason", .str side.subReason), ("event_id", .int event.id),
      ("target_event_id", .int original.id), ("source_type", .str original.sourceType.value),
      ("source_ref", .ofText (cleanText original.sourceRef)),
      ("operator_name_snapshot", side.operatorMeta payload.operatorNameSnapshot),
      ("remark", .ofText (cleanText event.remark))]
    traceId := some event.traceId, utcNow := now }

/-- The loop over the original's lines. -/
def reverseLines (side : ReversalSide Line) (original event : WmsEvent) (payload : ReversalIn)
    (now : Timestamp) : List Line → Tx Unit
  | [] => return ()
  | src :: rest => do
      let lotId ← Tx.requireSome (side.lotId src)
        (.http 409 s!"{side.word}_event_line_missing_lot:{side.lineNo src}")
      Tx.require (0 < side.qty src) (.http 409 s!"{side.invalidQty}:{side.lineNo src}")
      Prog.exec (side.insertCopy event.id src)
      let _ ← adjustLotImpl (cancelArgs side original event payload now src lotId)
      reverseLines side original event payload now rest

/-- The two services. -/
def reverseEvent (side : ReversalSide Line) (eventId : Int) (payload : ReversalIn)
    (userId : Option Int) (c : EventDraws) : Tx ReversalOut := do
  let existing ← Tx.select fun db => findCommittedReversal db side.eventType eventId
  Tx.require (existing.isNone = true)
    (.http 409 s!"{side.word}_event_already_reversed:{(existing.map WmsEvent.id).getD 0}")
  let original ← getEventForReversal side eventId
  let sourceLines ← listEventLinesForReversal side original.id
  ensureWarehouseNotFrozen original.warehouseId
  let event := reversalEvent side original payload userId c
  Prog.exec (.insertEvent event)
  reverseLines side original event payload c.now sourceLines
  Prog.exec (.markSuperseded side.eventType original.id)
  return {
    eventId := event.id, eventNo := event.eventNo, traceId := event.traceId
    targetEventId := original.id, warehouseId := original.warehouseId
    sourceType := original.sourceType, sourceRef := event.sourceRef
    occurredAt := payload.occurredAt
    operatorNameSnapshot := side.operatorOut payload.operatorNameSnapshot
    remark := cleanText event.remark
    rows := sourceLines.map fun l => ⟨side.lineNo l, side.itemId l, side.lotId l, side.qty l⟩ }

/-- `reverse_outbound_event`. -/
def reverseOutboundEvent (eventId : Int) (payload : ReversalIn) (userId : Option Int)
    (c : EventDraws) : Tx ReversalOut := reverseEvent outboundSide eventId payload userId c

/-- `reverse_inbound_event`. -/
def reverseInboundEvent (eventId : Int) (payload : ReversalIn) (userId : Option Int)
    (c : EventDraws) : Tx ReversalOut := reverseEvent inboundSide eventId payload userId c

end WmsDu
