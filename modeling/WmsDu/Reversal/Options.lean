import WmsDu.Reversal.Reverse

/-!
# Reversals on offer

The details that the two reversal services show before an event is reversed:
the event with its lines, and whether it can be reversed or why it cannot.
-/

namespace WmsDu

open Txn Tx

/-! ## Headers -/

/-- A row of the two header queries: an event, its lines counted and summed, and
the reversal it has. -/
structure ReversalHeader where
  event : WmsEvent
  lineCount : Int
  qtyTotal : Int
  reversal : Option WmsEvent

section Headers
variable {Line : Type}

/-- `get_outbound_reversal_detail_header` and `get_inbound_event_header`. -/
def reversalHeader (side : ReversalSide Line) (db : Db) (eventId : Int) : Option ReversalHeader :=
  ((db.wmsEvents.lookup eventId).filter fun e => e.eventType = side.eventType).map fun e =>
    { event := e, lineCount := (linesOf side db e.id).length
      qtyTotal := ((linesOf side db e.id).map side.qty).sum
      reversal := findCommittedReversal db side.eventType e.id }

end Headers

/-! ## Reasons -/

/-- The guard's error is shown as a text of the service. -/
def freezeNonReversibleReason (text : String) (warehouseId : Int) : Tx (Option String) :=
  Tx.select fun db =>
    match (ensureWarehouseNotFrozen warehouseId).run db with
    | .ok _ => none
    | .error _ => some text

/-- `_non_reversible_reason` of outbound events. -/
def outboundNonReversibleReason (h : ReversalHeader) : Tx (Option String) :=
  if h.event.eventKind ≠ .commit then
    return some s!"不是原出库提交事件，不能冲回：{h.event.eventKind.text}"
  else if h.event.status = .superseded then
    return some "原出库事件已被冲回"
  else if h.event.status ≠ .committed then
    return some s!"原出库事件状态不可冲回：{h.event.status.text}"
  else
    match h.reversal with
    | some r => return some s!"原出库事件已被冲回：{r.id}"
    | none =>
        if h.lineCount ≤ 0 then return some "原出库事件没有行明细，不能冲回"
        else freezeNonReversibleReason "该仓当前存在冻结中的盘点单，禁止执行出库冲回"
          h.event.warehouseId

/-- `_non_reversible_reason` of inbound events. -/
def inboundNonReversibleReason (h : ReversalHeader) : Tx (Option String) :=
  if h.event.eventKind ≠ .commit then
    return some s!"当前事件类型为 {h.event.eventKind.text}，不允许冲回"
  else if h.event.status ≠ .committed then
    return some s!"当前状态为 {h.event.status.text}，不允许冲回"
  else
    match h.reversal with
    | some r => return some s!"该原入库事件已被冲回：{r.eventNo}"
    | none => freezeNonReversibleReason "该仓当前存在冻结中的盘点单，禁止执行入库冲回"
        h.event.warehouseId

/-! ## Details -/

/-- `OutboundReversalDetailOut` and its inbound twin; a line is shown with its
texts cleaned. -/
structure ReversalDetail (Line : Type) where
  eventId : Int
  eventNo : String
  warehouseId : Int
  sourceType : SourceType
  sourceRef : Option String
  occurredAt : Timestamp
  status : EventStatus
  remark : Option String
  lineCount : Int
  qtyTotal : Int
  reversible : Bool
  nonReversibleReason : Option String
  lines : List Line

/-- The answer of both services. -/
def ReversalHeader.detail {Line : Type} (h : ReversalHeader) (reason : Option String)
    (lines : List Line) : ReversalDetail Line :=
  { eventId := h.event.id, eventNo := h.event.eventNo, warehouseId := h.event.warehouseId
    sourceType := h.event.sourceType, sourceRef := cleanText h.event.sourceRef
    occurredAt := h.event.occurredAt, status := h.event.status
    remark := cleanText h.event.remark, lineCount := h.lineCount, qtyTotal := h.qtyTotal
    reversible := reason.isNone, nonReversibleReason := reason, lines := lines }

/-- `get_outbound_reversal_detail`. -/
def getOutboundReversalDetail (eventId : Int) : Tx (ReversalDetail OutboundEventLine) := do
  let header ← Tx.select fun db => reversalHeader outboundSide db eventId
  let header ← Tx.requireSome header (.http 404 s!"outbound_event_not_found:{eventId}")
  let sourceLines ← listEventLinesForReversal outboundSide eventId
  let reason ← outboundNonReversibleReason header
  return header.detail reason (sourceLines.map fun l => l.copyFor l.eventId)

/-- `get_reversible_inbound_event_detail`. -/
def getReversibleInboundEventDetail (eventId : Int) : Tx (ReversalDetail InboundEventLine) := do
  let header ← Tx.select fun db => reversalHeader inboundSide db eventId
  let header ← Tx.requireSome header (.http 404 s!"inbound_event_not_found:{eventId}")
  let lineRows ← Tx.select fun db =>
    (linesOf inboundSide db eventId).insertionSort fun a b => a.lineNo ≤ b.lineNo
  let reason ← inboundNonReversibleReason header
  let reason := if lineRows = [] ∧ reason = none then some "该原入库事件没有可冲回行" else reason
  return header.detail reason (lineRows.map fun l => l.copyFor l.eventId)

end WmsDu
