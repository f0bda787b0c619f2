import WmsDu.Count.Doc
import WmsDu.Count.Submit
import WmsDu.Db.Valid
import WmsDu.Inbound.Operation
import WmsDu.Outbound.Submit
import WmsDu.Returns.Task
import WmsDu.Reversal.Reverse
import WmsDu.Stock.Ship
import WmsDu.Txn.Serial

/-!
# The system

Every service that writes stock, events, count documents or return tasks, as
one type of operations over one database. A state is reachable when such
calls lead to it from a database that holds master data and open documents
only.
-/

namespace WmsDu

open Txn

/-- A call of one service, with its arguments and what it draws. -/
inductive Op
  | inboundCommit (payload : InboundCommitIn) (userId : Option Int) (c : InboundDraws)
  | inboundOperation (payload : InboundOperationSubmitIn) (operator : Operator) (c : OperationDraws)
  | orderSubmit (orderId warehouseId : Int) (c : SubmitCall) (payload : OutboundSubmitIn)
  | manualSubmit (docId : Int) (c : SubmitCall) (payload : OutboundSubmitIn)
  | outboundReversal (eventId : Int) (payload : ReversalIn) (userId : Option Int) (c : EventDraws)
  | inboundReversal (eventId : Int) (payload : ReversalIn) (userId : Option Int) (c : EventDraws)
  | directCount (req : CountRequest) (newLotId : Int) (now : Timestamp)
  | recount (req : StockRecountRequest) (c : RecountDraws)
  | countCreate (payload : CountDocCreateIn) (actorUserId : Option Int) (c : CountDocDraws)
  | countFreeze (docId : Int) (lineId : Nat → Int)
  | countUpdate (docId : Int) (payload : CountDocLinesUpdateIn) (now : Timestamp)
  | countPost (docId : Int) (reviewedBy : String) (c : CountPostDraws)
  | countVoid (docId : Int)
  | returnCreate (orderId : String) (warehouseId : Option Int) (includeZeroShipped : Bool)
      (c : ReturnDraws)
  | returnReceive (taskId itemId qty : Int)
  | returnCommit (taskId : Int) (c : ReturnCommitCall)
  | directShip (c : ShipCall) (lines : List ShipLine)

/-- Run a service for its effect. -/
def Tx.forget {α : Type} (x : Tx α) : Tx Unit := x >>= fun _ => pure ()

theorem Tx.run_forget_ok {α : Type} {x : Tx α} {db db' : Db} {u : Unit} :
    x.forget.run db = .ok (u, db') ↔ ∃ a, x.run db = .ok (a, db') := by
  rw [Tx.forget, Prog.run_bind_ok]
  constructor
  · rintro ⟨a, _, h, hp⟩
    cases hp
    exact ⟨a, h⟩
  · rintro ⟨a, h⟩
    exact ⟨a, db', h, rfl⟩

/-- The service a call runs. -/
def Op.prog : Op → Tx Unit
  | .inboundCommit payload userId c => (commitInbound payload userId c).forget
  | .inboundOperation payload operator c => (submitInboundOperationRepo payload operator c).forget
  | .orderSubmit orderId warehouseId c payload =>
      (submitOrderOutboundEvent orderId warehouseId c payload).forget
  | .manualSubmit docId c payload => (submitManualOutboundEvent docId c payload).forget
  | .outboundReversal eventId payload userId c =>
      (reverseOutboundEvent eventId payload userId c).forget
  | .inboundReversal eventId payload userId c =>
      (reverseInboundEvent eventId payload userId c).forget
  | .directCount req newLotId now => (countSubmit req newLotId now).forget
  | .recount req c => (stockRecount req c).forget
  | .countCreate payload actorUserId c => (createDoc payload actorUserId c).forget
  | .countFreeze docId lineId => (freezeDoc docId lineId).forget
  | .countUpdate docId payload now => (updateDocLines docId payload now).forget
  | .countPost docId reviewedBy c => (postDoc docId reviewedBy c).forget
  | .countVoid docId => voidDoc docId
  | .returnCreate orderId warehouseId includeZeroShipped c =>
      (createForOrder orderId warehouseId includeZeroShipped c).forget
  | .returnReceive taskId itemId qty => (recordReceive taskId itemId qty).forget
  | .returnCommit taskId c => (commitReturnTask taskId c).forget
  | .directShip c lines => (shipCommitDirect c lines).forget

/-- No ledger row carries the reference yet. -/
def Db.NoRef (db : Db) (ref : String) : Prop := ∀ row ∈ db.stockLedger.rows, row.key.ref ≠ ref

/-- The event number a call draws from the clock and uuid4, if it draws one. -/
def Op.drawnRef : Op → Option String
  | .inboundCommit _ _ c => some c.eventNo
  | .inboundOperation _ _ c => some c.eventNo
  | .outboundReversal _ _ _ c => some c.eventNo
  | .inboundReversal _ _ _ c => some c.eventNo
  | .countPost _ _ c => some c.eventNo
  | _ => none

instance (db : Db) (ref : String) : Decidable (db.NoRef ref) :=
  inferInstanceAs (Decidable (∀ row ∈ db.stockLedger.rows, row.key.ref ≠ ref))

/-- A drawn event number is new to the ledger. -/
def Op.Fresh (db : Db) (op : Op) : Prop := ∀ ref ∈ op.drawnRef, db.NoRef ref

instance (db : Db) (op : Op) : Decidable (op.Fresh db) :=
  inferInstanceAs (Decidable (∀ ref ∈ op.drawnRef, db.NoRef ref))

/-- A database before any of the modelled services ran: master data and
documents, no stock, no events, no counts and no returns. -/
structure Db.Start (db : Db) : Prop where
  lots : ∀ lot ∈ db.lots.rows,
    0 < lot.id ∧ db.items.HasKey lot.itemId ∧ db.warehouses.HasKey lot.warehouseId
  stocksLot : db.stocksLot = .empty
  stockLedger : db.stockLedger = .empty
  wmsEvents : db.wmsEvents = .empty
  outboundEventLines : db.outboundEventLines = .empty
  inboundEventLines : db.inboundEventLines = .empty
  countDocs : db.countDocs = .empty
  countDocLines : db.countDocLines = .empty
  countDocLineLotSnapshots : db.countDocLineLotSnapshots = .empty
  returnTasks : db.returnTasks = .empty
  returnTaskLines : db.returnTaskLines = .empty

/-- The states that calls allowed by `allowed` reach from a start. -/
def ReachableBy (allowed : Db → Op → Prop) (db : Db) : Prop :=
  ∃ db₀ : Db, db₀.Start ∧ Serial Op.prog (fun db op => op.Fresh db ∧ allowed db op) db₀ db

/-- The states any calls reach. -/
def Reachable (db : Db) : Prop := ReachableBy (fun _ _ => True) db

theorem ReachableBy.reachable {allowed : Db → Op → Prop} {db : Db} (h : ReachableBy allowed db) :
    Reachable db := by
  obtain ⟨db₀, h₀, h⟩ := h
  exact ⟨db₀, h₀, h.mono fun _ _ hop => ⟨hop.1, trivial⟩⟩

/-- **Invariant rule of the system.** -/
theorem ReachableBy.invariant {allowed : Db → Op → Prop} {db : Db} {I : Db → Prop}
    (h : ReachableBy allowed db) (h₀ : ∀ db : Db, db.Start → I db)
    (hstep : ∀ (db db' : Db) (op : Op), ReachableBy allowed db → op.Fresh db → allowed db op →
      I db → op.prog.run db = .ok ((), db') → I db') : I db := by
  obtain ⟨db₀, hs, h⟩ := h
  exact h.invariant (h₀ db₀ hs) fun w w' op hw hop hI hrun =>
    hstep w w' op ⟨db₀, hs, hw⟩ hop.1 hop.2 hI hrun

theorem ReachableBy.step {allowed : Db → Op → Prop} {db : Db} (h : ReachableBy allowed db)
    (op : Op) (hfresh : op.Fresh db) (hop : allowed db op) :
    ReachableBy allowed (op.prog.commit db) := by
  obtain ⟨db₀, hs, h⟩ := h
  exact ⟨db₀, hs, .call op h ⟨hfresh, hop⟩⟩

/-- Calls one after another. -/
def Op.commits (db : Db) : List Op → Db
  | [] => db
  | op :: rest => Op.commits (op.prog.commit db) rest

/-- Every call of a list is allowed where it runs. -/
def Op.AllAllowed (allowed : Db → Op → Prop) (db : Db) : List Op → Prop
  | [] => True
  | op :: rest => (op.Fresh db ∧ allowed db op) ∧ Op.AllAllowed allowed (op.prog.commit db) rest

instance Op.decidableAllAllowed (allowed : Db → Op → Prop) [∀ db op, Decidable (allowed db op)] :
    ∀ (db : Db) (ops : List Op), Decidable (Op.AllAllowed allowed db ops)
  | _, [] => inferInstanceAs (Decidable True)
  | db, op :: rest =>
      have := Op.decidableAllAllowed allowed (op.prog.commit db) rest
      inferInstanceAs (Decidable ((op.Fresh db ∧ allowed db op) ∧ _))

theorem ReachableBy.commits {allowed : Db → Op → Prop} {db : Db} (h : ReachableBy allowed db)
    {ops : List Op} (hops : Op.AllAllowed allowed db ops) :
    ReachableBy allowed (Op.commits db ops) := by
  induction ops generalizing db with
  | nil => exact h
  | cons op rest ih => exact ih (h.step op hops.1.1 hops.1.2) hops.2

theorem Db.Start.reachableBy {allowed : Db → Op → Prop} {db : Db} (h : db.Start) :
    ReachableBy allowed db := ⟨db, h, .start⟩

/-! ## Constraints hold in every reachable state -/

theorem Db.Start.valid {db : Db} (h : db.Start) : db.Valid where
  lots := h.lots
  stock := by rw [h.stocksLot]; intro r hr; cases hr
  ledger := by rw [h.stockLedger]; intro r hr; cases hr
  outbound := by rw [h.outboundEventLines]; intro l hl; cases hl
  inbound := by rw [h.inboundEventLines]; intro l hl; cases hl
  countDocs := by rw [h.countDocs]; intro d hd; cases hd
  countLines := by rw [h.countDocLines]; intro l hl; cases hl
  snapshots := by rw [h.countDocLineLotSnapshots]; intro s hs; cases hs

theorem ReachableBy.valid {allowed : Db → Op → Prop} {db : Db} (h : ReachableBy allowed db) :
    db.Valid :=
  h.invariant (fun _ hs => hs.valid) fun _ _ _ _ _ _ hv hrun => Tx.run_valid hrun hv

end WmsDu
