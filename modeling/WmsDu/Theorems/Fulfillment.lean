import WmsDu.Oms.Fulfillment

/-!
# The fulfilment record is monotone

Every writer of `order_fulfillment` either leaves the table alone or puts one
row that advances the order's old one. The one exception is an assignment
that moves an order which has already entered shipping to another warehouse.
-/

namespace WmsDu

open Txn

/-! ## Advancing -/

/-- How far an order has moved. -/
def stageRank : Option ExecutionStage → Nat
  | none => 0
  | some .pick => 1
  | some .ship => 2

theorem stageRank_le_stageToShip (s : Option ExecutionStage) :
    stageRank s ≤ stageRank (stageToShip s) := by
  rcases s with _ | _ | _ <;> decide

namespace OrderFulfillment

/-- `g` comes after `f`: no anchor is overwritten, the stage does not move
back and the warehouse of an order in shipping stays. -/
structure Advances (f g : OrderFulfillment) : Prop where
  committed : f.shipCommittedAt ≠ none → g.shipCommittedAt = f.shipCommittedAt
  shipped : f.shippedAt ≠ none → g.shippedAt = f.shippedAt
  stage : stageRank f.executionStage ≤ stageRank g.executionStage
  warehouse : f.shipCommittedAt ≠ none → g.actualWarehouseId = f.actualWarehouseId

theorem Advances.refl (f : OrderFulfillment) : f.Advances f :=
  ⟨fun _ => rfl, fun _ => rfl, Nat.le_refl _, fun _ => rfl⟩

theorem Advances.trans {f g k : OrderFulfillment} (h : f.Advances g) (h' : g.Advances k) :
    f.Advances k where
  committed hf := by
    have hg := h.committed hf
    rw [h'.committed (hg ▸ hf), hg]
  shipped hf := by
    have hg := h.shipped hf
    rw [h'.shipped (hg ▸ hf), hg]
  stage := Nat.le_trans h.stage h'.stage
  warehouse hf := by
    have hg := h.committed hf
    rw [h'.warehouse (hg ▸ hf), h.warehouse hf]

/-- What every written row satisfies: a shipped order is committed, and a
committed one has its warehouse. -/
structure Ordered (f : OrderFulfillment) : Prop where
  shipped : f.shippedAt ≠ none → f.shipCommittedAt ≠ none
  warehouse : f.shipCommittedAt ≠ none → f.actualWarehouseId ≠ none

theorem shipped_of_check {f : OrderFulfillment} (h : f.check = none) :
    f.shippedAt ≠ none → f.shipCommittedAt ≠ none := by
  intro hs hc
  have hsome : f.shippedAt.isSome := Option.isSome_iff_ne_none.mpr hs
  simp [check, hsome, hc] at h

theorem check_of_violates {f : OrderFulfillment} {db : OmsDb} (h : f.violates db = none) :
    f.check = none := by
  unfold violates at h
  cases hc : f.check with
  | none => rfl
  | some c =>
      rw [hc] at h
      cases h

end OrderFulfillment

/-- Every row of the table is ordered. -/
def OmsDb.Ordered (db : OmsDb) : Prop := ∀ f ∈ db.orderFulfillment.rows, f.Ordered

/-- The rows as order ingest leaves them: no anchor is set. -/
def OmsDb.Unshipped (db : OmsDb) : Prop :=
  ∀ f ∈ db.orderFulfillment.rows, f.shipCommittedAt = none ∧ f.shippedAt = none

theorem OmsDb.Unshipped.ordered {db : OmsDb} (h : db.Unshipped) : db.Ordered := by
  intro f hf
  obtain ⟨hc, hs⟩ := h f hf
  exact ⟨fun hne => absurd hs hne, fun hne => absurd hc hne⟩

/-- The order's record in `db'` advances the one in `db`. -/
def OmsDb.Advances (db db' : OmsDb) (orderId : Int) : Prop :=
  ∀ f, db.orderFulfillment.lookup orderId = some f →
    ∃ g, db'.orderFulfillment.lookup orderId = some g ∧ f.Advances g

theorem OmsDb.Advances.refl (db : OmsDb) (orderId : Int) : db.Advances db orderId :=
  fun f hf => ⟨f, hf, .refl f⟩

theorem OmsDb.Advances.trans {db db' db'' : OmsDb} {orderId : Int} (h : db.Advances db' orderId)
    (h' : db'.Advances db'' orderId) : db.Advances db'' orderId := by
  intro f hf
  obtain ⟨g, hg, hfg⟩ := h f hf
  obtain ⟨k, hk, hgk⟩ := h' g hg
  exact ⟨k, hk, hfg.trans hgk⟩

/-! ## One write -/

/-- What a writer may do to the table: nothing, or put one ordered row that
advances the old row of its order. -/
def PutsForward (db db' : OmsDb) : Prop :=
  db' = db ∨ ∃ f : OrderFulfillment,
    db' = { db with orderFulfillment := db.orderFulfillment.upsert f } ∧ f.Ordered ∧
      ∀ old, db.orderFulfillment.lookup f.orderId = some old → old.Advances f

theorem PutsForward.advances {db db' : OmsDb} (h : PutsForward db db') (orderId : Int) :
    db.Advances db' orderId := by
  rcases h with rfl | ⟨f, rfl, -, hadv⟩
  · exact .refl _ _
  intro old hold
  by_cases hid : orderId = f.orderId
  · subst hid
    exact ⟨f, by simp [Table.lookup_upsert], hadv old hold⟩
  · exact ⟨old, by simp [Table.lookup_upsert, hid, hold], .refl old⟩

theorem PutsForward.ordered {db db' : OmsDb} (h : PutsForward db db') (hdb : db.Ordered) :
    db'.Ordered := by
  rcases h with rfl | ⟨f, rfl, hf, -⟩
  · exact hdb
  intro g hg
  rcases Table.mem_upsert.mp hg with ⟨hg, -⟩ | rfl
  · exact hdb g hg
  · exact hf

theorem run_putFulfillment_ok {f : OrderFulfillment} {c c' : Conn OmsDb} {u : Unit} :
    putFulfillment f c = (.ok u, c') ↔ c.aborted = false ∧ f.violates c.state = none ∧
      c' = ⟨{ c.state with orderFulfillment := c.state.orderFulfillment.upsert f }, false⟩ := by
  rw [putFulfillment, Oms.run_write_ok]
  cases hv : f.violates c.state with
  | some v => simp
  | none =>
      constructor
      · rintro ⟨hc, db, h, rfl⟩
        cases h
        exact ⟨hc, rfl, rfl⟩
      · rintro ⟨hc, -, rfl⟩
        exact ⟨hc, _, rfl, rfl⟩

theorem run_loadForUpdate_ok {orderId : Int} {c c' : Conn OmsDb} {o : Option OrderFulfillment} :
    loadForUpdate orderId c = (.ok o, c') ↔
      c.aborted = false ∧ c.state.orderFulfillment.lookup orderId = o ∧ c = c' :=
  Oms.run_select_ok

theorem OmsDb.Ordered.lookup {db : OmsDb} (h : db.Ordered) {orderId : Int} {f : OrderFulfillment}
    (hf : db.orderFulfillment.lookup orderId = some f) : f.Ordered :=
  h f (Table.lookup_eq_some.mp hf).1

theorem orElse_of_ne_none {α : Type} {o : Option α} {d : α} (h : o ≠ none) :
    (o <|> some d) = o := by
  cases o with
  | none => exact absurd rfl h
  | some a => rfl

/-- A set anchor or warehouse survives `COALESCE`. -/
theorem orElse_some_ne_none {α : Type} (o : Option α) (d : α) : (o <|> some d) ≠ none := by
  cases o <;> simp

theorem ensureShipCommitted_putsForward {orderId warehouseId : Int} {at_ : Timestamp} {db : OmsDb}
    (hdb : db.Ordered) :
    PutsForward db ((ensureShipCommitted orderId warehouseId at_).call db).2 := by
  rcases Sess.call_cases (ensureShipCommitted orderId warehouseId at_) db with
    ⟨out, db', hrun, hcall⟩ | hsame
  swap
  · exact Or.inl hsame
  rw [hcall]
  rw [ensureShipCommitted, Sess.run_bind_ok] at hrun
  obtain ⟨old, c₁, hload, hrun⟩ := hrun
  obtain ⟨-, rfl, rfl⟩ := run_loadForUpdate_ok.mp hload
  cases hold : db.orderFulfillment.lookup orderId with
  | none =>
      simp only [hold, Sess.run_bind_ok, run_putFulfillment_ok, Sess.run_pure] at hrun
      obtain ⟨-, -, ⟨-, -, rfl⟩, hout⟩ := hrun
      cases hout
      refine Or.inr ⟨_, rfl, ⟨fun hne => absurd rfl hne, fun _ => Option.some_ne_none _⟩, ?_⟩
      intro f hf
      rw [newShipCommitted, hold] at hf
      cases hf
  | some f =>
      simp only [hold, Sess.run_bind_ok, Oms.run_require_ok, run_putFulfillment_ok,
        Sess.run_pure] at hrun
      obtain ⟨-, -, ⟨-, rfl⟩, -, -, ⟨-, hviol, rfl⟩, hout⟩ := hrun
      cases hout
      have hid : f.orderId = orderId := (Table.lookup_eq_some.mp hold).2
      refine Or.inr ⟨_, rfl, ⟨?_, fun _ => orElse_some_ne_none _ _⟩, ?_⟩
      · exact OrderFulfillment.shipped_of_check (OrderFulfillment.check_of_violates hviol)
      · intro g hg
        obtain rfl : f = g := Option.some.inj (hold.symm.trans (hid ▸ hg))
        have hf := hdb.lookup hold
        exact ⟨orElse_of_ne_none, fun _ => rfl, stageRank_le_stageToShip _,
          fun hc => orElse_of_ne_none (hf.warehouse hc)⟩

theorem markShipped_putsForward {orderId : Int} {at_ : Timestamp} {db : OmsDb}
    (hdb : db.Ordered) : PutsForward db ((markShipped orderId at_).call db).2 := by
  rcases Sess.call_cases (markShipped orderId at_) db with ⟨out, db', hrun, hcall⟩ | hsame
  swap
  · exact Or.inl hsame
  rw [hcall]
  rw [markShipped, Sess.run_bind_ok] at hrun
  obtain ⟨old, c₁, hload, hrun⟩ := hrun
  obtain ⟨-, rfl, rfl⟩ := run_loadForUpdate_ok.mp hload
  rw [Sess.run_bind_ok] at hrun
  obtain ⟨f, c₂, hfound, hrun⟩ := hrun
  obtain ⟨hold, rfl⟩ := Oms.run_requireSome_ok.mp hfound
  have hid : f.orderId = orderId := (Table.lookup_eq_some.mp hold).2
  have hf := hdb.lookup hold
  cases hs : f.shippedAt with
  | some shippedAt =>
      simp only [hs, Sess.run_bind_ok, run_putFulfillment_ok, Sess.run_pure] at hrun
      obtain ⟨-, -, ⟨-, -, rfl⟩, hout⟩ := hrun
      cases hout
      have hcommitted := hf.shipped (hs ▸ Option.some_ne_none _)
      refine Or.inr ⟨_, rfl, ⟨fun _ => hcommitted, hf.warehouse⟩, ?_⟩
      intro g hg
      obtain rfl : f = g := Option.some.inj (hold.symm.trans (hid ▸ hg))
      exact ⟨fun _ => rfl, fun _ => hs.symm, stageRank_le_stageToShip _, fun _ => rfl⟩
  | none =>
      simp only [hs, Sess.run_bind_ok, Oms.run_require_ok, run_putFulfillment_ok,
        Sess.run_pure] at hrun
      obtain ⟨-, -, ⟨hcommitted, rfl⟩, -, -, ⟨-, -, rfl⟩, hout⟩ := hrun
      cases hout
      refine Or.inr ⟨_, rfl, ⟨fun _ => hcommitted, hf.warehouse⟩, ?_⟩
      intro g hg
      obtain rfl : f = g := Option.some.inj (hold.symm.trans (hid ▸ hg))
      exact ⟨fun _ => rfl, fun hne => absurd hs hne, stageRank_le_stageToShip _, fun _ => rfl⟩

/-! ## The assignment -/

/-- An assignment that passes the writer's checks and names another warehouse
than the one an order in shipping already has. -/
def MovesCommitted (db : OmsDb) : FulfillmentOp → Prop
  | .manualAssign platform storeCode extOrderNo warehouseId reason =>
      0 < warehouseId ∧ strip reason ≠ "" ∧ ∃ order,
        orderByKey db (strip (upper platform)) (strip storeCode) extOrderNo = some order ∧
          orderLinesSum db order.id ≠ [] ∧ ∃ f,
            db.orderFulfillment.lookup order.id = some f ∧ f.shipCommittedAt ≠ none ∧
              f.actualWarehouseId ≠ some warehouseId
  | _ => False

theorem manualAssign_putsForward {platform storeCode extOrderNo reason : String}
    {warehouseId : Int} {db : OmsDb}
    (hkeep : ¬ MovesCommitted db
      (.manualAssign platform storeCode extOrderNo warehouseId reason)) :
    PutsForward db ((manualAssign platform storeCode extOrderNo warehouseId reason).call db).2 := by
  rcases Sess.call_cases (manualAssign platform storeCode extOrderNo warehouseId reason) db with
    ⟨out, db', hrun, hcall⟩ | hsame
  swap
  · exact Or.inl hsame
  rw [hcall]
  simp only [manualAssign, Sess.run_bind_ok, Oms.run_require_ok, Oms.run_select_ok,
    Oms.run_requireSome_ok, run_putFulfillment_ok, Sess.run_pure] at hrun
  obtain ⟨-, -, ⟨hpos, rfl⟩, -, -, ⟨hreason, rfl⟩, found, -, ⟨-, hfound, rfl⟩, order, -,
    ⟨horder, rfl⟩, old, -, ⟨-, hold, rfl⟩, lines, -, ⟨-, hlines, rfl⟩, -, -, ⟨hne, rfl⟩, -, -,
    ⟨-, hviol, rfl⟩, hout⟩ := hrun
  cases hout
  have hshipped :=
    OrderFulfillment.shipped_of_check (OrderFulfillment.check_of_violates hviol)
  have hset : (assignedFulfillment order.id warehouseId old).actualWarehouseId ≠ none := by
    cases old <;> exact Option.some_ne_none _
  refine Or.inr ⟨_, rfl, ⟨hshipped, fun _ => hset⟩, ?_⟩
  intro f hf
  have hid : (assignedFulfillment order.id warehouseId old).orderId = order.id := by
    cases old with
    | none => rfl
    | some g => exact (Table.lookup_eq_some.mp hold).2
  rw [hid, hold] at hf
  subst hf
  refine ⟨fun _ => rfl, fun _ => rfl, Nat.le_refl _, ?_⟩
  -- the row is overwritten, so the warehouse stays only when the call names it
  intro hc
  by_contra hmoved
  exact hkeep ⟨hpos, hreason, order, hfound.trans horder, hlines ▸ hne, f, hold, hc,
    fun h => hmoved h.symm⟩

/-! ## Runs -/

theorem FulfillmentOp.putsForward {op : FulfillmentOp} {db : OmsDb} (hdb : db.Ordered)
    (hkeep : ¬ MovesCommitted db op) : PutsForward db (op.step db) := by
  cases op with
  | ensureShipCommitted orderId warehouseId at_ => exact ensureShipCommitted_putsForward hdb
  | markShipped orderId at_ => exact markShipped_putsForward hdb
  | manualAssign platform storeCode extOrderNo warehouseId reason =>
      exact manualAssign_putsForward hkeep

/-- The states of runs in which no assignment moves an order in shipping. -/
abbrev FulfillmentRun : OmsDb → OmsDb → Prop :=
  Calls FulfillmentOp.step fun db op => ¬ MovesCommitted db op

theorem FulfillmentRun.ordered {db db' : OmsDb} (h : FulfillmentRun db db') (hdb : db.Ordered) :
    db'.Ordered :=
  h.invariant hdb fun _ _ _ hop hw => (FulfillmentOp.putsForward hw hop).ordered hw

theorem FulfillmentRun.advances {db db' : OmsDb} (h : FulfillmentRun db db') (hdb : db.Ordered)
    (orderId : Int) : db.Advances db' orderId := by
  induction h with
  | start => exact .refl db orderId
  | call op hw hop ih =>
      exact ih.trans ((FulfillmentOp.putsForward (FulfillmentRun.ordered hw hdb) hop).advances orderId)

/-- **The fulfilment record is monotone.** In a run whose assignments leave
orders in shipping where they are, every reached record is ordered and every
later one advances it. -/
theorem fulfillment_monotone {db₀ db db' : OmsDb} (h₀ : db₀.Unshipped)
    (h : FulfillmentRun db₀ db) (h' : FulfillmentRun db db') (orderId : Int) :
    (∀ f, db.orderFulfillment.lookup orderId = some f →
      f.shippedAt ≠ none → f.shipCommittedAt ≠ none) ∧ db.Advances db' orderId := by
  have hdb : db.Ordered := h.ordered h₀.ordered
  exact ⟨fun f hf => (hdb.lookup hf).shipped, h'.advances hdb orderId⟩

/-- The sample order enters shipping from the first warehouse. -/
def sampleCommitted : OmsDb := (FulfillmentOp.ensureShipCommitted 1 1 5).step sampleShop

/-- It is shipped two ticks later, after an assignment to its own warehouse. -/
theorem fulfillment_monotone_sample :
    (∀ f, sampleCommitted.orderFulfillment.lookup 1 = some f →
      f.shippedAt ≠ none → f.shipCommittedAt ≠ none) ∧
      sampleCommitted.Advances ((FulfillmentOp.markShipped 1 7).step
        ((FulfillmentOp.manualAssign "pdd" "S1" "E1" 1 "same").step sampleCommitted)) 1 := by
  refine @fulfillment_monotone sampleShop sampleCommitted _ ?_ ?_ ?_ 1
  · intro f hf
    cases hf
  · exact .call _ .start id
  · refine .call _ (.call _ .start ?_) id
    rintro ⟨-, -, order, horder, -, f, hf, -, hne⟩
    have hrow : (sampleCommitted.orderFulfillment.lookup 1).map
        OrderFulfillment.actualWarehouseId = some (some 1) := by decide
    have hid : (orderByKey sampleCommitted "PDD" "S1" "E1").map OrderHead.id = some 1 := by decide
    have hkey : orderByKey sampleCommitted "PDD" "S1" "E1" = some order := horder
    rw [hkey] at hid
    have : order.id = 1 := Option.some.inj hid
    rw [this] at hf
    rw [hf] at hrow
    exact hne (Option.some.inj hrow)

/-- The assignment that follows the first commitment names the second
warehouse, and the record moves. -/
theorem assignment_moves_committed :
    ¬ ∀ (db₀ db db' : OmsDb) (orderId : Int), db₀.Unshipped →
      Calls FulfillmentOp.step (fun _ _ => True) db₀ db →
        Calls FulfillmentOp.step (fun _ _ => True) db db' → db.Advances db' orderId := by
  intro hclaim
  have hadv := hclaim sampleShop sampleCommitted
    ((FulfillmentOp.manualAssign "PDD" "S1" "E1" 2 "closer").step sampleCommitted) 1
    (by intro f hf; cases hf) (.call _ .start trivial) (.call _ .start trivial)
  have hrow : sampleCommitted.orderFulfillment.lookup 1 =
      some (newShipCommitted 1 1 5) := by decide
  obtain ⟨g, hg, hfg⟩ := hadv _ hrow
  have hmoved : (((FulfillmentOp.manualAssign "PDD" "S1" "E1" 2 "closer").step
      sampleCommitted).orderFulfillment.lookup 1).map OrderFulfillment.actualWarehouseId =
        some (some 2) := by decide
  rw [hg] at hmoved
  have hkept := hfg.warehouse (by decide)
  rw [Option.map_some, hkept] at hmoved
  cases hmoved

end WmsDu
