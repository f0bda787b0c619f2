import WmsDu.Oms.Ingest

/-!
# Runs of order ingest

What each part of `ingest` writes, and what a call that committed did: the
parts before and after the two line tables keep them, a repeated call goes
through the order lines alone, and the first call through both.
-/

namespace WmsDu

open Txn

/-! ## The parts that keep the line tables -/

/-- The warehouse tables and the order items are as they were. -/
def KeepsLines (c c' : Conn OmsDb) : Prop :=
  c'.state.wms = c.state.wms ∧ c'.state.orderItems = c.state.orderItems

theorem KeepsLines.refl (c : Conn OmsDb) : KeepsLines c c := ⟨rfl, rfl⟩

theorem KeepsLines.trans {a b c : Conn OmsDb} (h : KeepsLines a b) (h' : KeepsLines b c) :
    KeepsLines a c := ⟨h'.1.trans h.1, h'.2.trans h.2⟩

theorem putStore_keepsLines (store : Store) : Sess.Keeps KeepsLines (putStore store) := by
  refine Sess.keeps_exec KeepsLines.refl (fun _ => ⟨rfl, rfl⟩) ?_
  intro db a db' h
  split at h
  · cases h
    exact ⟨rfl, rfl⟩
  · split at h
    · cases h
    · cases h
      exact ⟨rfl, rfl⟩

theorem ensureStore_keepsLines (platform storeCode : String) (storeName : Option String)
    (storeId : Int) : Sess.Keeps KeepsLines (ensureStore platform storeCode storeName storeId) := by
  refine Sess.Keeps.bind (R := KeepsLines) KeepsLines.trans (Oms.keeps_select KeepsLines.refl _) ?_
  intro found
  cases found with
  | some s => exact Sess.keeps_pure KeepsLines.refl _
  | none =>
      exact Sess.Keeps.bind (R := KeepsLines) KeepsLines.trans (putStore_keepsLines _) fun _ =>
        Sess.keeps_pure KeepsLines.refl _

theorem resolveStoreId_keepsLines (platform storeCode : String) (storeName : Option String)
    (storeId : Int) :
    Sess.Keeps KeepsLines (resolveStoreId platform storeCode storeName storeId) := by
  refine Sess.Keeps.bind (R := KeepsLines) KeepsLines.trans (Oms.keeps_select KeepsLines.refl _) ?_
  intro found
  cases found with
  | some s => exact Sess.keeps_pure KeepsLines.refl _
  | none =>
      refine Sess.Keeps.bind (R := KeepsLines) KeepsLines.trans (ensureStore_keepsLines _ _ _ _) fun _ => ?_
      refine Sess.Keeps.bind (R := KeepsLines) KeepsLines.trans (Oms.keeps_select KeepsLines.refl _) fun made => ?_
      exact Sess.Keeps.bind (R := KeepsLines) KeepsLines.trans (Oms.keeps_requireSome KeepsLines.refl _ _) fun _ =>
        Sess.keeps_pure KeepsLines.refl _

theorem upsertRoute_keepsLines (orderId : Int) (route : RoutePayload) :
    Sess.Keeps KeepsLines (upsertOrderFulfillmentRoute orderId route) := by
  refine Sess.keeps_exec KeepsLines.refl (fun _ => ⟨rfl, rfl⟩) ?_
  intro db a db' h
  dsimp only at h
  split at h
  · cases h
  · cases h
    exact ⟨rfl, rfl⟩

/-- Resolving a route only reads. -/
theorem resolveRoutePayload_reads (address : Option Address) (defaults : Address) :
    Sess.Keeps Eq (resolveRoutePayload address defaults) := by
  unfold resolveRoutePayload
  rcases resolveRouteAddress address defaults with ⟨_ | province, city⟩
  · exact Sess.keeps_pure Eq.refl _
  · refine Sess.Keeps.bind (R := Eq) Eq.trans (Oms.keeps_select Eq.refl _) fun split => ?_
    cases split with
    | true =>
        cases city with
        | none => exact Sess.keeps_pure Eq.refl _
        | some city =>
            exact Sess.Keeps.bind (R := Eq) Eq.trans (Oms.keeps_select Eq.refl _) fun _ =>
              Sess.keeps_pure Eq.refl _
    | false =>
        exact Sess.Keeps.bind (R := Eq) Eq.trans (Oms.keeps_select Eq.refl _) fun _ =>
          Sess.keeps_pure Eq.refl _

/-- A route is always resolved. -/
theorem run_resolveRoutePayload (address : Option Address) (defaults : Address) (db : OmsDb) :
    ∃ route, resolveRoutePayload address defaults ⟨db, false⟩ = (.ok route, ⟨db, false⟩) := by
  unfold resolveRoutePayload
  rcases resolveRouteAddress address defaults with ⟨_ | province, city⟩
  · exact ⟨_, rfl⟩
  · dsimp only
    unfold isCitySplitProvince
    rw [Sess.run_bind_of_ok (Oms.run_select _ db)]
    split
    · cases city with
      | none => exact ⟨_, rfl⟩
      | some city => exact ⟨_, rfl⟩
    · exact ⟨_, rfl⟩

/-- The sequence of the stores hands out ids no store has. -/
def FreshStore (db : OmsDb) (storeId : Int) : Prop := 0 < storeId ∧ ¬ db.stores.HasKey storeId

theorem run_putStore_new {db : OmsDb} {store : Store} (hfresh : FreshStore db store.id)
    (h : storeByKey db store.platform store.storeCode = none) :
    putStore store ⟨db, false⟩ =
      (.ok (), ⟨{ db with stores := db.stores.insert store }, false⟩) := by
  rw [putStore, Oms.run_write_ok]
  refine ⟨rfl, _, ?_, rfl⟩
  rw [h]
  exact if_neg (not_or.mpr ⟨not_le.mpr hfresh.1, hfresh.2⟩)

theorem storeByKey_insert {db : OmsDb} {store : Store} (hnew : ¬ db.stores.HasKey store.id)
    (h : storeByKey db store.platform store.storeCode = none) :
    storeByKey { db with stores := db.stores.insert store } store.platform store.storeCode =
      some store := by
  unfold storeByKey at h ⊢
  rw [Table.rows_insert_new hnew, List.find?_append, h]
  simp

theorem run_ensureStore_new {db : OmsDb} {platform storeCode : String} {storeName : Option String}
    {storeId : Int} (hplat : upper platform = platform) (hfresh : FreshStore db storeId)
    (h : storeByKey db platform storeCode = none) :
    ∃ db₁ store, ensureStore platform storeCode storeName storeId ⟨db, false⟩ =
      (.ok storeId, ⟨db₁, false⟩) ∧ storeByKey db₁ platform storeCode = some store := by
  unfold ensureStore
  rw [hplat, Sess.run_bind_of_ok (Oms.run_select _ db), h]
  have hput := @run_putStore_new db
    ⟨storeId, platform, storeCode, storeName.getD s!"{platform}-{storeCode}"⟩ hfresh h
  have hthere := @storeByKey_insert db
    ⟨storeId, platform, storeCode, storeName.getD s!"{platform}-{storeCode}"⟩ hfresh.2 h
  exact ⟨_, _, Sess.run_bind_of_ok hput, hthere⟩

/-- A store is found, or made and then found. -/
theorem run_resolveStoreId {db : OmsDb} {platform storeCode : String} {storeName : Option String}
    {storeId : Int} (hfresh : FreshStore db storeId) :
    ∃ id db₁, resolveStoreId platform storeCode storeName storeId ⟨db, false⟩ =
      (.ok id, ⟨db₁, false⟩) := by
  unfold resolveStoreId
  rw [Sess.run_bind_of_ok (Oms.run_select _ db)]
  cases hfound : storeByKey db (normPlatform platform) (normStoreCode storeCode) with
  | some s => exact ⟨s.id, db, rfl⟩
  | none =>
      have hplat : upper (normPlatform platform) = normPlatform platform := upper_upper _
      obtain ⟨db₁, store, hmade, hthere⟩ := run_ensureStore_new hplat hfresh hfound
      refine ⟨store.id, db₁, ?_⟩
      refine (Sess.run_bind_of_ok hmade).trans ?_
      refine (Sess.run_bind_of_ok (Oms.run_select _ db₁)).trans ?_
      rw [hthere]
      rfl

/-! ## The line tables -/

theorem run_insertOrderItem_ok {it : IngestItem} {id orderId : Int} {c c' : Conn OmsDb} {u : Unit}
    (h : insertOrderItem it id orderId c = (.ok u, c')) :
    c.aborted = false ∧ ∃ itemId, it.itemId = some itemId ∧
      (it.row id orderId itemId).check = none ∧
        ((∃ i ∈ c.state.orderItems.rows, i.clashes (it.row id orderId itemId)) ∧ c' = c ∨
          ¬ (∃ i ∈ c.state.orderItems.rows, i.clashes (it.row id orderId itemId)) ∧
            ¬ c.state.orderItems.HasKey id ∧ c.state.wms.orders.HasKey orderId ∧
              c' = ⟨{ c.state with
                orderItems := c.state.orderItems.insert (it.row id orderId itemId) }, false⟩) := by
  rw [insertOrderItem, Oms.run_write_ok] at h
  obtain ⟨hc, db, h, rfl⟩ := h
  refine ⟨hc, ?_⟩
  obtain ⟨s, ab⟩ := c
  cases hc
  cases hitem : it.itemId with
  | none =>
      rw [hitem] at h
      cases h
  | some itemId =>
      rw [hitem] at h
      dsimp only at h
      refine ⟨itemId, rfl, ?_⟩
      cases hcheck : (it.row id orderId itemId).check with
      | some v =>
          rw [hcheck] at h
          cases h
      | none =>
          rw [hcheck] at h
          dsimp only at h
          refine ⟨rfl, ?_⟩
          by_cases hclash : ∃ i ∈ s.orderItems.rows, i.clashes (it.row id orderId itemId)
          · rw [if_pos hclash] at h
            cases h
            exact Or.inl ⟨hclash, rfl⟩
          · rw [if_neg hclash] at h
            split_ifs at h with hid horder hfk
            cases h
            refine Or.inr ⟨hclash, fun hk => hid (Or.inr hk), ?_, rfl⟩
            exact horder

/-- The items go into their own table. -/
theorem run_insertOrderItems_ok {orderId : Int} {id : Nat → Int} :
    ∀ (items : List IngestItem) (n : Nat) {c c' : Conn OmsDb} {u : Unit},
      c.aborted = false → insertOrderItems orderId id items n c = (.ok u, c') →
        ∃ t, c' = ⟨{ c.state with orderItems := t }, false⟩ := by
  intro items
  induction items with
  | nil =>
      rintro n ⟨s, ab⟩ c' u hc h
      cases hc
      cases h
      exact ⟨s.orderItems, rfl⟩
  | cons it items ih =>
      rintro n ⟨s, ab⟩ c' u hc h
      cases hc
      rw [insertOrderItems, Sess.run_bind_ok] at h
      obtain ⟨u₁, c₁, hitem, h⟩ := h
      obtain ⟨-, itemId, -, -, ⟨-, rfl⟩ | ⟨-, -, -, rfl⟩⟩ := run_insertOrderItem_ok hitem
      · exact ih (n + 1) rfl h
      · obtain ⟨t, rfl⟩ := ih (n + 1) rfl h
        exact ⟨t, rfl⟩

theorem run_deleteOrderLines_ok {orderId : Int} {c c' : Conn OmsDb} {u : Unit} :
    deleteOrderLines orderId c = (.ok u, c') ↔ c.aborted = false ∧
      (¬ ∃ l ∈ c.state.wms.orderLines.rows, l.orderId = orderId ∧
        ∃ o ∈ c.state.wms.outboundEventLines.rows, o.orderLineId = some l.id) ∧
      c' = ⟨c.state.withOrderLines
        (c.state.wms.orderLines.delete fun l => l.orderId = orderId), false⟩ := by
  rw [deleteOrderLines, Oms.run_write_ok]
  constructor
  · rintro ⟨hc, db, h, rfl⟩
    split_ifs at h with href
    cases h
    exact ⟨hc, href, rfl⟩
  · rintro ⟨hc, href, rfl⟩
    refine ⟨hc, _, ?_, rfl⟩
    rw [if_neg href]

theorem run_insertOrderLine_ok {line : OrderLine} {c c' : Conn OmsDb} {u : Unit} :
    insertOrderLine line c = (.ok u, c') ↔ c.aborted = false ∧
      (0 < line.id ∧ ¬ c.state.wms.orderLines.HasKey line.id ∧
        c.state.wms.orders.HasKey line.orderId) ∧
      c' = ⟨c.state.withOrderLines (c.state.wms.orderLines.insert line), false⟩ := by
  rw [insertOrderLine, Oms.run_write_ok]
  constructor
  · rintro ⟨hc, db, h, rfl⟩
    split_ifs at h with hid horder
    cases h
    rw [not_or, not_le] at hid
    exact ⟨hc, ⟨hid.1, hid.2, horder⟩, rfl⟩
  · rintro ⟨hc, ⟨hpos, hkey, horder⟩, rfl⟩
    refine ⟨hc, _, ?_, rfl⟩
    rw [if_neg (not_or.mpr ⟨not_le.mpr hpos, hkey⟩), if_neg (not_not.mpr horder)]

theorem insertLines_abortsOnError (orderId : Int) (id : Nat → Int) :
    ∀ (lines : List (Int × Int)) (n : Nat), Sess.AbortsOnError (insertLines orderId id lines n) := by
  intro lines
  induction lines with
  | nil => intro n; exact Sess.abortsOnError_pure _
  | cons l lines ih =>
      intro n
      exact Sess.AbortsOnError.bind (Oms.write_abortsOnError _) fun _ => ih (n + 1)

theorem insertOrderLines_abortsOnError (orderId : Int) (id : Nat → Int) (items : List IngestItem) :
    Sess.AbortsOnError (insertOrderLines orderId id items) := by
  unfold insertOrderLines
  dsimp only
  split
  · exact Sess.abortsOnError_pure _
  · exact Sess.AbortsOnError.bind (Oms.write_abortsOnError _) fun _ =>
      insertLines_abortsOnError orderId id _ 0

/-! ## What the lines become -/

/-- The rows the inserts of an order's lines add. -/
def orderLinesFrom (orderId : Int) (id : Nat → Int) : List (Int × Int) → Nat → List OrderLine
  | [], _ => []
  | (itemId, reqQty) :: lines, n =>
      { id := id n, orderId := orderId, itemId := itemId, reqQty := reqQty } ::
        orderLinesFrom orderId id lines (n + 1)

theorem mem_orderLinesFrom {orderId : Int} {id : Nat → Int} {l : OrderLine} :
    ∀ (lines : List (Int × Int)) (n : Nat), l ∈ orderLinesFrom orderId id lines n →
      l.orderId = orderId ∧ ∃ m, l.id = id m := by
  intro lines
  induction lines with
  | nil => intro n hl; cases hl
  | cons e lines ih =>
      intro n hl
      rcases List.mem_cons.mp hl with rfl | hl
      · exact ⟨rfl, n, rfl⟩
      · exact ih (n + 1) hl

theorem orderLinesFrom_ne_nil {orderId : Int} {id : Nat → Int} {lines : List (Int × Int)}
    (h : lines ≠ []) (n : Nat) : orderLinesFrom orderId id lines n ≠ [] := by
  cases lines with
  | nil => exact absurd rfl h
  | cons e lines => exact List.cons_ne_nil _ _

/-- The demand of the added rows is the tally's. -/
theorem sumOver_orderLinesFrom {orderId : Int} {id : Nat → Int} (itemId : Int) :
    ∀ (lines : List (Int × Int)) (n : Nat),
      sumOver (fun l : OrderLine => l.orderId = orderId ∧ l.itemId = itemId) OrderLine.reqQty
        (orderLinesFrom orderId id lines n) =
        sumOver (fun e : Int × Int => e.1 = itemId) Prod.snd lines := by
  intro lines
  induction lines with
  | nil => intro n; rfl
  | cons e lines ih =>
      intro n
      rw [orderLinesFrom, sumOver_cons, sumOver_cons, ih (n + 1)]
      simp only [true_and]

theorem run_insertLines_ok {orderId : Int} {id : Nat → Int} :
    ∀ (lines : List (Int × Int)) (n : Nat) {c c' : Conn OmsDb} {u : Unit},
      c.aborted = false → insertLines orderId id lines n c = (.ok u, c') →
        ∃ t, c' = ⟨c.state.withOrderLines t, false⟩ ∧
          t.rows = c.state.wms.orderLines.rows ++ orderLinesFrom orderId id lines n ∧
            (lines ≠ [] → c.state.wms.orders.HasKey orderId) := by
  intro lines
  induction lines with
  | nil =>
      rintro n ⟨s, ab⟩ c' u hc h
      cases hc
      cases h
      exact ⟨s.wms.orderLines, rfl, (List.append_nil _).symm, fun hne => absurd rfl hne⟩
  | cons e lines ih =>
      rintro n c c' u hc h
      rw [insertLines, Sess.run_bind_ok] at h
      obtain ⟨u₁, c₁, hline, h⟩ := h
      obtain ⟨-, ⟨-, hkey, horder⟩, rfl⟩ := run_insertOrderLine_ok.mp hline
      obtain ⟨t, rfl, ht, -⟩ := ih (n + 1) rfl h
      refine ⟨t, rfl, ?_, fun _ => horder⟩
      rw [ht]
      show (c.state.wms.orderLines.insert _).rows ++ _ = _
      rw [Table.rows_insert_new hkey, List.append_assoc]
      rfl

/-- **What the line writer did.** Without a demand nothing; otherwise the
order's lines, which no outbound line names, made way for new ones. -/
theorem run_insertOrderLines_ok {orderId : Int} {id : Nat → Int} {items : List IngestItem}
    {db : OmsDb} {c' : Conn OmsDb} {u : Unit}
    (h : insertOrderLines orderId id items ⟨db, false⟩ = (.ok u, c')) :
    ((extractReqQty items).rows = [] ∧ c' = ⟨db, false⟩) ∨
      ((extractReqQty items).rows ≠ [] ∧ db.wms.orders.HasKey orderId ∧
        (¬ ∃ l ∈ db.wms.orderLines.rows, l.orderId = orderId ∧
          ∃ o ∈ db.wms.outboundEventLines.rows, o.orderLineId = some l.id) ∧
        ∃ t, c' = ⟨db.withOrderLines t, false⟩ ∧
          t.rows = (db.wms.orderLines.delete fun l => l.orderId = orderId).rows ++
            orderLinesFrom orderId id (extractReqQty items).rows 0) := by
  unfold insertOrderLines at h
  by_cases hempty : (extractReqQty items).rows = []
  · rw [if_pos hempty] at h
    cases h
    exact Or.inl ⟨hempty, rfl⟩
  · rw [if_neg hempty, Sess.run_bind_ok] at h
    obtain ⟨u₁, c₁, hdel, h⟩ := h
    obtain ⟨-, href, rfl⟩ := run_deleteOrderLines_ok.mp hdel
    obtain ⟨t, rfl, ht, horder⟩ := run_insertLines_ok _ 0 rfl h
    exact Or.inr ⟨hempty, horder hempty, href, t, rfl, ht⟩

/-! ## What a call did -/

theorem run_insertOrderOrGet_ok {order : OrderHead} {c c' : Conn OmsDb} {r : Bool × Option Int}
    (h : insertOrderOrGetIdempotent order c = (.ok r, c')) : c.aborted = false ∧
      ((∃ o, orderByKey c.state order.platform order.storeCode order.extOrderNo = some o ∧
          r = (true, some o.id) ∧ c' = c) ∨
        (orderByKey c.state order.platform order.storeCode order.extOrderNo = none ∧
          ¬ c.state.wms.orders.HasKey order.id ∧ r = (false, some order.id) ∧
            c' = ⟨c.state.withOrder order, false⟩)) := by
  obtain ⟨db, ab⟩ := c
  rw [insertOrderOrGetIdempotent, Sess.run_bind_ok] at h
  obtain ⟨newId, c₁, hins, h⟩ := h
  rw [insertOrder, Oms.run_write_ok] at hins
  obtain ⟨rfl, db₁, hins, rfl⟩ := hins
  refine ⟨rfl, ?_⟩
  dsimp only at hins ⊢
  cases hfound : orderByKey db order.platform order.storeCode order.extOrderNo with
  | some o =>
      rw [hfound, if_pos (show (some o).isSome = true from rfl)] at hins
      cases hins
      rw [Sess.run_bind_ok] at h
      obtain ⟨found, c₂, hsel, h⟩ := h
      obtain ⟨-, rfl, rfl⟩ := Oms.run_select_ok.mp hsel
      rw [hfound] at h
      cases h
      exact Or.inl ⟨o, rfl, rfl, rfl⟩
  | none =>
      rw [hfound, if_neg (by simp)] at hins
      split_ifs at hins with hid
      cases hins
      cases h
      exact Or.inr ⟨rfl, fun hk => hid (Or.inr hk), rfl, rfl⟩

/-- The routing step needs a live transaction, and keeps the line tables. -/
theorem run_ingestRoute_ok {hit : Bool} {orderId : Int} {address : Option Address}
    {defaults : Address} {c c' : Conn OmsDb} {route : RoutePayload}
    (h : ingestRoute hit orderId address defaults c = (.ok route, c')) :
    c.aborted = false ∧ c'.aborted = false ∧ KeepsLines c c' := by
  have hreads := resolveRoutePayload_reads address defaults
  cases hit with
  | true =>
      simp only [ingestRoute, if_true, Sess.run_bind_ok] at h
      obtain ⟨existing, c₁, hload, h⟩ := h
      obtain ⟨hc, -, rfl⟩ := Oms.run_select_ok.mp hload
      refine ⟨hc, ?_⟩
      cases existing with
      | some r =>
          cases h
          exact ⟨hc, KeepsLines.refl _⟩
      | none =>
          have hcc := hreads c
          rw [show resolveRoutePayload address defaults c = (.ok route, c') from h] at hcc
          obtain rfl : c = c' := hcc
          exact ⟨hc, KeepsLines.refl _⟩
  | false =>
      simp only [ingestRoute, Bool.false_eq_true, if_false, Sess.run_bind_ok] at h
      obtain ⟨r, c₁, hres, u, c₂, hput, h⟩ := h
      have hcc := hreads c
      rw [hres] at hcc
      obtain rfl : c = c₁ := hcc
      have hkeep := upsertRoute_keepsLines orderId r c
      rw [hput] at hkeep
      rw [upsertOrderFulfillmentRoute, Oms.run_write_ok] at hput
      obtain ⟨hc, db, -, rfl⟩ := hput
      cases h
      exact ⟨hc, rfl, hkeep⟩

/-- A repeated call reads a route, or resolves one. -/
theorem run_ingestRoute_hit (orderId : Int) (address : Option Address) (defaults : Address)
    (db : OmsDb) :
    ∃ route, ingestRoute true orderId address defaults ⟨db, false⟩ =
      (.ok route, ⟨db, false⟩) := by
  unfold ingestRoute loadExistingRoutePayload
  rw [if_pos rfl, Sess.run_bind_of_ok (Oms.run_select _ db)]
  cases db.orderFulfillment.lookup orderId with
  | some f => exact ⟨_, rfl⟩
  | none => exact run_resolveRoutePayload address defaults db

/-- A taken key leaves the orders as they are. -/
theorem run_insertOrderOrGet_hit {order o : OrderHead} {db : OmsDb}
    (h : orderByKey db order.platform order.storeCode order.extOrderNo = some o) :
    insertOrderOrGetIdempotent order ⟨db, false⟩ = (.ok (true, some o.id), ⟨db, false⟩) := by
  have hins : insertOrder order ⟨db, false⟩ = (.ok none, ⟨db, false⟩) := by
    rw [insertOrder, Oms.run_write_ok]
    refine ⟨rfl, db, ?_, rfl⟩
    rw [h]
    rfl
  unfold insertOrderOrGetIdempotent
  rw [Sess.run_bind_of_ok hins]
  refine (Sess.run_bind_of_ok (Oms.run_select _ db)).trans ?_
  rw [h]
  rfl

/-- **A repeated call without a demand.** It answers, and the line tables stay. -/
theorem run_ingest_hit {req : IngestRequest} {db : OmsDb} {o : OrderHead}
    (ho : orderByKey db req.order.platform req.storeCode req.extOrderNo = some o)
    (hstore : FreshStore db req.storeId) (hnil : (extractReqQty req.items).rows = []) :
    ∃ out db', ingest req ⟨db, false⟩ = (.ok out, ⟨db', false⟩) ∧ out.status = "IDEMPOTENT" ∧
      KeepsLines ⟨db, false⟩ ⟨db', false⟩ := by
  obtain ⟨storeId, db₁, hres⟩ := @run_resolveStoreId db req.order.platform req.storeCode
    (some req.storeCode) req.storeId hstore
  have hkeep := resolveStoreId_keepsLines req.order.platform req.storeCode (some req.storeCode)
    req.storeId ⟨db, false⟩
  rw [hres] at hkeep
  have ho₁ : orderByKey db₁ req.order.platform req.storeCode req.extOrderNo = some o := by
    rw [← ho]
    unfold orderByKey
    rw [hkeep.1]
  have hlines : insertOrderLines o.id req.lineId req.items ⟨db₁, false⟩ =
      (.ok (), ⟨db₁, false⟩) := by
    unfold insertOrderLines
    rw [if_pos hnil]
    rfl
  obtain ⟨route, hroute⟩ := run_ingestRoute_hit o.id req.address req.defaults db₁
  refine ⟨ingestAnswer req true o.id route, db₁, ?_, rfl, hkeep⟩
  unfold ingest
  refine (Sess.run_bind_of_ok hres).trans ?_
  refine (Sess.run_bind_of_ok (run_insertOrderOrGet_hit ho₁)).trans ?_
  simp only [Oms.requireSome, Oms.when, Bool.true_eq_false, if_false, Sess.run_bind_ok,
    Sess.run_pure, Sess.run_attempt]
  exact ⟨o.id, _, rfl, (), _, rfl, (), _, congrArg (Prod.mk _) (congrArg Prod.snd hlines), route, _,
    hroute, rfl⟩

/-- A call that answers left its transaction alive. -/
theorem run_ingest_alive {req : IngestRequest} {out : IngestOut} {c c' : Conn OmsDb}
    (h : ingest req c = (.ok out, c')) : c'.aborted = false := by
  simp only [ingest, Sess.run_bind_ok, Sess.run_pure] at h
  obtain ⟨_, _, -, _, _, -, _, _, -, _, _, -, _, _, -, _, _, hroute, hout⟩ := h
  cases hout
  exact (run_ingestRoute_ok hroute).2.1

/-- **A committed call.** A repeated one went through the order lines, a new
one wrote the order and its items before. -/
theorem run_ingest_ok {req : IngestRequest} {out : IngestOut} {db db' : OmsDb}
    (h : ingest req ⟨db, false⟩ = (.ok out, ⟨db', false⟩)) :
    ∃ db₁, KeepsLines ⟨db, false⟩ ⟨db₁, false⟩ ∧ ∃ db₂ db₃ orderId,
      insertOrderLines orderId req.lineId req.items ⟨db₂, false⟩ = (.ok (), ⟨db₃, false⟩) ∧
        KeepsLines ⟨db₃, false⟩ ⟨db', false⟩ ∧
        ((∃ o, orderByKey db₁ req.order.platform req.storeCode req.extOrderNo = some o ∧
            orderId = o.id ∧ db₂ = db₁ ∧ out.status = "IDEMPOTENT") ∨
          (orderByKey db₁ req.order.platform req.storeCode req.extOrderNo = none ∧
            orderId = req.orderId ∧ ¬ db₁.wms.orders.HasKey req.orderId ∧
            insertOrderItems req.orderId req.itemRowId req.items 0
              ⟨db₁.withOrder req.order, false⟩ = (.ok (), ⟨db₂, false⟩))) := by
  rw [ingest, Sess.run_bind_ok] at h
  obtain ⟨storeId, ⟨db₁, ab₁⟩, hstore, h⟩ := h
  have hkeep := resolveStoreId_keepsLines req.order.platform req.storeCode (some req.storeCode)
    req.storeId ⟨db, false⟩
  rw [hstore] at hkeep
  rw [Sess.run_bind_ok] at h
  obtain ⟨r, c₂, horder, h⟩ := h
  obtain ⟨rfl, horder⟩ := run_insertOrderOrGet_ok horder
  refine ⟨db₁, hkeep, ?_⟩
  rcases horder with ⟨o, ho, rfl, rfl⟩ | ⟨hnone, hfresh, rfl, rfl⟩
  · -- the items are skipped, the lines are not
    simp only [Sess.run_bind_ok, Oms.run_requireSome_ok, Sess.run_attempt, Sess.run_pure,
      Oms.when, Bool.true_eq_false, if_false] at h
    obtain ⟨_, _, ⟨⟨⟩, rfl⟩, _, _, ⟨⟩, _, c₃, ⟨⟩, route, c₄, hroute, ⟨⟩⟩ := h
    obtain ⟨halive, -, hlast⟩ := run_ingestRoute_ok hroute
    obtain ⟨u, hlines⟩ := Sess.run_of_attempt (insertOrderLines_abortsOnError _ _ _)
      (Conn.eq_of_alive halive)
    exact ⟨db₁, _, o.id, hlines, hlast, Or.inl ⟨o, ho, rfl, rfl, rfl⟩⟩
  · simp only [Sess.run_bind_ok, Oms.run_requireSome_ok, Sess.run_attempt, Sess.run_pure,
      Oms.when, if_true] at h
    obtain ⟨_, _, ⟨⟨⟩, rfl⟩, _, c₂, hitems, _, c₃, ⟨⟩, route, c₄, hroute, ⟨⟩⟩ := h
    obtain ⟨t, rfl⟩ := run_insertOrderItems_ok req.items 0 rfl hitems
    obtain ⟨halive, -, hlast⟩ := run_ingestRoute_ok hroute
    obtain ⟨u, hlines⟩ := Sess.run_of_attempt (insertOrderLines_abortsOnError _ _ _)
      (Conn.eq_of_alive halive)
    exact ⟨_, _, req.orderId, hlines, hlast, Or.inr ⟨hnone, rfl, hfresh, hitems⟩⟩

end WmsDu
