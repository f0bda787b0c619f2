import WmsDu.Data.Sorting

/-!
# The warehouse router

An order goes whole to one of the warehouses bound to its store: the top
bindings are tried first, then the backups, each by priority and warehouse id.
Stock that can be sold comes from a provider and is read once for each
warehouse and item.
-/

namespace WmsDu

/-- An order's id, as callers hand it in. -/
inductive OrderIdent where
  | str (s : String)
  | int (n : Int)
deriving DecidableEq, Repr

def OrderIdent.text : OrderIdent → String
  | .str s => s
  | .int n => toString n

structure OrderContext where
  platform : String
  storeCode : String
  orderId : OrderIdent
deriving DecidableEq, Repr

structure RouteLine where
  itemId : Int
  qty : Int
deriving DecidableEq, Repr

structure StoreWarehouseBinding where
  platform : String
  storeCode : String
  warehouseId : Int
  isTop : Bool
  priority : Int
deriving DecidableEq, Repr

structure RoutingResult where
  platform : String
  storeCode : String
  orderId : OrderIdent
  warehouseId : Int
  reason : String
  consideredWarehouses : List Int
deriving DecidableEq, Repr

structure InsufficientLine where
  itemId : Int
  need : Int
  available : Int
deriving DecidableEq, Repr

inductive CheckStatus where
  | ok
  | blocked
deriving DecidableEq, Repr

structure FulfillmentCheckResult where
  status : CheckStatus
  warehouseId : Int
  insufficient : List InsufficientLine := []
deriving DecidableEq, Repr

inductive RoutingError where
  | noWarehouseConfigured (message : String)
  | noWarehouseCanFulfill (message : String)
deriving DecidableEq, Repr

/-- `get_available`: platform, store, warehouse and item. -/
abbrev AvailabilityProvider := String → String → Int → Int → Int

variable {provider : AvailabilityProvider} {ctx : OrderContext}

/-! ## Availability, read once -/

/-- `avail_cache`: what was read, by warehouse and item. -/
abbrev AvailCache := List ((Int × Int) × Int)

/-- `_get_avail`: below zero counts as nothing. -/
def getAvail (provider : AvailabilityProvider) (ctx : OrderContext) (cache : AvailCache)
    (wh item : Int) : Int × AvailCache :=
  match cache.find? fun e => e.1 = (wh, item) with
  | some e => (e.2, cache)
  | none =>
      let v := provider ctx.platform ctx.storeCode wh item
      let v := if v < 0 then 0 else v
      (v, ((wh, item), v) :: cache)

/-- What can be sold of an item in a warehouse. -/
def available (provider : AvailabilityProvider) (ctx : OrderContext) (wh item : Int) : Int :=
  max (provider ctx.platform ctx.storeCode wh item) 0

/-- Every entry of the cache is what the provider answers. -/
def CacheTrue (provider : AvailabilityProvider) (ctx : OrderContext) (cache : AvailCache) : Prop :=
  ∀ e ∈ cache, e.2 = available provider ctx e.1.1 e.1.2

theorem CacheTrue.nil : CacheTrue provider ctx [] :=
  fun _ he => absurd he List.not_mem_nil

/-- A read answers what is available, from the cache or not. -/
theorem getAvail_spec {cache : AvailCache} (h : CacheTrue provider ctx cache) (wh item : Int) :
    (getAvail provider ctx cache wh item).1 = available provider ctx wh item ∧
      CacheTrue provider ctx (getAvail provider ctx cache wh item).2 := by
  unfold getAvail
  cases hfind : cache.find? fun e => e.1 = (wh, item) with
  | some e =>
      have hkey : e.1 = (wh, item) := by simpa using List.find?_some hfind
      refine ⟨?_, h⟩
      show e.2 = _
      rw [h e (List.mem_of_find?_eq_some hfind), hkey]
  | none =>
      have hread : (if provider ctx.platform ctx.storeCode wh item < 0 then 0
          else provider ctx.platform ctx.storeCode wh item) = available provider ctx wh item := by
        unfold available
        split <;> omega
      refine ⟨hread, ?_⟩
      intro e he
      rcases List.mem_cons.mp he with rfl | he
      · exact hread
      · exact h e he

/-! ## Routing -/

/-- `_can_fulfill` -/
def canFulfill (provider : AvailabilityProvider) (ctx : OrderContext) (wh : Int) :
    List RouteLine → AvailCache → Bool × AvailCache
  | [], cache => (true, cache)
  | line :: lines, cache =>
      if line.qty ≤ 0 then canFulfill provider ctx wh lines cache
      else
        let (avail, cache) := getAvail provider ctx cache wh line.itemId
        if avail < line.qty then (false, cache) else canFulfill provider ctx wh lines cache

/-- The bindings of one rank, tried in turn: the first warehouse that can
serve the lines, or none, with the warehouses considered so far. -/
def tryBindings (provider : AvailabilityProvider) (ctx : OrderContext) (lines : List RouteLine)
    (reason : String) :
    List StoreWarehouseBinding → List Int → AvailCache → Option RoutingResult × List Int × AvailCache
  | [], considered, cache => (none, considered, cache)
  | b :: rest, considered, cache =>
      let considered := considered ++ [b.warehouseId]
      match canFulfill provider ctx b.warehouseId lines cache with
      | (true, cache) =>
          (some
            { platform := ctx.platform
              storeCode := ctx.storeCode
              orderId := ctx.orderId
              warehouseId := b.warehouseId
              reason := reason
              consideredWarehouses := considered }, considered, cache)
      | (false, cache) => tryBindings provider ctx lines reason rest considered cache

/-- `_sort_key` -/
def StoreWarehouseBinding.sortKey (b : StoreWarehouseBinding) : Int ×ₗ Int :=
  toLex (b.priority, b.warehouseId)

/-- The bindings of the order's store. -/
def scopedBindings (ctx : OrderContext) (bindings : List StoreWarehouseBinding) :
    List StoreWarehouseBinding :=
  bindings.filter fun b => b.platform = ctx.platform ∧ b.storeCode = ctx.storeCode

/-- `route` -/
def route (provider : AvailabilityProvider) (ctx : OrderContext) (lines : List RouteLine)
    (bindings : List StoreWarehouseBinding) : Except RoutingError RoutingResult :=
  if bindings = [] then
    .error (.noWarehouseConfigured
      s!"No warehouse configured for platform={ctx.platform}, store_code={ctx.storeCode}")
  else
    let bound := scopedBindings ctx bindings
    if bound = [] then
      .error (.noWarehouseConfigured
        (s!"No warehouse configured for platform={ctx.platform}, " ++
          s!"store_code={ctx.storeCode} (after scoping)"))
    else
      let top := sortOn StoreWarehouseBinding.sortKey (bound.filter fun b => b.isTop)
      let backup := sortOn StoreWarehouseBinding.sortKey (bound.filter fun b => !b.isTop)
      match tryBindings provider ctx lines "top_warehouse_with_stock" top [] [] with
      | (some result, _) => .ok result
      | (none, considered, cache) =>
          match tryBindings provider ctx lines "backup_warehouse_with_stock" backup considered
            cache with
          | (some result, _) => .ok result
          | (none, considered, _) =>
              .error (.noWarehouseCanFulfill
                (s!"No warehouse can fulfill order={ctx.orderId.text} " ++
                  s!"for platform={ctx.platform}, store_code={ctx.storeCode}. " ++
                  s!"Considered warehouses={toString considered}"))

/-! ## The whole-order check -/

/-- The lines a warehouse has too little for. -/
def insufficientLines (provider : AvailabilityProvider) (ctx : OrderContext) (wid : Int) :
    List RouteLine → AvailCache → List InsufficientLine
  | [], _ => []
  | line :: lines, cache =>
      if line.qty ≤ 0 then insufficientLines provider ctx wid lines cache
      else
        let (avail, cache) := getAvail provider ctx cache wid line.itemId
        if line.qty > avail then
          ⟨line.itemId, line.qty, avail⟩ :: insufficientLines provider ctx wid lines cache
        else insufficientLines provider ctx wid lines cache

/-- `check_whole_order` -/
def checkWholeOrder (provider : AvailabilityProvider) (ctx : OrderContext) (wid : Int)
    (lines : List RouteLine) : FulfillmentCheckResult :=
  if wid ≤ 0 then { status := .blocked, warehouseId := wid }
  else
    let insufficient := insufficientLines provider ctx wid lines []
    if insufficient ≠ [] then
      { status := .blocked, warehouseId := wid, insufficient := insufficient }
    else { status := .ok, warehouseId := wid }

/-! ## What the two tests test -/

/-- Each line on its own is covered. -/
def CoversLines (provider : AvailabilityProvider) (ctx : OrderContext) (lines : List RouteLine)
    (wh : Int) : Prop :=
  ∀ line ∈ lines, 0 < line.qty → line.qty ≤ available provider ctx wh line.itemId

theorem canFulfill_spec (wh : Int) (lines : List RouteLine) {cache : AvailCache}
    (h : CacheTrue provider ctx cache) :
    ((canFulfill provider ctx wh lines cache).1 = true ↔ CoversLines provider ctx lines wh) ∧
      CacheTrue provider ctx (canFulfill provider ctx wh lines cache).2 := by
  induction lines generalizing cache with
  | nil => exact ⟨iff_of_true rfl (fun _ hl => absurd hl List.not_mem_nil), h⟩
  | cons line lines ih =>
      obtain ⟨havail, hcache⟩ := getAvail_spec h wh line.itemId
      unfold canFulfill CoversLines
      simp only [List.forall_mem_cons]
      split
      · -- a line that asks for nothing is passed over
        obtain ⟨hiff, hc⟩ := ih h
        refine ⟨hiff.trans ⟨fun hall => ⟨fun hpos => ?_, hall⟩, fun hall => hall.2⟩, hc⟩
        omega
      · rw [havail]
        split
        · refine ⟨iff_of_false Bool.false_ne_true fun hall => ?_, hcache⟩
          have := hall.1 (by omega)
          omega
        · obtain ⟨hiff, hc⟩ := ih hcache
          refine ⟨hiff.trans ⟨fun hall => ⟨fun _ => ?_, hall⟩, fun hall => hall.2⟩, hc⟩
          omega

theorem insufficientLines_eq_nil (wid : Int) (lines : List RouteLine) {cache : AvailCache}
    (h : CacheTrue provider ctx cache) :
    insufficientLines provider ctx wid lines cache = [] ↔ CoversLines provider ctx lines wid := by
  induction lines generalizing cache with
  | nil => exact iff_of_true rfl (fun _ hl => absurd hl List.not_mem_nil)
  | cons line lines ih =>
      obtain ⟨havail, hcache⟩ := getAvail_spec h wid line.itemId
      unfold insufficientLines CoversLines
      simp only [List.forall_mem_cons]
      split
      · refine (ih h).trans ⟨fun hall => ⟨fun hpos => ?_, hall⟩, fun hall => hall.2⟩
        omega
      · rw [havail]
        split
        · refine iff_of_false (List.cons_ne_nil _ _) fun hall => ?_
          have := hall.1 (by omega)
          omega
        · refine (ih hcache).trans ⟨fun hall => ⟨fun _ => ?_, hall⟩, fun hall => hall.2⟩
          omega

/-- The check passes a warehouse exactly as routing does, but for its id. -/
theorem checkWholeOrder_ok {wid : Int} {lines : List RouteLine} :
    (checkWholeOrder provider ctx wid lines).status = .ok ↔
      0 < wid ∧ CoversLines provider ctx lines wid := by
  have hlines := insufficientLines_eq_nil wid lines (@CacheTrue.nil provider ctx)
  unfold checkWholeOrder
  split
  · refine iff_of_false (by rintro ⟨⟩) fun h => ?_
    omega
  · dsimp only
    split
    · rename_i hne
      exact iff_of_false (by rintro ⟨⟩) fun h => hne (hlines.mpr h.2)
    · rename_i heq
      exact iff_of_true rfl ⟨by omega, hlines.mp (not_not.mp heq)⟩

/-! ## What is tried, in which order -/

/-- The bindings in the order they are tried. -/
def trialOrder (ctx : OrderContext) (bindings : List StoreWarehouseBinding) :
    List StoreWarehouseBinding :=
  sortOn StoreWarehouseBinding.sortKey ((scopedBindings ctx bindings).filter fun b => b.isTop) ++
    sortOn StoreWarehouseBinding.sortKey ((scopedBindings ctx bindings).filter fun b => !b.isTop)

theorem mem_trialOrder {bindings : List StoreWarehouseBinding} {b : StoreWarehouseBinding} :
    b ∈ trialOrder ctx bindings ↔ b ∈ scopedBindings ctx bindings := by
  simp only [trialOrder, List.mem_append, mem_sortOn, List.mem_filter, ← and_or_left]
  exact and_iff_left (by cases b.isTop <;> simp)

/-- Top bindings first, then priority, then the warehouse's id. -/
def StoreWarehouseBinding.Before (a b : StoreWarehouseBinding) : Prop :=
  (a.isTop = true ∧ b.isTop = false) ∨ (a.isTop = b.isTop ∧
    (a.priority < b.priority ∨ (a.priority = b.priority ∧ a.warehouseId < b.warehouseId)))

theorem StoreWarehouseBinding.sortKey_lt {a b : StoreWarehouseBinding} :
    a.sortKey < b.sortKey ↔
      a.priority < b.priority ∨ (a.priority = b.priority ∧ a.warehouseId < b.warehouseId) := by
  simp [sortKey, Prod.Lex.toLex_lt_toLex]

/-- Whatever is tried earlier does not stand behind. -/
theorem pairwise_trialOrder (ctx : OrderContext) (bindings : List StoreWarehouseBinding) :
    (trialOrder ctx bindings).Pairwise fun a b => ¬ b.Before a := by
  have hrank (r : Bool) : (sortOn StoreWarehouseBinding.sortKey
      ((scopedBindings ctx bindings).filter fun b => b.isTop = r)).Pairwise
        fun a b => ¬ b.Before a := by
    refine (pairwise_sortOn _ _).imp_of_mem fun {a b} ha hb hle hbefore => ?_
    have hra : a.isTop = r := by simpa using (List.mem_filter.mp (mem_sortOn.mp ha)).2
    have hrb : b.isTop = r := by simpa using (List.mem_filter.mp (mem_sortOn.mp hb)).2
    rcases hbefore with ⟨htop, hback⟩ | ⟨_, hkey⟩
    · rw [hra] at hback
      rw [hrb, hback] at htop
      cases htop
    · exact absurd (StoreWarehouseBinding.sortKey_lt.mpr hkey) (not_lt.mpr hle)
  refine List.pairwise_append.mpr ⟨?_, ?_, ?_⟩
  · simpa using hrank true
  · simpa using hrank false
  · intro a ha b hb hbefore
    have htop : a.isTop = true := by simpa using (List.mem_filter.mp (mem_sortOn.mp ha)).2
    have hback : b.isTop = false := by simpa using (List.mem_filter.mp (mem_sortOn.mp hb)).2
    rcases hbefore with ⟨h, _⟩ | ⟨h, _⟩
    · rw [hback] at h
      cases h
    · rw [hback, htop] at h
      cases h

/-- One rank tried: none of it covers the lines, or the first that does. -/
theorem tryBindings_spec (lines : List RouteLine) (reason : String)
    (bs : List StoreWarehouseBinding) (considered : List Int) {cache : AvailCache}
    (h : CacheTrue provider ctx cache) :
    (∃ pre b post, bs = pre ++ b :: post ∧ CoversLines provider ctx lines b.warehouseId ∧
        (∀ c ∈ pre, ¬ CoversLines provider ctx lines c.warehouseId) ∧
        (tryBindings provider ctx lines reason bs considered cache).1 =
          some ⟨ctx.platform, ctx.storeCode, ctx.orderId, b.warehouseId, reason,
            considered ++ (pre ++ [b]).map StoreWarehouseBinding.warehouseId⟩) ∨
      ((∀ c ∈ bs, ¬ CoversLines provider ctx lines c.warehouseId) ∧
        ∃ cache', CacheTrue provider ctx cache' ∧
          tryBindings provider ctx lines reason bs considered cache =
            (none, considered ++ bs.map StoreWarehouseBinding.warehouseId, cache')) := by
  induction bs generalizing considered cache with
  | nil =>
      refine .inr ⟨fun _ hc => absurd hc List.not_mem_nil, cache, h, ?_⟩
      simp [tryBindings]
  | cons b rest ih =>
      obtain ⟨hfit, hcache⟩ := canFulfill_spec b.warehouseId lines h
      unfold tryBindings
      rcases hrun : canFulfill provider ctx b.warehouseId lines cache with ⟨fits, cache₁⟩
      rw [hrun] at hfit hcache
      dsimp only at hfit hcache
      cases fits with
      | true => exact .inl ⟨[], b, rest, rfl, hfit.mp rfl, fun _ hc => absurd hc List.not_mem_nil, rfl⟩
      | false =>
          have hno : ¬ CoversLines provider ctx lines b.warehouseId := fun hc =>
            Bool.false_ne_true (hfit.mpr hc)
          rcases ih (considered ++ [b.warehouseId]) hcache with
            ⟨pre, c, post, hsplit, hc, hpre, hresult⟩ | ⟨hnone, cache', hc', hresult⟩
          · refine .inl ⟨b :: pre, c, post, by rw [hsplit]; rfl, hc, ?_, ?_⟩
            · exact List.forall_mem_cons.mpr ⟨hno, hpre⟩
            · simpa using hresult
          · refine .inr ⟨List.forall_mem_cons.mpr ⟨hno, hnone⟩, cache', hc', ?_⟩
            simpa using hresult

/-- **What routing answers.** The first binding tried whose warehouse covers
each line, or an error when there is none. -/
theorem route_spec (lines : List RouteLine) (bindings : List StoreWarehouseBinding) :
    (∃ pre b post r, trialOrder ctx bindings = pre ++ b :: post ∧
        CoversLines provider ctx lines b.warehouseId ∧
        (∀ c ∈ pre, ¬ CoversLines provider ctx lines c.warehouseId) ∧
        route provider ctx lines bindings = .ok r ∧ r.warehouseId = b.warehouseId ∧
        r.consideredWarehouses = (pre ++ [b]).map StoreWarehouseBinding.warehouseId) ∨
      ((∀ c ∈ trialOrder ctx bindings, ¬ CoversLines provider ctx lines c.warehouseId) ∧
        ∃ e, route provider ctx lines bindings = .error e) := by
  unfold route
  split
  · rename_i hnil
    subst hnil
    exact .inr ⟨fun _ hc => absurd hc List.not_mem_nil, _, rfl⟩
  · dsimp only
    split
    · rename_i hscoped
      refine .inr ⟨fun c hc => ?_, _, rfl⟩
      rw [mem_trialOrder, hscoped] at hc
      exact absurd hc List.not_mem_nil
    · unfold trialOrder
      generalize hT : sortOn StoreWarehouseBinding.sortKey
        ((scopedBindings ctx bindings).filter fun b => b.isTop) = top
      generalize hB : sortOn StoreWarehouseBinding.sortKey
        ((scopedBindings ctx bindings).filter fun b => !b.isTop) = backup
      rcases tryBindings_spec lines "top_warehouse_with_stock" top []
          (@CacheTrue.nil provider ctx) with
        ⟨pre, b, post, hsplit, hb, hpre, hresult⟩ | ⟨hnone, cache, hc, hresult⟩
      · generalize htry : tryBindings provider ctx lines "top_warehouse_with_stock" top [] [] = out
        rw [htry] at hresult
        obtain ⟨found, more⟩ := out
        subst hresult
        exact .inl ⟨pre, b, post ++ backup, _, by simp [hsplit], hb, hpre, rfl, rfl, by simp⟩
      · rw [hresult]
        dsimp only
        rcases tryBindings_spec lines "backup_warehouse_with_stock" backup
            ([] ++ top.map StoreWarehouseBinding.warehouseId) hc with
          ⟨pre, b, post, hsplit, hb, hpre, hresult'⟩ | ⟨hnone', cache', hc', hresult'⟩
        · generalize htry : tryBindings provider ctx lines "backup_warehouse_with_stock" backup
            ([] ++ top.map StoreWarehouseBinding.warehouseId) cache = out
          rw [htry] at hresult'
          obtain ⟨found, more⟩ := out
          subst hresult'
          refine .inl ⟨top ++ pre, b, post, _, by simp [hsplit], hb, ?_, rfl, rfl, by simp⟩
          intro c hc
          rcases List.mem_append.mp hc with hc | hc
          · exact hnone c hc
          · exact hpre c hc
        · rw [hresult']
          refine .inr ⟨fun c hc => ?_, _, rfl⟩
          rcases List.mem_append.mp hc with hc | hc
          · exact hnone c hc
          · exact hnone' c hc

end WmsDu
