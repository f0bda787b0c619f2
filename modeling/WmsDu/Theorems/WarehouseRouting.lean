import Mathlib
import WmsDu.Outbound.WarehouseRouter

/-!
# Routing serves what the order needs

Both tests look at one line at a time. An item on two lines can pass them in a
warehouse that has enough for each line and not for both, so routing meets its
purpose exactly where the first warehouse that covers the lines one by one
also covers each item as a whole.
-/

namespace WmsDu

variable {provider : AvailabilityProvider} {ctx : OrderContext} {lines : List RouteLine}
  {bindings : List StoreWarehouseBinding}

/-- What the lines ask for of an item, all together. -/
def itemNeed (lines : List RouteLine) (item : Int) : Int :=
  ((lines.filter fun l => l.itemId = item ∧ 0 < l.qty).map RouteLine.qty).sum

/-- A warehouse has enough of every item. -/
def Suffices (provider : AvailabilityProvider) (ctx : OrderContext) (lines : List RouteLine)
    (wh : Int) : Prop :=
  ∀ item, itemNeed lines item ≤ available provider ctx wh item

/-- A single line asks for no more than all lines of its item. -/
theorem le_itemNeed {line : RouteLine} (h : line ∈ lines) (hpos : 0 < line.qty) :
    line.qty ≤ itemNeed lines line.itemId := by
  refine List.single_le_sum (fun q hq => ?_) _ ?_
  · obtain ⟨l, hl, rfl⟩ := List.mem_map.mp hq
    have := (List.mem_filter.mp hl).2
    simp only [decide_eq_true_eq] at this
    exact this.2.le
  · exact List.mem_map_of_mem (List.mem_filter.mpr ⟨h, by simp [hpos]⟩)

theorem Suffices.coversLines {wh : Int} (h : Suffices provider ctx lines wh) :
    CoversLines provider ctx lines wh :=
  fun line hline hpos => (le_itemNeed hline hpos).trans (h line.itemId)

/-- Routing and the whole-order check do what they are for: a warehouse is
returned when one suffices, the first that does, and the check tells it from
those tried before. -/
structure RoutedRight (provider : AvailabilityProvider) (ctx : OrderContext)
    (lines : List RouteLine) (bindings : List StoreWarehouseBinding) : Prop where
  returns : (∃ r, route provider ctx lines bindings = .ok r) ↔
    ∃ b ∈ scopedBindings ctx bindings, Suffices provider ctx lines b.warehouseId
  first : ∀ r, route provider ctx lines bindings = .ok r →
    ∃ b ∈ scopedBindings ctx bindings, r.warehouseId = b.warehouseId ∧
      Suffices provider ctx lines b.warehouseId ∧
      ∀ c ∈ scopedBindings ctx bindings, c.Before b → ¬ Suffices provider ctx lines c.warehouseId
  checked : ∀ r, route provider ctx lines bindings = .ok r →
    (checkWholeOrder provider ctx r.warehouseId lines).status = .ok ∧
      ∀ wh ∈ r.consideredWarehouses.dropLast,
        (checkWholeOrder provider ctx wh lines).status = .blocked

/-- The first warehouse that covers the lines one by one suffices, and its id
can be one. -/
def FirstCoverSuffices (provider : AvailabilityProvider) (ctx : OrderContext)
    (lines : List RouteLine) (bindings : List StoreWarehouseBinding) : Prop :=
  ∀ b ∈ scopedBindings ctx bindings, CoversLines provider ctx lines b.warehouseId →
    (∀ c ∈ scopedBindings ctx bindings, c.Before b →
      ¬ CoversLines provider ctx lines c.warehouseId) →
    0 < b.warehouseId ∧ Suffices provider ctx lines b.warehouseId

/-- A binding that neither stands before another nor behind it has its
warehouse. -/
theorem StoreWarehouseBinding.warehouseId_eq {a b : StoreWarehouseBinding} (hab : ¬ a.Before b)
    (hba : ¬ b.Before a) : a.warehouseId = b.warehouseId := by
  unfold Before at hab hba
  rcases a with ⟨_, _, wa, ta, pa⟩
  rcases b with ⟨_, _, wb, tb, pb⟩
  cases ta <;> cases tb <;> simp at hab hba ⊢
  all_goals omega

/-- The binding routing picks covers the lines, and none before it does. -/
theorem route_first {pre post : List StoreWarehouseBinding} {b : StoreWarehouseBinding}
    (hsplit : trialOrder ctx bindings = pre ++ b :: post)
    (hpre : ∀ c ∈ pre, ¬ CoversLines provider ctx lines c.warehouseId) :
    ∀ c ∈ scopedBindings ctx bindings, c.Before b →
      ¬ CoversLines provider ctx lines c.warehouseId := by
  intro c hc hbefore
  have hpairs := pairwise_trialOrder ctx bindings
  rw [hsplit] at hpairs
  have hmem : c ∈ pre ++ b :: post := hsplit ▸ mem_trialOrder.mpr hc
  rcases List.mem_append.mp hmem with hc | hc
  · exact hpre c hc
  rcases List.mem_cons.mp hc with rfl | hc
  · -- nothing stands before itself
    rcases hbefore with ⟨h, h'⟩ | ⟨_, h | ⟨_, h⟩⟩
    · rw [h'] at h
      cases h
    · exact absurd h (lt_irrefl _)
    · exact absurd h (lt_irrefl _)
  · have hlater := (List.pairwise_append.mp hpairs).2.1
    exact absurd hbefore ((List.pairwise_cons.mp hlater).1 c hc)

/-- **Routing.** It serves every order from the first warehouse that has
enough exactly when the first that covers the lines one by one suffices. -/
theorem warehouse_routing :
    RoutedRight provider ctx lines bindings ↔ FirstCoverSuffices provider ctx lines bindings := by
  have hchecked {wh : Int} (h : ¬ CoversLines provider ctx lines wh) :
      (checkWholeOrder provider ctx wh lines).status = .blocked := by
    cases hs : (checkWholeOrder provider ctx wh lines).status with
    | ok => exact absurd (checkWholeOrder_ok.mp hs).2 h
    | blocked => rfl
  rcases @route_spec provider ctx lines bindings with
    ⟨pre, b, post, r, hsplit, hb, hpre, hroute, hwh, hconsidered⟩ | ⟨hnone, e, herr⟩
  · have hbound : b ∈ scopedBindings ctx bindings := mem_trialOrder.mp (by simp [hsplit])
    have hfirst := route_first hsplit hpre
    constructor
    · intro h c hc hcover hcfirst
      -- the first cover is the warehouse that was returned
      have hsame : c.warehouseId = b.warehouseId :=
        StoreWarehouseBinding.warehouseId_eq (fun hlt => hfirst c hc hlt hcover)
          fun hlt => hcfirst b hbound hlt hb
      obtain ⟨hok, -⟩ := h.checked r hroute
      obtain ⟨d, -, hrd, hsuffices, -⟩ := h.first r hroute
      rw [hsame, ← hwh]
      exact ⟨(checkWholeOrder_ok.mp hok).1, hrd ▸ hsuffices⟩
    · intro h
      obtain ⟨hpos, hsuffices⟩ := h b hbound hb hfirst
      refine ⟨iff_of_true ⟨r, hroute⟩ ⟨b, hbound, hsuffices⟩, ?_, ?_⟩
      · intro r' hr'
        obtain rfl : r = r' := Except.ok.inj (hroute.symm.trans hr')
        exact ⟨b, hbound, hwh, hsuffices, fun c hc hlt hs => hfirst c hc hlt hs.coversLines⟩
      · intro r' hr'
        obtain rfl : r = r' := Except.ok.inj (hroute.symm.trans hr')
        rw [hwh]
        refine ⟨checkWholeOrder_ok.mpr ⟨hpos, hb⟩, fun wh htried => ?_⟩
        rw [hconsidered, List.map_append, List.map_singleton, List.dropLast_concat] at htried
        obtain ⟨c, hc, rfl⟩ := List.mem_map.mp htried
        exact hchecked (hpre c hc)
  · have hno : ∀ c ∈ scopedBindings ctx bindings, ¬ CoversLines provider ctx lines c.warehouseId :=
      fun c hc => hnone c (mem_trialOrder.mpr hc)
    have hnot {r : RoutingResult} : route provider ctx lines bindings ≠ .ok r := by
      rw [herr]
      rintro ⟨⟩
    refine iff_of_true ⟨?_, fun r hr => absurd hr hnot, fun r hr => absurd hr hnot⟩ ?_
    · refine iff_of_false (fun ⟨r, hr⟩ => hnot hr) fun ⟨c, hc, hs⟩ => hno c hc hs.coversLines
    · exact fun c hc hcover => absurd hcover (hno c hc)

/-- Five pieces, and an order of three and three: each line fits, the order
does not. -/
theorem warehouse_routing_not :
    ¬ RoutedRight (fun _ _ _ _ => 5) ⟨"PDD", "1", .str "UT-1"⟩ [⟨1, 3⟩, ⟨1, 3⟩]
      [⟨"PDD", "1", 1, true, 10⟩] := by
  intro h
  have hroute : ∃ r, route (fun _ _ _ _ => 5) ⟨"PDD", "1", .str "UT-1"⟩ [⟨1, 3⟩, ⟨1, 3⟩]
      [⟨"PDD", "1", 1, true, 10⟩] = .ok r :=
    ⟨⟨"PDD", "1", .str "UT-1", 1, "top_warehouse_with_stock", [1]⟩, by decide⟩
  obtain ⟨b, -, hs⟩ := h.returns.mp hroute
  have := hs 1
  simp [itemNeed, available] at this

end WmsDu
