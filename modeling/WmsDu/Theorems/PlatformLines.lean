import WmsDu.Oms.Resolver

/-!
# Platform lines are not resolved all or nothing

A line is on one of the two lists, but a line that is left unresolved because
a component of its FSKU raises has already put the components before that one
into the map.
-/

namespace WmsDu

/-- The code and the quantity a line is told by. -/
def PlatformLine.told (line : PlatformLine) : String × Int :=
  (codeOf line.filledCode, toIntPos line.qty)

/-- Each line is on exactly one of the two lists, and the map is what the
resolved lines were expanded to. -/
structure Resolution.Accounts (r : Resolution) (lines : List PlatformLine) : Prop where
  lists : ∃ ok : PlatformLine → Bool,
    r.resolved.map (fun l => (l.filledCode, l.qty)) = (lines.filter ok).map PlatformLine.told ∧
      r.unresolved.map (fun l => (l.filledCode, l.qty)) =
        (lines.filter fun l => !ok l).map PlatformLine.told
  map : ∀ itemId, r.itemQtyMap.get itemId =
    neededOf itemId (r.resolved.flatMap ResolvedLine.expandedItems)

/-- If the components of the line's FSKU raise, none before the one that
raises has a positive quantity. -/
def PlatformLine.RaisesFirst (db : OmsDb) (platform : String) (storeCode : Option String)
    (line : PlatformLine) : Prop :=
  codeOf line.filledCode ≠ "" → ∀ fskuId,
    resolveFsku db platform storeCode (codeOf line.filledCode) = .ok fskuId →
      Raises (loadFskuComponents db fskuId) →
        ∀ c ∈ beforeRaise (loadFskuComponents db fskuId), c.qtyNum ≤ 0

/-! ## The two lists -/

theorem told_resolveOne (db : OmsDb) (platform : String) (storeCode : Option String)
    (line : PlatformLine) :
    (∀ u, resolveOne db platform storeCode line = .inl u →
        (u.filledCode, u.qty) = line.told) ∧
      ∀ r, resolveOne db platform storeCode line = .inr r →
        (r.filledCode, r.qty) = line.told := by
  unfold resolveOne PlatformLine.told
  dsimp only
  split
  · simp
  · split
    · simp
    · split
      · simp
      · split <;> simp

/-- The lists of any reading that tells each line by its code and quantity. -/
theorem lists_filterMap (one : PlatformLine → UnresolvedLine ⊕ ResolvedLine)
    (hone : ∀ line, (∀ u, one line = .inl u → (u.filledCode, u.qty) = line.told) ∧
      ∀ r, one line = .inr r → (r.filledCode, r.qty) = line.told)
    (lines : List PlatformLine) :
    (lines.filterMap (fun l => (one l).getRight?)).map (fun l => (l.filledCode, l.qty)) =
        (lines.filter fun l => (one l).isRight).map PlatformLine.told ∧
      (lines.filterMap (fun l => (one l).getLeft?)).map (fun l => (l.filledCode, l.qty)) =
        (lines.filter fun l => !(one l).isRight).map PlatformLine.told := by
  induction lines with
  | nil => exact ⟨rfl, rfl⟩
  | cons line lines ih =>
      obtain ⟨hleft, hright⟩ := hone line
      cases hline : one line with
      | inl u => simp [hline, ih.1, ih.2, hleft u hline]
      | inr r => simp [hline, ih.1, ih.2, hright r hline]

/-! ## The map -/

/-- What one line puts into the map for an item without being resolved. -/
def strayQty (db : OmsDb) (platform : String) (storeCode : Option String) (itemId : Int)
    (line : PlatformLine) : Int :=
  match resolveOne db platform storeCode line with
  | .inl _ => toIntPos line.qty * unitNeed db platform storeCode itemId (codeOf line.filledCode)
  | .inr _ => 0

theorem unitNeed_nonneg (db : OmsDb) (platform : String) (storeCode : Option String)
    (itemId : Int) (code : String) : 0 ≤ unitNeed db platform storeCode itemId code := by
  unfold unitNeed
  split
  · exact le_rfl
  · split
    · exact le_rfl
    · exact componentNeed_nonneg _ _

theorem strayQty_nonneg (db : OmsDb) (platform : String) (storeCode : Option String)
    (itemId : Int) (line : PlatformLine) : 0 ≤ strayQty db platform storeCode itemId line := by
  unfold strayQty
  split
  · exact Int.mul_nonneg (Int.le_of_lt (toIntPos_pos _)) (unitNeed_nonneg _ _ _ _ _)
  · exact le_rfl

/-- A resolved line puts exactly its expansion into the map. -/
theorem neededOf_resolveOne {db : OmsDb} {platform : String} {storeCode : Option String}
    {line : PlatformLine} {r : ResolvedLine}
    (h : resolveOne db platform storeCode line = .inr r) (itemId : Int) :
    neededOf itemId r.expandedItems =
      toIntPos line.qty * unitNeed db platform storeCode itemId (codeOf line.filledCode) := by
  unfold resolveOne at h
  dsimp only at h
  split at h
  · cases h
  · rename_i hcode
    split at h
    · cases h
    · rename_i fskuId hfsku
      have hneed : unitNeed db platform storeCode itemId (codeOf line.filledCode) =
          componentNeed itemId (loadFskuComponents db fskuId) := by
        unfold unitNeed
        rw [if_neg hcode, hfsku]
      rw [hneed]
      split at h
      · cases h
      · split at h
        · cases h
        · obtain rfl := Sum.inr.inj h
          exact neededOf_collected (toIntPos_pos _) itemId _

theorem neededOf_append (itemId : Int) (l l' : List ExpandedItem) :
    neededOf itemId (l ++ l') = neededOf itemId l + neededOf itemId l' := sumOver_append l l'

/-- The sum of what the lines need is what was expanded and what strayed. -/
theorem sum_unitNeed (db : OmsDb) (platform : String) (storeCode : Option String) (itemId : Int)
    (lines : List PlatformLine) :
    (lines.map fun l => toIntPos l.qty *
        unitNeed db platform storeCode itemId (codeOf l.filledCode)).sum =
      neededOf itemId ((lines.filterMap fun l =>
          (resolveOne db platform storeCode l).getRight?).flatMap ResolvedLine.expandedItems) +
        (lines.map (strayQty db platform storeCode itemId)).sum := by
  induction lines with
  | nil => rfl
  | cons line lines ih =>
      rw [List.map_cons, List.sum_cons, List.map_cons, List.sum_cons, ih]
      cases hline : resolveOne db platform storeCode line with
      | inl u =>
          have hstray : strayQty db platform storeCode itemId line = toIntPos line.qty *
              unitNeed db platform storeCode itemId (codeOf line.filledCode) := by
            simp only [strayQty, hline]
          rw [List.filterMap_cons_none (by rw [hline]; rfl), hstray]
          omega
      | inr r =>
          have hstray : strayQty db platform storeCode itemId line = 0 := by
            simp only [strayQty, hline]
          rw [List.filterMap_cons_some (by rw [hline]; rfl), List.flatMap_cons,
            neededOf_append, neededOf_resolveOne hline, hstray]
          omega

/-- A line leaves nothing stray exactly if it raises first. -/
theorem strayQty_eq_zero {db : OmsDb} {platform : String} {storeCode : Option String}
    {line : PlatformLine} :
    (∀ itemId, strayQty db platform storeCode itemId line = 0) ↔
      line.RaisesFirst db platform storeCode := by
  have hpos := toIntPos_pos line.qty
  unfold strayQty PlatformLine.RaisesFirst
  by_cases hcode : codeOf line.filledCode = ""
  · simp [resolveOne, unitNeed, hcode]
  cases hfsku : resolveFsku db platform storeCode (codeOf line.filledCode) with
  | error reason => simp [resolveOne, unitNeed, hcode, hfsku]
  | ok fskuId =>
      by_cases hcomps : loadFskuComponents db fskuId = []
      · simp [resolveOne, unitNeed, hcode, hfsku, hcomps, componentNeed, Raises]
      by_cases hraises : Raises (loadFskuComponents db fskuId)
      · rw [forall_congr' fun itemId => show _ ↔ componentNeed itemId
          (loadFskuComponents db fskuId) = 0 by
            simp only [resolveOne, unitNeed, if_neg hcode, hfsku, if_neg hcomps, if_pos hraises]
            exact ⟨fun h => (Int.mul_eq_zero.mp h).resolve_left (by omega),
              fun h => by rw [h, Int.mul_zero]⟩]
        rw [componentNeed_eq_zero]
        constructor
        · intro h _ id hid _
          obtain rfl := Except.ok.inj hid
          exact h
        · exact fun h => h hcode fskuId rfl hraises
      · refine iff_of_true (fun itemId => ?_) fun _ id hid hid' => ?_
        · simp only [resolveOne, if_neg hcode, hfsku, if_neg hcomps, if_neg hraises]
        · obtain rfl := Except.ok.inj hid
          exact absurd hid' hraises

/-- Amounts none of which is negative sum to zero only if all are. -/
private theorem sum_stray_eq_zero {f : PlatformLine → Int} (hf : ∀ l, 0 ≤ f l)
    (lines : List PlatformLine) :
    0 ≤ (lines.map f).sum ∧ ((lines.map f).sum = 0 ↔ ∀ l ∈ lines, f l = 0) := by
  induction lines with
  | nil => simp
  | cons line lines ih =>
      obtain ⟨hnonneg, hiff⟩ := ih
      rw [List.map_cons, List.sum_cons, List.forall_mem_cons, ← hiff]
      have hline := hf line
      omega

/-! ## The resolver -/

/-- **Platform line resolution.** For every list of lines and every bindings,
FSKUs and components: each line is on one of the lists and the map is what the
resolved lines were expanded to, exactly if every line whose components raise
raises before any component with a positive quantity. -/
theorem platform_lines (db : OmsDb) (platform : String) (storeId : Int)
    (lines : List PlatformLine) :
    let plat := normPlatform platform
    (resolvePlatformLinesToItems db platform storeId lines).Accounts lines ↔
      ∀ line ∈ lines, line.RaisesFirst db plat (loadStoreCodeByStoreId db plat storeId) := by
  intro plat
  obtain ⟨hres, hun⟩ := resolve_lists db platform storeId lines
  have hmap := fun itemId => (get_resolve db platform storeId lines itemId).1
  have hsplit := fun itemId =>
    sum_unitNeed db plat (loadStoreCodeByStoreId db plat storeId) itemId lines
  -- the map is accounted for exactly if nothing strays
  have hstray : (∀ itemId, (lines.map (strayQty db plat
      (loadStoreCodeByStoreId db plat storeId) itemId)).sum = 0) ↔
        ∀ line ∈ lines, line.RaisesFirst db plat (loadStoreCodeByStoreId db plat storeId) := by
    simp only [(sum_stray_eq_zero (strayQty_nonneg db plat _ _) lines).2, ← strayQty_eq_zero]
    exact ⟨fun h line hline itemId => h itemId line hline,
      fun h itemId line hline => h line hline itemId⟩
  rw [← hstray]
  constructor
  · intro h itemId
    have hneed := h.map itemId
    rw [hmap, hsplit, hres] at hneed
    exact Int.add_left_cancel (hneed.trans (add_zero _).symm)
  · intro h
    refine ⟨⟨fun l => (resolveOne db plat (loadStoreCodeByStoreId db plat storeId) l).isRight,
      ?_⟩, ?_⟩
    · rw [hres, hun]
      exact lists_filterMap _ (told_resolveOne db plat _) lines
    · intro itemId
      rw [hmap, hsplit, hres, h itemId, add_zero]

/-- A published FSKU of one piece of item 1 and half a piece of item 2. -/
def sampleHalfDb : OmsDb :=
  { wms := {}
    fskus := ⟨[⟨1, "A", .published⟩], by decide⟩
    fskuComponents := ⟨[⟨1, 1, 1, 1, 1, "primary"⟩, ⟨2, 1, 2, 1, 2, "gift"⟩], by decide⟩ }

/-- Its line is unresolved, and its first component is in the map. -/
theorem platform_lines_not :
    ¬ ∀ (db : OmsDb) (platform : String) (storeId : Int) (lines : List PlatformLine),
      (resolvePlatformLinesToItems db platform storeId lines).Accounts lines := by
  intro h
  have hmap := (h sampleHalfDb "PDD" 1 [⟨some "A", some 1, none, none, none⟩]).map 1
  revert hmap
  decide

end WmsDu
