import WmsDu.Oms.FactRuns

/-!
# What the resolver makes of one line

The lines it resolves and those it leaves are told line by line; only the map
is filled along the way, also by a line whose components raise later on.
-/

namespace WmsDu

/-! ## Components -/

/-- The items collected before a component raises. -/
def collectedItems (qty : Int) : List FskuComponent → List ExpandedItem
  | [] => []
  | c :: comps =>
      match decToIntQty c with
      | none => []
      | some cqty =>
          if qty * cqty ≤ 0 then collectedItems qty comps
          else ⟨c.itemId, cqty, qty * cqty, c.role⟩ :: collectedItems qty comps

/-- A component raises. -/
def Raises (comps : List FskuComponent) : Prop := ∃ c ∈ comps, decToIntQty c = none

instance decidableRaises (comps : List FskuComponent) : Decidable (Raises comps) :=
  inferInstanceAs (Decidable (∃ c ∈ comps, _))

theorem expandComponents_collected (qty : Int) (comps : List FskuComponent) (map : Tally Int)
    (expanded : List ExpandedItem) :
    (expandComponents qty comps map expanded).2 =
      (expanded ++ collectedItems qty comps, decide (Raises comps)) := by
  induction comps generalizing map expanded with
  | nil => simp [expandComponents, collectedItems, Raises]
  | cons c comps ih =>
      unfold expandComponents collectedItems
      cases hc : decToIntQty c with
      | none => simp [Raises, hc]
      | some cqty =>
          have hraises : Raises (c :: comps) ↔ Raises comps := by simp [Raises, hc]
          dsimp only
          split
          · rw [ih]
            simp only [hraises]
          · rw [ih]
            simp only [hraises, List.append_assoc, List.singleton_append]

/-- How much of an item was expanded. -/
def neededOf (itemId : Int) (items : List ExpandedItem) : Int :=
  sumOver (fun e : ExpandedItem => e.itemId = itemId) ExpandedItem.needQty items

theorem neededOf_collected {qty : Int} (hqty : 0 < qty) (itemId : Int) (comps : List FskuComponent) :
    neededOf itemId (collectedItems qty comps) = qty * componentNeed itemId comps := by
  induction comps with
  | nil => simp [collectedItems, componentNeed, neededOf]
  | cons c comps ih =>
      unfold collectedItems componentNeed
      cases hc : decToIntQty c with
      | none => simp [neededOf]
      | some cqty =>
          dsimp only
          by_cases hneed : qty * cqty ≤ 0
          · have hle : ¬ 0 < cqty := fun hpos => absurd (Int.mul_pos hqty hpos) (by omega)
            rw [if_pos hneed, if_neg (fun h => hle h.1), zero_add, ih]
          · have hpos : 0 < cqty := by
              by_contra hnot
              exact hneed (Int.mul_nonpos_of_nonneg_of_nonpos (by omega) (by omega))
            rw [if_neg hneed, neededOf, sumOver_cons]
            rw [neededOf] at ih
            rw [ih]
            by_cases hitem : c.itemId = itemId
            · rw [if_pos hitem, if_pos ⟨hpos, hitem⟩]
              ring
            · rw [if_neg hitem, if_neg (fun h => hitem h.2)]
              ring

theorem componentNeed_nonneg (itemId : Int) (comps : List FskuComponent) :
    0 ≤ componentNeed itemId comps := by
  induction comps with
  | nil => exact le_rfl
  | cons c comps ih =>
      unfold componentNeed
      split
      · exact le_rfl
      · split <;> omega

/-- The components looked at before one raises. -/
def beforeRaise (comps : List FskuComponent) : List FskuComponent :=
  comps.takeWhile fun c => (decToIntQty c).isSome

theorem decToIntQty_pos {c : FskuComponent} {q : Int} (h : decToIntQty c = some q) :
    0 < q ↔ 0 < c.qtyNum := by
  unfold decToIntQty at h
  split at h
  · rename_i hle
    cases h
    omega
  · rename_i hpos
    split at h
    · rename_i hdvd
      cases h
      have hden : (c.qtyDen : Int) ∣ c.qtyNum := Int.dvd_of_emod_eq_zero hdvd
      obtain ⟨k, hk⟩ := hden
      have hne : (c.qtyDen : Int) ≠ 0 := by
        intro hzero
        rw [hzero, zero_mul] at hk
        omega
      rw [hk, Int.mul_ediv_cancel_left k hne]
      have hdpos : (0 : Int) < c.qtyDen := by omega
      exact ⟨Int.mul_pos hdpos, fun h => Int.pos_of_mul_pos_right h hdpos⟩
    · cases h

/-- Nothing is needed of any item exactly if no component that was looked at
has a positive quantity. -/
theorem componentNeed_eq_zero {comps : List FskuComponent} :
    (∀ itemId, componentNeed itemId comps = 0) ↔ ∀ c ∈ beforeRaise comps, c.qtyNum ≤ 0 := by
  induction comps with
  | nil => simp [componentNeed, beforeRaise]
  | cons c comps ih =>
      unfold componentNeed beforeRaise
      cases hc : decToIntQty c with
      | none => simp [hc]
      | some q =>
          have hq := decToIntQty_pos hc
          rw [List.takeWhile_cons_of_pos (by simp [hc]), List.forall_mem_cons]
          dsimp only
          constructor
          · intro h
            have hrest : ∀ itemId, componentNeed itemId comps = 0 := fun itemId => by
              have hsum := h itemId
              have hnonneg := componentNeed_nonneg itemId comps
              split at hsum <;> omega
            refine ⟨?_, ih.mp hrest⟩
            by_contra hpos
            have hqpos : 0 < q := hq.mpr (by omega)
            have hsum := h c.itemId
            rw [if_pos ⟨hqpos, rfl⟩, hrest] at hsum
            omega
          · rintro ⟨hle, hrest⟩ itemId
            rw [ih.mpr hrest, if_neg (fun h => absurd (hq.mp h.1) (by omega))]
            rfl

/-! ## Lines -/

/-- What one line comes to: its expansion, or why it is left. -/
def resolveOne (db : OmsDb) (platform : String) (storeCode : Option String)
    (line : PlatformLine) : UnresolvedLine ⊕ ResolvedLine :=
  let code := codeOf line.filledCode
  let qty := toIntPos line.qty
  if code = "" then .inl ⟨code, qty, none, .missingFilledCode⟩
  else
    match resolveFsku db platform storeCode code with
    | .error reason => .inl ⟨code, qty, none, reason⟩
    | .ok fskuId =>
        let comps := loadFskuComponents db fskuId
        if comps = [] then .inl ⟨code, qty, some fskuId, .fskuNotExecutable⟩
        else if Raises comps then .inl ⟨code, qty, some fskuId, .componentQtyInvalid⟩
        else .inr ⟨code, qty, fskuId, collectedItems qty comps⟩

/-- One round puts the line on one of the two lists. -/
theorem resolvePlatformLine_lists (db : OmsDb) (platform : String) (storeCode : Option String)
    (acc : Resolution) (line : PlatformLine) :
    (resolvePlatformLine db platform storeCode acc line).resolved =
        acc.resolved ++ (resolveOne db platform storeCode line).getRight?.toList ∧
      (resolvePlatformLine db platform storeCode acc line).unresolved =
        acc.unresolved ++ (resolveOne db platform storeCode line).getLeft?.toList := by
  unfold resolvePlatformLine resolveOne
  dsimp only
  by_cases hcode : codeOf line.filledCode = ""
  · simp [hcode]
  rw [if_neg hcode, if_neg hcode]
  cases resolveFsku db platform storeCode (codeOf line.filledCode) with
  | error reason => simp
  | ok fskuId =>
      cases hcomps : loadFskuComponents db fskuId with
      | nil => simp [hcomps]
      | cons c comps =>
          have hexp := expandComponents_collected (toIntPos line.qty) (c :: comps)
            acc.itemQtyMap []
          dsimp only
          rw [hcomps, if_neg (List.cons_ne_nil _ _)]
          dsimp only
          rcases hpass : expandComponents (toIntPos line.qty) (c :: comps) acc.itemQtyMap [] with
            ⟨map, expanded, raised⟩
          rw [hpass] at hexp
          obtain ⟨hitems, hraised⟩ := Prod.mk.inj hexp
          by_cases hraises : Raises (c :: comps)
          · rw [decide_eq_true hraises] at hraised
            rw [if_pos hraises, hraised]
            simp
          · rw [decide_eq_false hraises] at hraised
            rw [if_neg hraises, hraised, hitems]
            simp

/-- **The two lists, line by line.** -/
theorem resolve_lists (db : OmsDb) (platform : String) (storeId : Int)
    (lines : List PlatformLine) :
    let plat := normPlatform platform
    let one := resolveOne db plat (loadStoreCodeByStoreId db plat storeId)
    (resolvePlatformLinesToItems db platform storeId lines).resolved =
        lines.filterMap (fun l => (one l).getRight?) ∧
      (resolvePlatformLinesToItems db platform storeId lines).unresolved =
        lines.filterMap (fun l => (one l).getLeft?) := by
  intro plat one
  have hfold : ∀ (lines : List PlatformLine) (acc : Resolution),
      (lines.foldl (resolvePlatformLine db plat (loadStoreCodeByStoreId db plat storeId))
          acc).resolved = acc.resolved ++ lines.filterMap (fun l => (one l).getRight?) ∧
        (lines.foldl (resolvePlatformLine db plat (loadStoreCodeByStoreId db plat storeId))
          acc).unresolved = acc.unresolved ++ lines.filterMap (fun l => (one l).getLeft?) := by
    intro lines
    induction lines with
    | nil => simp
    | cons line lines ih =>
        intro acc
        obtain ⟨hres, hun⟩ := resolvePlatformLine_lists db plat
          (loadStoreCodeByStoreId db plat storeId) acc line
        obtain ⟨hres', hun'⟩ := ih (resolvePlatformLine db plat
          (loadStoreCodeByStoreId db plat storeId) acc line)
        rw [List.foldl_cons, hres', hun', hres, hun]
        have hone : resolveOne db plat (loadStoreCodeByStoreId db plat storeId) line = one line :=
          rfl
        rw [hone]
        cases hline : one line with
        | inl u => simp [hline]
        | inr r => simp [hline]
  have hall := hfold lines {}
  rw [List.nil_append, List.nil_append] at hall
  exact hall

end WmsDu
