import Mathlib.Algebra.BigOperators.Group.Finset.Piecewise
import WmsDu.Oms.PlatformFacts

/-!
# Runs of the fact writer and the resolver

The resolver is linear: what it makes of a list of lines depends only on how
much of each filled code the list names. What the fact writer leaves of a
payload is, code by code, the quantity of the last line.
-/

namespace WmsDu

open Txn

/-! ## Quantities by code -/

/-- How much of a code a list of lines names. -/
def codeQty (code : String) (lines : List PlatformLine) : Int :=
  sumOver (fun l : PlatformLine => codeOf l.filledCode = code) (fun l => toIntPos l.qty) lines

theorem codeQty_cons (code : String) (line : PlatformLine) (lines : List PlatformLine) :
    codeQty code (line :: lines) =
      (if codeOf line.filledCode = code then toIntPos line.qty else 0) + codeQty code lines :=
  sumOver_cons _ _

theorem toIntPos_pos (qty : Option Int) : 0 < toIntPos qty := by
  unfold toIntPos
  split <;> omega

/-- A sum over lines, weighted by their code, is a sum over codes. -/
theorem sum_weighted (u : String → Int) (codes : Finset String) :
    ∀ lines : List PlatformLine, (∀ l ∈ lines, codeOf l.filledCode ∈ codes) →
      (lines.map fun l => toIntPos l.qty * u (codeOf l.filledCode)).sum =
        codes.sum fun c => codeQty c lines * u c := by
  intro lines
  induction lines with
  | nil =>
      intro _
      simp [codeQty]
  | cons line lines ih =>
      intro hmem
      rw [List.map_cons, List.sum_cons, ih fun l hl => hmem l (List.mem_cons_of_mem _ hl)]
      simp only [codeQty_cons, add_mul, Finset.sum_add_distrib, ite_mul, zero_mul]
      rw [Finset.sum_ite_eq, if_pos (hmem line List.mem_cons_self)]

/-! ## The resolver -/

/-- What one piece of an FSKU needs of an item, up to the first component that
raises. -/
def componentNeed (itemId : Int) : List FskuComponent → Int
  | [] => 0
  | c :: comps =>
      match decToIntQty c with
      | none => 0
      | some cqty =>
          (if 0 < cqty ∧ c.itemId = itemId then cqty else 0) + componentNeed itemId comps

/-- What one piece of a filled code needs of an item. -/
def unitNeed (db : OmsDb) (platform : String) (storeCode : Option String) (itemId : Int)
    (code : String) : Int :=
  if code = "" then 0
  else
    match resolveFsku db platform storeCode code with
    | .error _ => 0
    | .ok fskuId => componentNeed itemId (loadFskuComponents db fskuId)

/-- Every entry of a tally is positive. -/
def AllPos (t : Tally Int) : Prop := ∀ e ∈ t.rows, 0 < e.2

theorem AllPos.add {t : Tally Int} (h : AllPos t) {k n : Int} (hn : 0 < n) :
    AllPos (t.add k n) := by
  intro e he
  unfold Tally.add at he
  split at he
  · obtain ⟨d, hd, rfl⟩ := (Table.mem_update _).mp he
    have hpos := h d hd
    split
    · exact Int.add_pos hpos hn
    · exact hpos
  · rcases Table.mem_of_mem_insert he with he | rfl
    · exact h e he
    · exact hn

theorem expandComponents_spec {qty : Int} (hqty : 0 < qty) (itemId : Int) :
    ∀ (comps : List FskuComponent) (map : Tally Int) (expanded : List ExpandedItem),
      (expandComponents qty comps map expanded).1.get itemId =
          map.get itemId + qty * componentNeed itemId comps ∧
        (AllPos map → AllPos (expandComponents qty comps map expanded).1) := by
  intro comps
  induction comps with
  | nil =>
      intro map expanded
      exact ⟨by simp [expandComponents, componentNeed], id⟩
  | cons c comps ih =>
      intro map expanded
      unfold expandComponents componentNeed
      cases hc : decToIntQty c with
      | none => exact ⟨by simp, id⟩
      | some cqty =>
          dsimp only
          by_cases hneed : qty * cqty ≤ 0
          · -- nothing is needed of this component
            have hle : ¬ 0 < cqty := fun hpos => absurd (Int.mul_pos hqty hpos) (by omega)
            rw [if_pos hneed, if_neg (fun h => hle h.1), zero_add]
            exact ih map expanded
          · have hpos : 0 < cqty := by
              by_contra hnot
              exact hneed (Int.mul_nonpos_of_nonneg_of_nonpos (by omega) (by omega))
            rw [if_neg hneed]
            obtain ⟨hget, hall⟩ := ih (map.add c.itemId (qty * cqty))
              (expanded ++ [⟨c.itemId, cqty, qty * cqty, c.role⟩])
            refine ⟨?_, fun hmap => hall (hmap.add (by omega))⟩
            rw [hget, Tally.get_add]
            by_cases hitem : c.itemId = itemId
            · rw [if_pos hitem, if_pos ⟨hpos, hitem⟩]
              ring
            · rw [if_neg hitem, if_neg (fun h => hitem h.2)]
              ring

theorem resolveLine_spec (db : OmsDb) (platform : String) (storeCode : Option String)
    (acc : Resolution) (line : PlatformLine) (itemId : Int) :
    (resolvePlatformLine db platform storeCode acc line).itemQtyMap.get itemId =
        acc.itemQtyMap.get itemId +
          toIntPos line.qty * unitNeed db platform storeCode itemId (codeOf line.filledCode) ∧
      (AllPos acc.itemQtyMap → AllPos (resolvePlatformLine db platform storeCode acc line).itemQtyMap) := by
  unfold resolvePlatformLine unitNeed
  dsimp only
  by_cases hcode : codeOf line.filledCode = ""
  · rw [if_pos hcode, if_pos hcode]
    exact ⟨by simp, id⟩
  rw [if_neg hcode, if_neg hcode]
  cases resolveFsku db platform storeCode (codeOf line.filledCode) with
  | error reason => exact ⟨by simp, id⟩
  | ok fskuId =>
      dsimp only
      have hspec := expandComponents_spec (toIntPos_pos line.qty) itemId
        (loadFskuComponents db fskuId) acc.itemQtyMap []
      cases hcomps : loadFskuComponents db fskuId with
      | nil => exact ⟨by simp [componentNeed], id⟩
      | cons c comps =>
          rw [hcomps] at hspec
          dsimp only
          rcases hexp : expandComponents (toIntPos line.qty) (c :: comps) acc.itemQtyMap [] with
            ⟨map, expanded, _ | _⟩
          · rw [hexp] at hspec
            exact hspec
          · rw [hexp] at hspec
            exact hspec

/-- **The resolver is linear.** -/
theorem get_resolve (db : OmsDb) (platform : String) (storeId : Int) (lines : List PlatformLine)
    (itemId : Int) :
    (resolvePlatformLinesToItems db platform storeId lines).itemQtyMap.get itemId =
        (lines.map fun l => toIntPos l.qty *
          unitNeed db (normPlatform platform)
            (loadStoreCodeByStoreId db (normPlatform platform) storeId) itemId
              (codeOf l.filledCode)).sum ∧
      AllPos (resolvePlatformLinesToItems db platform storeId lines).itemQtyMap := by
  have hfold : ∀ (lines : List PlatformLine) (acc : Resolution), AllPos acc.itemQtyMap →
      (lines.foldl (resolvePlatformLine db (normPlatform platform)
          (loadStoreCodeByStoreId db (normPlatform platform) storeId)) acc).itemQtyMap.get itemId =
        acc.itemQtyMap.get itemId + (lines.map fun l => toIntPos l.qty *
          unitNeed db (normPlatform platform)
            (loadStoreCodeByStoreId db (normPlatform platform) storeId) itemId
              (codeOf l.filledCode)).sum ∧
      AllPos (lines.foldl (resolvePlatformLine db (normPlatform platform)
          (loadStoreCodeByStoreId db (normPlatform platform) storeId)) acc).itemQtyMap := by
    intro lines
    induction lines with
    | nil =>
        intro acc hacc
        exact ⟨by simp, hacc⟩
    | cons line lines ih =>
        intro acc hacc
        obtain ⟨hget, hpos⟩ := resolveLine_spec db (normPlatform platform)
          (loadStoreCodeByStoreId db (normPlatform platform) storeId) acc line itemId
        obtain ⟨hrest, hall⟩ := ih _ (hpos hacc)
        rw [List.foldl_cons, List.map_cons, List.sum_cons]
        refine ⟨?_, hall⟩
        rw [hrest, hget, add_assoc]
  obtain ⟨hget, hall⟩ := hfold lines {} (fun e he => absurd he List.not_mem_nil)
  refine ⟨?_, hall⟩
  rw [resolvePlatformLinesToItems, hget]
  exact zero_add _

/-! ## The fact writer -/

private theorem toList_prefix (p s t : String) (h : p ++ s = p ++ t) : s = t := by
  have hl := congrArg String.toList h
  rw [String.toList_append, String.toList_append, List.append_right_inj] at hl
  exact String.toList_inj.mp hl

/-- The key of a line with a code is the code's, and no other line has it. -/
theorem lineKey_eq_iff {code : String} (hcode : code ≠ "") {filledCode : Option String}
    (lineNo : Int) : lineKey filledCode lineNo = s!"PSKU:{code}" ↔ codeOf filledCode = code := by
  unfold lineKey
  by_cases hblank : codeOf filledCode = ""
  · rw [if_pos hblank, hblank]
    refine iff_of_false ?_ (Ne.symm hcode)
    intro h
    have hl := congrArg String.toList h
    simp [toString] at hl
  · rw [if_neg hblank]
    constructor
    · intro h
      exact toList_prefix _ _ _ h
    · rintro rfl
      rfl

/-- The keys of a payload's facts, its lines numbered from `idx`. -/
def factKeys (o : FactOrder) : List PlatformLine → Nat → List FactKey
  | [], _ => []
  | line :: lines, idx => o.key line idx :: factKeys o lines (idx + 1)

theorem mem_factKeys_code {o : FactOrder} {code : String} (hcode : code ≠ "") :
    ∀ (lines : List PlatformLine) (idx : Nat),
      (⟨o.platform, o.storeCode, o.extOrderNo, s!"PSKU:{code}"⟩ : FactKey) ∈ factKeys o lines idx ↔
        ∃ m ∈ lines, codeOf m.filledCode = code := by
  intro lines
  induction lines with
  | nil =>
      intro idx
      simp [factKeys]
  | cons line lines ih =>
      intro idx
      rw [factKeys, List.mem_cons, ih, List.exists_mem_cons_iff, ← lineKey_eq_iff hcode (line.number idx)]
      simp only [FactOrder.key, FactKey.mk.injEq, true_and, eq_comm]

/-- A stored row of the order. -/
def FactsOf (platform : String) (storeId : Int) (extOrderNo : String) (r : PlatformOrderLine) :
    Prop :=
  r.key.platform = platform ∧ r.storeId = some storeId ∧ r.key.extOrderNo = extOrderNo

instance (platform : String) (storeId : Int) (extOrderNo : String) (r : PlatformOrderLine) :
    Decidable (FactsOf platform storeId extOrderNo r) := inferInstanceAs (Decidable (_ ∧ _ ∧ _))

/-- How much of a code the stored rows of an order hold, those with one of the
keys left out. -/
def leftoverQty (t : Table PlatformOrderLine.key) (platform : String) (storeId : Int)
    (extOrderNo : String) (keys : List FactKey) (code : String) : Int :=
  sumOver (fun r : PlatformOrderLine => (FactsOf platform storeId extOrderNo r ∧
    codeOf r.filledCode = code) ∧ r.key ∉ keys) (fun r => toIntPos (some r.qty)) t.rows

/-- The quantities of the lines of a code that a later line of the code
follows. -/
def repeatedQty (code : String) : List PlatformLine → Int
  | [] => 0
  | line :: lines =>
      (if codeOf line.filledCode = code ∧ ∃ m ∈ lines, codeOf m.filledCode = code then
        toIntPos line.qty else 0) + repeatedQty code lines

/-- The facts after the upserts of a payload. -/
def factsAfter (o : FactOrder) :
    List PlatformLine → Nat → Table PlatformOrderLine.key → Table PlatformOrderLine.key
  | [], _, t => t
  | line :: lines, idx, t => factsAfter o lines (idx + 1) (upsertFact t (o.row line idx))

theorem run_upsertFacts (o : FactOrder) :
    ∀ (lines : List PlatformLine) (idx : Nat) (db : OmsDb),
      upsertFacts o lines idx ⟨db, false⟩ =
        (.ok (), ⟨db.withFacts (factsAfter o lines idx db.platformOrderLines), false⟩) := by
  intro lines
  induction lines with
  | nil => intro idx db; rfl
  | cons line lines ih =>
      intro idx db
      rw [upsertFacts]
      refine (Sess.run_bind_of_ok (Sess.run_exec_of_ok rfl)).trans ?_
      exact ih (idx + 1) _

/-- An upserted fact replaces what the sum read at its key. -/
theorem sumOver_upsertFact {q : PlatformOrderLine → Prop} [DecidablePred q]
    {f : PlatformOrderLine → Int} {t : Table PlatformOrderLine.key} {row : PlatformOrderLine}
    (hq : ∀ n, q { row with lineNo := n } ↔ q row)
    (hf : ∀ n, f { row with lineNo := n } = f row) :
    sumOver q f (upsertFact t row).rows =
      sumOver (fun r => q r ∧ r.key ≠ row.key) f t.rows + if q row then f row else 0 := by
  unfold upsertFact
  split
  · rw [Table.sumOver_upsert]
    simp only [hq, hf]
  · rw [Table.sumOver_upsert]

theorem codeOf_orNone (filledCode : Option String) :
    codeOf (orNone (codeOf filledCode)) = codeOf filledCode := by
  unfold orNone
  split
  · rename_i h
    rw [h]
    decide
  · exact strip_strip _

theorem toIntPos_toIntPos (qty : Option Int) : toIntPos (some (toIntPos qty)) = toIntPos qty := by
  have hpos := toIntPos_pos qty
  unfold toIntPos at hpos ⊢
  simp only [Option.getD_some]
  exact if_pos hpos

/-- **What the fact writer keeps.** Code by code: what was not overwritten, and
of the payload all but the lines a later one follows. -/
theorem codeQty_factsAfter {o : FactOrder} {storeId : Int} (hstore : o.storeId = some storeId)
    {code : String} (hcode : code ≠ "") :
    ∀ (lines : List PlatformLine) (idx : Nat) (t : Table PlatformOrderLine.key),
      leftoverQty (factsAfter o lines idx t) o.platform storeId o.extOrderNo [] code +
          repeatedQty code lines =
        codeQty code lines +
          leftoverQty t o.platform storeId o.extOrderNo (factKeys o lines idx) code := by
  intro lines
  induction lines with
  | nil =>
      intro idx t
      simp [factsAfter, repeatedQty, codeQty, factKeys]
  | cons line lines ih =>
      intro idx t
      have hrest := ih (idx + 1) (upsertFact t (o.row line idx))
      have hrow : leftoverQty (upsertFact t (o.row line idx)) o.platform storeId o.extOrderNo
          (factKeys o lines (idx + 1)) code =
          leftoverQty t o.platform storeId o.extOrderNo (factKeys o (line :: lines) idx) code +
            if codeOf line.filledCode = code ∧ o.key line idx ∉ factKeys o lines (idx + 1) then
              toIntPos line.qty else 0 := by
        unfold leftoverQty
        rw [sumOver_upsertFact (fun _ => Iff.rfl) (fun _ => rfl)]
        congr 1
        · refine sumOver_congr ?_ fun _ _ _ => rfl
          intro r _
          rw [factKeys, List.mem_cons, not_or, and_assoc, and_comm (a := r.key ∉ _)]
          rfl
        · simp only [FactOrder.row, FactsOf, FactOrder.key, hstore, codeOf_orNone,
            toIntPos_toIntPos, true_and]
          congr
      rw [factsAfter, repeatedQty, codeQty_cons]
      by_cases hline : codeOf line.filledCode = code
      · have hkey : o.key line idx =
            ⟨o.platform, o.storeCode, o.extOrderNo, s!"PSKU:{code}"⟩ := by
          rw [FactOrder.key, (lineKey_eq_iff hcode _).mpr hline]
        have hmem : o.key line idx ∈ factKeys o lines (idx + 1) ↔
            ∃ m ∈ lines, codeOf m.filledCode = code := by
          rw [hkey]
          exact mem_factKeys_code hcode lines (idx + 1)
        by_cases hlater : ∃ m ∈ lines, codeOf m.filledCode = code
        · rw [if_neg (fun h => h.2 (hmem.mpr hlater))] at hrow
          rw [if_pos ⟨hline, hlater⟩, if_pos hline]
          omega
        · rw [if_pos ⟨hline, fun h => hlater (hmem.mp h)⟩] at hrow
          rw [if_neg (fun h => hlater h.2), if_pos hline]
          omega
      · rw [if_neg (fun h => hline h.1)] at hrow
        rw [if_neg (fun h => hline h.1), if_neg hline]
        omega

/-- What is loaded of a code is what the stored rows hold of it. -/
theorem codeQty_load (db : OmsDb) (platform : String) (storeId : Int) (extOrderNo code : String) :
    codeQty code (loadFactLinesForOrder db platform storeId extOrderNo) =
      leftoverQty db.platformOrderLines platform storeId extOrderNo [] code := by
  unfold codeQty loadFactLinesForOrder leftoverQty
  rw [sumOver_map, sumOver_perm (List.perm_insertionSort _ _), sumOver_filter]
  refine sumOver_congr ?_ ?_
  · intro r _
    have hcode : codeOf (r.filledCode.bind orNone) = codeOf r.filledCode := by
      cases hf : r.filledCode with
      | none => rfl
      | some c =>
          rw [Option.bind_some, orNone]
          split
          · rename_i hc
            rw [hc]
            rfl
          · rfl
    simp only [hcode, FactsOf, List.not_mem_nil, not_false_eq_true, and_true]
  · intro r _ _
    by_cases hq : r.qty = 0
    · rw [if_pos hq, hq]
      show toIntPos (some 1) = toIntPos (some 0)
      decide
    · rw [if_neg hq]

end WmsDu
