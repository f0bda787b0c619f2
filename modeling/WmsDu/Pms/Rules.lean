import WmsDu.Pms.Writes

/-!
# The statements of the item tables under interference

For each statement that writes: what it has found when it succeeds, and what
it then adds to the log.
-/

namespace WmsDu

open Txn

variable {n : Nat}

/-! ## Constraints -/

private theorem passed {c : Prop} [Decidable c] {s : String} {x : Option String}
    (h : (if c then some s else x) = none) : ¬ c ∧ x = none := by
  split at h
  · cases h
  · exact ⟨‹_›, h⟩

/-- What the constraints of `item_sku_codes` promise of a row beside the others. -/
structure CodeFits (db : PmsDb) (c : SkuCodeRow) : Prop where
  active : c.isPrimary = true → c.isActive = true
  lasting : c.isPrimary = true → c.effectiveTo = none
  text : ∀ d ∈ db.skuCodes.rows, d.code = c.code → d.id = c.id
  one : c.isPrimary = true → ∀ d ∈ db.skuCodes.rows, d.itemId = c.itemId → d.isPrimary = true →
    d.id = c.id

theorem codeFits_of_conflict {db : PmsDb} {c : SkuCodeRow} (h : codeConflict db c = none) :
    CodeFits db c := by
  obtain ⟨-, h⟩ := passed h
  obtain ⟨hactive, h⟩ := passed h
  obtain ⟨hlasting, h⟩ := passed h
  obtain ⟨-, h⟩ := passed h
  obtain ⟨htext, h⟩ := passed h
  obtain ⟨hone, -⟩ := passed h
  refine ⟨?_, ?_, ?_, ?_⟩
  · intro hp
    by_contra hnot
    exact hactive ⟨hp, hnot⟩
  · intro hp
    by_contra hnot
    exact hlasting ⟨hp, Option.isSome_iff_ne_none.mpr hnot⟩
  · intro d hd heq
    by_contra hid
    exact htext ⟨d, hd, hid, heq⟩
  · intro hp d hd hitem hflag
    by_contra hid
    exact hone ⟨hp, d, hd, hid, hitem, hflag⟩

/-- What the constraints of `item_barcodes` promise of a row beside the others. -/
structure BarcodeFits (db : PmsDb) (b : BarcodeRow) : Prop where
  active : b.isPrimary = true → b.active = true
  text : ∀ c ∈ db.barcodes.rows, c.barcode = b.barcode → c.id = b.id
  one : b.isPrimary = true → ∀ c ∈ db.barcodes.rows, c.itemId = b.itemId → c.isPrimary = true →
    c.id = b.id
  pair : ∃ u ∈ db.uoms.rows, u.id = b.itemUomId ∧ u.itemId = b.itemId

theorem barcodeFits_of_conflict {db : PmsDb} {b : BarcodeRow} (h : barcodeConflict db b = none) :
    BarcodeFits db b := by
  obtain ⟨hactive, h⟩ := passed h
  obtain ⟨htext, h⟩ := passed h
  obtain ⟨hone, h⟩ := passed h
  obtain ⟨hpair, -⟩ := passed h
  refine ⟨?_, ?_, ?_, not_not.mp hpair⟩
  · intro hp
    by_contra hnot
    exact hactive ⟨hp, hnot⟩
  · intro c hc heq
    by_contra hid
    exact htext ⟨c, hc, hid, heq⟩
  · intro hp c hc hitem hflag
    by_contra hid
    exact hone ⟨hp, c, hc, hid, hitem, hflag⟩

/-! ## Statements -/

section Statements
variable {fit : PmsDb → PmsRedo n → Prop} {rely : List (PmsLock n) → PmsDb → PmsDb → Prop}
  {P Q : PmsDb → List (PmsRedo n) → Prop}

theorem meets_insertItem {m : ItemMaster} (hP : Steady (E := PmsErr) (.fitting fit rely) P)
    (hQ : Steady (E := PmsErr) (.fitting fit rely) Q)
    (h : ∀ w log, P w log → ¬ (redo log w).items.HasKey m.id → fit (redo log w) (.itemInsert m) →
      Q w (log ++ [.itemInsert m])) :
    Meets (.fitting fit rely) (Holds P) (insertItem m) fun _ => Holds Q := by
  refine Meets.write hP (fun _ => hQ) fun w log a us hw hfit hs => ?_
  split at hs
  · cases hs
  · rename_i hnew
    obtain ⟨-, rfl⟩ := checked_eq_ok.mp hs
    exact h w log hw (fun hk => hnew (.inr hk)) (hfit _ (List.mem_singleton_self _))

theorem meets_updateItem {old new : ItemMaster}
    (hP : Steady (E := PmsErr) (.fitting fit rely) P)
    (hQ : Steady (E := PmsErr) (.fitting fit rely) Q)
    (h : ∀ w log m, P w log → (redo log w).items.lookup old.id = some m →
      fit (redo log w) (.itemUpdate old new) → Q w (log ++ [.itemUpdate old new])) :
    Meets (.fitting fit rely) (Holds P) (updateItem old new) fun _ => Holds Q := by
  refine Meets.write hP (fun _ => hQ) fun w log a us hw hfit hs => ?_
  split at hs
  · cases hs
  · rename_i m hm
    obtain ⟨-, rfl⟩ := checked_eq_ok.mp hs
    exact h w log m hw hm (hfit _ (List.mem_singleton_self _))

theorem meets_insertCode {c : SkuCodeRow} (hP : Steady (E := PmsErr) (.fitting fit rely) P)
    (hQ : Steady (E := PmsErr) (.fitting fit rely) Q)
    (h : ∀ w log, P w log → ¬ (redo log w).skuCodes.HasKey c.id →
      (redo log w).items.HasKey c.itemId → CodeFits (redo log w) c →
      fit (redo log w) (.codeInsert c) → Q w (log ++ [.codeInsert c])) :
    Meets (.fitting fit rely) (Holds P) (insertCode c) fun _ => Holds Q := by
  refine Meets.write hP (fun _ => hQ) fun w log a us hw hfit hs => ?_
  split at hs
  · cases hs
  · rename_i hnew
    split at hs
    · cases hs
    · rename_i hitem
      obtain ⟨hconflict, rfl⟩ := checked_eq_ok.mp hs
      exact h w log hw (fun hk => hnew (.inr hk)) (not_not.mp hitem)
        (codeFits_of_conflict hconflict) (hfit _ (List.mem_singleton_self _))

theorem meets_updateCode {old new : SkuCodeRow}
    (hP : Steady (E := PmsErr) (.fitting fit rely) P)
    (hQ : Steady (E := PmsErr) (.fitting fit rely) Q)
    (h : ∀ w log c, P w log → (redo log w).skuCodes.lookup old.id = some c →
      CodeFits (redo log w) (old.write new c) → fit (redo log w) (.codeUpdate old new) →
      Q w (log ++ [.codeUpdate old new])) :
    Meets (.fitting fit rely) (Holds P) (updateCode old new) fun _ => Holds Q := by
  refine Meets.write hP (fun _ => hQ) fun w log a us hw hfit hs => ?_
  split at hs
  · cases hs
  · rename_i c hc
    obtain ⟨hconflict, rfl⟩ := checked_eq_ok.mp hs
    exact h w log c hw hc (codeFits_of_conflict hconflict) (hfit _ (List.mem_singleton_self _))

end Statements

end WmsDu
