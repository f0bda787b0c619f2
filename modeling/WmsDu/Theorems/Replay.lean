import WmsDu.Oms.FactRuns

/-!
# Replay against direct ingest

Direct ingest resolves the lines it was sent, replay the facts it stored. They
build the same order, whatever the codes are bound to, exactly when the facts
hold as much of every code as the payload does.
-/

namespace WmsDu

open Txn

/-- What the filled codes are bound to. -/
structure FskuCatalog where
  fskus : Table Fsku.id := .empty
  components : Table FskuComponent.id := .empty
  bindings : List MerchantCodeBinding := []

/-- The database with another catalog. -/
def OmsDb.withCatalog (db : OmsDb) (catalog : FskuCatalog) : OmsDb :=
  { db with
    fskus := catalog.fskus
    fskuComponents := catalog.components
    merchantCodeBindings := catalog.bindings }

/-- Two dictionaries with the same keys and values. -/
def SameMap (t u : Tally Int) : Prop := ∀ itemId, t.lookup itemId = u.lookup itemId

/-- A positive entry is there with its total. -/
theorem AllPos.lookup {t : Tally Int} (h : AllPos t) (itemId : Int) :
    t.lookup itemId = if 0 < t.get itemId then some (itemId, t.get itemId) else none := by
  cases hl : t.lookup itemId with
  | none =>
      rw [Tally.get_of_not_hasKey (Table.lookup_eq_none.mp hl), if_neg (by omega)]
  | some e =>
      obtain ⟨he, rfl⟩ := Table.lookup_eq_some.mp hl
      rw [Tally.get_of_mem he, if_pos (h e he)]

theorem sameMap_iff {t u : Tally Int} (ht : AllPos t) (hu : AllPos u) :
    SameMap t u ↔ ∀ itemId, t.get itemId = u.get itemId := by
  constructor
  · intro h itemId
    have hsame := h itemId
    cases hl : t.lookup itemId with
    | none =>
        rw [hl] at hsame
        rw [Tally.get_of_not_hasKey (Table.lookup_eq_none.mp hl),
          Tally.get_of_not_hasKey (Table.lookup_eq_none.mp hsame.symm)]
    | some e =>
        rw [hl] at hsame
        obtain ⟨he, rfl⟩ := Table.lookup_eq_some.mp hl
        have he' := (Table.lookup_eq_some.mp hsame.symm).1
        rw [Tally.get_of_mem he, Tally.get_of_mem he']
  · intro h itemId
    rw [ht.lookup, hu.lookup, h]

/-! ## Lines of one code -/

/-- The codes of two lists of lines. -/
def codesOf (lines lines' : List PlatformLine) : Finset String :=
  ((lines ++ lines').map fun l => codeOf l.filledCode).toFinset

theorem mem_codesOf_left {lines lines' : List PlatformLine} :
    ∀ l ∈ lines, codeOf l.filledCode ∈ codesOf lines lines' := by
  intro l hl
  exact List.mem_toFinset.mpr (List.mem_map.mpr ⟨l, List.mem_append_left _ hl, rfl⟩)

theorem mem_codesOf_right {lines lines' : List PlatformLine} :
    ∀ l ∈ lines', codeOf l.filledCode ∈ codesOf lines lines' := by
  intro l hl
  exact List.mem_toFinset.mpr (List.mem_map.mpr ⟨l, List.mem_append_right _ hl, rfl⟩)

/-- Lists with the same quantity of every code resolve to the same items. -/
theorem resolve_same_of_codeQty {db : OmsDb} {platform : String} {storeId : Int}
    {lines lines' : List PlatformLine}
    (h : ∀ code, code ≠ "" → codeQty code lines = codeQty code lines') :
    SameMap (resolvePlatformLinesToItems db platform storeId lines).itemQtyMap
      (resolvePlatformLinesToItems db platform storeId lines').itemQtyMap := by
  rw [sameMap_iff (get_resolve db platform storeId lines 0).2
    (get_resolve db platform storeId lines' 0).2]
  intro itemId
  rw [(get_resolve db platform storeId lines itemId).1,
    (get_resolve db platform storeId lines' itemId).1,
    sum_weighted _ (codesOf lines lines') lines mem_codesOf_left,
    sum_weighted _ (codesOf lines lines') lines' mem_codesOf_right]
  refine Finset.sum_congr rfl ?_
  intro code _
  by_cases hcode : code = ""
  · -- a line without a code resolves to nothing
    rw [unitNeed, if_pos hcode, mul_zero, mul_zero]
  · rw [h code hcode]

/-- A catalog in which one code is an FSKU of one piece of item 1, and no other
code is anything. -/
def singleCode (code : String) : FskuCatalog where
  fskus := ⟨[⟨1, code, .published⟩], by simp⟩
  components := ⟨[⟨1, 1, 1, 1, 1, "primary"⟩], by simp⟩

theorem unitNeed_singleCode (db : OmsDb) (platform : String) (storeCode : Option String)
    {code : String} (hcode : code ≠ "") (code' : String) :
    unitNeed (db.withCatalog (singleCode code)) platform storeCode 1 code' =
      if code' = code then 1 else 0 := by
  have hbind : ∀ store, resolveFskuIdByBinding (db.withCatalog (singleCode code)) platform store
      code' = .error .codeNotBound := by
    intro store
    unfold resolveFskuIdByBinding
    split <;> rfl
  have hfsku : resolveFsku (db.withCatalog (singleCode code)) platform storeCode code' =
      if code' = code then .ok 1 else .error .codeNotBound := by
    have hcodes : publishedFskuByCode (db.withCatalog (singleCode code)) code' =
        if code' = code then some 1 else none := by
      unfold publishedFskuByCode OmsDb.withCatalog singleCode
      by_cases h : code' = code
      · subst h
        simp
      · simp [h, Ne.symm h]
    unfold resolveFsku
    simp only [hbind, hcodes]
    cases storeCode.bind orNone <;> by_cases h : code' = code <;> simp [h]
  unfold unitNeed
  by_cases h : code' = code
  · subst h
    rw [if_neg hcode, hfsku, if_pos rfl, if_pos rfl]
    rfl
  · rw [hfsku, if_neg h, if_neg h]
    simp

/-- The single-code catalog shows the quantity of its code. -/
theorem get_resolve_singleCode (db : OmsDb) (platform : String) (storeId : Int) {code : String}
    (hcode : code ≠ "") (lines : List PlatformLine) :
    (resolvePlatformLinesToItems (db.withCatalog (singleCode code)) platform storeId
      lines).itemQtyMap.get 1 = codeQty code lines := by
  rw [(get_resolve _ platform storeId lines 1).1]
  simp only [unitNeed_singleCode db _ _ hcode]
  unfold codeQty sumOver
  induction lines with
  | nil => rfl
  | cons line lines ih =>
      rw [List.map_cons, List.sum_cons, ih, List.filter_cons]
      by_cases h : codeOf line.filledCode = code
      · simp [h]
      · simp [h]

/-! ## Replay -/

/-- Replay resolves what is stored after the payload's upserts to the same
items as direct ingest resolves the payload. -/
def ReplayAgrees (db : OmsDb) (platform storeCode : String) (storeId : Int) (extOrderNo : String)
    (lines : List PlatformLine) (catalog : FskuCatalog) : Prop :=
  let after := (((upsertPlatformOrderLines platform storeCode (some storeId) extOrderNo
    lines).call db).2).withCatalog catalog
  SameMap
    (resolvePlatformLinesToItems after platform storeId
      (loadFactLinesForOrder after (normPlatform platform) storeId (strip extOrderNo))).itemQtyMap
    (resolvePlatformLinesToItems after platform storeId lines).itemQtyMap

/-- **Replay builds the order direct ingest builds**, for every catalog, exactly
when for every code the lines a later one follows weigh as much as the stored
rows the payload leaves. -/
theorem replay_agrees {extOrderNo : String} (hext : strip extOrderNo ≠ "") (db : OmsDb)
    (platform storeCode : String) (storeId : Int) (lines : List PlatformLine) :
    (∀ catalog, ReplayAgrees db platform storeCode storeId extOrderNo lines catalog) ↔
      ∀ code, code ≠ "" → repeatedQty code lines =
        leftoverQty db.platformOrderLines (normPlatform platform) storeId (strip extOrderNo)
          (factKeys (factOrder platform storeCode (some storeId) extOrderNo) lines 1) code := by
  have hcall : ((upsertPlatformOrderLines platform storeCode (some storeId) extOrderNo
      lines).call db).2 = db.withFacts (factsAfter
        (factOrder platform storeCode (some storeId) extOrderNo) lines 1
          db.platformOrderLines) := by
    have hrun : upsertPlatformOrderLines platform storeCode (some storeId) extOrderNo lines
        ⟨db, false⟩ = (.ok lines.length, ⟨db.withFacts (factsAfter
          (factOrder platform storeCode (some storeId) extOrderNo) lines 1
            db.platformOrderLines), false⟩) := by
      unfold upsertPlatformOrderLines
      refine (Sess.run_bind_of_ok (Oms.run_require_of hext _ _)).trans ?_
      exact (Sess.run_bind_of_ok (run_upsertFacts _ lines 1 db)).trans rfl
    rw [Sess.call_of_ok hrun]
  -- what replay loads of a code
  have hload : ∀ (catalog : FskuCatalog) (code : String), code ≠ "" →
      codeQty code (loadFactLinesForOrder ((db.withFacts (factsAfter
        (factOrder platform storeCode (some storeId) extOrderNo) lines 1
          db.platformOrderLines)).withCatalog catalog) (normPlatform platform) storeId
            (strip extOrderNo)) + repeatedQty code lines =
        codeQty code lines +
          leftoverQty db.platformOrderLines (normPlatform platform) storeId (strip extOrderNo)
            (factKeys (factOrder platform storeCode (some storeId) extOrderNo) lines 1) code := by
    intro catalog code hcode
    rw [codeQty_load]
    exact codeQty_factsAfter (o := factOrder platform storeCode (some storeId) extOrderNo) rfl
      hcode lines 1 db.platformOrderLines
  simp only [ReplayAgrees, hcall]
  constructor
  · intro h code hcode
    have hsame := h (singleCode code)
    rw [sameMap_iff (get_resolve _ _ _ _ 0).2 (get_resolve _ _ _ _ 0).2] at hsame
    have hone := hsame 1
    rw [get_resolve_singleCode _ _ _ hcode, get_resolve_singleCode _ _ _ hcode] at hone
    have := hload (singleCode code) code hcode
    omega
  · intro h catalog
    refine resolve_same_of_codeQty ?_
    intro code hcode
    have := hload catalog code hcode
    have := h code hcode
    omega

/-- Two lines of different codes and one without, on a shop without facts. -/
theorem replay_agrees_sample :
    ReplayAgrees sampleShop "PDD" "S1" 1 "E9"
      [⟨some "C1", some 2, none, none, none⟩, ⟨none, some 1, none, none, none⟩,
        ⟨some " C2 ", some 3, none, none, none⟩] (singleCode "C1") := by
  refine (replay_agrees (by decide) sampleShop "PDD" "S1" 1 _).mpr ?_ _
  intro code hcode
  have h₁ : codeOf (some "C1") = "C1" := by decide
  have h₂ : codeOf none = "" := by decide
  have h₃ : codeOf (some " C2 ") = "C2" := by decide
  have hleft : leftoverQty sampleShop.platformOrderLines (normPlatform "PDD") 1 (strip "E9")
      (factKeys (factOrder "PDD" "S1" (some 1) "E9")
        [⟨some "C1", some 2, none, none, none⟩, ⟨none, some 1, none, none, none⟩,
          ⟨some " C2 ", some 3, none, none, none⟩] 1) code = 0 := rfl
  rw [hleft]
  simp only [repeatedQty, h₁, h₂, h₃, List.mem_cons, List.not_mem_nil, or_false, exists_eq_or_imp,
    exists_eq_left, false_and, exists_false, and_false, if_false, add_zero]
  rw [if_neg, if_neg, add_zero]
  · rintro ⟨rfl, -⟩
    exact hcode rfl
  · rintro ⟨rfl, h | h⟩
    · exact absurd h (by decide)
    · exact absurd h (by decide)

/-- A payload that names one code twice: the second line overwrites the first
fact, and replay orders three pieces instead of five. -/
theorem repeated_code_differs :
    ¬ ∀ (db : OmsDb) (platform storeCode : String) (storeId : Int) (extOrderNo : String)
      (lines : List PlatformLine) (catalog : FskuCatalog), strip extOrderNo ≠ "" →
        ReplayAgrees db platform storeCode storeId extOrderNo lines catalog := by
  intro hclaim
  have hsame := hclaim sampleShop "PDD" "S1" 1 "E9"
    [⟨some "C1", some 2, none, none, none⟩, ⟨some "C1", some 3, none, none, none⟩]
    (singleCode "C1") (by decide) 1
  revert hsame
  decide

end WmsDu
