import WmsDu.Mirror.Agreement
import WmsDu.Theorems.Replay

/-!
# The conversion and the resolver agree

What the conversion of a mirror accepts, the resolver resolves to the same
map. The other way round holds for an order that has lines and whose codes
carry no blanks around them; an order without lines the resolver takes and
the conversion refuses.
-/

namespace WmsDu

/-- The mirror was matched to a store: the one of its platform and code. -/
structure OrderMirror.OfStore (mirror : OrderMirror) (db : OmsDb) (storeId : Int) : Prop where
  linked : mirror.wmsStoreId = some storeId
  stored : ∃ s ∈ db.stores.rows, s.id = storeId ∧
    s.platform = normPlatform mirror.platform.text ∧ s.storeCode = mirror.collectorStoreCode
  trimmed : strip mirror.collectorStoreCode = mirror.collectorStoreCode
  nonempty : mirror.collectorStoreCode ≠ ""

section Order
variable (db : OmsDb) (mirrors : MirrorDb) (mirror : OrderMirror) (storeId : Int)

/-- The resolver on the lines of a mirror. -/
def resolveMirror : Resolution :=
  resolvePlatformLinesToItems db mirror.platform.text storeId
    ((mirrors.linesOf mirror.platform mirror.id).map MirrorLineRow.asPlatformLine)

/-- The binding lookup of a line. -/
def boundFsku (l : MirrorLineRow) : Except UnresolvedReason Int :=
  resolveFskuIdByBinding db (normPlatform mirror.platform.text) mirror.collectorStoreCode
    (codeOf l.merchantSku)

/-- The resolver leaves no line, each goes through a binding, and all
quantities are positive integers. -/
structure WholeOrder : Prop where
  resolved : (resolveMirror db mirrors mirror storeId).unresolved = []
  bound : ∀ l ∈ mirrors.linesOf mirror.platform mirror.id, ∃ fskuId,
    boundFsku db mirror l = .ok fskuId
  lines : ∀ l ∈ mirrors.linesOf mirror.platform mirror.id, IsPieces l.quantity
  components : ∀ l ∈ mirrors.linesOf mirror.platform mirror.id, ∀ fskuId,
    boundFsku db mirror l = .ok fskuId → ∀ c ∈ loadFskuComponents db fskuId, IsPieces c.qty

end Order

theorem normPlatform_text (platform : MirrorPlatform) :
    normPlatform (normPlatform platform.text) = normPlatform platform.text := by
  cases platform <;> decide +kernel

section Agreement
variable {db : OmsDb} {mirrors : MirrorDb} {mirror : OrderMirror} {storeId : Int}

/-- The resolver looks bindings up under the mirror's own store code. -/
theorem OrderMirror.OfStore.storeCode (h : mirror.OfStore db storeId) :
    loadStoreCodeByStoreId db (normPlatform mirror.platform.text) storeId =
      some mirror.collectorStoreCode := by
  obtain ⟨s, hs, hid, hplat, hcode⟩ := h.stored
  have hfind : (db.stores.rows.find? fun s => s.id = storeId ∧
      s.platform = normPlatform (normPlatform mirror.platform.text)) = some s := by
    rw [normPlatform_text]
    cases hf : db.stores.rows.find? fun s => s.id = storeId ∧
        s.platform = normPlatform mirror.platform.text with
    | none => exact absurd (decide_eq_true ⟨hid, hplat⟩) (List.find?_eq_none.mp hf s hs)
    | some t =>
        have ht : t.id = storeId ∧ t.platform = normPlatform mirror.platform.text := by
          simpa using List.find?_some hf
        rw [db.stores.eq_of_key (List.mem_of_find?_eq_some hf) hs (ht.1.trans hid.symm)]
  rw [loadStoreCodeByStoreId, hfind, Option.map_some, hcode]
  exact congrArg some h.trimmed

/-- Lines that can all be expanded: the resolver resolves them, and the rows of
the query count and add up to its map. -/
theorem agree_of_expandable (mirrors : MirrorDb) (hstore : mirror.OfStore db storeId)
    (h : ∀ l ∈ mirrors.linesOf mirror.platform mirror.id, ∃ sku b f,
      Expandable db (normPlatform mirror.platform.text) mirror.collectorStoreCode l sku b f) :
    (resolveMirror db mirrors mirror storeId).unresolved = [] ∧
      (∀ r ∈ loadLineComponentRows db mirrors mirror, ∃ c, r.Counts c) ∧
      ∀ itemId, ((loadLineComponentRows db mirrors mirror).map
          (LineComponentRow.adds itemId)).sum =
        (resolveMirror db mirrors mirror storeId).itemQtyMap.get itemId := by
  have hplat := normPlatform_text mirror.platform
  refine ⟨?_, ?_, fun itemId => ?_⟩
  · rw [resolveMirror, (resolve_lists _ _ _ _).2, hstore.storeCode, List.filterMap_eq_nil_iff]
    intro line hline
    obtain ⟨l, hl, rfl⟩ := List.mem_map.mp hline
    obtain ⟨sku, b, f, hl⟩ := h l hl
    obtain ⟨r, hr⟩ := hl.resolved hplat hstore.trimmed hstore.nonempty
    rw [hr]
    rfl
  · intro r hr
    obtain ⟨l, hl, hr⟩ := List.mem_flatMap.mp (mem_sortOn.mp hr)
    obtain ⟨sku, b, f, hl⟩ := h l hl
    exact hl.counts r hr
  · rw [resolveMirror, (get_resolve _ _ _ _ itemId).1, hstore.storeCode, List.map_map,
      loadLineComponentRows, ((perm_sortOn _ _).map _).sum_eq]
    generalize mirrors.linesOf mirror.platform mirror.id = lines at h
    induction lines with
    | nil => rfl
    | cons l lines ih =>
        obtain ⟨sku, b, f, hl⟩ := h l List.mem_cons_self
        rw [List.flatMap_cons, List.map_append, List.sum_append, List.map_cons, List.sum_cons,
          ih fun l hl => h l (List.mem_cons_of_mem _ hl),
          hl.sum_adds hplat hstore.trimmed hstore.nonempty]
        rfl

/-- A whole order of trimmed codes can be expanded. -/
theorem WholeOrder.expandable (hdb : db.BindingsStored) (hstore : mirror.OfStore db storeId)
    (h : WholeOrder db mirrors mirror storeId) {l : MirrorLineRow}
    (hl : l ∈ mirrors.linesOf mirror.platform mirror.id)
    (htrim : ∀ sku ∈ l.merchantSku, strip sku = sku) :
    ∃ sku b f,
      Expandable db (normPlatform mirror.platform.text) mirror.collectorStoreCode l sku b f := by
  have hplat := normPlatform_text mirror.platform
  have hresolved : (resolveOne db (normPlatform mirror.platform.text)
      (some mirror.collectorStoreCode) l.asPlatformLine).getLeft? = none := by
    have hnone := h.resolved
    rw [resolveMirror, (resolve_lists _ _ _ _).2, hstore.storeCode,
      List.filterMap_eq_nil_iff] at hnone
    exact hnone _ (List.mem_map_of_mem hl)
  have hcode : codeOf l.merchantSku ≠ "" := by
    intro hblank
    rw [resolveOne, if_pos (show codeOf l.asPlatformLine.filledCode = "" from hblank)] at hresolved
    cases hresolved
  obtain ⟨sku, hsku⟩ : ∃ sku, l.merchantSku = some sku := by
    cases hl' : l.merchantSku with
    | none => rw [hl'] at hcode; exact absurd (by decide) hcode
    | some sku => exact ⟨sku, rfl⟩
  have htrimmed := htrim sku hsku
  have hcodeOf : codeOf l.merchantSku = sku := by
    rw [hsku, codeOf, Option.getD_some, htrimmed]
  have hne : sku ≠ "" := hcodeOf ▸ hcode
  obtain ⟨fskuId, hbound⟩ := h.bound l hl
  have hfound := hbound
  rw [boundFsku, hcodeOf] at hfound
  obtain ⟨b, f, hline, rfl⟩ := lineBound_of_resolves hdb hplat hstore.trimmed hsku htrimmed hne hfound
  have hstatus : fskuStatus db b.fskuId = some .published := by
    rw [fskuStatus, hline.fsku, Option.map_some, hline.published]
  have hperm := perm_loadFskuComponents hstatus
  refine ⟨sku, b, f, hsku, htrimmed, hne, hline, ?_, h.lines l hl, fun c hc => ?_⟩
  · intro hnil
    rw [hnil] at hperm
    -- an FSKU without components leaves the line unresolved
    have hfsku : resolveFsku db (normPlatform mirror.platform.text)
        (some mirror.collectorStoreCode) (codeOf l.asPlatformLine.filledCode) = .ok b.fskuId := by
      have hfilled : codeOf l.asPlatformLine.filledCode = sku := hcodeOf
      unfold resolveFsku
      dsimp only
      rw [Option.bind_some, orNone, if_neg hstore.nonempty, hfilled]
      dsimp only
      rw [hfound]
    have hfilled : codeOf l.asPlatformLine.filledCode ≠ "" := hcode
    unfold resolveOne at hresolved
    dsimp only at hresolved
    rw [if_neg hfilled, hfsku] at hresolved
    dsimp only at hresolved
    rw [if_pos hperm.eq_nil] at hresolved
    cases hresolved
  · exact h.components l hl b.fskuId hbound c (hperm.mem_iff.mpr hc)

end Agreement

/-- The query has a row for each line. -/
theorem lineComponentRows_ne_nil (db : OmsDb) (platform storeCode : String) (l : MirrorLineRow) :
    lineComponentRows db platform storeCode l ≠ [] := by
  have hne : ∀ {α : Type} (rows : List α), orNull rows ≠ [] := by
    intro α rows
    cases rows with
    | nil => exact List.cons_ne_nil _ _
    | cons r rs => exact List.cons_ne_nil _ _
  intro hnil
  unfold lineComponentRows at hnil
  obtain ⟨binding, hbinding⟩ := List.exists_mem_of_ne_nil _ (hne (bindingsOf db platform storeCode l))
  have hfskus := List.flatMap_eq_nil_iff.mp hnil binding hbinding
  obtain ⟨fsku, hfsku⟩ := List.exists_mem_of_ne_nil _
    (hne (binding.elim [] fun b => db.fskus.rows.filter fun f => f.id = b.fskuId))
  exact hne _ (List.map_eq_nil_iff.mp (List.flatMap_eq_nil_iff.mp hfskus fsku hfsku))

/-- **The two expansions agree.** What the conversion of a matched mirror
accepts the resolver resolves, with the same map; and a whole order that has
lines and trimmed codes the conversion accepts, with the resolver's map. -/
theorem conversion_agrees {db : OmsDb} (hdb : db.BindingsStored) (mirrors : MirrorDb)
    {mirror : OrderMirror} {storeId : Int} (hstore : mirror.OfStore db storeId) :
    let rows := loadLineComponentRows db mirrors mirror
    let resolution := resolveMirror db mirrors mirror storeId
    (∀ map resolved n, buildItemQtyMap rows = .ok (map, resolved, n) →
        resolution.unresolved = [] ∧ SameMap map resolution.itemQtyMap) ∧
      (mirrors.linesOf mirror.platform mirror.id ≠ [] →
        (∀ l ∈ mirrors.linesOf mirror.platform mirror.id, ∀ sku ∈ l.merchantSku, strip sku = sku) →
          WholeOrder db mirrors mirror storeId →
            ∃ map resolved n, buildItemQtyMap rows = .ok (map, resolved, n) ∧
              SameMap map resolution.itemQtyMap) := by
  intro rows resolution
  have hsame : ∀ map resolved n, buildItemQtyMap rows = .ok (map, resolved, n) →
      (∀ itemId, (rows.map (LineComponentRow.adds itemId)).sum =
        resolution.itemQtyMap.get itemId) → SameMap map resolution.itemQtyMap := by
    intro map resolved n hbuild hsum
    obtain ⟨hpos, hget⟩ := buildItemQtyMap_map hbuild
    exact (sameMap_iff hpos (get_resolve _ _ _ _ 0).2).mpr fun itemId =>
      (hget itemId).trans (hsum itemId)
  constructor
  · intro map resolved n hbuild
    obtain ⟨-, hcounts⟩ := buildItemQtyMap_ok.mp ⟨_, hbuild⟩
    obtain ⟨hresolved, -, hsum⟩ := agree_of_expandable mirrors hstore fun l hl =>
      expandable_of_counts hdb fun r hr =>
        hcounts r (mem_sortOn.mpr (List.mem_flatMap.mpr ⟨l, hl, hr⟩))
    exact ⟨hresolved, hsame map resolved n hbuild hsum⟩
  · intro hlines htrim hwhole
    obtain ⟨-, hcounts, hsum⟩ := agree_of_expandable mirrors hstore fun l hl =>
      hwhole.expandable hdb hstore hl (htrim l hl)
    have hrows : rows ≠ [] := by
      obtain ⟨l, hl⟩ := List.exists_mem_of_ne_nil _ hlines
      obtain ⟨r, hr⟩ := List.exists_mem_of_ne_nil _ (lineComponentRows_ne_nil db
        (normPlatform mirror.platform.text) mirror.collectorStoreCode l)
      exact List.ne_nil_of_mem (mem_sortOn.mpr (List.mem_flatMap.mpr ⟨l, hl, hr⟩))
    obtain ⟨⟨map, resolved, n⟩, hbuild⟩ := buildItemQtyMap_ok.mpr ⟨hrows, hcounts⟩
    exact ⟨map, resolved, n, hbuild, hsame map resolved n hbuild hsum⟩

/-! ## A mirror -/

/-- One code bound to an FSKU of two pieces of an item. -/
def sampleBoundDb : OmsDb :=
  { wms := {}
    stores := ⟨[⟨1, "PDD", "S1", "tea"⟩], by decide⟩
    fskus := ⟨[⟨1, "FSKU-1", .published⟩], by decide⟩
    fskuComponents := ⟨[⟨1, 1, 5, 2, 1, "primary"⟩], by decide⟩
    merchantCodeBindings := [⟨"PDD", "S1", "A", 1⟩] }

def sampleMirror : OrderMirror :=
  { platform := .pdd, id := 1, collectorOrderId := 7, collectorStoreId := 1
    collectorStoreCode := "S1", collectorStoreName := "tea", wmsStoreId := some 1
    platformOrderNo := "P-7", platformStatus := none, sourceUpdatedAt := none, pulledAt := none
    collectorLastSyncedAt := none, receiver := "", amounts := "", platformFields := ""
    rawRefs := "" }

/-- Three pieces of the code. -/
def sampleMirrorDb : MirrorDb :=
  { lines := ⟨[{ collectorLineId := 1, collectorOrderId := 7, platformOrderNo := "P-7"
                 merchantSku := some "A", quantity := 3, platform := .pdd, id := 1
                 mirrorId := 1 }], by decide⟩ }

theorem bindingsStored_sample : sampleBoundDb.BindingsStored where
  unique := List.pairwise_singleton _ _
  trimmed := by decide

theorem ofStore_sample : sampleMirror.OfStore sampleBoundDb 1 where
  linked := rfl
  stored := ⟨⟨1, "PDD", "S1", "tea"⟩, List.mem_cons_self, rfl, by decide, rfl⟩
  trimmed := by decide
  nonempty := by decide

/-- Both come to six pieces. -/
theorem conversion_agrees_sample :
    (resolveMirror sampleBoundDb sampleMirrorDb sampleMirror 1).unresolved = [] ∧
      (buildItemQtyMap (loadLineComponentRows sampleBoundDb sampleMirrorDb
        sampleMirror)).toOption.map (fun out => out.1.rows) = some [(5, 6)] ∧
      (resolveMirror sampleBoundDb sampleMirrorDb sampleMirror 1).itemQtyMap.rows = [(5, 6)] := by
  have hagree := (conversion_agrees bindingsStored_sample sampleMirrorDb ofStore_sample).1
  have hbuild : (buildItemQtyMap (loadLineComponentRows sampleBoundDb sampleMirrorDb
      sampleMirror)).toOption.map (fun out => out.1.rows) = some [(5, 6)] := by
    decide +kernel
  obtain ⟨⟨map, resolved, n⟩, hout, -⟩ := Option.map_eq_some_iff.mp hbuild
  refine ⟨(hagree map resolved n (toOption_eq_some.mp hout)).1, hbuild, ?_⟩
  decide

/-- An order without lines leaves nothing unresolved and is not converted. -/
theorem conversion_agrees_not :
    ¬ ∀ (db : OmsDb) (mirrors : MirrorDb) (mirror : OrderMirror) (storeId : Int),
      db.BindingsStored → mirror.OfStore db storeId → WholeOrder db mirrors mirror storeId →
        ∃ map resolved n,
          buildItemQtyMap (loadLineComponentRows db mirrors mirror) = .ok (map, resolved, n) := by
  intro h
  obtain ⟨map, resolved, n, hbuild⟩ := h sampleBoundDb {} sampleMirror 1 bindingsStored_sample
    ofStore_sample ⟨rfl, fun _ hl => absurd hl List.not_mem_nil,
      fun _ hl => absurd hl List.not_mem_nil, fun _ hl => absurd hl List.not_mem_nil⟩
  cases hbuild

end WmsDu
