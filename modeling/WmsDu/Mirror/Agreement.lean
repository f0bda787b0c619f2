import WmsDu.Mirror.Conversion

/-!
# One line in both expansions

The conversion finds the components of a line by its joins, the resolver by
its lookups. Where the code of the line is trimmed and its binding is the only
one, both find the same components and ask for the same quantities.
-/

namespace WmsDu

/-- The line as the resolver gets it: `to_int_pos` cuts its quantity off. -/
def MirrorLineRow.asPlatformLine (l : MirrorLineRow) : PlatformLine :=
  { filledCode := l.merchantSku, qty := some (l.quantity.num.tdiv l.quantity.den) }

/-- The components of an FSKU, in the order of the table. -/
def fskuComponentsOf (db : OmsDb) (fskuId : Int) : List FskuComponent :=
  db.fskuComponents.rows.filter fun c => c.fskuId = fskuId

/-- The stored bindings: one a code, under the trimmed code. -/
structure OmsDb.BindingsStored (db : OmsDb) : Prop where
  unique : db.merchantCodeBindings.Pairwise fun b c =>
    ¬ (b.platform = c.platform ∧ b.storeCode = c.storeCode ∧ b.merchantCode = c.merchantCode)
  trimmed : ∀ b ∈ db.merchantCodeBindings, strip b.merchantCode = b.merchantCode

/-! ## Quantities -/

theorem IsPieces.trunc {q : ℚ} (h : IsPieces q) : q.num.tdiv q.den = ⌊q⌋ := by
  have hq := h.2
  have hden : q.den = 1 := by
    rw [hq]
    exact Rat.den_intCast _
  have hnum : q.num = ⌊q⌋ := by
    conv_lhs => rw [hq]
    exact Rat.num_intCast _
  rw [hden, hnum]
  exact Int.tdiv_one _

theorem IsPieces.toIntPos {l : MirrorLineRow} (h : IsPieces l.quantity) :
    toIntPos l.asPlatformLine.qty = ⌊l.quantity⌋ := by
  have hpos := h.floor_pos
  unfold MirrorLineRow.asPlatformLine WmsDu.toIntPos
  rw [h.trunc, Option.getD_some, if_pos hpos]

theorem IsPieces.decToIntQty {c : FskuComponent} (h : IsPieces c.qty) :
    decToIntQty c = some ⌊c.qty⌋ := by
  have hden : (c.qtyDen : ℚ) ≠ 0 := by
    intro hzero
    have hpos := h.1
    unfold FskuComponent.qty at hpos
    rw [hzero, div_zero] at hpos
    exact lt_irrefl _ hpos
  have hnum : c.qtyNum = ⌊c.qty⌋ * c.qtyDen := by
    have hq := h.2
    have hmul : (c.qtyNum : ℚ) = ⌊c.qty⌋ * c.qtyDen := by
      rw [← hq, FskuComponent.qty, div_mul_cancel₀ _ hden]
    exact_mod_cast hmul
  have hdpos : (0 : Int) < c.qtyDen := by
    have : c.qtyDen ≠ 0 := fun hzero => hden (by rw [hzero]; rfl)
    omega
  have hpos : 0 < c.qtyNum := by
    rw [hnum]
    exact Int.mul_pos h.floor_pos hdpos
  unfold WmsDu.decToIntQty
  rw [if_neg (by omega), if_pos (by rw [hnum]; exact Int.mul_emod_left _ _), hnum,
    Int.mul_ediv_cancel _ (by omega)]

/-! ## The joins -/

section Line
variable {db : OmsDb} {platform storeCode : String} {l : MirrorLineRow}

/-- The one binding of a line leads to a published FSKU. -/
structure LineBound (db : OmsDb) (platform storeCode : String) (l : MirrorLineRow)
    (b : MerchantCodeBinding) (f : Fsku) : Prop where
  bindings : bindingsOf db platform storeCode l = [b]
  fsku : db.fskus.lookup b.fskuId = some f
  published : f.status = .published

/-- A line that can be expanded. -/
structure Expandable (db : OmsDb) (platform storeCode : String) (l : MirrorLineRow)
    (sku : String) (b : MerchantCodeBinding) (f : Fsku) : Prop where
  code : l.merchantSku = some sku
  trimmed : strip sku = sku
  nonblank : sku ≠ ""
  bound : LineBound db platform storeCode l b f
  components : fskuComponentsOf db b.fskuId ≠ []
  line : IsPieces l.quantity
  pieces : ∀ c ∈ fskuComponentsOf db b.fskuId, IsPieces c.qty

theorem orNull_of_ne_nil {α : Type} {rows : List α} (h : rows ≠ []) :
    orNull rows = rows.map some := by
  cases rows with
  | nil => exact absurd rfl h
  | cons r rs => rfl

/-- Where no two entries satisfy `p`, the filter keeps the one that does. -/
theorem filter_eq_singleton {α : Type} {p : α → Prop} [DecidablePred p] {rows : List α} {a : α}
    (h : rows.Pairwise fun x y => ¬ (p x ∧ p y)) (ha : a ∈ rows) (hp : p a) :
    (rows.filter fun x => p x) = [a] := by
  induction rows with
  | nil => cases ha
  | cons x rows ih =>
      obtain ⟨hx, hrows⟩ := List.pairwise_cons.mp h
      rcases List.mem_cons.mp ha with rfl | ha
      · have hnone : (rows.filter fun x => p x) = [] :=
          List.filter_eq_nil_iff.mpr fun y hy hpy => hx y hy ⟨hp, of_decide_eq_true hpy⟩
        rw [List.filter_cons, if_pos (decide_eq_true hp), hnone]
      · have hnot : ¬ p x := fun hpx => hx a ha ⟨hpx, hp⟩
        rw [List.filter_cons, if_neg (by simpa using hnot), ih hrows ha]

theorem filter_fskus {id : Int} {f : Fsku} (h : db.fskus.lookup id = some f) :
    (db.fskus.rows.filter fun g => g.id = id) = [f] := by
  obtain ⟨hf, hid⟩ := Table.lookup_eq_some.mp h
  refine filter_eq_singleton ?_ hf hid
  refine (List.pairwise_map.mp db.fskus.nodup).imp ?_
  intro x y hne hboth
  exact hne (hboth.1.trans hboth.2.symm)

/-- The rows of a bound line: one a component. -/
theorem LineBound.rows {b : MerchantCodeBinding} {f : Fsku}
    (h : LineBound db platform storeCode l b f) (hne : fskuComponentsOf db b.fskuId ≠ []) :
    lineComponentRows db platform storeCode l =
      (fskuComponentsOf db b.fskuId).map fun c => ⟨l, some b, some f, some c⟩ := by
  have hid : f.id = b.fskuId := (Table.lookup_eq_some.mp h.fsku).2
  have hcomps : (db.fskuComponents.rows.filter fun c => c.fskuId = f.id) =
      fskuComponentsOf db b.fskuId := by
    rw [hid]
    rfl
  have hone : ∀ {α : Type} (a : α), orNull [a] = [some a] := fun _ => rfl
  unfold lineComponentRows
  rw [h.bindings, hone, List.flatMap_singleton, Option.elim_some, filter_fskus h.fsku, hone,
    List.flatMap_singleton, Option.elim_some, hcomps, orNull_of_ne_nil hne, List.map_map]
  rfl

/-- The rows of an expandable line all count. -/
theorem Expandable.counts {sku : String} {b : MerchantCodeBinding} {f : Fsku}
    (h : Expandable db platform storeCode l sku b f) :
    ∀ r ∈ lineComponentRows db platform storeCode l, ∃ c, r.Counts c := by
  intro r hr
  rw [h.bound.rows h.components] at hr
  obtain ⟨c, hc, rfl⟩ := List.mem_map.mp hr
  refine ⟨c, rfl, ?_, rfl, ?_, h.line, h.pieces c hc⟩
  · show (l.merchantSku.bind fun sku => orNone (strip sku)).isSome
    rw [h.code, Option.bind_some, h.trimmed, orNone, if_neg h.nonblank]
    rfl
  · exact congrArg some h.bound.published

/-- A code has one binding at most. -/
theorem bindingsOf_eq (hdb : db.BindingsStored) {b : MerchantCodeBinding}
    (hb : b ∈ db.merchantCodeBindings)
    (hkey : b.platform = platform ∧ b.storeCode = storeCode ∧
      some b.merchantCode = l.merchantSku) : bindingsOf db platform storeCode l = [b] := by
  refine filter_eq_singleton (hdb.unique.imp ?_) hb hkey
  intro x y hne ⟨hx, hy⟩
  exact hne ⟨hx.1.trans hy.1.symm, hx.2.1.trans hy.2.1.symm,
    Option.some.inj (hx.2.2.trans hy.2.2.symm)⟩

/-- The rows of a line all count only if it is expandable. -/
theorem expandable_of_counts (hdb : db.BindingsStored)
    (h : ∀ r ∈ lineComponentRows db platform storeCode l, ∃ c, r.Counts c) :
    ∃ sku b f, Expandable db platform storeCode l sku b f := by
  have hmem : ∀ binding ∈ orNull (bindingsOf db platform storeCode l),
      ∀ fsku ∈ orNull (binding.elim [] fun b => db.fskus.rows.filter fun f => f.id = b.fskuId),
      ∀ component ∈ orNull (fsku.elim [] fun f => db.fskuComponents.rows.filter fun c =>
        c.fskuId = f.id), ∃ c, LineComponentRow.Counts ⟨l, binding, fsku, component⟩ c := by
    intro binding hbinding fsku hfsku component hcomponent
    refine h _ (List.mem_flatMap.mpr ⟨binding, hbinding, List.mem_flatMap.mpr ⟨fsku, hfsku, ?_⟩⟩)
    exact List.mem_map_of_mem hcomponent
  -- every right side has an entry, so a row of the line always exists
  have hsome : ∀ {α : Type} (rows : List α), ∃ o, o ∈ orNull rows := by
    intro α rows
    cases rows with
    | nil => exact ⟨none, mem_orNull.mpr (.inl ⟨rfl, rfl⟩)⟩
    | cons r rs => exact ⟨some r, mem_orNull.mpr (.inr ⟨r, List.mem_cons_self, rfl⟩)⟩
  obtain ⟨binding, hbinding⟩ := hsome (bindingsOf db platform storeCode l)
  have hbinding' := hmem binding hbinding
  obtain ⟨fsku, hfsku⟩ :=
    hsome (binding.elim [] fun b => db.fskus.rows.filter fun f => f.id = b.fskuId)
  have hfsku' := hbinding' fsku hfsku
  obtain ⟨component, hcomponent⟩ := hsome (fsku.elim [] fun f =>
    db.fskuComponents.rows.filter fun c => c.fskuId = f.id)
  obtain ⟨c, hc⟩ := hfsku' component hcomponent
  obtain ⟨b, rfl⟩ := Option.isSome_iff_exists.mp hc.bound
  obtain ⟨f, hf, hpublished⟩ := Option.map_eq_some_iff.mp hc.published
  obtain rfl : fsku = some f := hf
  have hmatch : ∀ {α : Type} {rows : List α} {r : α}, some r ∈ orNull rows → r ∈ rows := by
    intro α rows r hr
    rcases mem_orNull.mp hr with ⟨hnone, -⟩ | ⟨s, hs, hrs⟩
    · cases hnone
    · rw [Option.some.inj hrs]
      exact hs
  have hb := hmatch hbinding
  obtain ⟨hstored, hkey⟩ := List.mem_filter.mp hb
  obtain ⟨hplat, hstore, hsku⟩ := of_decide_eq_true hkey
  have htrim := hdb.trimmed b hstored
  obtain ⟨hf, hid⟩ := List.mem_filter.mp (hmatch hfsku)
  have hid : f.id = b.fskuId := of_decide_eq_true hid
  have hcomps : (db.fskuComponents.rows.filter fun c => c.fskuId = f.id) =
      fskuComponentsOf db b.fskuId := by
    rw [hid]
    rfl
  have hc₀ : c ∈ fskuComponentsOf db b.fskuId := by
    rw [← hcomps]
    refine hmatch ?_
    rw [← hc.component]
    exact hcomponent
  refine ⟨b.merchantCode, b, f, hsku.symm, htrim, ?_, ⟨?_, ?_, hpublished⟩,
    List.ne_nil_of_mem hc₀, hc.line, ?_⟩
  · intro hblank
    have hcode : (l.merchantSku.bind fun sku => orNone (strip sku)).isSome := hc.code
    rw [← hsku, Option.bind_some, htrim, hblank] at hcode
    cases hcode
  · exact bindingsOf_eq hdb hstored ⟨hplat, hstore, hsku⟩
  · exact Table.lookup_eq_some.mpr ⟨hf, hid⟩
  · intro d hd
    rw [← hcomps] at hd
    obtain ⟨d', hd'⟩ := hfsku' (some d) (mem_orNull.mpr (.inr ⟨d, hd, rfl⟩))
    rw [Option.some.inj hd'.component]
    exact hd'.pieces

/-! ## The lookups -/

/-- The resolver finds the bindings of a trimmed code. -/
theorem resolveFskuIdByBinding_eq {sku : String} (hplat : normPlatform platform = platform)
    (hstore : strip storeCode = storeCode) (hsku : l.merchantSku = some sku)
    (htrim : strip sku = sku) (hne : sku ≠ "") :
    resolveFskuIdByBinding db platform storeCode sku =
      match (bindingsOf db platform storeCode l).find? fun b =>
          fskuStatus db b.fskuId = some .published with
      | some b => .ok b.fskuId
      | none =>
          match (bindingsOf db platform storeCode l).head? with
          | some b =>
              if fskuStatus db b.fskuId = none then .error .codeNotBound
              else .error .fskuNotPublished
          | none => .error .codeNotBound := by
  have hbindings : (db.merchantCodeBindings.filter fun b =>
      b.platform = normPlatform platform ∧ b.storeCode = normStoreCode storeCode ∧
        b.merchantCode = strip sku) = bindingsOf db platform storeCode l := by
    unfold bindingsOf
    rw [hplat, show normStoreCode storeCode = storeCode from hstore, htrim, hsku]
    simp only [Option.some.injEq]
  unfold resolveFskuIdByBinding
  dsimp only
  rewrite [if_neg (by rw [htrim]; exact hne), hbindings]
  rfl

/-- A bound line leads the resolver to the FSKU of its binding. -/
theorem LineBound.resolves {b : MerchantCodeBinding} {f : Fsku} {sku : String}
    (h : LineBound db platform storeCode l b f) (hplat : normPlatform platform = platform)
    (hstore : strip storeCode = storeCode) (hsku : l.merchantSku = some sku)
    (htrim : strip sku = sku) (hne : sku ≠ "") :
    resolveFskuIdByBinding db platform storeCode sku = .ok b.fskuId := by
  have hstatus : fskuStatus db b.fskuId = some .published := by
    rw [fskuStatus, h.fsku, Option.map_some, h.published]
  rw [resolveFskuIdByBinding_eq hplat hstore hsku htrim hne, h.bindings, List.find?_cons,
    decide_eq_true hstatus]

/-- A line that the resolver finds a binding of is bound. -/
theorem lineBound_of_resolves (hdb : db.BindingsStored) {sku : String} {fskuId : Int}
    (hplat : normPlatform platform = platform) (hstore : strip storeCode = storeCode)
    (hsku : l.merchantSku = some sku) (htrim : strip sku = sku) (hne : sku ≠ "")
    (h : resolveFskuIdByBinding db platform storeCode sku = .ok fskuId) :
    ∃ b f, LineBound db platform storeCode l b f ∧ b.fskuId = fskuId := by
  rw [resolveFskuIdByBinding_eq hplat hstore hsku htrim hne] at h
  split at h
  · rename_i b hfound
    have hmem := List.mem_of_find?_eq_some hfound
    have hstatus : fskuStatus db b.fskuId = some .published :=
      by simpa using List.find?_some hfound
    obtain ⟨f, hf, hpublished⟩ := Option.map_eq_some_iff.mp hstatus
    obtain ⟨hstored, hkey⟩ := List.mem_filter.mp hmem
    refine ⟨b, f, ⟨?_, hf, hpublished⟩, Except.ok.inj h⟩
    exact bindingsOf_eq hdb hstored (of_decide_eq_true hkey)
  · split at h
    · split at h <;> cases h
    · cases h

/-- The resolver loads the components of a published FSKU. -/
theorem perm_loadFskuComponents {fskuId : Int} (h : fskuStatus db fskuId = some .published) :
    (loadFskuComponents db fskuId).Perm (fskuComponentsOf db fskuId) := by
  unfold loadFskuComponents fskuComponentsOf
  simp only [h, and_true]
  exact List.perm_insertionSort _ _

/-- What whole components need of an item. -/
theorem componentNeed_eq_sum {comps : List FskuComponent} (h : ∀ c ∈ comps, IsPieces c.qty)
    (itemId : Int) :
    componentNeed itemId comps =
      (comps.map fun c => if c.itemId = itemId then ⌊c.qty⌋ else 0).sum := by
  induction comps with
  | nil => rfl
  | cons c comps ih =>
      have hc := h c List.mem_cons_self
      have hpos := hc.floor_pos
      unfold componentNeed
      rw [hc.decToIntQty, ih fun d hd => h d (List.mem_cons_of_mem _ hd), List.map_cons,
        List.sum_cons]
      dsimp only
      by_cases hitem : c.itemId = itemId
      · rw [if_pos ⟨hpos, hitem⟩, if_pos hitem]
      · rw [if_neg (fun hboth => hitem hboth.2), if_neg hitem]

section Expandable
variable {sku : String} {b : MerchantCodeBinding} {f : Fsku}

/-- The resolver comes to the FSKU of the line's binding. -/
theorem Expandable.resolveFsku (h : Expandable db platform storeCode l sku b f)
    (hplat : normPlatform platform = platform) (hstore : strip storeCode = storeCode)
    (hne : storeCode ≠ "") :
    resolveFsku db platform (some storeCode) (codeOf l.asPlatformLine.filledCode) =
      .ok b.fskuId := by
  have hcode : codeOf l.asPlatformLine.filledCode = sku := by
    rw [MirrorLineRow.asPlatformLine, codeOf, h.code, Option.getD_some, h.trimmed]
  unfold WmsDu.resolveFsku
  dsimp only
  rw [Option.bind_some, orNone, if_neg hne, hcode]
  dsimp only
  rw [h.bound.resolves hplat hstore h.code h.trimmed h.nonblank]

theorem Expandable.status (h : Expandable db platform storeCode l sku b f) :
    fskuStatus db b.fskuId = some .published := by
  rw [fskuStatus, h.bound.fsku, Option.map_some, h.bound.published]

theorem Expandable.mem_components (h : Expandable db platform storeCode l sku b f)
    {c : FskuComponent} :
    c ∈ loadFskuComponents db b.fskuId ↔ c ∈ fskuComponentsOf db b.fskuId :=
  (perm_loadFskuComponents h.status).mem_iff

/-- The resolver resolves an expandable line. -/
theorem Expandable.resolved (h : Expandable db platform storeCode l sku b f)
    (hplat : normPlatform platform = platform) (hstore : strip storeCode = storeCode)
    (hne : storeCode ≠ "") :
    ∃ r, resolveOne db platform (some storeCode) l.asPlatformLine = .inr r := by
  have hcode : codeOf l.asPlatformLine.filledCode ≠ "" := by
    rw [MirrorLineRow.asPlatformLine, codeOf, h.code, Option.getD_some, h.trimmed]
    exact h.nonblank
  have hcomps : loadFskuComponents db b.fskuId ≠ [] := by
    intro hnil
    have hperm := perm_loadFskuComponents h.status
    rw [hnil] at hperm
    exact h.components hperm.symm.eq_nil
  have hwhole : ¬ Raises (loadFskuComponents db b.fskuId) := by
    rintro ⟨c, hc, hraise⟩
    rw [(h.pieces c (h.mem_components.mp hc)).decToIntQty] at hraise
    cases hraise
  unfold resolveOne
  dsimp only
  rw [if_neg hcode, h.resolveFsku hplat hstore hne]
  dsimp only
  rw [if_neg hcomps, if_neg hwhole]
  exact ⟨_, rfl⟩

/-- Both expansions ask the same of every item. -/
theorem Expandable.sum_adds (h : Expandable db platform storeCode l sku b f)
    (hplat : normPlatform platform = platform) (hstore : strip storeCode = storeCode)
    (hne : storeCode ≠ "") (itemId : Int) :
    ((lineComponentRows db platform storeCode l).map (LineComponentRow.adds itemId)).sum =
      toIntPos l.asPlatformLine.qty *
        unitNeed db platform (some storeCode) itemId (codeOf l.asPlatformLine.filledCode) := by
  have hcode : codeOf l.asPlatformLine.filledCode ≠ "" := by
    rw [MirrorLineRow.asPlatformLine, codeOf, h.code, Option.getD_some, h.trimmed]
    exact h.nonblank
  have hneed : unitNeed db platform (some storeCode) itemId
      (codeOf l.asPlatformLine.filledCode) =
        ((fskuComponentsOf db b.fskuId).map fun c =>
          if c.itemId = itemId then ⌊c.qty⌋ else 0).sum := by
    unfold unitNeed
    rw [if_neg hcode, h.resolveFsku hplat hstore hne]
    dsimp only
    rw [componentNeed_eq_sum fun c hc => h.pieces c (h.mem_components.mp hc)]
    exact ((perm_loadFskuComponents h.status).map _).sum_eq
  rw [hneed, h.line.toIntPos, h.bound.rows h.components, List.map_map]
  generalize fskuComponentsOf db b.fskuId = comps
  induction comps with
  | nil => simp
  | cons c comps ih =>
      rw [List.map_cons, List.sum_cons, List.map_cons, List.sum_cons, ih]
      simp only [Function.comp_apply, LineComponentRow.adds]
      split <;> ring

end Expandable

end Line

end WmsDu
