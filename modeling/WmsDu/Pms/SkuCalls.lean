import WmsDu.Pms.SkuSessions

/-!
# The calls that write SKU codes

Each call, beside calls that keep the codes governed, ends knowing what it has
written.
-/

namespace WmsDu

open Txn

variable {n : Nat}

/-! ## Knowledge -/

/-- What a call knows while the codes are governed. -/
def Known (F : PmsDb → List (PmsRedo n) → Prop) (db : PmsDb) (log : List (PmsRedo n)) : Prop :=
  db.SkuGoverned ∧ F db log

theorem steady_known {F : PmsDb → List (PmsRedo n) → Prop}
    (h : ∀ {w w' log}, F w log → SkuRely (guardsOf log) w w' → F w' log) :
    Steady (skuSetting n) (Known F) :=
  fun _ _ _ hw hrely => ⟨hrely.governed, h hw.2 hrely⟩

theorem steady_started : Steady (skuSetting n) (Known fun _ log => log = []) :=
  steady_known fun h _ => h

theorem steady_wrote : Steady (skuSetting n) (Known SkuWrote) := steady_known SkuWrote.steady

theorem holds_wrote {itemId k : Int} {code : String} {c : Seat PmsDb (PmsLock n) (PmsRedo n)}
    (h : Holds (Known fun w log => Promoted itemId k code w log) c) : Holds (Known SkuWrote) c :=
  ⟨h.1, h.2.1, .promoted h.2.2⟩

/-- The copy of a code that the session answers with. -/
theorem hasCode_recall {db : PmsDb} {loaded : List SkuCodeRow} {r : SkuCodeRow}
    (h : ∀ c ∈ loaded, db.HasCode c) (hr : r ∈ db.skuCodes.rows) :
    db.HasCode (asLoaded SkuCodeRow.id loaded r) ∧
      (asLoaded SkuCodeRow.id loaded r).itemId = r.itemId ∧
      (asLoaded SkuCodeRow.id loaded r).code = r.code := by
  unfold asLoaded
  cases hf : loaded.find? fun o => o.id = r.id with
  | none => exact ⟨⟨r, mem_codes.mp hr, rfl, rfl⟩, rfl, rfl⟩
  | some c =>
      have hid : c.id = r.id := by simpa using List.find?_some hf
      obtain ⟨r', hr', hitem, hcode⟩ := h c (List.mem_of_find?_eq_some hf)
      rw [hid, mem_codes.mp hr] at hr'
      cases hr'
      exact ⟨⟨r, hid ▸ mem_codes.mp hr, hitem, hcode⟩, hitem.symm, hcode.symm⟩

/-- The row a text is looked up under has that text. -/
theorem skuCodeByCode_spec {db : PmsDb} {code : String} {r : SkuCodeRow} (hdb : db.SkuGoverned)
    (hpattern : skuPattern code = true) (h : db.skuCodeByCode code = some r) :
    r ∈ db.skuCodes.rows ∧ r.code = code := by
  have hmem := List.mem_of_find?_eq_some h
  have hlower : lower r.code = lower code := by simpa using List.find?_some h
  exact ⟨hmem, eq_of_lower_eq (hdb.normal r hmem) hpattern hlower⟩

/-! ## Promotions -/

section Promotions
variable {itemId : Int} {code : String}

/-- The item is written with the code. -/
theorem meets_project {F : PmsDb → Prop} {item : ItemMaster} (hid : item.id = itemId)
    (hpattern : skuPattern code = true)
    (hF : ∀ {w w' : PmsDb} {held}, F w → SkuRely (n := n) held w w' → F w') :
    Meets (skuSetting n) (Holds (Known fun w log => Retires itemId code w log ∧ F w))
      (updateItem item { item with sku := code })
      fun _ => Holds (Known fun w log => Prepared itemId code w log ∧ F w) := by
  refine meets_updateItem (steady_known fun h hrely => ⟨h.1.steady hrely, hF h.2 hrely⟩)
    (steady_known fun h hrely => ⟨h.1.steady hrely, hF h.2 hrely⟩) ?_
  rintro w log m ⟨hgov, hretires, hw⟩ hm htimely
  refine ⟨hgov, hretires.prepared rfl ?_ ?_ hpattern, hw⟩
  · intro x
    simp only [PmsRedo.guards, List.mem_cons, PmsLock.item.injEq, hid]
    split <;> simp
  · refine ⟨item.write { item with sku := code } m, ?_, ?_⟩
    · rw [PmsRedo.lookup_items, ← hid, hm]
      simp [PmsRedo.actItem]
    · show column item.sku code m.sku = code
      by_cases hne : code = item.sku
      · have hmem := Table.lookup_eq_some.mp hm
        have hsku : m.sku = item.sku := htimely hne m hmem.1 hmem.2
        rw [hne, column_same, hsku]
      · exact column_ne hne

/-- A new code ends a promotion. -/
theorem meets_insertPrimary (code : String) {F : PmsDb → Prop} {c : SkuCodeRow} (hitem : c.itemId = itemId)
    (hcode : c.code = code) (hprimary : c.isPrimary = true)
    (hP : Steady (skuSetting n) (Known fun w log => Prepared itemId code w log ∧ F w)) :
    Meets (skuSetting n) (Holds (Known fun w log => Prepared itemId code w log ∧ F w))
      (insertCode c) fun _ => Holds (Known fun w log => Promoted itemId c.id code w log) := by
  subst hcode
  refine meets_insertCode hP (steady_known fun h hrely => h.steady hrely) ?_
  rintro w log ⟨hgov, hprep, -⟩ hnew - hfits -
  exact ⟨hgov, hprep.insert hitem hprimary hnew hfits⟩

/-- A stored code ends a promotion. -/
theorem meets_updatePrimary {F : PmsDb → Prop} {old new : SkuCodeRow} (hitem : old.itemId = itemId)
    (hcode : old.code = code) (hprimary : new.isPrimary = true)
    (hF : ∀ {w}, F w → w.HasCode old)
    (hP : Steady (skuSetting n) (Known fun w log => Prepared itemId code w log ∧ F w)) :
    Meets (skuSetting n) (Holds (Known fun w log => Prepared itemId code w log ∧ F w))
      (updateCode old new) fun _ => Holds (Known fun w log => Promoted itemId old.id code w log) := by
  refine meets_updateCode hP (steady_known fun h hrely => h.steady hrely) ?_
  rintro w log r ⟨hgov, hprep, hw⟩ hr hfits htimely
  exact ⟨hgov, hprep.update (hF hw) hitem hcode hprimary hr htimely hfits⟩

theorem meets_promoteCode {item : ItemMaster} {existing : Option SkuCodeRow}
    {remark : Option String} {newId : Int} {now : Timestamp} (hid : item.id = itemId)
    (hpattern : skuPattern code = true)
    (hexisting : ∀ e ∈ existing, e.itemId = itemId ∧ e.code = code) :
    Meets (skuSetting n)
      (Holds (Known fun w log => Retires itemId code w log ∧ ∀ e ∈ existing, w.HasCode e))
      (promoteCode item existing code remark newId now) fun _ => Holds (Known SkuWrote) := by
  unfold promoteCode
  have hcopies : ∀ {w w' : PmsDb} {held}, (∀ e ∈ existing, w.HasCode e) →
      SkuRely (n := n) held w w' → ∀ e ∈ existing, w'.HasCode e :=
    fun h hrely e he => hrely.codeStays e (h e he)
  have hprepared : Steady (skuSetting n)
      (Known fun w log => Prepared itemId code w log ∧ ∀ e ∈ existing, w.HasCode e) :=
    steady_known fun h hrely => ⟨h.1.steady hrely, hcopies h.2 hrely⟩
  refine Meets.bind (meets_project hid hpattern hcopies) fun _ => ?_
  cases existing with
  | none =>
      dsimp only
      exact (meets_insertPrimary code hid rfl rfl hprepared).consequence (fun _ hc => hc)
        fun _ _ hc => holds_wrote hc
  | some e =>
      dsimp only
      obtain ⟨hitem, hcode⟩ := hexisting e rfl
      exact (meets_updatePrimary hitem hcode rfl (fun hw => hw e rfl) hprepared).consequence
        (fun _ hc => hc) fun _ _ hc => holds_wrote hc

/-- **Changing the primary code.** -/
theorem meets_changePrimary (itemId : Int) (body : String) (remark : Option String) (newId : Int)
    (now : Timestamp) :
    Meets (skuSetting n) (Holds (Known fun _ log => log = []))
      (changePrimary itemId body remark newId now) fun _ => Holds (Known SkuWrote) := by
  unfold changePrimary getItem
  refine Meets.bind (M := fun o => Holds fun w log => (∀ m ∈ o, m.id = itemId) ∧
      Known (fun _ log => log = []) w log)
    (Meets.read steady_started (fun _ => steady_started.fact) ?_) fun o => Meets.fact fun hid => ?_
  · rintro w log ⟨hgov, rfl⟩
    exact ⟨fun m hm => (Table.lookup_eq_some.mp hm).2, hgov, rfl⟩
  refine Meets.bind (Meets.requireSome steady_started) fun item => Meets.fact fun ho => ?_
  subst ho
  have hid : item.id = itemId := hid item rfl
  have hloaded : ∀ loaded : List SkuCodeRow, Steady (skuSetting n)
      (Known fun w log => log = [] ∧ ∀ c ∈ loaded, w.HasCode c) :=
    fun loaded => steady_known fun h hrely => ⟨h.1, fun c hc => hrely.codeStays c (h.2 c hc)⟩
  refine Meets.bind (M := fun loaded =>
      Holds (Known fun w log => log = [] ∧ ∀ c ∈ loaded, w.HasCode c))
    (Meets.read steady_started hloaded ?_) fun loaded => ?_
  · rintro w log ⟨hgov, rfl⟩
    refine ⟨hgov, rfl, fun c hc => ?_⟩
    exact ⟨c, mem_codes.mp (List.mem_filter.mp hc).1, rfl, rfl⟩
  refine Meets.bind (Meets.ofExcept (hloaded loaded)) fun code => Meets.fact fun hcode => ?_
  have hpattern := skuPattern_of_normalizeCode hcode
  refine Meets.bind (M := fun existing => Holds fun w log => (∀ e ∈ existing, e.code = code) ∧
      Known (fun w log => log = [] ∧ ∀ c ∈ existing.toList ++ loaded, w.HasCode c) w log)
    (Meets.read (hloaded loaded) (fun _ => (hloaded _).fact) ?_)
    fun existing => Meets.fact fun htext => ?_
  · rintro w log ⟨hgov, rfl, hcopies⟩
    cases hf : w.skuCodeByCode code with
    | none =>
        have hnone : (redo ([] : List (PmsRedo n)) w).skuCodeByCode code = none := hf
        rw [hnone]
        exact ⟨by simp, hgov, rfl, by simpa using hcopies⟩
    | some r =>
        have hsome : (redo ([] : List (PmsRedo n)) w).skuCodeByCode code = some r := hf
        obtain ⟨hmem, htext⟩ := skuCodeByCode_spec hgov hpattern hf
        obtain ⟨hcopy, -, hsame⟩ := hasCode_recall hcopies hmem
        rw [hsome]
        refine ⟨?_, hgov, rfl, ?_⟩
        · intro e he
          obtain rfl := Option.some.inj he
          exact hsame.trans htext
        · intro c hc
          rcases List.mem_cons.mp hc with rfl | hc
          · exact hcopy
          · exact hcopies c hc
  refine Meets.bind (Meets.require (hloaded _)) fun _ => Meets.fact fun howner => ?_
  dsimp only
  have hcopies : ∀ {w : PmsDb}, (∀ c ∈ existing.toList ++ loaded, w.HasCode c) →
      ∀ e ∈ existing, w.HasCode e :=
    fun h e he => h e (List.mem_append_left _ (by rw [Option.mem_def.mp he]; simp))
  have hold : ∀ o : Option SkuCodeRow, Steady (skuSetting n) (Known fun w log => log = [] ∧
      (∀ e ∈ existing, w.HasCode e) ∧ ∀ c ∈ o, w.HasCode c) :=
    fun o => steady_known fun h hrely => ⟨h.1, fun e he => hrely.codeStays e (h.2.1 e he),
      fun c hc => hrely.codeStays c (h.2.2 c hc)⟩
  refine Meets.bind (M := fun o => Holds fun w log => (∀ c ∈ o, c.itemId = itemId) ∧
      Known (fun w log => log = [] ∧ (∀ e ∈ existing, w.HasCode e) ∧ ∀ c ∈ o, w.HasCode c) w log)
    (Meets.read (hloaded _) (fun o => (hold o).fact) ?_) fun o => Meets.fact fun hmine => ?_
  · rintro w log ⟨hgov, rfl, hall⟩
    cases hf : w.primarySkuCode itemId with
    | none =>
        have hnone : (redo ([] : List (PmsRedo n)) w).primarySkuCode itemId = none := hf
        rw [hnone]
        exact ⟨by simp, hgov, rfl, hcopies hall, by simp⟩
    | some r =>
        have hsome : (redo ([] : List (PmsRedo n)) w).primarySkuCode itemId = some r := hf
        have hprimary : r.itemId = itemId ∧ r.isPrimary = true := by simpa using List.find?_some hf
        obtain ⟨hcopy, hitem, -⟩ := hasCode_recall hall (List.mem_of_find?_eq_some hf)
        rw [hsome]
        refine ⟨?_, hgov, rfl, hcopies hall, ?_⟩
        · intro c hc
          obtain rfl := Option.some.inj hc
          exact hitem.trans hprimary.1
        · intro c hc
          obtain rfl := Option.some.inj hc
          exact hcopy
  have hexisting : ∀ e ∈ existing, e.itemId = itemId ∧ e.code = code :=
    fun e he => ⟨howner e he, htext e he⟩
  cases o with
  | none =>
      refine Meets.mapErr (Meets.weaken ?_ (meets_promoteCode hid hpattern hexisting))
      rintro w log ⟨hgov, rfl, hw, -⟩
      exact ⟨hgov, .nothing, hw⟩
  | some old =>
      have hitem : old.itemId = itemId := hmine old rfl
      dsimp only
      split
      · rename_i hsame
        refine Meets.weaken (P := Known fun w log => Retires itemId code w log ∧ w.HasCode old) ?_ ?_
        · rintro w log ⟨hgov, rfl, -, hw⟩
          exact ⟨hgov, .nothing, hw old rfl⟩
        refine Meets.bind (meets_project hid hpattern fun h hrely => hrely.codeStays _ h) fun _ => ?_
        have hprepared : Steady (skuSetting n)
            (Known fun w log => Prepared itemId code w log ∧ w.HasCode old) :=
          steady_known fun h hrely => ⟨h.1.steady hrely, hrely.codeStays _ h.2⟩
        exact (meets_updatePrimary hitem hsame rfl (fun hw => hw) hprepared).consequence
          (fun _ hc => hc) fun _ _ hc => holds_wrote hc
      · rename_i hother
        refine Meets.bind (meets_updateCode (Q := Known fun w log => Retires itemId code w log ∧
          ∀ e ∈ existing, w.HasCode e) (hold (some old)) ?_ ?_) fun _ => ?_
        · exact steady_known fun h hrely => ⟨h.1.steady hrely,
            fun e he => hrely.codeStays e (h.2 e he)⟩
        · rintro w log r ⟨hgov, rfl, hw, hcopy⟩ - - -
          exact ⟨hgov, .demotes _ (hcopy old rfl) hitem hother, hw⟩
        · exact Meets.mapErr (meets_promoteCode hid hpattern hexisting)

end Promotions

/-! ## New items -/

/-- The item of a call is not there before it commits. -/
theorem not_hasKey_of_locked {w w' : PmsDb} {held : List (PmsLock n)} {k : Int}
    (h : ¬ w.items.HasKey k) (hk : PmsLock.item k ∈ held) (hrely : SkuRely held w w') :
    ¬ w'.items.HasKey k := by
  rw [Table.hasKey_iff_isSome] at h ⊢
  rwa [show w'.items.lookup k = w.items.lookup k from hrely.items k hk]

/-- The first code of an item. -/
theorem meets_createPrimaryCode {itemId : Int} {code : String} (remark : Option String)
    (newId : Int) (now : Timestamp) :
    Meets (skuSetting n)
      (Holds (Known fun w log => Prepared itemId code w log ∧ ¬ w.items.HasKey itemId))
      (createPrimaryCodeInCurrentTx itemId code remark newId now)
      fun _ => Holds (Known fun w log => Promoted itemId newId code w log) := by
  have hprepared : Steady (skuSetting n)
      (Known fun w log => Prepared itemId code w log ∧ ¬ w.items.HasKey itemId) :=
    steady_known fun h hrely =>
      ⟨h.1.steady hrely, not_hasKey_of_locked h.2 ((h.1.locks itemId).mpr rfl) hrely⟩
  unfold createPrimaryCodeInCurrentTx
  refine Meets.bind (M := fun code' => Holds fun w log => code' = code ∧
    Known (fun w log => Prepared itemId code w log ∧ ¬ w.items.HasKey itemId) w log) ?_
    fun code' => Meets.fact fun hcode => ?_
  · refine (Meets.ofExcept hprepared).consequence (fun _ hc => hc) fun code' c hc => ?_
    obtain ⟨hheld, hnorm, hgov, hprep, hnot⟩ := hc
    have hself := (normalizeCode_of_lower_eq "sku code" hprep.pattern rfl).2
    exact ⟨hheld, (Except.ok.inj (hnorm.symm.trans hself)), hgov, hprep, hnot⟩
  subst hcode
  refine Meets.bind (M := fun existing => Holds fun w log => (∀ c ∈ existing, c.itemId ≠ itemId) ∧
      Known (fun w log => Prepared itemId code' w log ∧ ¬ w.items.HasKey itemId) w log)
    (Meets.read hprepared (fun _ => hprepared.fact) ?_) fun existing => Meets.fact fun hother => ?_
  · rintro w log ⟨hgov, hprep, hnot⟩
    refine ⟨fun c hc hitem => hnot ?_, hgov, hprep, hnot⟩
    -- a code of the item would be one of the committed codes
    obtain ⟨r, hr, hritem, -⟩ := hprep.row (mem_codes.mp (List.mem_of_find?_eq_some hc))
    rw [← hitem, ← hritem]
    exact hgov.owned r (mem_codes_of_lookup hr).1
  cases existing with
  | some c =>
      refine (Meets.require hprepared).consequence (fun _ hc => hc) fun _ d hd => ?_
      exact absurd hd.2.1.1 (hother c rfl)
  | none => exact meets_insertPrimary code' rfl rfl rfl hprepared

/-- **Creating an item.** -/
theorem meets_newItem {m : ItemMaster} (remark : Option String) (codeId : Int) (now : Timestamp)
    {rest : PmsTx n Unit} (hpattern : skuPattern m.sku = true)
    (hrest : rest.Writes fun _ u => u.table ≠ .items ∧ u.table ≠ .codes) :
    Meets (skuSetting n) (Holds (Known fun _ log => log = []))
      (do
        insertItem m
        createPrimaryCodeInCurrentTx m.id m.sku remark codeId now
        rest)
      fun _ => Holds (Known SkuWrote) := by
  refine Meets.bind (M := fun _ => Holds (Known fun w log =>
    Prepared m.id m.sku w log ∧ ¬ w.items.HasKey m.id)) ?_ fun _ => ?_
  · refine meets_insertItem steady_started (steady_known fun h hrely =>
      ⟨h.1.steady hrely, not_hasKey_of_locked h.2 ((h.1.locks _).mpr rfl) hrely⟩) ?_
    rintro w log ⟨hgov, rfl⟩ hnew -
    refine ⟨hgov, Retires.prepared .nothing rfl ?_ ⟨m, ?_, rfl⟩ hpattern, hnew⟩
    · intro x
      simp [PmsRedo.guards]
    · have hnone : w.items.lookup m.id = none := by
        rw [Table.hasKey_iff_isSome] at hnew
        simpa using hnew
      rw [PmsRedo.lookup_items, redo_nil, hnone]
      simp [PmsRedo.actItem]
  refine Meets.bind (meets_createPrimaryCode remark codeId now) fun _ => ?_
  have hpromoted : Steady (skuSetting n) (Known (Promoted m.id codeId m.sku)) :=
    steady_known fun h hrely => h.steady hrely
  refine (Meets.writes hrest hpromoted ?_).consequence (fun _ hc => hc) fun _ _ hc => holds_wrote hc
  rintro w log us ⟨hgov, hprom⟩ hus
  exact ⟨hgov, hprom.append hus⟩

/-- What reads only. -/
theorem meets_silent {α : Type} {x : PmsTx n α} (hx : x.Writes fun _ _ => False) :
    Meets (skuSetting n) (Holds (Known fun _ log => log = [])) x
      fun _ => Holds (Known fun _ log => log = []) :=
  Meets.silent hx steady_started

theorem meets_createItem (input : ItemInput) (draws : ItemDraws) (now : Timestamp) :
    Meets (skuSetting n) (Holds (Known fun _ log => log = [])) (createItem input draws now)
      fun _ => Holds (Known SkuWrote) := by
  unfold createItem
  refine Meets.bind (Meets.ofExcept steady_started) fun sku => Meets.fact fun hsku => ?_
  refine Meets.bind (Meets.ofExcept steady_started) fun name => Meets.fact fun _ => ?_
  refine Meets.bind (meets_silent (writes_silent_validateBrandId _)) fun _ => ?_
  refine Meets.bind (meets_silent (writes_silent_validateCategoryId _)) fun _ => ?_
  refine Meets.bind (Meets.ofExcept steady_started) fun policy => Meets.fact fun _ => ?_
  refine Meets.mapErr (meets_newItem (m := input.row draws.itemId sku name policy) _ _ _
    (skuPattern_of_normalizeCode hsku) ?_)
  exact (writes_insertUom _).mono fun _ u hu => by rw [hu]; decide

theorem meets_createAggregate (conn : Fin n) (payload : ItemAggregatePayload) (draws : ItemDraws)
    (now : Timestamp) :
    Meets (skuSetting n) (Holds (Known fun _ log => log = []))
      (createAggregate conn payload draws now) fun _ => Holds (Known SkuWrote) := by
  unfold createAggregate
  refine Meets.bind (Meets.ofExcept steady_started) fun sku => Meets.fact fun hsku => ?_
  refine Meets.bind (Meets.ofExcept steady_started) fun name => Meets.fact fun _ => ?_
  refine Meets.bind (Meets.ofExcept steady_started) fun policy => Meets.fact fun _ => ?_
  refine Meets.bind (meets_silent (writes_silent_validateBrandId _)) fun _ => ?_
  refine Meets.bind (meets_silent (writes_silent_validateCategoryId _)) fun _ => ?_
  refine Meets.mapErr (meets_newItem (m := payload.item.row draws.itemId sku name policy) _ _ _
    (skuPattern_of_normalizeCode hsku) ?_)
  have huoms : ∀ (w : PmsDb) (u : PmsRedo n), u.table = .uoms → u.table ≠ .items ∧ u.table ≠ .codes :=
    fun _ u hu => by rw [hu]; decide
  have hbarcodes : ∀ (w : PmsDb) (u : PmsRedo n), u.table = .barcodes →
      u.table ≠ .items ∧ u.table ≠ .codes := fun _ u hu => by rw [hu]; decide
  refine Prog.writes_bind ((writes_upsertUoms _ _ _ _).mono huoms) fun keys => ?_
  refine Prog.writes_bind ((writes_syncBarcodes _ _ _ _ _ _).mono hbarcodes) fun objs => ?_
  exact Prog.writes_bind ((writes_flushBarcodes _ _).mono hbarcodes) fun _ => Prog.writes_pure _

/-! ## Plain codes -/

theorem meets_createCode (itemId : Int) (body : ItemSkuCodeCreate) (newId : Int) :
    Meets (skuSetting n) (Holds (Known fun _ log => log = [])) (createCode itemId body newId)
      fun _ => Holds (Known SkuWrote) := by
  unfold createCode getItem
  refine Meets.bind (M := fun _ => Holds (Known fun _ log => log = []))
    (Meets.read steady_started (fun _ => steady_started) fun _ _ h => h) fun item => ?_
  refine Meets.bind (Meets.requireSome steady_started) fun _ => Meets.fact fun _ => ?_
  refine Meets.bind (Meets.ofExcept steady_started) fun code => Meets.fact fun hcode => ?_
  refine Meets.bind (Meets.require steady_started) fun _ => Meets.fact fun _ => ?_
  refine Meets.bind (M := fun _ => Holds (Known fun _ log => log = []))
    (Meets.read steady_started (fun _ => steady_started) fun _ _ h => h) fun existing => ?_
  refine Meets.bind (Meets.require steady_started) fun _ => Meets.fact fun _ => ?_
  refine Meets.mapErr (meets_insertCode steady_started steady_wrote ?_)
  rintro w log ⟨hgov, rfl⟩ hnew howned hfits -
  refine ⟨hgov, .added ⟨rfl, rfl, howned, skuPattern_of_normalizeCode hcode, ?_, ?_⟩⟩
  · rw [Table.hasKey_iff_isSome] at hnew
    simpa using hnew
  · intro x r hr heq
    obtain ⟨hmem, -⟩ := mem_codes_of_lookup hr
    exact hnew ⟨r, hmem, hfits.text r hmem heq⟩

/-- Switching a code on or off. -/
theorem meets_switchCode {itemId codeId : Int} {f : SkuCodeRow → SkuCodeRow}
    {k : SkuCodeRow → PmsTx n Unit}
    (hk : ∀ obj, Meets (skuSetting n)
      (Holds (Known fun w log => log = [] ∧ w.HasCode obj)) (k obj)
      fun _ => Holds (Known fun w log => log = [] ∧ w.HasCode obj))
    (hf : ∀ c, (f c).isPrimary = c.isPrimary) :
    Meets (skuSetting n) (Holds (Known fun _ log => log = []))
      (do
        let obj ← getSkuCodeOfItem itemId codeId
        k obj
        updateCode obj (f obj))
      fun _ => Holds (Known SkuWrote) := by
  have hloaded : ∀ o : Option SkuCodeRow, Steady (skuSetting n)
      (Known fun w log => log = [] ∧ ∀ c ∈ o, w.HasCode c) :=
    fun o => steady_known fun h hrely => ⟨h.1, fun c hc => hrely.codeStays c (h.2 c hc)⟩
  have hcopy : ∀ obj : SkuCodeRow, Steady (skuSetting n)
      (Known fun w log => log = [] ∧ w.HasCode obj) :=
    fun obj => steady_known fun h hrely => ⟨h.1, hrely.codeStays obj h.2⟩
  refine Meets.bind (M := fun obj => Holds (Known fun w log => log = [] ∧ w.HasCode obj)) ?_
    fun obj => Meets.bind (hk obj) fun _ => ?_
  · unfold getSkuCodeOfItem
    refine Meets.bind (M := fun o => Holds (Known fun w log => log = [] ∧ ∀ c ∈ o, w.HasCode c))
      (Meets.read steady_started hloaded ?_) fun o => ?_
    · rintro w log ⟨hgov, rfl⟩
      refine ⟨hgov, rfl, fun c hc => ?_⟩
      exact ⟨c, mem_codes.mp (mem_codes_of_lookup hc).1, rfl, rfl⟩
    refine Meets.bind (Meets.requireSome (hloaded o)) fun obj => Meets.fact fun ho => ?_
    subst ho
    refine Meets.bind (Meets.require (hloaded _)) fun _ => Meets.fact fun _ => ?_
    refine Meets.weaken ?_ (Meets.ret (Q := fun obj =>
      Known fun w log => log = [] ∧ w.HasCode obj) (hcopy obj))
    rintro w log ⟨hgov, rfl, h⟩
    exact ⟨hgov, rfl, h obj rfl⟩
  · refine meets_updateCode (hcopy obj) steady_wrote ?_
    rintro w log r ⟨hgov, rfl, r', hr', hitem, hcode⟩ hr hfits -
    have hsame : r = r' := Option.some.inj (hr.symm.trans hr')
    subst hsame
    refine ⟨hgov, .switched ⟨rfl, hf obj, r, hr', hitem, hcode, fun hp => ?_⟩⟩
    have hset : (obj.write (f obj) r).isPrimary = true := by
      show column obj.isPrimary (f obj).isPrimary r.isPrimary = true
      rw [hf obj, column_same]
      exact hp
    exact ⟨hfits.active hset, hfits.lasting hset⟩

theorem meets_disableCode (itemId codeId : Int) (now : Timestamp) :
    Meets (skuSetting n) (Holds (Known fun _ log => log = [])) (disableCode itemId codeId now)
      fun _ => Holds (Known SkuWrote) := by
  refine meets_switchCode (k := fun obj => Prog.require (¬ obj.isPrimary)
    (.valueError "primary sku code cannot be disabled")) (fun obj => ?_) fun _ => rfl
  refine (Meets.require ?_).consequence (fun _ hc => hc) fun _ _ hc => ⟨hc.1, hc.2.2⟩
  exact steady_known fun h hrely => ⟨h.1, hrely.codeStays obj h.2⟩

theorem meets_enableCode (itemId codeId : Int) :
    Meets (skuSetting n) (Holds (Known fun _ log => log = [])) (enableCode itemId codeId)
      fun _ => Holds (Known SkuWrote) := by
  refine meets_switchCode (k := fun _ => pure ()) (fun obj => ?_) fun _ => rfl
  exact Meets.ret (Q := fun _ => Known fun w log => log = [] ∧ w.HasCode obj)
    (steady_known fun h hrely => ⟨h.1, hrely.codeStays obj h.2⟩)

/-! ## The discipline -/

/-- **One call.** -/
theorem SkuCall.meets (op : SkuCall n) :
    Meets (skuSetting n) (Holds (Known fun _ log => log = [])) op.prog
      fun _ => Holds (Known SkuWrote) := by
  cases op with
  | createItem input draws now => exact meets_createItem input draws now
  | createAggregate conn payload draws now => exact meets_createAggregate conn payload draws now
  | createCode itemId body newId => exact meets_createCode itemId body newId
  | disableCode itemId codeId now => exact meets_disableCode itemId codeId now
  | enableCode itemId codeId => exact meets_enableCode itemId codeId
  | changePrimary itemId code remark newId now =>
      exact meets_changePrimary itemId code remark newId now

/-- Calls whose updates are timely keep the codes governed. -/
def skuDiscipline (n : Nat) :
    Discipline (SkuCall.prog (n := n)) (skuTerms n) (PmsLock n) (PmsRedo n) where
  inv := PmsDb.SkuGoverned
  rely _ := SkuRely
  done _ _ := Holds (Known SkuWrote)
  post _ _ _ := True
  meets op := op.meets.consequence (fun c hc => by rw [hc.2]; exact ⟨rfl, hc.1, rfl⟩)
    fun _ _ hc => hc
  keeps hdone hinv := hdone.2.2.governed hinv
  guarantee := by
    intro op a c op' held hdone hinv _ hdis
    exact skuRely_redo (by rw [← hdone.1]; exact hdis) hdone.2.2.copies (hdone.2.2.governed hinv)
  answers _ _ := trivial
  lasting _ _ _ := trivial

end WmsDu
