import WmsDu.Inbound.ReceiptCreation

/-!
# Live receipts under interference

A creation looks for a receipt of its source in one statement and inserts its
own in another. That there was none stays true while no other creation for the
source is in flight; a release neither adds a receipt nor revives one.
-/

namespace WmsDu

open Txn

/-! ## Sources -/

/-- The document a receipt was made from. -/
def InboundReceipt.source (r : InboundReceipt) : Option (ReceiptSourceType × Int) :=
  match r.sourceType, r.sourceDocId with
  | .manual, _ | _, none => none
  | kind, some docId => some (kind, docId)

/-- The receipt is not voided. -/
abbrev InboundReceipt.Live (r : InboundReceipt) : Prop := r.status ≠ .voided

/-- At most one live receipt for each source. -/
def ReceiptDb.OneLive (db : ReceiptDb) : Prop :=
  ∀ r ∈ db.receipts.rows, ∀ s ∈ db.receipts.rows,
    r.Live → s.Live → r.source ≠ none → r.source = s.source → r.id = s.id

instance ReceiptDb.decidableOneLive (db : ReceiptDb) : Decidable db.OneLive :=
  inferInstanceAs (Decidable (∀ r ∈ db.receipts.rows, ∀ s ∈ db.receipts.rows, _ → _ → _))

/-- No live receipt of a source. -/
def ReceiptDb.NoLive (db : ReceiptDb) (source : ReceiptSourceType × Int) : Prop :=
  ∀ r ∈ db.receipts.rows, r.source = some source → ¬ r.Live

/-- The source a call creates a receipt for. -/
def ReceiptCall.source (db : ReceiptDb) : ReceiptCall → Option (ReceiptSourceType × Int)
  | .fromPurchase payload _ => some (.purchaseOrder, payload.sourceDocId)
  | .fromReturnOrder payload _ =>
      (resolveOrderIdentity payload.orderKey db.oms).toOption.map fun o => (.returnOrder, o.id)
  | .release _ => none

/-- No two creations for one source are in flight together; what sources the
calls name, the orders at hand say. -/
def creationTerms (db : ReceiptDb) : Terms ReceiptCall (Stmt ReceiptDb ReceiptRedo Err) ReceiptDb :=
  .fitting (fun _ _ => True) (fun a b => ∀ s ∈ a.source db, b.source db ≠ some s)
    fun _ _ h s hs ha => h s ha hs

instance creationTerms.decidableTogether (db : ReceiptDb) (a b : ReceiptCall) :
    Decidable ((creationTerms db).together a b) :=
  inferInstanceAs (Decidable (∀ s ∈ a.source db, _))

instance creationTerms.decidableIssue (db : ReceiptDb) {β : Type}
    (s : Stmt ReceiptDb ReceiptRedo Err β) (w : ReceiptDb) :
    Decidable ((creationTerms db).issue s w) :=
  isTrue fun _ _ => trivial

/-- The two databases differ in receipts and their lines at most. -/
def ReceiptDb.SameSources (db db' : ReceiptDb) : Prop := ∃ t u, db' = db.withReceipts t u

theorem ReceiptDb.SameSources.refl (db : ReceiptDb) : db.SameSources db := ⟨_, _, rfl⟩

theorem ReceiptDb.SameSources.trans {a b c : ReceiptDb} (h : a.SameSources b)
    (h' : b.SameSources c) : a.SameSources c := by
  obtain ⟨t, u, rfl⟩ := h
  obtain ⟨t', u', rfl⟩ := h'
  exact ⟨t', u', rfl⟩

/-- An order is resolved by the order heads alone. -/
theorem resolveOrderIdentity_congr {db db' : OmsDb} (h : db'.wms.orders = db.wms.orders)
    (orderKey : String) : resolveOrderIdentity orderKey db' = resolveOrderIdentity orderKey db := by
  simp only [resolveOrderIdentity, resolveOrderId, orderByKey, ordersByExtOrderNo, h]

theorem ReceiptDb.SameSources.source {db db' : ReceiptDb} (h : db.SameSources db')
    (op : ReceiptCall) : op.source db' = op.source db := by
  obtain ⟨t, u, rfl⟩ := h
  cases op with
  | fromPurchase payload c => rfl
  | fromReturnOrder payload c =>
      unfold ReceiptCall.source
      dsimp only
      rw [@resolveOrderIdentity_congr db.oms (db.withReceipts t u).oms rfl]
  | release receiptId => rfl

/-- What the commits of others do to the state a call runs in. -/
structure ReceiptRely (init : ReceiptDb) (op : ReceiptCall) (db db' : ReceiptDb) : Prop where
  same : db.SameSources db'
  noLive : ∀ s ∈ op.source init, db.NoLive s → db'.NoLive s

def creationSetting (init : ReceiptDb) (op : ReceiptCall) :
    Setting (Stmt ReceiptDb ReceiptRedo Err) ReceiptDb ReceiptLock :=
  .fitting (fun _ _ => True) fun _ => ReceiptRely init op

/-! ## Records -/

section Records
variable {db : ReceiptDb} {log : List ReceiptRedo}

theorem ReceiptRedo.apply_sameSources (u : ReceiptRedo) (db : ReceiptDb) :
    db.SameSources (u.apply db) := by
  cases u <;> exact ⟨_, _, rfl⟩

theorem redo_sameSources (log : List ReceiptRedo) (db : ReceiptDb) : db.SameSources (redo log db) :=
  redo_preserves (I := fun w : ReceiptDb => db.SameSources w)
    (fun u _ w hw => hw.trans (u.apply_sameSources w)) (.refl db)

/-- Lines leave the receipts alone. -/
theorem redo_lines (ls : List InboundReceiptLine) :
    (redo (ls.map ReceiptRedo.lineInsert) db).receipts = db.receipts := by
  refine redo_frame (f := ReceiptDb.receipts) fun u hu w => ?_
  obtain ⟨l, -, rfl⟩ := List.mem_map.mp hu
  rfl

/-- The receipts after a release: one draft may be released. -/
theorem mem_release {id : Int} {r : InboundReceipt} :
    r ∈ ((ReceiptRedo.release id).apply db).receipts.rows ↔ ∃ s ∈ db.receipts.rows,
      r = if s.id = id ∧ s.status = .draft then { s with status := .released } else s :=
  Table.mem_update (f := fun r : InboundReceipt => { r with status := .released }) fun _ => rfl

/-- A released receipt has the source it had and was live already. -/
theorem exists_of_mem_release {id : Int} {r : InboundReceipt}
    (h : r ∈ ((ReceiptRedo.release id).apply db).receipts.rows) :
    ∃ s ∈ db.receipts.rows, s.id = r.id ∧ s.source = r.source ∧ (r.Live ↔ s.Live) := by
  obtain ⟨s, hs, rfl⟩ := mem_release.mp h
  refine ⟨s, hs, ?_⟩
  split
  · rename_i hdraft
    refine ⟨rfl, rfl, iff_of_true nofun ?_⟩
    show s.status ≠ .voided
    rw [hdraft.2]
    exact nofun
  · exact ⟨rfl, rfl, Iff.rfl⟩

end Records

/-! ## What a call has written -/

/-- What a finished call wrote, and what it knows of the committed state. -/
def ReceiptCall.Wrote (init : ReceiptDb) (op : ReceiptCall) (db : ReceiptDb)
    (log : List ReceiptRedo) : Prop :=
  (∃ id, log = [] ∨ log = [.release id]) ∨
  ∃ r, ∃ ls : List InboundReceiptLine, ∃ s, log = .receiptInsert r :: ls.map .lineInsert ∧
    r.source = some s ∧ op.source init = some s ∧ db.NoLive s

section Commit
variable {init db : ReceiptDb} {op op' : ReceiptCall} {log : List ReceiptRedo}

/-- **Commit.** There still is at most one live receipt for each source. -/
theorem ReceiptCall.Wrote.oneLive (h : op.Wrote init db log) (hdb : db.OneLive) :
    (redo log db).OneLive := by
  rcases h with ⟨id, rfl | rfl⟩ | ⟨r, ls, s, rfl, hr, -, hfree⟩
  · exact hdb
  · intro a ha b hb hla hlb hsome hab
    obtain ⟨a', ha', hida, hsa, hlive⟩ := exists_of_mem_release ha
    obtain ⟨b', hb', hidb, hsb, hlive'⟩ := exists_of_mem_release hb
    rw [← hida, ← hidb]
    refine hdb a' ha' b' hb' (hlive.mp hla) (hlive'.mp hlb) ?_ ?_
    · rw [hsa]
      exact hsome
    · rw [hsa, hsb]
      exact hab
  · unfold ReceiptDb.OneLive
    rw [redo_cons, redo_lines]
    intro a ha b hb hla hlb hsome hab
    rcases Table.mem_of_mem_insert ha with ha' | rfl <;>
      rcases Table.mem_of_mem_insert hb with hb' | rfl
    · exact hdb a ha' b hb' hla hlb hsome hab
    · exact absurd hla (hfree a ha' (hab.trans hr))
    · exact absurd hlb (hfree b hb' (hab.symm.trans hr))
    · rfl

/-- **Commit.** A source that the call does not create for gets no receipt. -/
theorem ReceiptCall.Wrote.noLive (h : op.Wrote init db log) {s : ReceiptSourceType × Int}
    (hs : op.source init ≠ some s) (hfree : db.NoLive s) : (redo log db).NoLive s := by
  rcases h with ⟨id, rfl | rfl⟩ | ⟨r, ls, t, rfl, hr, ht, -⟩
  · exact hfree
  · intro a ha hsource hlive
    obtain ⟨a', ha', -, hsa, hl⟩ := exists_of_mem_release ha
    exact hfree a' ha' (hsa.trans hsource) (hl.mp hlive)
  · unfold ReceiptDb.NoLive
    rw [redo_cons, redo_lines]
    intro a ha hsource
    rcases Table.mem_of_mem_insert ha with ha | rfl
    · exact hfree a ha hsource
    · rw [hr] at hsource
      exact absurd (ht.trans hsource) hs

/-- A commit is what the calls in flight rely on. -/
theorem ReceiptCall.Wrote.rely (h : op.Wrote init db log)
    (htog : (creationTerms init).together op' op) : ReceiptRely init op' db (redo log db) where
  same := redo_sameSources log db
  noLive := fun s hs hfree => h.noLive (htog s hs) hfree

/-- What a finished call wrote stays so until it commits. -/
theorem ReceiptCall.steady_wrote (op : ReceiptCall) :
    Steady (creationSetting init op) (op.Wrote init) := by
  intro w w' log h hrely
  rcases h with h | ⟨r, ls, s, hlog, hr, hs, hfree⟩
  · exact .inl h
  · exact .inr ⟨r, ls, s, hlog, hr, hs, hrely.noLive s hs hfree⟩

end Commit

/-! ## The calls -/

section Calls
variable {init : ReceiptDb} {op : ReceiptCall} {s : ReceiptSourceType × Int}

/-- Nothing is written yet. -/
def Begun (init : ReceiptDb) (db : ReceiptDb) (log : List ReceiptRedo) : Prop :=
  log = [] ∧ init.SameSources db

theorem steady_begun' : Steady (creationSetting init op) (Begun init) :=
  fun _ _ _ h hrely => ⟨h.1, h.2.trans hrely.same⟩

/-- The source was found to have no receipt. -/
def Vacant (s : ReceiptSourceType × Int) (db : ReceiptDb)
    (log : List ReceiptRedo) : Prop :=
  log = [] ∧ db.NoLive s

theorem steady_vacant (hs : op.source init = some s) :
    Steady (creationSetting init op) (Vacant s) :=
  fun _ _ _ h hrely => ⟨h.1, hrely.noLive s hs h.2⟩

/-- The head is written, and some lines. -/
def Created (s : ReceiptSourceType × Int) (db : ReceiptDb) (log : List ReceiptRedo) : Prop :=
  ∃ r ls, log = .receiptInsert r :: List.map ReceiptRedo.lineInsert ls ∧ r.source = some s ∧
    db.NoLive s

theorem steady_created (hs : op.source init = some s) :
    Steady (creationSetting init op) (Created s) := by
  rintro w w' log ⟨r, ls, hlog, hr, hfree⟩ hrely
  exact ⟨r, ls, hlog, hr, hrely.noLive s hs hfree⟩

/-- Where no receipt was found, none is live. -/
theorem ReceiptDb.noLive_of_existing {db : ReceiptDb} {kind : ReceiptSourceType} {docId : Int}
    (h : existingReceipt kind docId db.oms.wms = none) : db.NoLive (kind, docId) := by
  intro r hr hsource hlive
  unfold existingReceipt at h
  rw [List.head?_eq_none_iff] at h
  have hmem : r ∈ (db.receipts.rows.filter fun r => r.sourceType = kind ∧
      r.sourceDocId = some docId ∧ r.status ≠ .voided).insertionSort fun a b => b.id ≤ a.id := by
    refine (List.mem_insertionSort _).mpr (List.mem_filter.mpr ⟨hr, decide_eq_true ?_⟩)
    unfold InboundReceipt.source at hsource
    split at hsource
    · cases hsource
    · cases hsource
    · rename_i hdoc _
      cases hsource
      exact ⟨rfl, hdoc, hlive⟩
  rw [h] at hmem
  cases hmem

theorem meets_insertReceipt (hs : op.source init = some s) {r : InboundReceipt}
    (hr : r.source = some s) :
    Meets (creationSetting init op) (Holds (Vacant s)) (insertReceipt r)
      (fun _ => Holds (Created s)) := by
  refine Meets.write (steady_vacant hs) (fun _ => steady_created hs) ?_
  rintro w log a us ⟨rfl, hfree⟩ - hrun
  obtain ⟨-, -, hrun⟩ := bind_eq_ok.mp hrun
  obtain ⟨-, -, hrun⟩ := bind_eq_ok.mp hrun
  cases hrun
  exact ⟨r, [], rfl, hr, hfree⟩

theorem meets_insertReceiptLine (hs : op.source init = some s) (l : InboundReceiptLine) :
    Meets (creationSetting init op) (Holds (Created s)) (insertReceiptLine l)
      (fun _ => Holds (Created s)) := by
  refine Meets.write (steady_created hs) (fun _ => steady_created hs) ?_
  rintro w log a us ⟨r, ls, rfl, hr, hfree⟩ - hrun
  obtain ⟨-, -, hrun⟩ := bind_eq_ok.mp hrun
  cases hrun
  exact ⟨r, ls ++ [l], by simp, hr, hfree⟩

theorem meets_insertReceiptLines (hs : op.source init = some s) (ls : List InboundReceiptLine) :
    Meets (creationSetting init op) (Holds (Created s)) (insertReceiptLines ls)
      (fun _ => Holds (Created s)) := by
  induction ls with
  | nil => exact Meets.ret (Q := fun _ => Created s) (steady_created hs)
  | cons l ls ih => exact Meets.bind (meets_insertReceiptLine hs l) fun _ => ih

theorem meets_insertReturnOrderLines (hs : op.source init = some s) (source : ReturnSource)
    (receiptId lineNo : Int) (seen : List Int) (lines : List ReturnReceiptLineIn) :
    Meets (creationSetting init op) (Holds (Created s))
      (insertReturnOrderLines source receiptId lineNo seen lines) (fun _ => Holds (Created s)) := by
  induction lines generalizing lineNo seen with
  | nil => exact Meets.ret (Q := fun _ => Created s) (steady_created hs)
  | cons line rest ih =>
      unfold insertReturnOrderLines
      refine Meets.bind (Meets.ofExcept (steady_created hs)) fun src => Meets.fact fun _ => ?_
      exact Meets.bind (meets_insertReceiptLine hs _) fun _ => ih _ _

theorem silent_readReceipt (receiptId : Int) :
    (readReceipt receiptId).Writes fun _ _ => False :=
  Prog.writes_bind (Prog.writes_read _) fun _ => Prog.writes_ofExcept _

/-- Nothing is written, or one release. -/
def Releasing (receiptId : Int) (_ : ReceiptDb) (log : List ReceiptRedo) : Prop :=
  log = [] ∨ log = [.release receiptId]

/-- The end of both creations. -/
theorem meets_readReceipt (hs : op.source init = some s) (receiptId : Int) :
    Meets (creationSetting init op) (Holds (Created s)) (readReceipt receiptId)
      (fun _ => Holds (op.Wrote init)) := by
  refine (Meets.silent (silent_readReceipt receiptId) (steady_created hs)).consequence
    (fun _ hc => hc) fun _ c hc => ?_
  obtain ⟨hheld, r, ls, hlog, hr, hfree⟩ := hc
  exact ⟨hheld, Or.inr ⟨r, ls, s, hlog, hr, hs, hfree⟩⟩

/-- A probe that found nothing. -/
theorem meets_refuseExisting {P Q : ReceiptDb → List ReceiptRedo → Prop}
    {existing : Option InboundReceipt} (hQ : Steady (creationSetting init op) Q)
    (h : existing = none → ∀ w log, P w log → Q w log) :
    Meets (creationSetting init op) (Holds P) (refuseExisting existing) (fun _ => Holds Q) := by
  cases existing with
  | none => exact Meets.weaken (h rfl) (Meets.ret (Q := fun _ => Q) hQ)
  | some r => exact Meets.raise

theorem meets_createReceiptFromPurchase (payload : PurchaseReceiptIn) (c : ReturnReceiptDraws) :
    Meets (creationSetting init (.fromPurchase payload c)) (Holds (Begun init))
      (createReceiptFromPurchase payload c)
      (fun _ => Holds (ReceiptCall.Wrote init (.fromPurchase payload c))) := by
  have hs : (ReceiptCall.fromPurchase payload c).source init =
      some (.purchaseOrder, payload.sourceDocId) := rfl
  generalize ReceiptCall.fromPurchase payload c = op at hs ⊢
  unfold createReceiptFromPurchase
  have hpo : ∀ po : Option PurchaseOrder, Steady (creationSetting init op) fun w log =>
      (∀ o ∈ po, o.id = payload.sourceDocId) ∧ Begun init w log := fun _ => steady_begun'.fact
  refine Meets.bind (Meets.read steady_begun' hpo fun w log h => ?_) fun po => Meets.fact fun hid => ?_
  · exact ⟨fun o ho => (Table.lookup_eq_some.mp ho).2, h⟩
  refine Meets.bind (Meets.requireSome steady_begun') fun po => Meets.fact fun hsome => ?_
  refine Meets.bind (Meets.require steady_begun') fun _ => Meets.fact fun _ => ?_
  refine Meets.bind (Meets.require steady_begun') fun _ => Meets.fact fun _ => ?_
  have hprobe : ∀ existing : Option InboundReceipt, Steady (creationSetting init op) fun w log =>
      log = [] ∧ (existing = none → w.NoLive (.purchaseOrder, payload.sourceDocId)) :=
    fun existing w w' log h hrely => ⟨h.1, fun hnone => hrely.noLive _ hs (h.2 hnone)⟩
  refine Meets.bind (Meets.read steady_begun' hprobe fun w log h => ?_) fun existing => ?_
  · obtain rfl := h.1
    exact ⟨rfl, fun hnone => ReceiptDb.noLive_of_existing hnone⟩
  refine Meets.bind (meets_refuseExisting (steady_vacant hs) fun hnone w log h =>
    ⟨h.1, h.2 hnone⟩) fun _ => ?_
  refine Meets.bind (Meets.silent (Prog.writes_read _) (steady_vacant hs)) fun lines => ?_
  refine Meets.bind (Meets.require (steady_vacant hs)) fun _ => Meets.fact fun _ => ?_
  refine Meets.bind (Meets.silent (Prog.writes_read _) (steady_vacant hs)) fun name => ?_
  refine Meets.bind (meets_insertReceipt hs ?_) fun _ => ?_
  · unfold InboundReceipt.source purchaseReceiptHead
    dsimp only
    rw [hid po hsome]
  refine Meets.bind (meets_insertReceiptLines hs _) fun _ => ?_
  exact meets_readReceipt hs _

/-- The source of a return: its order and the receipt found for it. -/
theorem getInboundReturnSource_order {orderKey : String} {db : OmsDb} {source : ReturnSource}
    (h : getInboundReturnSource orderKey db = .ok source) :
    resolveOrderIdentity orderKey db = .ok source.order ∧
      source.existing = existingReceipt .returnOrder source.order.id db.wms := by
  unfold getInboundReturnSource at h
  obtain ⟨order, horder, h⟩ := bind_eq_ok.mp h
  obtain ⟨⟨warehouseId, warehouseName⟩, -, h⟩ := bind_eq_ok.mp h
  obtain ⟨-, -, h⟩ := bind_eq_ok.mp h
  obtain ⟨lines, -, h⟩ := bind_eq_ok.mp h
  obtain ⟨-, -, h⟩ := bind_eq_ok.mp h
  rw [pure_eq_ok] at h
  subst h
  exact ⟨horder, existingReturnReceipt_eq _ _⟩

theorem meets_createReceiptFromReturnOrder (payload : ReturnReceiptIn) (c : ReturnReceiptDraws) :
    Meets (creationSetting init (.fromReturnOrder payload c)) (Holds (Begun init))
      (createReceiptFromReturnOrder payload c)
      (fun _ => Holds (ReceiptCall.Wrote init (.fromReturnOrder payload c))) := by
  generalize hop : ReceiptCall.fromReturnOrder payload c = op
  unfold createReceiptFromReturnOrder
  -- a source that was read names the call's source, and its probe what was there
  have hread : ∀ x : Except Err ReturnSource, Steady (creationSetting init op) fun w log =>
      (∀ source, x = .ok source → op.source init = some (.returnOrder, source.order.id)) ∧
        log = [] ∧ ∀ source, x = .ok source → source.existing = none →
          w.NoLive (.returnOrder, source.order.id) :=
    fun x w w' log h hrely =>
      ⟨h.1, h.2.1, fun source hx hnone => hrely.noLive _ (h.1 source hx) (h.2.2 source hx hnone)⟩
  refine Meets.bind (Meets.read steady_begun' hread fun w log h => ?_) fun x => ?_
  · obtain ⟨rfl, hsame⟩ := h
    refine ⟨fun source hx => ?_, rfl, fun source hx hnone => ?_⟩
    · have horder : resolveOrderIdentity payload.orderKey w.oms = .ok source.order :=
        (getInboundReturnSource_order hx).1
      rw [← hsame.source, ← hop]
      unfold ReceiptCall.source
      dsimp only
      rw [horder]
      rfl
    · rw [(getInboundReturnSource_order hx).2] at hnone
      exact ReceiptDb.noLive_of_existing hnone
  refine Meets.bind (Meets.ofExcept (hread x)) fun source => Meets.fact fun hx => ?_
  subst hx
  refine Meets.weaken (P := fun w log => op.source init = some (.returnOrder, source.order.id) ∧
    log = [] ∧ (source.existing = none → w.NoLive (.returnOrder, source.order.id)))
    (fun w log h => ⟨h.1 source rfl, h.2.1, h.2.2 source rfl⟩) (Meets.fact fun hs => ?_)
  refine Meets.bind (meets_refuseExisting (steady_vacant hs) fun hnone w log h =>
    ⟨h.1, h.2 hnone⟩) fun _ => ?_
  refine Meets.bind (Meets.require (steady_vacant hs)) fun _ => Meets.fact fun _ => ?_
  refine Meets.bind (meets_insertReceipt hs rfl) fun _ => ?_
  refine Meets.bind (meets_insertReturnOrderLines hs source _ _ _ _) fun _ => ?_
  exact meets_readReceipt hs _

theorem meets_releaseReceipt (receiptId : Int) :
    Meets (creationSetting init op) (Holds (Begun init)) (releaseReceipt receiptId)
      (fun _ => Holds (op.Wrote init)) := by
  unfold releaseReceipt
  have hsteady : Steady (creationSetting init op) (Releasing receiptId) := fun _ _ _ h _ => h
  refine Meets.bind (M := fun _ => Holds (Releasing receiptId))
    (Meets.write steady_begun' (fun _ => hsteady) ?_) fun updated => ?_
  · rintro w log a us ⟨rfl, -⟩ - hs
    (repeat' split at hs) <;> cases hs
    · exact .inr rfl
    · exact .inl rfl
    · exact .inl rfl
  · have hrest : ∀ {x : ReceiptTx InboundReceipt}, x.Writes (fun _ _ => False) →
        Meets (creationSetting init op) (Holds (Releasing receiptId)) x
          (fun _ => Holds (op.Wrote init)) := fun hx =>
      (Meets.silent hx hsteady).consequence (fun _ hc => hc)
        fun _ _ hc => ⟨hc.1, Or.inl ⟨receiptId, hc.2⟩⟩
    cases updated with
    | some r => exact hrest (Prog.writes_pure r)
    | none =>
        refine hrest (Prog.writes_bind (Prog.writes_read _) fun existing => ?_)
        refine Prog.writes_bind (Prog.writes_requireSome _ _) fun _ => ?_
        exact Prog.writes_bind (Prog.writes_require _ _) fun _ => Prog.writes_pure _

end Calls

/-! ## The discipline -/

/-- **One call.** -/
theorem ReceiptCall.meets (init : ReceiptDb) (op : ReceiptCall) :
    Meets (creationSetting init op) (Holds (Begun init)) op.prog
      (fun _ => Holds (op.Wrote init)) := by
  have hret : ∀ {op : ReceiptCall} {α : Type} {x : ReceiptTx α},
      Meets (creationSetting init op) (Holds (Begun init)) x (fun _ => Holds (op.Wrote init)) →
      Meets (creationSetting init op) (Holds (Begun init)) (do let _ ← x; return ())
        (fun _ => Holds (op.Wrote init)) := fun hx =>
    Meets.bind hx fun _ => Meets.ret (Q := fun _ => ReceiptCall.Wrote init _)
      (ReceiptCall.steady_wrote _)
  cases op with
  | fromPurchase payload c => exact hret (meets_createReceiptFromPurchase payload c)
  | fromReturnOrder payload c => exact hret (meets_createReceiptFromReturnOrder payload c)
  | release receiptId => exact hret (meets_releaseReceipt receiptId)

/-- Within the terms, a probe for a receipt still holds when the receipt is
committed. -/
def creationDiscipline (init : ReceiptDb) :
    Discipline ReceiptCall.prog (creationTerms init) ReceiptLock ReceiptRedo where
  inv db := init.SameSources db ∧ db.OneLive
  rely op _ := ReceiptRely init op
  done op _ := Holds (op.Wrote init)
  post _ _ _ := True
  meets op := (op.meets init).consequence (fun c hc => by rw [hc.2]; exact ⟨rfl, rfl, hc.1.1⟩)
    fun _ _ hc => hc
  keeps hdone hinv := ⟨hinv.1.trans (redo_sameSources _ _), hdone.2.oneLive hinv.2⟩
  guarantee hdone _ htog _ := hdone.2.rely htog
  answers _ _ := trivial
  lasting _ _ _ := trivial

end WmsDu
