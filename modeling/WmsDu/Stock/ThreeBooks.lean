import WmsDu.Shared.Fallible
import WmsDu.Stock.InboundLot
import WmsDu.Stock.Snapshots

/-!
# The three-books gate

`enforce_three_books` as any caller may use it: effects of several warehouses,
lots given by id or by code, reasons stated or not, a time of any day. The
lists of its error texts are left out.
-/

namespace WmsDu.ThreeBooks

open Txn Tx

/-- What a commit tells the gate about one ledger row. -/
structure Effect where
  warehouseId : Int
  itemId : Int
  lotId : Option Int := none
  batchCode : Option String := none
  qty : Int
  refLine : Int
  reason : Option String := none
deriving DecidableEq, Repr

/-- `_resolve_lot_id_by_lot_code`: the supplier lot of a code, if it is one. -/
def resolveLotIdByLotCode (db : Db) (warehouseId itemId : Int) (lotCode : Option String) :
    Option Int :=
  (normLotCode lotCode).bind fun code =>
    match supplierLotsOf db warehouseId itemId code with
    | [lot] => some lot.id
    | _ => none

/-- The lot an effect names. -/
def Effect.lotIn (db : Db) (e : Effect) : Option Int :=
  match e.lotId with
  | some lotId => some lotId
  | none => resolveLotIdByLotCode db e.warehouseId e.itemId (normLotCode e.batchCode)

/-- An effect without a reason, or with a blank one, takes any. -/
def Effect.TakesReason (e : Effect) (reason : String) : Prop :=
  ∀ r ∈ e.reason, strip r = "" ∨ reason = r

instance (e : Effect) (reason : String) : Decidable (e.TakesReason reason) := by
  unfold Effect.TakesReason
  infer_instance

/-- The ledger rows an effect may mean. -/
def Effect.Means (e : Effect) (ref : String) (lotId : Int) (row : StockLedgerRow) : Prop :=
  row.slot = ⟨e.warehouseId, e.itemId, lotId⟩ ∧ row.key.ref = ref ∧ row.key.refLine = e.refLine ∧
    e.TakesReason row.key.reason

instance (e : Effect) (ref : String) (lotId : Int) (row : StockLedgerRow) :
    Decidable (e.Means ref lotId row) :=
  inferInstanceAs (Decidable (_ ∧ _))

/-- The delta of the first of them. -/
def ledgerDelta (db : Db) (ref : String) (lotId : Int) (e : Effect) : Option Int :=
  (db.stockLedger.rows.find? fun row => e.Means ref lotId row).map StockLedgerRow.delta

/-- The check of one effect against the ledger. -/
def checkEffect (db : Db) (ref : String) (e : Effect) : Except Err Bool := do
  let lotId ← demandSome (e.lotIn db) (.valueError
    s!"three_books_consistency requires lot_id in effects under lot-only world; failed to resolve lot_id from batch_code for item_id={e.itemId}, ref_line={e.refLine}")
  return ledgerDelta db ref lotId e = some e.qty

/-- `verify_commit_three_books`. -/
def verifyCommitThreeBooks (db : Db) (warehouseId : Int) (ref : String) (effects : List Effect)
    (t : AwareTime) : Except Err Unit :=
  if effects.isEmpty then .ok ()
  else do
    let found ← effects.mapM (checkEffect db ref)
    demand (found.all id = true)
      (.valueError "三账一致性失败：ledger 写入不完整或 delta 不匹配")
    demand (∀ e ∈ effects,
        db.itemTotal warehouseId e.itemId = snapshotTotal db t.date warehouseId e.itemId)
      (.valueError "三账一致性失败：snapshot_total != stocks_lot_total（Phase 4C：按 item 总量对齐）")

/-- `enforce_three_books`; `today` is the day of the clock. -/
def enforceThreeBooks (today : Date) (ref : String) (effects : List Effect) (t : AwareTime) :
    Tx Unit :=
  if effects.isEmpty then return ()
  else do
    runSnapshot today
    let verified ← Tx.select fun db =>
      (effects.map Effect.warehouseId).eraseDups.forM fun w =>
        verifyCommitThreeBooks db w ref (effects.filter fun e => e.warehouseId = w) t
    Tx.ofExcept verified

/-! ## What the gate tells -/

/-- The first ledger row an effect may mean carries its delta. -/
def Effect.Found (db : Db) (ref : String) (e : Effect) : Prop :=
  ∃ lotId, e.lotIn db = some lotId ∧ ledgerDelta db ref lotId e = some e.qty

/-- The snapshot of a day has the stock of the effect's item. -/
def Effect.Counted (db : Db) (d : Date) (e : Effect) : Prop :=
  db.itemTotal e.warehouseId e.itemId = snapshotTotal db d e.warehouseId e.itemId

section
variable {db : Db} {ref : String} {effects : List Effect} {t : AwareTime} {today : Date}

theorem checkEffect_eq_ok {e : Effect} : checkEffect db ref e = .ok true ↔ e.Found db ref := by
  unfold checkEffect Effect.Found
  rw [bind_eq_ok]
  simp only [demandSome_eq_ok, pure_eq_ok, decide_eq_true_eq]

theorem verifyCommitThreeBooks_eq_ok {w : Int} :
    verifyCommitThreeBooks db w ref effects t = .ok () ↔
      (∀ e ∈ effects, e.Found db ref) ∧
      ∀ e ∈ effects, db.itemTotal w e.itemId = snapshotTotal db t.date w e.itemId := by
  unfold verifyCommitThreeBooks
  cases effects with
  | nil => exact iff_of_true rfl ⟨nofun, nofun⟩
  | cons e rest =>
      rw [if_neg (by simp), bind_eq_ok]
      have hcheck : (∃ out, (e :: rest).mapM (checkEffect db ref) = .ok out ∧
          out.all id = true) ↔ ∀ x ∈ e :: rest, x.Found db ref :=
        mapM_all_eq_ok.trans (forall₂_congr fun _ _ => checkEffect_eq_ok)
      rw [← hcheck]
      constructor
      · rintro ⟨out, hout, hrest⟩
        obtain ⟨_, hall, htotals⟩ := bind_eq_ok.mp hrest
        exact ⟨⟨out, hout, demand_eq_ok.mp hall⟩, demand_eq_ok.mp htotals⟩
      · rintro ⟨⟨out, hout, hall⟩, htotals⟩
        exact ⟨out, hout, bind_eq_ok.mpr ⟨(), demand_eq_ok.mpr hall, demand_eq_ok.mpr htotals⟩⟩

/-- The checks warehouse by warehouse are the checks of all effects. -/
theorem verifyAll_eq_ok :
    ((effects.map Effect.warehouseId).eraseDups.forM fun w =>
        verifyCommitThreeBooks db w ref (effects.filter fun e => e.warehouseId = w) t) = .ok () ↔
      (∀ e ∈ effects, e.Found db ref) ∧ ∀ e ∈ effects, e.Counted db t.date := by
  rw [forM_eq_ok]
  simp only [List.mem_eraseDups, List.forall_mem_map, verifyCommitThreeBooks_eq_ok,
    List.mem_filter, decide_eq_true_eq]
  constructor
  · intro h
    exact ⟨fun e he => (h e he).1 e ⟨he, rfl⟩, fun e he => (h e he).2 e ⟨he, rfl⟩⟩
  · rintro ⟨hfound, hcounted⟩ e -
    refine ⟨fun x hx => hfound x hx.1, fun x hx => ?_⟩
    rw [← hx.2]
    exact hcounted x hx.1

/-- After `run_snapshot` the snapshot of today is the stock; that of another
day is as before. -/
theorem snapshotTotal_after_runSnapshot {db' : Db} (h : (runSnapshot today).run db = .ok ((), db'))
    (d : Date) (w i : Int) :
    snapshotTotal db' d w i = if d = today then db.itemTotal w i else snapshotTotal db d w i := by
  obtain ⟨db'', hrun, -, hrows⟩ := run_runSnapshot today db
  obtain rfl : db' = db'' := by
    rw [hrun] at h
    exact (Prod.mk.inj (Except.ok.inj h)).2.symm
  unfold snapshotTotal
  rw [hrows, sumOver_append, sumOver_filter, sumOver_map]
  by_cases hd : d = today
  · subst hd
    rw [if_pos rfl, sumOver_eq_zero fun r _ hr => absurd hr.2.1 hr.1]
    simp only [true_and, zero_add]
    rfl
  · have htoday : ¬ today = d := fun h => hd h.symm
    rw [if_neg hd]
    rw [sumOver_eq_zero (l := db.stocksLot.rows) fun r _ hr => absurd hr.1 htoday, add_zero]
    refine sumOver_congr (fun r _ => and_iff_right_of_imp ?_) fun _ _ _ => rfl
    rintro ⟨rfl, -⟩
    exact hd

end

end WmsDu.ThreeBooks
