import WmsDu.Db.Runs

/-!
# Parts of the database

A statement writes to one part of the database, and a service to a few. The
parts are named here, each with the tables it stands for; what a program
cannot write to, no run of it changes.
-/

namespace WmsDu

open Txn

/-- What a statement can write to. The two books are split by warehouse. -/
inductive Part
  | books (warehouseId : Int)
  | lots
  | events
  | outboundLines
  | inboundLines
  | countDocs
  | countLines
  | returns
  | completions
  /-- Documents, operations, snapshots and logs no invariant speaks of. -/
  | other
deriving DecidableEq

/-- The part a record changes. -/
def Redo.part : Redo → Part
  | .stocksLotInsert row => .books row.slot.warehouseId
  | .stocksLotSetQty s _ => .books s.warehouseId
  | .ledgerInsert row => .books row.slot.warehouseId
  | .ledgerPatch k _ => .books k.slot.warehouseId
  | .lotInsert _ | .lotSetExpiry _ _ => .lots
  | .eventInsert _ | .eventSupersede _ => .events
  | .outboundLineInsert _ => .outboundLines
  | .inboundLineInsert _ => .inboundLines
  | .countDocInsert _ | .countDocUpdate _ _ => .countDocs
  | .countLinesDelete _ | .countSnapshotsDelete _ | .countLineInsert _
  | .countLineSetCounted _ _ | .countSnapshotInsert _ => .countLines
  | .returnTaskInsert _ | .returnTaskSetCommitted _ _ | .returnLineInsert _
  | .returnLineSetPicked _ _ | .returnLineSetCommitted _ _ => .returns
  | .completionPut _ => .completions
  | .manualDocComplete _ | .operationInsert _ | .operationLineInsert _ | .receiptComplete _
  | .stockSnapshotsDelete _ | .stockSnapshotInsert _ | .eventLogInsert _ => .other

/-- The part a statement writes to; a read writes to none. -/
def Sql.part : {β : Type} → Sql β → Option Part
  | _, .select _ | _, .selectForUpdate _ _ => none
  | _, .ensureStocksLotSlot s | _, .setStocksLotQty s _ | _, .addStocksLotQty s _ =>
      some (.books s.warehouseId)
  | _, .insertLedger row | _, .insertLedgerOnConflictDoNothing row =>
      some (.books row.slot.warehouseId)
  | _, .patchLedger k _ => some (.books k.slot.warehouseId)
  | _, .insertLot _ _ _ _ _ _ _ _ _ | _, .patchLotExpiry _ _ => some .lots
  | _, .insertEvent _ | _, .markSuperseded _ _ => some .events
  | _, .insertOutboundLine _ => some .outboundLines
  | _, .insertInboundLine _ => some .inboundLines
  | _, .insertCountDoc _ | _, .updateCountDoc _ _ => some .countDocs
  | _, .deleteCountSnapshots _ | _, .deleteCountLines _ | _, .insertCountLines _ _ _
  | _, .insertCountSnapshots _ | _, .updateCountLine _ _ => some .countLines
  | _, .insertReturnTask _ | _, .insertReturnLine _ | _, .setReturnTaskCommitted _ _
  | _, .setReturnPicked _ _ | _, .setReturnLineCommitted _ _ => some .returns
  | _, .applyCompletionDelta _ _ => some .completions
  | _, .completeManualDoc _ | _, .insertOperation _ | _, .insertOperationLine _
  | _, .completeReceipt _ | _, .deleteStockSnapshots _
  | _, .insertStockSnapshots _ | _, .insertEventLog _ => some .other

/-- A statement's records change the statement's part. -/
theorem Sql.exec_part {db : Db} {β : Type} {s : Sql β} {b : β} {us : List Redo}
    (h : s.exec db = .ok (b, us)) : ∀ u ∈ us, s.part = some u.part := by
  intro u hu
  cases s with
  | select q => cases h; cases hu
  | selectForUpdate rows q => cases h; cases hu
  | applyCompletionDelta eventId occurredAt =>
      cases h
      obtain ⟨c, _, hc⟩ := List.mem_filterMap.mp hu
      split at hc <;> cases hc
      rfl
  | insertCountLines docId w lineId =>
      simp only [Sql.exec, violated] at h
      split at h <;> cases h
      obtain ⟨l, _, rfl⟩ := List.mem_map.mp hu
      rfl
  | insertCountSnapshots docId =>
      simp only [Sql.exec] at h
      split at h <;> cases h
      · cases hu
      · obtain ⟨l, _, rfl⟩ := List.mem_map.mp hu
        rfl
  | insertStockSnapshots d =>
      cases h
      obtain ⟨r, _, rfl⟩ := List.mem_map.mp hu
      rfl
  | _ =>
      -- one record at most, behind the statement's own checks
      simp only [Sql.exec, violated] at h
      (repeat' split at h) <;> cases h <;>
        first
          | (cases hu; done)
          | (rw [List.mem_singleton] at hu; subst hu; rfl)

/-! ## Programs within parts -/

variable {T : Part → Prop}

/-- The program writes to the parts in `T` only. -/
def Tx.Within {α : Type} (T : Part → Prop) (x : Tx α) : Prop :=
  x.Every fun s => ∀ p, s.part = some p → T p

namespace Tx

variable {α β : Type}

theorem within_pure (a : α) : Within T (pure a : Tx α) := trivial

theorem within_raise (e : Err) : Within T (Prog.raise e : Tx α) := trivial

theorem within_exec {s : Sql β} {p : Part} (hs : s.part = some p) (h : T p) :
    Within T (Prog.exec s : Tx β) := by
  refine Prog.every_exec ?_
  intro p' hp'
  obtain rfl : p = p' := Option.some.inj (hs.symm.trans hp')
  exact h

theorem within_bind {x : Tx α} {f : α → Tx β} (hx : Within T x) (hf : ∀ a, Within T (f a)) :
    Within T (x >>= f) := Prog.every_bind hx hf

theorem within_mapRaise {f : Err → Err} {x : Tx α} (hx : Within T x) :
    Within T (x.mapRaise f) := Prog.every_mapRaise hx

/-- A program that writes nothing is within any parts. -/
theorem ReadOnly.within {x : Tx α} (hx : x.ReadOnly) : Within T x := by
  refine hx.mono ?_
  intro β s hs p hp
  cases s with
  | select q => cases hp
  | selectForUpdate rows q => cases hp
  | _ => exact absurd hs id

theorem within_select (q : Db → β) : Within T (select q) := (readOnly_select q).within

theorem within_require (c : Prop) [Decidable c] (e : Err) : Within T (require c e) :=
  (readOnly_require c e).within

theorem within_requireSome (o : Option β) (e : Err) : Within T (requireSome o e) :=
  (readOnly_requireSome o e).within

theorem within_when {c : Prop} [Decidable c] {x : Tx Unit} (hx : Within T x) :
    Within T (when c x) := Prog.every_ite hx trivial

theorem within_ite {c : Prop} [Decidable c] {x y : Tx α} (hx : Within T x) (hy : Within T y) :
    Within T (if c then x else y) := Prog.every_ite hx hy

theorem Within.mono {T' : Part → Prop} {x : Tx α} (hx : Within T x) (h : ∀ p, T p → T' p) :
    Within T' x :=
  Prog.Every.mono (fun _ hs p hp => h p (hs p hp)) hx

/-- **Part rule.** What records of these parts preserve, the program preserves. -/
theorem Within.preserves {I : Db → Prop} {x : Tx α} (hx : Within T x)
    (hI : ∀ u db, T (Redo.part u) → I db → I (u.apply db)) {db db' : Db} {a : α}
    (h : x.run db = .ok (a, db')) (hdb : I db) : I db' := by
  refine Prog.Every.run_preserves hx ?_ h hdb
  intro β s w b us hs hexec hw
  exact replay_preserves (p := fun u => T u.part) hI us w
    (fun u hu => hs _ (s.exec_part hexec u hu)) hw

/-- A reading of the database that records of these parts leave alone is left
alone by the program. -/
theorem Within.frame {γ : Type} {f : Db → γ} {x : Tx α} (hx : Within T x)
    (hf : ∀ u db, T (Redo.part u) → f (u.apply db) = f db) {db db' : Db} {a : α}
    (h : x.run db = .ok (a, db')) : f db' = f db :=
  hx.preserves (I := fun d => f d = f db) (fun u d hu hd => (hf u d hu).trans hd) h rfl

end Tx

/-! ## What a record of another part leaves alone -/

section Frames
variable {u : Redo} {db : Db}

theorem Redo.apply_lots (h : u.part ≠ .lots) : (u.apply db).lots = db.lots := by
  cases u <;> first | rfl | exact absurd rfl h

theorem Redo.apply_wmsEvents (h : u.part ≠ .events) : (u.apply db).wmsEvents = db.wmsEvents := by
  cases u <;> first | rfl | exact absurd rfl h

theorem Redo.apply_outboundEventLines (h : u.part ≠ .outboundLines) :
    (u.apply db).outboundEventLines = db.outboundEventLines := by
  cases u <;> first | rfl | exact absurd rfl h

theorem Redo.apply_inboundEventLines (h : u.part ≠ .inboundLines) :
    (u.apply db).inboundEventLines = db.inboundEventLines := by
  cases u <;> first | rfl | exact absurd rfl h

theorem Redo.apply_countDocs (h : u.part ≠ .countDocs) : (u.apply db).countDocs = db.countDocs := by
  cases u <;> first | rfl | exact absurd rfl h

theorem Redo.apply_countDocLines (h : u.part ≠ .countLines) :
    (u.apply db).countDocLines = db.countDocLines := by
  cases u <;> first | rfl | exact absurd rfl h

theorem Redo.apply_countDocLineLotSnapshots (h : u.part ≠ .countLines) :
    (u.apply db).countDocLineLotSnapshots = db.countDocLineLotSnapshots := by
  cases u <;> first | rfl | exact absurd rfl h

theorem Redo.apply_returnTasks (h : u.part ≠ .returns) :
    (u.apply db).returnTasks = db.returnTasks := by
  cases u <;> first | rfl | exact absurd rfl h

theorem Redo.apply_returnTaskLines (h : u.part ≠ .returns) :
    (u.apply db).returnTaskLines = db.returnTaskLines := by
  cases u <;> first | rfl | exact absurd rfl h

theorem Redo.apply_stocksLot (h : ∀ w, u.part ≠ .books w) : (u.apply db).stocksLot = db.stocksLot := by
  cases u <;> first | rfl | exact absurd rfl (h _)

theorem Redo.apply_stockLedger (h : ∀ w, u.part ≠ .books w) :
    (u.apply db).stockLedger = db.stockLedger := by
  cases u <;> first | rfl | exact absurd rfl (h _)

/-- The order lines are never written. -/
theorem Redo.apply_orderLines (u : Redo) (db : Db) : (u.apply db).orderLines = db.orderLines := by
  cases u <;> rfl

end Frames

/-! ## The stock of one warehouse -/

/-- The `stocks_lot` rows of a warehouse. -/
def Db.stockOf (db : Db) (warehouseId : Int) : List StocksLotRow :=
  db.stocksLot.rows.filter fun r => r.slot.warehouseId = warehouseId

theorem Redo.apply_stockOf {u : Redo} {db : Db} {w : Int} (h : u.part ≠ .books w) :
    (u.apply db).stockOf w = db.stockOf w := by
  cases u with
  | stocksLotInsert row =>
      exact Table.filter_insert_rows (p := fun r : StocksLotRow => r.slot.warehouseId = w)
        fun hw => h (congrArg Part.books hw)
  | stocksLotSetQty s q =>
      refine Table.filter_update_rows (p := fun r : StocksLotRow => r.slot = s)
        (q := fun r : StocksLotRow => r.slot.warehouseId = w)
        (f := fun r : StocksLotRow => { r with qty := q }) (fun _ => rfl) ?_
      intro r hr
      have hne : r.slot.warehouseId ≠ w := fun hw => h (congrArg Part.books (hr ▸ hw))
      exact ⟨hne, hne⟩
  | _ => rfl

end WmsDu
