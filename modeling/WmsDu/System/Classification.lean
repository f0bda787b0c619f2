import WmsDu.System.Writes
import WmsDu.Txn.Records

/-!
# How ledger rows are classified

Every ledger row is entered by one of three writers: the lot writer behind
`write_ledger`, the outbound event writer and the inbound operation writer.
What they enter is known from their statements, whatever the statements read.
-/

namespace WmsDu

open Txn Tx

/-! ## Rows -/

/-- The row is classified by its reason, and only receipts carry dates. -/
def StockLedgerRow.Classified (row : StockLedgerRow) : Prop :=
  row.reasonCanon = canonReason row.key.reason ∧
    (row.productionDate ≠ none ∨ row.expiryDate ≠ none → row.reasonCanon = some "RECEIPT")

instance StockLedgerRow.decidableClassified (row : StockLedgerRow) : Decidable row.Classified :=
  inferInstanceAs (Decidable (row.reasonCanon = canonReason row.key.reason ∧
    (row.productionDate ≠ none ∨ row.expiryDate ≠ none → row.reasonCanon = some "RECEIPT")))

/-- The columns are those of a classified row of the key. -/
def LedgerPatch.Classified (k : IdemKey) (p : LedgerPatch) : Prop :=
  p.reasonCanon = canonReason k.reason ∧
    (p.productionDate ≠ none ∨ p.expiryDate ≠ none → p.reasonCanon = some "RECEIPT")

/-- The row is the same but for columns that were not set. -/
structure StockLedgerRow.Extends (row row' : StockLedgerRow) : Prop where
  key : row'.key = row.key
  delta : row'.delta = row.delta
  afterQty : row'.afterQty = row.afterQty
  occurredAt : row'.occurredAt = row.occurredAt
  reasonCanon : ∀ c ∈ row.reasonCanon, row'.reasonCanon = some c
  subReason : ∀ c ∈ row.subReason, row'.subReason = some c
  traceId : ∀ t ∈ row.traceId, row'.traceId = some t
  eventId : ∀ e ∈ row.eventId, row'.eventId = some e
  productionDate : ∀ d ∈ row.productionDate, row'.productionDate = some d
  expiryDate : ∀ d ∈ row.expiryDate, row'.expiryDate = some d

namespace StockLedgerRow

theorem Extends.refl (row : StockLedgerRow) : row.Extends row :=
  ⟨rfl, rfl, rfl, rfl, fun _ h => h, fun _ h => h, fun _ h => h, fun _ h => h, fun _ h => h,
    fun _ h => h⟩

theorem Extends.trans {a b c : StockLedgerRow} (h : a.Extends b) (h' : b.Extends c) :
    a.Extends c where
  key := h'.key.trans h.key
  delta := h'.delta.trans h.delta
  afterQty := h'.afterQty.trans h.afterQty
  occurredAt := h'.occurredAt.trans h.occurredAt
  reasonCanon := fun c hc => h'.reasonCanon c (h.reasonCanon c hc)
  subReason := fun c hc => h'.subReason c (h.subReason c hc)
  traceId := fun t ht => h'.traceId t (h.traceId t ht)
  eventId := fun e he => h'.eventId e (h.eventId e he)
  productionDate := fun d hd => h'.productionDate d (h.productionDate d hd)
  expiryDate := fun d hd => h'.expiryDate d (h.expiryDate d hd)

private theorem orElse_of_mem {α : Type} {o o' : Option α} {a : α} (h : a ∈ o) :
    (o <|> o') = some a := by
  cases h
  rfl

/-- What is filled in leaves the columns that were set. -/
theorem extends_fill (row : StockLedgerRow) (p : LedgerPatch) : row.Extends (p.fill row) :=
  ⟨rfl, rfl, rfl, rfl, fun _ h => orElse_of_mem h, fun _ h => orElse_of_mem h,
    fun _ h => orElse_of_mem h, fun _ h => orElse_of_mem h, fun _ h => orElse_of_mem h,
    fun _ h => orElse_of_mem h⟩

/-- A classified row stays so when columns of a classified row are filled in. -/
theorem Classified.fill {row : StockLedgerRow} (h : row.Classified) {p : LedgerPatch}
    (hp : p.Classified row.key) : (p.fill row).Classified := by
  have hcanon : (p.fill row).reasonCanon = row.reasonCanon := by
    show (row.reasonCanon <|> p.reasonCanon) = row.reasonCanon
    rw [hp.1, ← h.1]
    cases row.reasonCanon <;> rfl
  refine ⟨hcanon.trans h.1, fun hdates => ?_⟩
  rw [hcanon]
  by_contra hnot
  have hrow := not_or.mp (mt h.2 hnot)
  have hpatch := not_or.mp (mt hp.2 (by rwa [hp.1, ← h.1]))
  rw [not_not, not_not] at hrow hpatch
  rcases hdates with hd | hd
  · exact hd (by simp [LedgerPatch.fill, hrow.1, hpatch.1])
  · exact hd (by simp [LedgerPatch.fill, hrow.2, hpatch.2])

end StockLedgerRow

theorem ledgerRow_classified (k : IdemKey) (sub : Option String) (delta after : Int)
    (ts : Timestamp) (trace : Option String) (ev : Option Int) (pd ed : Option Date) :
    (ledgerRow k sub delta after ts trace ev pd ed).Classified := by
  unfold StockLedgerRow.Classified ledgerRow
  by_cases h : canonReason k.reason = some "RECEIPT" <;> simp [h]

theorem operationLedgerRow_classified (event : WmsEvent) (l : InboundEventLine)
    (lotId after : Int) : (operationLedgerRow event l lotId after).Classified := by
  have hcanon : some "RECEIPT" = canonReason "RECEIPT" := by decide
  exact ⟨hcanon, fun _ => rfl⟩

/-- The outbound writer has a class of its own. -/
theorem outboundLedgerRow_not_classified (event : WmsEvent) (ref : String)
    (l : OutboundEventLine) (after : Int) :
    ¬ (outboundLedgerRow event ref l after).Classified := by
  intro h
  have hcanon : some "OUTBOUND" = canonReason "OUTBOUND_SHIP" := h.1
  exact absurd hcanon (by decide)

/-! ## Statements -/

variable {P : StockLedgerRow → Prop}

/-- The row a statement enters into the ledger satisfies `P`, and the columns
it fills in are those of a classified row. -/
def Sql.Enters (P : StockLedgerRow → Prop) : {β : Type} → Sql β → Prop
  | _, .insertLedger row | _, .insertLedgerOnConflictDoNothing row => P row
  | _, .patchLedger k p => p.Classified k
  | _, _ => True

/-- What a record does to the ledger. -/
def Redo.Enters (P : StockLedgerRow → Prop) : Redo → Prop
  | .ledgerInsert row => P row
  | .ledgerPatch k p => p.Classified k
  | _ => True

/-- A part the ledger is not in. -/
def Part.OffBooks : Part → Prop
  | .books _ => False
  | _ => True

theorem Sql.enters_of_part {β : Type} {s : Sql β} (h : ∀ p, s.part = some p → p.OffBooks) :
    s.Enters P := by
  cases s with
  | insertLedger row => exact absurd (h _ rfl) id
  | insertLedgerOnConflictDoNothing row => exact absurd (h _ rfl) id
  | patchLedger k p => exact absurd (h _ rfl) id
  | _ => exact True.intro

/-- A statement's records do to the ledger what is said of the statement. -/
theorem Sql.exec_enters {db : Db} {β : Type} {s : Sql β} {b : β} {us : List Redo}
    (hs : s.Enters P) (h : s.exec db = .ok (b, us)) : ∀ u ∈ us, u.Enters P := by
  intro u hu
  have hsome := s.exec_part h u hu
  cases hpart : u.part with
  | books w =>
      rw [hpart] at hsome
      cases s with
      | insertLedger row =>
          simp only [Sql.exec, violated] at h
          (repeat' split at h) <;> cases h
          rw [List.mem_singleton] at hu
          subst hu
          exact hs
      | insertLedgerOnConflictDoNothing row =>
          simp only [Sql.exec, violated] at h
          (repeat' split at h) <;> cases h
          · cases hu
          · rw [List.mem_singleton] at hu
            subst hu
            exact hs
      | patchLedger k p =>
          simp only [Sql.exec, violated] at h
          (repeat' split at h) <;> cases h <;>
            first
              | (cases hu; done)
              | (rw [List.mem_singleton] at hu; subst hu; exact hs)
      | ensureStocksLotSlot slot | setStocksLotQty slot qty | addStocksLotQty slot delta =>
          simp only [Sql.exec, violated] at h
          (repeat' split at h) <;> cases h <;>
            first
              | (cases hu; done)
              | (rw [List.mem_singleton] at hu; subst hu; exact True.intro)
      | _ => cases hsome
  | _ =>
      cases u with
      | ledgerInsert row => cases hpart
      | ledgerPatch k p => cases hpart
      | _ => exact True.intro

/-- A record leaves every row of the ledger but for columns that were not set,
and leaves it classified if it was. -/
theorem Redo.apply_extends {u : Redo} (hu : u.Enters P) (db : Db) :
    ∀ row ∈ db.stockLedger.rows, ∃ row' ∈ (u.apply db).stockLedger.rows,
      row.Extends row' ∧ (row.Classified → row'.Classified) := by
  intro row hrow
  cases u with
  | ledgerInsert r => exact ⟨row, Table.mem_insert_of_mem hrow, .refl row, id⟩
  | ledgerPatch k p =>
      refine ⟨_, (Table.mem_update (f := fun r => p.fill r) fun _ => rfl).mpr ⟨row, hrow, rfl⟩, ?_⟩
      split
      · rename_i hkey
        subst hkey
        exact ⟨row.extends_fill p, fun h => h.fill hu⟩
      · exact ⟨.refl row, id⟩
  | _ => exact ⟨row, hrow, .refl row, id⟩

/-- Records that enter classified rows only keep the ledger classified. -/
theorem Redo.apply_classified {u : Redo} (hu : u.Enters StockLedgerRow.Classified) {db : Db}
    (h : ∀ row ∈ db.stockLedger.rows, row.Classified) :
    ∀ row ∈ (u.apply db).stockLedger.rows, row.Classified := by
  intro row hrow
  cases u with
  | ledgerInsert r =>
      rcases Table.mem_of_mem_insert hrow with hrow | rfl
      · exact h row hrow
      · exact hu
  | ledgerPatch k p =>
      obtain ⟨old, hold, rfl⟩ := (Table.mem_update (f := fun r => p.fill r) fun _ => rfl).mp hrow
      split
      · rename_i hkey
        subst hkey
        exact (h old hold).fill hu
      · exact h old hold
  | _ => exact h row hrow

/-! ## Programs -/

/-- Every row the program can enter satisfies `P`. -/
def Tx.Enters {α : Type} (P : StockLedgerRow → Prop) (x : Tx α) : Prop := x.Every (Sql.Enters P)

namespace Tx

variable {α β : Type}

theorem enters_bind {x : Tx α} {f : α → Tx β} (hx : Enters P x) (hf : ∀ a, Enters P (f a)) :
    Enters P (x >>= f) := Prog.every_bind hx hf

theorem enters_ite {c : Prop} [Decidable c] {x y : Tx α} (hx : Enters P x) (hy : Enters P y) :
    Enters P (if c then x else y) := Prog.every_ite hx hy

theorem enters_pure (a : α) : Enters P (pure a : Tx α) := trivial

theorem enters_exec {s : Sql β} (hs : s.Enters P) : Enters P (Prog.exec s : Tx β) :=
  Prog.every_exec hs

/-- A program that writes elsewhere enters nothing. -/
theorem Within.enters {x : Tx α} (hx : Within Part.OffBooks x) : Enters P x :=
  Prog.Every.mono (fun _ hs => Sql.enters_of_part hs) hx

theorem enters_when {c : Prop} [Decidable c] {x : Tx Unit} (hx : Enters P x) :
    Enters P (when c x) := enters_ite hx trivial

theorem enters_select (q : Db → β) : Enters P (select q) := (within_select q).enters

theorem enters_require (c : Prop) [Decidable c] (e : Err) : Enters P (require c e) :=
  (within_require c e).enters

theorem enters_requireSome (o : Option β) (e : Err) : Enters P (requireSome o e) :=
  (within_requireSome o e).enters

theorem enters_ofExcept (x : Except Err β) : Enters P (Tx.ofExcept x) := (within_ofExcept x).enters

theorem ReadOnly.enters {x : Tx α} (hx : x.ReadOnly) : Enters P x := hx.within.enters

theorem enters_forget {x : Tx α} (hx : Enters P x) : Enters P x.forget :=
  enters_bind hx fun _ => enters_pure _

end Tx

/-! ## The lot writer -/

theorem enters_writeLedger {row : StockLedgerRow} (h : row.Classified) :
    Enters StockLedgerRow.Classified (writeLedger row) := by
  refine enters_bind (readOnly_assertLotBelongsTo _ _ _).enters fun _ => ?_
  refine enters_bind (enters_exec h) fun _ => ?_
  refine enters_bind (enters_when (enters_exec ?_)) fun _ => enters_pure _
  exact ⟨h.1, h.2⟩

theorem enters_adjustLotBook (a : AdjustLotArgs) (lotId : Int) (sub : Option String)
    (ev : Option Int) (pd ed : Option Date) :
    Enters StockLedgerRow.Classified (adjustLotBook a lotId sub ev pd ed) := by
  refine enters_bind (enters_exec True.intro) fun _ => ?_
  refine enters_bind (enters_bind (enters_exec True.intro) fun _ => enters_requireSome _ _)
    fun _ => ?_
  refine enters_bind (enters_require _ _) fun _ => ?_
  refine enters_bind (enters_when ?_) fun _ => ?_
  · exact enters_bind (enters_bind (enters_select _) fun _ => enters_pure _) fun _ => enters_pure _
  refine enters_bind (enters_writeLedger (ledgerRow_classified _ _ _ _ _ _ _ _ _)) fun _ => ?_
  exact enters_bind (enters_when (enters_exec True.intro)) fun _ => enters_pure _

/-- **The lot writer.** It enters classified rows. -/
theorem enters_adjustLotImpl (a : AdjustLotArgs) :
    Enters StockLedgerRow.Classified (adjustLotImpl a) := by
  refine enters_bind (enters_ofExcept _) fun _ => ?_
  refine enters_bind (enters_ofExcept _) fun _ => ?_
  refine enters_ite (enters_pure _) ?_
  refine enters_bind (enters_require _ _) fun _ => ?_
  refine enters_bind (enters_requireSome _ _) fun _ => ?_
  refine enters_bind (readOnly_itemRequiresBatch _).enters fun _ => ?_
  refine enters_bind (enters_require _ _) fun _ => ?_
  refine enters_bind (readOnly_assertLotBelongsTo _ _ _).enters fun _ => ?_
  refine enters_bind (readOnly_resolveDates _ _ _ _ _).enters fun _ => ?_
  refine enters_bind (enters_select _) fun _ => ?_
  exact enters_ite (enters_pure _) (enters_adjustLotBook _ _ _ _ _ _)

/-! ## Inbound -/

theorem enters_commitLines (event : WmsEvent) (now : Timestamp) (lines : List ResolvedCommitLine) :
    Enters StockLedgerRow.Classified (commitLines event now lines) := by
  induction lines with
  | nil => exact enters_pure _
  | cons line rest ih =>
      refine enters_bind (enters_exec True.intro) fun _ => ?_
      refine enters_bind (enters_bind (within_ensureWarehouseNotFrozen _).enters fun _ => ?_)
        fun _ => ih
      exact enters_adjustLotImpl _

theorem enters_commitInbound (payload : InboundCommitIn) (userId : Option Int) (c : InboundDraws) :
    Enters StockLedgerRow.Classified (commitInbound payload userId c) := by
  refine enters_bind (enters_ofExcept _) fun _ => ?_
  refine enters_bind (within_resolveLines (T := Part.OffBooks) True.intro _ _ _ _ _).enters fun _ => ?_
  refine enters_bind (enters_exec True.intro) fun _ => ?_
  refine enters_bind (enters_commitLines _ _ _) fun _ => ?_
  exact enters_bind (enters_when (enters_exec True.intro)) fun _ => enters_pure _

theorem enters_submitEntry (ctx : OperationContext) (taskLine : OperationTaskLine) (item : Item)
    (entry : InboundOperationEntryIn) (p : OperationProgress) :
    Enters StockLedgerRow.Classified (submitEntry ctx taskLine item entry p) := by
  refine enters_bind (within_entryUom _ _).enters fun u => ?_
  refine enters_bind (enters_require _ _) fun _ => ?_
  refine enters_bind (enters_ofExcept _) fun _ => ?_
  refine enters_bind (enters_ofExcept _) fun _ => ?_
  refine enters_bind (enters_ofExcept _) fun _ => ?_
  refine enters_bind (within_resolveInboundLot (T := Part.OffBooks) True.intro _ _ _ _ _ _).enters
    fun _ => ?_
  refine enters_bind (enters_exec True.intro) fun _ => ?_
  refine enters_bind (enters_exec True.intro) fun _ => ?_
  refine enters_bind (enters_bind (enters_exec True.intro) fun _ => enters_exec ?_) fun _ =>
    enters_pure _
  exact operationLedgerRow_classified _ _ _ _

theorem enters_submitEntries (ctx : OperationContext) (taskLine : OperationTaskLine) (item : Item)
    (entries : List InboundOperationEntryIn) (p : OperationProgress) :
    Enters StockLedgerRow.Classified (submitEntries ctx taskLine item entries p) := by
  induction entries generalizing p with
  | nil => exact enters_pure _
  | cons entry rest ih => exact enters_bind (enters_submitEntry _ _ _ _ _) fun p => ih p

theorem enters_submitOperationLines (ctx : OperationContext) (taskLines : List OperationTaskLine)
    (lines : List InboundOperationLineIn) (p : OperationProgress) :
    Enters StockLedgerRow.Classified (submitOperationLines ctx taskLines lines p) := by
  induction lines generalizing p with
  | nil => exact enters_pure _
  | cons line rest ih =>
      refine enters_bind (enters_requireSome _ _) fun _ => ?_
      refine enters_bind (enters_select _) fun _ => ?_
      refine enters_bind (enters_requireSome _ _) fun _ => ?_
      exact enters_bind (enters_submitEntries _ _ _ _ _) fun p => ih p

/-- **The inbound operation writer.** It enters classified rows. -/
theorem enters_submitInboundOperationRepo (payload : InboundOperationSubmitIn) (op : Operator)
    (c : OperationDraws) :
    Enters StockLedgerRow.Classified (submitInboundOperationRepo payload op c) := by
  refine enters_bind (enters_select _) fun _ => ?_
  refine enters_bind (enters_requireSome _ _) fun task => ?_
  refine enters_bind (enters_require _ _) fun _ => ?_
  refine enters_bind (within_ensureWarehouseNotFrozen _).enters fun _ => ?_
  refine enters_bind (enters_select _) fun _ => ?_
  refine enters_bind (enters_exec True.intro) fun _ => ?_
  refine enters_bind (enters_exec True.intro) fun _ => ?_
  refine enters_bind (enters_submitOperationLines _ _ _ _) fun _ => ?_
  exact enters_bind (enters_when (enters_exec True.intro)) fun _ => enters_pure _

/-! ## Outbound -/

theorem enters_shipLines (event : WmsEvent) (ref : String) (ls : List OutboundEventLine) :
    Enters (fun row => ¬ row.Classified) (shipLines event ref ls) := by
  induction ls with
  | nil => exact enters_pure _
  | cons l rest ih =>
      refine enters_bind (enters_bind (within_selectSlotForUpdate _).enters fun _ => ?_) fun _ => ih
      refine enters_bind (enters_requireSome _ _) fun _ => ?_
      refine enters_bind (enters_require _ _) fun _ => ?_
      refine enters_bind (enters_exec ?_) fun _ => enters_exec True.intro
      exact outboundLedgerRow_not_classified _ _ _ _

/-- **The outbound event writer.** It enters no classified row. -/
theorem enters_writeEventAndLedger (w : OutboundWrite) (lines : List NormalizedLine) :
    Enters (fun row => ¬ row.Classified) (writeEventAndLedger w lines) := by
  refine enters_bind (within_ensureWarehouseNotFrozen _).enters fun _ => ?_
  refine enters_bind (enters_exec True.intro) fun _ => ?_
  refine enters_bind (enters_select _) fun _ => ?_
  refine enters_bind (within_insertOutboundEventLines (T := Part.OffBooks) True.intro _).enters
    fun _ => ?_
  exact enters_bind (enters_shipLines _ _ _) fun _ => enters_pure _

theorem enters_submitOrder (orderId warehouseId : Int) (c : SubmitCall)
    (payload : OutboundSubmitIn) :
    Enters (fun row => ¬ row.Classified)
      (submitOrderOutboundEvent orderId warehouseId c payload) := by
  refine enters_bind (readOnly_loadOrderSubmitContext _ _).enters fun _ => ?_
  refine enters_bind (enters_ofExcept _) fun _ => ?_
  refine enters_bind (enters_select _) fun _ => ?_
  refine enters_bind (readOnly_checkOrderLines _ _ _ _).enters fun _ => ?_
  exact enters_bind (enters_writeEventAndLedger _ _) fun _ => enters_pure _

theorem enters_submitManual (docId : Int) (c : SubmitCall) (payload : OutboundSubmitIn) :
    Enters (fun row => ¬ row.Classified) (submitManualOutboundEvent docId c payload) := by
  refine enters_bind (readOnly_loadManualSubmitContext _).enters fun _ => ?_
  refine enters_bind (enters_ofExcept _) fun _ => ?_
  refine enters_bind (enters_writeEventAndLedger _ _) fun _ => ?_
  refine enters_bind (enters_select _) fun _ => ?_
  refine enters_bind (enters_when ?_) fun _ => enters_pure _
  exact enters_bind (enters_exec True.intro) fun _ => enters_require _ _

/-! ## Reversals and counts -/

theorem enters_reverseLines {Line : Type} {side : ReversalSide Line} {copies : Part}
    (hside : ∀ id l, (side.insertCopy id l).part = some copies) (hoff : copies.OffBooks)
    (original event : WmsEvent) (payload : ReversalIn) (now : Timestamp) (ls : List Line) :
    Enters StockLedgerRow.Classified (reverseLines side original event payload now ls) := by
  induction ls with
  | nil => exact enters_pure _
  | cons l rest ih =>
      refine enters_bind (enters_requireSome _ _) fun _ => ?_
      refine enters_bind (enters_require _ _) fun _ => ?_
      refine enters_bind (within_exec (hside _ _) hoff).enters fun _ => ?_
      exact enters_bind (enters_adjustLotImpl _) fun _ => ih

theorem enters_reverseEvent {Line : Type} (side : ReversalSide Line) (copies : Part)
    (hside : ∀ id l, (side.insertCopy id l).part = some copies) (hoff : copies.OffBooks)
    (eventId : Int) (payload : ReversalIn) (userId : Option Int) (c : EventDraws) :
    Enters StockLedgerRow.Classified (reverseEvent side eventId payload userId c) := by
  refine enters_bind (enters_select _) fun _ => ?_
  refine enters_bind (enters_require _ _) fun _ => ?_
  refine enters_bind (readOnly_getEventForReversal _ _).enters fun original => ?_
  refine enters_bind (readOnly_listEventLines _ _).enters fun _ => ?_
  refine enters_bind (within_ensureWarehouseNotFrozen _).enters fun _ => ?_
  refine enters_bind (enters_exec True.intro) fun _ => ?_
  refine enters_bind (enters_reverseLines hside hoff _ _ _ _ _) fun _ => ?_
  exact enters_bind (enters_exec True.intro) fun _ => enters_pure _

theorem enters_countSubmit (req : CountRequest) (newLotId : Int) (now : Timestamp) :
    Enters StockLedgerRow.Classified (countSubmit req newLotId now) := by
  refine enters_bind (within_ensureWarehouseNotFrozen _).enters fun _ => ?_
  refine enters_bind (enters_select _) fun _ => ?_
  refine enters_bind (enters_requireSome _ _) fun _ => ?_
  refine enters_bind (enters_ofExcept _) fun _ => ?_
  refine enters_bind (enters_require _ _) fun _ => ?_
  refine enters_bind (within_resolveLotForStockAdjust (T := Part.OffBooks) True.intro
    _ _ _ _ _ _).enters fun _ => ?_
  refine enters_bind (enters_select _) fun _ => ?_
  exact enters_bind (enters_adjustLotImpl _) fun _ => enters_pure _

theorem enters_stockRecount (req : StockRecountRequest) (c : RecountDraws) :
    Enters StockLedgerRow.Classified (stockRecount req c) := by
  refine enters_bind (within_ensureWarehouseNotFrozen _).enters fun _ => ?_
  refine enters_bind (enters_select _) fun _ => ?_
  refine enters_bind (enters_when ?_) fun _ => ?_
  · refine enters_bind (within_resolveLotForStockAdjust (T := Part.OffBooks) True.intro
      _ _ _ _ _ _).enters fun _ => ?_
    exact enters_bind (enters_adjustLotImpl _) fun _ => enters_pure _
  exact enters_bind (enters_exec True.intro) fun _ => enters_pure _

theorem enters_consumeSnapshots (ctx : CountPostContext) (line : CountDocLine)
    (snaps : List CountDocLineLotSnapshot) (remaining : Int) :
    Enters StockLedgerRow.Classified (consumeSnapshots ctx line remaining snaps) := by
  induction snaps generalizing remaining with
  | nil => exact enters_pure _
  | cons snap rest ih =>
      refine enters_ite (enters_pure _) (enters_ite (ih _) ?_)
      refine enters_bind (enters_adjustLotImpl _) fun _ => ?_
      exact enters_bind (ih _) fun _ => enters_pure _

theorem enters_postLineDiff (ctx : CountPostContext) (line : CountDocLine) :
    Enters StockLedgerRow.Classified (postLineDiff ctx line) := by
  refine enters_bind (enters_select _) fun snaps => ?_
  cases snaps with
  | nil => exact (within_raise _).enters
  | cons target rest =>
      refine enters_ite ?_ (enters_ite ?_ ?_)
      · exact enters_bind (enters_adjustLotImpl _) fun _ => enters_pure _
      · exact enters_bind (enters_adjustLotImpl _) fun _ => enters_pure _
      · refine enters_bind (enters_consumeSnapshots _ _ _ _) fun _ => ?_
        exact enters_bind (enters_require _ _) fun _ => enters_pure _

theorem enters_postLines (ctx : CountPostContext) (lines : List CountDocLine) :
    Enters StockLedgerRow.Classified (postLines ctx lines) := by
  induction lines with
  | nil => exact enters_pure _
  | cons line rest ih => exact enters_bind (enters_postLineDiff _ _) fun _ => ih

theorem enters_postDoc (docId : Int) (reviewedBy : String) (c : CountPostDraws) :
    Enters StockLedgerRow.Classified (postDoc docId reviewedBy c) := by
  refine enters_bind (readOnly_requireDoc _).enters fun doc => ?_
  refine enters_ite ?_ ?_
  · cases doc.postedEventId <;> cases doc.postedAt <;> trivial
  refine enters_bind (enters_require _ _) fun _ => ?_
  refine enters_bind (enters_requireSome _ _) fun _ => ?_
  refine enters_bind (enters_exec True.intro) fun _ => ?_
  refine enters_bind (readOnly_requireDoc _).enters fun _ => ?_
  refine enters_bind (enters_require _ _) fun _ => ?_
  refine enters_bind (enters_require _ _) fun _ => ?_
  refine enters_bind (enters_select _) fun _ => ?_
  refine enters_bind (enters_require _ _) fun _ => ?_
  refine enters_bind (readOnly_requireAllCounted _).enters fun _ => ?_
  refine enters_bind (enters_exec True.intro) fun _ => ?_
  refine enters_bind (enters_postLines _ _) fun _ => ?_
  refine enters_bind ?_ fun _ => enters_pure _
  exact enters_bind (enters_exec True.intro) fun _ => enters_require _ _

/-! ## Returns and direct shipments -/

theorem enters_commitReturnLine (task : ReturnTask) (c : ReturnCommitCall) (ln : ReturnTaskLine) :
    Enters StockLedgerRow.Classified (commitReturnLine task c ln) := by
  refine enters_bind (enters_require _ _) fun _ => ?_
  refine enters_bind (enters_select _) fun _ => ?_
  refine enters_bind (enters_requireSome _ _) fun _ => ?_
  refine enters_bind (enters_require _ _) fun _ => ?_
  refine enters_bind (enters_require _ _) fun _ => ?_
  refine enters_bind (enters_require _ _) fun _ => ?_
  refine enters_bind (enters_adjustLotImpl _) fun _ => ?_
  exact enters_bind (enters_exec True.intro) fun _ => enters_pure _

theorem enters_commitReturnLines (task : ReturnTask) (c : ReturnCommitCall)
    (lines : List ReturnTaskLine) :
    Enters StockLedgerRow.Classified (commitReturnLines task c lines) := by
  induction lines with
  | nil => exact enters_pure _
  | cons ln rest ih =>
      refine enters_ite ih ?_
      refine enters_bind (enters_commitReturnLine _ _ _) fun _ => ?_
      exact enters_bind ih fun _ => enters_pure _

theorem enters_commitReturnTask (taskId : Int) (c : ReturnCommitCall) :
    Enters StockLedgerRow.Classified (commitReturnTask taskId c) := by
  refine enters_bind (readOnly_getWithLines _ _).enters fun t => ?_
  refine enters_ite (enters_pure _) ?_
  refine enters_bind (enters_commitReturnLines _ _ _) fun _ => ?_
  refine enters_bind (enters_exec True.intro) fun _ => ?_
  refine enters_bind (enters_when (within_enforceThreeBooks (T := Part.OffBooks) True.intro
    _ _ _ _).enters) fun _ => ?_
  exact (readOnly_getWithLines _ _).enters

theorem enters_shipItem (c : ShipCall) (i need refLine : Int) :
    Enters StockLedgerRow.Classified (shipItem c i need refLine) := by
  refine enters_bind (enters_exec True.intro) fun row => ?_
  cases row with
  | none => exact (within_raiseShortage _ _ _).enters
  | some r =>
      refine enters_bind (enters_when (within_raiseShortage _ _ _).enters) fun _ => ?_
      refine enters_bind (enters_adjustLotImpl _) fun _ => ?_
      exact enters_bind (enters_when (within_raiseShortage _ _ _).enters) fun _ => enters_pure _

theorem enters_shipItems (c : ShipCall) (policy : Int → Option ExpiryPolicy)
    (needs : List (Int × Int)) (effects : List ShipEffect) :
    Enters StockLedgerRow.Classified (shipItems c policy needs effects) := by
  induction needs generalizing effects with
  | nil => exact enters_pure _
  | cons need rest ih =>
      refine enters_bind (enters_require _ _) fun _ => ?_
      refine enters_bind (enters_select _) fun _ => ?_
      refine enters_ite (ih _) ?_
      exact enters_bind (enters_shipItem _ _ _ _) fun _ => ih _

theorem enters_shipCommitDirect (c : ShipCall) (lines : List ShipLine) :
    Enters StockLedgerRow.Classified (shipCommitDirect c lines) := by
  refine enters_ite (enters_pure _) ?_
  refine enters_bind (enters_select _) fun _ => ?_
  refine enters_bind (enters_require _ _) fun _ => ?_
  refine enters_bind (enters_shipItems _ _ _ _) fun _ => ?_
  refine enters_bind (enters_when ?_) fun _ => enters_pure _
  exact enters_bind (enters_select _) fun _ => enters_require _ _

/-! ## Every operation -/

/-- The call submits an outbound document. -/
def Op.SubmitsOutbound : Op → Prop
  | .orderSubmit .. | .manualSubmit .. => True
  | _ => False

/-- **What a call enters.** The rows of a call are classified exactly if it
submits no outbound document. -/
theorem Op.enters (op : Op) :
    Enters (fun row => row.Classified ↔ ¬ op.SubmitsOutbound) op.prog := by
  have hplain (hop : ¬ op.SubmitsOutbound) {x : Tx Unit} (hx : Enters StockLedgerRow.Classified x) :
      Enters (fun row => row.Classified ↔ ¬ op.SubmitsOutbound) x := by
    refine Prog.Every.mono (fun s hs => ?_) hx
    cases s with
    | insertLedger row => exact iff_of_true hs hop
    | insertLedgerOnConflictDoNothing row => exact iff_of_true hs hop
    | _ => exact hs
  have houtbound (hop : op.SubmitsOutbound) {x : Tx Unit}
      (hx : Enters (fun row => ¬ row.Classified) x) :
      Enters (fun row => row.Classified ↔ ¬ op.SubmitsOutbound) x := by
    refine Prog.Every.mono (fun s hs => ?_) hx
    cases s with
    | insertLedger row => exact iff_of_false hs (not_not.mpr hop)
    | insertLedgerOnConflictDoNothing row => exact iff_of_false hs (not_not.mpr hop)
    | _ => exact hs
  have hoff {x : Tx Unit} (hx : Within Part.OffBooks x) :
      Enters (fun row => row.Classified ↔ ¬ op.SubmitsOutbound) x := hx.enters
  cases op with
  | inboundCommit payload userId c => exact hplain id (enters_forget (enters_commitInbound _ _ _))
  | inboundOperation payload operator c =>
      exact hplain id (enters_forget (enters_submitInboundOperationRepo _ _ _))
  | orderSubmit orderId warehouseId c payload =>
      exact houtbound True.intro (enters_forget (enters_submitOrder _ _ _ _))
  | manualSubmit docId c payload =>
      exact houtbound True.intro (enters_forget (enters_submitManual _ _ _))
  | outboundReversal eventId payload userId c =>
      exact hplain id (enters_forget (enters_reverseEvent outboundSide .outboundLines
        (fun _ _ => rfl) True.intro _ _ _ _))
  | inboundReversal eventId payload userId c =>
      exact hplain id (enters_forget (enters_reverseEvent inboundSide .inboundLines
        (fun _ _ => rfl) True.intro _ _ _ _))
  | directCount req newLotId now => exact hplain id (enters_forget (enters_countSubmit _ _ _))
  | recount req c => exact hplain id (enters_forget (enters_stockRecount _ _))
  | countCreate payload actor c =>
      exact hoff (within_forget (within_createDoc True.intro _ _ _))
  | countFreeze docId lineId =>
      exact hoff (within_forget (within_freezeDoc True.intro True.intro _ _))
  | countUpdate docId payload now =>
      exact hoff (within_forget (within_updateDocLines True.intro True.intro _ _ _))
  | countPost docId reviewedBy c => exact hplain id (enters_forget (enters_postDoc _ _ _))
  | countVoid docId => exact hoff (within_voidDoc True.intro _)
  | returnCreate orderId w z c =>
      exact hoff (within_forget (within_createForOrder True.intro _ _ _ _))
  | returnReceive taskId itemId qty =>
      exact hoff (within_forget (within_recordReceive True.intro _ _ _))
  | returnCommit taskId c => exact hplain id (enters_forget (enters_commitReturnTask _ _))
  | directShip c lines => exact hplain id (enters_forget (enters_shipCommitDirect _ _))

end WmsDu
