import WmsDu.Inbound.LiveReceipts
import WmsDu.Inbound.ReceiptLog
import WmsDu.System.Purchases

/-!
# Purchase receipts and the orders they were made from

The lines of a receipt are copied from an order when it is created. An order
is edited by new lines in place of the old ones; the edit is refused while a
receipt of the order is released or goods were received for its lines.
-/

namespace WmsDu

open Txn Tx

/-! ## The calls -/

/-- A call on a purchase order or on a receipt of one. -/
inductive PurchaseReceiptOp
  | create (payload : PurchaseReceiptIn) (c : ReturnReceiptDraws)
  | release (receiptId : Int)
  | operate (payload : InboundOperationSubmitIn) (operator : Operator) (c : OperationDraws)
  | update (poId : Int) (payload : PurchaseOrderUpdateIn) (newLineId : Int → Int)

namespace ReceiptDb

/-- The receipt lines. -/
abbrev receiptLines (db : ReceiptDb) :
    Table (fun l : InboundReceiptLine => (l.inboundReceiptId, l.lineNo)) :=
  db.oms.wms.inboundReceiptLines

/-- The purchase tables. -/
def purchase (db : ReceiptDb) : PurchaseDb :=
  ⟨db.oms.wms, db.suppliers, db.purchaseOrders, db.purchaseOrderLines⟩

/-- The database with other purchase tables. -/
def withPurchase (db : ReceiptDb) (p : PurchaseDb) : ReceiptDb :=
  { db with
    oms := { db.oms with wms := p.wms }
    suppliers := p.suppliers
    purchaseOrders := p.purchaseOrders
    purchaseOrderLines := p.purchaseOrderLines }

/-- A call of a purchase service. -/
def purchaseCall (f : PurchaseDb → Except Err PurchaseDb) (db : ReceiptDb) :
    Except Err ReceiptDb := do
  let p ← f db.purchase
  return db.withPurchase p

/-- A call of a receipt service. -/
def receiptCall {α : Type} (x : ReceiptTx α) (db : ReceiptDb) : Except Err ReceiptDb := do
  let out ← x.run db
  return out.2

end ReceiptDb

/-- The service a call runs. -/
def PurchaseReceiptOp.call : PurchaseReceiptOp → ReceiptDb → Except Err ReceiptDb
  | .create payload c => ReceiptDb.receiptCall (createReceiptFromPurchase payload c)
  | .release receiptId => ReceiptDb.receiptCall (releaseReceipt receiptId)
  | .operate payload operator c =>
      ReceiptDb.purchaseCall (PurchaseDb.wmsCall (submitInboundOperationRepo payload operator c))
  | .update poId payload newLineId =>
      ReceiptDb.purchaseCall (PurchaseDb.updatePoV2 poId payload newLineId)

/-! ## Copies of order lines -/

/-- The line is one of a purchase receipt. -/
def InboundReceipt.Plans (r : InboundReceipt) (l : InboundReceiptLine) : Prop :=
  r.sourceType = .purchaseOrder ∧ l.inboundReceiptId = r.id

instance InboundReceipt.decidablePlans (r : InboundReceipt) (l : InboundReceiptLine) :
    Decidable (r.Plans l) := inferInstanceAs (Decidable (_ ∧ _))

/-- Goods are or were received for the receipt. -/
def InboundReceipt.InForce (r : InboundReceipt) : Prop := r.status = .released ∨ r.status = .completed

instance InboundReceipt.decidableInForce (r : InboundReceipt) : Decidable r.InForce :=
  inferInstanceAs (Decidable (_ ∨ _))

/-- The line plans what the order line orders. -/
def InboundReceiptLine.Copies (l : InboundReceiptLine) (r : InboundReceipt)
    (pol : PurchaseOrderLine) : Prop :=
  r.sourceDocId = some pol.poId ∧ l.itemId = pol.itemId ∧ l.itemUomId = pol.purchaseUomIdSnapshot ∧
    l.plannedQty = pol.qtyOrderedInput ∧ l.ratioToBaseSnapshot = pol.purchaseRatioToBaseSnapshot

instance InboundReceiptLine.decidableCopies (l : InboundReceiptLine) (r : InboundReceipt)
    (pol : PurchaseOrderLine) : Decidable (l.Copies r pol) := inferInstanceAs (Decidable (_ ∧ _))

/-- The order line a receipt line was copied from is still there. -/
def ReceiptDb.LineThere (db : ReceiptDb) (l : InboundReceiptLine) : Prop :=
  ∃ p ∈ l.sourceLineId, db.purchaseOrderLines.HasKey p

instance ReceiptDb.decidableLineThere (db : ReceiptDb) (l : InboundReceiptLine) :
    Decidable (db.LineThere l) :=
  inferInstanceAs (Decidable (∃ p ∈ l.sourceLineId, _))

/-- Each line of each purchase receipt in force names a line of the order and
plans what it orders. -/
def ReceiptDb.Mirrored (db : ReceiptDb) : Prop :=
  ∀ r ∈ db.receipts.rows, ∀ l ∈ db.receiptLines.rows, r.Plans l → r.InForce →
    ∃ pol ∈ db.purchaseOrderLines.rows, l.sourceLineId = some pol.id ∧ l.Copies r pol

instance ReceiptDb.decidableMirrored (db : ReceiptDb) : Decidable db.Mirrored :=
  inferInstanceAs (Decidable (∀ r ∈ db.receipts.rows, ∀ l ∈ db.receiptLines.rows, _ → _ → _))

/-- An event line received goods for a line of the receipt. -/
def ReceiptDb.Received (db : ReceiptDb) (r : InboundReceipt) : Prop :=
  ∃ l ∈ db.receiptLines.rows, r.Plans l ∧ ∃ e ∈ db.oms.wms.inboundEventLines.rows,
    e.poLineId = l.sourceLineId ∧ e.InPurchaseFact db.oms.wms

/-- What the calls keep: lines are copies of the order lines they name, as far
as these exist; those of receipts in force do; and a completed receipt
received something. -/
structure ReceiptDb.Faithful (db : ReceiptDb) : Prop where
  owned : ∀ l ∈ db.receiptLines.rows, db.receipts.HasKey l.inboundReceiptId
  copied : ∀ r ∈ db.receipts.rows, ∀ l ∈ db.receiptLines.rows, r.Plans l →
    ∃ p, l.sourceLineId = some p ∧ ∀ pol ∈ db.purchaseOrderLines.rows, pol.id = p → l.Copies r pol
  there : ∀ r ∈ db.receipts.rows, ∀ l ∈ db.receiptLines.rows, r.Plans l → r.InForce →
    db.LineThere l
  received : ∀ r ∈ db.receipts.rows, r.sourceType = .purchaseOrder → r.status = .completed →
    db.Received r

theorem ReceiptDb.Faithful.mirrored {db : ReceiptDb} (h : db.Faithful) : db.Mirrored := by
  intro r hr l hl hplans hforce
  obtain ⟨p, hp, hcopies⟩ := h.copied r hr l hl hplans
  obtain ⟨q, hq, pol, hpol, hid⟩ := h.there r hr l hl hplans hforce
  rw [hp] at hq
  cases hq
  exact ⟨pol, hpol, by rw [hp, hid], hcopies pol hpol hid⟩

/-- The sequence draws numbers no line of a purchase receipt names. -/
def PurchaseReceiptOp.Fresh (db : ReceiptDb) : PurchaseReceiptOp → Prop
  | .update _ payload newLineId => ∀ raw ∈ payload.lines, ∀ r ∈ db.receipts.rows,
      ∀ l ∈ db.receiptLines.rows, r.Plans l → l.sourceLineId ≠ some (newLineId raw.lineNo)
  | _ => True

/-- A draft is released only while the order lines it was copied from are
there. -/
def PurchaseReceiptOp.Current (db : ReceiptDb) : PurchaseReceiptOp → Prop
  | .release receiptId => ∀ r ∈ db.receipts.rows, r.id = receiptId → r.status = .draft →
      ∀ l ∈ db.receiptLines.rows, r.Plans l → db.LineThere l
  | _ => True

instance PurchaseReceiptOp.decidableFresh (db : ReceiptDb) :
    (op : PurchaseReceiptOp) → Decidable (op.Fresh db)
  | .update _ payload _ => inferInstanceAs (Decidable (∀ raw ∈ payload.lines, _))
  | .create _ _ | .release _ | .operate _ _ _ => inferInstanceAs (Decidable True)

instance PurchaseReceiptOp.decidableCurrent (db : ReceiptDb) :
    (op : PurchaseReceiptOp) → Decidable (op.Current db)
  | .release _ => inferInstanceAs (Decidable (∀ r ∈ db.receipts.rows, _))
  | .create _ _ | .operate _ _ _ | .update _ _ _ => inferInstanceAs (Decidable True)

/-! ## Creating -/

section Create
variable {db db' : ReceiptDb}

theorem run_insertReceipt_ok {r : InboundReceipt} {u : Unit} :
    (insertReceipt r).run db = .ok (u, db') →
      ¬ db.receipts.HasKey r.id ∧ db' = redo [ReceiptRedo.receiptInsert r] db := by
  intro h
  obtain ⟨us, hwrite, rfl⟩ := Prog.run_write_ok.mp h
  obtain ⟨oms, hins, hwrite⟩ := bind_eq_ok.mp hwrite
  obtain ⟨-, -, hwrite⟩ := bind_eq_ok.mp hwrite
  cases hwrite
  unfold insertInboundReceipt at hins
  obtain ⟨_, hnew, -⟩ := bind_eq_ok.mp hins
  exact ⟨demand_eq_ok.mp hnew, rfl⟩

theorem run_insertReceiptLines_ok {ls : List InboundReceiptLine} {u : Unit}
    (h : (insertReceiptLines ls).run db = .ok (u, db')) :
    db' = redo (ls.map ReceiptRedo.lineInsert) db := by
  induction ls generalizing db with
  | nil =>
      cases h
      rfl
  | cons l ls ih =>
      obtain ⟨_, db₁, hline, hrest⟩ := Prog.run_bind_ok.mp h
      obtain ⟨us, hwrite, rfl⟩ := Prog.run_write_ok.mp hline
      obtain ⟨oms, -, hwrite⟩ := bind_eq_ok.mp hwrite
      cases hwrite
      exact ih hrest

/-- What a creation reads and writes. -/
theorem run_createReceiptFromPurchase_ok {payload : PurchaseReceiptIn} {c : ReturnReceiptDraws}
    {out : InboundReceiptReadOut}
    (h : (createReceiptFromPurchase payload c).run db = .ok (out, db')) :
    ∃ (po : PurchaseOrder) (name : Option String), po.id = payload.sourceDocId ∧
      ¬ db.receipts.HasKey c.receiptId ∧
      db' = redo (ReceiptRedo.receiptInsert (purchaseReceiptHead po payload.warehouseId name c) ::
        (db.poLines payload.sourceDocId).map fun l =>
          ReceiptRedo.lineInsert (purchaseReceiptLine c.receiptId l.1 l.2)) db := by
  simp only [createReceiptFromPurchase, readReceipt, Prog.run_bind_ok, Prog.run_read,
    Prog.run_requireSome_ok, Prog.run_require_ok, Prog.run_ofExcept_ok] at h
  obtain ⟨_, _, hpo, po, _, ⟨hfound, rfl⟩, _, _, ⟨-, rfl⟩, _, _, ⟨-, rfl⟩, existing, _, hex, _, db₀,
    hrefuse, lines, _, hlines, _, _, ⟨-, rfl⟩, name, _, hname, _, db₁, hhead, _, db₂, hins, _, _,
    hout, -, rfl⟩ := h
  cases hpo
  cases hex
  have hnone : db₀ = db := by
    generalize existingReceipt .purchaseOrder payload.sourceDocId db.oms.wms = found at hrefuse
    cases found with
    | none =>
        cases hrefuse
        rfl
    | some r => cases hrefuse
  subst hnone
  cases hlines
  cases hname
  cases hout
  obtain ⟨hnew, rfl⟩ := run_insertReceipt_ok hhead
  refine ⟨po, db₀.oms.warehouseNames.lookup payload.warehouseId,
    (Table.lookup_eq_some.mp hfound).2, hnew, ?_⟩
  rw [run_insertReceiptLines_ok hins, List.map_map]
  rfl

/-- Lines are added to the receipt lines. -/
theorem mem_of_mem_redo_lines {ls : List InboundReceiptLine} {l : InboundReceiptLine}
    (h : l ∈ (redo (ls.map ReceiptRedo.lineInsert) db).receiptLines.rows) :
    l ∈ db.receiptLines.rows ∨ l ∈ ls := by
  induction ls generalizing db with
  | nil => exact .inl h
  | cons m ls ih =>
      rcases ih h with hl | hl
      · rcases Table.mem_of_mem_insert hl with hl | rfl
        · exact .inl hl
        · exact .inr List.mem_cons_self
      · exact .inr (List.mem_cons_of_mem m hl)

theorem mem_redo_lines {ls : List InboundReceiptLine} {l : InboundReceiptLine}
    (h : l ∈ db.receiptLines.rows) :
    l ∈ (redo (ls.map ReceiptRedo.lineInsert) db).receiptLines.rows := by
  induction ls generalizing db with
  | nil => exact h
  | cons m ls ih => exact ih (Table.mem_insert_of_mem h)

/-- The line is the copy of a line of the order. -/
def CopiedFrom (db : ReceiptDb) (receiptId poId : Int) (l : InboundReceiptLine) : Prop :=
  ∃ row spec, row ∈ db.purchaseOrderLines.rows ∧ row.poId = poId ∧
    l = purchaseReceiptLine receiptId row spec

/-- The tables after a creation. -/
theorem run_createReceiptFromPurchase_tables {payload : PurchaseReceiptIn}
    {c : ReturnReceiptDraws} {out : InboundReceiptReadOut}
    (h : (createReceiptFromPurchase payload c).run db = .ok (out, db')) :
    ∃ head : InboundReceipt, head.id = c.receiptId ∧ head.status = .draft ∧
      head.sourceDocId = some payload.sourceDocId ∧ ¬ db.receipts.HasKey c.receiptId ∧
      db.SameSources db' ∧ db'.receipts = db.receipts.insert head ∧
      (∀ l ∈ db.receiptLines.rows, l ∈ db'.receiptLines.rows) ∧
      ∀ l ∈ db'.receiptLines.rows, l ∈ db.receiptLines.rows ∨
        CopiedFrom db c.receiptId payload.sourceDocId l := by
  obtain ⟨po, name, hpo, hnew, hdb⟩ := run_createReceiptFromPurchase_ok h
  have hsame : db.SameSources db' := hdb ▸ redo_sameSources _ db
  have hmap : ((db.poLines payload.sourceDocId).map fun l =>
      ReceiptRedo.lineInsert (purchaseReceiptLine c.receiptId l.1 l.2)) =
      ((db.poLines payload.sourceDocId).map fun l =>
        purchaseReceiptLine c.receiptId l.1 l.2).map .lineInsert := List.map_map.symm
  rw [redo_cons, hmap] at hdb
  refine ⟨purchaseReceiptHead po payload.warehouseId name c, rfl, rfl, by rw [← hpo]; rfl, hnew,
    hsame, ?_, fun l hl => ?_, fun l hl => ?_⟩
  · rw [hdb, redo_lines]
    rfl
  · rw [hdb]
    exact mem_redo_lines hl
  · rw [hdb] at hl
    rcases mem_of_mem_redo_lines hl with hl | hl
    · exact .inl hl
    · obtain ⟨l', hl', rfl⟩ := List.mem_map.mp hl
      obtain ⟨row, hrow, rfl⟩ := List.mem_map.mp hl'
      obtain ⟨hmem, hof⟩ := List.mem_filter.mp (mem_sortOn.mp hrow)
      exact .inr ⟨row, _, hmem, of_decide_eq_true hof, rfl⟩

/-- The receipt and its lines are new, and the lines copy the order's. -/
theorem ReceiptDb.Faithful.create (h : db.Faithful) {payload : PurchaseReceiptIn}
    {c : ReturnReceiptDraws} {out : InboundReceiptReadOut}
    (hrun : (createReceiptFromPurchase payload c).run db = .ok (out, db')) : db'.Faithful := by
  obtain ⟨head, hid, hdraft, hdoc, hnew, ⟨t, u, hsame⟩, hreceipts, hold, hlines⟩ :=
    run_createReceiptFromPurchase_tables hrun
  have hlinesOf : db'.purchaseOrderLines = db.purchaseOrderLines := by rw [hsame]; rfl
  have hevents : db'.oms.wms.wmsEvents = db.oms.wms.wmsEvents := by rw [hsame]; rfl
  have hfacts : db'.oms.wms.inboundEventLines = db.oms.wms.inboundEventLines := by rw [hsame]; rfl
  -- the lines of older receipts are older, those of the new one are new
  have hsplit : ∀ r ∈ db'.receipts.rows, ∀ l ∈ db'.receiptLines.rows, r.Plans l →
      (r ∈ db.receipts.rows ∧ l ∈ db.receiptLines.rows) ∨
        (r = head ∧ CopiedFrom db c.receiptId payload.sourceDocId l) := by
    intro r hr l hl hplans
    rw [hreceipts] at hr
    rcases Table.mem_of_mem_insert hr with hr' | rfl <;> rcases hlines l hl with hl' | hl'
    · exact .inl ⟨hr', hl'⟩
    · obtain ⟨row, spec, -, -, rfl⟩ := hl'
      exact absurd ⟨r, hr', hplans.2.symm⟩ hnew
    · have hkey := h.owned l hl'
      rw [hplans.2, hid] at hkey
      exact absurd hkey hnew
    · exact .inr ⟨rfl, hl'⟩
  constructor
  · intro l hl
    rw [hreceipts, Table.hasKey_insert]
    rcases hlines l hl with hl' | ⟨row, spec, -, -, rfl⟩
    · exact .inl (h.owned l hl')
    · exact .inr hid.symm
  · intro r hr l hl hplans
    rw [hlinesOf]
    rcases hsplit r hr l hl hplans with ⟨hr', hl'⟩ | ⟨rfl, row, spec, hrow, hof, rfl⟩
    · exact h.copied r hr' l hl' hplans
    · refine ⟨row.id, rfl, fun pol hpol hpid => ?_⟩
      obtain rfl := db.purchaseOrderLines.eq_of_key hpol hrow hpid
      exact ⟨by rw [hdoc, hof], rfl, rfl, rfl, rfl⟩
  · intro r hr l hl hplans hforce
    show ∃ p ∈ l.sourceLineId, db'.purchaseOrderLines.HasKey p
    rw [hlinesOf]
    rcases hsplit r hr l hl hplans with ⟨hr', hl'⟩ | ⟨rfl, -⟩
    · exact h.there r hr' l hl' hplans hforce
    · rcases hforce with hs | hs <;> rw [hdraft] at hs <;> cases hs
  · intro r hr hpurchase hdone
    rw [hreceipts] at hr
    rcases Table.mem_of_mem_insert hr with hr' | rfl
    · obtain ⟨l, hl, hplans, e, he, hline, hfact⟩ := h.received r hr' hpurchase hdone
      refine ⟨l, hold l hl, hplans, e, by rw [hfacts]; exact he, hline, ?_⟩
      unfold InboundEventLine.InPurchaseFact
      rw [hevents]
      exact hfact
    · rw [hdraft] at hdone
      cases hdone

end Create

/-! ## Releasing -/

section Release
variable {db db' : ReceiptDb} {receiptId : Int}

theorem run_releaseReceipt_ok {r : InboundReceipt}
    (h : (releaseReceipt receiptId).run db = .ok (r, db')) :
    db' = db ∨ db' = (ReceiptRedo.release receiptId).apply db := by
  obtain ⟨updated, db₁, hwrite, hrest⟩ := Prog.run_bind_ok.mp h
  have hend : db' = db₁ := by
    cases updated with
    | some r =>
        cases hrest
        rfl
    | none =>
        simp only [Prog.run_bind_ok, Prog.run_read, Prog.run_requireSome_ok,
          Prog.run_require_ok] at hrest
        obtain ⟨_, _, hread, _, _, ⟨-, rfl⟩, _, _, ⟨-, rfl⟩, hret⟩ := hrest
        cases hread
        cases hret
        rfl
  subst hend
  obtain ⟨us, hexec, rfl⟩ := Prog.run_write_ok.mp hwrite
  (repeat' split at hexec) <;> cases hexec
  · exact .inr rfl
  · exact .inl rfl
  · exact .inl rfl

theorem hasKey_release {k : Int} :
    ((ReceiptRedo.release receiptId).apply db).receipts.HasKey k ↔ db.receipts.HasKey k := by
  show (db.receipts.update (fun r => r.id = receiptId ∧ r.status = .draft)
    (fun r => { r with status := .released }) fun _ => rfl).HasKey k ↔ _
  exact Table.hasKey_update _

/-- A release changes the status of one draft, whose lines it must find. -/
theorem ReceiptDb.Faithful.release (h : db.Faithful)
    (hcurrent : (PurchaseReceiptOp.release receiptId).Current db) {r : InboundReceipt}
    (hrun : (releaseReceipt receiptId).run db = .ok (r, db')) : db'.Faithful := by
  rcases run_releaseReceipt_ok hrun with rfl | rfl
  · exact h
  have hplans : ∀ {r s : InboundReceipt} {l : InboundReceiptLine},
      r = (if s.id = receiptId ∧ s.status = .draft then { s with status := .released } else s) →
        r.Plans l → s.Plans l := by
    rintro r s l rfl hr
    split at hr
    · exact hr
    · exact hr
  constructor
  · intro l hl
    exact hasKey_release.mpr (h.owned l hl)
  · intro r hr l hl hr'
    obtain ⟨s, hs, heq⟩ := mem_release.mp hr
    obtain ⟨p, hp, hcopies⟩ := h.copied s hs l hl (hplans heq hr')
    refine ⟨p, hp, fun pol hpol hpid => ?_⟩
    have hdoc : r.sourceDocId = s.sourceDocId := by
      rw [heq]
      split <;> rfl
    have hcopy := hcopies pol hpol hpid
    exact ⟨hdoc.trans hcopy.1, hcopy.2⟩
  · intro r hr l hl hr' hforce
    obtain ⟨s, hs, heq⟩ := mem_release.mp hr
    have hs' := hplans heq hr'
    by_cases hdraft : s.id = receiptId ∧ s.status = .draft
    · exact hcurrent s hs hdraft.1 hdraft.2 l hl hs'
    · rw [if_neg hdraft] at heq
      exact h.there s hs l hl hs' (heq ▸ hforce)
  · intro r hr hpurchase hdone
    obtain ⟨s, hs, rfl⟩ := mem_release.mp hr
    split at hdone
    · cases hdone
    · rename_i hkept
      rw [if_neg hkept] at hpurchase ⊢
      exact h.received s hs hpurchase hdone

end Release

/-! ## Receiving -/

section Spares
variable {α : Type}

/-- The program completes no receipt. -/
def Tx.SparesReceipts (x : Tx α) : Prop :=
  x.Every fun s => ∀ db b us, s.exec db = .ok (b, us) → us.filterMap Redo.completes? = []

theorem Tx.spares_of_within {x : Tx α} (hx : x.Within (· ≠ .other)) : x.SparesReceipts := by
  refine Prog.Every.mono (fun s hs db b us hexec => ?_) hx
  refine List.filterMap_eq_nil_iff.mpr fun u hu => ?_
  have hpart : u.part ≠ .other := hs _ (Sql.exec_part hexec u hu)
  cases u <;> first | rfl | exact absurd rfl hpart

theorem Tx.spares_insertOperation (o : WmsInboundOperation) :
    Tx.SparesReceipts (Prog.exec (.insertOperation o) : Tx Unit) := by
  refine Prog.every_exec fun db b us hexec => ?_
  simp only [Sql.exec, violated] at hexec
  (repeat' split at hexec) <;> cases hexec
  rfl

theorem Tx.spares_insertOperationLine (l : WmsInboundOperationLine) :
    Tx.SparesReceipts (Prog.exec (.insertOperationLine l) : Tx Unit) := by
  refine Prog.every_exec fun db b us hexec => ?_
  simp only [Sql.exec, violated] at hexec
  (repeat' split at hexec) <;> cases hexec
  rfl

theorem Tx.SparesReceipts.run {x : Tx α} (hx : x.SparesReceipts) {db db' : Db} {a : α}
    (h : x.run db = .ok (a, db')) : db'.inboundReceipts = db.inboundReceipts := by
  refine Prog.Every.run_frame (f := Db.inboundReceipts) hx (fun s w b us hs hexec => ?_) h
  rw [replay_receipts, hs w b us hexec, completeAll_nil]

theorem spares_submitEntry (ctx : OperationContext) (taskLine : OperationTaskLine) (item : Item)
    (entry : InboundOperationEntryIn) (p : OperationProgress) :
    Tx.SparesReceipts (submitEntry ctx taskLine item entry p) := by
  refine Prog.every_bind (spares_of_within (within_entryUom _ _)) fun u => ?_
  refine Prog.every_bind (spares_of_within (within_require _ _)) fun _ => ?_
  refine Prog.every_bind (spares_of_within (within_ofExcept _)) fun _ => ?_
  refine Prog.every_bind (spares_of_within (within_ofExcept _)) fun _ => ?_
  refine Prog.every_bind (spares_of_within (within_ofExcept _)) fun _ => ?_
  refine Prog.every_bind
    (spares_of_within (within_resolveInboundLot nofun _ _ _ _ _ _)) fun lotId => ?_
  refine Prog.every_bind (spares_insertOperationLine _) fun _ => ?_
  refine spares_of_within (within_bind (within_exec rfl nofun) fun _ => ?_)
  exact within_bind (within_bind (within_exec rfl nofun) fun _ => within_exec rfl nofun)
    fun _ => within_pure _

theorem spares_submitEntries (ctx : OperationContext) (taskLine : OperationTaskLine) (item : Item)
    (entries : List InboundOperationEntryIn) (p : OperationProgress) :
    Tx.SparesReceipts (submitEntries ctx taskLine item entries p) := by
  induction entries generalizing p with
  | nil => exact Prog.every_pure _
  | cons entry rest ih => exact Prog.every_bind (spares_submitEntry _ _ _ _ _) fun p => ih p

theorem spares_submitOperationLines (ctx : OperationContext) (taskLines : List OperationTaskLine)
    (lines : List InboundOperationLineIn) (p : OperationProgress) :
    Tx.SparesReceipts (submitOperationLines ctx taskLines lines p) := by
  induction lines generalizing p with
  | nil => exact Prog.every_pure _
  | cons line rest ih =>
      refine Prog.every_bind (spares_of_within (within_requireSome _ _)) fun _ => ?_
      refine Prog.every_bind (spares_of_within (within_select _)) fun _ => ?_
      refine Prog.every_bind (spares_of_within (within_requireSome _ _)) fun _ => ?_
      exact Prog.every_bind (spares_submitEntries _ _ _ _ _) fun p => ih p

end Spares

section Operate

theorem run_completeReceipt_ok {db db' : Db} {done : Prop} [Decidable done] {receiptId : Int}
    (h : (when done (Prog.exec (.completeReceipt receiptId))).run db = .ok ((), db')) :
    ∃ ids : List Int, (∀ i ∈ ids, i = receiptId) ∧
      db'.inboundReceipts = completeAll ids db.inboundReceipts := by
  by_cases hdone : done
  · rw [run_when_of hdone] at h
    obtain ⟨us, hexec, rfl⟩ := Prog.run_exec_ok.mp h
    refine ⟨us.filterMap Redo.completes?, ?_, replay_receipts us db⟩
    change (Sql.completeReceipt receiptId).exec db = _ at hexec
    simp only [Sql.exec] at hexec
    split at hexec <;> cases hexec
    · exact fun i hi => List.mem_singleton.mp hi
    · exact List.forall_mem_nil _
  · rw [run_when_of_not hdone] at h
    cases h
    exact ⟨[], List.forall_mem_nil _, (completeAll_nil _).symm⟩

/-- What an operation does to the receipts: it receives for the lines of its
task, and completes no other. -/
theorem run_submitInboundOperation_receipts {db db' : Db} {payload : InboundOperationSubmitIn}
    {op : Operator} {c : OperationDraws} {out : InboundOperationSubmitOut}
    (h : (submitInboundOperationRepo payload op c).run db = .ok (out, db')) :
    ∃ (task : InboundReceipt) (x : Additions) (ids : List Int),
      task ∈ db.inboundReceipts.rows ∧ task.status = .released ∧ (∀ i ∈ ids, i = task.id) ∧
      db'.inboundReceipts = completeAll ids db.inboundReceipts ∧
      db'.inboundReceiptLines = db.inboundReceiptLines ∧
      Adds db x db' ∧ x.events = [operationEvent task op c payload.remark] ∧ x.inbound ≠ [] ∧
      ∀ l ∈ x.inbound, l.eventId = c.eventId ∧ ∃ tl ∈ db.inboundReceiptLines.rows,
        tl.inboundReceiptId = task.id ∧ l.Receives task tl := by
  have hrun := h
  obtain ⟨task, _, _, db₁, db₂, db₃, done, _, hfind, hstatus, hhead, hevent, hlines, hdone⟩ :=
    run_submitInboundOperationRepo_ok h
  obtain ⟨x, hcommits, -, hsome, hreceives⟩ :=
    run_submitInboundOperation_writes hhead hevent hlines hdone
  obtain ⟨ids, hids, hcompleted⟩ := run_completeReceipt_ok hdone
  have hkept : db₃.inboundReceipts = db.inboundReceipts := by
    have hwithin : Within (· ≠ .other) (Prog.exec
        (.insertEvent (operationEvent task op c payload.remark)) : Tx Unit) := within_exec rfl nofun
    rw [(spares_submitOperationLines _ _ _ _).run hlines, (spares_of_within hwithin).run hevent,
      (spares_insertOperation _).run hhead]
  rw [hkept] at hcompleted
  refine ⟨task, x, ids, List.mem_of_find?_eq_some hfind, hstatus, hids, hcompleted, ?_,
    hcommits.adds, hcommits.events, hsome, fun l hl => ?_⟩
  · exact Prog.run_preserves (I := fun d => d.inboundReceiptLines = db.inboundReceiptLines)
      (fun s w b us _ hw => (replay_receiptLines us w).trans hw) hrun rfl
  · obtain ⟨tl, htl, hid, -, hr⟩ := hreceives l hl
    exact ⟨hcommits.inbound l hl, tl, htl, hid, hr⟩

/-- Facts stay, and a released task that is completed has one. -/
theorem ReceiptDb.Faithful.operate {db db' : ReceiptDb} (h : db.Faithful)
    {payload : InboundOperationSubmitIn} {operator : Operator} {c : OperationDraws}
    (hcall : (PurchaseReceiptOp.operate payload operator c).call db = .ok db') : db'.Faithful := by
  obtain ⟨p, hwms, hret⟩ := bind_eq_ok.mp hcall
  cases hret
  obtain ⟨out, hrun, -, hp⟩ := PurchaseDb.wmsCall_ok hwms
  obtain ⟨task, x, ids, htask, hreleased, hids, hreceipts, hreceiptLines, hadds, hevents, hsome,
    hlines⟩ := run_submitInboundOperation_receipts hrun
  have hpol : (db.withPurchase p).purchaseOrderLines = db.purchaseOrderLines := by
    rw [hp]
    rfl
  have hlinesOf : (db.withPurchase p).receiptLines = db.receiptLines := hreceiptLines
  have hfact : ∀ {l : InboundEventLine}, l.InPurchaseFact db.oms.wms → l.InPurchaseFact p.wms := by
    rintro l ⟨e, he, hfact⟩
    refine ⟨e, ?_, hfact⟩
    rw [hadds.events]
    exact List.mem_append_left _ he
  -- a receipt is as it was, or is the task completed
  have hback : ∀ r ∈ (db.withPurchase p).receipts.rows, r ∈ db.receipts.rows ∨
      r = { task with status := .completed } := by
    intro r hr
    have hr' : r ∈ (completeAll ids db.receipts).rows := by
      rw [← show p.wms.inboundReceipts = completeAll ids db.receipts from hreceipts]
      exact hr
    obtain ⟨s, hs, rfl⟩ := mem_completeAll.mp hr'
    split
    · rename_i hmem
      rw [db.receipts.eq_of_key hs htask (hids s.id hmem)]
      exact .inr rfl
    · exact .inl hs
  have hkey : ∀ k, db.receipts.HasKey k → (db.withPurchase p).receipts.HasKey k := by
    rintro k ⟨s, hs, rfl⟩
    have hmem : (if s.id ∈ ids then { s with status := .completed } else s) ∈
        (completeAll ids db.receipts).rows := mem_completeAll.mpr ⟨s, hs, rfl⟩
    rw [← show p.wms.inboundReceipts = completeAll ids db.receipts from hreceipts] at hmem
    refine ⟨_, hmem, ?_⟩
    split <;> rfl
  constructor
  · intro l hl
    rw [hlinesOf] at hl
    exact hkey _ (h.owned l hl)
  · intro r hr l hl hplans
    rw [hlinesOf] at hl
    rw [hpol]
    rcases hback r hr with hr' | rfl
    · exact h.copied r hr' l hl hplans
    · exact h.copied task htask l hl hplans
  · intro r hr l hl hplans hforce
    rw [hlinesOf] at hl
    unfold ReceiptDb.LineThere
    rw [hpol]
    rcases hback r hr with hr' | rfl
    · exact h.there r hr' l hl hplans hforce
    · exact h.there task htask l hl hplans (.inl hreleased)
  · intro r hr hpurchase hdone
    unfold ReceiptDb.Received
    rw [hlinesOf]
    rcases hback r hr with hr' | rfl
    · obtain ⟨l, hl, hplans, e, he, hline, hin⟩ := h.received r hr' hpurchase hdone
      refine ⟨l, hl, hplans, e, ?_, hline, hfact hin⟩
      show e ∈ p.wms.inboundEventLines.rows
      rw [hadds.inbound]
      exact List.mem_append_left _ he
    · obtain ⟨e, rest, hx⟩ := List.exists_cons_of_ne_nil hsome
      have he : e ∈ x.inbound := hx ▸ List.mem_cons_self
      obtain ⟨heid, tl, htl, hid, hr⟩ := hlines e he
      have hsource : task.sourceType = .purchaseOrder := hpurchase
      refine ⟨tl, htl, ⟨hpurchase, hid⟩, e, ?_, ?_, ?_⟩
      · show e ∈ p.wms.inboundEventLines.rows
        rw [hadds.inbound]
        exact List.mem_append_right _ he
      · rw [hr, if_pos hsource]
      · refine ⟨operationEvent task operator c payload.remark, ?_, heid.symm, rfl, ?_, rfl, rfl⟩
        · show _ ∈ p.wms.wmsEvents.rows
          rw [hadds.events, hevents]
          exact List.mem_append_right _ (List.mem_singleton.mpr rfl)
        · show mapEventSourceType task.sourceType = .purchaseOrder
          rw [hsource]
          rfl

end Operate

/-! ## Editing -/

namespace PurchaseDb
variable {db db' : PurchaseDb} {poId : Int} {newLineId : Int → Int}

/-- Normalized lines carry the line numbers of the payload. -/
theorem lineNo_of_normalizeUpdateLines {supplierId : Int} {seen : List Int}
    {raws : List PurchaseOrderUpdateLineIn} {vs : List PurchaseLineValues}
    (h : normalizeUpdateLines db supplierId seen raws = .ok vs) :
    ∀ v ∈ vs, ∃ raw ∈ raws, v.lineNo = raw.lineNo := by
  induction raws generalizing seen vs with
  | nil =>
      cases h
      exact List.forall_mem_nil _
  | cons raw rest ih =>
      simp only [normalizeUpdateLines, bind_eq_ok, pure_eq_ok] at h
      obtain ⟨v, hline, others, hothers, rfl⟩ := h
      refine List.forall_mem_cons.mpr ⟨⟨raw, List.mem_cons_self, ?_⟩, fun w hw => ?_⟩
      · simp only [normalizeUpdateLine, bind_eq_ok, pure_eq_ok] at hline
        obtain ⟨_, -, _, -, it, -, _, -, ⟨ratio, name⟩, -, _, -, rfl⟩ := hline
        rfl
      · obtain ⟨raw', hraw', hno⟩ := ih hothers w hw
        exact ⟨raw', List.mem_cons_of_mem raw hraw', hno⟩

/-- New lines carry the numbers drawn for them. -/
theorem id_of_insertLines {vs : List PurchaseLineValues}
    (h : db.insertLines poId newLineId vs = .ok db') :
    ∀ l ∈ db'.purchaseOrderLines.rows, l ∈ db.purchaseOrderLines.rows ∨
      ∃ v ∈ vs, l.id = newLineId v.lineNo := by
  induction vs generalizing db with
  | nil =>
      cases h
      exact fun l hl => .inl hl
  | cons v vs ih =>
      simp only [insertLines, bind_eq_ok] at h
      obtain ⟨db₁, hline, hrest⟩ := h
      obtain ⟨-, rfl⟩ := insertLine_ok hline
      intro l hl
      rcases ih hrest l hl with hold | ⟨w, hw, hid⟩
      · rcases Table.mem_of_mem_insert hold with hold' | rfl
        · exact .inl hold'
        · exact .inr ⟨v, List.mem_cons_self, rfl⟩
      · exact .inr ⟨w, List.mem_cons_of_mem v hw, hid⟩

/-- What an update that succeeded found and wrote. -/
structure Edited (db : PurchaseDb) (poId : Int) (lineIds : Int → Prop) (db' : PurchaseDb) :
    Prop where
  unreleased : ¬ HasPoConfirmedReceipt db.wms poId
  unreceived : ¬ HasPoCommittedInboundFacts db poId
  receipts : db'.wms.inboundReceipts = db.wms.inboundReceipts
  receiptLines : db'.wms.inboundReceiptLines = db.wms.inboundReceiptLines
  events : db'.wms.wmsEvents = db.wms.wmsEvents
  facts : ∀ e ∈ db.wms.inboundEventLines.rows, (∀ p ∈ e.poLineId, p ∉ db.lineIds poId) →
    e ∈ db'.wms.inboundEventLines.rows
  others : ∀ l ∈ db.purchaseOrderLines.rows, l.poId ≠ poId → l ∈ db'.purchaseOrderLines.rows
  lines : ∀ l ∈ db'.purchaseOrderLines.rows, l ∈ db.purchaseOrderLines.rows ∨ lineIds l.id

theorem updatePoV2_ok {payload : PurchaseOrderUpdateIn}
    (h : updatePoV2 poId payload newLineId db = .ok db') :
    Edited db poId (fun id => ∃ raw ∈ payload.lines, id = newLineId raw.lineNo) db' := by
  simp only [updatePoV2, bind_eq_ok, pure_eq_ok] at h
  obtain ⟨po, hpo, _, hedit, _, -, ⟨supplierId, supplierName⟩, -, vs, hvs, db₂, hreplace, rfl⟩ := h
  obtain rfl : po.id = poId := (Table.lookup_eq_some.mp (demandSome_eq_ok.mp hpo)).2
  simp only [requirePoEditable, bind_eq_ok, demand_eq_ok] at hedit
  obtain ⟨_, -, _, hunreleased, hunreceived⟩ := hedit
  obtain ⟨hdb₂, hkeep, -⟩ := insertLines_ok hreplace
  have hids := id_of_insertLines hreplace
  have hrebuilt : db₂.rebuildCompletionRows po.id = { db₂ with wms := { db₂.wms with
      poLineCompletion := (db₂.rebuildCompletionRows po.id).wms.poLineCompletion } } := by
    unfold rebuildCompletionRows upsertCompletionRows
    rw [foldl_upsertCompletion_eq]
  rw [hrebuilt]
  refine ⟨hunreleased, hunreceived, ?_, ?_, ?_, ?_, ?_, ?_⟩
  · rw [hdb₂]
    rfl
  · rw [hdb₂]
    rfl
  · rw [hdb₂]
    rfl
  · intro e he hno
    rw [hdb₂]
    refine mem_deleteLines_inbound.mpr ⟨e, he, ?_⟩
    rw [if_neg fun hin => ?_]
    obtain ⟨p, hp, hmem⟩ := hin
    exact hno p hp hmem
  · exact fun l hl hpo => hkeep l (Table.mem_delete.mpr ⟨hl, hpo⟩)
  · intro l hl
    rcases hids l hl with hold | ⟨v, hv, hid⟩
    · exact .inl (Table.mem_delete.mp hold).1
    · obtain ⟨raw, hraw, hno⟩ := lineNo_of_normalizeUpdateLines hvs v hv
      exact .inr ⟨raw, hraw, by rw [hid, hno]⟩

end PurchaseDb

section Update
variable {db db' : ReceiptDb}

/-- An order that may be edited has no receipt in force. -/
theorem ReceiptDb.Faithful.apart (h : db.Faithful) {poId : Int}
    (hunreleased : ¬ HasPoConfirmedReceipt db.oms.wms poId)
    (hunreceived : ¬ HasPoCommittedInboundFacts db.purchase poId) {r : InboundReceipt}
    (hr : r ∈ db.receipts.rows) (hpurchase : r.sourceType = .purchaseOrder) (hforce : r.InForce) :
    r.sourceDocId ≠ some poId := by
  intro hdoc
  rcases hforce with hreleased | hdone
  · exact hunreleased ⟨r, hr, hpurchase, hdoc, hreleased⟩
  · obtain ⟨l, hl, hplans, e, he, hline, hfact⟩ := h.received r hr hpurchase hdone
    obtain ⟨pol, hpol, hsource, hcopy⟩ := h.mirrored r hr l hl hplans (.inr hdone)
    have hof : pol.poId = poId := Option.some.inj (hcopy.1.symm.trans hdoc)
    exact hunreceived ⟨pol, hpol, hof, e, he, hline.trans hsource, hfact⟩

/-- New lines stand in place of those no receipt in force names. -/
theorem ReceiptDb.Faithful.update (h : db.Faithful) {poId : Int}
    {payload : PurchaseOrderUpdateIn} {newLineId : Int → Int}
    (hfresh : (PurchaseReceiptOp.update poId payload newLineId).Fresh db)
    (hcall : (PurchaseReceiptOp.update poId payload newLineId).call db = .ok db') :
    db'.Faithful := by
  obtain ⟨p, hupdate, hret⟩ := bind_eq_ok.mp hcall
  cases hret
  have hed := PurchaseDb.updatePoV2_ok hupdate
  have hreceipts : (db.withPurchase p).receipts = db.receipts := hed.receipts
  have hlinesOf : (db.withPurchase p).receiptLines = db.receiptLines := hed.receiptLines
  have hkeep : ∀ r ∈ db.receipts.rows, ∀ l ∈ db.receiptLines.rows, r.Plans l → r.InForce →
      ∃ pol ∈ p.purchaseOrderLines.rows, l.sourceLineId = some pol.id ∧
        pol ∈ db.purchaseOrderLines.rows ∧ pol.poId ≠ poId := by
    intro r hr l hl hplans hforce
    obtain ⟨pol, hpol, hsource, hcopy⟩ := h.mirrored r hr l hl hplans hforce
    have hne : pol.poId ≠ poId := fun heq =>
      h.apart hed.unreleased hed.unreceived hr hplans.1 hforce (hcopy.1.trans (heq ▸ rfl))
    exact ⟨pol, hed.others pol hpol hne, hsource, hpol, hne⟩
  constructor
  · rw [hreceipts, hlinesOf]
    exact h.owned
  · rw [hreceipts, hlinesOf]
    intro r hr l hl hplans
    obtain ⟨q, hq, hcopies⟩ := h.copied r hr l hl hplans
    refine ⟨q, hq, fun pol hpol hid => ?_⟩
    rcases hed.lines pol hpol with hold | ⟨raw, hraw, hnew⟩
    · exact hcopies pol hold hid
    · exact absurd (by rw [hq, ← hid, hnew]) (hfresh raw hraw r hr l hl hplans)
  · rw [hreceipts, hlinesOf]
    intro r hr l hl hplans hforce
    obtain ⟨pol, hpol, hsource, -⟩ := hkeep r hr l hl hplans hforce
    exact ⟨pol.id, hsource, pol, hpol, rfl⟩
  · rw [hreceipts]
    intro r hr hpurchase hdone
    unfold ReceiptDb.Received
    rw [hlinesOf]
    obtain ⟨l, hl, hplans, e, he, hline, e', he', hfact⟩ := h.received r hr hpurchase hdone
    obtain ⟨pol, -, hsource, hpol, hne⟩ := hkeep r hr l hl hplans (.inr hdone)
    refine ⟨l, hl, hplans, e, hed.facts e he fun q hq hmem => ?_, hline, e', ?_, hfact⟩
    · obtain ⟨pol', hpol', hof, hid⟩ := PurchaseDb.mem_lineIds.mp hmem
      rw [hline, hsource] at hq
      cases hq
      exact hne (db.purchaseOrderLines.eq_of_key hpol hpol' hid.symm ▸ hof)
    · show e' ∈ p.wms.wmsEvents.rows
      rw [hed.events]
      exact he'

/-- **One call.** -/
theorem ReceiptDb.Faithful.call (h : db.Faithful) {op : PurchaseReceiptOp} (hfresh : op.Fresh db)
    (hcurrent : op.Current db) (hcall : op.call db = .ok db') : db'.Faithful := by
  cases op with
  | create payload c =>
      obtain ⟨⟨out, db₁⟩, hrun, hret⟩ := bind_eq_ok.mp hcall
      cases hret
      exact h.create hrun
  | release receiptId =>
      obtain ⟨⟨out, db₁⟩, hrun, hret⟩ := bind_eq_ok.mp hcall
      cases hret
      exact h.release hcurrent hrun
  | operate payload operator c => exact h.operate hcall
  | update poId payload newLineId => exact h.update hfresh hcall

end Update

end WmsDu
