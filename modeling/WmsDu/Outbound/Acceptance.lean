import WmsDu.Db.Runs
import WmsDu.Db.Valid
import WmsDu.Outbound.Progress
import WmsDu.Stock.Writers

/-!
# When a submit goes through

Each stage of an outbound submit and the condition under which it runs to its
end: the normaliser, the checks of an order's lines, the lines under the event,
and the loop that takes each line out of its slot.
-/

namespace WmsDu

open Txn Tx

/-! ## The normaliser -/

/-- A normalised line is a payload line with its number. -/
structure NormalizedLine.IsOf (ln : NormalizedLine) (refLine : Int) (raw : OutboundSubmitLineIn) :
    Prop where
  refLine : ln.refLine = refLine
  docLineId : ln.docLineId = raw.docLineId
  itemId : ln.itemId = raw.itemId
  qtyOutbound : ln.qtyOutbound = raw.qtyOutbound
  lotId : ln.lotId = raw.lotId

/-- The payload's lines are numbered one by one. -/
theorem normalizeFrom_lines {texts : LineTexts} {source : Int → Option SourceLine} {n : Nat}
    {lines : List OutboundSubmitLineIn} {normalized : List NormalizedLine}
    (h : normalizeFrom texts source n lines = .ok normalized) :
    List.Forall₂ (fun (x : OutboundSubmitLineIn × Nat) (ln : NormalizedLine) => ln.IsOf x.2 x.1)
      (lines.zipIdx n) normalized := by
  induction lines generalizing n normalized with
  | nil =>
      cases h
      exact .nil
  | cons raw rest ih =>
      rw [normalizeFrom] at h
      (repeat' split at h) <;> cases h
      rename_i hrest
      exact .cons ⟨rfl, rfl, rfl, rfl, rfl⟩ (ih hrest)

/-- Every line names a line of the document, with its item. -/
theorem exists_normalizeFrom_iff {texts : LineTexts} {source : Int → Option SourceLine} {n : Int}
    {lines : List OutboundSubmitLineIn} :
    (∃ normalized, normalizeFrom texts source n lines = .ok normalized) ↔
      ∀ l ∈ lines, ∃ src, source l.docLineId = some src ∧ src.itemId = l.itemId := by
  induction lines generalizing n with
  | nil => simp [normalizeFrom]
  | cons raw rest ih =>
      rw [List.forall_mem_cons, ← @ih (n + 1), normalizeFrom]
      constructor
      · rintro ⟨normalized, h⟩
        (repeat' split at h) <;> cases h
        rename_i src hsrc hitem _ _ hrest
        exact ⟨⟨src, hsrc, (not_not.mp hitem).symm⟩, _, hrest⟩
      · rintro ⟨⟨src, hsrc, hitem⟩, lines, hrest⟩
        rw [hsrc]
        dsimp only
        rw [if_neg (not_not.mpr hitem.symm), hrest]
        exact ⟨_, rfl⟩

/-! ## The checks of an order's lines -/

/-- What an order's line must leave room for. -/
theorem run_checkOrderLines_iff {progress : Int → LineProgress} {sourceRef : String}
    {warehouseId : Int} {lines : List NormalizedLine} {db : Db}
    (hqty : ∀ ln ∈ lines, 0 < ln.qtyOutbound)
    (hprogress : ∀ id, 0 ≤ (progress id).submittedQty) :
    (checkOrderLines progress sourceRef warehouseId lines).run db = .ok ((), db) ↔
      ∀ ln ∈ lines,
        (progress ln.docLineId).submittedQty + ln.qtyOutbound ≤ (progress ln.docLineId).reqQty ∧
        hasOrphanOrderOutboundLedger db
          (outboundKey sourceRef warehouseId ln.refLine ln.itemId ln.lotId) = false := by
  induction lines with
  | nil => exact iff_of_true rfl (List.forall_mem_nil _)
  | cons ln rest ih =>
      rw [List.forall_mem_cons] at hqty
      rw [List.forall_mem_cons, ← ih hqty.2]
      have hsubmitted := hprogress ln.docLineId
      constructor
      · intro h
        simp only [checkOrderLines, Prog.run_bind_ok, Tx.run_require_ok, Tx.run_select] at h
        obtain ⟨_, _, ⟨-, rfl⟩, _, _, ⟨-, rfl⟩, _, _, ⟨hfit, rfl⟩, _, _, hread, _, _, ⟨horphan, rfl⟩,
          hrest⟩ := h
        cases hread
        exact ⟨⟨hfit, horphan⟩, hrest⟩
      · rintro ⟨⟨hfit, horphan⟩, hrest⟩
        rw [checkOrderLines, Prog.run_bind_of_ok (a := ()) (Tx.run_require_of (by omega)),
          Prog.run_bind_of_ok (a := ()) (Tx.run_require_of (by omega)),
          Prog.run_bind_of_ok (a := ()) (Tx.run_require_of hfit),
          Prog.run_bind_of_ok (Tx.run_select _ _),
          Prog.run_bind_of_ok (a := ()) (Tx.run_require_of horphan)]
        exact hrest

/-! ## Lines under the event -/

/-- Lines of different numbers under a new event are inserted one by one. -/
theorem run_insertOutboundEventLines_of {ls : List OutboundEventLine} {db : Db} {eventId : Int}
    (hevent : db.wmsEvents.HasKey eventId) (hls : ∀ l ∈ ls, l.eventId = eventId ∧ l.check = none ∧
      (∀ o, l.orderLineId = some o → db.orderLines.HasKey o) ∧
        ¬ db.outboundEventLines.HasKey (eventId, l.refLine))
    (hnd : (ls.map OutboundEventLine.refLine).Nodup) :
    ∃ t, (insertOutboundEventLines ls).run db = .ok ((), { db with outboundEventLines := t }) := by
  induction ls generalizing db with
  | nil => exact ⟨_, rfl⟩
  | cons l rest ih =>
      rw [List.map_cons, List.nodup_cons] at hnd
      rw [List.forall_mem_cons] at hls
      obtain ⟨⟨rfl, hcheck, horder, hnew⟩, hrest⟩ := hls
      have hfirst : (Prog.exec (.insertOutboundLine l) : Tx Unit).run db =
          .ok ((), Redo.apply (.outboundLineInsert l) db) :=
        run_insertOutboundLine.mpr ⟨hcheck, hnew, hevent, horder, rfl⟩
      obtain ⟨t, hrun⟩ := @ih (Redo.apply (.outboundLineInsert l) db) hevent (fun l' hl' => by
        obtain ⟨hid, hcheck', horder', hnew'⟩ := hrest l' hl'
        refine ⟨hid, hcheck', horder', fun hkey => ?_⟩
        rcases Table.hasKey_insert.mp hkey with hold | heq
        · exact hnew' hold
        · exact hnd.1 (List.mem_map.mpr ⟨l', hl', congrArg Prod.snd heq⟩)) hnd.2
      refine ⟨t, ?_⟩
      rw [insertOutboundEventLines, Prog.run_bind_of_ok hfirst]
      exact hrun

/-! ## The loop over the slots -/

/-- What lines take out of a slot. -/
def takenFrom (warehouseId : Int) (ls : List OutboundEventLine) (s : Slot) : Int :=
  sumOver (fun l : OutboundEventLine => l.slotIn warehouseId = s) OutboundEventLine.qtyOutbound ls

/-- The ledger key of a line. -/
def OutboundEventLine.ledgerKey (l : OutboundEventLine) (event : WmsEvent) (sourceRef : String) :
    IdemKey := outboundKey sourceRef event.warehouseId l.refLine l.itemId l.lotId

theorem takenFrom_nonneg (warehouseId : Int) {ls : List OutboundEventLine}
    (hqty : ∀ l ∈ ls, 0 < l.qtyOutbound) (s : Slot) : 0 ≤ takenFrom warehouseId ls s :=
  sumOver_nonneg fun l hl _ => le_of_lt (hqty l hl)

theorem Db.hasKey_of_qtyOf_pos {db : Db} {s : Slot} (h : 0 < db.qtyOf s) :
    db.stocksLot.HasKey s := by
  by_contra hk
  rw [Db.qtyOf_of_absent hk] at h
  omega

/-- A line that is asked for leaves from a slot that is there, and can be taken
out of it. -/
theorem Db.Valid.posts_shipRow {db : Db} (hv : db.Valid) {event : WmsEvent} {ref : String}
    {l : OutboundEventLine} (hevent : db.wmsEvents.HasKey event.id) (hqty : 0 < l.qtyOutbound)
    (hnew : ¬ db.stockLedger.HasKey (l.ledgerKey event ref))
    (hstock : l.qtyOutbound ≤ db.qtyOf (l.slotIn event.warehouseId)) :
    db.stocksLot.HasKey (l.slotIn event.warehouseId) ∧
      Posts db (shipRow event ref l db) (db.post (shipRow event ref l db)) := by
  obtain ⟨r, hr, hrs⟩ := Db.hasKey_of_qtyOf_pos (lt_of_lt_of_le hqty hstock)
  have hdims : db.HasLotDims (l.slotIn event.warehouseId) := hrs ▸ (hv.stock r hr).1
  refine ⟨⟨r, hr, hrs⟩, hnew, Int.sub_eq_add_neg, Int.sub_nonneg.mpr hstock, hdims, fun e he => ?_,
    rfl⟩
  cases he
  exact hevent

/-- **The loop runs to its end** exactly when no line's row is there yet and no
slot is asked for more than it holds. -/
theorem run_shipLines_iff {event : WmsEvent} {ref : String} {ls : List OutboundEventLine} {db : Db}
    (hv : db.Valid) (hevent : db.wmsEvents.HasKey event.id)
    (hqty : ∀ l ∈ ls, 0 < l.qtyOutbound) (hnd : (ls.map OutboundEventLine.refLine).Nodup) :
    (∃ db', (shipLines event ref ls).run db = .ok ((), db')) ↔
      (∀ l ∈ ls, ¬ db.stockLedger.HasKey (l.ledgerKey event ref)) ∧
        ∀ s, takenFrom event.warehouseId ls s ≤ db.qtyOf s := by
  induction ls generalizing db with
  | nil =>
      refine iff_of_true ⟨db, rfl⟩ ⟨List.forall_mem_nil _, fun s => ?_⟩
      exact sumOver_nonneg fun r hr _ => (hv.stock r hr).2
  | cons l rest ih =>
      rw [List.forall_mem_cons] at hqty
      rw [List.map_cons, List.nodup_cons] at hnd
      -- what the rest needs once the first line is taken out
      have hnext : ∀ {db₁ : Db}, (shipLine event ref l).run db = .ok ((), db₁) →
          ((∃ db', (shipLines event ref rest).run db₁ = .ok ((), db')) ↔
            (∀ l' ∈ rest, ¬ db.stockLedger.HasKey (l'.ledgerKey event ref)) ∧
              ∀ s, takenFrom event.warehouseId (l :: rest) s ≤ db.qtyOf s) := by
        intro db₁ hl
        obtain ⟨-, hpost⟩ := run_shipLine_ok.mp hl
        have hevent₁ : db₁.wmsEvents.HasKey event.id := by
          rw [hpost.eq]
          exact hevent
        rw [ih (Tx.run_valid hl hv) hevent₁ hqty.2 hnd.2]
        refine and_congr (forall₂_congr fun l' hl' => not_congr ?_) (forall_congr' fun s => ?_)
        · have hne : l'.refLine ≠ l.refLine := fun heq => hnd.1 (List.mem_map.mpr ⟨l', hl', heq⟩)
          constructor
          · rintro ⟨r, hr, hkey⟩
            rcases hpost.mem_rows.mp hr with hold | rfl
            · exact ⟨r, hold, hkey⟩
            · exact absurd (congrArg IdemKey.refLine hkey).symm hne
          · rintro ⟨r, hr, hkey⟩
            exact ⟨r, hpost.mem_rows.mpr (Or.inl hr), hkey⟩
        · rw [hpost.qtyOf]
          unfold takenFrom
          rw [sumOver_cons]
          show _ ≤ _ + (if s = l.slotIn event.warehouseId then -l.qtyOutbound else 0) ↔ _
          by_cases hs : l.slotIn event.warehouseId = s
          · rw [if_pos hs, if_pos hs.symm]
            omega
          · rw [if_neg hs, if_neg (Ne.symm hs)]
            omega
      rw [List.forall_mem_cons]
      constructor
      · rintro ⟨db', h⟩
        rw [shipLines, Prog.run_bind_ok] at h
        obtain ⟨_, db₁, hl, hrest⟩ := h
        obtain ⟨hkeys, hstock⟩ := (hnext hl).mp ⟨db', hrest⟩
        exact ⟨⟨(run_shipLine_ok.mp hl).2.fresh, hkeys⟩, hstock⟩
      · rintro ⟨⟨hnew, hkeys⟩, hstock⟩
        have hfit : l.qtyOutbound ≤ db.qtyOf (l.slotIn event.warehouseId) := by
          have hall := hstock (l.slotIn event.warehouseId)
          have hrest := takenFrom_nonneg event.warehouseId hqty.2
            (l.slotIn event.warehouseId)
          unfold takenFrom at hall hrest
          rw [sumOver_cons, if_pos rfl] at hall
          omega
        have hl : (shipLine event ref l).run db = .ok ((), db.post (shipRow event ref l db)) :=
          run_shipLine_ok.mpr (hv.posts_shipRow hevent hqty.1 hnew hfit)
        obtain ⟨db', hrest⟩ := (hnext hl).mpr ⟨hkeys, hstock⟩
        refine ⟨db', ?_⟩
        rw [shipLines, Prog.run_bind_of_ok hl]
        exact hrest

/-! ## The writer -/

/-- A slot that holds something is one of a lot that is there. -/
theorem Db.Valid.hasDims_of_pos {db : Db} (hv : db.Valid) {s : Slot} (h : 0 < db.qtyOf s) :
    db.items.HasKey s.itemId ∧ db.warehouses.HasKey s.warehouseId := by
  obtain ⟨r, hr, rfl⟩ := Db.hasKey_of_qtyOf_pos h
  obtain ⟨lot, hlot, hdims⟩ := (hv.stock r hr).1
  rw [← hdims]
  exact (hv.lots lot hlot).2

/-- What the sequence and uuid4 draw is new to the database. -/
structure OutboundWrite.NewTo (w : OutboundWrite) (db : Db) : Prop where
  pos : 0 < w.eventId
  id : ¬ db.wmsEvents.HasKey w.eventId
  eventNo : ∀ e ∈ db.wmsEvents.rows, e.eventNo ≠ w.event.eventNo
  traceId : ∀ e ∈ db.wmsEvents.rows, e.traceId ≠ w.traceId

/-- The event is inserted, so what was drawn for it was new. -/
theorem run_writeEventAndLedger_newTo {w : OutboundWrite} {lines : List NormalizedLine}
    {saved : List OutboundEventLine} {db db' : Db}
    (h : (writeEventAndLedger w lines).run db = .ok (saved, db')) : w.NewTo db := by
  simp only [writeEventAndLedger, Prog.run_bind_ok, run_ensureWarehouseNotFrozen_ok] at h
  obtain ⟨_, _, ⟨-, rfl⟩, _, db₁, hevent, -⟩ := h
  obtain ⟨hpos, hid, hno, htrace, -⟩ := run_insertEvent.mp hevent
  exact ⟨hpos, hid, hno, htrace⟩

/-- The lines the writer saves. -/
def OutboundWrite.saved (w : OutboundWrite) (db : Db) (lines : List NormalizedLine) :
    List OutboundEventLine :=
  lines.map fun ln => ln.eventLine w.doc w.eventId ((db.lots.lookup ln.lotId).bind Lot.lotCode)

section Writer
variable {db : Db} {w : OutboundWrite} {lines : List NormalizedLine}

theorem NormalizedLine.eventLine_check {ln : NormalizedLine} {doc : SubmitDoc} {eventId : Int}
    {code : Option String} (hqty : 0 < ln.qtyOutbound) :
    (ln.eventLine doc eventId code).check = none := by
  have hqty' : ¬ ln.qtyOutbound ≤ 0 := not_le.mpr hqty
  cases doc <;> simp [OutboundEventLine.check, NormalizedLine.eventLine, hqty']

theorem refLine_saved :
    (w.saved db lines).map OutboundEventLine.refLine = lines.map NormalizedLine.refLine := by
  rw [OutboundWrite.saved, List.map_map]
  rfl

theorem qtyOutbound_saved (w : OutboundWrite) (db : Db) (hqty : ∀ ln ∈ lines, 0 < ln.qtyOutbound) :
    ∀ l ∈ w.saved db lines, 0 < l.qtyOutbound := by
  intro l hl
  obtain ⟨ln, hln, rfl⟩ := List.mem_map.mp hl
  exact hqty ln hln

/-- The lines go under a new event. -/
theorem run_insertOutboundEventLines_saved (db₁ : Db) (hv : db.Valid) (hnew : w.NewTo db)
    (hlines : db₁.outboundEventLines = db.outboundEventLines)
    (horders : db₁.orderLines = db.orderLines) (hevent : db₁.wmsEvents.HasKey w.eventId)
    (hqty : ∀ ln ∈ lines, 0 < ln.qtyOutbound) (hnd : (lines.map NormalizedLine.refLine).Nodup)
    (hdoc : w.doc = .order → ∀ ln ∈ lines, db.orderLines.HasKey ln.docLineId) :
    ∃ t, (insertOutboundEventLines (w.saved db lines)).run db₁ =
      .ok ((), { db₁ with outboundEventLines := t }) := by
  refine run_insertOutboundEventLines_of hevent (fun l hl => ?_) (by rw [refLine_saved]; exact hnd)
  obtain ⟨ln, hln, rfl⟩ := List.mem_map.mp hl
  refine ⟨rfl, NormalizedLine.eventLine_check (hqty ln hln), fun o ho => ?_, fun hkey => ?_⟩
  · rw [horders]
    cases hd : w.doc with
    | order =>
        have hid : ln.docLineId = o := by
          simpa [NormalizedLine.eventLine, hd] using ho
        exact hid ▸ hdoc hd ln hln
    | manual => simp [NormalizedLine.eventLine, hd] at ho
  · rw [hlines] at hkey
    obtain ⟨l, hl, heq⟩ := hkey
    have hid : l.eventId = w.eventId := congrArg Prod.fst heq
    exact hnew.id (hid ▸ (hv.outbound l hl).2)

/-- A line is asked for where it leaves from. -/
theorem takenFrom_pos {warehouseId : Int} {ls : List OutboundEventLine}
    (hqty : ∀ l ∈ ls, 0 < l.qtyOutbound) {l : OutboundEventLine} (hl : l ∈ ls) :
    0 < takenFrom warehouseId ls (l.slotIn warehouseId) :=
  sumOver_pos (fun l hl _ => hqty l hl) hl rfl

/-- **The writer runs to its end** exactly when the warehouse is not frozen, no
line's ledger row is there yet, and no slot is asked for more than it holds. -/
theorem run_writeEventAndLedger_iff (hv : db.Valid) (hnew : w.NewTo db) (hne : lines ≠ [])
    (hqty : ∀ ln ∈ lines, 0 < ln.qtyOutbound) (hnd : (lines.map NormalizedLine.refLine).Nodup)
    (hdoc : w.doc = .order → ∀ ln ∈ lines, db.orderLines.HasKey ln.docLineId) :
    (∃ saved db', (writeEventAndLedger w lines).run db = .ok (saved, db')) ↔
      ¬ db.Frozen w.warehouseId ∧
        (∀ l ∈ w.saved db lines, ¬ db.stockLedger.HasKey (l.ledgerKey w.event w.sourceRef)) ∧
        ∀ s, takenFrom w.warehouseId (w.saved db lines) s ≤ db.qtyOf s := by
  have hsaved := qtyOutbound_saved w db hqty
  have hnd' : ((w.saved db lines).map OutboundEventLine.refLine).Nodup := by
    rw [refLine_saved]
    exact hnd
  constructor
  · rintro ⟨saved, db', h⟩
    simp only [writeEventAndLedger, Prog.run_bind_ok, run_ensureWarehouseNotFrozen_ok,
      Tx.run_select] at h
    obtain ⟨_, _, ⟨hthawed, rfl⟩, _, db₁, hevent, _, _, hread, _, db₂, hlines, _, db₃, hship,
      hret⟩ := h
    cases hread
    cases hret
    have hevent' := hevent
    obtain ⟨-, -, -, -, -, -, rfl⟩ := run_insertEvent.mp hevent'
    obtain ⟨t, hrun⟩ := run_insertOutboundEventLines_saved
      ((Redo.eventInsert w.event).apply db) hv hnew rfl rfl (Table.hasKey_insert.mpr (Or.inr rfl))
      hqty hnd hdoc
    obtain ⟨-, rfl⟩ := Prod.mk.inj (Except.ok.inj (hrun.symm.trans hlines))
    have hv₂ := Tx.run_valid hlines (Tx.run_valid hevent hv)
    exact ⟨hthawed, (run_shipLines_iff hv₂ (Table.hasKey_insert.mpr (Or.inr rfl)) hsaved hnd').mp
      ⟨db', hship⟩⟩
  · rintro ⟨hthawed, hkeys, hstock⟩
    obtain ⟨ln, hln⟩ := List.exists_mem_of_ne_nil lines hne
    have hmem := List.mem_map_of_mem (f := fun ln => NormalizedLine.eventLine ln w.doc w.eventId
      ((db.lots.lookup ln.lotId).bind Lot.lotCode)) hln
    have hware : db.warehouses.HasKey w.warehouseId :=
      (hv.hasDims_of_pos (lt_of_lt_of_le (takenFrom_pos hsaved hmem) (hstock _))).2
    have hevent : (Prog.exec (.insertEvent w.event) : Tx Unit).run db =
        .ok ((), (Redo.eventInsert w.event).apply db) :=
      run_insertEvent.mpr ⟨hnew.pos, hnew.id, hnew.eventNo, hnew.traceId, hware,
        fun t ht => (by cases ht), rfl⟩
    obtain ⟨t, hlines⟩ := run_insertOutboundEventLines_saved
      ((Redo.eventInsert w.event).apply db) hv hnew rfl rfl (Table.hasKey_insert.mpr (Or.inr rfl))
      hqty hnd hdoc
    have hv₂ := Tx.run_valid hlines (Tx.run_valid hevent hv)
    have hkey : ((Redo.eventInsert w.event).apply db).wmsEvents.HasKey w.event.id :=
      Table.hasKey_insert.mpr (Or.inr rfl)
    obtain ⟨db', hship⟩ := (run_shipLines_iff hv₂ hkey hsaved hnd').mpr ⟨hkeys, hstock⟩
    refine ⟨w.saved db lines, db', ?_⟩
    rw [writeEventAndLedger, Prog.run_bind_of_ok (a := ())
        (run_ensureWarehouseNotFrozen_ok.mpr ⟨hthawed, rfl⟩), Prog.run_bind_of_ok hevent,
      Prog.run_bind_of_ok (Tx.run_select _ _)]
    show (insertOutboundEventLines (w.saved db lines) >>= fun _ => _).run _ = _
    rw [Prog.run_bind_of_ok hlines]
    show (shipLines w.event w.sourceRef (w.saved db lines) >>= fun _ => _).run _ = _
    rw [Prog.run_bind_of_ok hship]
    rfl

end Writer

end WmsDu
