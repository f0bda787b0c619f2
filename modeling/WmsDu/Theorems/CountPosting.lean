import WmsDu.System.Counts
import WmsDu.System.Effects
import WmsDu.System.Sample

/-!
# What posting a count does to the book

Posting spreads the difference of each counted line over the lots the freeze
had found. The stock of a counted item moves by just that difference, however
many lots it takes, and nothing else moves. So the book shows the count when
nothing moved the item since the freeze, and is off by what did otherwise.
-/

namespace WmsDu

open Txn

/-! ## Movements of a group of slots -/

/-- Movements move the stock of a group of slots by the deltas that fall in it. -/
theorem PostsAll.sumOver_qty {db db' : Db} {rows : List StockLedgerRow} (h : PostsAll db rows db')
    (p : Slot → Prop) [DecidablePred p] :
    sumOver (fun r : StocksLotRow => p r.slot) StocksLotRow.qty db'.stocksLot.rows =
      sumOver (fun r : StocksLotRow => p r.slot) StocksLotRow.qty db.stocksLot.rows +
        sumOver (fun r : StockLedgerRow => p r.slot) StockLedgerRow.delta rows := by
  induction h with
  | nil db => rw [sumOver_nil, add_zero]
  | cons hp _ ih => rw [ih, hp.sumOver_qty, sumOver_cons, add_assoc]

/-- Rows that are all in the group add their deltas. -/
theorem sumOver_delta_all {rows : List StockLedgerRow} {p : StockLedgerRow → Prop}
    [DecidablePred p] (h : ∀ row ∈ rows, p row) :
    sumOver p StockLedgerRow.delta rows = (rows.map StockLedgerRow.delta).sum := by
  induction rows with
  | nil => rfl
  | cons row rows ih =>
      rw [List.forall_mem_cons] at h
      rw [sumOver_cons, if_pos h.1, ih h.2, List.map_cons, List.sum_cons]

section Post
variable {db db' : Db} {ctx : CountPostContext} {line : CountDocLine}

/-! ## One line -/

/-- The ledger key of a line's movement in a lot. -/
def CountPostContext.key (ctx : CountPostContext) (line : CountDocLine) (lotId : Int) : IdemKey :=
  ⟨MovementType.count.value, ctx.eventNo, line.lineNo, ⟨ctx.warehouseId, line.itemId, lotId⟩⟩

/-- A call of the lot writer whose key is free moves its lot by its delta. -/
theorem run_adjustLot_post {snap : CountDocLineLotSnapshot} {delta : Int} {sub : String}
    {r : AdjustLotResult} (hnew : ¬ db.stockLedger.HasKey (ctx.key line snap.lotId))
    (h : (adjustLotImpl (postArgs ctx line snap delta sub)).run db = .ok (r, db')) :
    ∃ rows, PostsAll db rows db' ∧ (∀ row ∈ rows, row.key = ctx.key line snap.lotId) ∧
      (rows.map StockLedgerRow.delta).sum = delta := by
  rcases run_adjustLotImpl_ok h with ⟨-, rfl, hzero | ⟨lotId, hlot, hk⟩⟩ |
    ⟨lotId, sub', ev, pd, ed, hlot, -, -, hpost, -⟩
  · exact ⟨[], .nil _, List.forall_mem_nil _, hzero.symm⟩
  · cases hlot
    exact absurd hk hnew
  · cases hlot
    refine ⟨[_], .single hpost, List.forall_mem_singleton.mpr rfl, ?_⟩
    rw [List.map_singleton, List.sum_singleton]
    rfl

/-- The loop over the lots of a line that counted short takes from them what it
does not leave. -/
theorem run_consumeSnapshots_ok {snaps : List CountDocLineLotSnapshot} {remaining left : Int}
    {written : Nat} (hnd : (snaps.map CountDocLineLotSnapshot.lotId).Nodup)
    (hnew : ∀ s ∈ snaps, ¬ db.stockLedger.HasKey (ctx.key line s.lotId))
    (h : (consumeSnapshots ctx line remaining snaps).run db = .ok ((left, written), db')) :
    ∃ rows, PostsAll db rows db' ∧ (∀ row ∈ rows, ∃ s ∈ snaps, row.key = ctx.key line s.lotId) ∧
      (rows.map StockLedgerRow.delta).sum = left - remaining := by
  induction snaps generalizing db remaining left written with
  | nil =>
      cases h
      exact ⟨[], .nil _, List.forall_mem_nil _, by simp⟩
  | cons snap rest ih =>
      rw [List.map_cons, List.nodup_cons] at hnd
      rw [List.forall_mem_cons] at hnew
      unfold consumeSnapshots at h
      split at h
      · cases h
        exact ⟨[], .nil _, List.forall_mem_nil _, by simp⟩
      split at h
      · obtain ⟨rows, hpost, hrows, hsum⟩ := ih hnd.2 hnew.2 h
        refine ⟨rows, hpost, fun row hrow => ?_, hsum⟩
        obtain ⟨s, hs, hkey⟩ := hrows row hrow
        exact ⟨s, List.mem_cons_of_mem _ hs, hkey⟩
      · simp only [Prog.run_bind_ok] at h
        obtain ⟨r, db₁, hadjust, ⟨left', written'⟩, db₂, hrest, hret⟩ := h
        cases hret
        obtain ⟨rows, hpost, hrows, hsum⟩ := run_adjustLot_post hnew.1 hadjust
        -- the lots that are left are other lots than this one
        have hnew' : ∀ s ∈ rest, ¬ db₁.stockLedger.HasKey (ctx.key line s.lotId) := by
          rintro s hs ⟨row, hrow, hkey⟩
          rw [hpost.ledgerRows, List.mem_append] at hrow
          rcases hrow with hold | hnew'
          · exact hnew.2 s hs ⟨row, hold, hkey⟩
          · have hlot := congrArg (fun k : IdemKey => k.slot.lotId) (hkey.symm.trans (hrows row hnew'))
            exact hnd.1 (List.mem_map.mpr ⟨s, hs, hlot⟩)
        obtain ⟨rows', hpost', hrows', hsum'⟩ := ih hnd.2 hnew' hrest
        refine ⟨rows ++ rows', hpost.append hpost', fun row hrow => ?_, ?_⟩
        · rcases List.mem_append.mp hrow with hrow | hrow
          · exact ⟨snap, List.mem_cons_self, hrows row hrow⟩
          · obtain ⟨s, hs, hkey⟩ := hrows' row hrow
            exact ⟨s, List.mem_cons_of_mem _ hs, hkey⟩
        · rw [List.map_append, List.sum_append, hsum, hsum']
          omega

/-- **A line moves its item by its difference.** -/
theorem run_postLineDiff_ok {n : Nat} (hnew : db.NoRefLine ctx.eventNo line.lineNo)
    (h : (postLineDiff ctx line).run db = .ok (n, db')) :
    ∃ rows, PostsAll db rows db' ∧ (∀ row ∈ rows, ∃ lotId, row.key = ctx.key line lotId) ∧
      (rows.map StockLedgerRow.delta).sum = line.diffQtyBase.getD 0 := by
  have hfree : ∀ lotId, ¬ db.stockLedger.HasKey (ctx.key line lotId) := by
    rintro lotId ⟨row, hrow, hkey⟩
    exact hnew row hrow (by rw [hkey]; rfl) (by rw [hkey]; rfl)
  have hnd : ((lineLotSnapshots db line.id).map CountDocLineLotSnapshot.lotId).Nodup := by
    rw [((lineLotSnapshots_perm db line.id).map _).nodup_iff]
    refine List.Nodup.map_on ?_
      ((List.Nodup.of_map _ db.countDocLineLotSnapshots.nodup).filter _)
    intro a ha b hb hlot
    obtain ⟨ha, hida⟩ := List.mem_filter.mp ha
    obtain ⟨hb, hidb⟩ := List.mem_filter.mp hb
    have hid : a.lineId = b.lineId := (of_decide_eq_true hida).trans (of_decide_eq_true hidb).symm
    exact db.countDocLineLotSnapshots.eq_of_key ha hb (Prod.ext hid hlot)
  simp only [postLineDiff, Prog.run_bind_ok, Tx.run_select] at h
  obtain ⟨snaps, _, hread, h⟩ := h
  cases hread
  cases hsnaps : lineLotSnapshots db line.id with
  | nil =>
      rw [hsnaps] at h
      cases h
  | cons target rest =>
      rw [hsnaps] at h hnd
      have hone : ∀ {delta : Int} {sub : String} {r : AdjustLotResult} {db₁ : Db},
          (adjustLotImpl (postArgs ctx line target delta sub)).run db = .ok (r, db₁) →
          ∃ rows, PostsAll db rows db₁ ∧ (∀ row ∈ rows, ∃ lotId, row.key = ctx.key line lotId) ∧
            (rows.map StockLedgerRow.delta).sum = delta := by
        intro delta sub r db₁ hadjust
        obtain ⟨rows, hpost, hrows, hsum⟩ := run_adjustLot_post (hfree _) hadjust
        exact ⟨rows, hpost, fun row hrow => ⟨_, hrows row hrow⟩, hsum⟩
      dsimp only at h
      split at h
      · rename_i hzero
        obtain ⟨r, db₁, hadjust, hret⟩ := Prog.run_bind_ok.mp h
        cases hret
        rw [hzero]
        exact hone hadjust
      split at h
      · obtain ⟨r, db₁, hadjust, hret⟩ := Prog.run_bind_ok.mp h
        cases hret
        exact hone hadjust
      · simp only [Prog.run_bind_ok, Tx.run_require_ok] at h
        obtain ⟨⟨left, written⟩, db₁, hloop, _, _, ⟨hleft, rfl⟩, hret⟩ := h
        cases hret
        obtain ⟨rows, hpost, hrows, hsum⟩ :=
          run_consumeSnapshots_ok hnd (fun s _ => hfree s.lotId) hloop
        refine ⟨rows, hpost, fun row hrow => ?_, by rw [hsum, show left = 0 from hleft]; omega⟩
        obtain ⟨s, -, hkey⟩ := hrows row hrow
        exact ⟨s.lotId, hkey⟩

/-! ## All lines -/

/-- The lines one after another: each moves its own item. -/
theorem run_postLines_ok {lines : List CountDocLine} {u : Unit}
    (hno : (lines.map CountDocLine.lineNo).Nodup) (hitems : (lines.map CountDocLine.itemId).Nodup)
    (hnew : ∀ l ∈ lines, db.NoRefLine ctx.eventNo l.lineNo)
    (h : (postLines ctx lines).run db = .ok (u, db')) :
    ∃ rows, PostsAll db rows db' ∧
      (∀ row ∈ rows, row.slot.warehouseId = ctx.warehouseId ∧
        ∃ l ∈ lines, row.slot.itemId = l.itemId) ∧
      ∀ l ∈ lines, sumOver (fun row : StockLedgerRow => row.slot.itemId = l.itemId)
        StockLedgerRow.delta rows = l.diffQtyBase.getD 0 := by
  induction lines generalizing db with
  | nil =>
      cases h
      exact ⟨[], .nil _, List.forall_mem_nil _, List.forall_mem_nil _⟩
  | cons line rest ih =>
      rw [List.map_cons, List.nodup_cons] at hno hitems
      rw [List.forall_mem_cons] at hnew
      simp only [postLines, Prog.run_bind_ok] at h
      obtain ⟨n, db₁, hline, hrest⟩ := h
      obtain ⟨rows, hpost, hrows, hsum⟩ := run_postLineDiff_ok hnew.1 hline
      have hslot : ∀ row ∈ rows, row.slot.warehouseId = ctx.warehouseId ∧
          row.slot.itemId = line.itemId := by
        intro row hrow
        obtain ⟨lotId, hkey⟩ := hrows row hrow
        rw [StockLedgerRow.slot, hkey]
        exact ⟨rfl, rfl⟩
      have hnew' : ∀ l ∈ rest, db₁.NoRefLine ctx.eventNo l.lineNo := by
        intro l hl row hrow href hline'
        rw [hpost.ledgerRows, List.mem_append] at hrow
        rcases hrow with hold | hadded
        · exact hnew.2 l hl row hold href hline'
        · obtain ⟨lotId, hkey⟩ := hrows row hadded
          rw [hkey] at hline'
          exact hno.1 (List.mem_map.mpr ⟨l, hl, hline'.symm⟩)
      obtain ⟨rows', hpost', hrows', hsum'⟩ := ih hno.2 hitems.2 hnew' hrest
      refine ⟨rows ++ rows', hpost.append hpost', fun row hrow => ?_,
        List.forall_mem_cons.mpr ⟨?_, fun l hl => ?_⟩⟩
      · rcases List.mem_append.mp hrow with hrow | hrow
        · exact ⟨(hslot row hrow).1, line, List.mem_cons_self, (hslot row hrow).2⟩
        · obtain ⟨hw, l, hl, hi⟩ := hrows' row hrow
          exact ⟨hw, l, List.mem_cons_of_mem _ hl, hi⟩
      · -- the rows of the other lines are of other items
        have hothers : sumOver (fun row : StockLedgerRow => row.slot.itemId = line.itemId)
            StockLedgerRow.delta rows' = 0 := by
          refine sumOver_eq_zero fun row hrow hi => ?_
          obtain ⟨-, l, hl, hi'⟩ := hrows' row hrow
          exact absurd (List.mem_map.mpr ⟨l, hl, hi'.symm.trans hi⟩) hitems.1
        rw [sumOver_append, hothers, add_zero, ← hsum]
        exact sumOver_delta_all fun row hrow => (hslot row hrow).2
      · have hthis : sumOver (fun row : StockLedgerRow => row.slot.itemId = l.itemId)
            StockLedgerRow.delta rows = 0 := by
          refine sumOver_eq_zero fun row hrow hi => ?_
          exact absurd (List.mem_map.mpr ⟨l, hl, hi.symm.trans (hslot row hrow).2⟩) hitems.1
        rw [sumOver_append, hthis, zero_add]
        exact hsum' l hl

/-- The lines of a document have distinct numbers and distinct items. -/
theorem CountsOk.docLines_nodup (h : CountsOk db) (docId : Int) :
    ((docLines db docId).map CountDocLine.lineNo).Nodup ∧
      ((docLines db docId).map CountDocLine.itemId).Nodup := by
  have hnd : (docLines db docId).Nodup :=
    (List.Nodup.of_map _ db.countDocLines.nodup).filter _
  have hmem : ∀ l ∈ docLines db docId, l ∈ db.countDocLines.rows ∧ l.docId = docId := by
    intro l hl
    obtain ⟨hl, hdoc⟩ := List.mem_filter.mp hl
    exact ⟨hl, of_decide_eq_true hdoc⟩
  constructor
  · refine hnd.map_on fun a ha b hb hab => ?_
    obtain ⟨ha, hda⟩ := hmem a ha
    obtain ⟨hb, hdb⟩ := hmem b hb
    exact db.countDocLines.eq_of_key ha hb (h.lineNos a ha b hb (hda.trans hdb.symm) hab)
  · refine hnd.map_on fun a ha b hb hab => ?_
    obtain ⟨ha, hda⟩ := hmem a ha
    obtain ⟨hb, hdb⟩ := hmem b hb
    exact db.countDocLines.eq_of_key ha hb (h.items a ha b hb (hda.trans hdb.symm) hab)

end Post

/-! ## The result -/

/-- **Posting a count moves the book by what the count found.** In every
reachable state, when a counted document is posted under a new number, the
stock of each of its items moves by the counted less the frozen quantity, and
no other item and no other warehouse moves. -/
theorem count_post_moves_book {allowed : Db → Op → Prop} {db db' : Db} {docId : Int}
    {reviewedBy : String} {c : CountPostDraws} {out : CountDocPostOut} {doc : CountDoc}
    (h : ReachableBy allowed db) (hfresh : (Op.countPost docId reviewedBy c).Fresh db)
    (hdoc : db.countDocs.lookup docId = some doc) (hcounted : doc.status = .counted)
    (hpost : (postDoc docId reviewedBy c).run db = .ok (out, db')) :
    (∀ l ∈ docLines db docId, ∃ counted, l.countedQtyBase = some counted ∧
      db'.itemTotal doc.warehouseId l.itemId =
        db.itemTotal doc.warehouseId l.itemId + (counted - l.snapshotQtyBase)) ∧
    ∀ w i, (w = doc.warehouseId → ∀ l ∈ docLines db docId, l.itemId ≠ i) →
      db'.itemTotal w i = db.itemTotal w i := by
  obtain ⟨-, name, -, db₂, db₃, hp⟩ := (run_postDoc_ok hdoc hcounted).mp hpost
  -- up to the posting of the lines the books are untouched
  have hbooks : db₂.stocksLot = db.stocksLot ∧ db₂.stockLedger = db.stockLedger := by
    obtain ⟨-, -, -, -, -, -, rfl⟩ := run_insertEvent.mp hp.event
    exact ⟨rfl, rfl⟩
  have hdone : db'.stocksLot = db₃.stocksLot := by
    rw [hp.done]
    rfl
  have hnew : ∀ l ∈ docLines db docId, db₂.NoRefLine c.eventNo l.lineNo := by
    intro l _ row hrow href
    rw [hbooks.2] at hrow
    exact absurd href (hfresh c.eventNo rfl row hrow)
  obtain ⟨hno, hitems⟩ := h.countsOk.docLines_nodup docId
  obtain ⟨rows, hposts, hrows, hsum⟩ := run_postLines_ok hno hitems hnew hp.post
  have htotal : ∀ w i, db'.itemTotal w i = db.itemTotal w i +
      sumOver (fun row : StockLedgerRow => row.slot.warehouseId = w ∧ row.slot.itemId = i)
        StockLedgerRow.delta rows := by
    intro w i
    have := hposts.sumOver_qty fun s : Slot => s.warehouseId = w ∧ s.itemId = i
    rwa [← hdone, hbooks.1] at this
  constructor
  · intro l hl
    obtain ⟨hne, -⟩ := hp.allCounted l hl
    obtain ⟨counted, hq⟩ := Option.ne_none_iff_exists'.mp hne
    have hdiff := (h.valid.countLines l (List.mem_filter.mp hl).1 counted hq).2
    refine ⟨counted, hq, ?_⟩
    have hline := hsum l hl
    rw [hdiff, Option.getD_some] at hline
    rw [htotal, ← hline]
    congr 1
    refine sumOver_congr (fun row hrow => ?_) fun _ _ _ => rfl
    exact and_iff_right (hrows row hrow).1
  · intro w i hout
    rw [htotal, sumOver_eq_zero, add_zero]
    rintro row hrow ⟨hw, hi⟩
    obtain ⟨hw', l, hl, hi'⟩ := hrows row hrow
    exact absurd (hi'.symm.trans hi) (hout (hw.symm.trans hw') l hl)

/-- Ten pieces of tea are frozen and seven of them counted. -/
def sampleCountedDb : Db :=
  Op.commits sampleDb
    [sampleCountTea "C1" 10 ten_ge_zero,
      .countCreate { warehouseId := 1, snapshotAt := 0, warehouseId_ge := one_ge_one } none
        { docId := 1, countNo := "CN1" },
      .countFreeze 1 fun n => n,
      .countUpdate 1
        { countedByNameSnapshot := "A"
          lines := [⟨1, 7, one_ge_one, seven_ge_zero⟩] } 0]

theorem sampleCountedDb_reachable : Reachable sampleCountedDb :=
  sampleDb_start.reachableBy.commits (by decide)

/-- After the posting there are seven. -/
theorem count_post_moves_book_sample :
    ∃ out db', (postDoc 1 "B" { eventId := 1, eventNo := "E1", traceId := "T1" }).run
      sampleCountedDb = .ok (out, db') ∧ db'.itemTotal 1 1 = 7 := by
  cases hrun : (postDoc 1 "B" { eventId := 1, eventNo := "E1", traceId := "T1" }).run
      sampleCountedDb with
  | error e =>
      have hok : ((postDoc 1 "B" { eventId := 1, eventNo := "E1", traceId := "T1" }).run
        sampleCountedDb).toOption.isSome = true := by decide
      rw [hrun] at hok
      cases hok
  | ok p =>
      obtain ⟨out, db'⟩ := p
      refine ⟨out, db', rfl, ?_⟩
      have hlines : ∀ l ∈ docLines sampleCountedDb 1, l.itemId = 1 ∧ l.snapshotQtyBase = 10 ∧
          l.countedQtyBase = some 7 := by decide
      obtain ⟨l, hl⟩ : ∃ l, l ∈ docLines sampleCountedDb 1 := ⟨_, List.mem_of_mem_head? rfl⟩
      obtain ⟨hitem, hsnap, hcount⟩ := hlines l hl
      obtain ⟨counted, hq, htotal⟩ := (count_post_moves_book sampleCountedDb_reachable (by decide)
        (show sampleCountedDb.countDocs.lookup 1 = some _ from rfl) rfl hrun).1 l hl
      rw [hcount] at hq
      cases hq
      rw [hitem, hsnap, show sampleCountedDb.itemTotal _ 1 = 10 by decide] at htotal
      exact htotal

end WmsDu
