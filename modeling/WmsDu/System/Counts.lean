import WmsDu.Count.Runs

/-!
# Count documents in every reachable state

A warehouse has one active document at most. The lines of a document name
each item and each number once, and carry lot snapshots that sum to the
line's own. A counted document has all its lines counted, and the name of who
counted them.
-/

namespace WmsDu

open Txn

/-- What holds of the count documents in a reachable state. -/
structure CountsOk (db : Db) : Prop where
  oneActive : ∀ d ∈ db.countDocs.rows, ∀ d' ∈ db.countDocs.rows, d.Active → d'.Active →
    d.warehouseId = d'.warehouseId → d.id = d'.id
  items : ∀ l ∈ db.countDocLines.rows, ∀ l' ∈ db.countDocLines.rows, l.docId = l'.docId →
    l.itemId = l'.itemId → l.id = l'.id
  lineNos : ∀ l ∈ db.countDocLines.rows, ∀ l' ∈ db.countDocLines.rows, l.docId = l'.docId →
    l.lineNo = l'.lineNo → l.id = l'.id
  snapshotLine : ∀ s ∈ db.countDocLineLotSnapshots.rows, db.countDocLines.HasKey s.lineId
  lots : ∀ l ∈ db.countDocLines.rows, ∀ s ∈ snapshotsOf db l.id,
    ∃ d ∈ db.countDocs.rows, d.id = l.docId ∧ db.HasLotDims ⟨d.warehouseId, l.itemId, s.lotId⟩
  sums : ∀ l ∈ db.countDocLines.rows, 0 < l.snapshotQtyBase ∧
    ((snapshotsOf db l.id).map CountDocLineLotSnapshot.snapshotQtyBase).sum = l.snapshotQtyBase
  counted : ∀ d ∈ db.countDocs.rows, d.status = .counted →
    cleanText d.countedByNameSnapshot ≠ none ∧
      (∃ l ∈ db.countDocLines.rows, l.docId = d.id) ∧
      ∀ l ∈ db.countDocLines.rows, l.docId = d.id → l.countedQtyBase ≠ none

namespace CountsOk

variable {db db' : Db}

/-! ## Records -/

/-- Only the count tables and the lots matter. -/
theorem frame (h : CountsOk db) (hd : db'.countDocs = db.countDocs)
    (hl : db'.countDocLines = db.countDocLines)
    (hs : db'.countDocLineLotSnapshots = db.countDocLineLotSnapshots)
    (hlots : ∀ s, db.HasLotDims s → db'.HasLotDims s) : CountsOk db' where
  oneActive := by rw [hd]; exact h.oneActive
  items := by rw [hl]; exact h.items
  lineNos := by rw [hl]; exact h.lineNos
  snapshotLine := by rw [hl, hs]; exact h.snapshotLine
  lots := by
    rw [hl]
    intro l hmem s hsnap
    rw [snapshotsOf, hs] at hsnap
    obtain ⟨d, hdoc, hid, hdims⟩ := h.lots l hmem s hsnap
    exact ⟨d, hd ▸ hdoc, hid, hlots _ hdims⟩
  sums := by
    rw [hl]
    intro l hmem
    rw [snapshotsOf, hs]
    exact h.sums l hmem
  counted := by rw [hd, hl]; exact h.counted

/-- Counting a line changes none of what is fixed at the freeze. -/
theorem recount (h : CountsOk db) (lineId : Int) (c : CountedColumns) :
    CountsOk (Redo.apply (.countLineSetCounted lineId c) db) := by
  -- every line comes from a line with the same fixed columns
  have hfrom : ∀ l ∈ (Redo.apply (.countLineSetCounted lineId c) db).countDocLines.rows,
      ∃ l₀ ∈ db.countDocLines.rows, l.id = l₀.id ∧ l.docId = l₀.docId ∧ l.lineNo = l₀.lineNo ∧
        l.itemId = l₀.itemId ∧ l.snapshotQtyBase = l₀.snapshotQtyBase ∧
        (l₀.countedQtyBase ≠ none → l.countedQtyBase ≠ none) := by
    intro l hl
    obtain ⟨l₀, hl₀, rfl⟩ := List.mem_map.mp hl
    refine ⟨l₀, hl₀, ?_⟩
    split
    · exact ⟨rfl, rfl, rfl, rfl, rfl, fun _ => nofun⟩
    · exact ⟨rfl, rfl, rfl, rfl, rfl, id⟩
  refine ⟨h.oneActive, ?_, ?_, ?_, ?_, ?_, ?_⟩
  · intro l hl l' hl' hdoc hitem
    obtain ⟨l₀, hl₀, hid, hd, -, hi, -⟩ := hfrom l hl
    obtain ⟨l₁, hl₁, hid', hd', -, hi', -⟩ := hfrom l' hl'
    rw [hid, hid']
    exact h.items l₀ hl₀ l₁ hl₁ (hd ▸ hd' ▸ hdoc) (hi ▸ hi' ▸ hitem)
  · intro l hl l' hl' hdoc hno
    obtain ⟨l₀, hl₀, hid, hd, hn, -⟩ := hfrom l hl
    obtain ⟨l₁, hl₁, hid', hd', hn', -⟩ := hfrom l' hl'
    rw [hid, hid']
    exact h.lineNos l₀ hl₀ l₁ hl₁ (hd ▸ hd' ▸ hdoc) (hn ▸ hn' ▸ hno)
  · intro s hs
    exact (Table.hasKey_update (by intro _; rfl)).mpr (h.snapshotLine s hs)
  · intro l hl s hs
    obtain ⟨l₀, hl₀, hid, hd, -, hi, -⟩ := hfrom l hl
    rw [hid] at hs
    rw [hd, hi]
    exact h.lots l₀ hl₀ s hs
  · intro l hl
    obtain ⟨l₀, hl₀, hid, -, -, -, hq, -⟩ := hfrom l hl
    rw [hid, hq]
    exact h.sums l₀ hl₀
  · intro d hd hstatus
    obtain ⟨hname, ⟨l, hl, hdoc⟩, hall⟩ := h.counted d hd hstatus
    refine ⟨hname, ?_, ?_⟩
    · refine ⟨_, List.mem_map.mpr ⟨l, hl, rfl⟩, ?_⟩
      split
      · exact hdoc
      · exact hdoc
    · intro l hl hdoc'
      obtain ⟨l₀, hl₀, -, hd', -, -, -, hq⟩ := hfrom l hl
      exact hq (hall l₀ hl₀ (hd' ▸ hdoc'))

theorem recounts (h : CountsOk db) (hr : Recounts db db') : CountsOk db' :=
  hr.preserves (fun _ _ _ hdb => hdb.recount _ _) h

/-- An update of one document that activates nothing, and that only marks a
document counted which is. -/
theorem update (h : CountsOk db) {docId : Int} {c : CountDocChange}
    (hactive : ∀ d ∈ db.countDocs.rows, d.id = docId → (c.set d).Active → d.Active)
    (hcounted : ∀ d ∈ db.countDocs.rows, d.id = docId → (c.set d).status = .counted →
      cleanText (c.set d).countedByNameSnapshot ≠ none ∧
        (∃ l ∈ db.countDocLines.rows, l.docId = docId) ∧
        ∀ l ∈ db.countDocLines.rows, l.docId = docId → l.countedQtyBase ≠ none) :
    CountsOk (Redo.apply (.countDocUpdate docId c) db) := by
  have hfrom : ∀ d ∈ (Redo.apply (.countDocUpdate docId c) db).countDocs.rows,
      ∃ d₀ ∈ db.countDocs.rows, d.id = d₀.id ∧ d.warehouseId = d₀.warehouseId ∧
        (d.Active → d₀.Active) := by
    intro d hd
    obtain ⟨d₀, hd₀, rfl⟩ := List.mem_map.mp hd
    refine ⟨d₀, hd₀, ?_⟩
    split
    · rename_i hid
      exact ⟨c.set_id d₀, c.set_warehouseId d₀, hactive d₀ hd₀ hid⟩
    · exact ⟨rfl, rfl, id⟩
  refine ⟨?_, h.items, h.lineNos, h.snapshotLine, ?_, h.sums, ?_⟩
  · intro d hd d' hd' ha ha' hw
    obtain ⟨d₀, hd₀, hid, hw₀, hact⟩ := hfrom d hd
    obtain ⟨d₁, hd₁, hid', hw₁, hact'⟩ := hfrom d' hd'
    rw [hid, hid']
    exact h.oneActive d₀ hd₀ d₁ hd₁ (hact ha) (hact' ha') (hw₀ ▸ hw₁ ▸ hw)
  · intro l hl s hs
    obtain ⟨d, hd, hid, hdims⟩ := h.lots l hl s hs
    refine ⟨_, List.mem_map.mpr ⟨d, hd, rfl⟩, ?_⟩
    split
    · rw [c.set_id, c.set_warehouseId]
      exact ⟨hid, hdims⟩
    · exact ⟨hid, hdims⟩
  · intro d hd hstatus
    obtain ⟨d₀, hd₀, rfl⟩ := List.mem_map.mp hd
    by_cases hid : d₀.id = docId
    · simp only [if_pos hid] at hstatus ⊢
      rw [c.set_id, hid]
      exact hcounted d₀ hd₀ hid hstatus
    · simp only [if_neg hid] at hstatus ⊢
      exact h.counted d₀ hd₀ hstatus

/-- A draft in a warehouse without an active document. -/
theorem insertDoc (h : CountsOk db) {d : CountDoc} (hdraft : d.status = .draft)
    (hnew : ¬ db.countDocs.HasKey d.id)
    (hno : ∀ d' ∈ db.countDocs.rows, d'.warehouseId = d.warehouseId → ¬ d'.Active) :
    CountsOk (Redo.apply (.countDocInsert d) db) := by
  refine ⟨?_, h.items, h.lineNos, h.snapshotLine, ?_, h.sums, ?_⟩
  · intro e he e' he' ha ha' hw
    rcases Table.mem_of_mem_insert he with hold | heq <;>
      rcases Table.mem_of_mem_insert he' with hold' | heq'
    · exact h.oneActive e hold e' hold' ha ha' hw
    · exact absurd ha (hno e hold (heq' ▸ hw))
    · exact absurd ha' (hno e' hold' (heq ▸ hw.symm))
    · rw [heq, heq']
  · intro l hl s hs
    obtain ⟨e, he, hid, hdims⟩ := h.lots l hl s hs
    exact ⟨e, Table.mem_insert_of_mem he, hid, hdims⟩
  · intro e he hstatus
    rcases Table.mem_of_mem_insert he with he | rfl
    · exact h.counted e he hstatus
    · rw [hdraft] at hstatus
      cases hstatus

/-! ## The freeze -/

theorem freeze (h : CountsOk db) (hv : db.Valid) {docId : Int} {lineId : Nat → Int}
    {d : CountDoc} (hf : Froze db docId lineId d db')
    (hlots : ∀ s, db.HasLotDims s → db'.HasLotDims s) : CountsOk db' := by
  obtain ⟨hdoc, hdocId⟩ := Table.lookup_eq_some.mp hf.doc
  have hfrom : ∀ e ∈ db'.countDocs.rows, ∃ e₀ ∈ db.countDocs.rows, e.id = e₀.id ∧
      e.warehouseId = e₀.warehouseId ∧ (e.Active → e₀.Active) ∧
      (e.status = .counted → e = e₀ ∧ e.id ≠ docId) := by
    intro e he
    rw [hf.docs] at he
    obtain ⟨e₀, he₀, rfl⟩ := List.mem_map.mp he
    refine ⟨e₀, he₀, ?_⟩
    split
    · rename_i hid
      obtain rfl := db.countDocs.eq_of_key he₀ hdoc (hid.trans hdocId.symm)
      refine ⟨rfl, rfl, fun _ => ?_, nofun⟩
      rw [CountDoc.Active, hf.draft]
      decide
    · rename_i hid
      exact ⟨rfl, rfl, id, fun _ => ⟨rfl, hid⟩⟩
  have hto : ∀ e₀ ∈ db.countDocs.rows, ∃ e ∈ db'.countDocs.rows, e.id = e₀.id ∧
      e.warehouseId = e₀.warehouseId := by
    intro e₀ he₀
    rw [hf.docs]
    refine ⟨_, List.mem_map.mpr ⟨e₀, he₀, rfl⟩, ?_⟩
    split
    · exact ⟨rfl, rfl⟩
    · exact ⟨rfl, rfl⟩
  -- two lines of one document are both old or both new
  have hpair : ∀ R : CountDocLine → CountDocLine → Prop,
      (∀ l ∈ db.countDocLines.rows, ∀ l' ∈ db.countDocLines.rows, l.docId = l'.docId →
        R l l' → l.id = l'.id) →
      (∀ l ∈ countLinesOf db docId d.warehouseId lineId,
        ∀ l' ∈ countLinesOf db docId d.warehouseId lineId, R l l' → l.id = l'.id) →
      ∀ l ∈ db'.countDocLines.rows, ∀ l' ∈ db'.countDocLines.rows, l.docId = l'.docId →
        R l l' → l.id = l'.id := by
    intro R hold hnew l hl l' hl' hd hR
    rcases hf.mem_lines.mp hl with ⟨ho, hne⟩ | hn <;>
      rcases hf.mem_lines.mp hl' with ⟨ho', hne'⟩ | hn'
    · exact hold l ho l' ho' hd hR
    · obtain ⟨_, _, hld, -⟩ := mem_countLinesOf hn'
      exact absurd (hd.trans hld) hne
    · obtain ⟨_, _, hld, -⟩ := mem_countLinesOf hn
      exact absurd (hd.symm.trans hld) hne'
    · exact hnew l hn l' hn' hR
  refine ⟨?_, ?_, ?_, ?_, ?_, ?_, ?_⟩
  · intro e he e' he' ha ha' hw
    obtain ⟨e₀, he₀, hid, hw₀, hact, -⟩ := hfrom e he
    obtain ⟨e₁, he₁, hid', hw₁, hact', -⟩ := hfrom e' he'
    rw [hid, hid']
    exact h.oneActive e₀ he₀ e₁ he₁ (hact ha) (hact' ha') (hw₀ ▸ hw₁ ▸ hw)
  · intro l hl l' hl' hd hi
    refine hpair (fun a b => a.itemId = b.itemId) h.items ?_ l hl l' hl' hd hi
    intro a ha b hb hab
    exact congrArg CountDocLine.id (List.inj_on_of_nodup_map
      (countLinesOf_itemId_nodup db docId d.warehouseId lineId) ha hb hab)
  · intro l hl l' hl' hd hi
    refine hpair (fun a b => a.lineNo = b.lineNo) h.lineNos ?_ l hl l' hl' hd hi
    intro a ha b hb hab
    exact congrArg CountDocLine.id (List.inj_on_of_nodup_map
      (countLinesOf_lineNo_nodup db docId d.warehouseId lineId) ha hb hab)
  · intro s hs
    rw [hf.snapshots h.snapshotLine, List.mem_append] at hs
    rcases hs with hs | hs
    · obtain ⟨hs, hkept⟩ := List.mem_filter.mp hs
      obtain ⟨l, hl, hid⟩ := h.snapshotLine s hs
      refine ⟨l, hf.mem_lines.mpr (Or.inl ⟨hl, ?_⟩), hid⟩
      intro hld
      refine of_decide_eq_true hkept (List.mem_map.mpr ⟨l, ?_, hid⟩)
      exact List.mem_filter.mpr ⟨hl, decide_eq_true hld⟩
    · obtain ⟨l, hl, hs⟩ := List.mem_flatMap.mp hs
      exact ⟨l, hf.mem_lines.mpr (Or.inr hl), (countSnapshotsOf_lineId hs).symm⟩
  · intro l hl s hs
    rcases hf.mem_lines.mp hl with ⟨hold, hne⟩ | hnew
    · rw [hf.snapshots_old h.snapshotLine hold hne] at hs
      obtain ⟨e₀, he₀, hid, hdims⟩ := h.lots l hold s hs
      obtain ⟨e, he, hid', hw⟩ := hto e₀ he₀
      exact ⟨e, he, hid'.trans hid, hw ▸ hlots _ hdims⟩
    · rw [hf.snapshots_new h.snapshotLine hnew] at hs
      obtain ⟨_, _, hldoc, -⟩ := mem_countLinesOf hnew
      obtain ⟨r, hr, hslot, -⟩ := mem_countSnapshotsOf.mp hs
      obtain ⟨e, he, hid, hw⟩ := hto d hdoc
      refine ⟨e, he, hid.trans (hdocId.trans hldoc.symm), ?_⟩
      rw [hw, ← hslot]
      exact hlots _ (hv.stock r hr).1
  · intro l hl
    rcases hf.mem_lines.mp hl with ⟨hold, hne⟩ | hnew
    · rw [hf.snapshots_old h.snapshotLine hold hne]
      exact h.sums l hold
    · rw [hf.snapshots_new h.snapshotLine hnew, sum_countSnapshotsOf hv]
      obtain ⟨i, hi, -, hitem, hq, -⟩ := mem_countLinesOf hnew
      rw [hitem, hq]
      exact ⟨(mem_stockedItems.mp hi).2, rfl⟩
  · intro e he hstatus
    obtain ⟨e₀, he₀, -, -, -, hsame⟩ := hfrom e he
    obtain ⟨rfl, hne⟩ := hsame hstatus
    obtain ⟨hname, ⟨l, hl, hld⟩, hall⟩ := h.counted e he₀ hstatus
    refine ⟨hname, ⟨l, hf.mem_lines.mpr (Or.inl ⟨hl, hld ▸ hne⟩), hld⟩, ?_⟩
    intro l' hl' hld'
    rcases hf.mem_lines.mp hl' with ⟨hold, -⟩ | hnew
    · exact hall l' hold hld'
    · obtain ⟨_, _, hldoc, -⟩ := mem_countLinesOf hnew
      exact absurd (hld'.symm.trans hldoc) hne

end CountsOk

/-! ## Operations -/

section Ops
variable {db db' : Db}

/-- Lots keep their dimensions in every run. -/
theorem Tx.run_hasLotDims {α : Type} {x : Tx α} {a : α} (h : x.run db = .ok (a, db')) (s : Slot)
    (hs : db.HasLotDims s) : db'.HasLotDims s :=
  Tx.run_preserves (I := fun d => d.HasLotDims s) (fun u _ _ hd => hd.apply u) h hs

private theorem countsOk_update {docId : Int} {payload : CountDocLinesUpdateIn} {now : Timestamp}
    {out : CountDocLinesUpdateOut} (h : (updateDocLines docId payload now).run db = .ok (out, db'))
    (hdb : CountsOk db) : CountsOk db' := by
  obtain ⟨d, name, db₁, db₂, hd, -, hname, hrec, rfl, hdb'⟩ := run_updateDocLines_ok h
  have h₁ := hdb.recounts hrec
  have h₂ : CountsOk (Redo.apply (.countDocUpdate docId (.countedBy name)) db₁) := by
    refine h₁.update (fun _ _ _ ha => ha) ?_
    intro e he hid hstatus
    obtain ⟨-, hlines, hall⟩ := h₁.counted e he hstatus
    rw [hid] at hlines hall
    exact ⟨cleanText_strip hname, hlines, hall⟩
  rcases hdb' with rfl | ⟨d', hd', hg, rfl⟩
  · exact h₂
  · obtain ⟨hmem, hid'⟩ := Table.lookup_eq_some.mp hd'
    refine h₂.update ?_ ?_
    · intro e he hid _
      obtain rfl := Table.eq_of_key _ he hmem (hid.trans hid'.symm)
      rw [CountDoc.Active, hg.1]
      decide
    · intro e he hid _
      obtain rfl := Table.eq_of_key _ he hmem (hid.trans hid'.symm)
      obtain ⟨e₀, he₀, rfl⟩ := List.mem_map.mp he
      refine ⟨?_, hid ▸ hg.2.1, hid ▸ hg.2.2⟩
      by_cases hid₀ : e₀.id = docId
      · simp only [if_pos hid₀]
        exact cleanText_strip hname
      · simp only [if_neg hid₀] at hid
        exact absurd hid hid₀

private theorem countsOk_post {docId : Int} {reviewedBy : String} {c : CountPostDraws}
    {out : CountDocPostOut} (h : (postDoc docId reviewedBy c).run db = .ok (out, db'))
    (hdb : CountsOk db) : CountsOk db' := by
  obtain ⟨doc, hdoc, hposted | hcounted⟩ := run_postDoc_status h
  · obtain rfl := run_postDoc_posted hdoc hposted h
    exact hdb
  · obtain ⟨-, name, -, db₂, db₃, hp⟩ := (run_postDoc_ok hdoc hcounted).mp h
    have h₁ : CountsOk (db.reviewed docId name) := by
      refine hdb.update (fun _ _ _ ha => ha) ?_
      intro e he hid hstatus
      have he' := hdb.counted e he hstatus
      rw [hid] at he'
      exact he'
    have h₃ : CountsOk db₃ := by
      have hdims : ∀ s, (db.reviewed docId name).HasLotDims s → db₃.HasLotDims s := fun s hs =>
        Tx.run_hasLotDims hp.post s (Tx.run_hasLotDims hp.event s hs)
      obtain ⟨-, -, -, -, -, -, hev⟩ := run_insertEvent.mp hp.event
      refine h₁.frame ?_ ?_ ?_ hdims
      · rw [run_postLines_frame (f := Db.countDocs)
          (fun u d hu => Redo.apply_countDocs (by rw [hu]; exact nofun)) hp.post, hev]
        rfl
      · rw [run_postLines_frame (f := Db.countDocLines)
          (fun u d hu => Redo.apply_countDocLines (by rw [hu]; exact nofun)) hp.post, hev]
        rfl
      · rw [run_postLines_frame (f := Db.countDocLineLotSnapshots)
          (fun u d hu => Redo.apply_countDocLineLotSnapshots (by rw [hu]; exact nofun)) hp.post, hev]
        rfl
    rw [hp.done]
    refine h₃.update ?_ ?_
    · intro e _ _ ha
      exact absurd (show CountDocStatus.posted ∈ [.draft, .frozen, .counted] from ha) (by decide)
    · intro e _ _ hstatus
      exact absurd (show CountDocStatus.posted = .counted from hstatus) (by decide)

/-- **Step lemma.** Every operation keeps the count documents in order. -/
theorem Op.countsOk {op : Op} (h : op.prog.run db = .ok ((), db')) (hv : db.Valid)
    (hdb : CountsOk db) : CountsOk db' := by
  by_cases hc : Part.countDocs ∈ op.tables ∨ Part.countLines ∈ op.tables
  · cases op with
    | countCreate payload actor c =>
        obtain ⟨d, h⟩ := Tx.run_forget_ok.mp h
        obtain ⟨-, hdraft, hnew, hno, rfl⟩ := run_createDoc_ok h
        exact hdb.insertDoc hdraft hnew hno
    | countFreeze docId lineId =>
        obtain ⟨out, h⟩ := Tx.run_forget_ok.mp h
        obtain ⟨d, hf⟩ := run_freezeDoc_ok h
        exact hdb.freeze hv hf (Tx.run_hasLotDims h)
    | countUpdate docId payload now =>
        obtain ⟨out, h⟩ := Tx.run_forget_ok.mp h
        exact countsOk_update h hdb
    | countPost docId reviewedBy c =>
        obtain ⟨out, h⟩ := Tx.run_forget_ok.mp h
        exact countsOk_post h hdb
    | countVoid docId =>
        obtain ⟨d, hd, -, rfl⟩ := run_voidDoc_ok h
        refine hdb.update ?_ ?_
        · intro e _ _ ha
          exact absurd (show CountDocStatus.voided ∈ [.draft, .frozen, .counted] from ha)
            (by decide)
        · intro e _ _ hstatus
          exact absurd (show CountDocStatus.voided = .counted from hstatus) (by decide)
    | _ => simp [Op.tables] at hc
  · rw [not_or] at hc
    exact hdb.frame (Op.run_countDocs h hc.1) (Op.run_countDocLines h hc.2)
      (Op.run_countDocLineLotSnapshots h hc.2) (Tx.run_hasLotDims h)

theorem Db.Start.countsOk (h : db.Start) : CountsOk db where
  oneActive := by rw [h.countDocs]; intro d hd; cases hd
  items := by rw [h.countDocLines]; intro l hl; cases hl
  lineNos := by rw [h.countDocLines]; intro l hl; cases hl
  snapshotLine := by rw [h.countDocLineLotSnapshots]; intro s hs; cases hs
  lots := by rw [h.countDocLines]; intro l hl; cases hl
  sums := by rw [h.countDocLines]; intro l hl; cases hl
  counted := by rw [h.countDocs]; intro d hd; cases hd

/-- **Run lemma.** The count documents of every reachable state are in order. -/
theorem ReachableBy.countsOk {allowed : Db → Op → Prop} (h : ReachableBy allowed db) :
    CountsOk db :=
  h.invariant (fun _ hs => hs.countsOk) fun _ _ _ hreach _ _ hok hrun =>
    Op.countsOk hrun hreach.valid hok

end Ops

end WmsDu
