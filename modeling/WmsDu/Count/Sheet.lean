import WmsDu.Count.Doc
import WmsDu.Db.Parts
import WmsDu.Db.Valid

/-!
# The count sheet

What a freeze leaves behind: the lines of the document and their lot
snapshots, copied from the stock of the warehouse. Counting fills columns of
the lines in and changes nothing else of the sheet.
-/

namespace WmsDu

open Txn

variable {db db' : Db}

/-! ## Rows inserted one after another -/

theorem replay_countLineInsert (ls : List CountDocLine) (db : Db) :
    replay Sql (ls.map Redo.countLineInsert) db =
      { db with countDocLines := ls.foldl Table.insert db.countDocLines } := by
  induction ls generalizing db with
  | nil => rfl
  | cons l ls ih => rw [List.map_cons, replay_cons, ih]; rfl

theorem replay_countSnapshotInsert (ss : List CountDocLineLotSnapshot) (db : Db) :
    replay Sql (ss.map Redo.countSnapshotInsert) db =
      { db with
        countDocLineLotSnapshots := ss.foldl Table.insert db.countDocLineLotSnapshots } := by
  induction ss generalizing db with
  | nil => rfl
  | cons s ss ih => rw [List.map_cons, replay_cons, ih]; rfl

/-! ## The rows a freeze builds -/

theorem mem_stockedItems {w : Int} {i : Item} :
    i ∈ stockedItems db w ↔ i ∈ db.items.rows ∧ 0 < db.itemTotal w i.id := by
  rw [stockedItems, List.mem_insertionSort, List.mem_filter, decide_eq_true_eq]

theorem stockedItems_nodup (db : Db) (w : Int) : ((stockedItems db w).map Item.id).Nodup := by
  have hperm := (List.perm_insertionSort (fun a b : Item => a.id ≤ b.id)
    (db.items.rows.filter fun i => 0 < db.itemTotal w i.id)).map Item.id
  rw [stockedItems, hperm.nodup_iff]
  exact (List.filter_sublist.map Item.id).nodup db.items.nodup

/-- A line a freeze builds is a stocked item under its number. -/
theorem mem_countLinesOf {docId w : Int} {lineId : Nat → Int} {l : CountDocLine}
    (h : l ∈ countLinesOf db docId w lineId) :
    ∃ i ∈ stockedItems db w, l.docId = docId ∧ l.itemId = i.id ∧
      l.snapshotQtyBase = db.itemTotal w i.id ∧ l.countedQtyBase = none := by
  obtain ⟨idx, hidx, rfl⟩ := List.mem_mapIdx.mp h
  exact ⟨_, List.getElem_mem hidx, rfl, rfl, rfl, rfl⟩

/-- No two of them are of one item. -/
theorem countLinesOf_itemId_nodup (db : Db) (docId w : Int) (lineId : Nat → Int) :
    ((countLinesOf db docId w lineId).map CountDocLine.itemId).Nodup := by
  have hmap : (countLinesOf db docId w lineId).map CountDocLine.itemId =
      (stockedItems db w).map Item.id := by
    refine List.ext_getElem ?_ ?_
    · simp [countLinesOf]
    · intro n h₁ h₂
      simp [countLinesOf]
  rw [hmap]
  exact stockedItems_nodup db w

/-- No two of them have one number. -/
theorem countLinesOf_lineNo_nodup (db : Db) (docId w : Int) (lineId : Nat → Int) :
    ((countLinesOf db docId w lineId).map CountDocLine.lineNo).Nodup := by
  have hmap : (countLinesOf db docId w lineId).map CountDocLine.lineNo =
      (List.range (stockedItems db w).length).map fun n : Nat => (n : Int) + 1 := by
    refine List.ext_getElem ?_ ?_
    · simp [countLinesOf]
    · intro n h₁ h₂
      simp [countLinesOf]
  rw [hmap]
  refine List.Nodup.map ?_ List.nodup_range
  intro a b hab
  simpa using hab

/-- A lot snapshot a freeze builds is a stocked slot of the line's item. -/
theorem mem_countSnapshotsOf {w : Int} {l : CountDocLine} {s : CountDocLineLotSnapshot} :
    s ∈ countSnapshotsOf db w l ↔
      ∃ r ∈ db.stocksLot.rows, r.slot = ⟨w, l.itemId, s.lotId⟩ ∧ 0 < r.qty ∧
        ∃ lot, db.lots.lookup s.lotId = some lot ∧
          s = ⟨l.id, s.lotId, lot.lotCode, r.qty⟩ := by
  rw [countSnapshotsOf, List.mem_filterMap]
  constructor
  · rintro ⟨r, hr, hs⟩
    split at hs
    case isTrue hc =>
      obtain ⟨lot, hlot, rfl⟩ := Option.map_eq_some_iff.mp hs
      refine ⟨r, hr, ?_, hc.2.2, lot, hlot, rfl⟩
      rw [← hc.1, ← hc.2.1]
    case isFalse => cases hs
  · rintro ⟨r, hr, hslot, hq, lot, hlot, hs⟩
    refine ⟨r, hr, ?_⟩
    rw [if_pos ⟨by rw [hslot], by rw [hslot], hq⟩, hslot]
    rw [hlot, Option.map_some, hs]

private theorem countSnapshotsOf_lot_nodup (w : Int) (l : CountDocLine) (rows : List StocksLotRow)
    (hnd : (rows.map StocksLotRow.slot).Nodup) :
    ((rows.filterMap fun r =>
      if r.slot.itemId = l.itemId ∧ r.slot.warehouseId = w ∧ 0 < r.qty then
        (db.lots.lookup r.slot.lotId).map fun lot =>
          ({ lineId := l.id, lotId := r.slot.lotId, lotCodeSnapshot := lot.lotCode
             snapshotQtyBase := r.qty } : CountDocLineLotSnapshot)
      else none).map CountDocLineLotSnapshot.lotId).Nodup := by
  induction rows with
  | nil => exact List.nodup_nil
  | cons r rows ih =>
      rw [List.map_cons, List.nodup_cons] at hnd
      rw [List.filterMap_cons]
      split
      · exact ih hnd.2
      · rename_i s hs
        rw [List.map_cons, List.nodup_cons]
        refine ⟨?_, ih hnd.2⟩
        intro hmem
        obtain ⟨s', hs', hlot⟩ := List.mem_map.mp hmem
        obtain ⟨r', hr', hs'⟩ := List.mem_filterMap.mp hs'
        split at hs
        case isFalse => cases hs
        case isTrue hc =>
          split at hs'
          case isFalse => cases hs'
          case isTrue hc' =>
            obtain ⟨lot, _, rfl⟩ := Option.map_eq_some_iff.mp hs
            obtain ⟨lot', _, rfl⟩ := Option.map_eq_some_iff.mp hs'
            -- item and warehouse agree, so the slots would be the same
            refine hnd.1 (List.mem_map.mpr ⟨r', hr', ?_⟩)
            have hi : r'.slot.itemId = r.slot.itemId := hc'.1.trans hc.1.symm
            have hw : r'.slot.warehouseId = r.slot.warehouseId := hc'.2.1.trans hc.2.1.symm
            cases hrs : r.slot
            cases hrs' : r'.slot
            simp only [hrs, hrs'] at hi hw hlot
            rw [hi, hw, hlot]

/-- The lot snapshots of one line name each lot once. -/
theorem countSnapshotsOf_nodup (db : Db) (w : Int) (l : CountDocLine) :
    ((countSnapshotsOf db w l).map CountDocLineLotSnapshot.lotId).Nodup :=
  countSnapshotsOf_lot_nodup w l db.stocksLot.rows db.stocksLot.nodup

private theorem sum_snapshots_list (hv : db.Valid) (w : Int) (l : CountDocLine)
    (rows : List StocksLotRow) (hsub : ∀ r ∈ rows, r ∈ db.stocksLot.rows) :
    ((rows.filterMap fun r =>
      if r.slot.itemId = l.itemId ∧ r.slot.warehouseId = w ∧ 0 < r.qty then
        (db.lots.lookup r.slot.lotId).map fun lot =>
          ({ lineId := l.id, lotId := r.slot.lotId, lotCodeSnapshot := lot.lotCode
             snapshotQtyBase := r.qty } : CountDocLineLotSnapshot)
      else none).map CountDocLineLotSnapshot.snapshotQtyBase).sum =
    sumOver (fun r : StocksLotRow => r.slot.warehouseId = w ∧ r.slot.itemId = l.itemId)
      StocksLotRow.qty rows := by
  induction rows with
  | nil => rfl
  | cons r rows ih =>
      have hrest := ih fun r' hr' => hsub r' (List.mem_cons_of_mem _ hr')
      obtain ⟨⟨lot, hlot, hslot⟩, hq⟩ := hv.stock r (hsub r List.mem_cons_self)
      have hlook : db.lots.lookup r.slot.lotId = some lot :=
        Table.lookup_eq_some.mpr ⟨hlot, by rw [← hslot]; rfl⟩
      rw [List.filterMap_cons, sumOver_cons, ← hrest]
      by_cases hi : r.slot.itemId = l.itemId ∧ r.slot.warehouseId = w
      · by_cases hpos : 0 < r.qty
        · rw [if_pos ⟨hi.1, hi.2, hpos⟩, if_pos ⟨hi.2, hi.1⟩, hlook]
          rfl
        · -- an empty slot has no snapshot and adds nothing
          rw [if_neg fun h => hpos h.2.2, if_pos ⟨hi.2, hi.1⟩]
          have hzero : r.qty = 0 := by omega
          rw [hzero, zero_add]
      · rw [if_neg fun h => hi ⟨h.1, h.2.1⟩, if_neg fun h => hi ⟨h.2, h.1⟩, zero_add]

/-- The lot snapshots of a line sum to the stock of its item. -/
theorem sum_countSnapshotsOf (hv : db.Valid) (w : Int) (l : CountDocLine) :
    ((countSnapshotsOf db w l).map CountDocLineLotSnapshot.snapshotQtyBase).sum =
      db.itemTotal w l.itemId :=
  sum_snapshots_list hv w l db.stocksLot.rows fun _ hr => hr

/-! ## The freeze -/

/-- What a freeze did: the document was a draft; its old lines and their
snapshots are gone, and the new ones copy the stock. -/
structure Froze (db : Db) (docId : Int) (lineId : Nat → Int) (d : CountDoc) (db' : Db) : Prop where
  doc : db.countDocs.lookup docId = some d
  draft : d.status = .draft
  docs : db'.countDocs.rows = db.countDocs.rows.map fun d =>
    if d.id = docId then CountDocChange.frozen.set d else d
  lines : db'.countDocLines.rows = db.countDocLines.rows.filter (fun l => ¬ l.docId = docId) ++
    countLinesOf db docId d.warehouseId lineId
  snapshots : (∀ s ∈ db.countDocLineLotSnapshots.rows, db.countDocLines.HasKey s.lineId) →
    db'.countDocLineLotSnapshots.rows =
      db.countDocLineLotSnapshots.rows.filter (fun s =>
        ¬ s.lineId ∈ (docLines db docId).map CountDocLine.id) ++
      (countLinesOf db docId d.warehouseId lineId).flatMap (countSnapshotsOf db d.warehouseId)

theorem run_requireDoc_ok {docId : Int} {d : CountDoc} :
    (requireDoc docId).run db = .ok (d, db') ↔ db.countDocs.lookup docId = some d ∧ db = db' := by
  simp only [requireDoc, Prog.run_bind_ok, Tx.run_select, Tx.run_requireSome_ok, Except.ok.injEq,
    Prod.mk.injEq]
  constructor
  · rintro ⟨_, _, ⟨rfl, rfl⟩, hd, rfl⟩
    exact ⟨hd, rfl⟩
  · rintro ⟨hd, rfl⟩
    exact ⟨_, _, ⟨rfl, rfl⟩, hd, rfl⟩

theorem run_insertCountLines_ok {docId w : Int} {lineId : Nat → Int} {u : Unit}
    (h : (Prog.exec (.insertCountLines docId w lineId) : Tx Unit).run db = .ok (u, db')) :
    (∀ l ∈ countLinesOf db docId w lineId, ¬ db.countDocLines.HasKey l.id) ∧
      ((countLinesOf db docId w lineId).map CountDocLine.id).Nodup ∧
      db' = { db with
        countDocLines := (countLinesOf db docId w lineId).foldl Table.insert db.countDocLines } := by
  obtain ⟨us, hexec, rfl⟩ := Prog.run_exec_ok.mp h
  simp only [Database.exec, Sql.exec, violated] at hexec
  split at hexec <;> cases hexec
  rename_i hc
  rw [not_or, not_not] at hc
  exact ⟨fun l hl hk => hc.1 ⟨l, hl, hk⟩, hc.2, replay_countLineInsert _ _⟩

/-- An update of a document whose guard holds. -/
theorem run_updateCountDoc_ok {docId : Int} {c : CountDocChange} {b : Bool}
    (h : (Prog.exec (.updateCountDoc docId c) : Tx Bool).run db = .ok (b, db')) :
    (b = false ∧ (∀ d, db.countDocs.lookup docId = some d → ¬ c.guard db d) ∧ db = db') ∨
      ∃ d, db.countDocs.lookup docId = some d ∧ c.guard db d ∧ b = true ∧
        db' = Redo.apply (.countDocUpdate docId c) db := by
  obtain ⟨us, hexec, rfl⟩ := Prog.run_exec_ok.mp h
  simp only [Database.exec, Sql.exec, violated] at hexec
  split at hexec
  · rename_i hnone
    cases hexec
    refine Or.inl ⟨rfl, ?_, rfl⟩
    intro d hd
    rw [hnone] at hd
    cases hd
  · rename_i d hd
    split at hexec
    · rename_i hg
      split at hexec <;> cases hexec
      exact Or.inr ⟨d, hd, hg, rfl, rfl⟩
    · rename_i hg
      cases hexec
      refine Or.inl ⟨rfl, ?_, rfl⟩
      intro d' hd'
      obtain rfl : d = d' := Option.some.inj (hd.symm.trans hd')
      exact hg

/-- The snapshots of lines with distinct ids have distinct keys. -/
theorem flatMap_countSnapshotsOf_nodup (db : Db) (w : Int) (ls : List CountDocLine)
    (hnd : (ls.map CountDocLine.id).Nodup) :
    ((ls.flatMap (countSnapshotsOf db w)).map fun s => (s.lineId, s.lotId)).Nodup := by
  induction ls with
  | nil => exact List.nodup_nil
  | cons l ls ih =>
      rw [List.map_cons, List.nodup_cons] at hnd
      rw [List.flatMap_cons, List.map_append, List.nodup_append]
      refine ⟨?_, ih hnd.2, ?_⟩
      · -- within one line the lots are distinct
        refine List.Nodup.of_map Prod.snd ?_
        rw [List.map_map]
        exact countSnapshotsOf_nodup db w l
      · intro a ha b hb hab
        subst hab
        obtain ⟨s, hs, rfl⟩ := List.mem_map.mp ha
        obtain ⟨s', hs', hk⟩ := List.mem_map.mp hb
        obtain ⟨l', hl', hs'⟩ := List.mem_flatMap.mp hs'
        obtain ⟨_, _, _, _, _, _, hse⟩ := mem_countSnapshotsOf.mp hs
        obtain ⟨_, _, _, _, _, _, hse'⟩ := mem_countSnapshotsOf.mp hs'
        rw [Prod.mk.injEq] at hk
        refine hnd.1 (List.mem_map.mpr ⟨l', hl', ?_⟩)
        rw [hse, hse'] at hk
        exact hk.1

theorem run_deleteCountSnapshots_ok {docId : Int} {u : Unit}
    (h : (Prog.exec (.deleteCountSnapshots docId) : Tx Unit).run db = .ok (u, db')) :
    db' = { db with
      countDocLineLotSnapshots := db.countDocLineLotSnapshots.delete fun s =>
        s.lineId ∈ (docLines db docId).map CountDocLine.id } := by
  obtain ⟨us, hexec, rfl⟩ := Prog.run_exec_ok.mp h
  cases hexec
  rfl

theorem run_deleteCountLines_ok {docId : Int} {u : Unit}
    (h : (Prog.exec (.deleteCountLines docId) : Tx Unit).run db = .ok (u, db')) :
    db' = { db with countDocLines := db.countDocLines.delete fun l => l.docId = docId } := by
  obtain ⟨us, hexec, rfl⟩ := Prog.run_exec_ok.mp h
  cases hexec
  rfl

theorem run_insertCountSnapshots_ok {docId : Int} {d : CountDoc} {u : Unit}
    (hd : db.countDocs.lookup docId = some d)
    (h : (Prog.exec (.insertCountSnapshots docId) : Tx Unit).run db = .ok (u, db')) :
    db' = { db with
      countDocLineLotSnapshots :=
        ((docLines db docId).flatMap (countSnapshotsOf db d.warehouseId)).foldl Table.insert
          db.countDocLineLotSnapshots } := by
  obtain ⟨us, hexec, rfl⟩ := Prog.run_exec_ok.mp h
  simp only [Database.exec, Sql.exec, hd] at hexec
  cases hexec
  exact replay_countSnapshotInsert _ _

theorem run_freezeDoc_ok {docId : Int} {lineId : Nat → Int} {out : CountDocFreezeOut}
    (h : (freezeDoc docId lineId).run db = .ok (out, db')) :
    ∃ d, Froze db docId lineId d db' := by
  simp only [freezeDoc, freezeDocLinesFromCurrentStock, markDocFrozen, Prog.run_bind_ok,
    run_requireDoc_ok, Tx.run_require_ok, Tx.run_select] at h
  obtain ⟨d, _, ⟨hd, rfl⟩, _, _, ⟨hdraft, rfl⟩, _, db₅, ⟨d', _, ⟨hd', rfl⟩, _, db₁, hdel, _, db₂,
    hdel', _, db₃, hlines, _, db₄, hsnaps, b, _, hmark, hcounts⟩, hout⟩ := h
  obtain rfl : d = d' := Option.some.inj (hd.symm.trans hd')
  cases hcounts
  cases hout
  have h₁ := run_deleteCountSnapshots_ok hdel
  have h₂ := run_deleteCountLines_ok hdel'
  obtain ⟨hfresh, hnd, h₃⟩ := run_insertCountLines_ok hlines
  have hnew : countLinesOf db₂ docId d.warehouseId lineId =
      countLinesOf db docId d.warehouseId lineId := by rw [h₂, h₁]; rfl
  rw [hnew] at hfresh hnd h₃
  have hdeleted : db₂.countDocLines = db.countDocLines.delete fun l => l.docId = docId := by
    rw [h₂, h₁]
  rw [hdeleted] at hfresh
  have hrows : db₃.countDocLines.rows =
      (db.countDocLines.delete fun l => l.docId = docId).rows ++
        countLinesOf db docId d.warehouseId lineId := by
    rw [h₃, ← Table.rows_insertAll _ _ hfresh hnd, ← hdeleted]
  -- the new lines are all the document has now, so the new snapshots are theirs
  have hmine : docLines db₃ docId = countLinesOf db docId d.warehouseId lineId := by
    rw [docLines, hrows, List.filter_append]
    have hold : ((db.countDocLines.delete fun l => l.docId = docId).rows.filter
        fun l => l.docId = docId) = [] := by
      rw [List.filter_eq_nil_iff]
      intro l hl hid
      exact (Table.mem_delete.mp hl).2 (of_decide_eq_true hid)
    rw [hold, List.nil_append, List.filter_eq_self]
    intro l hl
    obtain ⟨_, _, hdoc, _⟩ := mem_countLinesOf hl
    exact decide_eq_true hdoc
  have hd₃ : db₃.countDocs.lookup docId = some d := by rw [h₃, h₂, h₁]; exact hd
  have h₄ := run_insertCountSnapshots_ok hd₃ hsnaps
  have hd₄ : db₄.countDocs.lookup docId = some d := by rw [h₄]; exact hd₃
  rcases run_updateCountDoc_ok hmark with ⟨-, hno, -⟩ | ⟨_, -, -, -, rfl⟩
  · exact absurd trivial (hno d hd₄)
  have hsame : countSnapshotsOf db₃ d.warehouseId = countSnapshotsOf db d.warehouseId := by
    rw [h₃, h₂, h₁]; rfl
  refine ⟨d, hd, hdraft, ?_, ?_, ?_⟩
  · rw [h₄, h₃, h₂, h₁]; rfl
  · have hkeep : db₄.countDocLines = db₃.countDocLines := by rw [h₄]
    exact (congrArg Table.rows hkeep).trans hrows
  · intro horphan
    have hkept : db₃.countDocLineLotSnapshots = db.countDocLineLotSnapshots.delete fun s =>
        s.lineId ∈ (docLines db docId).map CountDocLine.id := by rw [h₃, h₂, h₁]
    rw [hmine, hsame, hkept] at h₄
    have hsnap := Table.rows_insertAll
      ((countLinesOf db docId d.warehouseId lineId).flatMap (countSnapshotsOf db d.warehouseId))
      (db.countDocLineLotSnapshots.delete fun s =>
        s.lineId ∈ (docLines db docId).map CountDocLine.id) ?_
      (flatMap_countSnapshotsOf_nodup db d.warehouseId _ hnd)
    · have hbuilt := congrArg Db.countDocLineLotSnapshots h₄
      exact (congrArg Table.rows hbuilt).trans hsnap
    · -- a snapshot that was kept has its line, and that line has another id
      intro s hs hk
      obtain ⟨s', hs', hkey⟩ := hk
      obtain ⟨hs', hout⟩ := Table.mem_delete.mp hs'
      obtain ⟨l, hl, hs⟩ := List.mem_flatMap.mp hs
      obtain ⟨_, _, _, _, _, _, hse⟩ := mem_countSnapshotsOf.mp hs
      rw [Prod.mk.injEq, hse] at hkey
      obtain ⟨l', hl', hid'⟩ := horphan s' hs'
      refine hfresh l hl ⟨l', Table.mem_delete.mpr ⟨hl', ?_⟩, hid'.trans hkey.1⟩
      intro hdoc
      refine hout (List.mem_map.mpr ⟨l', ?_, hid'⟩)
      exact List.mem_filter.mpr ⟨hl', decide_eq_true hdoc⟩

/-! ## The snapshots of one line -/

/-- The lot snapshots of a line, unsorted. -/
def snapshotsOf (db : Db) (lineId : Int) : List CountDocLineLotSnapshot :=
  db.countDocLineLotSnapshots.rows.filter fun s => s.lineId = lineId

theorem lineLotSnapshots_perm (db : Db) (lineId : Int) :
    (lineLotSnapshots db lineId).Perm (snapshotsOf db lineId) :=
  List.perm_insertionSort _ _

theorem countSnapshotsOf_lineId {w : Int} {l : CountDocLine} {s : CountDocLineLotSnapshot}
    (h : s ∈ countSnapshotsOf db w l) : s.lineId = l.id := by
  obtain ⟨_, _, _, _, _, _, hs⟩ := mem_countSnapshotsOf.mp h
  rw [hs]

private theorem filter_flatMap_snapshots (w : Int) (ls : List CountDocLine)
    (hnd : (ls.map CountDocLine.id).Nodup) {l : CountDocLine} (hl : l ∈ ls) :
    (ls.flatMap (countSnapshotsOf db w)).filter (fun s => s.lineId = l.id) =
      countSnapshotsOf db w l := by
  have hother : ∀ l' : CountDocLine, l'.id ≠ l.id →
      (countSnapshotsOf db w l').filter (fun s => s.lineId = l.id) = [] := by
    intro l' hne
    rw [List.filter_eq_nil_iff]
    intro s hs hid
    exact hne ((countSnapshotsOf_lineId hs).symm.trans (of_decide_eq_true hid))
  induction ls with
  | nil => cases hl
  | cons l' ls ih =>
      rw [List.map_cons, List.nodup_cons] at hnd
      rw [List.flatMap_cons, List.filter_append]
      rcases List.mem_cons.mp hl with rfl | hl
      · have hself : (countSnapshotsOf db w l).filter (fun s => s.lineId = l.id) =
            countSnapshotsOf db w l := by
          rw [List.filter_eq_self]
          intro s hs
          exact decide_eq_true (countSnapshotsOf_lineId hs)
        have hrest : (ls.flatMap (countSnapshotsOf db w)).filter (fun s => s.lineId = l.id) = [] := by
          rw [List.filter_eq_nil_iff]
          intro s hs hid
          obtain ⟨l'', hl'', hs⟩ := List.mem_flatMap.mp hs
          refine hnd.1 (List.mem_map.mpr ⟨l'', hl'', ?_⟩)
          exact (countSnapshotsOf_lineId hs).symm.trans (of_decide_eq_true hid)
        rw [hself, hrest, List.append_nil]
      · have hne : l'.id ≠ l.id := fun h => hnd.1 (List.mem_map.mpr ⟨l, hl, h.symm⟩)
        rw [hother l' hne, List.nil_append, ih hnd.2 hl]

namespace Froze

variable {docId : Int} {lineId : Nat → Int} {d : CountDoc}

/-- A line after the freeze is an old one of another document, or a new one. -/
theorem mem_lines (h : Froze db docId lineId d db') {l : CountDocLine} :
    l ∈ db'.countDocLines.rows ↔ (l ∈ db.countDocLines.rows ∧ l.docId ≠ docId) ∨
      l ∈ countLinesOf db docId d.warehouseId lineId := by
  rw [h.lines, List.mem_append, List.mem_filter]
  simp

private theorem new_nodup (h : Froze db docId lineId d db') :
    ((countLinesOf db docId d.warehouseId lineId).map CountDocLine.id).Nodup := by
  have hnd := db'.countDocLines.nodup
  rw [h.lines, List.map_append, List.nodup_append] at hnd
  exact hnd.2.1

/-- A new line has the stock of its item as its snapshots. -/
theorem snapshots_new (h : Froze db docId lineId d db')
    (horphan : ∀ s ∈ db.countDocLineLotSnapshots.rows, db.countDocLines.HasKey s.lineId)
    {l : CountDocLine} (hl : l ∈ countLinesOf db docId d.warehouseId lineId) :
    snapshotsOf db' l.id = countSnapshotsOf db d.warehouseId l := by
  rw [snapshotsOf, h.snapshots horphan, List.filter_append,
    filter_flatMap_snapshots _ _ h.new_nodup hl]
  have hold : (db.countDocLineLotSnapshots.rows.filter fun s =>
      ¬ s.lineId ∈ (docLines db docId).map CountDocLine.id).filter
        (fun s => s.lineId = l.id) = [] := by
    rw [List.filter_eq_nil_iff]
    intro s hs hid
    obtain ⟨hs, hkept⟩ := List.mem_filter.mp hs
    obtain ⟨l', hl', hid'⟩ := horphan s hs
    -- its line was kept, so the new line has its id
    have hdoc : l'.docId ≠ docId := by
      intro hdoc
      refine of_decide_eq_true hkept (List.mem_map.mpr ⟨l', ?_, hid'⟩)
      exact List.mem_filter.mpr ⟨hl', decide_eq_true hdoc⟩
    have hsame := db'.countDocLines.eq_of_key (h.mem_lines.mpr (Or.inl ⟨hl', hdoc⟩))
      (h.mem_lines.mpr (Or.inr hl)) (hid'.trans (of_decide_eq_true hid))
    obtain ⟨_, _, hdoc', _⟩ := mem_countLinesOf hl
    exact hdoc (hsame ▸ hdoc')
  rw [hold, List.nil_append]

/-- A line of another document keeps its snapshots. -/
theorem snapshots_old (h : Froze db docId lineId d db')
    (horphan : ∀ s ∈ db.countDocLineLotSnapshots.rows, db.countDocLines.HasKey s.lineId)
    {l : CountDocLine} (hl : l ∈ db.countDocLines.rows) (hdoc : l.docId ≠ docId) :
    snapshotsOf db' l.id = snapshotsOf db l.id := by
  rw [snapshotsOf, h.snapshots horphan, List.filter_append]
  have hnew : ((countLinesOf db docId d.warehouseId lineId).flatMap
      (countSnapshotsOf db d.warehouseId)).filter (fun s => s.lineId = l.id) = [] := by
    rw [List.filter_eq_nil_iff]
    intro s hs hid
    obtain ⟨l', hl', hs⟩ := List.mem_flatMap.mp hs
    have hsame := db'.countDocLines.eq_of_key (h.mem_lines.mpr (Or.inr hl'))
      (h.mem_lines.mpr (Or.inl ⟨hl, hdoc⟩))
      ((countSnapshotsOf_lineId hs).symm.trans (of_decide_eq_true hid))
    obtain ⟨_, _, hdoc', _⟩ := mem_countLinesOf hl'
    exact hdoc (hsame ▸ hdoc')
  rw [hnew, List.append_nil, List.filter_filter, snapshotsOf]
  refine List.filter_congr ?_
  intro s hs
  rw [Bool.eq_iff_iff, Bool.and_eq_true, decide_eq_true_eq, decide_eq_true_eq]
  constructor
  · exact fun hc => hc.1
  · intro hid
    refine ⟨hid, ?_⟩
    intro hmem
    obtain ⟨l', hl', hid'⟩ := List.mem_map.mp hmem
    obtain ⟨hl', hdoc'⟩ := List.mem_filter.mp hl'
    obtain rfl := db.countDocLines.eq_of_key hl' hl (hid'.trans hid)
    exact hdoc (of_decide_eq_true hdoc')

end Froze

end WmsDu
