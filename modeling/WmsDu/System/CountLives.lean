import Mathlib.Logic.Relation
import WmsDu.System.Counts
import WmsDu.System.History

/-!
# The life of a count document

A document goes from draft to frozen to counted to posted, or is voided on the
way. What the freeze wrote stays until the end, and nothing of a closed
document changes. The events of the counts and the posted documents answer to
each other.
-/

namespace WmsDu

open Txn

/-! ## One document over time -/

/-- The steps of a document's life. -/
inductive CountDocStatus.Next : CountDocStatus → CountDocStatus → Prop
  | freeze : Next .draft .frozen
  | count : Next .frozen .counted
  | post : Next .counted .posted
  | void {s : CountDocStatus} : s ∈ [.draft, .frozen, .counted] → Next s .voided

theorem CountDocStatus.not_next_draft {s : CountDocStatus} : ¬ Next s .draft := by
  intro h
  cases h

theorem CountDocStatus.leaves_draft {s t : CountDocStatus} (h : Relation.ReflTransGen Next s t)
    (hs : s ≠ .draft) : t ≠ .draft := by
  cases h with
  | refl => exact hs
  | tail _ hstep =>
      intro ht
      rw [ht] at hstep
      exact not_next_draft hstep

/-- A document without what happens to it. -/
def CountDoc.origin (d : CountDoc) : CountDoc :=
  { d with
    status := .draft, postedEventId := none, countedByNameSnapshot := none
    reviewedByNameSnapshot := none, countedAt := none, postedAt := none }

/-- A line as the freeze wrote it. -/
def CountDocLine.uncounted (l : CountDocLine) : CountDocLine :=
  { l with
    countedItemUomId := none, countedUomNameSnapshot := none, countedRatioToBaseSnapshot := none
    countedQtyInput := none, countedQtyBase := none, diffQtyBase := none }

/-- The sheet of a document: its lines as the freeze wrote them, each with its
lot snapshots. -/
def countSheet (db : Db) (docId : Int) : List (CountDocLine × List CountDocLineLotSnapshot) :=
  (docLines db docId).map fun l => (l.uncounted, snapshotsOf db l.id)

/-- What became of a document between two states. -/
structure CountDoc.Lives (db : Db) (d : CountDoc) (db' : Db) (d' : CountDoc) : Prop where
  origin : d'.origin = d.origin
  status : Relation.ReflTransGen CountDocStatus.Next d.status d'.status
  sheet : d.status ≠ .draft → countSheet db' d.id = countSheet db d.id
  closed : ¬ d.Active → d' = d ∧ docLines db' d.id = docLines db d.id

/-- Every document lives on. -/
def Db.CountsLive (db db' : Db) : Prop :=
  ∀ d ∈ db.countDocs.rows, ∃ d' ∈ db'.countDocs.rows, d.Lives db db' d'

section Lives
variable {db db₁ db' : Db} {d d₁ d' : CountDoc}

namespace CountDoc

theorem origin_id (d : CountDoc) : d.origin.id = d.id := rfl

theorem Lives.id_eq (h : d.Lives db db' d') : d'.id = d.id :=
  show d'.origin.id = d.origin.id by rw [h.origin]

/-- A document that is left alone. -/
theorem Lives.same (hlines : docLines db' d.id = docLines db d.id)
    (hsheet : countSheet db' d.id = countSheet db d.id) : d.Lives db db' d :=
  ⟨rfl, .refl, fun _ => hsheet, fun _ => ⟨rfl, hlines⟩⟩

theorem Lives.trans (h : d.Lives db db₁ d₁) (h' : d₁.Lives db₁ db' d') : d.Lives db db' d' where
  origin := h'.origin.trans h.origin
  status := h.status.trans h'.status
  sheet := by
    intro hs
    have hs₁ := h'.sheet (CountDocStatus.leaves_draft h.status hs)
    rw [h.id_eq] at hs₁
    exact hs₁.trans (h.sheet hs)
  closed := by
    intro hc
    obtain ⟨rfl, hl⟩ := h.closed hc
    obtain ⟨rfl, hl'⟩ := h'.closed hc
    exact ⟨rfl, hl'.trans hl⟩

end CountDoc

namespace Db.CountsLive

theorem refl (db : Db) : db.CountsLive db := fun d hd => ⟨d, hd, .same rfl rfl⟩

theorem trans (h : db.CountsLive db₁) (h' : db₁.CountsLive db') : db.CountsLive db' := by
  intro d hd
  obtain ⟨d₁, hd₁, hl⟩ := h d hd
  obtain ⟨d', hd', hl'⟩ := h' d₁ hd₁
  exact ⟨d', hd', hl.trans hl'⟩

/-- A posted document is still there as it was. -/
theorem posted (h : db.CountsLive db') (hd : d ∈ db.countDocs.rows) (hp : d.status = .posted) :
    d ∈ db'.countDocs.rows := by
  obtain ⟨d', hd', hl⟩ := h d hd
  have hclosed : ¬ d.Active := by
    rw [CountDoc.Active, hp]
    simp
  rw [← (hl.closed hclosed).1]
  exact hd'

/-- Only the count tables matter. -/
theorem frame (hd : db'.countDocs = db.countDocs) (hl : db'.countDocLines = db.countDocLines)
    (hs : db'.countDocLineLotSnapshots = db.countDocLineLotSnapshots) : db.CountsLive db' := by
  intro d hmem
  refine ⟨d, hd ▸ hmem, .same ?lines ?sheet⟩
  case lines => rw [docLines, hl, docLines]
  case sheet => simp only [countSheet, docLines, snapshotsOf, hl, hs]

/-- A new document leaves the others alone. -/
theorem insertDoc (db : Db) (d : CountDoc) :
    db.CountsLive (Redo.apply (.countDocInsert d) db) :=
  fun e he => ⟨e, Table.mem_insert_of_mem he, .same rfl rfl⟩

/-- An update takes an active document one step further, if at all. -/
theorem update {docId : Int} {c : CountDocChange}
    (h : ∀ d ∈ db.countDocs.rows, d.id = docId → d.Active ∧
      Relation.ReflTransGen CountDocStatus.Next d.status (c.set d).status) :
    db.CountsLive (Redo.apply (.countDocUpdate docId c) db) := by
  intro d hd
  refine ⟨_, List.mem_map.mpr ⟨d, hd, rfl⟩, ?_⟩
  by_cases hid : d.id = docId
  · rw [if_pos hid]
    obtain ⟨hactive, hstep⟩ := h d hd hid
    refine ⟨?_, hstep, fun _ => rfl, fun hc => absurd hactive hc⟩
    cases c <;> rfl
  · rw [if_neg hid]
    exact .same rfl rfl

end Db.CountsLive

/-! ## What counting and freezing leave alone -/

/-- Counting a line rewrites it where it stands. -/
theorem docLines_setCounted (db : Db) (lineId : Int) (c : CountedColumns) (i : Int) :
    docLines (Redo.apply (.countLineSetCounted lineId c) db) i =
      (docLines db i).map fun l => if l.id = lineId then c.set l else l := by
  have hdoc : ∀ l : CountDocLine, (if l.id = lineId then c.set l else l).docId = l.docId := by
    intro l
    split <;> rfl
  show (db.countDocLines.rows.map fun l => if l.id = lineId then c.set l else l).filter
      (fun l => l.docId = i) = _
  rw [List.filter_map, docLines]
  congr 1
  exact List.filter_congr fun l _ => by simp only [Function.comp_apply, hdoc]

theorem countSheet_setCounted (db : Db) (lineId : Int) (c : CountedColumns) (i : Int) :
    countSheet (Redo.apply (.countLineSetCounted lineId c) db) i = countSheet db i := by
  rw [countSheet, docLines_setCounted, List.map_map, countSheet]
  refine List.map_congr_left fun l _ => ?_
  show ((if l.id = lineId then c.set l else l).uncounted,
    snapshotsOf db (if l.id = lineId then c.set l else l).id) = (l.uncounted, snapshotsOf db l.id)
  split <;> rfl

/-- Counting lines of one document changes no sheet, and no line of another
document. -/
theorem run_updateLines_sheet {docId : Int} {ps : List CountDocLineCountPatch} {u : Unit}
    (h : (updateLines docId ps).run db = .ok (u, db')) (i : Int) :
    countSheet db' i = countSheet db i ∧ (i ≠ docId → docLines db' i = docLines db i) := by
  induction ps generalizing db with
  | nil => cases h; exact ⟨rfl, fun _ => rfl⟩
  | cons p ps ih =>
      simp only [updateLines, Prog.run_bind_ok, Tx.run_select, Tx.run_requireSome_ok] at h
      obtain ⟨_, _, hread, line, _, ⟨hline, rfl⟩, _, _, hread', uom, _, ⟨_, rfl⟩, _, db₁, hupd,
        hrest⟩ := h
      cases hread
      cases hread'
      obtain ⟨hlookup, hdoc⟩ := Option.filter_eq_some_iff.mp hline
      obtain ⟨hmem, -⟩ := Table.lookup_eq_some.mp hlookup
      obtain ⟨ihs, ihl⟩ := ih hrest
      rcases run_updateCountLine_ok hupd with rfl | rfl
      · exact ⟨ihs, ihl⟩
      · -- the counted line is one of the document's own
        have hown : ∀ l ∈ db.countDocLines.rows, l.id = line.id → l.docId = docId := by
          intro l hl hid
          rw [db.countDocLines.eq_of_key hl hmem hid]
          exact of_decide_eq_true hdoc
        refine ⟨ihs.trans ?_, fun hne => (ihl hne).trans ?_⟩
        · exact countSheet_setCounted _ _ _ _
        · rw [docLines_setCounted]
          refine (List.map_congr_left fun l hl => ?_).trans (List.map_id _)
          obtain ⟨hl, hi⟩ := List.mem_filter.mp hl
          have hno : l.id ≠ line.id := fun hid =>
            hne ((of_decide_eq_true hi).symm.trans (hown l hl hid))
          rw [if_neg hno]
          rfl

/-- A freeze begins the sheet of a draft and leaves the other documents alone. -/
theorem Froze.countsLive {docId : Int} {lineId : Nat → Int} (hf : Froze db docId lineId d db')
    (hok : CountsOk db) : db.CountsLive db' := by
  obtain ⟨hdoc, hdocId⟩ := Table.lookup_eq_some.mp hf.doc
  intro e he
  refine ⟨_, by rw [hf.docs]; exact List.mem_map.mpr ⟨e, he, rfl⟩, ?_⟩
  by_cases hid : e.id = docId
  · rw [if_pos hid]
    have hdraft : e.status = .draft := by
      rw [db.countDocs.eq_of_key he hdoc (hid.trans hdocId.symm)]
      exact hf.draft
    refine ⟨rfl, ?_, fun hne => absurd hdraft hne, fun hc => absurd ?_ hc⟩
    · rw [hdraft]
      exact .single .freeze
    · rw [CountDoc.Active, hdraft]
      simp
  · rw [if_neg hid]
    have hlines : docLines db' e.id = docLines db e.id := by
      rw [docLines, hf.lines, List.filter_append, List.filter_filter]
      have hnew : (countLinesOf db docId d.warehouseId lineId).filter
          (fun l => l.docId = e.id) = [] := by
        rw [List.filter_eq_nil_iff]
        intro l hl heq
        obtain ⟨_, _, hld, -⟩ := mem_countLinesOf hl
        exact hid ((of_decide_eq_true heq).symm.trans hld)
      rw [hnew, List.append_nil, docLines]
      refine List.filter_congr fun l _ => ?_
      rw [Bool.eq_iff_iff, Bool.and_eq_true, decide_eq_true_eq, decide_eq_true_eq]
      exact ⟨And.left, fun h => ⟨h, fun hld => hid (h.symm.trans hld)⟩⟩
    refine .same hlines ?_
    rw [countSheet, hlines, countSheet]
    refine List.map_congr_left fun l hl => ?_
    obtain ⟨hl, hld⟩ := List.mem_filter.mp hl
    have hne : l.docId ≠ docId := fun hc => hid ((of_decide_eq_true hld).symm.trans hc)
    rw [hf.snapshots_old hok.snapshotLine hl hne]

/-- Between the reviewer's name and the mark, posting leaves the count tables
alone. -/
theorem PostedDoc.countTables {docId : Int} {name : String} {c : CountPostDraws} {doc : CountDoc}
    {db₂ db₃ : Db} (hp : PostedDoc db docId name c doc db₂ db₃ db') :
    db₃.countDocs = (db.reviewed docId name).countDocs ∧
      db₃.countDocLines = (db.reviewed docId name).countDocLines ∧
      db₃.countDocLineLotSnapshots = (db.reviewed docId name).countDocLineLotSnapshots := by
  obtain ⟨-, -, -, -, -, -, hev⟩ := run_insertEvent.mp hp.event
  refine ⟨?docs, ?lines, ?snapshots⟩
  case docs =>
    rw [run_postLines_frame (f := Db.countDocs)
      (fun u d hu => Redo.apply_countDocs (by rw [hu]; intro hc; cases hc)) hp.post, hev]
    rfl
  case lines =>
    rw [run_postLines_frame (f := Db.countDocLines)
      (fun u d hu => Redo.apply_countDocLines (by rw [hu]; intro hc; cases hc)) hp.post, hev]
    rfl
  case snapshots =>
    rw [run_postLines_frame (f := Db.countDocLineLotSnapshots)
      (fun u d hu => Redo.apply_countDocLineLotSnapshots (by rw [hu]; intro hc; cases hc)) hp.post,
      hev]
    rfl

/-! ## One operation -/

/-- Counting keeps a frozen document frozen, or takes it to counted. -/
theorem run_updateDocLines_live {docId : Int} {payload : CountDocLinesUpdateIn} {now : Timestamp}
    {out : CountDocLinesUpdateOut}
    (h : (updateDocLines docId payload now).run db = .ok (out, db')) : db.CountsLive db' := by
  have hrec := h
  simp only [updateDocLines, updateLineCounts, Prog.run_bind_ok, run_requireDoc_ok,
    Tx.run_require_ok, Tx.run_requireSome_ok] at hrec
  obtain ⟨d, _, ⟨hd, rfl⟩, _, _, ⟨hstatus, rfl⟩, name, _, ⟨-, rfl⟩, _, db₂,
    ⟨_, db₁, hlines, b, _, hby, hn⟩, b', db₃, hmark, _, _, hread, _, _, ⟨-, rfl⟩, _, _, hread',
    hout⟩ := hrec
  cases hn
  cases hread
  cases hread'
  cases hout
  obtain ⟨hmem, hid⟩ := Table.lookup_eq_some.mp hd
  have hdocs : db₁.countDocs = db.countDocs := (run_updateLines_ok hlines).countDocs
  have hactive : d.Active := by
    rcases List.mem_cons.mp hstatus with hs | hs
    · rw [CountDoc.Active, hs]
      simp
    · rw [CountDoc.Active, List.mem_singleton.mp hs]
      simp
  have hown : ∀ e ∈ db₁.countDocs.rows, e.id = docId → e = d := by
    intro e he heq
    rw [hdocs] at he
    exact db.countDocs.eq_of_key he hmem (heq.trans hid.symm)
  -- the lines first: only lines of this document, whose sheet stays
  have h₁ : db.CountsLive db₁ := by
    intro e he
    obtain ⟨hsheet, hother⟩ := run_updateLines_sheet hlines e.id
    refine ⟨e, hdocs ▸ he, rfl, .refl, fun _ => hsheet, fun hc => ⟨rfl, hother ?_⟩⟩
    intro heq
    rw [db.countDocs.eq_of_key he hmem (heq.trans hid.symm)] at hc
    exact hc hactive
  have hd₁ : db₁.countDocs.lookup docId = some d := by rw [hdocs]; exact hd
  obtain rfl := run_updateCountDoc_free (c := .countedBy name) hd₁ trivial hby
  have h₂ : db₁.CountsLive (Redo.apply (.countDocUpdate docId (.countedBy name)) db₁) := by
    refine .update fun e he heq => ?_
    rw [hown e he heq]
    exact ⟨hactive, .refl⟩
  rcases run_updateCountDoc_ok hmark with ⟨-, -, rfl⟩ | ⟨d', hd', hg, -, rfl⟩
  · exact h₁.trans h₂
  · refine (h₁.trans h₂).trans (.update fun e he heq => ?_)
    obtain ⟨hmem', hid'⟩ := Table.lookup_eq_some.mp hd'
    rw [Table.eq_of_key _ he hmem' (heq.trans hid'.symm)]
    refine ⟨?_, ?_⟩
    · rw [CountDoc.Active, hg.1]
      simp
    · rw [hg.1]
      exact .single .count

/-- Posting takes a counted document to posted. -/
theorem run_postDoc_live {docId : Int} {reviewedBy : String} {c : CountPostDraws}
    {out : CountDocPostOut} (h : (postDoc docId reviewedBy c).run db = .ok (out, db')) :
    db.CountsLive db' := by
  obtain ⟨doc, hdoc, hposted | hcounted⟩ := run_postDoc_status h
  · obtain rfl := run_postDoc_posted hdoc hposted h
    exact .refl _
  · obtain ⟨-, name, -, db₂, db₃, hp⟩ := (run_postDoc_ok hdoc hcounted).mp h
    obtain ⟨hmem, hid⟩ := Table.lookup_eq_some.mp hdoc
    have hactive : doc.Active := by
      rw [CountDoc.Active, hcounted]
      simp
    have h₁ : db.CountsLive (db.reviewed docId name) := by
      refine .update fun e he heq => ?_
      rw [db.countDocs.eq_of_key he hmem (heq.trans hid.symm)]
      exact ⟨hactive, .refl⟩
    obtain ⟨hd, hl, hs⟩ := hp.countTables
    have h₂ : (db.reviewed docId name).CountsLive db₃ := .frame hd hl hs
    rw [hp.done]
    refine (h₁.trans h₂).trans (.update fun e he heq => ?_)
    have hmem₃ : CountDocChange.set (.reviewedBy name) doc ∈ db₃.countDocs.rows := by
      rw [hd]
      exact (Table.lookup_eq_some.mp (lookup_countDocUpdate hdoc)).1
    rw [Table.eq_of_key _ he hmem₃ (heq.trans hid.symm)]
    refine ⟨hactive, ?_⟩
    rw [show (CountDocChange.set (.reviewedBy name) doc).status = .counted from hcounted]
    exact .single .post

/-- **Step lemma.** Every operation lets the documents live on. -/
theorem Op.countsLive {op : Op} (h : op.prog.run db = .ok ((), db')) (hok : CountsOk db) :
    db.CountsLive db' := by
  by_cases hc : Part.countDocs ∈ op.tables ∨ Part.countLines ∈ op.tables
  · cases op with
    | countCreate payload actor c =>
        obtain ⟨d, h⟩ := Tx.run_forget_ok.mp h
        obtain ⟨-, -, -, -, rfl⟩ := run_createDoc_ok h
        exact .insertDoc db d
    | countFreeze docId lineId =>
        obtain ⟨out, h⟩ := Tx.run_forget_ok.mp h
        obtain ⟨d, hf⟩ := run_freezeDoc_ok h
        exact hf.countsLive hok
    | countUpdate docId payload now =>
        obtain ⟨out, h⟩ := Tx.run_forget_ok.mp h
        exact run_updateDocLines_live h
    | countPost docId reviewedBy c =>
        obtain ⟨out, h⟩ := Tx.run_forget_ok.mp h
        exact run_postDoc_live h
    | countVoid docId =>
        obtain ⟨d, hd, hactive, rfl⟩ := run_voidDoc_ok h
        obtain ⟨hmem, hid⟩ := Table.lookup_eq_some.mp hd
        refine .update fun e he heq => ?_
        rw [db.countDocs.eq_of_key he hmem (heq.trans hid.symm)]
        exact ⟨hactive, .single (.void hactive)⟩
    | _ => simp [Op.tables] at hc
  · rw [not_or] at hc
    exact .frame (Op.run_countDocs h hc.1) (Op.run_countDocLines h hc.2)
      (Op.run_countDocLineLotSnapshots h hc.2)

end Lives

/-! ## Posted documents and the events of counts -/

/-- The event is the one that posted the document. -/
structure CountDoc.PostedBy (d : CountDoc) (e : WmsEvent) : Prop where
  status : d.status = .posted
  event : d.postedEventId = some e.id
  time : d.postedAt = some e.occurredAt
  eventType : e.eventType = .count
  kind : e.eventKind = .commit
  committed : e.status = .committed
  source : e.sourceRef = some d.countNo
  warehouse : e.warehouseId = d.warehouseId

/-- Posted documents and events of counts answer to each other, one by one. -/
structure Postings (db : Db) : Prop where
  posted : ∀ d ∈ db.countDocs.rows, d.status = .posted → ∃ e ∈ db.wmsEvents.rows, d.PostedBy e
  unposted : ∀ d ∈ db.countDocs.rows, d.status ≠ .posted → d.postedEventId = none
  events : ∀ e ∈ db.wmsEvents.rows, e.eventType = .count → ∃ d ∈ db.countDocs.rows, d.PostedBy e
  once : ∀ d ∈ db.countDocs.rows, ∀ d' ∈ db.countDocs.rows, ∀ e, d.PostedBy e → d'.PostedBy e →
    d = d'

/-- Whether a document is posted, and by what. -/
def CountDoc.posting (d : CountDoc) : Bool × Option Int :=
  (decide (d.status = .posted), d.postedEventId)

/-- Nothing is posted between two states. -/
def Db.PostingsKept (db db' : Db) : Prop :=
  ∀ d' ∈ db'.countDocs.rows, d'.posting = (false, none) ∨
    ∃ d ∈ db.countDocs.rows, d.id = d'.id ∧ d.posting = d'.posting

/-- No event of a count comes or goes between two states. -/
def Db.CountEventsKept (db db' : Db) : Prop :=
  ∀ e : WmsEvent, e.eventType = .count → (e ∈ db'.wmsEvents.rows ↔ e ∈ db.wmsEvents.rows)

section Postings
variable {db db₁ db' : Db} {op : Op}

theorem Db.PostingsKept.of_eq (h : db'.countDocs = db.countDocs) : db.PostingsKept db' :=
  fun d hd => Or.inr ⟨d, h ▸ hd, rfl, rfl⟩

theorem Db.PostingsKept.trans (h : db.PostingsKept db₁) (h' : db₁.PostingsKept db') :
    db.PostingsKept db' := by
  intro d' hd'
  rcases h' d' hd' with hnone | ⟨d₁, hd₁, hid, hpost⟩
  · exact Or.inl hnone
  · rcases h d₁ hd₁ with hnone | ⟨d, hd, hid', hpost'⟩
    · exact Or.inl (hpost ▸ hnone)
    · exact Or.inr ⟨d, hd, hid'.trans hid, hpost'.trans hpost⟩

/-- An update that posts nothing, of a document that is not posted. -/
theorem Db.PostingsKept.update {docId : Int} {c : CountDocChange}
    (h : ∀ d ∈ db.countDocs.rows, d.id = docId → (c.set d).posting = d.posting) :
    db.PostingsKept (Redo.apply (.countDocUpdate docId c) db) := by
  intro d' hd'
  obtain ⟨d, hd, rfl⟩ := List.mem_map.mp hd'
  refine Or.inr ⟨d, hd, ?_⟩
  split
  · rename_i hid
    exact ⟨(c.set_id d).symm, (h d hd hid).symm⟩
  · exact ⟨rfl, rfl⟩

/-- A step that posts nothing keeps the postings. -/
theorem Postings.kept (h : Postings db) (hlive : db.CountsLive db') (hdocs : db.PostingsKept db')
    (hevents : db.CountEventsKept db') : Postings db' := by
  -- a posted document was there before, as it is
  have hback : ∀ d' ∈ db'.countDocs.rows, d'.status = .posted → d' ∈ db.countDocs.rows := by
    intro d' hd' hp
    rcases hdocs d' hd' with hnone | ⟨d, hd, hid, hpost⟩
    · rw [CountDoc.posting, hp] at hnone
      cases hnone
    · have hdp : d.status = .posted := by
        have hdec := congrArg Prod.fst hpost
        simpa [CountDoc.posting, hp] using hdec
      rw [← db'.countDocs.eq_of_key (hlive.posted hd hdp) hd' hid]
      exact hd
  refine ⟨?posted, ?unposted, ?events, ?once⟩
  case posted =>
    intro d hd hp
    obtain ⟨e, he, hby⟩ := h.posted d (hback d hd hp) hp
    exact ⟨e, (hevents e hby.eventType).mpr he, hby⟩
  case unposted =>
    intro d' hd' hp
    rcases hdocs d' hd' with hnone | ⟨d, hd, -, hpost⟩
    · exact congrArg Prod.snd hnone
    · have hdp : d.status ≠ .posted := by
        have hdec := congrArg Prod.fst hpost
        simpa [CountDoc.posting, hp] using hdec
      exact (congrArg Prod.snd hpost).symm.trans (h.unposted d hd hdp)
  case events =>
    intro e he htype
    obtain ⟨d, hd, hby⟩ := h.events e ((hevents e htype).mp he) htype
    exact ⟨d, hlive.posted hd hby.status, hby⟩
  case once =>
    intro d hd d' hd' e hby hby'
    exact h.once d (hback d hd hby.status) d' (hback d' hd' hby'.status) e hby hby'

/-- Only a posting touches the events of counts: reversals are of other types. -/
theorem HistoryStep.countEventsKept (h : HistoryStep op db db') (hop : ¬ op.IsCountPost) :
    db.CountEventsKept db' := by
  have hreversal : ∀ {Line : Type} {side : ReversalSide Line} {original e : WmsEvent}
      {ls : List Line} {x : Additions}, side.eventType ≠ .count → e.eventType = side.eventType →
      Reverses side db original e ls x db' → db.CountEventsKept db' := by
    intro Line side original e ls x hside htype hrev
    obtain ⟨db₁, hadd, rfl⟩ := hrev.adds
    -- an event of a count is not the reversed one
    have hne : ∀ o ∈ db.wmsEvents.rows, o.eventType = .count → o.id ≠ original.id := by
      intro o ho hcount hid
      rw [db.wmsEvents.eq_of_key ho hrev.found hid, hrev.commit.1] at hcount
      exact hside hcount
    intro o hcount
    rw [mem_events_supersede]
    constructor
    · rintro ⟨o', ho', rfl⟩
      rw [WmsEvent.marked_eventType] at hcount
      rw [hadd.events, hrev.events, List.mem_append, List.mem_singleton] at ho'
      rcases ho' with ho' | rfl
      · rw [WmsEvent.marked_of_ne (hne o' ho' hcount)]
        exact ho'
      · rw [htype] at hcount
        exact absurd hcount hside
    · intro ho
      refine ⟨o, ?_, (WmsEvent.marked_of_ne (hne o ho hcount)).symm⟩
      rw [hadd.events]
      exact List.mem_append_left _ ho
  cases h with
  | quiet hadd _ =>
      intro e _
      rw [hadd.events, List.append_nil]
  | commits hc _ _ hcounts =>
      intro e htype
      rw [hc.adds.events, hc.events, List.mem_append, List.mem_singleton]
      refine ⟨fun he => he.resolve_right ?_, Or.inl⟩
      rintro rfl
      exact hcounts.elim hop fun hne => hne htype
  | outboundReversal his hrev => exact hreversal (by intro hc; cases hc) his.eventType hrev
  | inboundReversal his hrev => exact hreversal (by intro hc; cases hc) his.eventType hrev

/-- A new document has no event. -/
theorem run_createDoc_unposted {payload : CountDocCreateIn} {actor : Option Int} {c : CountDocDraws}
    {d : CountDoc} (h : (createDoc payload actor c).run db = .ok (d, db')) :
    d.postedEventId = none := by
  rw [createDoc, Prog.run_bind_ok] at h
  obtain ⟨active, _, hread, h⟩ := h
  rw [Tx.run_select] at hread
  cases hread
  split at h
  · cases h
  · rw [Prog.run_bind_ok] at h
    obtain ⟨_, _, -, hret⟩ := h
    cases hret
    rfl

theorem CountDoc.Active.not_posted {d : CountDoc} (h : d.Active) : d.status ≠ .posted := by
  intro hp
  rw [CountDoc.Active, hp] at h
  simp at h

/-- **Only `post_doc` posts.** -/
theorem Op.postingsKept (h : op.prog.run db = .ok ((), db')) (hop : ¬ op.IsCountPost) :
    db.PostingsKept db' := by
  by_cases hc : Part.countDocs ∈ op.tables
  · cases op with
    | countCreate payload actor c =>
        obtain ⟨d, h⟩ := Tx.run_forget_ok.mp h
        obtain ⟨-, hdraft, -, -, rfl⟩ := run_createDoc_ok h
        intro d' hd'
        rcases Table.mem_of_mem_insert hd' with hold | rfl
        · exact Or.inr ⟨d', hold, rfl, rfl⟩
        · exact Or.inl (by rw [CountDoc.posting, hdraft, run_createDoc_unposted h]; rfl)
    | countFreeze docId lineId =>
        obtain ⟨out, h⟩ := Tx.run_forget_ok.mp h
        obtain ⟨d, hf⟩ := run_freezeDoc_ok h
        obtain ⟨hmem, hid⟩ := Table.lookup_eq_some.mp hf.doc
        intro d' hd'
        rw [hf.docs] at hd'
        obtain ⟨e, he, rfl⟩ := List.mem_map.mp hd'
        refine Or.inr ⟨e, he, ?_⟩
        split
        · rename_i heq
          obtain rfl := db.countDocs.eq_of_key he hmem (heq.trans hid.symm)
          exact ⟨rfl, by rw [CountDoc.posting, hf.draft]; rfl⟩
        · exact ⟨rfl, rfl⟩
    | countUpdate docId payload now =>
        obtain ⟨out, h⟩ := Tx.run_forget_ok.mp h
        obtain ⟨d, name, db₁, db₂, -, -, -, hrec, rfl, hdone⟩ := run_updateDocLines_ok h
        have h₂ : db.PostingsKept (Redo.apply (.countDocUpdate docId (.countedBy name)) db₁) :=
          (Db.PostingsKept.of_eq hrec.countDocs).trans (.update fun _ _ _ => rfl)
        rcases hdone with rfl | ⟨d', hd', hg, rfl⟩
        · exact h₂
        · refine h₂.trans (.update fun e he heq => ?_)
          obtain ⟨hmem, hid⟩ := Table.lookup_eq_some.mp hd'
          rw [Table.eq_of_key _ he hmem (heq.trans hid.symm), CountDoc.posting, CountDoc.posting,
            hg.1]
          rfl
    | countPost docId reviewedBy c => exact absurd trivial hop
    | countVoid docId =>
        obtain ⟨d, hd, hactive, rfl⟩ := run_voidDoc_ok h
        obtain ⟨hmem, hid⟩ := Table.lookup_eq_some.mp hd
        refine .update fun e he heq => ?_
        rw [db.countDocs.eq_of_key he hmem (heq.trans hid.symm), CountDoc.posting, CountDoc.posting,
          decide_eq_false hactive.not_posted]
        rfl
    | _ => simp [Op.tables] at hc
  · exact .of_eq (Op.run_countDocs h hc)

/-- Posting adds one event, and the document it posts answers to it. -/
theorem Postings.post (h : Postings db) {docId : Int} {name : String} {c : CountPostDraws}
    {doc : CountDoc} {db₂ db₃ : Db} (hp : PostedDoc db docId name c doc db₂ db₃ db') :
    Postings db' := by
  obtain ⟨hmem, hid⟩ := Table.lookup_eq_some.mp hp.found
  obtain ⟨-, hnew, -, -, -, -, hev⟩ := run_insertEvent.mp hp.event
  obtain ⟨hdocs₃, -, -⟩ := hp.countTables
  have hunposted : doc.status ≠ .posted := by
    rw [hp.counted]
    simp
  have hevents : ∀ e, e ∈ db'.wmsEvents.rows ↔ e ∈ db.wmsEvents.rows ∨
      e = (CountDocChange.set (.reviewedBy name) doc).postEvent c := by
    intro e
    have hev₃ : db₃.wmsEvents = db₂.wmsEvents := run_postLines_frame (f := Db.wmsEvents)
      (fun u d hu => Redo.apply_wmsEvents (by rw [hu]; intro hc; cases hc)) hp.post
    have hev' : db'.wmsEvents = db₃.wmsEvents := by rw [hp.done]; rfl
    rw [hev', hev₃, hev]
    show e ∈ ((db.reviewed docId name).wmsEvents.insert _).rows ↔ _
    rw [Table.rows_insert_new hnew, List.mem_append, List.mem_singleton]
    rfl
  have hdocs : ∀ d, d ∈ db'.countDocs.rows ↔ d ∈ db.countDocs.rows ∧ d.id ≠ docId ∨
      d = CountDocChange.set (.posted c.eventId c.postedAt)
        (CountDocChange.set (.reviewedBy name) doc) := by
    intro d
    rw [hp.done]
    show d ∈ (db₃.countDocs.rows.map fun d => if d.id = docId then _ else d) ↔ _
    rw [hdocs₃, List.mem_map]
    constructor
    · rintro ⟨d₁, hd₁, rfl⟩
      obtain ⟨d₀, hd₀, rfl⟩ := List.mem_map.mp hd₁
      by_cases heq : d₀.id = docId
      · obtain rfl := db.countDocs.eq_of_key hd₀ hmem (heq.trans hid.symm)
        rw [if_pos heq]
        exact Or.inr (if_pos heq)
      · rw [if_neg heq, if_neg heq]
        exact Or.inl ⟨hd₀, heq⟩
    · rintro (⟨hd, hne⟩ | rfl)
      · exact ⟨d, List.mem_map.mpr ⟨d, hd, if_neg hne⟩, if_neg hne⟩
      · exact ⟨_, List.mem_map.mpr ⟨doc, hmem, if_pos hid⟩, if_pos hid⟩
  -- an old document is not posted by the new event
  have hold : ∀ d ∈ db.countDocs.rows, ∀ e, d.PostedBy e → e.id ≠ c.eventId := by
    intro d hd e hby heq
    obtain ⟨e₀, he₀, hby₀⟩ := h.posted d hd hby.status
    have hids : e₀.id = e.id := Option.some.inj (hby₀.event.symm.trans hby.event)
    exact hnew ⟨e₀, he₀, hids.trans heq⟩
  have hbynew : CountDoc.PostedBy (CountDocChange.set (.posted c.eventId c.postedAt)
      (CountDocChange.set (.reviewedBy name) doc))
      ((CountDocChange.set (.reviewedBy name) doc).postEvent c) :=
    ⟨rfl, rfl, rfl, rfl, rfl, rfl, rfl, rfl⟩
  refine ⟨?posted, ?unposted, ?events, ?once⟩
  case posted =>
    intro d hd hpst
    rcases (hdocs d).mp hd with ⟨hd, -⟩ | rfl
    · obtain ⟨e, he, hby⟩ := h.posted d hd hpst
      exact ⟨e, (hevents e).mpr (Or.inl he), hby⟩
    · exact ⟨_, (hevents _).mpr (Or.inr rfl), hbynew⟩
  case unposted =>
    intro d hd hpst
    rcases (hdocs d).mp hd with ⟨hd, -⟩ | rfl
    · exact h.unposted d hd hpst
    · exact absurd rfl hpst
  case events =>
    intro e he htype
    rcases (hevents e).mp he with he | rfl
    · obtain ⟨d, hd, hby⟩ := h.events e he htype
      refine ⟨d, (hdocs d).mpr (Or.inl ⟨hd, fun heq => hunposted ?_⟩), hby⟩
      rw [← db.countDocs.eq_of_key hd hmem (heq.trans hid.symm)]
      exact hby.status
    · exact ⟨_, (hdocs _).mpr (Or.inr rfl), hbynew⟩
  case once =>
    intro d hd d' hd' e hby hby'
    rcases (hdocs d).mp hd with ⟨hd, -⟩ | rfl <;> rcases (hdocs d').mp hd' with ⟨hd', -⟩ | rfl
    · exact h.once d hd d' hd' e hby hby'
    · exact absurd (Option.some.inj hby'.event).symm (hold d hd e hby)
    · exact absurd (Option.some.inj hby.event).symm (hold d' hd' e hby')
    · rfl

/-- **Step lemma.** Every operation keeps the postings. -/
theorem Postings.step (h : Postings db) (hok : CountsOk db) (hfresh : op.Fresh db)
    (hrun : op.prog.run db = .ok ((), db')) : Postings db' := by
  by_cases hop : op.IsCountPost
  · cases op with
    | countPost docId reviewedBy c =>
        obtain ⟨out, hpost⟩ := Tx.run_forget_ok.mp hrun
        obtain ⟨doc, hdoc, hposted | hcounted⟩ := run_postDoc_status hpost
        · obtain rfl := run_postDoc_posted hdoc hposted hpost
          exact h
        · obtain ⟨-, name, -, db₂, db₃, hp⟩ := (run_postDoc_ok hdoc hcounted).mp hpost
          exact h.post hp
    | _ => exact absurd hop id
  · exact h.kept (Op.countsLive hrun hok) (Op.postingsKept hrun hop)
      ((Op.historyStep hfresh hrun).countEventsKept hop)

end Postings

/-! ## Every run -/

section Runs
variable {allowed : Db → Op → Prop} {db db' : Db}

theorem Db.Start.postings (h : db.Start) : Postings db := by
  have hdocs : ∀ d, d ∉ db.countDocs.rows := by
    intro d hd
    rw [h.countDocs] at hd
    cases hd
  have hevents : ∀ e, e ∉ db.wmsEvents.rows := by
    intro e he
    rw [h.wmsEvents] at he
    cases he
  exact ⟨fun d hd => absurd hd (hdocs d), fun d hd => absurd hd (hdocs d),
    fun e he => absurd he (hevents e), fun d hd => absurd hd (hdocs d)⟩

theorem ReachableBy.postings (h : ReachableBy allowed db) : Postings db :=
  h.invariant (fun _ hs => hs.postings) fun _ _ _ hreach hfresh _ hI hrun =>
    hI.step hreach.countsOk hfresh hrun

/-- A run may go on. -/
theorem ReachableBy.serial (h : ReachableBy allowed db)
    (hrun : Serial Op.prog (fun db op => op.Fresh db ∧ allowed db op) db db') :
    ReachableBy allowed db' := by
  obtain ⟨db₀, hs, h⟩ := h
  exact ⟨db₀, hs, h.trans hrun⟩

/-- Allowed calls one after another are a run. -/
theorem Op.AllAllowed.serial {ops : List Op} (hops : Op.AllAllowed allowed db ops) :
    Serial Op.prog (fun db op => op.Fresh db ∧ allowed db op) db (Op.commits db ops) := by
  induction ops generalizing db with
  | nil => exact .start
  | cons op rest ih => exact Serial.trans (.call op .start hops.1) (ih hops.2)

/-- **Run lemma.** However a run goes on, the documents live on. -/
theorem ReachableBy.countsLive (h : ReachableBy allowed db)
    (hrun : Serial Op.prog (fun db op => op.Fresh db ∧ allowed db op) db db') :
    db.CountsLive db' :=
  hrun.invariant (I := db.CountsLive) (.refl db) fun _ _ _ hw _ hI hstep =>
    hI.trans (Op.countsLive hstep (h.serial hw).countsOk)

end Runs

end WmsDu
