import WmsDu.Count.Sheet
import WmsDu.System.Writes

/-!
# What the count services did

One lemma a service of the count documents: what a call that succeeded had
found, and the records it applied.
-/

namespace WmsDu

open Txn

variable {db db' : Db}

/-! ## Create and void -/

theorem run_insertCountDoc_ok {d : CountDoc} {u : Unit}
    (h : (Prog.exec (.insertCountDoc d) : Tx Unit).run db = .ok (u, db')) :
    ¬ db.countDocs.HasKey d.id ∧ db' = Redo.apply (.countDocInsert d) db := by
  obtain ⟨us, hexec, rfl⟩ := Prog.run_exec_ok.mp h
  simp only [Database.exec, Sql.exec, violated] at hexec
  split at hexec
  · cases hexec
  · rename_i hk
    (repeat' split at hexec) <;> cases hexec
    exact ⟨hk, rfl⟩

/-- A document that is not closed. -/
def CountDoc.Active (d : CountDoc) : Prop := d.status ∈ [.draft, .frozen, .counted]

instance (d : CountDoc) : Decidable d.Active := inferInstanceAs (Decidable (_ ∈ _))

theorem activeDocByWarehouse_eq_none {w : Int} :
    activeDocByWarehouse db w = none ↔ ∀ d ∈ db.countDocs.rows, d.warehouseId = w → ¬ d.Active := by
  have hempty : activeDocByWarehouse db w = none ↔
      db.countDocs.rows.filter (fun d => d.warehouseId = w ∧
        d.status ∈ [CountDocStatus.draft, .frozen, .counted]) = [] := by
    rw [activeDocByWarehouse, List.head?_eq_none_iff, ← List.length_eq_zero_iff,
      List.length_insertionSort, List.length_eq_zero_iff]
  rw [hempty, List.filter_eq_nil_iff]
  constructor
  · intro h d hd hw hactive
    exact h d hd (decide_eq_true ⟨hw, hactive⟩)
  · intro h d hd hdec
    have hd' := of_decide_eq_true hdec
    exact h d hd hd'.1 hd'.2

/-- A document is created in a warehouse without an active one. -/
theorem run_createDoc_ok {payload : CountDocCreateIn} {actor : Option Int} {c : CountDocDraws}
    {d : CountDoc} (h : (createDoc payload actor c).run db = .ok (d, db')) :
    d.warehouseId = payload.warehouseId ∧ d.status = .draft ∧ ¬ db.countDocs.HasKey d.id ∧
      (∀ d' ∈ db.countDocs.rows, d'.warehouseId = d.warehouseId → ¬ d'.Active) ∧
      db' = Redo.apply (.countDocInsert d) db := by
  rw [createDoc, Prog.run_bind_ok] at h
  obtain ⟨active, _, hread, h⟩ := h
  rw [Tx.run_select] at hread
  cases hread
  split at h
  · cases h
  · rename_i hnone
    rw [Prog.run_bind_ok] at h
    obtain ⟨_, _, hins, hret⟩ := h
    obtain ⟨hk, rfl⟩ := run_insertCountDoc_ok hins
    cases hret
    exact ⟨rfl, rfl, hk, activeDocByWarehouse_eq_none.mp hnone, rfl⟩

/-- An update that has to happen did. -/
theorem run_updateCountDoc_done {docId : Int} {c : CountDocChange} {e : Err} {u : Unit}
    (h : (Prog.exec (.updateCountDoc docId c) >>= fun done => Tx.require (done = true) e : Tx Unit).run
      db = .ok (u, db')) :
    ∃ d, db.countDocs.lookup docId = some d ∧ c.guard db d ∧
      db' = Redo.apply (.countDocUpdate docId c) db := by
  rw [Prog.run_bind_ok] at h
  obtain ⟨b, _, hupd, hreq⟩ := h
  obtain ⟨hb, rfl⟩ := Tx.run_require_ok.mp hreq
  rcases run_updateCountDoc_ok hupd with ⟨hfalse, -⟩ | ⟨d, hd, hg, -, hdb⟩
  · rw [hb] at hfalse; cases hfalse
  · exact ⟨d, hd, hg, hdb⟩

theorem run_voidDoc_ok {docId : Int} {u : Unit} (h : (voidDoc docId).run db = .ok (u, db')) :
    ∃ d, db.countDocs.lookup docId = some d ∧ d.Active ∧
      db' = Redo.apply (.countDocUpdate docId .voided) db := by
  simp only [voidDoc, Prog.run_bind_ok, run_requireDoc_ok, Tx.run_require_ok] at h
  obtain ⟨_, _, ⟨_, rfl⟩, _, _, ⟨_, rfl⟩, h⟩ := h
  exact run_updateCountDoc_done h

/-! ## Counting -/

/-- A sequence of countings of lines. -/
inductive Recounts : Db → Db → Prop
  | nil (db : Db) : Recounts db db
  | cons {db db' : Db} (lineId : Int) (c : CountedColumns) :
      Recounts (Redo.apply (.countLineSetCounted lineId c) db) db' → Recounts db db'

theorem run_updateCountLine_ok {lineId : Int} {c : CountedColumns} {u : Unit}
    (h : (Prog.exec (.updateCountLine lineId c) : Tx Unit).run db = .ok (u, db')) :
    db' = db ∨ db' = Redo.apply (.countLineSetCounted lineId c) db := by
  obtain ⟨us, hexec, rfl⟩ := Prog.run_exec_ok.mp h
  simp only [Database.exec, Sql.exec, violated] at hexec
  (repeat' split at hexec) <;> cases hexec
  · exact Or.inl rfl
  · exact Or.inr rfl

theorem run_updateLines_ok {docId : Int} {ps : List CountDocLineCountPatch} {u : Unit}
    (h : (updateLines docId ps).run db = .ok (u, db')) : Recounts db db' := by
  induction ps generalizing db with
  | nil => cases h; exact .nil _
  | cons p ps ih =>
      simp only [updateLines, Prog.run_bind_ok, Tx.run_select, Tx.run_requireSome_ok] at h
      obtain ⟨_, _, hread, line, _, ⟨_, rfl⟩, _, _, hread', u, _, ⟨_, rfl⟩, _, db₁, hupd, hrest⟩ := h
      cases hread
      cases hread'
      rcases run_updateCountLine_ok hupd with rfl | rfl
      · exact ih hrest
      · exact .cons _ _ (ih hrest)

theorem Recounts.preserves {I : Db → Prop}
    (hI : ∀ db lineId c, I db → I (Redo.apply (.countLineSetCounted lineId c) db))
    (h : Recounts db db') (hdb : I db) : I db' := by
  induction h with
  | nil db => exact hdb
  | cons lineId c _ ih => exact ih (hI _ lineId c hdb)

theorem Recounts.countDocs (h : Recounts db db') : db'.countDocs = db.countDocs :=
  h.preserves (I := fun d => d.countDocs = db.countDocs) (fun _ _ _ hd => hd) rfl

/-- An update without a guard, of a document that is there. -/
theorem run_updateCountDoc_free {docId : Int} {c : CountDocChange} {b : Bool} {d : CountDoc}
    (hd : db.countDocs.lookup docId = some d) (hg : c.guard db d)
    (h : (Prog.exec (.updateCountDoc docId c) : Tx Bool).run db = .ok (b, db')) :
    db' = Redo.apply (.countDocUpdate docId c) db := by
  rcases run_updateCountDoc_ok h with ⟨-, hno, -⟩ | ⟨_, _, _, _, hdb⟩
  · exact absurd hg (hno d hd)
  · exact hdb

/-- What an update of lines did: it counted lines, set the counter's name and
tried to mark the document counted. -/
theorem run_updateDocLines_ok {docId : Int} {payload : CountDocLinesUpdateIn} {now : Timestamp}
    {out : CountDocLinesUpdateOut}
    (h : (updateDocLines docId payload now).run db = .ok (out, db')) :
    ∃ d name db₁ db₂, db.countDocs.lookup docId = some d ∧ d.status ∈ [.frozen, .counted] ∧
      cleanText (some payload.countedByNameSnapshot) = some name ∧ Recounts db db₁ ∧
      db₂ = Redo.apply (.countDocUpdate docId (.countedBy name)) db₁ ∧
      (db' = db₂ ∨ ∃ d', db₂.countDocs.lookup docId = some d' ∧
        (CountDocChange.counted now).guard db₂ d' ∧
        db' = Redo.apply (.countDocUpdate docId (.counted now)) db₂) := by
  simp only [updateDocLines, updateLineCounts, setCountedBy, tryMarkDocCounted, Prog.run_bind_ok,
    run_requireDoc_ok, Tx.run_require_ok, Tx.run_requireSome_ok, Tx.run_select] at h
  obtain ⟨d, _, ⟨hd, rfl⟩, _, _, ⟨hstatus, rfl⟩, name, _, ⟨hname, rfl⟩, _, db₂,
    ⟨_, db₁, hlines, b, _, hby, hn⟩, b', db₃, hmark, _, _, hread, detail, _, ⟨_, rfl⟩, _, _,
    hread', hout⟩ := h
  cases hn
  cases hread
  cases hread'
  cases hout
  have hrec := run_updateLines_ok hlines
  have hd₁ : db₁.countDocs.lookup docId = some d := by rw [hrec.countDocs]; exact hd
  have h₂ := run_updateCountDoc_free (c := .countedBy name) hd₁ trivial hby
  refine ⟨d, name, db₁, db₂, hd, hstatus, hname, hrec, h₂, ?_⟩
  rcases run_updateCountDoc_ok hmark with ⟨-, -, rfl⟩ | ⟨d', hd', hg, -, rfl⟩
  · exact Or.inl rfl
  · exact Or.inr ⟨d', hd', hg, rfl⟩

/-! ## Posting -/

theorem run_requireAllCounted_ok {lines : List CountDocLine} {u : Unit} :
    (requireAllCounted lines).run db = .ok (u, db') ↔
      (∀ l ∈ lines, l.countedQtyBase ≠ none ∧ l.diffQtyBase ≠ none) ∧ db = db' := by
  induction lines generalizing db with
  | nil => simp [requireAllCounted]
  | cons l lines ih =>
      simp only [requireAllCounted, Prog.run_bind_ok, Tx.run_require_ok, ih, List.forall_mem_cons]
      constructor
      · rintro ⟨_, _, ⟨hl, rfl⟩, hls, rfl⟩
        exact ⟨⟨hl, hls⟩, rfl⟩
      · rintro ⟨⟨hl, hls⟩, rfl⟩
        exact ⟨(), _, ⟨hl, rfl⟩, hls, rfl⟩

/-- The document and the state in which the lines are posted: the reviewer's
name is set. -/
def Db.reviewed (db : Db) (docId : Int) (name : String) : Db :=
  Redo.apply (.countDocUpdate docId (.reviewedBy name)) db

/-- What the posting of a counted document went through. -/
structure PostedDoc (db : Db) (docId : Int) (name : String) (c : CountPostDraws) (doc : CountDoc)
    (db₂ db₃ db' : Db) : Prop where
  found : db.countDocs.lookup docId = some doc
  counted : doc.status = .counted
  countedBy : cleanText doc.countedByNameSnapshot ≠ none
  reviewedBy : cleanText (some (strip name)) ≠ none
  lines : docLines db docId ≠ []
  allCounted : ∀ l ∈ docLines db docId, l.countedQtyBase ≠ none ∧ l.diffQtyBase ≠ none
  event : (Prog.exec (.insertEvent ((CountDocChange.set (.reviewedBy name) doc).postEvent c)) :
    Tx Unit).run (db.reviewed docId name) = .ok ((), db₂)
  post : (postLines ((CountDocChange.set (.reviewedBy name) doc).postContext c)
    (docLines db docId)).run db₂ = .ok ((), db₃)
  done : db' = Redo.apply (.countDocUpdate docId (.posted c.eventId c.postedAt)) db₃

/-- A document that has its change made reads back changed. -/
theorem lookup_countDocUpdate {docId : Int} {c : CountDocChange} {d : CountDoc}
    (hd : db.countDocs.lookup docId = some d) :
    (Redo.apply (.countDocUpdate docId c) db).countDocs.lookup docId = some (c.set d) := by
  obtain ⟨hmem, hid⟩ := Table.lookup_eq_some.mp hd
  refine Table.lookup_eq_some.mpr ⟨?_, (c.set_id d).trans hid⟩
  exact List.mem_map.mpr ⟨d, hmem, if_pos hid⟩

/-- An update whose guard holds goes through. -/
theorem run_updateCountDoc_of {docId : Int} {c : CountDocChange} {d : CountDoc}
    (hd : db.countDocs.lookup docId = some d) (hg : c.guard db d)
    (hfk : ∀ e, c.postedEventId = some e → db.wmsEvents.HasKey e) :
    (Prog.exec (.updateCountDoc docId c) : Tx Bool).run db =
      .ok (true, Redo.apply (.countDocUpdate docId c) db) := by
  refine Prog.run_exec_ok.mpr ⟨[.countDocUpdate docId c], ?_, rfl⟩
  simp only [Database.exec, Sql.exec, violated, hd, if_pos hg]
  rw [if_neg]
  rintro ⟨e, he, hne⟩
  exact hne (hfk e he)

/-- Posting the lines leaves what is not in the books alone. -/
theorem run_postLines_frame {ctx : CountPostContext} {lines : List CountDocLine} {u : Unit}
    {γ : Type} {f : Db → γ}
    (hf : ∀ (u : Redo) (db : Db), u.part = .books ctx.warehouseId → f (u.apply db) = f db)
    (h : (postLines ctx lines).run db = .ok (u, db')) : f db' = f db :=
  (within_postLines (T := fun p => p = .books ctx.warehouseId) rfl lines).frame hf h

/-- **A counted document is posted exactly when its names and counts are
there, its event can be written and its lines can be posted.** -/
theorem run_postDoc_ok {docId : Int} {reviewedBy : String} {c : CountPostDraws} {doc : CountDoc}
    {out : CountDocPostOut} (hdoc : db.countDocs.lookup docId = some doc)
    (hstatus : doc.status = .counted) :
    (postDoc docId reviewedBy c).run db = .ok (out, db') ↔
      out = ⟨docId, c.eventId, c.postedAt⟩ ∧ ∃ name, cleanText (some reviewedBy) = some name ∧
        ∃ db₂ db₃, PostedDoc db docId name c doc db₂ db₃ db' := by
  have hid : doc.id = docId := (Table.lookup_eq_some.mp hdoc).2
  have hnot : ¬ doc.status = .posted := by rw [hstatus]; decide
  simp only [postDoc, Prog.run_bind_ok, run_requireDoc_ok]
  constructor
  · rintro ⟨doc', _, ⟨hdoc', rfl⟩, h⟩
    obtain rfl : doc = doc' := Option.some.inj (hdoc.symm.trans hdoc')
    simp only [if_neg hnot, postCounted, setReviewedBy, markDocPosted, Prog.run_bind_ok,
      Tx.run_require_ok, Tx.run_requireSome_ok, run_requireDoc_ok, Tx.run_select,
      run_requireAllCounted_ok] at h
    obtain ⟨_, _, ⟨_, rfl⟩, name, _, ⟨hname, rfl⟩, b, db₁, hrev, d, _, ⟨hd, rfl⟩, _, _, ⟨hby, rfl⟩,
      _, _, ⟨hrby, rfl⟩, _, _, hread, _, _, ⟨hne, rfl⟩, _, _, ⟨hall, rfl⟩, _, db₂, hevent, _, db₃,
      hpost, _, db₄, ⟨done, _, hmark, hdone, rfl⟩, hout⟩ := h
    cases hread
    cases hout
    obtain rfl := run_updateCountDoc_free (c := .reviewedBy name) hdoc trivial hrev
    obtain rfl : CountDocChange.set (.reviewedBy name) doc = d :=
      Option.some.inj ((lookup_countDocUpdate hdoc).symm.trans hd)
    have hid' : (CountDocChange.set (.reviewedBy name) doc).id = docId := hid
    rw [hid'] at hmark ⊢
    refine ⟨rfl, name, hname, db₂, db₃, hdoc, hstatus, hby, hrby, ?_, hall, hevent, hpost, ?_⟩
    · intro hnil
      have hnil' : docLines (Redo.apply (.countDocUpdate docId (.reviewedBy name)) db) docId = [] :=
        hnil
      rw [hnil'] at hne
      cases hne
    · rcases run_updateCountDoc_ok hmark with ⟨hfalse, -⟩ | ⟨_, _, _, _, hdb⟩
      · rw [hdone] at hfalse; cases hfalse
      · exact hdb
  · rintro ⟨rfl, name, hname, db₂, db₃, h⟩
    refine ⟨doc, db, ⟨hdoc, rfl⟩, ?_⟩
    have hid' : (CountDocChange.set (.reviewedBy name) doc).id = docId := hid
    -- the document and the event are still there when it is marked posted
    have hd₃ : db₃.countDocs.lookup docId = some (CountDocChange.set (.reviewedBy name) doc) := by
      have hdocs₂ : db₂.countDocs = (db.reviewed docId name).countDocs := by
        obtain ⟨-, -, -, -, -, -, rfl⟩ := run_insertEvent.mp h.event
        rfl
      have hdocs₃ : db₃.countDocs = db₂.countDocs :=
        run_postLines_frame (f := Db.countDocs)
          (fun u d hu => Redo.apply_countDocs (by rw [hu]; rintro ⟨⟩)) h.post
      rw [hdocs₃, hdocs₂]
      exact lookup_countDocUpdate hdoc
    have hevent : db₃.wmsEvents.HasKey c.eventId := by
      have hev₃ : db₃.wmsEvents = db₂.wmsEvents :=
        run_postLines_frame (f := Db.wmsEvents)
          (fun u d hu => Redo.apply_wmsEvents (by rw [hu]; rintro ⟨⟩)) h.post
      obtain ⟨-, -, -, -, -, -, rfl⟩ := run_insertEvent.mp h.event
      rw [hev₃]
      exact Table.hasKey_insert.mpr (Or.inr rfl)
    have hmark := run_updateCountDoc_of (c := .posted c.eventId c.postedAt) hd₃ hstatus
      (fun e he => by cases he; exact hevent)
    have hcounted : cleanText
        (CountDocChange.set (.reviewedBy name) doc).countedByNameSnapshot ≠ none := h.countedBy
    have hreviewed : cleanText
        (CountDocChange.set (.reviewedBy name) doc).reviewedByNameSnapshot ≠ none := h.reviewedBy
    have hkept : docLines (Redo.apply (.countDocUpdate docId (.reviewedBy name)) db) docId =
        docLines db docId := rfl
    have hlines : (docLines db docId).isEmpty = false := by
      cases hl : docLines db docId with
      | nil => exact absurd hl h.lines
      | cons l ls => rfl
    rw [if_neg hnot, Prog.run_bind_of_ok (Tx.run_require_of hstatus),
      Prog.run_bind_of_ok (Tx.run_requireSome_ok.mpr ⟨hname, rfl⟩), postCounted, setReviewedBy,
      Prog.run_bind_of_ok (run_updateCountDoc_of (c := .reviewedBy name) hdoc trivial
        (fun e he => by cases he)),
      Prog.run_bind_of_ok (run_requireDoc_ok.mpr ⟨lookup_countDocUpdate hdoc, rfl⟩),
      Prog.run_bind_of_ok (Tx.run_require_of hcounted),
      Prog.run_bind_of_ok (Tx.run_require_of hreviewed),
      Prog.run_bind_of_ok (Tx.run_select _ _), hkept,
      Prog.run_bind_of_ok (Tx.run_require_of hlines),
      Prog.run_bind_of_ok ((run_requireAllCounted_ok (u := ())).mpr ⟨h.allCounted, rfl⟩)]
    have hevent' := h.event
    rw [Db.reviewed] at hevent'
    rw [Prog.run_bind_of_ok hevent', Prog.run_bind_of_ok h.post, hid']
    have hdone : (markDocPosted docId c.eventId c.postedAt).run db₃ = .ok ((), db') := by
      rw [markDocPosted, Prog.run_bind_of_ok hmark, h.done]
      rfl
    rw [Prog.run_bind_of_ok hdone]
    rfl

/-- Posting a posted document writes nothing. -/
theorem run_postDoc_posted {docId : Int} {reviewedBy : String} {c : CountPostDraws}
    {doc : CountDoc} {out : CountDocPostOut} (hdoc : db.countDocs.lookup docId = some doc)
    (hstatus : doc.status = .posted) (h : (postDoc docId reviewedBy c).run db = .ok (out, db')) :
    db' = db := by
  rw [postDoc, Prog.run_bind_of_ok (run_requireDoc_ok.mpr ⟨hdoc, rfl⟩), if_pos hstatus] at h
  split at h
  · cases h; rfl
  · cases h

/-- Only a posted or a counted document is posted. -/
theorem run_postDoc_status {docId : Int} {reviewedBy : String} {c : CountPostDraws}
    {out : CountDocPostOut} (h : (postDoc docId reviewedBy c).run db = .ok (out, db')) :
    ∃ doc, db.countDocs.lookup docId = some doc ∧
      (doc.status = .posted ∨ doc.status = .counted) := by
  simp only [postDoc, Prog.run_bind_ok, run_requireDoc_ok] at h
  obtain ⟨doc, _, ⟨hdoc, rfl⟩, h⟩ := h
  refine ⟨doc, hdoc, ?_⟩
  by_cases hp : doc.status = .posted
  · exact Or.inl hp
  · simp only [if_neg hp, Prog.run_bind_ok, Tx.run_require_ok] at h
    obtain ⟨_, _, ⟨hc, rfl⟩, -⟩ := h
    exact Or.inr hc

end WmsDu
