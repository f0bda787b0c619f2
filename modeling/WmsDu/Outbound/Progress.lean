import WmsDu.Stock.Adds
import WmsDu.System.Writes

/-!
# Progress of a manual document

What a submit adds to the quantities shipped for the lines of a manual
document, and when it completes the document.
-/

namespace WmsDu

open Txn Tx

/-! ## Quantities -/

/-- What a payload ships for one line of the document. -/
def OutboundSubmitIn.qtyFor (payload : OutboundSubmitIn) (docLineId : Int) : Int :=
  sumOver (fun l : OutboundSubmitLineIn => l.docLineId = docLineId)
    OutboundSubmitLineIn.qtyOutbound payload.lines

/-- Every line of the document is shipped as far as requested, or less. -/
def Db.WithinRequest (db : Db) (docId : Int) : Prop :=
  ∀ l ∈ db.manualOutboundLines.rows, l.docId = docId → manualSubmittedQty db l.id ≤ l.requestedQty

/-- Every line of the document is shipped as far as requested, or more. -/
def Db.ManualDone (db : Db) (docId : Int) : Prop :=
  ∀ l ∈ db.manualOutboundLines.rows, l.docId = docId → l.requestedQty ≤ manualSubmittedQty db l.id

def Db.ManualStatus (db : Db) (docId : Int) (s : ManualDocStatus) : Prop :=
  ∃ d ∈ db.manualOutboundDocs.rows, d.id = docId ∧ d.status = s

/-- A payload ships no more of any line than the document still requests. -/
def OutboundSubmitIn.Fits (payload : OutboundSubmitIn) (db : Db) (docId : Int) : Prop :=
  ∀ l ∈ db.manualOutboundLines.rows, l.docId = docId →
    manualSubmittedQty db l.id + payload.qtyFor l.id ≤ l.requestedQty

instance (db : Db) (docId : Int) : Decidable (db.WithinRequest docId) :=
  inferInstanceAs (Decidable (∀ l ∈ db.manualOutboundLines.rows, _ → _))

instance (db : Db) (docId : Int) : Decidable (db.ManualDone docId) :=
  inferInstanceAs (Decidable (∀ l ∈ db.manualOutboundLines.rows, _ → _))

instance (db : Db) (docId : Int) (s : ManualDocStatus) : Decidable (db.ManualStatus docId s) :=
  inferInstanceAs (Decidable (∃ d ∈ db.manualOutboundDocs.rows, _))

instance OutboundSubmitIn.decidableFits (payload : OutboundSubmitIn) (db : Db) (docId : Int) :
    Decidable (payload.Fits db docId) :=
  inferInstanceAs (Decidable (∀ l ∈ db.manualOutboundLines.rows, _ → _))

/-! ## The normaliser -/

/-- Normalised lines ship what the payload lines ship. -/
theorem sumOver_normalizeFrom {texts : LineTexts} {source : Int → Option SourceLine} {n : Int}
    {lines : List OutboundSubmitLineIn} {normalized : List NormalizedLine}
    (h : normalizeFrom texts source n lines = .ok normalized) (docLineId : Int) :
    sumOver (fun ln : NormalizedLine => ln.docLineId = docLineId) NormalizedLine.qtyOutbound
        normalized =
      sumOver (fun l : OutboundSubmitLineIn => l.docLineId = docLineId)
        OutboundSubmitLineIn.qtyOutbound lines := by
  induction lines generalizing n normalized with
  | nil => cases h; rfl
  | cons raw rest ih =>
      rw [normalizeFrom] at h
      (repeat' split at h) <;> cases h
      rename_i hrest
      rw [sumOver_cons, sumOver_cons, ih hrest]

theorem normalizeFrom_of_submitLines {texts : LineTexts} {source : Int → Option SourceLine}
    {lines : List OutboundSubmitLineIn} {normalized : List NormalizedLine}
    (h : normalizeSubmitLines texts source lines = .ok normalized) :
    normalizeFrom texts source 1 lines = .ok normalized := by
  unfold normalizeSubmitLines at h
  split at h
  · cases h
  · exact h

/-! ## A submit -/

variable {db db' : Db} {docId : Int}

/-- The lines of manual documents are never written. -/
theorem Redo.apply_manualOutboundLines (u : Redo) (db : Db) :
    (u.apply db).manualOutboundLines = db.manualOutboundLines := by
  cases u <;> rfl

theorem Redo.apply_manualOutboundDocs {u : Redo} {db : Db} (h : u.part ≠ .other) :
    (u.apply db).manualOutboundDocs = db.manualOutboundDocs := by
  cases u <;> first | rfl | exact absurd rfl h

private theorem run_completeManualDoc {u : Unit}
    (h : (completeManualDoc docId).run db = .ok (u, db')) :
    db.ManualStatus docId .released ∧ db' = (Redo.manualDocComplete docId).apply db := by
  rw [completeManualDoc, Prog.run_bind_ok] at h
  obtain ⟨done, db₁, hexec, hreq⟩ := h
  obtain ⟨us, hs, rfl⟩ := Prog.run_exec_ok.mp hexec
  obtain ⟨hdone, rfl⟩ := run_require_ok.mp hreq
  simp only [Database.exec, Sql.exec] at hs
  split at hs
  · rename_i hreleased
    cases hs
    exact ⟨hreleased, rfl⟩
  · cases hs
    cases hdone

/-- A completed document has the status. -/
private theorem manualStatus_complete (h : db.ManualStatus docId .released) (s : ManualDocStatus) :
    ((Redo.manualDocComplete docId).apply db).ManualStatus docId s ↔ s = .completed := by
  obtain ⟨d, hd, hid, -⟩ := h
  have hone : ∀ d' ∈ ((Redo.manualDocComplete docId).apply db).manualOutboundDocs.rows,
      d'.id = docId → d'.status = .completed := by
    intro d' hd' hid'
    obtain ⟨d₀, -, rfl⟩ := List.mem_map.mp hd'
    by_cases hd₀ : d₀.id = docId
    · simp [hd₀]
    · rw [if_neg (by simpa using hd₀)] at hid'
      exact absurd hid' hd₀
  constructor
  · rintro ⟨d', hd', hid', rfl⟩
    exact hone d' hd' hid'
  · rintro rfl
    refine ⟨_, List.mem_map.mpr ⟨d, hd, rfl⟩, ?_⟩
    simp [hid]

/-- The writer of a manual submit ships what the payload says, and leaves the
document alone. -/
private theorem run_writeManual {c : SubmitCall} {ctx : SubmitContext} {remark : Option String}
    {source : Int → Option SourceLine} {lines : List OutboundSubmitLineIn}
    {normalized : List NormalizedLine} {saved : List OutboundEventLine}
    (hnorm : normalizeManualSubmitLines source lines = .ok normalized)
    (h : (writeEventAndLedger (c.write .manual ctx remark) normalized).run db = .ok (saved, db')) :
    db'.manualOutboundDocs = db.manualOutboundDocs ∧
      ∀ id, manualSubmittedQty db' id = manualSubmittedQty db id +
        sumOver (fun l : OutboundSubmitLineIn => l.docLineId = id)
          OutboundSubmitLineIn.qtyOutbound lines := by
  have hdocs : db'.manualOutboundDocs = db.manualOutboundDocs :=
    (within_writeEventAndLedger (T := fun p => p ≠ .other) nofun nofun nofun normalized).frame
      (fun u d hu => Redo.apply_manualOutboundDocs hu) h
  refine ⟨hdocs, fun id => ?_⟩
  obtain ⟨-, -, rfl, rows, hadd, -⟩ := run_writeEventAndLedger_adds h
  unfold manualSubmittedQty
  rw [hadd.outbound, sumOver_append, sumOver_map]
  rw [← sumOver_normalizeFrom (normalizeFrom_of_submitLines hnorm)]
  congr 1
  refine sumOver_congr (fun ln _ => ?_) fun _ _ _ => rfl
  show some ln.docLineId = some id ↔ ln.docLineId = id
  exact Option.some_inj

/-- The completion check reads off whether the document is done. -/
private theorem progress_complete (hrows : manualDocLines db docId ≠ []) :
    (listManualDocProgress db docId ≠ [] ∧
      ∀ row ∈ listManualDocProgress db docId, row.requestedQty ≤ row.submittedQty) ↔
    db.ManualDone docId := by
  have hne : listManualDocProgress db docId ≠ [] := by
    unfold manualDocLines at hrows
    unfold listManualDocProgress
    simpa using hrows
  rw [and_iff_right hne]
  unfold listManualDocProgress Db.ManualDone
  simp only [List.forall_mem_map, List.mem_filter, decide_eq_true_eq, and_imp]

/-- **Submit.** A submit that goes through ships what its payload says, and
completes the document when every line has what was requested. -/
theorem run_submitManualOutboundEvent {c : SubmitCall} {payload : OutboundSubmitIn}
    {out : OutboundSubmitOut}
    (h : (submitManualOutboundEvent docId c payload).run db = .ok (out, db')) :
    db'.manualOutboundLines = db.manualOutboundLines ∧
      (∀ id, manualSubmittedQty db' id = manualSubmittedQty db id + payload.qtyFor id) ∧
      db.ManualStatus docId .released ∧
      ∀ s, db'.ManualStatus docId s ↔
        if db'.ManualDone docId then s = .completed else s = .released := by
  have hlines : db'.manualOutboundLines = db.manualOutboundLines :=
    (within_submitManual (T := fun _ => True) trivial trivial trivial (fun _ => trivial) docId c
      payload).frame (fun u d _ => u.apply_manualOutboundLines d) h
  simp only [submitManualOutboundEvent, loadManualSubmitContext, bind_assoc, Prog.run_bind_ok,
    run_requireSome_ok, run_require_ok, run_select, run_ofExcept_ok, pure_bind] at h
  obtain ⟨_, _, hread, head, _, ⟨hhead, rfl⟩, _, _, ⟨hstatus, rfl⟩, rows, _, hread', _, _,
    ⟨hrows, rfl⟩, normalized, _, ⟨hnorm, rfl⟩, saved, db₁, hwrite, _, _, hread'', _, db₂, hdone,
    hret⟩ := h
  cases hread
  cases hread'
  cases hread''
  cases hret
  obtain ⟨hdocs, hqty⟩ := run_writeManual hnorm hwrite
  obtain ⟨hmem, hid⟩ := Table.lookup_eq_some.mp hhead
  have hreleased : db.ManualStatus docId .released := ⟨head, hmem, hid, hstatus⟩
  have hlines₁ : db₁.manualOutboundLines = db.manualOutboundLines := by
    refine Tx.Within.frame (T := fun _ => True) ?_ (fun u d _ => u.apply_manualOutboundLines d) hwrite
    exact within_writeEventAndLedger trivial trivial trivial normalized
  have hrows₁ : manualDocLines db₁ docId ≠ [] := by
    unfold manualDocLines
    rw [hlines₁]
    exact hrows
  have hcheck := progress_complete hrows₁
  by_cases hall : db₁.ManualDone docId
  · rw [run_when_of (hcheck.mpr hall)] at hdone
    obtain ⟨hreleased₁, rfl⟩ := run_completeManualDoc hdone
    refine ⟨hlines, hqty, hreleased, fun s => ?_⟩
    have hall' : ((Redo.manualDocComplete docId).apply db₁).ManualDone docId := hall
    rw [if_pos hall']
    exact manualStatus_complete hreleased₁ s
  · rw [run_when_of_not fun hc => hall (hcheck.mp hc)] at hdone
    cases hdone
    refine ⟨hlines, hqty, hreleased, fun s => ?_⟩
    rw [if_neg hall]
    unfold Db.ManualStatus
    rw [hdocs]
    constructor
    · rintro ⟨d, hd, hdid, rfl⟩
      rw [db.manualOutboundDocs.eq_of_key hd hmem (hdid.trans hid.symm)]
      exact hstatus
    · rintro rfl
      exact hreleased

end WmsDu
