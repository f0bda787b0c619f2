import WmsDu.Mirror.Import

/-!
# Imports side by side

What each statement of an import knows and leaves, and the discipline of a
pool of imports.
-/

namespace WmsDu

open Txn

/-- Nothing limits the imports in flight. -/
def importTerms : Terms ImportCall (Stmt MirrorDb MirrorRedo MirrorErr) MirrorDb :=
  .fitting (fun _ _ => True) (fun _ _ => True) fun _ _ h => h

theorem importTerms_allows {α : Type}
    (p : Pool (Stmt MirrorDb MirrorRedo MirrorErr) MirrorDb MirrorLock MirrorRedo MirrorErr
      ImportCall α) (i : Nat) : importTerms.Allows p i := by
  unfold Terms.Allows
  split
  · exact fun _ _ _ => trivial
  · exact fun _ _ => trivial
  · trivial

/-- The setting of an import. -/
def importSetting : Setting (Stmt MirrorDb MirrorRedo MirrorErr) MirrorDb MirrorLock :=
  .fitting (fun _ _ => True) ImportRely

section Calls
variable {readTime : String → Option Timestamp} {op : ImportCall} {mirrorId : Int}

/-- A call that has written nothing. -/
def ImportBegun (db : MirrorDb) (log : List MirrorRedo) : Prop := db.Sound ∧ log = []

theorem steady_beginning : Steady importSetting ImportBegun :=
  fun _ _ _ h hrely => ⟨hrely.sound h.1, h.2⟩

/-- A call that has written its head. -/
def ImportCall.WroteHead (readTime : String → Option Timestamp) (op : ImportCall) (mirrorId : Int)
    (db : MirrorDb) (log : List MirrorRedo) : Prop :=
  ∃ was h, log = [.mirrorPut was h] ∧ op.HeadOf readTime db h ∧ h.id = mirrorId ∧ h.Placed db

theorem ImportCall.HeadOf.steady {db db' : MirrorDb} {h : OrderMirror} {held : List MirrorLock}
    (hhead : op.HeadOf readTime db h) (hrely : ImportRely held db db') :
    op.HeadOf readTime db' h := by
  unfold ImportCall.HeadOf at hhead ⊢
  rw [hrely.stores]
  exact hhead

theorem steady_wroteHead : Steady importSetting (op.WroteHead readTime mirrorId) := by
  rintro w w' log ⟨was, h, rfl, hhead, hid, hplaced⟩ hrely
  refine ⟨was, h, rfl, hhead.steady hrely, hid, fun g hg hplat => ?_⟩
  constructor
  · intro hgid
    refine (hplaced g ((hrely.mirror ?_).mp hg) hplat).mp hgid
    rw [hplat, hgid]
    exact mem_guardsOf.mpr ⟨_, List.mem_cons_self, List.mem_append_left _ List.mem_cons_self⟩
  · intro hkey
    refine (hplaced g ((hrely.order ?_).mp hg) hplat).mpr hkey
    rw [hkey]
    exact mem_guardsOf.mpr ⟨_, List.mem_cons_self,
      List.mem_append_left _ (List.mem_cons_of_mem _ List.mem_cons_self)⟩

theorem steady_wroteImport {lines : List MirrorLine} :
    Steady importSetting (op.Wrote readTime mirrorId lines) := by
  rintro w w' log ⟨was, h, ids, rows, rfl, hhead, hid, hrows, hi⟩ hrely
  exact ⟨was, h, ids, rows, rfl, hhead.steady hrely, hid, hrows, hi.steady hrely⟩

/-- The head is put in the place of the order's row, or in a new one. -/
theorem meets_upsertMirror {wmsStoreId : Option Int} :
    Meets importSetting
      (Holds fun db log => ImportBegun db log ∧ wmsStoreId =
        resolveWmsStoreId db.stores op.payload.platform.text op.payload.collectorStoreCode)
      (upsertMirror (op.head readTime wmsStoreId op.newId))
      (fun mirrorId => Holds (op.WroteHead readTime mirrorId)) := by
  have hP : Steady importSetting fun db log => ImportBegun db log ∧ wmsStoreId =
      resolveWmsStoreId db.stores op.payload.platform.text op.payload.collectorStoreCode := by
    intro w w' log h hrely
    refine ⟨steady_beginning _ _ _ h.1 hrely, ?_⟩
    rw [hrely.stores]
    exact h.2
  refine Meets.write hP (fun _ => steady_wroteHead) ?_
  rintro w log mirrorId us ⟨⟨hsound, rfl⟩, hstore⟩ - hs
  rw [redo_nil] at hs
  dsimp only at hs
  split at hs
  · cases hs
  rename_i hfree
  split at hs
  · cases hs
  cases hs
  refine ⟨_, _, rfl, ?_, rfl, ?_⟩
  · rw [ImportCall.HeadOf, ← hstore]
    rfl
  · intro g hg hplat
    cases hold : w.mirrors.lookup (op.head readTime wmsStoreId op.newId).order with
    | none =>
        -- neither the id nor the order is there
        exact iff_of_false (fun hid => hfree ⟨hold, g, hg, hplat, hid⟩)
          fun hkey => Table.lookup_eq_none.mp hold ⟨g, hg, hkey⟩
    | some old =>
        obtain ⟨hmem, hkey⟩ := Table.lookup_eq_some.mp hold
        have hplaced := hsound old hmem g hg (hplat.trans (congrArg Prod.fst hkey).symm)
        rw [hkey] at hplaced
        exact hplaced

/-- All lines of the mirror are deleted. -/
theorem meets_deleteMirrorLines :
    Meets importSetting (Holds (op.WroteHead readTime mirrorId))
      (deleteMirrorLines op.payload.platform mirrorId)
      (fun _ => Holds (op.Wrote readTime mirrorId [])) := by
  refine Meets.write steady_wroteHead (fun _ => steady_wroteImport) ?_
  rintro w log a us ⟨was, h, rfl, hhead, rfl, hplaced⟩ - hs
  obtain ⟨-, rfl⟩ := Prod.mk.inj (Except.ok.inj hs)
  have hplatform : h.platform = op.payload.platform := by
    unfold ImportCall.HeadOf at hhead
    rw [hhead]
    rfl
  refine ⟨was, h, (w.linesOf h.platform h.id).map MirrorLineRow.id, [], ?_, hhead, rfl, rfl,
    hplaced, ?_, fun _ hr => absurd hr List.not_mem_nil, List.nodup_nil,
    fun _ hr => absurd hr List.not_mem_nil⟩
  · rw [← hplatform]
    rfl
  · intro l hl hplat
    rw [List.mem_map]
    constructor
    · rintro ⟨k, hk, hid⟩
      obtain ⟨hk, hown⟩ := List.mem_filter.mp hk
      obtain ⟨hkplat, hkmirror⟩ := of_decide_eq_true hown
      rw [w.lines.eq_of_key hl hk (Prod.ext (hplat.trans hkplat.symm) hid.symm)]
      exact hkmirror
    · intro hmirror
      exact ⟨l, List.mem_filter.mpr ⟨hl, decide_eq_true ⟨hplat, hmirror⟩⟩, rfl⟩

/-- One more line is inserted. -/
theorem meets_insertMirrorLine {lines : List MirrorLine} {l : MirrorLine} {id : Int} :
    Meets importSetting (Holds (op.Wrote readTime mirrorId lines))
      (insertMirrorLine
        { l.stored with platform := op.payload.platform, id := id, mirrorId := mirrorId })
      (fun _ => Holds (op.Wrote readTime mirrorId (lines ++ [l]))) := by
  refine Meets.write steady_wroteImport (fun _ => steady_wroteImport) ?_
  rintro w log a us ⟨was, h, ids, rows, rfl, hhead, rfl, hrows, hi⟩ - hs
  have hplatform : h.platform = op.payload.platform := by
    unfold ImportCall.HeadOf at hhead
    rw [hhead]
    rfl
  rw [← hplatform] at hs
  split at hs
  · cases hs
  rename_i hnew
  split at hs
  · cases hs
  split at hs
  · cases hs
  cases hs
  let row : MirrorLineRow :=
    { l.stored with platform := h.platform, id := id, mirrorId := h.id }
  refine ⟨was, h, ids, rows ++ [row], ?_, hhead, rfl, ?_, hi.placed, hi.cleared, ?_, ?_, ?_⟩
  · rw [importLog, importLog, List.map_append]
    rfl
  · rw [List.map_append, List.map_append, hrows]
    rfl
  · intro r hr
    rcases List.mem_append.mp hr with hr | hr
    · exact hi.owned r hr
    · rw [List.mem_singleton.mp hr]
      exact ⟨rfl, rfl⟩
  · rw [List.map_append, List.nodup_append]
    refine ⟨hi.nodup, List.nodup_singleton _, ?_⟩
    intro key hkey key' hkey' heq
    obtain ⟨r, hr, rfl⟩ := List.mem_map.mp hkey
    rw [List.map_singleton, List.mem_singleton] at hkey'
    exact hnew ⟨r, hi.mem_lines.mpr (.inr hr), heq.trans hkey'⟩
  · intro r hr k hk hplat hid
    rcases List.mem_append.mp hr with hr | hr
    · exact hi.free r hr k hk hplat hid
    · rw [List.mem_singleton.mp hr] at hplat hid
      by_contra hdel
      exact hnew ⟨k, hi.mem_lines.mpr (.inl ⟨hk, fun hgone => hdel hgone.2⟩), Prod.ext hplat hid⟩

/-- The lines of the payload, one after the other. -/
theorem meets_insertMirrorLines (lineIds : Nat → Int) :
    ∀ (lines done : List MirrorLine) (k : Nat),
      Meets importSetting (Holds (op.Wrote readTime mirrorId done))
        (insertMirrorLines op.payload.platform mirrorId lineIds lines k)
        (fun _ => Holds (op.Wrote readTime mirrorId (done ++ lines))) := by
  intro lines
  induction lines with
  | nil =>
      intro done k
      rw [List.append_nil]
      exact Meets.ret (Q := fun _ => op.Wrote readTime mirrorId done) steady_wroteImport
  | cons l lines ih =>
      intro done k
      rw [insertMirrorLines]
      refine Meets.bind meets_insertMirrorLine fun _ => ?_
      have hrest := ih (done ++ [l]) (k + 1)
      rw [List.append_assoc] at hrest
      exact hrest

/-- **One import.** A finished call has put its head and its lines. -/
theorem meets_upsertPlatformOrderMirror (readTime : String → Option Timestamp)
    (op : ImportCall) :
    Meets importSetting (Holds ImportBegun) (upsertPlatformOrderMirror readTime op)
      (fun mirrorId => Holds (op.Wrote readTime mirrorId op.payload.lines)) := by
  unfold upsertPlatformOrderMirror
  dsimp only
  refine Meets.bind (Meets.require steady_beginning) fun _ => Meets.fact fun hplat => ?_
  rw [← hplat, mirrorTables_text]
  refine Meets.bind (M := fun tables => Holds fun db log =>
    some op.payload.platform = some tables ∧ ImportBegun db log)
    (Meets.requireSome steady_beginning) fun tables => Meets.fact fun htables => ?_
  obtain rfl := Option.some.inj htables
  have hread : ∀ wmsStoreId, Steady importSetting fun db log => ImportBegun db log ∧ wmsStoreId =
      resolveWmsStoreId db.stores op.payload.platform.text op.payload.collectorStoreCode := by
    intro wmsStoreId w w' log h hrely
    refine ⟨steady_beginning _ _ _ h.1 hrely, ?_⟩
    rw [hrely.stores]
    exact h.2
  refine Meets.bind (Meets.read steady_beginning hread ?_) fun wmsStoreId => ?_
  · rintro w log ⟨hsound, rfl⟩
    exact ⟨⟨hsound, rfl⟩, rfl⟩
  refine Meets.bind meets_upsertMirror fun mirrorId => ?_
  refine Meets.bind meets_deleteMirrorLines fun _ => ?_
  refine Meets.bind (M := fun _ => Holds (op.Wrote readTime mirrorId op.payload.lines))
    (meets_insertMirrorLines op.lineIds op.payload.lines [] 0) fun _ => ?_
  exact Meets.ret (Q := fun mirrorId => op.Wrote readTime mirrorId op.payload.lines)
    steady_wroteImport

end Calls

/-- **The discipline of imports.** -/
def importDiscipline (readTime : String → Option Timestamp) :
    Discipline (upsertPlatformOrderMirror readTime) importTerms MirrorLock MirrorRedo where
  inv := MirrorDb.Sound
  rely _ := ImportRely
  done op mirrorId := Holds (op.Wrote readTime mirrorId op.payload.lines)
  post _ _ _ := True
  meets op := (meets_upsertPlatformOrderMirror readTime op).consequence
    (fun c hc => ⟨by rw [hc.2]; rfl, hc.1, by rw [hc.2]; rfl⟩) fun _ _ h => h
  keeps := by
    rintro op mirrorId c ⟨-, was, h, ids, rows, hlog, -, -, -, hi⟩ hinv
    rw [Seat.view, replay_stmt, hlog]
    exact hi.sound hinv
  guarantee := by
    rintro op mirrorId c op' held ⟨hheld, was, h, ids, rows, hlog, -, -, -, hi⟩ - - hdis
    rw [hheld, hlog] at hdis
    rw [Seat.view, replay_stmt, hlog]
    exact hi.rely hdis
  answers _ _ := trivial
  lasting _ _ _ := trivial

end WmsDu
