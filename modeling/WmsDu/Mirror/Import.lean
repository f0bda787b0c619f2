import WmsDu.Mirror.Schema
import WmsDu.Txn.Pool

/-!
# Importing an order

`upsert_platform_order_mirror` writes the head of an order, deletes its lines
and inserts those of the payload, in one transaction. The head is locked from
its first statement on, whether the row is old or new, so no other import of
the order comes in between: what a finished call wrote stays what it will
commit.
-/

namespace WmsDu

open Txn

/-! ## Payloads -/

/-- `PlatformOrderMirrorImportIn`. -/
structure MirrorPayload where
  collectorOrderId : Int
  collectorStoreId : Int
  collectorStoreCode : String
  collectorStoreName : String
  platform : MirrorPlatform
  platformOrderNo : String
  platformStatus : Option String := none
  sourceUpdatedAt : Option String := none
  pulledAt : Option String := none
  lastSyncedAt : Option String := none
  receiver : String := "\x7b\x7d"
  amounts : String := "\x7b\x7d"
  platformFields : String := "\x7b\x7d"
  rawRefs : String := "\x7b\x7d"
  lines : List MirrorLine := []

/-- `value.replace("Z", "+00:00")`. -/
def withOffset (value : String) : String :=
  String.ofList (value.toList.flatMap fun c => if c = 'Z' then "+00:00".toList else [c])

/-- `_dt`; `readTime` is `datetime.fromisoformat`, `none` where it raises. -/
def mirrorTime (readTime : String → Option Timestamp) (value : Option String) :
    Option Timestamp :=
  (value.bind fun v => orNone (strip v)).bind fun v => readTime (withOffset v)

/-- `_tables`. -/
def mirrorTables (platform : String) : Option MirrorPlatform :=
  let key := lower (strip platform)
  if key = "pdd" then some .pdd
  else if key = "taobao" then some .taobao
  else if key = "jd" then some .jd
  else none

/-- `_resolve_wms_store_id`. -/
def resolveWmsStoreId (stores : List Store) (platform collectorStoreCode : String) : Option Int :=
  (stores.find? fun s => lower s.platform = lower platform ∧ s.storeCode = collectorStoreCode).map
    Store.id

/-- What a row keeps of a line. -/
def MirrorLine.stored (l : MirrorLine) : MirrorLine :=
  { l with
    quantity := numericColumn 4 l.quantity
    unitPrice := l.unitPrice.map (numericColumn 2)
    lineAmount := l.lineAmount.map (numericColumn 2)
    rawItemPayload := some (l.rawItemPayload.getD "\x7b\x7d") }

/-! ## The service -/

/-- A call: the path's platform, the payload, and the ids the sequences draw
for a new head and the lines. -/
structure ImportCall where
  platform : String
  payload : MirrorPayload
  newId : Int
  lineIds : Nat → Int

/-- The order a call imports. -/
def ImportCall.order (op : ImportCall) : MirrorPlatform × Int :=
  (op.payload.platform, op.payload.collectorOrderId)

section Service
variable (readTime : String → Option Timestamp)

/-- The head a payload asks for, under an id and a store. -/
def ImportCall.head (op : ImportCall) (wmsStoreId : Option Int) (id : Int) : OrderMirror :=
  let payload := op.payload
  { platform := payload.platform, id := id, collectorOrderId := payload.collectorOrderId
    collectorStoreId := payload.collectorStoreId
    collectorStoreCode := payload.collectorStoreCode
    collectorStoreName := payload.collectorStoreName, wmsStoreId := wmsStoreId
    platformOrderNo := payload.platformOrderNo, platformStatus := payload.platformStatus
    sourceUpdatedAt := mirrorTime readTime payload.sourceUpdatedAt
    pulledAt := mirrorTime readTime payload.pulledAt
    collectorLastSyncedAt := mirrorTime readTime payload.lastSyncedAt
    receiver := payload.receiver, amounts := payload.amounts
    platformFields := payload.platformFields, rawRefs := payload.rawRefs }

/-- The inserts of a payload's lines, each under the next id drawn. -/
def insertMirrorLines (platform : MirrorPlatform) (mirrorId : Int) (lineIds : Nat → Int) :
    List MirrorLine → Nat → MirrorTx Unit
  | [], _ => pure ()
  | l :: lines, k => do
      insertMirrorLine
        { l.stored with platform := platform, id := lineIds k, mirrorId := mirrorId }
      insertMirrorLines platform mirrorId lineIds lines (k + 1)

/-- `upsert_platform_order_mirror`. -/
def upsertPlatformOrderMirror (op : ImportCall) : MirrorTx Int := do
  let plat := lower (strip op.platform)
  Prog.require (op.payload.platform.text = plat)
    (.valueError s!"payload platform mismatch: path={plat} payload={op.payload.platform.text}")
  let tables ← Prog.requireSome (mirrorTables plat) (.valueError s!"unsupported platform: '{plat}'")
  let wmsStoreId ← Prog.read fun db =>
    resolveWmsStoreId db.stores plat op.payload.collectorStoreCode
  let mirrorId ← upsertMirror (op.head readTime wmsStoreId op.newId)
  deleteMirrorLines tables mirrorId
  insertMirrorLines tables mirrorId op.lineIds op.payload.lines 0
  return mirrorId

end Service

/-- The tables of a payload whose platform is the path's are its platform's. -/
theorem mirrorTables_text (platform : MirrorPlatform) :
    mirrorTables platform.text = some platform := by
  cases platform <;> decide

/-! ## What a call writes -/

/-- No two mirrors of a platform have one id. -/
def OrderMirror.Placed (h : OrderMirror) (db : MirrorDb) : Prop :=
  ∀ g ∈ db.mirrors.rows, g.platform = h.platform → (g.id = h.id ↔ g.order = h.order)

def MirrorDb.Sound (db : MirrorDb) : Prop := ∀ h ∈ db.mirrors.rows, h.Placed db

instance decidableMirrorSound (db : MirrorDb) : Decidable db.Sound :=
  inferInstanceAs (Decidable (∀ h ∈ db.mirrors.rows, ∀ g ∈ db.mirrors.rows, _))

/-- The log of a call that has inserted some lines. -/
def importLog (was : Option OrderMirror) (h : OrderMirror) (ids : List Int)
    (rows : List MirrorLineRow) : List MirrorRedo :=
  .mirrorPut was h :: .linesDelete h.platform ids :: rows.map MirrorRedo.lineInsert

/-- What the records of a call find: the deleted lines are the mirror's, all
of them, and the ids of the new ones are free by then. -/
structure Imports (h : OrderMirror) (ids : List Int) (rows : List MirrorLineRow) (db : MirrorDb) :
    Prop where
  placed : h.Placed db
  cleared : ∀ l ∈ db.lines.rows, l.platform = h.platform → (l.id ∈ ids ↔ l.mirrorId = h.id)
  owned : ∀ r ∈ rows, r.platform = h.platform ∧ r.mirrorId = h.id
  nodup : (rows.map fun r => (r.platform, r.id)).Nodup
  free : ∀ r ∈ rows, ∀ l ∈ db.lines.rows, l.platform = r.platform → l.id = r.id → l.id ∈ ids

/-- The head is the one the call asks for, once its row is known. -/
def ImportCall.HeadOf (readTime : String → Option Timestamp) (op : ImportCall) (db : MirrorDb)
    (h : OrderMirror) : Prop :=
  h = op.head readTime
    (resolveWmsStoreId db.stores op.payload.platform.text op.payload.collectorStoreCode) h.id

/-- What a call has written after some of its lines. -/
def ImportCall.Wrote (readTime : String → Option Timestamp) (op : ImportCall) (mirrorId : Int)
    (lines : List MirrorLine) (db : MirrorDb) (log : List MirrorRedo) : Prop :=
  ∃ was h ids rows, log = importLog was h ids rows ∧ op.HeadOf readTime db h ∧ h.id = mirrorId ∧
    rows.map MirrorLineRow.toMirrorLine = lines.map MirrorLine.stored ∧ Imports h ids rows db

/-! ## What a commit does -/

section Commit
variable {db : MirrorDb} {was : Option OrderMirror} {h : OrderMirror} {ids : List Int}
  {rows : List MirrorLineRow}

theorem redo_lineInserts (rows : List MirrorLineRow) (db : MirrorDb) :
    redo (rows.map MirrorRedo.lineInsert) db =
      { db with lines := rows.foldl Table.insert db.lines } := by
  induction rows generalizing db with
  | nil => rfl
  | cons r rows ih =>
      rw [List.map_cons, redo_cons, ih]
      rfl

theorem redo_importLog :
    redo (importLog was h ids rows) db =
      { db with
        mirrors := db.mirrors.upsert h
        lines := rows.foldl Table.insert
          (db.lines.delete fun l => l.platform = h.platform ∧ l.id ∈ ids) } := by
  rw [importLog, redo_cons, redo_cons, redo_lineInserts]
  rfl

/-- The lines afterwards: those that were not deleted, and the new ones. -/
theorem Imports.rows_lines (hi : Imports h ids rows db) :
    (redo (importLog was h ids rows) db).lines.rows =
      (db.lines.delete fun l => l.platform = h.platform ∧ l.id ∈ ids).rows ++ rows := by
  rw [redo_importLog]
  refine Table.rows_insertAll rows _ ?_ hi.nodup
  rintro r hr ⟨l, hl, hkey⟩
  obtain ⟨hl, hkept⟩ := Table.mem_delete.mp hl
  obtain ⟨hplat, hid⟩ := Prod.mk.inj hkey
  exact hkept ⟨hplat.trans (hi.owned r hr).1, hi.free r hr l hl hplat hid⟩

theorem Imports.mem_lines (hi : Imports h ids rows db) {l : MirrorLineRow} :
    l ∈ (redo (importLog was h ids rows) db).lines.rows ↔
      (l ∈ db.lines.rows ∧ ¬ (l.platform = h.platform ∧ l.id ∈ ids)) ∨ l ∈ rows := by
  rw [hi.rows_lines, List.mem_append, Table.mem_delete]

/-- The mirror has the new lines and no others. -/
theorem Imports.linesOf_head (hi : Imports h ids rows db) :
    (redo (importLog was h ids rows) db).linesOf h.platform h.id = rows := by
  unfold MirrorDb.linesOf
  rw [hi.rows_lines, List.filter_append]
  have hold : (db.lines.delete fun l => l.platform = h.platform ∧ l.id ∈ ids).rows.filter
      (fun l => decide (l.platform = h.platform ∧ l.mirrorId = h.id)) = [] := by
    rw [List.filter_eq_nil_iff]
    intro l hl hown
    obtain ⟨hl, hkept⟩ := Table.mem_delete.mp hl
    obtain ⟨hplat, hmirror⟩ := of_decide_eq_true hown
    exact hkept ⟨hplat, (hi.cleared l hl hplat).mpr hmirror⟩
  have hnew : rows.filter (fun l => decide (l.platform = h.platform ∧ l.mirrorId = h.id)) =
      rows := by
    rw [List.filter_eq_self]
    exact fun r hr => decide_eq_true (hi.owned r hr)
  rw [hold, hnew, List.nil_append]

/-- Other mirrors keep their lines. -/
theorem Imports.linesOf_other (hi : Imports h ids rows db) {platform : MirrorPlatform} {id : Int}
    (hne : ¬ (platform = h.platform ∧ id = h.id)) :
    (redo (importLog was h ids rows) db).linesOf platform id = db.linesOf platform id := by
  unfold MirrorDb.linesOf
  rw [hi.rows_lines, List.filter_append]
  have hnew : rows.filter (fun l => decide (l.platform = platform ∧ l.mirrorId = id)) = [] := by
    rw [List.filter_eq_nil_iff]
    intro r hr hown
    obtain ⟨hplat, hmirror⟩ := of_decide_eq_true hown
    obtain ⟨hplat', hmirror'⟩ := hi.owned r hr
    exact hne ⟨hplat.symm.trans hplat', hmirror.symm.trans hmirror'⟩
  rw [hnew, List.append_nil]
  show List.filter _ (List.filter _ db.lines.rows) = _
  rw [List.filter_filter]
  refine List.filter_congr fun l hl => ?_
  -- a deleted line belongs to the head's mirror
  by_cases hown : l.platform = platform ∧ l.mirrorId = id
  · have hkept : ¬ (l.platform = h.platform ∧ l.id ∈ ids) := by
      rintro ⟨hplat, hdel⟩
      exact hne ⟨hown.1.symm.trans hplat,
        hown.2.symm.trans ((hi.cleared l hl hplat).mp hdel)⟩
    rw [decide_eq_true hkept, Bool.and_true]
  · simp [hown]

theorem lookup_mirrors (key : MirrorPlatform × Int) :
    (redo (importLog was h ids rows) db).mirrors.lookup key =
      if key = h.order then some h else db.mirrors.lookup key := by
  rw [redo_importLog]
  exact Table.lookup_upsert

theorem mem_mirrors {g : OrderMirror} :
    g ∈ (redo (importLog was h ids rows) db).mirrors.rows ↔
      (g ∈ db.mirrors.rows ∧ g.order ≠ h.order) ∨ g = h := by
  rw [redo_importLog]
  exact Table.mem_upsert

/-- Ids stay apart. -/
theorem Imports.sound (hi : Imports h ids rows db) (hdb : db.Sound) :
    (redo (importLog was h ids rows) db).Sound := by
  intro k hk g hg hplat
  rcases mem_mirrors.mp hk with ⟨hkold, -⟩ | rfl
  · rcases mem_mirrors.mp hg with ⟨hgold, -⟩ | rfl
    · exact hdb k hkold g hgold hplat
    · have hplaced := hi.placed k hkold hplat.symm
      exact ⟨fun hid => (hplaced.mp hid.symm).symm, fun ho => (hplaced.mpr ho.symm).symm⟩
  · rcases mem_mirrors.mp hg with ⟨hgold, -⟩ | rfl
    · exact hi.placed g hgold hplat
    · exact ⟨fun _ => rfl, fun _ => rfl⟩

end Commit

/-! ## What a call relies on -/

/-- What the commits of others leave to a call that holds some locks. -/
structure ImportRely (held : List MirrorLock) (db db' : MirrorDb) : Prop where
  stores : db'.stores = db.stores
  sound : db.Sound → db'.Sound
  mirror : ∀ {g : OrderMirror}, .mirror g.platform g.id ∈ held →
    (g ∈ db'.mirrors.rows ↔ g ∈ db.mirrors.rows)
  order : ∀ {g : OrderMirror}, .order g.order ∈ held →
    (g ∈ db'.mirrors.rows ↔ g ∈ db.mirrors.rows)
  lines : ∀ {l : MirrorLineRow}, .mirror l.platform l.mirrorId ∈ held →
    (l ∈ db'.lines.rows ↔ l ∈ db.lines.rows)
  line : ∀ {l : MirrorLineRow}, .line l.platform l.id ∈ held →
    (l ∈ db'.lines.rows ↔ l ∈ db.lines.rows)

section Locks
variable {was : Option OrderMirror} {h : OrderMirror} {ids : List Int} {rows : List MirrorLineRow}

theorem mirror_mem_guards : MirrorLock.mirror h.platform h.id ∈ guardsOf (importLog was h ids rows) :=
  mem_guardsOf.mpr ⟨_, List.mem_cons_self, List.mem_append_left _ List.mem_cons_self⟩

theorem order_mem_guards : MirrorLock.order h.order ∈ guardsOf (importLog was h ids rows) :=
  mem_guardsOf.mpr ⟨_, List.mem_cons_self,
    List.mem_append_left _ (List.mem_cons_of_mem _ List.mem_cons_self)⟩

theorem deleted_mem_guards {id : Int} (hid : id ∈ ids) :
    MirrorLock.line h.platform id ∈ guardsOf (importLog was h ids rows) :=
  mem_guardsOf.mpr ⟨_, List.mem_cons_of_mem _ List.mem_cons_self, List.mem_map_of_mem hid⟩

theorem inserted_mem_guards {r : MirrorLineRow} (hr : r ∈ rows) :
    MirrorLock.line r.platform r.id ∈ guardsOf (importLog was h ids rows) :=
  mem_guardsOf.mpr ⟨.lineInsert r, List.mem_cons_of_mem _
    (List.mem_cons_of_mem _ (List.mem_map_of_mem hr)), List.mem_cons_self⟩

end Locks

/-- What the records of a call find stays so until it commits. -/
theorem Imports.steady {db db' : MirrorDb} {was : Option OrderMirror} {h : OrderMirror}
    {ids : List Int} {rows : List MirrorLineRow} (hi : Imports h ids rows db)
    (hrely : ImportRely (guardsOf (importLog was h ids rows)) db db') : Imports h ids rows db' where
  placed := by
    intro g hg hplat
    constructor
    · intro hid
      refine (hi.placed g ((hrely.mirror ?_).mp hg) hplat).mp hid
      rw [hplat, hid]
      exact mirror_mem_guards
    · intro hkey
      refine (hi.placed g ((hrely.order ?_).mp hg) hplat).mpr hkey
      rw [hkey]
      exact order_mem_guards
  cleared := by
    intro l hl hplat
    constructor
    · intro hdel
      refine (hi.cleared l ((hrely.line ?_).mp hl) hplat).mp hdel
      rw [hplat]
      exact deleted_mem_guards hdel
    · intro hmirror
      refine (hi.cleared l ((hrely.lines ?_).mp hl) hplat).mpr hmirror
      rw [hplat, hmirror]
      exact mirror_mem_guards
  owned := hi.owned
  nodup := hi.nodup
  free := by
    intro r hr l hl hplat hid
    refine hi.free r hr l ((hrely.line ?_).mp hl) hplat hid
    rw [hplat, hid]
    exact inserted_mem_guards hr

/-- A commit is what the calls in flight rely on. -/
theorem Imports.rely {db : MirrorDb} {was : Option OrderMirror} {h : OrderMirror}
    {ids : List Int} {rows : List MirrorLineRow} (hi : Imports h ids rows db)
    {held : List MirrorLock} (hdis : ∀ l ∈ guardsOf (importLog was h ids rows), l ∉ held) :
    ImportRely held db (redo (importLog was h ids rows) db) where
  stores := by rw [redo_importLog]
  sound := hi.sound
  mirror := by
    intro g hheld
    have hne : ¬ (g.platform = h.platform ∧ g.id = h.id) := by
      rintro ⟨hplat, hid⟩
      rw [hplat, hid] at hheld
      exact hdis _ mirror_mem_guards hheld
    rw [mem_mirrors]
    constructor
    · rintro (⟨hg, -⟩ | rfl)
      · exact hg
      · exact absurd ⟨rfl, rfl⟩ hne
    · intro hg
      refine .inl ⟨hg, fun hkey => hne ?_⟩
      have hplat : g.platform = h.platform := congrArg Prod.fst hkey
      exact ⟨hplat, (hi.placed g hg hplat).mpr hkey⟩
  order := by
    intro g hheld
    have hne : g.order ≠ h.order := by
      intro hkey
      rw [hkey] at hheld
      exact hdis _ order_mem_guards hheld
    rw [mem_mirrors]
    constructor
    · rintro (⟨hg, -⟩ | rfl)
      · exact hg
      · exact absurd rfl hne
    · exact fun hg => .inl ⟨hg, hne⟩
  lines := by
    intro l hheld
    have hne : ¬ (l.platform = h.platform ∧ l.mirrorId = h.id) := by
      rintro ⟨hplat, hid⟩
      rw [hplat, hid] at hheld
      exact hdis _ mirror_mem_guards hheld
    rw [hi.mem_lines]
    constructor
    · rintro (⟨hl, -⟩ | hl)
      · exact hl
      · exact absurd (hi.owned l hl) hne
    · intro hl
      refine .inl ⟨hl, ?_⟩
      rintro ⟨hplat, hdel⟩
      exact hne ⟨hplat, (hi.cleared l hl hplat).mp hdel⟩
  line := by
    intro l hheld
    rw [hi.mem_lines]
    constructor
    · rintro (⟨hl, -⟩ | hl)
      · exact hl
      · exact absurd hheld (hdis _ (inserted_mem_guards hl))
    · intro hl
      refine .inl ⟨hl, ?_⟩
      rintro ⟨hplat, hdel⟩
      rw [hplat] at hheld
      exact hdis _ (deleted_mem_guards hdel) hheld

end WmsDu
