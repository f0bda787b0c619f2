import WmsDu.Oms.Schema
import WmsDu.Shared.Decimals
import WmsDu.Shared.Text
import WmsDu.Txn.Stmt

/-!
# The platform order mirrors

The orders that the collector exports are kept as mirrors: one head an order
and one row a line, in a pair of tables for each platform. Here the pairs are
kept side by side, every row with its platform. JSON columns hold their text.
-/

namespace WmsDu

open Txn

/-! ## Rows -/

/-- `OmsMirrorPlatform`. -/
inductive MirrorPlatform
  | pdd | taobao | jd
deriving DecidableEq, Repr

def MirrorPlatform.text : MirrorPlatform → String
  | .pdd => "pdd"
  | .taobao => "taobao"
  | .jd => "jd"

inductive ImportStatus
  | imported | rejected | superseded
deriving DecidableEq, Repr

inductive MirrorStatus
  | active | archived
deriving DecidableEq, Repr

/-- The head of a mirrored order. -/
structure OrderMirror where
  platform : MirrorPlatform
  id : Int
  collectorOrderId : Int
  collectorStoreId : Int
  collectorStoreCode : String
  collectorStoreName : String
  wmsStoreId : Option Int
  platformOrderNo : String
  platformStatus : Option String
  importStatus : ImportStatus := .imported
  mirrorStatus : MirrorStatus := .active
  sourceUpdatedAt : Option Timestamp
  pulledAt : Option Timestamp
  collectorLastSyncedAt : Option Timestamp
  receiver : String
  amounts : String
  platformFields : String
  rawRefs : String
deriving DecidableEq, Repr

/-- What a line says, as the payload has it and as a row keeps it. -/
structure MirrorLine where
  collectorLineId : Int
  collectorOrderId : Int
  platformOrderNo : String
  merchantSku : Option String := none
  platformItemId : Option String := none
  platformSkuId : Option String := none
  title : Option String := none
  quantity : ℚ := 0
  unitPrice : Option ℚ := none
  lineAmount : Option ℚ := none
  platformFields : String := "\x7b\x7d"
  rawItemPayload : Option String := none
deriving DecidableEq, Repr

/-- A line of a mirrored order. -/
structure MirrorLineRow extends MirrorLine where
  platform : MirrorPlatform
  id : Int
  mirrorId : Int
deriving DecidableEq, Repr

/-- The index on `collector_order_id`. -/
def OrderMirror.order (h : OrderMirror) : MirrorPlatform × Int := (h.platform, h.collectorOrderId)

/-- The index on `collector_store_id` and `platform_order_no`. -/
def OrderMirror.storeOrder (h : OrderMirror) : MirrorPlatform × Int × String :=
  (h.platform, h.collectorStoreId, h.platformOrderNo)

structure MirrorDb where
  stores : List Store := []
  mirrors : Table OrderMirror.order := .empty
  lines : Table (fun l : MirrorLineRow => (l.platform, l.id)) := .empty

/-- The lines of a mirror. -/
def MirrorDb.linesOf (db : MirrorDb) (platform : MirrorPlatform) (mirrorId : Int) :
    List MirrorLineRow :=
  db.lines.rows.filter fun l => l.platform = platform ∧ l.mirrorId = mirrorId

/-! ## Records -/

inductive MirrorErr
  | valueError (message : String)
  | integrity (constraint : String)
deriving DecidableEq, Repr

inductive MirrorRedo
  /-- The head of an order becomes `h`; `was` is the row it replaces. -/
  | mirrorPut (was : Option OrderMirror) (h : OrderMirror)
  | linesDelete (platform : MirrorPlatform) (ids : List Int)
  | lineInsert (l : MirrorLineRow)

def MirrorRedo.apply (u : MirrorRedo) (db : MirrorDb) : MirrorDb :=
  match u with
  | .mirrorPut _ h => { db with mirrors := db.mirrors.upsert h }
  | .linesDelete platform ids =>
      { db with lines := db.lines.delete fun l => l.platform = platform ∧ l.id ∈ ids }
  | .lineInsert l => { db with lines := db.lines.insert l }

inductive MirrorLock
  | mirror (platform : MirrorPlatform) (id : Int)
  | order (key : MirrorPlatform × Int)
  | storeOrder (key : MirrorPlatform × Int × String)
  | line (platform : MirrorPlatform) (id : Int)
  | collectorLine (platform : MirrorPlatform) (mirrorId collectorLineId : Int)
deriving DecidableEq

/-- The locks on a head and its entries in the indexes. -/
def OrderMirror.locks (h : OrderMirror) : List MirrorLock :=
  [.mirror h.platform h.id, .order h.order, .storeOrder h.storeOrder]

instance : RedoLog MirrorRedo MirrorDb MirrorLock where
  apply := MirrorRedo.apply
  guards
    | .mirrorPut was h => h.locks ++ was.toList.flatMap OrderMirror.locks
    | .linesDelete platform ids => ids.map (.line platform)
    | .lineInsert l =>
        [.line l.platform l.id, .collectorLine l.platform l.mirrorId l.collectorLineId]

/-- A service of the mirror tables. -/
abbrev MirrorTx := Prog (Stmt MirrorDb MirrorRedo MirrorErr) MirrorErr

/-! ## Statements -/

/-- `INSERT … ON CONFLICT (collector_order_id) DO UPDATE … RETURNING id`: the
row of the order keeps its id. -/
def upsertMirror (h : OrderMirror) : MirrorTx Int :=
  Prog.write fun db =>
    let old := db.mirrors.lookup h.order
    let row : OrderMirror := { h with id := (old.map OrderMirror.id).getD h.id }
    if old = none ∧ ∃ g ∈ db.mirrors.rows, g.platform = h.platform ∧ g.id = h.id then
      .error (.integrity s!"oms_{h.platform.text}_order_mirrors_pkey")
    else if ∃ g ∈ db.mirrors.rows, g.order ≠ h.order ∧ g.storeOrder = h.storeOrder then
      .error (.integrity s!"uq_oms_{h.platform.text}_order_mirrors_collector_store_order")
    else .ok (row.id, [.mirrorPut old row])

/-- `DELETE … WHERE mirror_id = …`: the lines the statement sees. -/
def deleteMirrorLines (platform : MirrorPlatform) (mirrorId : Int) : MirrorTx Unit :=
  Prog.record fun db =>
    [.linesDelete platform ((db.linesOf platform mirrorId).map MirrorLineRow.id)]

def insertMirrorLine (l : MirrorLineRow) : MirrorTx Unit :=
  Prog.write fun db =>
    if db.lines.HasKey (l.platform, l.id) then
      .error (.integrity s!"oms_{l.platform.text}_order_mirror_lines_pkey")
    else if ∃ k ∈ db.linesOf l.platform l.mirrorId, k.collectorLineId = l.collectorLineId then
      .error (.integrity s!"uq_oms_{l.platform.text}_order_mirror_lines_line")
    else if ¬ ∃ g ∈ db.mirrors.rows, g.platform = l.platform ∧ g.id = l.mirrorId then
      .error (.integrity s!"oms_{l.platform.text}_order_mirror_lines_mirror_id_fkey")
    else .ok ((), [.lineInsert l])

end WmsDu
