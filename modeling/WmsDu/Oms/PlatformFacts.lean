import Mathlib.Data.List.Sort
import WmsDu.Oms.Ingest

/-!
# Platform order facts

The lines of a platform order are stored as facts, one row a line key, before
they are resolved to items. Ingest resolves the submitted lines, replay the
stored ones; the resolver goes from the filled code of a line to a published
FSKU, by a binding or by the code itself, and expands its components.
-/

namespace WmsDu

open Txn

/-! ## Lines -/

/-- A line of a platform order, as it is submitted or loaded. -/
structure PlatformLine where
  filledCode : Option String
  qty : Option Int
  lineNo : Option Int := none
  title : Option String := none
  spec : Option String := none
deriving DecidableEq

/-- `(filled_code or "").strip()`. -/
def codeOf (filledCode : Option String) : String := strip (filledCode.getD "")

/-- `to_int_pos(qty, default=1)`. -/
def toIntPos (qty : Option Int) : Int := if 0 < qty.getD 0 then qty.getD 0 else 1

/-- `_line_key`. -/
def lineKey (filledCode : Option String) (lineNo : Int) : String :=
  if codeOf filledCode = "" then s!"NO_PSKU:{lineNo}" else s!"PSKU:{codeOf filledCode}"

/-- `_locator`. -/
def locator (filledCode : Option String) (lineNo : Int) : LocatorKind × String :=
  if codeOf filledCode = "" then (.lineNo, toString lineNo)
  else (.filledCode, codeOf filledCode)

/-! ## Facts -/

/-- The number of a line: its own, or its place in the payload. -/
def PlatformLine.number (line : PlatformLine) (idx : Nat) : Int :=
  if line.lineNo.getD 0 = 0 then idx else line.lineNo.getD 0

/-- The order a payload belongs to, normalised. -/
structure FactOrder where
  platform : String
  storeCode : String
  storeId : Option Int
  extOrderNo : String

/-- The key of a line's fact. -/
def FactOrder.key (o : FactOrder) (line : PlatformLine) (idx : Nat) : FactKey :=
  ⟨o.platform, o.storeCode, o.extOrderNo, lineKey line.filledCode (line.number idx)⟩

/-- The row a line asks for. -/
def FactOrder.row (o : FactOrder) (line : PlatformLine) (idx : Nat) : PlatformOrderLine :=
  { key := o.key line idx, storeId := o.storeId, lineNo := line.number idx
    locatorKind := (locator line.filledCode (line.number idx)).1
    locatorValue := (locator line.filledCode (line.number idx)).2
    filledCode := orNone (codeOf line.filledCode), qty := toIntPos line.qty
    title := line.title, spec := line.spec }

/-- `INSERT … ON CONFLICT (…, line_key) DO UPDATE`: the old row keeps its line
number. -/
def upsertFact (t : Table PlatformOrderLine.key) (row : PlatformOrderLine) :
    Table PlatformOrderLine.key :=
  match t.lookup row.key with
  | some old => t.upsert { row with lineNo := old.lineNo }
  | none => t.upsert row

/-- The upserts of a payload, its lines numbered from `idx`. -/
def upsertFacts (o : FactOrder) : List PlatformLine → Nat → Oms Unit
  | [], _ => pure ()
  | line :: lines, idx => do
      Oms.write fun db =>
        .ok ((), db.withFacts (upsertFact db.platformOrderLines (o.row line idx)))
      upsertFacts o lines (idx + 1)

/-- The order a call of `upsert_platform_order_lines` writes facts of. -/
def factOrder (platform storeCode : String) (storeId : Option Int) (extOrderNo : String) :
    FactOrder :=
  ⟨normPlatform platform, normStoreCode storeCode, storeId, strip extOrderNo⟩

/-- `upsert_platform_order_lines`. -/
def upsertPlatformOrderLines (platform storeCode : String) (storeId : Option Int)
    (extOrderNo : String) (lines : List PlatformLine) : Oms Nat := do
  Oms.require (strip extOrderNo ≠ "") (.valueError "ext_order_no is required")
  upsertFacts (factOrder platform storeCode storeId extOrderNo) lines 1
  return lines.length

/-- `load_fact_lines_for_order`: the stored lines of an order, by line number. -/
def loadFactLinesForOrder (db : OmsDb) (platform : String) (storeId : Int) (extOrderNo : String) :
    List PlatformLine :=
  ((db.platformOrderLines.rows.filter fun r =>
      r.key.platform = platform ∧ r.storeId = some storeId ∧
        r.key.extOrderNo = extOrderNo).insertionSort fun r s => r.lineNo ≤ s.lineNo).map
    fun r : PlatformOrderLine =>
    { filledCode := r.filledCode.bind orNone, qty := some (if r.qty = 0 then 1 else r.qty)
      lineNo := some r.lineNo, title := r.title, spec := r.spec }

/-! ## The resolver -/

/-- The reasons a line stays unresolved. -/
inductive UnresolvedReason
  | missingFilledCode | fskuNotPublished | codeNotBound | fskuNotExecutable | componentQtyInvalid
deriving DecidableEq, Repr

structure UnresolvedLine where
  filledCode : String
  qty : Int
  fskuId : Option Int
  reason : UnresolvedReason
deriving DecidableEq

structure ExpandedItem where
  itemId : Int
  componentQty : Int
  needQty : Int
  role : String
deriving DecidableEq

structure ResolvedLine where
  filledCode : String
  qty : Int
  fskuId : Int
  expandedItems : List ExpandedItem
deriving DecidableEq

/-- What the resolver has found so far. -/
structure Resolution where
  resolved : List ResolvedLine := []
  unresolved : List UnresolvedLine := []
  itemQtyMap : Tally Int := .empty

/-- `load_store_code_by_store_id`. -/
def loadStoreCodeByStoreId (db : OmsDb) (platform : String) (storeId : Int) : Option String :=
  (db.stores.rows.find? fun s => s.id = storeId ∧ s.platform = normPlatform platform).map fun s =>
    normStoreCode s.storeCode

/-- The status of an FSKU. -/
def fskuStatus (db : OmsDb) (fskuId : Int) : Option FskuStatus :=
  (db.fskus.lookup fskuId).map Fsku.status

/-- `resolve_fsku_id_by_binding`: the bound FSKU, or why there is none. -/
def resolveFskuIdByBinding (db : OmsDb) (platform storeCode merchantCode : String) :
    Except UnresolvedReason Int :=
  let bindings := db.merchantCodeBindings.filter fun b =>
    b.platform = normPlatform platform ∧ b.storeCode = normStoreCode storeCode ∧
      b.merchantCode = strip merchantCode
  if strip merchantCode = "" then .error .codeNotBound
  else
    match bindings.find? fun b => fskuStatus db b.fskuId = some .published with
    | some b => .ok b.fskuId
    | none =>
        match bindings.head? with
        | some b =>
            if fskuStatus db b.fskuId = none then .error .codeNotBound
            else .error .fskuNotPublished
        | none => .error .codeNotBound

/-- The published FSKU a code names. -/
def publishedFskuByCode (db : OmsDb) (code : String) : Option Int :=
  (db.fskus.rows.find? fun f => f.code = code ∧ f.status = .published).map Fsku.id

/-- The FSKU of a filled code: by binding, else by its own code. -/
def resolveFsku (db : OmsDb) (platform : String) (storeCode : Option String) (code : String) :
    Except UnresolvedReason Int :=
  let byCode : Except UnresolvedReason Int :=
    match publishedFskuByCode db code with
    | some id => .ok id
    | none => .error .codeNotBound
  match storeCode.bind orNone with
  | none => byCode
  | some storeCode =>
      match resolveFskuIdByBinding db platform storeCode code with
      | .ok id => .ok id
      | .error .fskuNotPublished => .error .fskuNotPublished
      | .error _ => byCode

/-- `load_fsku_components`. -/
def loadFskuComponents (db : OmsDb) (fskuId : Int) : List FskuComponent :=
  (db.fskuComponents.rows.filter fun c =>
    c.fskuId = fskuId ∧ fskuStatus db fskuId = some .published).insertionSort fun c d => c.id ≤ d.id

/-- `dec_to_int_qty(to_dec(qty))`; `none` where it raises. -/
def decToIntQty (c : FskuComponent) : Option Int :=
  if c.qtyNum ≤ 0 then some 0
  else if c.qtyNum % c.qtyDen = 0 then some (c.qtyNum / c.qtyDen) else none

/-- Expand the components of a line. What was added before a component raises
stays added; the flag says whether one did. -/
def expandComponents (qty : Int) : List FskuComponent → Tally Int → List ExpandedItem →
    Tally Int × List ExpandedItem × Bool
  | [], map, expanded => (map, expanded, false)
  | c :: comps, map, expanded =>
      match decToIntQty c with
      | none => (map, expanded, true)
      | some cqty =>
          if qty * cqty ≤ 0 then expandComponents qty comps map expanded
          else
            expandComponents qty comps (map.add c.itemId (qty * cqty))
              (expanded ++ [⟨c.itemId, cqty, qty * cqty, c.role⟩])

/-- One round of the resolver's loop. -/
def resolvePlatformLine (db : OmsDb) (platform : String) (storeCode : Option String)
    (acc : Resolution) (line : PlatformLine) : Resolution :=
  let code := codeOf line.filledCode
  let qty := toIntPos line.qty
  let failed (fskuId : Option Int) (reason : UnresolvedReason) (map : Tally Int) : Resolution :=
    { acc with unresolved := acc.unresolved ++ [⟨code, qty, fskuId, reason⟩], itemQtyMap := map }
  if code = "" then failed none .missingFilledCode acc.itemQtyMap
  else
    match resolveFsku db platform storeCode code with
    | .error reason => failed none reason acc.itemQtyMap
    | .ok fskuId =>
        match loadFskuComponents db fskuId with
        | [] => failed (some fskuId) .fskuNotExecutable acc.itemQtyMap
        | comps =>
            match expandComponents qty comps acc.itemQtyMap [] with
            | (map, _, true) => failed (some fskuId) .componentQtyInvalid map
            | (map, expanded, false) =>
                { acc with
                  resolved := acc.resolved ++ [⟨code, qty, fskuId, expanded⟩]
                  itemQtyMap := map }

/-- `resolve_platform_lines_to_items`. -/
def resolvePlatformLinesToItems (db : OmsDb) (platform : String) (storeId : Int)
    (lines : List PlatformLine) : Resolution :=
  let plat := normPlatform platform
  lines.foldl (resolvePlatformLine db plat (loadStoreCodeByStoreId db plat storeId)) {}

end WmsDu
