import WmsDu.Data.Sorting
import WmsDu.Pms.Schema

/-!
# SKU codes

`ItemSkuCodeService`. An item loads its codes with it, so later queries of the
session answer with the copies loaded first, and an update writes what differs
from them.
-/

namespace WmsDu

open Txn

variable {n : Nat}

/-! ## Normal form -/

def isSkuHead (c : Char) : Bool := c.isUpper || c.isDigit

def isSkuChar (c : Char) : Bool := isSkuHead c || c == '.' || c == '_' || c == '-'

/-- `_SKU_PATTERN.fullmatch`. -/
def skuPattern (s : String) : Bool :=
  match s.toList with
  | [] => false
  | c :: cs => isSkuHead c && cs.all isSkuChar && decide (cs.length ≤ 127)

/-- A code in its normal form; the services name the value differently in
their errors. -/
@[irreducible] def normalizeCode (what v : String) : Except PmsErr String :=
  let s := upper (strip v)
  if s = "" then .error (.valueError s!"{what} 不能为空")
  else if 128 < s.length then .error (.valueError s!"{what} 长度不能超过 128")
  else if ¬ skuPattern s then .error (.valueError s!"invalid {what}")
  else .ok s

/-- `normalize_sku_code`. -/
def normalizeSkuCode (v : String) : Except PmsErr String := normalizeCode "sku code" v

/-- `_validate_sku`. -/
def validateSku (v : String) : Except PmsErr String := normalizeCode "sku" v

theorem skuChar_range {c : Char} (h : isSkuChar c = true) : 45 ≤ c.toNat ∧ c.toNat ≤ 95 := by
  have hupper : c.isUpper = true → 65 ≤ c.toNat ∧ c.toNat ≤ 90 := by
    intro hc
    have hc := of_decide_eq_true hc
    exact ⟨UInt32.le_iff_toNat_le.mp hc.1, UInt32.le_iff_toNat_le.mp hc.2⟩
  have hdigit : c.isDigit = true → 48 ≤ c.toNat ∧ c.toNat ≤ 57 := by
    intro hc
    have hc := (Bool.and_eq_true _ _).mp hc
    exact ⟨UInt32.le_iff_toNat_le.mp (of_decide_eq_true hc.1),
      UInt32.le_iff_toNat_le.mp (of_decide_eq_true hc.2)⟩
  simp only [isSkuChar, isSkuHead, Bool.or_eq_true, beq_iff_eq] at h
  rcases h with (((h | h) | rfl) | rfl) | rfl
  · have := hupper h
    omega
  · have := hdigit h
    omega
  · decide
  · decide
  · decide

theorem skuPattern_chars {s : String} (h : skuPattern s = true) :
    ∀ c ∈ s.toList, 45 ≤ c.toNat ∧ c.toNat ≤ 95 := by
  unfold skuPattern at h
  split at h
  · cases h
  · rename_i c cs hs
    simp only [Bool.and_eq_true, List.all_eq_true] at h
    rw [hs]
    intro d hd
    rcases List.mem_cons.mp hd with rfl | hd
    · refine skuChar_range ?_
      simp [isSkuChar, h.1.1]
    · exact skuChar_range (h.1.2 d hd)

private theorem not_space_of_range {c : Char} (h : 45 ≤ c.toNat) (h' : c.toNat ≤ 122) :
    isSpaceChar c = false := by
  simp only [isSpaceChar, Bool.or_eq_false_iff, Bool.and_eq_false_iff, decide_eq_false_iff_not,
    beq_eq_false_iff_ne]
  omega

/-- A code is found under every spelling of it. -/
theorem normalizeCode_of_lower_eq (what : String) {s code : String} (hcode : skuPattern code = true)
    (h : lower s = lower code) : strip s = s ∧ normalizeCode what s = .ok code := by
  have hchars := skuPattern_chars hcode
  have hupper : upper s = code := by
    refine upper_eq_of_lower_eq (fun d hd => ?_) h
    have := hchars d hd
    omega
  have hstrip : strip s = s := by
    refine strip_eq_self fun c hc => ?_
    have hmem : c.toUpper ∈ code.toList := by
      rw [← hupper, upper, String.toList_ofList]
      exact List.mem_map_of_mem hc
    have hrange := hchars _ hmem
    rw [toNat_toUpper] at hrange
    split at hrange
    · exact not_space_of_range (by omega) (by omega)
    · exact not_space_of_range (by omega) (by omega)
  refine ⟨hstrip, ?_⟩
  have hne : code ≠ "" := by
    rintro rfl
    cases hcode
  have hlen : ¬ 128 < code.length := by
    unfold skuPattern at hcode
    split at hcode
    · cases hcode
    · rename_i c cs hs
      simp only [Bool.and_eq_true, decide_eq_true_eq] at hcode
      rw [← String.length_toList, hs, List.length_cons]
      omega
  unfold normalizeCode
  rw [hstrip, hupper]
  dsimp only
  rw [if_neg hne, if_neg hlen, if_neg (by simp [hcode])]

/-- What is normalised is a code. -/
theorem skuPattern_of_normalizeCode {what v code : String} (h : normalizeCode what v = .ok code) :
    skuPattern code = true := by
  unfold normalizeCode at h
  dsimp only at h
  split at h
  · cases h
  · split at h
    · cases h
    · split at h
      · cases h
      · rename_i hpattern
        rw [← Except.ok.inj h]
        exact not_not.mp hpattern

/-- Codes that differ by case only are the same. -/
theorem eq_of_lower_eq {a b : String} (ha : skuPattern a = true) (hb : skuPattern b = true)
    (h : lower a = lower b) : a = b := by
  have hself : normalizeCode "" a = .ok a := (normalizeCode_of_lower_eq _ ha rfl).2
  rw [(normalizeCode_of_lower_eq _ hb h).2] at hself
  exact (Except.ok.inj hself).symm

/-! ## Lookups -/

/-- `get_sku_code_by_code`. -/
def PmsDb.skuCodeByCode (db : PmsDb) (code : String) : Option SkuCodeRow :=
  db.skuCodes.rows.find? fun c => lower c.code = lower code

/-- `get_primary_sku_code_by_item_id`. -/
def PmsDb.primarySkuCode (db : PmsDb) (itemId : Int) : Option SkuCodeRow :=
  db.skuCodes.rows.find? fun c => c.itemId = itemId ∧ c.isPrimary

/-- `get_active_sku_code_by_code`: the primary code first, then by id. -/
def PmsDb.activeSkuCode (db : PmsDb) (code : String) : Option SkuCodeRow :=
  (sortOn (fun c : SkuCodeRow => toLex (!c.isPrimary, c.id))
    (db.skuCodes.rows.filter fun c => lower c.code = lower code ∧ c.isActive)).head?

/-- `get_item_by_active_code`. -/
def getItemByActiveCode (code : String) : PmsTx n (Option ItemMaster) :=
  if strip code = "" then return none
  else do
    let code ← Prog.ofExcept (normalizeSkuCode (strip code))
    let row ← Prog.read fun db => db.activeSkuCode code
    match row with
    | none => return none
    | some row => getItem row.itemId

/-! ## Creating -/

/-- `create_primary_code_in_current_tx`; the item is in the session. -/
def createPrimaryCodeInCurrentTx (itemId : Int) (code : String) (remark : Option String)
    (newId : Int) (now : Timestamp) : PmsTx n Unit := do
  let code ← Prog.ofExcept (normalizeSkuCode code)
  let existing ← Prog.read fun db => db.skuCodeByCode code
  match existing with
  | some c =>
      Prog.require (c.itemId = itemId ∧ c.isPrimary) (.valueError "SKU code duplicate")
  | none =>
      insertCode
        { id := newId, itemId := itemId, code := code, codeType := .primary, isPrimary := true
          isActive := true, effectiveFrom := some now, effectiveTo := none, remark := remark }

/-- What `create_code` makes of a violated constraint. -/
def asCodeDuplicate : PmsErr → PmsErr
  | .integrity _ => .valueError "SKU code duplicate"
  | e => e

/-- `ItemSkuCodeCreate`. -/
structure ItemSkuCodeCreate where
  code : String
  codeType : SkuCodeType := .aliasCode
  isActive : Bool := true
  effectiveFrom : Option Timestamp := none
  effectiveTo : Option Timestamp := none
  remark : Option String := none

/-- `create_code`, under the id the sequence draws. -/
def createCode (itemId : Int) (body : ItemSkuCodeCreate) (newId : Int) : PmsTx n Unit := do
  let item ← getItem itemId
  let _ ← Prog.requireSome item (.valueError "Item not found")
  let code ← Prog.ofExcept (normalizeSkuCode body.code)
  Prog.require (body.codeType ≠ .primary)
    (.valueError "PRIMARY code must be changed via change-primary action")
  let existing ← Prog.read fun db => db.skuCodeByCode code
  Prog.require (existing = none) (.valueError "SKU code duplicate")
  (insertCode
    { id := newId, itemId := itemId, code := code, codeType := body.codeType, isPrimary := false
      isActive := body.isActive, effectiveFrom := body.effectiveFrom
      effectiveTo := body.effectiveTo, remark := body.remark }).mapErr asCodeDuplicate

/-! ## Switching on and off -/

/-- `db.get(ItemSkuCode, code_id)` of an item. -/
def getSkuCodeOfItem (itemId codeId : Int) : PmsTx n SkuCodeRow := do
  let obj ← Prog.read fun db => db.skuCodes.lookup codeId
  let obj ← Prog.requireSome obj (.valueError "SKU code not found")
  Prog.require (obj.itemId = itemId) (.valueError "SKU code not found")
  return obj

/-- `disable_code`. -/
def disableCode (itemId codeId : Int) (now : Timestamp) : PmsTx n Unit := do
  let obj ← getSkuCodeOfItem itemId codeId
  Prog.require (¬ obj.isPrimary) (.valueError "primary sku code cannot be disabled")
  updateCode obj
    { obj with isActive := false, effectiveTo := some (obj.effectiveTo.getD now) }

/-- `enable_code`. -/
def enableCode (itemId codeId : Int) : PmsTx n Unit := do
  let obj ← getSkuCodeOfItem itemId codeId
  updateCode obj { obj with isActive := true }

/-! ## Changing the primary code -/

/-- What `change_primary` makes of a constraint violated at its commit. -/
def asPrimaryDuplicate : PmsErr → PmsErr
  | .integrity c =>
      if c ∈ ["fk_items_brand", "fk_items_category", "fk_items_supplier"] then .dbIntegrity c
      else .valueError "SKU code duplicate"
  | e => e

/-- A code that is made the primary one. -/
def SkuCodeRow.promoted (c : SkuCodeRow) : SkuCodeRow :=
  { c with codeType := .primary, isPrimary := true, isActive := true, effectiveTo := none }

/-- A code that is no longer the primary one. -/
def SkuCodeRow.demoted (c : SkuCodeRow) (now : Timestamp) : SkuCodeRow :=
  { c with codeType := .aliasCode, isPrimary := false, isActive := true, effectiveTo := some now }

/-- The end of `change_primary`: the code is created or promoted. The session
flushes the item first. -/
def promoteCode (item : ItemMaster) (existing : Option SkuCodeRow) (code : String)
    (remark : Option String) (newId : Int) (now : Timestamp) : PmsTx n Unit := do
  updateItem item { item with sku := code }
  match existing with
  | none =>
      insertCode
        { id := newId, itemId := item.id, code := code, codeType := .primary, isPrimary := true
          isActive := true, effectiveFrom := some now, effectiveTo := none, remark := remark }
  | some c =>
      updateCode c
        { c.promoted with
          effectiveFrom := some (c.effectiveFrom.getD now), remark := remark.or c.remark }

/-- `change_primary`. The codes loaded with the item stand for their rows in
the later queries. -/
def changePrimary (itemId : Int) (code : String) (remark : Option String) (newId : Int)
    (now : Timestamp) : PmsTx n Unit := do
  let item ← getItem itemId
  let item ← Prog.requireSome item (.valueError "Item not found")
  let loaded ← Prog.read fun db => db.skuCodes.rows.filter fun c => c.itemId = item.id
  let code ← Prog.ofExcept (normalizeSkuCode code)
  let existing ← Prog.read fun db => (db.skuCodeByCode code).map (asLoaded SkuCodeRow.id loaded)
  Prog.require (∀ c ∈ existing, c.itemId = itemId) (.valueError "SKU code duplicate")
  let loaded := existing.toList ++ loaded
  let oldPrimary ← Prog.read fun db =>
    (db.primarySkuCode itemId).map (asLoaded SkuCodeRow.id loaded)
  match oldPrimary with
  | none => (promoteCode item existing code remark newId now).mapErr asPrimaryDuplicate
  | some old =>
      if old.code = code then
        updateItem item { item with sku := code }
        updateCode old old.promoted
      else
        updateCode old (old.demoted now)
        (promoteCode item existing code remark newId now).mapErr asPrimaryDuplicate

end WmsDu
