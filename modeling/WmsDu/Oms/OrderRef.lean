import WmsDu.Oms.IngestRuns
import WmsDu.Outbound.Submit

/-!
# Order references

The ledger names an order by one text, its platform, store and number joined
by colons. The resolver reads such a text back, and also takes the number of
a row or an order number alone.
-/

namespace WmsDu

/-! ## Parsing -/

structure OrderKey where
  platform : String
  storeCode : String
  extOrderNo : String
deriving DecidableEq, Repr

/-- Three fields, none of them blank. -/
def orderKeyOf (platform storeCode ext : String) : Option OrderKey :=
  if strip platform ≠ "" ∧ strip storeCode ≠ "" ∧ strip ext ≠ "" then
    some ⟨strip platform, strip storeCode, strip ext⟩
  else none

/-- `_parse_order_key`. -/
def parseOrderKey (orderRef : String) : Option OrderKey :=
  let s := strip orderRef
  if s = "" then none
  else
    let parts := splitOnChar ':' s
    -- ORD:PLAT:STORE:EXT
    if 4 ≤ parts.length ∧ upper (parts.getD 0 "") = "ORD" then
      orderKeyOf (parts.getD 1 "") (parts.getD 2 "") (joinWith ':' (parts.drop 3))
    -- PLAT:STORE:EXT
    else if 3 ≤ parts.length then
      orderKeyOf (parts.getD 0 "") (parts.getD 1 "") (joinWith ':' (parts.drop 2))
    else none

/-! ## Resolving -/

/-- `str.isdigit`. -/
def isDigits (s : String) : Prop := s ≠ "" ∧ ∀ c ∈ s.toList, c.isDigit

instance (s : String) : Decidable (isDigits s) :=
  @instDecidableAnd _ _ _ (List.decidableBAll (fun c : Char => c.isDigit = true) s.toList)

/-- `int(s)` of a text of digits. -/
def intOfDigits (s : String) : Int :=
  s.toList.foldl (fun n c => 10 * n + (c.toNat - '0'.toNat : Nat)) 0

/-- The orders of a number, oldest first. -/
def ordersByExtOrderNo (db : OmsDb) (extOrderNo : String) : List OrderHead :=
  (db.wms.orders.rows.filter fun o => o.extOrderNo = extOrderNo).insertionSort fun a b =>
    a.id ≤ b.id

/-- `resolve_order_id`. -/
def resolveOrderId (orderRef : String) (db : OmsDb) : Except Err Int :=
  let s := strip orderRef
  if s = "" then .error (.valueError "order_ref cannot be empty")
  else if isDigits s then
    match db.wms.orders.lookup (intOfDigits s) with
    | some o => .ok o.id
    | none => .error (.problem 404 "order_not_found" "订单不存在（按 orders.id 查询）。" [])
  else
    match parseOrderKey s with
    | some key =>
        match orderByKey db key.platform key.storeCode key.extOrderNo with
        | some o => .ok o.id
        | none =>
            .error (.problem 404 "order_not_found"
              "订单不存在（按 platform/store_code/ext_order_no 查询）。" [])
    | none =>
        match ordersByExtOrderNo db s with
        | [] => .error (.problem 404 "order_not_found" "订单不存在（按 ext_order_no 查询）。" [])
        | [o] => .ok o.id
        | a :: b :: _ =>
            .error (.problem 409 "order_ref_ambiguous"
              "订单引用歧义：仅 ext_order_no 无法唯一定位订单，请传 ORD:PLAT:STORE:EXT。"
              [("id", toString a.id), ("platform", a.platform), ("store_code", a.storeCode),
                ("id", toString b.id), ("platform", b.platform), ("store_code", b.storeCode)])

/-- The order found by a key has it. -/
theorem orderByKey_eq_some {db : OmsDb} {platform storeCode extOrderNo : String} {o : OrderHead}
    (h : orderByKey db platform storeCode extOrderNo = some o) :
    o ∈ db.wms.orders.rows ∧ o.platform = platform ∧ o.storeCode = storeCode ∧
      o.extOrderNo = extOrderNo := by
  have hkey := List.find?_some (p := fun o : OrderHead => decide (o.platform = platform ∧
    o.storeCode = storeCode ∧ o.extOrderNo = extOrderNo)) h
  exact ⟨List.mem_of_find?_eq_some h, of_decide_eq_true hkey⟩

/-! ## The text of a reference -/

/-- A reference behind its prefix. -/
theorem OrderHead.toList_sourceRef (o : OrderHead) : o.sourceRef.toList =
    "ORD".toList ++ ':' :: (upper o.platform).toList ++ ':' :: o.storeCode.toList ++
      ':' :: o.extOrderNo.toList := by
  simp [OrderHead.sourceRef, toString]

/-- Only the end of the number can lose blanks. -/
theorem OrderHead.toList_strip_sourceRef (o : OrderHead) : (strip o.sourceRef).toList =
    "ORD".toList ++ ':' :: (upper o.platform).toList ++ ':' :: o.storeCode.toList ++
      ':' :: o.extOrderNo.toList.rdropWhile isSpaceChar := by
  have href : o.sourceRef = ("ORD:" ++ upper o.platform ++ ":" ++ o.storeCode) ++
      String.singleton ':' ++ o.extOrderNo := by
    rw [← String.toList_inj, o.toList_sourceRef]
    simp
  rw [href, strip_append_nonspace ⟨'O', _, by simp; rfl, by decide⟩ (by decide)]
  simp

/-! ## What parsing gives -/

theorem orderKeyOf_eq_some {platform storeCode ext : String} {key : OrderKey}
    (h : orderKeyOf platform storeCode ext = some key) :
    (strip platform ≠ "" ∧ strip storeCode ≠ "" ∧ strip ext ≠ "") ∧
      key = ⟨strip platform, strip storeCode, strip ext⟩ := by
  unfold orderKeyOf at h
  split at h
  · cases h
    exact ⟨‹_›, rfl⟩
  · cases h

/-- A field of a split text, or the default, has no separator. -/
theorem not_mem_field (sep : Char) (s : String) (n : Nat) :
    sep ∉ ((splitOnChar sep s).getD n "").toList := by
  rw [List.getD_eq_getElem?_getD]
  cases hn : (splitOnChar sep s)[n]? with
  | none => simp
  | some part => exact not_mem_splitOnChar (List.mem_of_getElem? hn)

/-- A key that is read has no blank field, no blanks around a field, and no
colon but in the number. -/
theorem parseOrderKey_eq_some {s : String} {key : OrderKey} (h : parseOrderKey s = some key) :
    (key.platform ≠ "" ∧ ':' ∉ key.platform.toList) ∧
      (key.storeCode ≠ "" ∧ ':' ∉ key.storeCode.toList ∧ strip key.storeCode = key.storeCode) ∧
      (key.extOrderNo ≠ "" ∧ strip key.extOrderNo = key.extOrderNo) := by
  have hkey : ∀ {n m : Nat} {ext : String},
      orderKeyOf ((splitOnChar ':' (strip s)).getD n "") ((splitOnChar ':' (strip s)).getD m "")
        ext = some key →
      (key.platform ≠ "" ∧ ':' ∉ key.platform.toList) ∧
        (key.storeCode ≠ "" ∧ ':' ∉ key.storeCode.toList ∧ strip key.storeCode = key.storeCode) ∧
        (key.extOrderNo ≠ "" ∧ strip key.extOrderNo = key.extOrderNo) := by
    intro n m ext hof
    obtain ⟨⟨hp, hs, he⟩, rfl⟩ := orderKeyOf_eq_some hof
    exact ⟨⟨hp, fun hc => not_mem_field ':' _ n (mem_strip hc)⟩,
      ⟨hs, fun hc => not_mem_field ':' _ m (mem_strip hc), strip_strip _⟩, he, strip_strip _⟩
  unfold parseOrderKey at h
  dsimp only at h
  split at h
  · cases h
  · split at h
    · exact hkey h
    · split at h
      · exact hkey h
      · cases h

end WmsDu
