import WmsDu.Oms.OrderRef
import WmsDu.Theorems.Ingest

/-!
# Order references name one order

The reference of an order is read back to the order exactly when its platform
and store are not blank and hold no colon, its number is not blank, and store
and number have no blanks around them. Ingest takes other texts too, and then
two orders can share a reference, or a reference can name no order.
-/

namespace WmsDu

open Txn

/-! ## What ingest stores -/

/-- The reference an ingest answers with is that of its order. -/
theorem ingestAnswer_ref (req : IngestRequest) (hit : Bool) (orderId : Int) (route : RoutePayload) :
    (ingestAnswer req hit orderId route).ref = req.order.sourceRef := by
  have hup : upper req.order.platform = req.order.platform := upper_strip_upper req.platform
  show s!"ORD:{req.order.platform}:{req.storeCode}:{req.extOrderNo}" =
    s!"ORD:{upper req.order.platform}:{req.order.storeCode}:{req.order.extOrderNo}"
  rw [hup]
  rfl

/-- The keys of the stored orders: distinct, with a stripped upper-case
platform. -/
structure OrdersOk (db : OmsDb) : Prop where
  normalized : ∀ o ∈ db.wms.orders.rows,
    upper o.platform = o.platform ∧ strip o.platform = o.platform
  unique : ∀ o ∈ db.wms.orders.rows, ∀ p ∈ db.wms.orders.rows, o.platform = p.platform →
    o.storeCode = p.storeCode → o.extOrderNo = p.extOrderNo → o = p

/-- A committed call adds its order, or none. -/
theorem ingestStep_orders (req : IngestRequest) (db : OmsDb) :
    (ingestStep req db).wms.orders = db.wms.orders ∨
      orderByKey db req.order.platform req.order.storeCode req.order.extOrderNo = none ∧
        ¬ db.wms.orders.HasKey req.orderId ∧
        (ingestStep req db).wms.orders = db.wms.orders.insert req.order := by
  rcases Sess.call_cases (ingest req) db with ⟨out, db', hrun, hstep⟩ | hsame
  swap
  · rw [ingestStep, hsame]
    exact .inl rfl
  rw [ingestStep, hstep]
  obtain ⟨db₁, ⟨hwms, -⟩, db₂, db₃, orderId, hlines, ⟨hwms', -⟩, hcase⟩ := run_ingest_ok hrun
  have horders : db'.wms.orders = db₂.wms.orders := by
    rw [show db'.wms = db₃.wms from hwms']
    rcases run_insertOrderLines_ok hlines with ⟨-, hsame⟩ | ⟨-, -, -, t, hsame, -⟩
    · cases hsame
      rfl
    · cases hsame
      rfl
  rw [show db₁.wms = db.wms from hwms] at hcase
  rcases hcase with ⟨-, -, -, rfl, -⟩ | ⟨hnone, -, hfresh, hitems⟩
  · exact .inl (horders.trans (congrArg Db.orders hwms))
  · obtain ⟨t, ht⟩ := run_insertOrderItems_ok req.items 0 rfl hitems
    cases ht
    refine .inr ⟨?_, hfresh, ?_⟩
    · unfold orderByKey at hnone ⊢
      rw [show db₁.wms = db.wms from hwms] at hnone
      exact hnone
    · rw [horders]
      show db₁.wms.orders.insert req.order = _
      rw [show db₁.wms = db.wms from hwms]

theorem OrdersOk.ingestStep {db : OmsDb} (h : OrdersOk db) (req : IngestRequest) :
    OrdersOk (ingestStep req db) := by
  rcases ingestStep_orders req db with hsame | ⟨hnone, hfresh, hrows⟩
  · exact ⟨by rw [hsame]; exact h.normalized, by rw [hsame]; exact h.unique⟩
  have hmem : ∀ o, o ∈ (WmsDu.ingestStep req db).wms.orders.rows ↔
      o ∈ db.wms.orders.rows ∨ o = req.order := by
    intro o
    rw [hrows, Table.rows_insert_new hfresh, List.mem_append, List.mem_singleton]
  have hother : ∀ o ∈ db.wms.orders.rows, ¬ (o.platform = req.order.platform ∧
      o.storeCode = req.order.storeCode ∧ o.extOrderNo = req.order.extOrderNo) := by
    intro o ho hkey
    have hno := List.find?_eq_none.mp hnone o ho
    exact hno (decide_eq_true hkey)
  constructor
  · intro o ho
    rcases (hmem o).mp ho with ho | rfl
    · exact h.normalized o ho
    · exact ⟨upper_strip_upper req.platform, strip_strip (upper req.platform)⟩
  · intro o ho p hp hplat hstore hext
    rcases (hmem o).mp ho with ho | rfl <;> rcases (hmem p).mp hp with hp | rfl
    · exact h.unique o ho p hp hplat hstore hext
    · exact absurd ⟨hplat, hstore, hext⟩ (hother o ho)
    · exact absurd ⟨hplat.symm, hstore.symm, hext.symm⟩ (hother p hp)
    · rfl

/-! ## Reading a reference back -/

/-- Platform and store are not blank and hold no colon, the number is not
blank, and store and number have no blanks around them. -/
structure OrderHead.Plain (o : OrderHead) : Prop where
  platform : o.platform ≠ "" ∧ ':' ∉ o.platform.toList
  store : o.storeCode ≠ "" ∧ ':' ∉ o.storeCode.toList ∧ strip o.storeCode = o.storeCode
  ext : o.extOrderNo ≠ "" ∧ strip o.extOrderNo = o.extOrderNo

section Resolve
variable {db : OmsDb} {o : OrderHead}

theorem strip_sourceRef_ne (o : OrderHead) : strip o.sourceRef ≠ "" := by
  intro h
  have hlist := o.toList_strip_sourceRef
  rw [h] at hlist
  simp at hlist

theorem not_isDigits_sourceRef (o : OrderHead) : ¬ isDigits (strip o.sourceRef) := by
  rintro ⟨-, hall⟩
  have hmem : 'O' ∈ (strip o.sourceRef).toList := by
    rw [o.toList_strip_sourceRef]
    simp
  exact absurd (hall 'O' hmem) (by decide)

/-- A number is never its order's reference. -/
theorem extOrderNo_ne_sourceRef (o : OrderHead) : o.extOrderNo ≠ strip o.sourceRef := by
  intro h
  have hlist := o.toList_strip_sourceRef
  -- a stripped text loses nothing at its end
  have hend : o.extOrderNo.toList.rdropWhile isSpaceChar = o.extOrderNo.toList := by
    rw [h]
    exact rdropWhile_strip _
  rw [hend, ← h] at hlist
  have hlength := congrArg List.length hlist
  simp only [List.length_append, List.length_cons] at hlength
  omega

/-- The stored order of a key. -/
theorem OrdersOk.orderByKey_self (h : OrdersOk db) (ho : o ∈ db.wms.orders.rows) :
    orderByKey db o.platform o.storeCode o.extOrderNo = some o := by
  cases hfound : orderByKey db o.platform o.storeCode o.extOrderNo with
  | none => exact absurd (decide_eq_true ⟨rfl, rfl, rfl⟩) (List.find?_eq_none.mp hfound o ho)
  | some p =>
      obtain ⟨hp, hplatform, hstore, hext⟩ := orderByKey_eq_some hfound
      rw [h.unique p hp o ho hplatform hstore hext]

/-- A resolved reference is that of an order without stray colons and
blanks. -/
theorem plain_of_resolved (ho : o ∈ db.wms.orders.rows)
    (h : resolveOrderId o.sourceRef db = .ok o.id) : o.Plain := by
  unfold resolveOrderId at h
  dsimp only at h
  rw [if_neg (strip_sourceRef_ne o), if_neg (not_isDigits_sourceRef o)] at h
  split at h
  · rename_i key hkey
    obtain ⟨hplatform, hstore, hext⟩ := parseOrderKey_eq_some hkey
    split at h
    · rename_i p hfound
      obtain ⟨hp, hfields⟩ := orderByKey_eq_some hfound
      have heq : p = o := db.wms.orders.eq_of_key hp ho (Except.ok.inj h)
      rw [heq] at hfields
      rw [← hfields.1] at hplatform
      rw [← hfields.2.1] at hstore
      rw [← hfields.2.2] at hext
      exact ⟨hplatform, hstore, hext⟩
    · cases h
  · -- the whole reference was taken for a number
    split at h
    · cases h
    · rename_i p hfound
      have hp : p ∈ ordersByExtOrderNo db (strip o.sourceRef) := by rw [hfound]; simp
      obtain ⟨hp, hext⟩ := List.mem_filter.mp ((List.mem_insertionSort _).mp hp)
      have heq : p = o := db.wms.orders.eq_of_key hp ho (Except.ok.inj h)
      rw [heq] at hext
      exact absurd (of_decide_eq_true hext) (extOrderNo_ne_sourceRef o)
    · cases h

/-- A reference without stray colons and blanks is read back. -/
theorem parse_sourceRef (hplain : o.Plain) (hup : upper o.platform = o.platform)
    (hstrip : strip o.platform = o.platform) :
    parseOrderKey (strip o.sourceRef) = some ⟨o.platform, o.storeCode, o.extOrderNo⟩ := by
  have hback : o.extOrderNo.toList.rdropWhile isSpaceChar = o.extOrderNo.toList := by
    conv_lhs => rw [← hplain.ext.2]
    rw [rdropWhile_strip, hplain.ext.2]
  have hsame : strip o.sourceRef = o.sourceRef := by
    rw [← String.toList_inj, o.toList_strip_sourceRef, hback, ← o.toList_sourceRef]
  have href : o.sourceRef = "ORD" ++ String.singleton ':' ++ (o.platform ++ String.singleton ':' ++
      (o.storeCode ++ String.singleton ':' ++ o.extOrderNo)) := by
    rw [← String.toList_inj, o.toList_sourceRef, hup]
    simp
  have hparts : splitOnChar ':' o.sourceRef =
      "ORD" :: o.platform :: o.storeCode :: splitOnChar ':' o.extOrderNo := by
    rw [href, splitOnChar_append (by decide), splitOnChar_append hplain.platform.2,
      splitOnChar_append hplain.store.2.1]
  have hsome : 1 ≤ (splitOnChar ':' o.extOrderNo).length := by
    rw [splitOnChar, List.length_map]
    exact List.length_pos_iff.mpr (List.splitOn_ne_nil _ _)
  have hlength : 4 ≤ (splitOnChar ':' o.sourceRef).length := by
    rw [hparts]
    simp only [List.length_cons]
    omega
  have hord : upper "ORD" = "ORD" := by decide
  unfold parseOrderKey
  dsimp only
  rw [hsame, hsame, if_neg (hsame ▸ strip_sourceRef_ne o), if_pos ⟨hlength, by rw [hparts]; exact hord⟩,
    hparts]
  show orderKeyOf o.platform o.storeCode (joinWith ':' (splitOnChar ':' o.extOrderNo)) = _
  rw [joinWith_splitOnChar, orderKeyOf, hstrip, hplain.store.2.2, hplain.ext.2,
    if_pos ⟨hplain.platform.1, hplain.store.1, hplain.ext.1⟩]

/-- **Round trip.** The reference of a stored order is resolved to it exactly
when the order is plain. -/
theorem OrdersOk.resolve_sourceRef_iff (h : OrdersOk db) (ho : o ∈ db.wms.orders.rows) :
    resolveOrderId o.sourceRef db = .ok o.id ↔ o.Plain := by
  refine ⟨plain_of_resolved ho, fun hplain => ?_⟩
  obtain ⟨hup, hstrip⟩ := h.normalized o ho
  unfold resolveOrderId
  dsimp only
  rw [if_neg (strip_sourceRef_ne o), if_neg (not_isDigits_sourceRef o),
    parse_sourceRef hplain hup hstrip]
  dsimp only
  rw [h.orderByKey_self ho]

end Resolve

/-- **Faithful references.** After any ingests, the references of the stored
orders are distinct and each is resolved to its order exactly when every
stored order is plain. -/
theorem order_refs_faithful {db₀ db : OmsDb} (h₀ : db₀.wms.orders.rows = [])
    (h : Calls ingestStep (fun _ _ => True) db₀ db) :
    ((∀ o ∈ db.wms.orders.rows, ∀ p ∈ db.wms.orders.rows, o ≠ p → o.sourceRef ≠ p.sourceRef) ∧
      ∀ o ∈ db.wms.orders.rows, resolveOrderId o.sourceRef db = .ok o.id) ↔
      ∀ o ∈ db.wms.orders.rows, o.Plain := by
  have hstart : OrdersOk db₀ := by
    constructor <;> rw [h₀] <;> intro o ho <;> cases ho
  have hok : OrdersOk db := h.invariant hstart fun _ req _ _ hdb => hdb.ingestStep req
  constructor
  · rintro ⟨-, hresolved⟩ o ho
    exact (hok.resolve_sourceRef_iff ho).mp (hresolved o ho)
  · intro hplain
    have hresolved : ∀ o ∈ db.wms.orders.rows, resolveOrderId o.sourceRef db = .ok o.id :=
      fun o ho => (hok.resolve_sourceRef_iff ho).mpr (hplain o ho)
    refine ⟨fun o ho p hp hne heq => hne ?_, hresolved⟩
    have hid := hresolved o ho
    rw [heq, hresolved p hp] at hid
    exact db.wms.orders.eq_of_key ho hp (Except.ok.inj hid).symm

/-! ## Two stores -/

/-- An order without items. -/
def sampleOrderCall (id : Int) (storeCode extOrderNo : String) : IngestRequest where
  platform := " pdd "
  storeCode := storeCode
  extOrderNo := extOrderNo
  items := []
  storeId := id
  orderId := id
  itemRowId := fun _ => 0
  lineId := fun _ => 0

/-- A shop without orders. -/
def emptyShop : OmsDb where
  wms := {}

/-- A number may hold colons. -/
theorem order_refs_faithful_sample :
    let db := ingestStep (sampleOrderCall 2 "S1" "77")
      (ingestStep (sampleOrderCall 1 "S1" "A:7") emptyShop)
    db.wms.orders.rows.map (·.sourceRef) = ["ORD:PDD:S1:A:7", "ORD:PDD:S1:77"] ∧
      (((∀ o ∈ db.wms.orders.rows, ∀ p ∈ db.wms.orders.rows, o ≠ p →
          o.sourceRef ≠ p.sourceRef) ∧
        ∀ o ∈ db.wms.orders.rows, resolveOrderId o.sourceRef db = .ok o.id) ↔
        ∀ o ∈ db.wms.orders.rows, o.Plain) := by
  have hempty : emptyShop.wms.orders.rows = [] := rfl
  refine ⟨by decide +kernel, order_refs_faithful hempty ?_⟩
  exact .call _ (.call _ .start trivial) trivial

/-- The colon of a store code makes two orders share their reference, and the
reference of the second one names the first. -/
theorem order_refs_shared : ∃ db,
    Calls ingestStep (fun _ _ => True) emptyShop db ∧
      ∃ o ∈ db.wms.orders.rows, ∃ p ∈ db.wms.orders.rows, o.id ≠ p.id ∧
        o.sourceRef = p.sourceRef ∧ resolveOrderId p.sourceRef db = .ok o.id := by
  refine ⟨_, .call (sampleOrderCall 2 "S1:A" "7")
    (.call (sampleOrderCall 1 "S1" "A:7") .start trivial) trivial, ?_⟩
  decide +kernel

end WmsDu
