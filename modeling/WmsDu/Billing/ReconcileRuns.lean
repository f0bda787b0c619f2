import WmsDu.Billing.BillMap

/-!
# What one item of the pass does

An item that gets an open row takes the place of every row of its own or of
its record, and an item that agrees removes them; the rows of other items and
other records stand as they were.
-/

namespace WmsDu

open BillingDb

/-- The row is neither the item's nor the record's. -/
def ShippingRecordReconciliation.Apart (s : ShippingRecordReconciliation) (itemId : Int)
    (recordId : Option Int) : Prop :=
  s.carrierBillItemId ≠ itemId ∧ (recordId.isSome → s.shippingRecordId ≠ recordId)

namespace BillingDb

variable {db db' : BillingDb} {row : ShippingRecordReconciliation}

theorem checkReconciliation_eq_ok {u : Unit} : db.checkReconciliation row = .ok u ↔
    row.check = none ∧ ∀ s ∈ db.reconciliations.rows, s.id ≠ row.id →
      s.Apart row.carrierBillItemId row.shippingRecordId := by
  unfold checkReconciliation
  cases hcheck : row.check with
  | some c => simp
  | none =>
      have hfind : (db.reconciliations.rows.findSome? fun s =>
          if s.id = row.id then none else row.violates s) = none ↔
          ∀ s ∈ db.reconciliations.rows, s.id ≠ row.id →
            s.Apart row.carrierBillItemId row.shippingRecordId := by
        rw [List.findSome?_eq_none_iff]
        refine forall₂_congr fun s _ => ?_
        by_cases hid : s.id = row.id
        · simp [hid]
        · unfold ShippingRecordReconciliation.violates ShippingRecordReconciliation.Apart
          by_cases hitem : s.carrierBillItemId = row.carrierBillItemId
          · simp [hid, hitem]
          · simp [hid, hitem]
      dsimp only
      split
      · rename_i c hc
        rw [hc] at hfind
        exact iff_of_false nofun fun h => nomatch hfind.mpr h.2
      · rename_i hc
        exact iff_of_true rfl ⟨rfl, hfind.mp hc⟩

/-- What an upsert leaves: its row, and the rows apart from it. -/
structure Upserted (db : BillingDb) (row : ShippingRecordReconciliation) (db' : BillingDb) :
    Prop where
  frame : db' = { db with
    reconciliations := db'.reconciliations, reconciliationSeq := db'.reconciliationSeq }
  rows : ∃ id, ∀ s, s ∈ db'.reconciliations.rows ↔
    (s ∈ db.reconciliations.rows ∧ s.Apart row.carrierBillItemId row.shippingRecordId) ∨
      s = { row with id }
  ids : (∀ s ∈ db.reconciliations.rows, s.id ≤ db.reconciliationSeq) →
    ∀ s ∈ db'.reconciliations.rows, s.id ≤ db'.reconciliationSeq

/-- A row that is not selected is apart. -/
private theorem apart_iff {s : ShippingRecordReconciliation} :
    ¬ (s.carrierBillItemId = row.carrierBillItemId ∨
      row.shippingRecordId.isSome ∧ s.shippingRecordId = row.shippingRecordId) ↔
      s.Apart row.carrierBillItemId row.shippingRecordId := by
  rw [not_or, not_and]
  rfl

theorem upsertReconciliation_ok (h : db.upsertReconciliation row = .ok db') :
    Upserted db row db' := by
  unfold upsertReconciliation at h
  dsimp only at h
  split at h
  · rename_i id hid
    simp only [bind_eq_ok, checkReconciliation_eq_ok, pure_eq_ok] at h
    obtain ⟨_, ⟨-, hothers⟩, rfl⟩ := h
    obtain ⟨c, hc, hcid⟩ := List.mem_map.mp (List.max?_mem hid)
    obtain ⟨hc, hsel⟩ := List.mem_filter.mp hc
    have hkey : db.reconciliations.HasKey id := ⟨c, hc, hcid⟩
    refine ⟨rfl, ⟨id, fun s => ?_⟩, ?_⟩
    · rw [Table.mem_put]
      refine or_congr (and_congr_right fun hs => ⟨fun hne => hothers s hs hne, fun hap hsid => ?_⟩)
        ⟨fun h => h.1, fun h => ⟨h, hkey⟩⟩
      -- the row of the chosen id is selected, so it is not apart
      have heq : s = c := db.reconciliations.eq_of_key hs hc (hsid.trans hcid.symm)
      rw [heq] at hap
      exact apart_iff.mpr hap (of_decide_eq_true hsel)
    · intro hids s hs
      rcases Table.mem_put.mp hs with ⟨hs, -⟩ | ⟨rfl, -⟩
      · exact hids s hs
      · exact hcid ▸ hids c hc
  · rename_i hnone
    simp only [bind_eq_ok, demand_eq_ok, checkReconciliation_eq_ok, pure_eq_ok] at h
    obtain ⟨_, hnew, _, -, rfl⟩ := h
    have hempty := List.map_eq_nil_iff.mp (List.max?_eq_none_iff.mp hnone)
    have hapart : ∀ s ∈ db.reconciliations.rows,
        s.Apart row.carrierBillItemId row.shippingRecordId := fun s hs =>
      apart_iff.mp fun hsel => List.filter_eq_nil_iff.mp hempty s hs (decide_eq_true hsel)
    refine ⟨rfl, ⟨db.reconciliationSeq + 1, fun s => ?_⟩, ?_⟩
    · dsimp only
      rw [Table.rows_insert_new hnew, List.mem_append, List.mem_singleton]
      exact or_congr_left ⟨fun hs => ⟨hs, hapart s hs⟩, fun h => h.1⟩
    · intro hids s hs
      dsimp only at hs ⊢
      rw [Table.rows_insert_new hnew, List.mem_append, List.mem_singleton] at hs
      rcases hs with hs | rfl
      · exact (hids s hs).trans (by omega)
      · exact le_refl _

/-- The unique indexes of the open rows, and their sequence. -/
structure RowsOk (db : BillingDb) : Prop where
  item : ∀ r ∈ db.reconciliations.rows, ∀ s ∈ db.reconciliations.rows,
    r.carrierBillItemId = s.carrierBillItemId → r = s
  record : ∀ r ∈ db.reconciliations.rows, ∀ s ∈ db.reconciliations.rows,
    r.shippingRecordId.isSome → r.shippingRecordId = s.shippingRecordId → r = s
  ids : ∀ s ∈ db.reconciliations.rows, s.id ≤ db.reconciliationSeq

theorem Upserted.rowsOk (h : Upserted db row db') (hdb : db.RowsOk) : db'.RowsOk := by
  obtain ⟨id, hrows⟩ := h.rows
  refine ⟨fun r hr s hs heq => ?_, fun r hr s hs hsome heq => ?_, h.ids hdb.ids⟩
  · rcases (hrows r).mp hr with ⟨hr, hra⟩ | rfl <;> rcases (hrows s).mp hs with ⟨hs, hsa⟩ | rfl
    · exact hdb.item r hr s hs heq
    · exact absurd heq hra.1
    · exact absurd heq.symm hsa.1
    · rfl
  · rcases (hrows r).mp hr with ⟨hr, hra⟩ | rfl <;> rcases (hrows s).mp hs with ⟨hs, hsa⟩ | rfl
    · exact hdb.record r hr s hs hsome heq
    · exact absurd heq (hra.2 (heq ▸ hsome))
    · exact absurd heq.symm (hsa.2 hsome)
    · rfl

/-- The item's own open row, if it has one, is the one that holds the
record. -/
def Unheld (db : BillingDb) (itemId : Int) (recordId : Option Int) : Prop :=
  ∀ r ∈ db.reconciliations.rows, ∀ s ∈ db.reconciliations.rows,
    r.carrierBillItemId = itemId → recordId.isSome → s.shippingRecordId = recordId → r = s

/-- The rows an upsert selects are one row. -/
private theorem selected_eq (hdb : db.RowsOk)
    (hfree : db.Unheld row.carrierBillItemId row.shippingRecordId)
    {r s : ShippingRecordReconciliation} (hr : r ∈ db.reconciliations.rows)
    (hs : s ∈ db.reconciliations.rows)
    (hra : ¬ r.Apart row.carrierBillItemId row.shippingRecordId)
    (hsa : ¬ s.Apart row.carrierBillItemId row.shippingRecordId) : r = s := by
  rcases not_not.mp (apart_iff.not.mpr hra) with hr' | ⟨hsome, hr'⟩ <;>
    rcases not_not.mp (apart_iff.not.mpr hsa) with hs' | ⟨hsome', hs'⟩
  · exact hdb.item r hr s hs (hr'.trans hs'.symm)
  · exact hfree r hr s hs hr' hsome' hs'
  · exact (hfree s hs r hr hs' hsome hr').symm
  · exact hdb.record r hr s hs (hr' ▸ hsome) (hr'.trans hs'.symm)

/-- An upsert goes through when the row fits its checks and no other item's
row holds the record of an item with a row of its own. -/
theorem upsertReconciliation_isOk (hdb : db.RowsOk) (hcheck : row.check = none)
    (hfree : db.Unheld row.carrierBillItemId row.shippingRecordId) :
    ∃ db', db.upsertReconciliation row = .ok db' := by
  unfold upsertReconciliation
  dsimp only
  split
  · rename_i id hid
    obtain ⟨c, hc, hcid⟩ := List.mem_map.mp (List.max?_mem hid)
    obtain ⟨hc, hsel⟩ := List.mem_filter.mp hc
    have hcsel := apart_iff.not.mp (not_not.mpr (of_decide_eq_true hsel))
    have hothers : ∀ s ∈ db.reconciliations.rows, s.id ≠ id →
        s.Apart row.carrierBillItemId row.shippingRecordId := by
      intro s hs hne
      by_contra hsa
      have heq := selected_eq hdb hfree hs hc hsa hcsel
      exact hne (heq ▸ hcid)
    have hok : db.checkReconciliation { row with id } = .ok () :=
      checkReconciliation_eq_ok.mpr ⟨hcheck, hothers⟩
    exact ⟨_, bind_eq_ok.mpr ⟨(), hok, rfl⟩⟩
  · rename_i hnone
    have hempty := List.map_eq_nil_iff.mp (List.max?_eq_none_iff.mp hnone)
    have hapart : ∀ s ∈ db.reconciliations.rows,
        s.Apart row.carrierBillItemId row.shippingRecordId := fun s hs =>
      apart_iff.mp fun hsel => List.filter_eq_nil_iff.mp hempty s hs (decide_eq_true hsel)
    have hnew : ¬ db.reconciliations.HasKey (db.reconciliationSeq + 1) := by
      rintro ⟨s, hs, hsid⟩
      have hle := hdb.ids s hs
      omega
    have hok : db.checkReconciliation { row with id := db.reconciliationSeq + 1 } = .ok () :=
      checkReconciliation_eq_ok.mpr ⟨hcheck, fun s hs _ => hapart s hs⟩
    exact ⟨_, bind_eq_ok.mpr ⟨(), demand_eq_ok.mpr hnew, bind_eq_ok.mpr ⟨(), hok, rfl⟩⟩⟩

/-- An upsert of what an open row already says changes nothing. -/
theorem upsertReconciliation_self (hdb : db.RowsOk) (hcheck : row.check = none) {id : Int}
    (hrow : { row with id } ∈ db.reconciliations.rows) : db.upsertReconciliation row = .ok db := by
  have hfree : db.Unheld row.carrierBillItemId row.shippingRecordId := by
    intro r hr s hs hitem hsome hrecord
    have hrr := hdb.item r hr _ hrow hitem
    have hsr := hdb.record _ hrow s hs hsome hrecord.symm
    exact hrr.trans hsr
  have hrowa : ¬ ({ row with id } : ShippingRecordReconciliation).Apart row.carrierBillItemId
      row.shippingRecordId := fun h => h.1 rfl
  unfold upsertReconciliation
  dsimp only
  split
  · rename_i id' hid
    obtain ⟨c, hc, hcid⟩ := List.mem_map.mp (List.max?_mem hid)
    obtain ⟨hc, hsel⟩ := List.mem_filter.mp hc
    have hca := apart_iff.not.mp (not_not.mpr (of_decide_eq_true hsel))
    have heq := selected_eq hdb hfree hc hrow hca hrowa
    have hid' : id' = id := by rw [← hcid, heq]
    subst hid'
    have hothers : ∀ s ∈ db.reconciliations.rows, s.id ≠ id' →
        s.Apart row.carrierBillItemId row.shippingRecordId := by
      intro s hs hne
      by_contra hsa
      exact hne (congrArg (·.id) (selected_eq hdb hfree hs hrow hsa hrowa))
    have hok : db.checkReconciliation { row with id := id' } = .ok () :=
      checkReconciliation_eq_ok.mpr ⟨hcheck, hothers⟩
    refine bind_eq_ok.mpr ⟨(), hok, ?_⟩
    rw [Table.put_self hrow]
    rfl
  · rename_i hnone
    have hempty := List.map_eq_nil_iff.mp (List.max?_eq_none_iff.mp hnone)
    exact absurd (apart_iff.mp fun hsel =>
      List.filter_eq_nil_iff.mp hempty _ hrow (decide_eq_true hsel)) hrowa

end BillingDb

/-! ## One item -/

/-- The item agrees with the record of its number. -/
def Agrees (item : CarrierBillItem) (record : Option ShippingRecord) : Prop :=
  ∃ r ∈ record, ¬ Differs item r

/-- The row of an item that does not agree. -/
def itemRow (code trackingNo : String) (record : Option ShippingRecord) (item : CarrierBillItem) :
    ShippingRecordReconciliation :=
  openRow (if record.isSome then .diff else .billOnly) code trackingNo record item

theorem itemRow_check (code trackingNo : String) (record : Option ShippingRecord)
    (item : CarrierBillItem) : (itemRow code trackingNo record item).check = none := by
  cases record <;> simp [itemRow, openRow, ShippingRecordReconciliation.check]

/-- What one item leaves: the rows apart from it, its own row unless it
agrees, and its archive row if it does. -/
structure Passed (code trackingNo : String) (record : Option ShippingRecord)
    (item : CarrierBillItem) (db db' : BillingDb) : Prop where
  frame : db' = { db with
    reconciliations := db'.reconciliations, reconciliationSeq := db'.reconciliationSeq
    histories := db'.histories }
  archived : ∀ k, db'.Archived k ↔ db.Archived k ∨ Agrees item record ∧ k = item.id
  rows : ∃ id, ∀ s, s ∈ db'.reconciliations.rows ↔
    (s ∈ db.reconciliations.rows ∧ s.Apart item.id (record.map (·.id))) ∨
      ¬ Agrees item record ∧ s = { itemRow code trackingNo record item with id }
  rowsOk : db.RowsOk → db'.RowsOk

section Item
variable {code trackingNo : String} {record : Option ShippingRecord} {item : CarrierBillItem}
  {counts counts' : ReconcileResult} {db db' : BillingDb}

theorem Passed.of_upserted (h : Upserted db (itemRow code trackingNo record item) db')
    (hagrees : ¬ Agrees item record) : Passed code trackingNo record item db db' := by
  obtain ⟨id, hrows⟩ := h.rows
  refine ⟨?_, fun k => ?_, ⟨id, fun s => ?_⟩, h.rowsOk⟩
  · rw [h.frame]
  · rw [h.frame]
    simp [Archived, hagrees]
  · rw [hrows]
    simp [hagrees, itemRow, openRow]

theorem reconcileItem_ok
    (h : reconcileItem code trackingNo item record counts db = .ok (counts', db')) :
    Passed code trackingNo record item db db' := by
  unfold reconcileItem at h
  split at h
  · obtain ⟨db₁, hup, hret⟩ := bind_eq_ok.mp h
    cases hret
    refine .of_upserted (upsertReconciliation_ok hup) ?_
    rintro ⟨r, hr, -⟩
    cases hr
  · rename_i r
    split at h
    · rename_i hdiff
      obtain ⟨db₁, hup, hret⟩ := bind_eq_ok.mp h
      cases hret
      refine .of_upserted (upsertReconciliation_ok hup) ?_
      rintro ⟨r', hr', hsame⟩
      cases hr'
      exact hsame hdiff
    · rename_i hsame
      cases h
      have hagrees : Agrees item (some r) := ⟨r, rfl, hsame⟩
      have hmem : ∀ s, s ∈ (db.deleteReconciliation r.id item.id).reconciliations.rows ↔
          s ∈ db.reconciliations.rows ∧ s.Apart item.id (some r.id) := by
        intro s
        rw [deleteReconciliation, Table.mem_delete, ShippingRecordReconciliation.Apart, not_or]
        simp [and_comm]
      refine ⟨rfl, fun k => ?_, ⟨0, fun s => ?_⟩, fun hok => ?_⟩
      · show (db.histories.insert _).HasKey k ↔ _
        rw [Table.hasKey_insert]
        simp [Archived, hagrees]
      · show s ∈ (db.deleteReconciliation r.id item.id).reconciliations.rows ↔ _
        rw [hmem]
        simp [hagrees]
      · have hsub : ∀ s ∈ (db.deleteReconciliation r.id item.id).reconciliations.rows,
            s ∈ db.reconciliations.rows := fun s hs => ((hmem s).mp hs).1
        exact ⟨fun a ha b hb => hok.item a (hsub a ha) b (hsub b hb),
          fun a ha b hb => hok.record a (hsub a ha) b (hsub b hb),
          fun a ha => hok.ids a (hsub a ha)⟩

/-- An item that does not agree upserts its row. -/
theorem reconcileItem_of_not_agrees (code trackingNo : String) (counts : ReconcileResult)
    (db : BillingDb) (h : ¬ Agrees item record) :
    ∃ counts', reconcileItem code trackingNo item record counts db =
      (db.upsertReconciliation (itemRow code trackingNo record item)).map fun db' =>
        (counts', db') := by
  cases record with
  | none =>
      refine ⟨{ counts with
        billOnlyCount := counts.billOnlyCount + 1, updatedCount := counts.updatedCount + 1 }, ?_⟩
      unfold reconcileItem
      dsimp only
      rw [show itemRow code trackingNo none item = openRow .billOnly code trackingNo none item
        from rfl]
      cases db.upsertReconciliation (openRow .billOnly code trackingNo none item) <;> rfl
  | some r =>
      have hdiff : Differs item r := by
        by_contra hsame
        exact h ⟨r, rfl, hsame⟩
      refine ⟨{ counts with
        diffCount := counts.diffCount + 1, updatedCount := counts.updatedCount + 1 }, ?_⟩
      unfold reconcileItem
      dsimp only
      rw [if_pos hdiff, show itemRow code trackingNo (some r) item =
        openRow .diff code trackingNo (some r) item from rfl]
      cases db.upsertReconciliation (openRow .diff code trackingNo (some r) item) <;> rfl

theorem reconcileItem_isOk (code trackingNo : String) (counts : ReconcileResult)
    (hdb : db.RowsOk) (hfree : db.Unheld item.id (record.map (·.id))) :
    ∃ out, reconcileItem code trackingNo item record counts db = .ok out := by
  by_cases hagrees : Agrees item record
  · obtain ⟨r, hr, hsame⟩ := hagrees
    cases hr
    exact ⟨_, if_neg hsame⟩
  · obtain ⟨counts', heq⟩ := reconcileItem_of_not_agrees code trackingNo counts db hagrees
    obtain ⟨db', hup⟩ := upsertReconciliation_isOk hdb (itemRow_check code trackingNo record item)
      hfree
    exact ⟨(counts', db'), by rw [heq, hup]; rfl⟩

/-- An item whose open row is there already changes nothing. -/
theorem reconcileItem_self (counts : ReconcileResult) (hdb : db.RowsOk) (hagrees : ¬ Agrees item record) {id : Int}
    (hrow : { itemRow code trackingNo record item with id } ∈ db.reconciliations.rows) :
    ∃ counts', reconcileItem code trackingNo item record counts db = .ok (counts', db) := by
  obtain ⟨counts', heq⟩ := reconcileItem_of_not_agrees code trackingNo counts db hagrees
  rw [upsertReconciliation_self hdb (itemRow_check code trackingNo record item) hrow] at heq
  exact ⟨counts', heq⟩

end Item

/-! ## The pass -/

/-- An entry of the bill map with the record of its number. -/
structure Entry where
  trackingNo : String
  item : CarrierBillItem
  record : Option ShippingRecord

/-- The entries of a pass. -/
def entriesWith (records : List ShippingRecord) (billMap : List (String × CarrierBillItem)) :
    List Entry :=
  billMap.map fun e => ⟨e.1, e.2, recordMapGet records e.1⟩

/-- The row is apart from an entry. -/
def ShippingRecordReconciliation.ApartFrom (s : ShippingRecordReconciliation) (e : Entry) : Prop :=
  s.Apart e.item.id (e.record.map (·.id))

/-- The row is the open row of an entry that does not agree. -/
def Entry.Opens (code : String) (e : Entry) (s : ShippingRecordReconciliation) : Prop :=
  ¬ Agrees e.item e.record ∧ ∃ id, s = { itemRow code e.trackingNo e.record e.item with id }

/-- Two entries have neither item nor record in common. -/
def Entry.Distinct (e f : Entry) : Prop :=
  e.item.id ≠ f.item.id ∧ ∀ a ∈ e.record, ∀ b ∈ f.record, a.id ≠ b.id

/-- The open row of an entry is apart from every other. -/
theorem Entry.Opens.apartFrom {code : String} {e f : Entry} {s : ShippingRecordReconciliation}
    (h : e.Opens code s) (hef : e.Distinct f) : s.ApartFrom f := by
  obtain ⟨-, id, rfl⟩ := h
  refine ⟨hef.1, fun hsome heq => ?_⟩
  cases hf : f.record with
  | none => rw [hf] at hsome; cases hsome
  | some b =>
      cases he : e.record with
      | none =>
          simp only [itemRow, openRow, he, hf, Option.map_none, Option.map_some] at heq
          cases heq
      | some a =>
          simp only [itemRow, openRow, he, hf, Option.map_some, Option.some.injEq] at heq
          exact hef.2 a he b hf heq

/-- What a pass leaves. -/
structure AllPassed (code : String) (es : List Entry) (db db' : BillingDb) : Prop where
  frame : db' = { db with
    reconciliations := db'.reconciliations, reconciliationSeq := db'.reconciliationSeq
    histories := db'.histories }
  archived : ∀ k, db'.Archived k ↔
    db.Archived k ∨ ∃ e ∈ es, Agrees e.item e.record ∧ k = e.item.id
  origin : ∀ s ∈ db'.reconciliations.rows,
    (s ∈ db.reconciliations.rows ∧ ∀ e ∈ es, s.ApartFrom e) ∨ ∃ e ∈ es, e.Opens code s
  kept : ∀ s ∈ db.reconciliations.rows, (∀ e ∈ es, s.ApartFrom e) →
    s ∈ db'.reconciliations.rows
  rowsOk : db.RowsOk → db'.RowsOk

section Pass
variable {code : String} {records : List ShippingRecord}
  {billMap : List (String × CarrierBillItem)} {counts counts' : ReconcileResult}
  {db db' : BillingDb}

theorem AllPassed.cons {e : Entry} {es : List Entry} {db₁ : BillingDb}
    (hhead : Passed code e.trackingNo e.record e.item db db₁) (htail : AllPassed code es db₁ db') :
    AllPassed code (e :: es) db db' := by
  obtain ⟨id, hrows⟩ := hhead.rows
  refine ⟨?_, fun k => ?_, fun s hs => ?_, fun s hs hap => ?_, fun h => htail.rowsOk (hhead.rowsOk h)⟩
  · rw [htail.frame, hhead.frame]
  · rw [htail.archived, hhead.archived, List.exists_mem_cons_iff]
    exact or_assoc
  · rcases htail.origin s hs with ⟨hs, hap⟩ | ⟨f, hf, hopens⟩
    · rcases (hrows s).mp hs with ⟨hs, hhead⟩ | ⟨hagrees, rfl⟩
      · exact .inl ⟨hs, List.forall_mem_cons.mpr ⟨hhead, hap⟩⟩
      · exact .inr ⟨e, List.mem_cons_self, hagrees, id, rfl⟩
    · exact .inr ⟨f, List.mem_cons_of_mem _ hf, hopens⟩
  · obtain ⟨hhead, htailAp⟩ := List.forall_mem_cons.mp hap
    exact htail.kept s ((hrows s).mpr (.inl ⟨hs, hhead⟩)) htailAp

theorem reconcileItems_ok
    (h : reconcileItems code records billMap counts db = .ok (counts', db')) :
    AllPassed code (entriesWith records billMap) db db' := by
  induction billMap generalizing counts db with
  | nil =>
      cases h
      refine ⟨rfl, fun k => ?_, fun s hs => ?_, fun s hs _ => hs, id⟩
      · simp [entriesWith]
      · exact .inl ⟨hs, by simp [entriesWith]⟩
  | cons e rest ih =>
      obtain ⟨⟨counts₁, db₁⟩, hitem, hrest⟩ := bind_eq_ok.mp h
      exact .cons (e := ⟨e.1, e.2, recordMapGet records e.1⟩) (reconcileItem_ok hitem) (ih hrest)

/-- Every entry that does not agree has its row after the pass. -/
theorem reconcileItems_opened
    (h : reconcileItems code records billMap counts db = .ok (counts', db'))
    (hdistinct : (entriesWith records billMap).Pairwise Entry.Distinct) :
    ∀ e ∈ entriesWith records billMap, ¬ Agrees e.item e.record →
      ∃ s ∈ db'.reconciliations.rows, e.Opens code s := by
  induction billMap generalizing counts db with
  | nil => intro e he; cases he
  | cons f rest ih =>
      obtain ⟨⟨counts₁, db₁⟩, hitem, hrest⟩ := bind_eq_ok.mp h
      obtain ⟨hfirst, hothers⟩ := List.pairwise_cons.mp hdistinct
      intro e he hagrees
      rcases List.mem_cons.mp he with rfl | he
      · obtain ⟨id, hrows⟩ := (reconcileItem_ok hitem).rows
        have hrow := (hrows _).mpr (.inr ⟨hagrees, rfl⟩)
        refine ⟨_, (reconcileItems_ok hrest).kept _ hrow fun g hg => ?_, hagrees, id, rfl⟩
        exact Entry.Opens.apartFrom ⟨hagrees, id, rfl⟩ (hfirst g hg)
      · exact ih hrest hothers e he hagrees

/-- A pass goes through when no open row of another item holds the record of
an item with a row of its own. -/
theorem reconcileItems_isOk (counts : ReconcileResult) (hdb : db.RowsOk)
    (hdistinct : (entriesWith records billMap).Pairwise Entry.Distinct)
    (hfree : ∀ e ∈ entriesWith records billMap, db.Unheld e.item.id (e.record.map (·.id))) :
    ∃ out, reconcileItems code records billMap counts db = .ok out := by
  induction billMap generalizing counts db with
  | nil => exact ⟨_, rfl⟩
  | cons f rest ih =>
      obtain ⟨hfirst, hothers⟩ := List.pairwise_cons.mp hdistinct
      obtain ⟨hfreeFirst, hfreeRest⟩ := List.forall_mem_cons.mp hfree
      obtain ⟨⟨counts₁, db₁⟩, hitem⟩ := reconcileItem_isOk code f.1 counts hdb hfreeFirst
      have hpassed := reconcileItem_ok hitem
      obtain ⟨id, hrows⟩ := hpassed.rows
      -- a row of a later entry is not the one just written
      have hfree₁ : ∀ g ∈ entriesWith records rest,
          db₁.Unheld g.item.id (g.record.map (·.id)) := by
        intro g hg r hr s hs hitem hsome hrecord
        have hold : ∀ q ∈ db₁.reconciliations.rows, ¬ q.ApartFrom g → q ∈ db.reconciliations.rows := by
          intro q hq hqg
          rcases (hrows q).mp hq with ⟨hq, -⟩ | ⟨hagrees, rfl⟩
          · exact hq
          · exact absurd (Entry.Opens.apartFrom
              (e := ⟨f.1, f.2, recordMapGet records f.1⟩) ⟨hagrees, id, rfl⟩ (hfirst g hg)) hqg
        exact hfreeRest g hg r (hold r hr fun h => h.1 hitem) s
          (hold s hs fun h => h.2 hsome hrecord) hitem hsome hrecord
      obtain ⟨out, hout⟩ := ih counts₁ (hpassed.rowsOk hdb) hothers hfree₁
      exact ⟨out, bind_eq_ok.mpr ⟨_, hitem, hout⟩⟩

/-- A pass over entries whose rows are all there changes nothing. -/
theorem reconcileItems_self (counts : ReconcileResult) (hdb : db.RowsOk)
    (hopened : ∀ e ∈ entriesWith records billMap,
      ∃ s ∈ db.reconciliations.rows, e.Opens code s) :
    ∃ counts', reconcileItems code records billMap counts db = .ok (counts', db) := by
  induction billMap generalizing counts with
  | nil => exact ⟨_, rfl⟩
  | cons f rest ih =>
      obtain ⟨⟨s, hs, hagrees, id, rfl⟩, hrest⟩ := List.forall_mem_cons.mp hopened
      obtain ⟨counts₁, hitem⟩ := reconcileItem_self counts hdb hagrees hs
      obtain ⟨counts', hout⟩ := ih counts₁ hrest
      exact ⟨counts', bind_eq_ok.mpr ⟨_, hitem, hout⟩⟩

end Pass

end WmsDu
