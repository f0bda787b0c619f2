import WmsDu.Billing.ReconcileRuns
import WmsDu.Shipping.Records

/-!
# Reconciling a bill partitions it

After a pass over a provider's bill each of its items whose tracking number is
its own has exactly one open row or is archived, and a second pass changes
nothing. Items of codes that differ in case share tracking numbers, and the
pass reports and skips those.
-/

namespace WmsDu

open BillingDb

/-! ## Histories of the billing tables -/

/-- What writes the billing tables. -/
inductive BillingOp
  | importBill (upload : BillUpload)
  | ship (newId : Int) (record : ShippingRecord)
  | reconcile (shippingProviderCode : String)
  | approve (reconciliationId : Int) (payload : ApproveIn) (now : Timestamp)

def BillingOp.call (readTime : String → Option Timestamp) :
    BillingOp → BillingDb → Except Err BillingDb
  | .importBill upload, db => (importShippingBill readTime upload db).map (·.2)
  | .ship newId record, db =>
      (upsertWaybillShippingRecord newId record db.shippingRecords).map fun t =>
        { db with shippingRecords := t }
  | .reconcile code, db => (WmsDu.reconcile code db).map (·.2)
  | .approve id payload now, db => approveReconciliation id payload now db

namespace BillingDb

/-- What every history keeps: ids are distinct, items have a number, and an
open row carries the provider of its item. -/
structure Ok (db : BillingDb) : Prop where
  itemIds : ∀ i ∈ db.carrierBillItems.rows, ∀ j ∈ db.carrierBillItems.rows, i.id = j.id → i = j
  itemSeq : ∀ i ∈ db.carrierBillItems.rows, i.id ≤ db.carrierBillItemSeq
  numbered : ∀ i ∈ db.carrierBillItems.rows, i.number ≠ ""
  rows : db.RowsOk
  linked : ∀ r ∈ db.reconciliations.rows, ∃ i ∈ db.carrierBillItems.rows,
    i.id = r.carrierBillItemId ∧ SameProvider r.shippingProviderCode i.shippingProviderCode

variable {db db' : BillingDb}

theorem ok_empty : ({} : BillingDb).Ok :=
  ⟨by simp, by simp, by simp, ⟨by simp, by simp, by simp⟩, by simp⟩

/-! ## Imports -/

/-- The three ends of the statement: a new item, a merge, nothing. -/
theorem upsertItem_cases (db : BillingDb) (excluded : CarrierBillItem) :
    (db.upsertItem excluded).carrierBillItems.rows = db.carrierBillItems.rows ++ [excluded] ∨
      (∃ old ∈ db.carrierBillItems.rows, (db.upsertItem excluded).carrierBillItems =
        db.carrierBillItems.put (old.merge excluded)) ∨
      (db.upsertItem excluded).carrierBillItems = db.carrierBillItems := by
  simp only [upsertItem]
  cases hfound : db.carrierBillItems.lookup excluded.key with
  | none => exact .inl (Table.rows_insert_new (Table.lookup_eq_none.mp hfound))
  | some old =>
      dsimp only
      split
      · exact .inr (.inl ⟨old, (Table.lookup_eq_some.mp hfound).1, rfl⟩)
      · exact .inr (.inr rfl)

/-- Every item is still there after a merge, with its id and provider. -/
theorem mem_put_merge {old : CarrierBillItem} (excluded : CarrierBillItem)
    (hold : old ∈ db.carrierBillItems.rows)
    {i : CarrierBillItem} (hi : i ∈ db.carrierBillItems.rows) :
    ∃ j ∈ (db.carrierBillItems.put (old.merge excluded)).rows,
      j.id = i.id ∧ j.shippingProviderCode = i.shippingProviderCode := by
  by_cases hkey : i.key = old.key
  · have heq := db.carrierBillItems.eq_of_key hi hold hkey
    exact ⟨_, Table.mem_put.mpr (.inr ⟨rfl, old, hold, rfl⟩), by rw [heq]; exact ⟨rfl, rfl⟩⟩
  · exact ⟨i, Table.mem_put.mpr (.inl ⟨hi, hkey⟩), rfl, rfl⟩

theorem Ok.upsertItem (h : db.Ok) {excluded : CarrierBillItem}
    (hid : excluded.id = db.carrierBillItemSeq + 1) (hnumber : excluded.number ≠ "") :
    (db.upsertItem excluded).Ok := by
  have hseq : (db.upsertItem excluded).carrierBillItemSeq = db.carrierBillItemSeq + 1 := rfl
  have hrec : (db.upsertItem excluded).reconciliations = db.reconciliations := rfl
  have hok : (db.upsertItem excluded).RowsOk := ⟨h.rows.item, h.rows.record, h.rows.ids⟩
  rcases upsertItem_cases db excluded with hrows | ⟨old, hold, htable⟩ | hsame
  · refine ⟨?_, ?_, ?_, hok, ?_⟩
    · rw [hrows]
      intro i hi j hj heq
      rw [List.mem_append, List.mem_singleton] at hi hj
      rcases hi with hi | rfl <;> rcases hj with hj | rfl
      · exact h.itemIds i hi j hj heq
      · have hle := h.itemSeq i hi
        omega
      · have hle := h.itemSeq j hj
        omega
      · rfl
    · rw [hrows, hseq]
      intro i hi
      rw [List.mem_append, List.mem_singleton] at hi
      rcases hi with hi | rfl
      · have hle := h.itemSeq i hi
        omega
      · omega
    · rw [hrows]
      intro i hi
      rw [List.mem_append, List.mem_singleton] at hi
      rcases hi with hi | rfl
      · exact h.numbered i hi
      · exact hnumber
    · rw [hrows, hrec]
      intro r hr
      obtain ⟨i, hi, hlink⟩ := h.linked r hr
      exact ⟨i, List.mem_append_left _ hi, hlink⟩
  · have hmem : ∀ i ∈ (db.carrierBillItems.put (old.merge excluded)).rows,
        (i ∈ db.carrierBillItems.rows ∧ i.key ≠ old.key) ∨ i = old.merge excluded :=
      fun i hi => (Table.mem_put.mp hi).imp id fun h => h.1
    refine ⟨?_, ?_, ?_, hok, ?_⟩
    · rw [htable]
      intro i hi j hj heq
      rcases hmem i hi with ⟨hi, hik⟩ | rfl <;> rcases hmem j hj with ⟨hj, hjk⟩ | rfl
      · exact h.itemIds i hi j hj heq
      · exact absurd (congrArg CarrierBillItem.key (h.itemIds i hi old hold heq)) hik
      · exact absurd (congrArg CarrierBillItem.key (h.itemIds old hold j hj heq)).symm hjk
      · rfl
    · rw [htable, hseq]
      intro i hi
      rcases hmem i hi with ⟨hi, -⟩ | rfl
      · have hle := h.itemSeq i hi
        omega
      · have hle : (old.merge excluded).id ≤ _ := h.itemSeq old hold
        omega
    · rw [htable]
      intro i hi
      rcases hmem i hi with ⟨hi, -⟩ | rfl
      · exact h.numbered i hi
      · exact h.numbered old hold
    · rw [htable, hrec]
      intro r hr
      obtain ⟨i, hi, hid, hprovider⟩ := h.linked r hr
      obtain ⟨j, hj, hjid, hjcode⟩ := mem_put_merge excluded hold hi
      exact ⟨j, hj, hjid.trans hid, hjcode ▸ hprovider⟩
  · refine ⟨?_, ?_, ?_, hok, ?_⟩
    · rw [hsame]
      exact h.itemIds
    · rw [hsame, hseq]
      intro i hi
      have hle := h.itemSeq i hi
      omega
    · rw [hsame]
      exact h.numbered
    · rw [hsame, hrec]
      exact h.linked

theorem Ok.insertItems {code : String} {month : Option String} {rows : List (BillRow Decimal)}
    (h : db.Ok) (hnumbers : ∀ row ∈ rows, strip row.trackingNo ≠ "")
    (hins : insertCarrierBillItems code month rows db = .ok db') : db'.Ok := by
  induction rows generalizing db with
  | nil => cases hins; exact h
  | cons row rows ih =>
      obtain ⟨db₁, hrow, hrows⟩ := bind_eq_ok.mp hins
      refine ih ?_ (fun r hr => hnumbers r (List.mem_cons_of_mem _ hr)) hrows
      simp only [insertCarrierBillItem, BillRow.stored, bind_eq_ok, demand_eq_ok,
        pure_eq_ok] at hrow
      obtain ⟨_, -, _, ⟨_, -, _, -, _, -, _, -, rfl⟩, rfl⟩ := hrow
      exact h.upsertItem rfl (hnumbers row List.mem_cons_self)

end BillingDb

/-- A row that is read has a number. -/
theorem normalizeRows_numbered {readTime : String → Option Timestamp} {headers : List String}
    {rows : List (List Cell)} {rowNo : Nat} {parsed : ParsedBill}
    (h : normalizeRows readTime headers rowNo rows = .ok parsed) :
    ∀ row ∈ parsed.validRows, strip row.trackingNo ≠ "" := by
  induction rows generalizing rowNo parsed with
  | nil => cases h; simp
  | cons values rows ih =>
      unfold normalizeRows at h
      split at h
      · obtain ⟨rest, hrest, hparsed⟩ := bind_eq_ok.mp h
        cases hparsed
        have htail := ih hrest
        exact htail
      · split at h
        · cases h
        · obtain ⟨rest, hrest, hparsed⟩ := bind_eq_ok.mp h
          cases hparsed
          have htail := ih hrest
          exact htail
        · rename_i row hrow
          obtain ⟨rest, hrest, hparsed⟩ := bind_eq_ok.mp h
          cases hparsed
          refine List.forall_mem_cons.mpr ⟨?_, ih hrest⟩
          simp only [normalizeRow, bind_eq_ok, demandSome_eq_ok, pure_eq_ok] at hrow
          obtain ⟨trackingNo, hclean, _, -, _, -, _, -, _, -, _, -, _, -, _, -, _, -, _, -, rfl⟩ :=
            hrow
          obtain ⟨t, -, rfl, hne⟩ := cleanText_eq_some hclean
          exact strip_strip_ne hne

namespace BillingDb

variable {db db' : BillingDb}

theorem Ok.importBill {readTime : String → Option Timestamp} {upload : BillUpload}
    {out : BillImportResult} (h : db.Ok)
    (hrun : importShippingBill readTime upload db = .ok (out, db')) : db'.Ok := by
  simp only [importShippingBill, bind_eq_ok, demand_eq_ok, demandSome_eq_ok, pure_eq_ok] at hrun
  obtain ⟨_, -, _, -, sheet, -, parsed, hparsed, db₁, hinsert, hret⟩ := hrun
  cases hret
  refine h.insertItems ?_ hinsert
  cases sheet with
  | nil => cases hparsed; simp
  | cons headerRow rows => exact normalizeRows_numbered hparsed

/-! ## Approvals -/

theorem Ok.approve {id : Int} {payload : ApproveIn} {now : Timestamp} (h : db.Ok)
    (hrun : approveReconciliation id payload now db = .ok db') : db'.Ok := by
  simp only [approveReconciliation, bind_eq_ok, pure_eq_ok] at hrun
  obtain ⟨row, -, _, -, amount, -, _, -, rfl⟩ := hrun
  have hsub : ∀ r ∈ (db.reconciliations.delete fun r => r.id = id).rows,
      r ∈ db.reconciliations.rows := fun r hr => (Table.mem_delete.mp hr).1
  exact ⟨h.itemIds, h.itemSeq, h.numbered,
    ⟨fun a ha b hb => h.rows.item a (hsub a ha) b (hsub b hb),
      fun a ha b hb => h.rows.record a (hsub a ha) b (hsub b hb),
      fun a ha => h.rows.ids a (hsub a ha)⟩,
    fun r hr => h.linked r (hsub r hr)⟩

/-! ## The pass in a history -/

/-- Archived items and the provider's open rows do not meet after the first
statement of a pass. -/
theorem Ok.deleteArchived (h : db.Ok) (code : String) : (db.deleteArchived code).Ok := by
  have hsub : ∀ r ∈ (db.deleteArchived code).reconciliations.rows,
      r ∈ db.reconciliations.rows := fun r hr => (Table.mem_delete.mp hr).1
  exact ⟨h.itemIds, h.itemSeq, h.numbered,
    ⟨fun a ha b hb => h.rows.item a (hsub a ha) b (hsub b hb),
      fun a ha b hb => h.rows.record a (hsub a ha) b (hsub b hb),
      fun a ha => h.rows.ids a (hsub a ha)⟩,
    fun r hr => h.linked r (hsub r hr)⟩

/-- The entries of a pass over the provider's items. -/
def entries (db : BillingDb) (code : String) : List Entry :=
  let billMap := billMapOf (db.itemsForReconcile code)
  entriesWith (db.recordsForReconcile code (billMap.map (·.1))) billMap

theorem mem_itemsForReconcile {code : String} {i : CarrierBillItem} :
    i ∈ db.itemsForReconcile code ↔ i ∈ db.carrierBillItems.rows ∧
      SameProvider code i.shippingProviderCode ∧ ¬ db.Archived i.id := by
  rw [itemsForReconcile, List.mem_filter, decide_eq_true_iff]

/-- An entry is an item alone with its number. -/
theorem mem_entries {code : String} {e : Entry} (h : e ∈ db.entries code) :
    e.item ∈ db.itemsForReconcile code ∧ e.item.AloneIn (db.itemsForReconcile code) ∧
      e.trackingNo = e.item.number := by
  obtain ⟨m, hm, rfl⟩ := List.mem_map.mp h
  exact mem_billMapOf.mp hm

theorem Ok.allPassed {code : String} {es : List Entry} (h : db.Ok)
    (hitems : ∀ e ∈ es, e.item ∈ db.itemsForReconcile code) (hpass : AllPassed code es db db') :
    db'.Ok := by
  have hsame : db'.carrierBillItems = db.carrierBillItems := by rw [hpass.frame]
  have hseq : db'.carrierBillItemSeq = db.carrierBillItemSeq := by rw [hpass.frame]
  refine ⟨?_, ?_, ?_, hpass.rowsOk h.rows, fun r hr => ?_⟩
  · rw [hsame]
    exact h.itemIds
  · rw [hsame, hseq]
    exact h.itemSeq
  · rw [hsame]
    exact h.numbered
  · rw [hsame]
    rcases hpass.origin r hr with ⟨hr, -⟩ | ⟨e, he, -, id, rfl⟩
    · exact h.linked r hr
    · obtain ⟨hmem, hprovider, -⟩ := mem_itemsForReconcile.mp (hitems e he)
      exact ⟨e.item, hmem, rfl, hprovider⟩

theorem Ok.reconcile {provider : String} {out : ReconcileResult} (h : db.Ok)
    (hrun : WmsDu.reconcile provider db = .ok (out, db')) : db'.Ok := by
  have hitems : ∀ e ∈ (db.deleteArchived (strip provider)).entries (strip provider),
      e.item ∈ (db.deleteArchived (strip provider)).itemsForReconcile (strip provider) :=
    fun _ he => (mem_entries he).1
  exact (h.deleteArchived (strip provider)).allPassed hitems (reconcileItems_ok hrun)

theorem Ok.call {readTime : String → Option Timestamp} {op : BillingOp} (h : db.Ok)
    (hrun : op.call readTime db = .ok db') : db'.Ok := by
  cases op with
  | importBill upload =>
      have hrun : (importShippingBill readTime upload db).map (·.2) = .ok db' := hrun
      obtain ⟨out, himport, rfl⟩ := map_eq_ok.mp hrun
      exact h.importBill himport
  | ship newId record =>
      have hrun : (upsertWaybillShippingRecord newId record db.shippingRecords).map (fun t =>
          { db with shippingRecords := t }) = .ok db' := hrun
      obtain ⟨t, -, rfl⟩ := map_eq_ok.mp hrun
      exact ⟨h.itemIds, h.itemSeq, h.numbered, ⟨h.rows.item, h.rows.record, h.rows.ids⟩,
        h.linked⟩
  | reconcile code =>
      have hrun : (WmsDu.reconcile code db).map (·.2) = .ok db' := hrun
      obtain ⟨out, hpass, rfl⟩ := map_eq_ok.mp hrun
      exact h.reconcile hpass
  | approve id payload now => exact h.approve hrun

/-! ## The partition -/

/-- The shipping record an item is compared with: the last one of the
provider that has its number. -/
def recordFor (db : BillingDb) (code number : String) : Option ShippingRecord :=
  (db.shippingRecords.rows.filter fun r =>
    (∃ c ∈ r.shippingProviderCode, SameProvider code c) ∧ r.trackingNo = some number).getLast?

/-- The item is open with one row, which tells whether its record is missing
or differs, or it is archived. -/
def Partitioned (db : BillingDb) (code : String) (i : CarrierBillItem) : Prop :=
  (¬ db.Archived i.id ∧ ∃ r ∈ db.reconciliations.rows, r.carrierBillItemId = i.id ∧
      (∀ s ∈ db.reconciliations.rows, s.carrierBillItemId = i.id → s = r) ∧
      (r.status = .billOnly ∧ db.recordFor code i.number = none ∨
        r.status = .diff ∧ ∃ record, db.recordFor code i.number = some record ∧
          r.shippingRecordId = some record.id ∧ Differs i record)) ∨
    db.Archived i.id ∧ ∀ r ∈ db.reconciliations.rows, r.carrierBillItemId ≠ i.id

/-- No item of the pass has an open row while the row of another item holds
its record. -/
def RecordsFree (db : BillingDb) (code : String) : Prop :=
  ∀ i ∈ db.itemsForReconcile code, ∀ record ∈ db.recordFor code i.number,
    (db.deleteArchived code).Unheld i.id (some record.id)

/-- The map of records is asked for numbers without blanks around them. -/
theorem recordMapGet_eq {code : String} {numbers : List String} {number : String}
    (hstrip : ∀ n ∈ numbers, strip n = n) (hmem : number ∈ numbers) (hne : number ≠ "") :
    recordMapGet (db.recordsForReconcile code numbers) number = db.recordFor code number := by
  unfold recordMapGet recordsForReconcile recordFor
  rw [List.filter_filter]
  refine congrArg List.getLast? (List.filter_congr fun r _ => ?_)
  rw [← Bool.decide_and, decide_eq_decide]
  constructor
  · rintro ⟨⟨-, hnumber⟩, hcode, t, ht, hin⟩
    refine ⟨hcode, ?_⟩
    rw [Option.mem_def] at ht
    rw [ht, Option.getD_some, hstrip t hin] at hnumber
    rw [ht, hnumber]
  · rintro ⟨hcode, ht⟩
    rw [ht, Option.getD_some, hstrip number hmem]
    exact ⟨⟨hne, rfl⟩, hcode, number, rfl, hmem⟩

theorem entries_record {code : String} {e : Entry} (h : e ∈ db.entries code) :
    e.record = db.recordFor code e.item.number := by
  obtain ⟨m, hm, rfl⟩ := List.mem_map.mp h
  obtain ⟨-, halone, hnumber⟩ := mem_billMapOf.mp hm
  rw [← hnumber]
  refine recordMapGet_eq ?_ (List.mem_map_of_mem hm) (hnumber ▸ halone.1)
  intro n hn
  obtain ⟨m', hm', rfl⟩ := List.mem_map.mp hn
  rw [(mem_billMapOf.mp hm').2.2]
  exact strip_strip _

/-- An item alone with its number has an entry. -/
theorem exists_entry {code : String} {i : CarrierBillItem} (hi : i ∈ db.itemsForReconcile code)
    (halone : i.AloneIn (db.itemsForReconcile code)) : ∃ e ∈ db.entries code, e.item = i := by
  have hm : (i.number, i) ∈ billMapOf (db.itemsForReconcile code) :=
    mem_billMapOf.mpr ⟨hi, halone, rfl⟩
  exact ⟨_, List.mem_map.mpr ⟨_, hm, rfl⟩, rfl⟩

/-- A record that is found has the number and stands in the table. -/
theorem mem_recordFor {code number : String} {r : ShippingRecord}
    (h : r ∈ db.recordFor code number) :
    r ∈ db.shippingRecords.rows ∧ r.trackingNo = some number := by
  obtain ⟨hr, hsel⟩ := List.mem_filter.mp (List.mem_of_getLast? h)
  exact ⟨hr, (of_decide_eq_true hsel).2⟩

theorem itemsForReconcile_nodup (code : String) : (db.itemsForReconcile code).Nodup :=
  List.Nodup.filter _ (List.Nodup.of_map _ db.carrierBillItems.nodup)

theorem Ok.entries_distinct (h : db.Ok) (code : String) :
    (db.entries code).Pairwise Entry.Distinct := by
  have hnodup : (db.itemsForReconcile code).Nodup := itemsForReconcile_nodup code
  have hpair : (db.entries code).Pairwise fun e f => e.item ≠ f.item := by
    unfold entries entriesWith
    dsimp only
    rw [List.pairwise_map, billMapOf_eq, List.pairwise_map]
    exact hnodup.filter _
  refine hpair.imp_of_mem fun {e f} he hf hne => ?_
  obtain ⟨hei, -, -⟩ := mem_entries he
  obtain ⟨hfi, hfalone, -⟩ := mem_entries hf
  have hnumber : e.item.number ≠ f.item.number := fun heq =>
    hne (((CarrierBillItem.aloneIn_iff hnodup hfi).mp hfalone).2 _ hei heq)
  refine ⟨fun heq => hne ?_, fun a ha b hb heq => hnumber ?_⟩
  · exact h.itemIds _ (mem_itemsForReconcile.mp hei).1 _ (mem_itemsForReconcile.mp hfi).1 heq
  · -- one record has one number
    rw [entries_record he] at ha
    rw [entries_record hf] at hb
    obtain ⟨haMem, haNumber⟩ := mem_recordFor ha
    obtain ⟨hbMem, hbNumber⟩ := mem_recordFor hb
    have hab := db.shippingRecords.eq_of_key haMem hbMem heq
    rw [hab, hbNumber] at haNumber
    exact (Option.some.inj haNumber).symm

/-- What an open row of an entry tells. -/
theorem opens_status {code : String} {e : Entry} {s : ShippingRecordReconciliation}
    (h : e.Opens code s) (hrecord : e.record = db.recordFor code e.item.number) :
    s.carrierBillItemId = e.item.id ∧
      (s.status = .billOnly ∧ db.recordFor code e.item.number = none ∨
        s.status = .diff ∧ ∃ record, db.recordFor code e.item.number = some record ∧
          s.shippingRecordId = some record.id ∧ Differs e.item record) := by
  obtain ⟨hagrees, id, rfl⟩ := h
  refine ⟨rfl, ?_⟩
  rw [← hrecord]
  cases hr : e.record with
  | none => exact .inl ⟨by simp [itemRow, openRow], rfl⟩
  | some record =>
      refine .inr ⟨by simp [itemRow, openRow], record, rfl, by simp [itemRow, openRow], ?_⟩
      by_contra hsame
      exact hagrees ⟨record, hr, hsame⟩

/-! ## After a pass -/

section AfterPass
variable {code : String} {i : CarrierBillItem}

/-- Entries of one item are one entry. -/
theorem entry_ext {e f : Entry} (he : e ∈ db.entries code) (hf : f ∈ db.entries code)
    (heq : e.item = f.item) : e = f := by
  obtain ⟨-, -, hen⟩ := mem_entries he
  obtain ⟨-, -, hfn⟩ := mem_entries hf
  have hrecord : e.record = f.record := by
    rw [entries_record he, entries_record hf, heq]
  obtain ⟨t, i, r⟩ := e
  obtain ⟨t', i', r'⟩ := f
  cases heq
  cases hrecord
  cases hen.trans hfn.symm
  rfl

/-- An entry is found by the id of its item. -/
theorem Ok.entry_of_id (h : db.Ok) {e f : Entry} (he : e ∈ db.entries code)
    (hf : f ∈ db.entries code) (heq : e.item.id = f.item.id) : e = f :=
  entry_ext he hf (h.itemIds _ (mem_itemsForReconcile.mp (mem_entries he).1).1 _
    (mem_itemsForReconcile.mp (mem_entries hf).1).1 heq)

/-- An entry's item is archived by the pass exactly when it agrees. -/
theorem Ok.archived_entry (h : db.Ok) {e : Entry} (he : e ∈ db.entries code)
    (hpass : AllPassed code (db.entries code) (db.deleteArchived code) db') :
    db'.Archived e.item.id ↔ Agrees e.item e.record := by
  rw [hpass.archived]
  constructor
  · rintro (hold | ⟨f, hf, hagrees, hid⟩)
    · exact absurd hold (mem_itemsForReconcile.mp (mem_entries he).1).2.2
    · rw [h.entry_of_id he hf hid]
      exact hagrees
  · intro hagrees
    exact .inr ⟨e, he, hagrees, rfl⟩

/-- An open row of the provider is not of an archived item. -/
theorem Ok.not_archived_of_row (h : db.Ok)
    (hpass : AllPassed code (db.entries code) (db.deleteArchived code) db')
    {r : ShippingRecordReconciliation} (hr : r ∈ db'.reconciliations.rows)
    (hprovider : SameProvider code r.shippingProviderCode) :
    ¬ db'.Archived r.carrierBillItemId := by
  intro harchived
  rcases hpass.origin r hr with ⟨hold, hapart⟩ | ⟨e, he, hopens⟩
  · obtain ⟨-, hkept⟩ := Table.mem_delete.mp hold
    rcases (hpass.archived _).mp harchived with hbefore | ⟨e, he, -, hid⟩
    · exact hkept ⟨hprovider, hbefore⟩
    · exact (hapart e he).1 hid
  · obtain ⟨hagrees, id, rfl⟩ := hopens
    exact hagrees ((h.archived_entry he hpass).mp harchived)

/-- An open row of an item of the provider carries the provider. -/
theorem Ok.row_provider (h : db.Ok) {r : ShippingRecordReconciliation}
    (hr : r ∈ db.reconciliations.rows) (hi : i ∈ db.carrierBillItems.rows)
    (hid : r.carrierBillItemId = i.id) (hprovider : SameProvider code i.shippingProviderCode) :
    SameProvider code r.shippingProviderCode := by
  obtain ⟨j, hj, hjid, hjr⟩ := h.linked r hr
  rw [h.itemIds j hj i hi (hjid.trans hid)] at hjr
  exact hjr.symm.trans hprovider

theorem Ok.partitioned (h : db.Ok)
    (hpass : AllPassed code (db.entries code) (db.deleteArchived code) db')
    (hopened : ∀ e ∈ db.entries code, ¬ Agrees e.item e.record →
      ∃ s ∈ db'.reconciliations.rows, e.Opens code s)
    (hi : i ∈ db.carrierBillItems.rows) (hprovider : SameProvider code i.shippingProviderCode)
    (hcase : db.Archived i.id ∨ i.AloneIn (db.itemsForReconcile code)) :
    db'.Partitioned code i := by
  have hok' : db'.Ok := (h.deleteArchived code).allPassed (fun _ he => (mem_entries he).1) hpass
  have hitems : db'.carrierBillItems = db.carrierBillItems := by rw [hpass.frame]; rfl
  have hrecords : db'.recordFor code = db.recordFor code := by rw [hpass.frame]; rfl
  have hi' : i ∈ db'.carrierBillItems.rows := hitems ▸ hi
  -- an archived item has no open row
  have hshut : db'.Archived i.id → db'.Partitioned code i := fun harchived =>
    .inr ⟨harchived, fun r hr hid => h.not_archived_of_row hpass hr
      (hok'.row_provider hr hi' hid hprovider) (hid ▸ harchived)⟩
  by_cases harchived : db'.Archived i.id
  · exact hshut harchived
  · have hbefore : ¬ db.Archived i.id := fun hold =>
      harchived ((hpass.archived _).mpr (.inl hold))
    obtain ⟨e, he, rfl⟩ := exists_entry (mem_itemsForReconcile.mpr ⟨hi, hprovider, hbefore⟩)
      (hcase.resolve_left hbefore)
    have hagrees : ¬ Agrees e.item e.record := fun hagrees =>
      harchived ((h.archived_entry he hpass).mpr hagrees)
    obtain ⟨s, hs, hopens⟩ := hopened e he hagrees
    obtain ⟨hid, hstatus⟩ := opens_status hopens (entries_record he)
    refine .inl ⟨harchived, s, hs, hid, fun r hr hrid => ?_, ?_⟩
    · exact hok'.rows.item r hr s hs (hrid.trans hid.symm)
    · rw [hrecords]
      exact hstatus

/-- An item left alone by the pass was alone before. -/
theorem Ok.aloneIn_of_after (h : db.Ok)
    (hpass : AllPassed code (db.entries code) (db.deleteArchived code) db')
    (hi : i ∈ db'.itemsForReconcile code) (halone : i.AloneIn (db'.itemsForReconcile code)) :
    i ∈ db.itemsForReconcile code ∧ i.AloneIn (db.itemsForReconcile code) := by
  have hitems : db'.carrierBillItems = db.carrierBillItems := by rw [hpass.frame]; rfl
  have hsub : ∀ j ∈ db'.itemsForReconcile code, j ∈ db.itemsForReconcile code := by
    intro j hj
    obtain ⟨hmem, hprovider, harchived⟩ := mem_itemsForReconcile.mp hj
    exact mem_itemsForReconcile.mpr ⟨hitems ▸ hmem, hprovider,
      fun hold => harchived ((hpass.archived _).mpr (.inl hold))⟩
  obtain ⟨hnumber, hunique⟩ :=
    (CarrierBillItem.aloneIn_iff (itemsForReconcile_nodup code) hi).mp halone
  refine ⟨hsub i hi, (CarrierBillItem.aloneIn_iff (itemsForReconcile_nodup code) (hsub i hi)).mpr
    ⟨hnumber, fun j hj heq => ?_⟩⟩
  by_cases hj' : db'.Archived j.id
  · -- what the pass archived was alone too
    obtain ⟨hjmem, -, hjbefore⟩ := mem_itemsForReconcile.mp hj
    rcases (hpass.archived _).mp hj' with hold | ⟨e, he, -, hid⟩
    · exact absurd hold hjbefore
    · obtain ⟨heitem, healone, -⟩ := mem_entries he
      have hje := h.itemIds j hjmem _ (mem_itemsForReconcile.mp heitem).1 hid
      rw [← hje] at healone
      exact (((CarrierBillItem.aloneIn_iff (itemsForReconcile_nodup code) hj).mp healone).2 i
        (hsub i hi) heq.symm).symm
  · obtain ⟨hjmem, hjprovider, -⟩ := mem_itemsForReconcile.mp hj
    exact hunique j (mem_itemsForReconcile.mpr ⟨hitems.symm ▸ hjmem, hjprovider, hj'⟩) heq

/-- The entries of a second pass have their rows. -/
theorem Ok.opened_again (h : db.Ok)
    (hpass : AllPassed code (db.entries code) (db.deleteArchived code) db')
    (hopened : ∀ e ∈ db.entries code, ¬ Agrees e.item e.record →
      ∃ s ∈ db'.reconciliations.rows, e.Opens code s) :
    ∀ e ∈ db'.entries code, ∃ s ∈ db'.reconciliations.rows, e.Opens code s := by
  intro e he
  have hrecords : db'.recordFor code = db.recordFor code := by rw [hpass.frame]; rfl
  obtain ⟨hi, halone, hnumber⟩ := mem_entries he
  obtain ⟨hi₀, halone₀⟩ := h.aloneIn_of_after hpass hi halone
  obtain ⟨f, hf, hitem⟩ := exists_entry hi₀ halone₀
  have hef : e = f := by
    have hrecord : e.record = f.record := by
      rw [entries_record he, entries_record hf, hitem, hrecords]
    have hfn := (mem_entries hf).2.2
    obtain ⟨t, j, r⟩ := e
    obtain ⟨t', j', r'⟩ := f
    cases hitem
    cases hrecord
    cases hnumber.trans hfn.symm
    rfl
  subst hef
  refine hopened e hf fun hagrees => ?_
  exact (mem_itemsForReconcile.mp hi).2.2 ((h.archived_entry hf hpass).mpr hagrees)

/-- The first statement of a second pass finds nothing. -/
theorem Ok.deleteArchived_again (h : db.Ok)
    (hpass : AllPassed code (db.entries code) (db.deleteArchived code) db') :
    db'.deleteArchived code = db' := by
  have htable : (db'.deleteArchived code).reconciliations = db'.reconciliations := by
    refine Table.ext_rows (List.filter_eq_self.mpr fun r hr => ?_)
    rw [decide_eq_true_iff]
    rintro ⟨hprovider, harchived⟩
    exact h.not_archived_of_row hpass hr hprovider harchived
  unfold BillingDb.deleteArchived at htable ⊢
  dsimp only at htable
  rw [htable]

end AfterPass

instance (db : BillingDb) (itemId : Int) (recordId : Option Int) :
    Decidable (db.Unheld itemId recordId) :=
  inferInstanceAs (Decidable (∀ r ∈ db.reconciliations.rows, ∀ s ∈ db.reconciliations.rows,
    r.carrierBillItemId = itemId → recordId.isSome → s.shippingRecordId = recordId → r = s))

instance (db : BillingDb) (code : String) : Decidable (db.RecordsFree code) :=
  inferInstanceAs (Decidable (∀ i ∈ db.itemsForReconcile code,
    ∀ record ∈ db.recordFor code i.number,
      (db.deleteArchived code).Unheld i.id (some record.id)))

theorem Ok.reconcile_partitions (h : db.Ok) (provider : String)
    (hfree : db.RecordsFree (strip provider)) :
    ∃ out db', WmsDu.reconcile provider db = .ok (out, db') ∧
      (∀ i ∈ db'.carrierBillItems.rows, SameProvider (strip provider) i.shippingProviderCode →
        (db.Archived i.id ∨ i.AloneIn (db.itemsForReconcile (strip provider))) →
          db'.Partitioned (strip provider) i) ∧
      ∃ out', WmsDu.reconcile provider db' = .ok (out', db') := by
  have hdistinct := h.entries_distinct (strip provider)
  have hunheld : ∀ e ∈ db.entries (strip provider),
      (db.deleteArchived (strip provider)).Unheld e.item.id (e.record.map (·.id)) := by
    intro e he
    cases hr : e.record with
    | none => intro r _ s _ _ hsome; cases hsome
    | some record =>
        refine hfree e.item (mem_entries he).1 record ?_
        rw [← entries_record he, hr]
        rfl
  have hok : ∃ out, WmsDu.reconcile provider db = .ok out := by
    unfold WmsDu.reconcile
    exact reconcileItems_isOk _ (h.deleteArchived (strip provider)).rows hdistinct hunheld
  obtain ⟨⟨out, db'⟩, hrun⟩ := hok
  have hpass : AllPassed (strip provider) (db.entries (strip provider))
      (db.deleteArchived (strip provider)) db' := reconcileItems_ok hrun
  have hopened : ∀ e ∈ db.entries (strip provider), ¬ Agrees e.item e.record →
      ∃ s ∈ db'.reconciliations.rows, e.Opens (strip provider) s :=
    reconcileItems_opened hrun hdistinct
  have hitems : db'.carrierBillItems = db.carrierBillItems := by rw [hpass.frame]; rfl
  refine ⟨out, db', hrun, fun i hi hprovider hcase => ?_, ?_⟩
  · exact h.partitioned hpass hopened (hitems ▸ hi) hprovider hcase
  · -- the rows the second pass would write are there
    have hrows : db'.RowsOk := hpass.rowsOk (h.deleteArchived (strip provider)).rows
    unfold WmsDu.reconcile
    dsimp only
    rw [h.deleteArchived_again hpass]
    exact reconcileItems_self _ hrows (h.opened_again hpass hopened)

end BillingDb

/-- **Bill partition.** In every state that imports, shipments, passes and
approvals lead to, a pass over a provider's bill succeeds when no open row of
another item holds the record of an item with a row of its own; each item of
the provider that is archived or alone with its tracking number is then open
with one row or archived, and a second pass changes nothing. -/
theorem bill_reconcile_partitions (readTime : String → Option Timestamp) {db : BillingDb}
    (h : Reaches (BillingOp.call readTime) (fun _ _ => True) {} db) (provider : String)
    (hfree : db.RecordsFree (strip provider)) :
    ∃ out db', reconcile provider db = .ok (out, db') ∧
      (∀ i ∈ db'.carrierBillItems.rows, SameProvider (strip provider) i.shippingProviderCode →
        (db.Archived i.id ∨ i.AloneIn (db.itemsForReconcile (strip provider))) →
          db'.Partitioned (strip provider) i) ∧
      ∃ out', reconcile provider db' = .ok (out', db') :=
  (h.invariant ok_empty fun _ _ _ _ hok hcall => hok.call hcall).reconcile_partitions provider hfree

/-! ## Three parcels and a shared number -/

/-- A file of parcels with their freights. -/
def sampleFreights (code : String) (rows : List (String × String)) : BillUpload where
  shippingProviderCode := code
  billMonth := none
  filename := some "bill.XLSX"
  sheet := some ([.text "运单号", .text "中转费/运费"] ::
    rows.map fun r => [.text r.1, .number r.2])

/-- A parcel shipped with SF for a cost. -/
def sampleParcel (id : Int) (trackingNo : String) (cents : Int) : BillingOp :=
  .ship id
    { id, key := ⟨"pdd", "S1", "ORD:PDD:S1:" ++ toString id, 1⟩, warehouseId := 1
      shippingProviderId := 1, shippingProviderCode := some "SF", shippingProviderName := none
      trackingNo := some trackingNo, grossWeightKg := none, freightEstimated := none
      surchargeEstimated := none, costEstimated := some (.units cents), sender := none
      destProvince := none, destCity := none }

/-- One parcel agrees, one differs and one was never shipped. -/
def sampleBillOps : List BillingOp :=
  [.importBill (sampleFreights "sf" [("SF1", "10"), ("SF2", "12.5"), ("SF3", "8")]),
    sampleParcel 1 "SF1" 1000, sampleParcel 2 "SF2" 1200, .reconcile "SF"]

theorem bill_reconcile_partitions_sample : ∃ db,
    callAll (BillingOp.call fun _ => none) (fun _ _ => True) {} sampleBillOps = some db ∧
      (∃ out db', reconcile " Sf " db = .ok (out, db') ∧
        (∀ i ∈ db'.carrierBillItems.rows, SameProvider (strip " Sf ") i.shippingProviderCode →
          (db.Archived i.id ∨ i.AloneIn (db.itemsForReconcile (strip " Sf "))) →
            db'.Partitioned (strip " Sf ") i) ∧
        ∃ out', reconcile " Sf " db' = .ok (out', db')) ∧
      db.histories.rows.map (·.carrierBillItemId) = [1] ∧
      db.reconciliations.rows.map (fun r => (r.carrierBillItemId, r.status)) =
        [(2, .diff), (3, .billOnly)] := by
  have hrun : ∃ db ∈ callAll (BillingOp.call fun _ => none) (fun _ _ => True) {} sampleBillOps,
      db.RecordsFree (strip " Sf ") ∧ db.histories.rows.map (·.carrierBillItemId) = [1] ∧
      db.reconciliations.rows.map (fun r => (r.carrierBillItemId, r.status)) =
        [(2, .diff), (3, .billOnly)] := by
    decide +kernel
  obtain ⟨db, hdb, hfree, hrows⟩ := hrun
  exact ⟨db, hdb, bill_reconcile_partitions _ (.of_callAll .start hdb) " Sf " hfree, hrows⟩

/-- Two items of one provider whose codes differ in case share a number: the
pass reports one duplicate and leaves both without a row. -/
theorem bill_reconcile_skips : ∃ db out db',
    Reaches (BillingOp.call fun _ => none) (fun _ _ => True) {} db ∧
      reconcile "SF" db = .ok (out, db') ∧ out.duplicateBillTrackingCount = 1 ∧
      ∃ i ∈ db'.carrierBillItems.rows, SameProvider "SF" i.shippingProviderCode ∧
        (∀ r ∈ db'.reconciliations.rows, r.carrierBillItemId ≠ i.id) ∧ ¬ db'.Archived i.id := by
  have hrun : ∃ db ∈ callAll (BillingOp.call fun _ => none) (fun _ _ => True) {}
      [.importBill (sampleFreights "sf" [("SF1", "10")]),
        .importBill (sampleFreights "SF" [("SF1", "10")])],
      ∃ out ∈ (reconcile "SF" db).toOption, out.1.duplicateBillTrackingCount = 1 ∧
        ∃ i ∈ out.2.carrierBillItems.rows, SameProvider "SF" i.shippingProviderCode ∧
          (∀ r ∈ out.2.reconciliations.rows, r.carrierBillItemId ≠ i.id) ∧
          ¬ out.2.Archived i.id := by
    decide
  obtain ⟨db, hdb, ⟨out, db'⟩, hout, hskipped⟩ := hrun
  refine ⟨db, out, db', .of_callAll .start hdb, ?_, hskipped⟩
  cases hrec : reconcile "SF" db with
  | error e => rw [hrec] at hout; cases hout
  | ok r => rw [hrec] at hout; cases hout; rfl

end WmsDu
