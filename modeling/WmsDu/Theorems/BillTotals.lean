import WmsDu.Billing.Import

/-!
# The totals of imported bills

An imported row writes its own total over the stored one, and its amounts
only where its cells are not blank. The totals agree with the amounts as long
as a blank cell meets no stored amount and the cents of a row add up; a bill
imported again with a blank cell breaks them.
-/

namespace WmsDu

/-- The total is the sum of the amounts, a missing one counting as zero. -/
def CarrierBillItem.TotalAgrees (i : CarrierBillItem) : Prop :=
  i.totalAmount = some (i.freightAmount.getD 0 + i.surchargeAmount.getD 0)

instance (i : CarrierBillItem) : Decidable i.TotalAgrees := inferInstanceAs (Decidable (_ = _))

/-- All totals agree. -/
def BillingDb.TotalsAgree (db : BillingDb) : Prop :=
  ∀ i ∈ db.carrierBillItems.rows, i.TotalAgrees

/-! ## What a file has to be like -/

/-- An amount as `float` and then a column of cents keep it. -/
def centsOf (d : Decimal) : Option Numeric := d.toFloat.bind (Numeric.store 2)

/-- Rounded to cents, two amounts add up to their sum. -/
def CentsAdd (freight surcharge : Decimal) : Prop :=
  ∀ total ∈ freight.add surcharge, ∀ f ∈ centsOf freight, ∀ s ∈ centsOf surcharge,
    ∀ t ∈ centsOf total, t = f + s

/-- The amount a merge keeps because the cell of the file is blank. -/
def keptAmount (cell : Option Decimal) (old : Option Numeric) : Numeric :=
  if cell = none then old.getD 0 else 0

/-- A row of a file that leaves the totals right: the cents of its amounts
add up, and where its cells are blank nothing is stored. -/
structure BillRow.Fits (row : BillRow Decimal) (shippingProviderCode : String) (db : BillingDb) :
    Prop where
  adds : ∀ freight surcharge,
    toDecimal (dictGet row.rawPayload "中转费/运费") "中转费/运费" = .ok freight →
    toDecimal (dictGet row.rawPayload "附加费") "附加费" = .ok surcharge →
    CentsAdd (freight.getD (.finite 0)) (surcharge.getD (.finite 0))
  kept : ∀ old ∈ db.carrierBillItems.lookup (shippingProviderCode, row.trackingNo),
    keptAmount row.freightAmount old.freightAmount +
      keptAmount row.surchargeAmount old.surchargeAmount = 0

/-- Every row fits where it is merged. -/
def RowsFit (shippingProviderCode : String) (billMonth : Option String) :
    List (BillRow Decimal) → BillingDb → Prop
  | [], _ => True
  | row :: rows, db =>
      row.Fits shippingProviderCode db ∧
        ∀ db', insertCarrierBillItem shippingProviderCode billMonth row db = .ok db' →
          RowsFit shippingProviderCode billMonth rows db'

/-- An upload whose rows all fit. -/
def BillUpload.Fits (readTime : String → Option Timestamp) (db : BillingDb)
    (upload : BillUpload) : Prop :=
  ∀ sheet ∈ upload.sheet, ∀ parsed,
    parseAndNormalizeCarrierBillXlsx readTime sheet = .ok parsed →
    RowsFit (strip upload.shippingProviderCode) (cleanText upload.billMonth) parsed.validRows db

instance (freight surcharge : Decimal) : Decidable (CentsAdd freight surcharge) :=
  inferInstanceAs (Decidable (∀ total ∈ freight.add surcharge, ∀ f ∈ centsOf freight,
    ∀ s ∈ centsOf surcharge, ∀ t ∈ centsOf total, t = f + s))

instance (row : BillRow Decimal) (shippingProviderCode : String) (db : BillingDb) :
    Decidable (row.Fits shippingProviderCode db) :=
  decidable_of_iff
    ((∀ freight, toDecimal (dictGet row.rawPayload "中转费/运费") "中转费/运费" = .ok freight →
        ∀ surcharge, toDecimal (dictGet row.rawPayload "附加费") "附加费" = .ok surcharge →
          CentsAdd (freight.getD (.finite 0)) (surcharge.getD (.finite 0))) ∧
      ∀ old ∈ db.carrierBillItems.lookup (shippingProviderCode, row.trackingNo),
        keptAmount row.freightAmount old.freightAmount +
          keptAmount row.surchargeAmount old.surchargeAmount = 0)
    ⟨fun h => ⟨fun f s hf hs => h.1 f hf s hs, h.2⟩,
      fun h => ⟨fun f hf s hs => h.adds f s hf hs, h.kept⟩⟩

instance decidableRowsFit (shippingProviderCode : String) (billMonth : Option String) :
    (rows : List (BillRow Decimal)) → (db : BillingDb) →
      Decidable (RowsFit shippingProviderCode billMonth rows db)
  | [], _ => isTrue trivial
  | row :: rows, db =>
      have := decidableRowsFit shippingProviderCode billMonth rows
      inferInstanceAs (Decidable (row.Fits shippingProviderCode db ∧ ∀ db',
        insertCarrierBillItem shippingProviderCode billMonth row db = .ok db' →
          RowsFit shippingProviderCode billMonth rows db'))

instance (readTime : String → Option Timestamp) (db : BillingDb) (upload : BillUpload) :
    Decidable (upload.Fits readTime db) :=
  inferInstanceAs (Decidable (∀ sheet ∈ upload.sheet, ∀ parsed,
    parseAndNormalizeCarrierBillXlsx readTime sheet = .ok parsed →
      RowsFit (strip upload.shippingProviderCode) (cleanText upload.billMonth)
        parsed.validRows db))

/-! ## The amounts of a row -/

/-- The amounts of a row are those of its cells. -/
structure BillRow.OfCells (row : BillRow Decimal) (freight surcharge : Option Decimal)
    (total : Decimal) : Prop where
  freightCell :
    toDecimal (dictGet row.rawPayload "中转费/运费") "中转费/运费" = .ok freight
  surchargeCell : toDecimal (dictGet row.rawPayload "附加费") "附加费" = .ok surcharge
  sum : (freight.getD (.finite 0)).add (surcharge.getD (.finite 0)) = some total
  freightAmount : toFloat? freight = .ok row.freightAmount
  surchargeAmount : toFloat? surcharge = .ok row.surchargeAmount
  totalAmount : toFloat? (some total) = .ok row.totalAmount

theorem normalizeRow_ofCells {readTime : String → Option Timestamp}
    {rawPayload : List (String × Cell)} {row : BillRow Decimal}
    (h : normalizeRow readTime rawPayload = .ok row) :
    ∃ freight surcharge total, row.OfCells freight surcharge total := by
  simp only [normalizeRow, bind_eq_ok, demandSome_eq_ok, pure_eq_ok] at h
  obtain ⟨trackingNo, -, time, -, weight, -, freight, hfreight, surcharge, hsurcharge, total,
    hsum, _, -, _, hfreight', _, hsurcharge', _, htotal, rfl⟩ := h
  exact ⟨freight, surcharge, total, hfreight, hsurcharge, hsum, hfreight', hsurcharge', htotal⟩

theorem normalizeRows_ofCells {readTime : String → Option Timestamp} {headers : List String}
    {rows : List (List Cell)} {rowNo : Nat} {parsed : ParsedBill}
    (h : normalizeRows readTime headers rowNo rows = .ok parsed) :
    ∀ row ∈ parsed.validRows, ∃ freight surcharge total,
      row.OfCells freight surcharge total := by
  induction rows generalizing rowNo parsed with
  | nil => cases h; intro row hrow; cases hrow
  | cons values rows ih =>
      unfold normalizeRows at h
      split at h
      · -- a blank row is skipped
        obtain ⟨rest, hrest, hparsed⟩ := bind_eq_ok.mp h
        cases hparsed
        have htail := ih hrest
        exact htail
      · split at h
        · cases h
        · obtain ⟨rest, hrest, hparsed⟩ := bind_eq_ok.mp h
          cases hparsed
          have htail := ih hrest
          exact htail
        · rename_i row hrow
          obtain ⟨rest, hrest, hparsed⟩ := bind_eq_ok.mp h
          cases hparsed
          intro r hr
          rcases List.mem_cons.mp hr with rfl | hr
          · exact normalizeRow_ofCells hrow
          · exact ih hrest r hr

theorem parse_ofCells {readTime : String → Option Timestamp} {sheet : List (List Cell)}
    {parsed : ParsedBill} (h : parseAndNormalizeCarrierBillXlsx readTime sheet = .ok parsed) :
    ∀ row ∈ parsed.validRows, ∃ freight surcharge total,
      row.OfCells freight surcharge total := by
  cases sheet with
  | nil => cases h; intro row hrow; cases hrow
  | cons headerRow rows => exact normalizeRows_ofCells h

/-! ## One row -/

theorem toFloat?_eq_ok {x y : Option Decimal} (h : toFloat? x = .ok y) : y = x.bind (·.toFloat) := by
  cases x with
  | none => cases h; rfl
  | some d =>
      simp only [toFloat?, bind_eq_ok, demandSome_eq_ok, pure_eq_ok] at h
      obtain ⟨f, hf, rfl⟩ := h
      exact hf.symm

theorem storeFigure_eq_ok {scale : Nat} {x : Option Decimal} {y : Option Numeric}
    (h : storeFigure scale x = .ok y) : y = x.bind (Numeric.store scale) := by
  cases x with
  | none => cases h; rfl
  | some d =>
      simp only [storeFigure, bind_eq_ok, demandSome_eq_ok, pure_eq_ok] at h
      obtain ⟨n, hn, rfl⟩ := h
      exact hn.symm

theorem storeFigure_isSome {scale : Nat} {x : Option Decimal} {y : Option Numeric}
    (h : storeFigure scale x = .ok y) : y.isSome = x.isSome := by
  cases x with
  | none => cases h; rfl
  | some d =>
      simp only [storeFigure, bind_eq_ok, demandSome_eq_ok, pure_eq_ok] at h
      obtain ⟨n, -, rfl⟩ := h
      rfl

theorem toFloat?_isSome {x y : Option Decimal} (h : toFloat? x = .ok y) :
    y.isSome = x.isSome := by
  cases x with
  | none => cases h; rfl
  | some d =>
      simp only [toFloat?, bind_eq_ok, demandSome_eq_ok, pure_eq_ok] at h
      obtain ⟨f, -, rfl⟩ := h
      rfl

/-- Zero is kept as zero. -/
theorem centsOf_zero : centsOf (.finite 0) = some 0 := by decide +kernel

/-- What a column of cents keeps of an optional amount. -/
theorem centsOf_getD {x y : Option Decimal} {n : Option Numeric} (hy : toFloat? x = .ok y)
    (hn : storeFigure 2 y = .ok n) : centsOf (x.getD (.finite 0)) = some (n.getD 0) := by
  have hsome := (storeFigure_isSome hn).trans (toFloat?_isSome hy)
  rw [toFloat?_eq_ok hy] at hn
  have hvalue := storeFigure_eq_ok hn
  cases x with
  | none =>
      cases hvalue
      exact centsOf_zero
  | some d =>
      obtain ⟨m, rfl⟩ := Option.isSome_iff_exists.mp hsome
      exact hvalue.symm

/-- A merged amount is the imported one and what the blank cell keeps. -/
theorem coalesce_getD {cell : Option Decimal} {new old : Option Numeric}
    (h : new.isSome = cell.isSome) :
    (new.or old).getD 0 = new.getD 0 + keptAmount cell old := by
  cases new with
  | none =>
      have hblank : cell = none := by
        cases cell with
        | none => rfl
        | some d => cases h
      simp [keptAmount, hblank]
  | some n =>
      have hcell : cell ≠ none := by
        rintro rfl
        cases h
      simp [keptAmount, hcell]

/-- What a row of the file is stored as when it meets no other. -/
theorem stored_agrees {row : BillRow Decimal} {values : BillRow Numeric}
    {freight surcharge : Option Decimal} {total : Decimal}
    (hcells : row.OfCells freight surcharge total)
    (hadds : CentsAdd (freight.getD (.finite 0)) (surcharge.getD (.finite 0)))
    (h : row.stored = .ok values) :
    values.totalAmount = some (values.freightAmount.getD 0 + values.surchargeAmount.getD 0) ∧
      values.freightAmount.isSome = row.freightAmount.isSome ∧
      values.surchargeAmount.isSome = row.surchargeAmount.isSome ∧
      values.trackingNo = row.trackingNo := by
  simp only [BillRow.stored, bind_eq_ok, pure_eq_ok] at h
  obtain ⟨weight, -, f, hf, s, hs, t, ht, rfl⟩ := h
  refine ⟨?_, storeFigure_isSome hf, storeFigure_isSome hs, rfl⟩
  have hfreight := centsOf_getD hcells.freightAmount hf
  have hsurcharge := centsOf_getD hcells.surchargeAmount hs
  have hstored := centsOf_getD hcells.totalAmount ht
  have hsome : t.isSome := by
    rw [storeFigure_isSome ht, toFloat?_isSome hcells.totalAmount]
    rfl
  obtain ⟨n, rfl⟩ := Option.isSome_iff_exists.mp hsome
  have hsum := hadds total hcells.sum _ hfreight _ hsurcharge _ hstored
  exact congrArg some hsum

/-- A merge under blank cells that keep nothing. -/
theorem CarrierBillItem.merge_agrees {old excluded : CarrierBillItem}
    {freightCell surchargeCell : Option Decimal} (hagrees : excluded.TotalAgrees)
    (hfreight : excluded.freightAmount.isSome = freightCell.isSome)
    (hsurcharge : excluded.surchargeAmount.isSome = surchargeCell.isSome)
    (hkept : keptAmount freightCell old.freightAmount +
      keptAmount surchargeCell old.surchargeAmount = 0) :
    (old.merge excluded).TotalAgrees := by
  show excluded.totalAmount.or old.totalAmount =
    some ((excluded.freightAmount.or old.freightAmount).getD 0 +
      (excluded.surchargeAmount.or old.surchargeAmount).getD 0)
  rw [coalesce_getD hfreight, coalesce_getD hsurcharge, add_add_add_comm, hkept, add_zero]
  rw [show excluded.totalAmount = _ from hagrees]
  rfl

theorem BillingDb.upsertItem_agrees {db : BillingDb} {excluded : CarrierBillItem}
    (hdb : db.TotalsAgree) (hnew : excluded.TotalAgrees)
    (hmerge : ∀ old ∈ db.carrierBillItems.lookup excluded.key, (old.merge excluded).TotalAgrees) :
    (db.upsertItem excluded).TotalsAgree := by
  intro i hi
  simp only [BillingDb.upsertItem] at hi
  cases hfound : db.carrierBillItems.lookup excluded.key with
  | none =>
      have habsent := Table.lookup_eq_none.mp hfound
      rw [hfound] at hi
      simp only [Table.rows_insert_new habsent, List.mem_append, List.mem_singleton] at hi
      rcases hi with hi | rfl
      · exact hdb i hi
      · exact hnew
  | some old =>
      rw [hfound] at hi
      dsimp only at hi
      split at hi
      · rcases Table.mem_put.mp hi with ⟨hi, -⟩ | ⟨rfl, -⟩
        · exact hdb i hi
        · exact hmerge old hfound
      · exact hdb i hi

/-- **Step.** A row that fits keeps the totals right. -/
theorem insertCarrierBillItem_agrees {shippingProviderCode : String} {billMonth : Option String}
    {row : BillRow Decimal} {db db' : BillingDb} {freight surcharge : Option Decimal}
    {total : Decimal} (hdb : db.TotalsAgree) (hcells : row.OfCells freight surcharge total)
    (hfits : row.Fits shippingProviderCode db)
    (h : insertCarrierBillItem shippingProviderCode billMonth row db = .ok db') :
    db'.TotalsAgree := by
  simp only [insertCarrierBillItem, bind_eq_ok, demand_eq_ok, pure_eq_ok] at h
  obtain ⟨_, -, values, hvalues, rfl⟩ := h
  have hadds := hfits.adds freight surcharge hcells.freightCell hcells.surchargeCell
  obtain ⟨hagrees, hfreight, hsurcharge, htracking⟩ := stored_agrees hcells hadds hvalues
  refine BillingDb.upsertItem_agrees hdb hagrees fun old hold => ?_
  refine CarrierBillItem.merge_agrees hagrees hfreight hsurcharge (hfits.kept old ?_)
  rw [← htracking]
  exact hold

/-- The rows of one file. -/
theorem insertCarrierBillItems_agrees {shippingProviderCode : String}
    {billMonth : Option String} {rows : List (BillRow Decimal)} {db db' : BillingDb}
    (hdb : db.TotalsAgree)
    (hcells : ∀ row ∈ rows, ∃ freight surcharge total, row.OfCells freight surcharge total)
    (hfits : RowsFit shippingProviderCode billMonth rows db)
    (h : insertCarrierBillItems shippingProviderCode billMonth rows db = .ok db') :
    db'.TotalsAgree := by
  induction rows generalizing db with
  | nil => cases h; exact hdb
  | cons row rows ih =>
      obtain ⟨db₁, hrow, hrows⟩ := bind_eq_ok.mp h
      obtain ⟨freight, surcharge, total, hrowCells⟩ := hcells row List.mem_cons_self
      have hdb₁ := insertCarrierBillItem_agrees hdb hrowCells hfits.1 hrow
      exact ih hdb₁ (fun r hr => hcells r (List.mem_cons_of_mem _ hr)) (hfits.2 db₁ hrow) hrows

/-! ## Every history of imports -/

/-- An import, without its answer. -/
def importCall (readTime : String → Option Timestamp) (upload : BillUpload) (db : BillingDb) :
    Except Err BillingDb :=
  (importShippingBill readTime upload db).map (·.2)

theorem importCall_agrees {readTime : String → Option Timestamp} {upload : BillUpload}
    {db db' : BillingDb} (hfits : upload.Fits readTime db) (hdb : db.TotalsAgree)
    (h : importCall readTime upload db = .ok db') : db'.TotalsAgree := by
  obtain ⟨out, hrun, rfl⟩ := map_eq_ok.mp h
  simp only [importShippingBill, bind_eq_ok, demand_eq_ok, demandSome_eq_ok, pure_eq_ok] at hrun
  obtain ⟨_, -, _, -, sheet, hsheet, parsed, hparsed, db₁, hinsert, rfl⟩ := hrun
  exact insertCarrierBillItems_agrees hdb (parse_ofCells hparsed)
    (hfits sheet hsheet parsed hparsed) hinsert

/-- **Bill totals.** After imports whose rows fit where they are merged, every
stored total is the sum of the stored amounts. -/
theorem bill_totals_agree (readTime : String → Option Timestamp) {db₀ db : BillingDb}
    (h₀ : db₀.TotalsAgree)
    (h : Reaches (importCall readTime) (BillUpload.Fits readTime) db₀ db) : db.TotalsAgree :=
  h.invariant h₀ fun _ _ _ hfits hdb hcall => importCall_agrees hfits hdb hcall

/-! ## One parcel in several files -/

/-- No cell of the sample files holds a time. -/
def noTimes : String → Option Timestamp := fun _ => none

/-- A file with one parcel. -/
def sampleBill (freight surcharge : Cell) : BillUpload where
  shippingProviderCode := "SF"
  billMonth := some "2026-03"
  filename := some "bill.xlsx"
  sheet := some
    [[.text "运单号", .text "中转费/运费", .text "附加费"], [.text "SF1", freight, surcharge]]

/-- A blank surcharge that is filled later, and the same file once more. -/
theorem bill_totals_agree_sample : ∃ db,
    callAll (importCall noTimes) (BillUpload.Fits noTimes) {}
      [sampleBill (.number "10") .blank, sampleBill (.number "10") (.text " 2.50 "),
        sampleBill (.number "10") (.text " 2.50 ")] = some db ∧
      db.TotalsAgree ∧ db.carrierBillItems.rows.map (·.totalAmount) = [some (.units 1250)] := by
  have hrun : ∃ db ∈ callAll (importCall noTimes) (BillUpload.Fits noTimes) {}
      [sampleBill (.number "10") .blank, sampleBill (.number "10") (.text " 2.50 "),
        sampleBill (.number "10") (.text " 2.50 ")],
      db.carrierBillItems.rows.map (·.totalAmount) = [some (.units 1250)] := by
    decide +kernel
  obtain ⟨db, hdb, htotal⟩ := hrun
  have hstart : ({} : BillingDb).TotalsAgree := by
    intro i hi
    cases hi
  exact ⟨db, hdb, bill_totals_agree noTimes hstart (.of_callAll .start hdb), htotal⟩

/-- The parcel comes again without its freight, and another file has amounts
below a cent. -/
theorem bill_totals_differ :
    (∃ db, Reaches (importCall noTimes) (fun _ _ => True) {} db ∧
      ∃ i ∈ db.carrierBillItems.rows, ¬ i.TotalAgrees ∧ i.freightAmount = some (.units 1000) ∧
        i.surchargeAmount = some (.units 200) ∧ i.totalAmount = some (.units 200)) ∧
    ∃ db, Reaches (importCall noTimes) (fun _ _ => True) {} db ∧
      ∃ i ∈ db.carrierBillItems.rows, ¬ i.TotalAgrees ∧ i.freightAmount = some (.units 0) ∧
        i.surchargeAmount = some (.units 0) ∧ i.totalAmount = some (.units 1) := by
  constructor
  · have hrun : ∃ db ∈ callAll (importCall noTimes) (fun _ _ => True) {}
        [sampleBill (.number "10") (.number "2"), sampleBill .blank (.number "2")],
        ∃ i ∈ db.carrierBillItems.rows, ¬ i.TotalAgrees ∧ i.freightAmount = some (.units 1000) ∧
          i.surchargeAmount = some (.units 200) ∧ i.totalAmount = some (.units 200) := by
      decide +kernel
    obtain ⟨db, hdb, hitem⟩ := hrun
    exact ⟨db, .of_callAll .start hdb, hitem⟩
  · have hrun : ∃ db ∈ callAll (importCall noTimes) (fun _ _ => True) {}
        [sampleBill (.number "0.004") (.number "0.004")],
        ∃ i ∈ db.carrierBillItems.rows, ¬ i.TotalAgrees ∧ i.freightAmount = some (.units 0) ∧
          i.surchargeAmount = some (.units 0) ∧ i.totalAmount = some (.units 1) := by
      decide +kernel
    obtain ⟨db, hdb, hitem⟩ := hrun
    exact ⟨db, .of_callAll .start hdb, hitem⟩

end WmsDu
