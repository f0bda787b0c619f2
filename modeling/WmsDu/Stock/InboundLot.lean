import WmsDu.Stock.LotMoves
import WmsDu.Stock.Lots
import WmsDu.Stock.Posting

/-!
# The lot a receipt is booked into

What `resolve_inbound_lot` comes to on one state, as a function of the state:
the lot it answers, found or created, or none when it refuses. The two
receiving paths share it and differ in the dates they hand it.
-/

namespace WmsDu

open Txn

variable {db db' : Db} {w newLotId : Int} {item : Item}

/-! ## The lots it looks for -/

/-- The lot of a production date. -/
def supplierLotAt (db : Db) (w itemId : Int) (pd : Date) : Option Lot :=
  (lotsWhere db fun l => l.warehouseId = w ∧ l.itemId = itemId ∧
    l.lotCodeSource = .supplier ∧ l.productionDate = some pd).head?

/-- The lots of a code, two at most. -/
def supplierLotsOf (db : Db) (w itemId : Int) (code : String) : List Lot :=
  (lotsWhere db fun l => l.warehouseId = w ∧ l.itemId = itemId ∧
    l.lotCodeSource = .supplier ∧ l.lotCode = some code).take 2

/-- The lot without a code. -/
def internalLotOf (db : Db) (w itemId : Int) : Option Lot :=
  (lotsWhere db fun l => l.warehouseId = w ∧ l.itemId = itemId ∧
    l.lotCodeSource = .internal ∧ l.lotCode = none).head?

theorem head_lotsWhere_eq_some {p : Lot → Bool} {lot : Lot}
    (h : (lotsWhere db p).head? = some lot) : lot ∈ db.lots.rows ∧ p lot = true :=
  List.mem_filter.mp ((List.perm_insertionSort _ _).mem_iff.mp (List.mem_of_head? h))

theorem head_lotsWhere_eq_none {p : Lot → Bool} (h : (lotsWhere db p).head? = none) :
    ∀ lot ∈ db.lots.rows, ¬ p lot = true := by
  intro lot hlot hp
  have hmem : lot ∈ lotsWhere db p :=
    (List.perm_insertionSort _ _).mem_iff.mpr (List.mem_filter.mpr ⟨hlot, hp⟩)
  rw [List.head?_eq_none_iff.mp h] at hmem
  cases hmem

/-! ## What the books hold of items and lots -/

/-- The `CHECK`s of `items` on the shelf life; the item service keeps it to
items with required dates. -/
structure ItemPolicy.Ok (p : ItemPolicy) : Prop where
  pair : p.shelfLifeValue.isNone = p.shelfLifeUnit.isNone
  positive : ∀ v, p.shelfLifeValue = some v → 0 < v
  onlyRequired : p.expiryPolicy = .none → p.shelfLifeValue = none

/-- A lot of the item can be found or created in the warehouse. -/
structure Bookable (db : Db) (w : Int) (item : Item) (newLotId : Int) : Prop where
  found : db.items.lookup item.id = some item
  policy : item.policy.Ok
  warehouse : db.warehouses.HasKey w
  checked : ∀ lot ∈ db.lots.rows, lot.check = none
  newLot : 0 < newLotId ∧ ¬ db.lots.HasKey newLotId

/-- The lot an insert builds. -/
def newLotOf (newLotId w : Int) (item : Item) (source : LotCodeSource) (code : Option String)
    (pd ed : Option Date) : Lot :=
  { id := newLotId, warehouseId := w, itemId := item.id, lotCodeSource := source
    lotCode := code, productionDate := pd, expiryDate := ed
    sourceReceiptId := none, sourceLineNo := none, itemPolicySnapshot := item.policy }

/-- A lot of the supplier: of the production date where dates are required, of
the code otherwise. -/
def supplierLot (db : Db) (w : Int) (item : Item) (code : String) (pd ed : Option Date)
    (newLotId : Int) : Option Lot :=
  match item.policy.expiryPolicy with
  | .required => pd.bind fun p =>
      match supplierLotAt db w item.id p with
      | some lot => if lot.itemPolicySnapshot = item.policy then some lot else none
      | none => (completeLotDates item.policy (some p) ed).2.map fun e =>
          newLotOf newLotId w item .supplier (some code) (some p) (some e)
  | .none =>
      match supplierLotsOf db w item.id code with
      | [lot] => if lot.itemPolicySnapshot = item.policy then some lot else none
      | _ => none

/-- The lot of the warehouse that has no code. -/
def internalLot (db : Db) (w : Int) (item : Item) (newLotId : Int) : Option Lot :=
  match internalLotOf db w item.id, item.policy.expiryPolicy with
  | some lot, _ => some lot
  | none, .required => none
  | none, .none => some (newLotOf newLotId w item .internal none none none)

/-- The lot `resolve_inbound_lot` answers. -/
def bookedLot (db : Db) (w : Int) (item : Item) (code : Option String) (pd ed : Option Date)
    (newLotId : Int) : Option Lot :=
  match inferLotCodeSource item.policy with
  | .supplier => (cleanText code).bind fun c => supplierLot db w item c pd ed newLotId
  | .internal => internalLot db w item newLotId

/-! ## The checks of a new lot -/

theorem newLotOf_supplier_check (hpolicy : item.policy.Ok)
    (hreq : item.policy.expiryPolicy = .required) (code : String) {pd ed : Date}
    (hle : ¬ ed.before pd) :
    (newLotOf newLotId w item .supplier (some code) (some pd) (some ed)).check = none := by
  unfold Lot.check newLotOf
  simp [hpolicy.pair, hreq, hle]

theorem newLotOf_internal_check (hpolicy : item.policy.Ok) :
    (newLotOf newLotId w item .internal none none none).check = none ↔
      item.policy.expiryPolicy = .none := by
  unfold Lot.check newLotOf
  cases hexp : item.policy.expiryPolicy with
  | required => simp [hpolicy.pair, hexp]
  | none =>
      have hvalue := hpolicy.onlyRequired hexp
      have hunit : item.policy.shelfLifeUnit = none := by
        have hpair := hpolicy.pair
        rw [hvalue] at hpair
        exact Option.isNone_iff_eq_none.mp hpair.symm
      simp [hvalue, hunit, hexp]

/-! ## The statements on `lots` -/

/-- An insert that no check and no index stops. -/
theorem run_insertLot_new (hb : Bookable db w item newLotId) {source : LotCodeSource}
    {code : Option String} {pd ed : Option Date}
    (hcheck : (newLotOf newLotId w item source code pd ed).check = none)
    (hclash : ∀ l ∈ db.lots.rows, ¬ l.clashes (newLotOf newLotId w item source code pd ed)) :
    (Prog.exec (.insertLot newLotId w item.id source code pd ed none none) :
        Tx (Option Int)).run db =
      .ok (some newLotId,
        { db with lots := db.lots.insert (newLotOf newLotId w item source code pd ed) }) := by
  rw [Prog.run_exec_ok]
  refine ⟨[.lotInsert (newLotOf newLotId w item source code pd ed)], ?_, rfl⟩
  have hno : ¬ ∃ l ∈ db.lots.rows, l.clashes (newLotOf newLotId w item source code pd ed) :=
    fun ⟨l, hl, hc⟩ => hclash l hl hc
  have hid : ¬ (newLotId ≤ 0 ∨ db.lots.HasKey newLotId) :=
    not_or.mpr ⟨not_le.mpr hb.newLot.1, hb.newLot.2⟩
  show Sql.exec _ db = _
  simp only [Sql.exec, hb.found]
  unfold newLotOf at hcheck hno
  simp only [hcheck, hno, hid, hb.warehouse, if_false, not_true_eq_false]
  rfl

/-- A check stops the insert. -/
theorem run_insertLot_violated (hb : Bookable db w item newLotId) {source : LotCodeSource}
    {code : Option String} {pd ed : Option Date}
    (hcheck : (newLotOf newLotId w item source code pd ed).check ≠ none) (r : Option Int × Db) :
    (Prog.exec (.insertLot newLotId w item.id source code pd ed none none) :
        Tx (Option Int)).run db ≠ .ok r := by
  intro h
  obtain ⟨us, hexec, -⟩ := Prog.run_exec_ok.mp h
  change Sql.exec _ db = _ at hexec
  simp only [Sql.exec, hb.found] at hexec
  unfold newLotOf at hcheck
  split at hexec
  · cases hexec
  · exact hcheck ‹_›

/-- The lots in stock have their expiry date where dates are required. -/
theorem expiryDate_of_check {lot : Lot} (h : lot.check = none) (hpd : lot.productionDate ≠ none)
    (hsource : lot.lotCodeSource = .supplier) : lot.expiryDate ≠ none := by
  intro hnone
  have hreq := (Lot.check_eq_none h).1.mpr hpd
  unfold Lot.check at h
  simp only [hreq, hsource, hnone] at h
  (repeat' split at h) <;> simp_all

/-- Nothing is patched on a lot that has its expiry date. -/
theorem run_patchLotExpiryIfNull {lot : Lot} (hlot : lot ∈ db.lots.rows)
    (hed : lot.expiryDate ≠ none) (ed : Option Date) :
    (patchLotExpiryIfNull lot.id ed).run db = .ok ((), db) := by
  cases ed with
  | none => rfl
  | some e =>
      have hlook : db.lots.lookup lot.id = some lot := Table.lookup_eq_some.mpr ⟨hlot, rfl⟩
      refine Prog.run_exec_ok.mpr ⟨[], ?_, rfl⟩
      show Sql.exec _ db = _
      simp only [Sql.exec, hlook, if_pos hed]

/-- A lot that is there is not inserted again. -/
theorem insert_lot_old {lot : Lot} (hlot : lot ∈ db.lots.rows) :
    { db with lots := db.lots.insert lot } = db := by
  rw [Table.insert_old (Table.hasKey_of_mem hlot)]

/-! ## The functions of the lot service -/

/-- The state with the lot in it. -/
def Db.withLot (db : Db) (lot : Lot) : Db := { db with lots := db.lots.insert lot }

/-- The supplier's lot of a production date, found or created. -/
theorem run_ensureLotByDates_ok (hb : Bookable db w item newLotId)
    (hreq : item.policy.expiryPolicy = .required) {code : String} {pd : Date} {ed : Option Date}
    (hle : ∀ e, ed = some e → ¬ e.before pd) {lotId : Int} :
    (ensureLotByDates item.id w code (some pd) ed newLotId).run db = .ok (lotId, db') ↔
      ∃ lot, (supplierLotAt db w item.id pd <|>
          ed.map fun e => newLotOf newLotId w item .supplier (some code) (some pd) (some e)) =
            some lot ∧ lotId = lot.id ∧ db' = db.withLot lot := by
  have hread : (Tx.select fun db => supplierLotByProductionDate db w item.id pd).run db =
      .ok ((supplierLotAt db w item.id pd).map Lot.id, db) := rfl
  unfold ensureLotByDates
  rw [Prog.run_bind_of_ok hread]
  cases hfound : supplierLotAt db w item.id pd with
  | some lot =>
      obtain ⟨hlot, hp⟩ := head_lotsWhere_eq_some hfound
      simp only [Bool.decide_and, Bool.and_eq_true, decide_eq_true_eq] at hp
      have hed := expiryDate_of_check (hb.checked lot hlot)
        (by rw [hp.2.2.2]; exact Option.some_ne_none pd) hp.2.2.1
      simp only [Option.map_some]
      rw [Prog.run_bind_of_ok (run_patchLotExpiryIfNull hlot hed ed)]
      simp [Db.withLot, insert_lot_old hlot, eq_comm]
  | none =>
      cases ed with
      | none => simp [Tx.require]
      | some e =>
          have hclash : ∀ l ∈ db.lots.rows,
              ¬ l.clashes (newLotOf newLotId w item .supplier (some code) (some pd) (some e)) := by
            rintro l hl ⟨hw, hi, ⟨hsup, -, -, -, -, hpd⟩ | ⟨-, hint, -⟩⟩
            · refine head_lotsWhere_eq_none hfound l hl ?_
              simp only [Bool.decide_and, Bool.and_eq_true, decide_eq_true_eq]
              exact ⟨hw, hi, hsup, hpd⟩
            · cases hint
          have hins := run_insertLot_new hb
            (newLotOf_supplier_check hb.policy hreq code (hle e rfl)) hclash
          simp only [Option.map_none]
          rw [Prog.run_bind_of_ok (Tx.run_require_of (Option.some_ne_none e)),
            Prog.run_bind_of_ok hins]
          simp [Db.withLot, newLotOf, eq_comm]

end WmsDu
