import WmsDu.Data.Greedy
import WmsDu.Data.Sorting
import WmsDu.Db.Schema

/-!
# First expired, first out

The read-only allocator ranks the stock of an item by expiry date, dated
stock first, and plans a quantity over the ranked rows. It suggests only; no
balance is written.
-/

namespace WmsDu

/-- A row the allocator plans from; its id is that of the lot. -/
structure FefoRow where
  stockId : Int
  lotCode : Option String := none
  avail : Int
  expiryDate : Option Date := none
deriving DecidableEq, Repr

/-- `Allocation`. -/
structure Allocation where
  stockId : Int
  lotCode : Option String
  takeQty : Int
  expiryDate : Option Date
deriving DecidableEq, Repr

/-! ## Ranking -/

/-- `_sort_key`: undated rows last, then the date, then the id. The date of an
undated row is compared with no other. -/
def FefoRow.sortKey (r : FefoRow) : Bool ×ₗ (Int ×ₗ Int ×ₗ Int) ×ₗ Int :=
  let d := r.expiryDate.getD ⟨0, 0, 0⟩
  toLex (r.expiryDate.isNone, toLex (toLex (d.year, toLex (d.month, d.day)), r.stockId))

/-- `_rank`. -/
def fefoRank (rows : List FefoRow) : List FefoRow := sortOn FefoRow.sortKey rows

/-- A row expires before another one; undated rows last, ties by id. -/
def FefoRow.Before (a b : FefoRow) : Prop :=
  match a.expiryDate, b.expiryDate with
  | some d, some e => d.before e ∨ (d = e ∧ a.stockId < b.stockId)
  | some _, none => True
  | none, some _ => False
  | none, none => a.stockId < b.stockId

theorem FefoRow.sortKey_lt (a b : FefoRow) : a.sortKey < b.sortKey ↔ a.Before b := by
  unfold sortKey Before
  cases a.expiryDate with
  | none =>
      cases b.expiryDate with
      | none => simp [Prod.Lex.toLex_lt_toLex]
      | some e => simp [Prod.Lex.toLex_lt_toLex]
  | some d =>
      cases b.expiryDate with
      | none => simp [Prod.Lex.toLex_lt_toLex]
      | some e =>
          obtain ⟨y, m, d⟩ := d
          obtain ⟨y', m', d'⟩ := e
          simp [Prod.Lex.toLex_lt_toLex, Date.before]

/-! ## Planning -/

/-- `PLAN_EPSILON`. -/
def planEpsilon : ℚ := 1 / 1000000

/-- `int(q)`, which cuts towards zero. -/
def truncate (q : ℚ) : Int := if 0 ≤ q then ⌊q⌋ else ⌈q⌉

/-- The availability `_plan` counts with. -/
def availInt (avail : Int) : Int := max (truncate (avail + planEpsilon)) 0

/-- The epsilon is lost again. -/
theorem availInt_of_nonneg {avail : Int} (h : 0 ≤ avail) : availInt avail = avail := by
  have hcast : (0 : ℚ) ≤ avail := by exact_mod_cast h
  have hfloor : ⌊(avail : ℚ) + planEpsilon⌋ = avail := by
    rw [Int.floor_intCast_add, show ⌊planEpsilon⌋ = 0 by decide +kernel, add_zero]
  unfold availInt truncate
  rw [if_pos (by unfold planEpsilon; linarith), hfloor]
  omega

/-- `_plan`: a greedy pass over the ranked rows. -/
def fefoPlan : List FefoRow → Int → List Allocation
  | [], _ => []
  | r :: ranked, remain =>
      if remain ≤ 0 then []
      else
        let avail := availInt r.avail
        if avail ≤ 0 then fefoPlan ranked remain
        else
          let take := min avail remain
          ⟨r.stockId, r.lotCode, take, r.expiryDate⟩ :: fefoPlan ranked (remain - take)

/-- What is taken from a row. -/
def FefoRow.take (r : FefoRow) (qty : Int) : Allocation := ⟨r.stockId, r.lotCode, qty, r.expiryDate⟩

/-- The pass is the greedy one. -/
theorem fefoPlan_eq (ranked : List FefoRow) (need : Int) :
    fefoPlan ranked need =
      (Greedy.plan (fun r => availInt r.avail) ranked need).map fun p => p.1.take p.2 := by
  induction ranked generalizing need with
  | nil => rfl
  | cons r ranked ih =>
      rw [fefoPlan, Greedy.plan]
      dsimp only
      split
      · rfl
      · split
        · exact ih need
        · rw [List.map_cons, ih]
          rfl

/-! ## The allocator -/

/-- A row of the stock query. -/
def fefoRow (db : Db) (s : StocksLotRow) : FefoRow :=
  let lot := db.lots.lookup s.slot.lotId
  ⟨s.slot.lotId, lot.bind Lot.lotCode, max s.qty 0, lot.bind Lot.expiryDate⟩

/-- `_fetch_stocks`. -/
def fetchFefoRows (db : Db) (itemId : Int) (warehouseId : Option Int) (allowExpired : Bool)
    (today : Date) : List FefoRow :=
  (db.stocksLot.rows.filter fun s =>
    s.slot.itemId = itemId ∧ 0 < (fefoRow db s).avail ∧
      (∀ w ∈ warehouseId, s.slot.warehouseId = w) ∧
      (allowExpired = true ∨ ∀ e ∈ (fefoRow db s).expiryDate, today.before e)).map (fefoRow db)

/-- `ExpiryAnalyticsAllocator.allocate`. -/
def fefoAllocate (db : Db) (itemId needQty : Int) (warehouseId : Option Int) (allowExpired : Bool)
    (today : Date) : List Allocation :=
  fefoPlan (fefoRank (fetchFefoRows db itemId warehouseId allowExpired today)) needQty

/-- What the query finds is there. -/
theorem avail_nonneg_of_mem_fetch {db : Db} {itemId : Int} {warehouseId : Option Int}
    {allowExpired : Bool} {today : Date} {r : FefoRow}
    (h : r ∈ fetchFefoRows db itemId warehouseId allowExpired today) : 0 ≤ r.avail := by
  obtain ⟨s, -, rfl⟩ := List.mem_map.mp h
  exact le_max_right _ _

/-- In one warehouse, the query lists a lot once. -/
theorem nodup_fetch (db : Db) (itemId warehouseId : Int) (allowExpired : Bool) (today : Date) :
    ((fetchFefoRows db itemId (some warehouseId) allowExpired today).map
      FefoRow.stockId).Nodup := by
  unfold fetchFefoRows
  rw [List.map_map]
  refine List.Nodup.map_on ?_ (List.Nodup.filter _ (List.Nodup.of_map _ db.stocksLot.nodup))
  intro s hs t ht hlot
  obtain ⟨hs, hsq⟩ := List.mem_filter.mp hs
  obtain ⟨ht, htq⟩ := List.mem_filter.mp ht
  obtain ⟨hsi, -, hsw, -⟩ := of_decide_eq_true hsq
  obtain ⟨hti, -, htw, -⟩ := of_decide_eq_true htq
  refine db.stocksLot.eq_of_key hs ht ?_
  have hslot : s.slot = ⟨t.slot.warehouseId, t.slot.itemId, t.slot.lotId⟩ := by
    rw [htw _ rfl, ← hsw _ rfl, hti, ← hsi, ← show s.slot.lotId = t.slot.lotId from hlot]
  exact hslot

end WmsDu
