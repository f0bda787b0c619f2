import WmsDu.Pms.SkuCalls

/-!
# The governance of SKU codes

A session updates the columns whose value differs from its copy. A promotion
that leaves the flag of its code or the SKU of its item unwritten, because the
copy already says so, misses what was committed since it was loaded: the item
is left without a primary code, or with one that is not its SKU.
-/

namespace WmsDu

open Txn

variable {n : Nat}

/-! ## What governance gives -/

/-- An active code finds the item that owns it, in whatever case. -/
def PmsDb.Resolves (n : Nat) (db : PmsDb) (c : SkuCodeRow) : Prop :=
  ∀ s, lower s = lower c.code → ∃ m ∈ db.items.rows, m.id = c.itemId ∧
    (getItemByActiveCode s : PmsTx n (Option ItemMaster)).run db = .ok (some m, db)

/-- The governance of SKU codes, as its users see it. -/
structure PmsDb.SkuSound (n : Nat) (db : PmsDb) : Prop where
  primary : ∀ m ∈ db.items.rows, ∃ c ∈ db.skuCodes.rows, c.itemId = m.id ∧ c.isPrimary = true ∧
    c.isActive = true ∧ c.effectiveTo = none ∧ c.code = m.sku ∧
    ∀ d ∈ db.skuCodes.rows, d.itemId = m.id → d.isPrimary = true → d = c
  different : ∀ c ∈ db.skuCodes.rows, ∀ d ∈ db.skuCodes.rows, lower c.code = lower d.code → c = d
  resolves : ∀ c ∈ db.skuCodes.rows, c.isActive = true → db.Resolves n c

namespace PmsDb.SkuGoverned
variable {db : PmsDb}

theorem different (h : db.SkuGoverned) {c d : SkuCodeRow} (hc : c ∈ db.skuCodes.rows)
    (hd : d ∈ db.skuCodes.rows) (heq : lower c.code = lower d.code) : c = d :=
  h.unique c hc d hd (eq_of_lower_eq (h.normal c hc) (h.normal d hd) heq)

/-- An active code is the only one a spelling of it finds. -/
theorem activeSkuCode_eq (h : db.SkuGoverned) {c : SkuCodeRow} (hc : c ∈ db.skuCodes.rows)
    (hactive : c.isActive = true) : db.activeSkuCode c.code = some c := by
  unfold PmsDb.activeSkuCode
  set found := db.skuCodes.rows.filter fun d => lower d.code = lower c.code ∧ d.isActive with hfound
  set key := fun d : SkuCodeRow => toLex (!d.isPrimary, d.id)
  have hall : ∀ d ∈ sortOn key found, d = c := by
    intro d hd
    obtain ⟨hmem, hd⟩ := List.mem_filter.mp (mem_sortOn.mp hd)
    exact h.different hmem hc (of_decide_eq_true hd).1
  have hmem : c ∈ sortOn key found :=
    mem_sortOn.mpr (List.mem_filter.mpr ⟨hc, decide_eq_true ⟨rfl, hactive⟩⟩)
  cases hl : sortOn key found with
  | nil =>
      rw [hl] at hmem
      cases hmem
  | cons d rest =>
      rw [List.head?_cons, hall d (by rw [hl]; exact List.mem_cons_self)]

theorem resolves (h : db.SkuGoverned) {c : SkuCodeRow} (hc : c ∈ db.skuCodes.rows)
    (hactive : c.isActive = true) : db.Resolves n c := by
  intro s hs
  obtain ⟨m, hm, hid⟩ := h.owned c hc
  obtain ⟨hstrip, hcode⟩ := normalizeCode_of_lower_eq "sku code" (h.normal c hc) hs
  have hne : strip s ≠ "" := by
    intro hempty
    unfold normalizeCode at hcode
    rw [hempty, if_pos (show upper "" = "" by decide)] at hcode
    cases hcode
  refine ⟨m, hm, hid, ?_⟩
  unfold getItemByActiveCode
  rw [if_neg hne, Prog.run_bind_ok]
  refine ⟨c.code, db, Prog.run_ofExcept_ok.mpr ⟨by rw [hstrip]; exact hcode, rfl⟩, ?_⟩
  rw [Prog.run_bind_ok]
  refine ⟨some c, db, ?_, ?_⟩
  · rw [Prog.run_read, h.activeSkuCode_eq hc hactive]
  · show (getItem c.itemId).run db = _
    unfold getItem
    rw [Prog.run_read, Table.lookup_eq_some.mpr ⟨hm, hid⟩]

theorem sound (h : db.SkuGoverned) : db.SkuSound n where
  primary m hm := by
    obtain ⟨c, hc, hitem, hprimary, hactive, heff, hsku⟩ := h.primary m hm
    exact ⟨c, hc, hitem, hprimary, hactive, heff, hsku, fun d hd hditem hdprimary =>
      h.one d hd c hc (hditem.trans hitem.symm) hdprimary hprimary⟩
  different _ hc _ hd heq := h.different hc hd heq
  resolves _ hc hactive := h.resolves hc hactive

end PmsDb.SkuGoverned

/-! ## The theorem -/

/-- A pool of calls. -/
abbrev SkuPool (n : Nat) :=
  Pool (Stmt PmsDb (PmsRedo n) PmsErr) PmsDb (PmsLock n) (PmsRedo n) PmsErr (SkuCall n) Unit

/-- **Governance.** As long as what an update leaves unwritten is still as it
was loaded, every committed state that the calls reach has one primary code an
item, in force and equal to its SKU, no two codes alike, and finds the owner
of every active code. -/
theorem sku_governance {db : PmsDb} (hdb : db.SkuGoverned) {calls : List (SkuCall n)}
    {p : SkuPool n} (h : Pool.Reach SkuCall.prog (skuTerms n) (.fresh db calls) p) :
    p.shared.SkuSound n := by
  have hgov : Pool.Governed (skuDiscipline n) p :=
    Pool.Governed.reach (.fresh (D := skuDiscipline n) hdb calls) h
  exact PmsDb.SkuGoverned.sound hgov.inv

/-! ## Overlapping changes -/

def sampleItemPolicy : ItemPolicy where
  expiryPolicy := .none
  shelfLifeValue := none
  shelfLifeUnit := none
  lotSourcePolicy := .supplierOnly
  derivationAllowed := true
  uomGovernanceEnabled := false

/-- One item under its first code. -/
def sampleSkuDb : PmsDb where
  items := ⟨[{ id := 1, sku := "D", name := "tea", spec := none, policy := sampleItemPolicy }], by decide⟩
  skuCodes := ⟨[{ id := 1, itemId := 1, code := "D", codeType := .primary, isPrimary := true
                  isActive := true, effectiveFrom := some 0, effectiveTo := none
                  remark := none }], by decide⟩

/-- An item is created and renamed, the old code is renamed to by another
spelling of it, and an alias is switched off and on. -/
theorem sku_governance_sample :
    let p : SkuPool 1 := (Pool.fresh sampleSkuDb
      [.createItem { sku := " new ", name := "mug" } ⟨2, 2, fun _ => 1, fun _ => 1⟩ 5,
        .changePrimary 1 "c" none 3 6, .createCode 1 { code := "E" } 4, .changePrimary 1 "d" none 5 7,
        .disableCode 1 4 8, .enableCode 1 4]).run
        SkuCall.prog ([0, 1, 2, 3, 4, 5].flatMap (List.replicate 12))
    p.shared.SkuSound 1 ∧
      p.shared.items.rows.map (fun m => m.sku) = ["D", "NEW"] ∧
      p.shared.skuCodes.rows.map (fun c => (c.code, c.isPrimary, c.isActive)) =
        [("D", true, true), ("NEW", true, true), ("C", false, true), ("E", false, true)] := by
  have hdb : sampleSkuDb.SkuGoverned := by decide
  refine ⟨sku_governance (n := 1) hdb (Pool.Keeps.reach ?_), ?_, ?_⟩
  · decide +kernel
  · decide +kernel
  · decide +kernel

/-- Beside a change to another code, a change to the present one leaves the
item without a primary code if it loaded the codes before, and with one that
is not its SKU if it loaded only the item before. -/
theorem sku_governance_broken :
    (∃ p : SkuPool 1, Pool.Reach SkuCall.prog .free
        (.fresh sampleSkuDb [.changePrimary 1 "D" none 2 5, .changePrimary 1 "C" none 3 6]) p ∧
      (∀ c ∈ p.shared.skuCodes.rows, c.isPrimary = false) ∧ ¬ p.shared.SkuSound 1) ∧
    ∃ p : SkuPool 1, Pool.Reach SkuCall.prog .free
        (.fresh sampleSkuDb [.changePrimary 1 "D" none 2 5, .changePrimary 1 "C" none 3 6]) p ∧
      (∃ c ∈ p.shared.skuCodes.rows, c.isPrimary = true ∧ c.code = "D") ∧
      p.shared.items.rows.map (fun m => m.sku) = ["C"] ∧ ¬ p.shared.SkuSound 1 := by
  let calls : List (SkuCall 1) := [.changePrimary 1 "D" none 2 5, .changePrimary 1 "C" none 3 6]
  let late (k : Nat) := List.replicate k 0 ++ List.replicate 12 1 ++ List.replicate 12 0
  let p : SkuPool 1 := (Pool.fresh sampleSkuDb calls).run SkuCall.prog (late 3)
  let p' : SkuPool 1 := (Pool.fresh sampleSkuDb calls).run SkuCall.prog (late 2)
  refine ⟨⟨p, Pool.reach_run _ (late 3), ?_, fun h => ?_⟩,
    ⟨p', Pool.reach_run _ (late 2), ?_, ?_, fun h => ?_⟩⟩
  · decide +kernel
  · have hnone : ¬ ∀ m ∈ p.shared.items.rows, ∃ c ∈ p.shared.skuCodes.rows, c.itemId = m.id ∧
        c.isPrimary = true := by decide +kernel
    refine hnone fun m hm => ?_
    obtain ⟨c, hc, hitem, hprimary, -⟩ := h.primary m hm
    exact ⟨c, hc, hitem, hprimary⟩
  · decide +kernel
  · decide +kernel
  · have hother : ¬ ∀ m ∈ p'.shared.items.rows, ∃ c ∈ p'.shared.skuCodes.rows, c.itemId = m.id ∧
        c.isPrimary = true ∧ c.code = m.sku := by decide +kernel
    refine hother fun m hm => ?_
    obtain ⟨c, hc, hitem, hprimary, -, -, hsku, -⟩ := h.primary m hm
    exact ⟨c, hc, hitem, hprimary, hsku⟩

end WmsDu
