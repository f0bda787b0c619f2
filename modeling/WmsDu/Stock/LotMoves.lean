import WmsDu.Db.Guards
import WmsDu.Db.Parts

/-!
# How the lots may move

Lots are inserted and, once each, given an expiry date; nothing else ever
happens to one. `Db.LotsMove P` says so of two states and bounds what moved by
the locks in `P`: what other transactions do to the lots is a move within the
locks one does not hold, what one does itself a move within those it does.
-/

namespace WmsDu

open Txn

/-! ## One lot -/

/-- `b` is the lot `a`, its expiry date filled in if `a` had none. -/
def Lot.Becomes (a b : Lot) : Prop :=
  b = a ∨ a.expiryDate = none ∧ ∃ ed, b = { a with expiryDate := some ed }

namespace Lot

@[simp] theorem Becomes.refl (a : Lot) : a.Becomes a := Or.inl rfl

theorem Becomes.trans {a b c : Lot} (hab : a.Becomes b) (hbc : b.Becomes c) : a.Becomes c := by
  rcases hab with rfl | ⟨ha, ed, rfl⟩
  · exact hbc
  · rcases hbc with rfl | ⟨hb, _⟩
    · exact Or.inr ⟨ha, ed, rfl⟩
    · cases hb

section Becomes
variable {a b : Lot} (h : a.Becomes b)
include h

theorem Becomes.id : b.id = a.id := by rcases h with rfl | ⟨_, ed, rfl⟩ <;> rfl

theorem Becomes.indexKey : b.indexKey = a.indexKey := by
  rcases h with rfl | ⟨_, ed, rfl⟩ <;> rfl

/-- An expiry date that is there stays. -/
theorem Becomes.expiryDate {ed : Date} (ha : a.expiryDate = some ed) : b.expiryDate = some ed := by
  rcases h with rfl | ⟨hnone, _⟩
  · exact ha
  · rw [ha] at hnone
    cases hnone

end Becomes

/-- Filling the expiry date of a lot that has none, now or before. -/
theorem Becomes.fill {a b : Lot} (h : a.Becomes b) (ha : a.expiryDate = none) (ed : Date) :
    a.Becomes { b with expiryDate := some ed } := by
  rcases h with rfl | ⟨_, ed', rfl⟩
  · exact Or.inr ⟨ha, ed, rfl⟩
  · exact Or.inr ⟨ha, ed, rfl⟩

/-- The locks on a lot and its index entry are all in `P`. -/
def LockedIn (P : Lock → Prop) (lot : Lot) : Prop :=
  P (.lot lot.id) ∧ ∀ k, lot.indexKey = some k → P (.lotKey k)

theorem Becomes.lockedIn {P : Lock → Prop} {a b : Lot} (h : a.Becomes b) :
    b.LockedIn P ↔ a.LockedIn P := by
  rw [LockedIn, LockedIn, h.id, h.indexKey]

theorem lockedIn_of_guards {P : Lock → Prop} {lot : Lot}
    (h : ∀ l ∈ (Redo.lotInsert lot).guards, P l) : lot.LockedIn P := by
  refine ⟨h _ List.mem_cons_self, fun k hk => ?_⟩
  refine h _ (List.mem_cons_of_mem _ (List.mem_map.mpr ⟨k, ?_, rfl⟩))
  rw [hk]
  exact List.mem_singleton.mpr rfl

end Lot

/-- A lot as the patch of one expiry date leaves it. -/
def Lot.dated (lotId : Int) (ed : Date) (lot : Lot) : Lot :=
  if lot.id = lotId then { lot with expiryDate := some ed } else lot

theorem Lot.dated_of_ne {lotId : Int} {ed : Date} {lot : Lot} (h : lot.id ≠ lotId) :
    lot.dated lotId ed = lot := if_neg h

theorem Lot.Becomes.dated {a b : Lot} (h : a.Becomes b) {lotId : Int} (ed : Date)
    (ha : a.id = lotId → a.expiryDate = none) : a.Becomes (b.dated lotId ed) := by
  unfold Lot.dated
  split
  · rename_i hid
    exact h.fill (ha (h.id.symm.trans hid)) ed
  · exact h

theorem mem_lotSetExpiry {db : Db} {lotId : Int} {ed : Date} {lot : Lot} :
    lot ∈ ((Redo.lotSetExpiry lotId ed).apply db).lots.rows ↔
      ∃ lot₀ ∈ db.lots.rows, lot = lot₀.dated lotId ed := by
  rw [Redo.apply, Table.mem_update]
  rfl

/-! ## All lots -/

/-- From `w` to `v` lots were added and dated, under locks in `P` only. -/
structure Db.LotsMove (P : Lock → Prop) (w v : Db) : Prop where
  kept : ∀ lot ∈ w.lots.rows, ∃ lot' ∈ v.lots.rows, lot.Becomes lot' ∧
    (lot' = lot ∨ P (.lot lot.id))
  added : ∀ lot' ∈ v.lots.rows, (∃ lot ∈ w.lots.rows, lot.Becomes lot') ∨ lot'.LockedIn P

namespace Db.LotsMove
variable {P Q : Lock → Prop} {w v x : Db}

theorem of_lots_eq (h : v.lots = w.lots) : LotsMove P w v where
  kept := fun lot hlot => ⟨lot, by rw [h]; exact hlot, .refl lot, Or.inl rfl⟩
  added := fun lot hlot => Or.inl ⟨lot, by rw [← h]; exact hlot, .refl lot⟩

theorem refl (w : Db) : LotsMove P w w := of_lots_eq rfl

theorem mono (h : LotsMove P w v) (hPQ : ∀ l, P l → Q l) : LotsMove Q w v where
  kept := by
    intro lot hlot
    obtain ⟨lot', hlot', hb, heq⟩ := h.kept lot hlot
    exact ⟨lot', hlot', hb, heq.imp_right (hPQ _)⟩
  added := by
    intro lot hlot
    exact (h.added lot hlot).imp_right fun hl => ⟨hPQ _ hl.1, fun k hk => hPQ _ (hl.2 k hk)⟩

/-- The lot of an id moves into the lot of that id. -/
theorem becomes (h : LotsMove P w v) {lot lot' : Lot} (hlot : lot ∈ w.lots.rows)
    (hlot' : lot' ∈ v.lots.rows) (hid : lot'.id = lot.id) :
    lot.Becomes lot' ∧ (lot' = lot ∨ P (.lot lot.id)) := by
  obtain ⟨lot'', hlot'', hb, heq⟩ := h.kept lot hlot
  obtain rfl := v.lots.eq_of_key hlot' hlot'' (hid.trans hb.id.symm)
  exact ⟨hb, heq⟩

theorem hasKey (h : LotsMove P w v) {lotId : Int} (hk : w.lots.HasKey lotId) :
    v.lots.HasKey lotId := by
  obtain ⟨lot, hlot, rfl⟩ := hk
  obtain ⟨lot', hlot', hb, -⟩ := h.kept lot hlot
  exact ⟨lot', hlot', hb.id⟩

/-- A lot whose id is not locked in `P` was there before. -/
theorem hasKey_of_not (h : LotsMove P w v) {lotId : Int} (hP : ¬ P (.lot lotId))
    (hk : v.lots.HasKey lotId) : w.lots.HasKey lotId := by
  obtain ⟨lot', hlot', rfl⟩ := hk
  rcases h.added lot' hlot' with ⟨lot, hlot, hb⟩ | hl
  · exact ⟨lot, hlot, hb.id.symm⟩
  · exact absurd hl.1 hP

theorem trans (h : LotsMove P w v) (h' : LotsMove P v x) : LotsMove P w x where
  kept := by
    intro lot hlot
    obtain ⟨lot', hlot', hb, heq⟩ := h.kept lot hlot
    obtain ⟨lot'', hlot'', hb', heq'⟩ := h'.kept lot' hlot'
    refine ⟨lot'', hlot'', hb.trans hb', ?_⟩
    rw [hb.id] at heq'
    rcases heq' with rfl | hP
    · exact heq
    · exact Or.inr hP
  added := by
    intro lot'' hlot''
    rcases h'.added lot'' hlot'' with ⟨lot', hlot', hb'⟩ | hl
    · rcases h.added lot' hlot' with ⟨lot, hlot, hb⟩ | hl
      · exact Or.inl ⟨lot, hlot, hb.trans hb'⟩
      · exact Or.inr (hb'.lockedIn.mpr hl)
    · exact Or.inr hl

/-- A lot inserted under locks in `P`. -/
theorem insert {lot : Lot} (hl : lot.LockedIn P) :
    LotsMove P v ((Redo.lotInsert lot).apply v) where
  kept := fun lot' h => ⟨lot', Table.mem_insert_of_mem h, .refl _, Or.inl rfl⟩
  added := by
    intro lot' h
    rcases Table.mem_of_mem_insert h with h | rfl
    · exact Or.inl ⟨lot', h, .refl _⟩
    · exact Or.inr hl

/-- An expiry date set under a lock in `P`, over a base in which the lot, if it
was there, had none. -/
theorem setExpiry {lotId : Int} {ed : Date} (h : LotsMove P w v) (hP : P (.lot lotId))
    (hnone : ∀ lot ∈ w.lots.rows, lot.id = lotId → lot.expiryDate = none) :
    LotsMove P w ((Redo.lotSetExpiry lotId ed).apply v) where
  kept := by
    intro lot hlot
    obtain ⟨lot', hlot', hb, heq⟩ := h.kept lot hlot
    refine ⟨_, mem_lotSetExpiry.mpr ⟨lot', hlot', rfl⟩, hb.dated ed (hnone lot hlot), ?_⟩
    by_cases hid : lot.id = lotId
    · exact Or.inr (hid ▸ hP)
    · rwa [Lot.dated_of_ne (by rwa [hb.id])]
  added := by
    intro lot'' hlot''
    obtain ⟨lot', hlot', rfl⟩ := mem_lotSetExpiry.mp hlot''
    rcases h.added lot' hlot' with ⟨lot, hlot, hb⟩ | hl
    · exact Or.inl ⟨lot, hlot, hb.dated ed (hnone lot hlot)⟩
    · refine Or.inr ?_
      unfold Lot.dated
      split
      · exact hl
      · exact hl

/-! ### Beside the own records -/

private theorem insert_beside {lot : Lot} (h : LotsMove P w v) (hP : ¬ P (.lot lot.id)) :
    LotsMove P ((Redo.lotInsert lot).apply w) ((Redo.lotInsert lot).apply v) where
  kept := by
    intro l hl
    by_cases hk : w.lots.HasKey lot.id
    · obtain ⟨l', hl', hb, heq⟩ := h.kept l (by rwa [Redo.apply, Table.insert_old hk] at hl)
      exact ⟨l', Table.mem_insert_of_mem hl', hb, heq⟩
    · rcases Table.mem_of_mem_insert hl with hl | rfl
      · obtain ⟨l', hl', hb, heq⟩ := h.kept l hl
        exact ⟨l', Table.mem_insert_of_mem hl', hb, heq⟩
      · have hv : ¬ v.lots.HasKey l.id := fun hk' => hk (h.hasKey_of_not hP hk')
        refine ⟨l, ?_, .refl l, Or.inl rfl⟩
        rw [Redo.apply, Table.rows_insert_new hv]
        exact List.mem_append_right _ (List.mem_singleton.mpr rfl)
  added := by
    intro l' hl'
    by_cases hk : v.lots.HasKey lot.id
    · rcases h.added l' (by rwa [Redo.apply, Table.insert_old hk] at hl') with ⟨l, hl, hb⟩ | hl
      · exact Or.inl ⟨l, Table.mem_insert_of_mem hl, hb⟩
      · exact Or.inr hl
    · rcases Table.mem_of_mem_insert hl' with hl' | rfl
      · rcases h.added l' hl' with ⟨l, hl, hb⟩ | hl
        · exact Or.inl ⟨l, Table.mem_insert_of_mem hl, hb⟩
        · exact Or.inr hl
      · have hw : ¬ w.lots.HasKey l'.id := fun hk' => hk (h.hasKey hk')
        refine Or.inl ⟨l', ?_, .refl l'⟩
        rw [Redo.apply, Table.rows_insert_new hw]
        exact List.mem_append_right _ (List.mem_singleton.mpr rfl)

private theorem setExpiry_beside {lotId : Int} {ed : Date} (h : LotsMove P w v)
    (hP : ¬ P (.lot lotId)) :
    LotsMove P ((Redo.lotSetExpiry lotId ed).apply w) ((Redo.lotSetExpiry lotId ed).apply v) where
  kept := by
    intro l hl
    obtain ⟨l₀, hl₀, rfl⟩ := mem_lotSetExpiry.mp hl
    obtain ⟨l', hl', hb, heq⟩ := h.kept l₀ hl₀
    refine ⟨_, mem_lotSetExpiry.mpr ⟨l', hl', rfl⟩, ?_⟩
    by_cases hid : l₀.id = lotId
    · -- the lock keeps others off this lot
      obtain rfl : l' = l₀ := heq.resolve_right (by rwa [hid])
      exact ⟨.refl _, Or.inl rfl⟩
    · rw [Lot.dated_of_ne hid, Lot.dated_of_ne (by rwa [hb.id])]
      exact ⟨hb, heq⟩
  added := by
    intro l'' hl''
    obtain ⟨l', hl', rfl⟩ := mem_lotSetExpiry.mp hl''
    rcases h.added l' hl' with ⟨l, hl, hb⟩ | hl
    · refine Or.inl ⟨_, mem_lotSetExpiry.mpr ⟨l, hl, rfl⟩, ?_⟩
      by_cases hid : l.id = lotId
      · obtain rfl : l' = l := (h.becomes hl hl' hb.id).2.resolve_right (by rwa [hid])
        exact .refl _
      · rw [Lot.dated_of_ne hid, Lot.dated_of_ne (by rwa [hb.id])]
        exact hb
    · refine Or.inr ?_
      rw [Lot.dated_of_ne]
      · exact hl
      · rintro rfl
        exact hP hl.1

/-- **Beside rule.** What others do to the lots goes on beside a record whose
locks are not theirs. -/
theorem apply {u : Redo} (h : LotsMove P w v) (hu : u.part = .lots)
    (hP : ∀ l ∈ u.guards, ¬ P l) : LotsMove P (u.apply w) (u.apply v) := by
  cases u with
  | lotInsert lot => exact h.insert_beside (hP _ List.mem_cons_self)
  | lotSetExpiry lotId ed => exact h.setExpiry_beside (hP _ List.mem_cons_self)
  | _ => cases hu

theorem replay {log : List Redo} (h : LotsMove P w v) (hu : ∀ u ∈ log, u.part = .lots)
    (hP : ∀ u ∈ log, ∀ l ∈ u.guards, ¬ P l) :
    LotsMove P (Txn.replay Sql log w) (Txn.replay Sql log v) := by
  induction log generalizing w v with
  | nil => exact h
  | cons u log ih =>
      exact ih (h.apply (hu u List.mem_cons_self) (hP u List.mem_cons_self))
        (fun u' hu' => hu u' (List.mem_cons_of_mem _ hu'))
        (fun u' hu' => hP u' (List.mem_cons_of_mem _ hu'))

end Db.LotsMove

/-! ## Lot records -/

/-- Every expiry date of the log is that of a lot which, if `w` has it, has
none there. -/
def Dates (log : List Redo) (w : Db) : Prop :=
  ∀ lotId ed, Redo.lotSetExpiry lotId ed ∈ log →
    ∀ lot ∈ w.lots.rows, lot.id = lotId → lot.expiryDate = none

/-- A log of lot records moves the lots within the locks that guard it. -/
theorem Db.LotsMove.of_log {P : Lock → Prop} {w : Db} {log : List Redo}
    (hu : ∀ u ∈ log, u.part = .lots) (hP : ∀ u ∈ log, ∀ l ∈ u.guards, P l) (hd : Dates log w) :
    LotsMove P w (Txn.replay Sql log w) := by
  suffices h : ∀ v, LotsMove P w v → LotsMove P w (Txn.replay Sql log v) from h w (.refl w)
  induction log with
  | nil => intro v hv; exact hv
  | cons u log ih =>
      intro v hv
      refine ih (fun u' hu' => hu u' (List.mem_cons_of_mem _ hu'))
        (fun u' hu' => hP u' (List.mem_cons_of_mem _ hu'))
        (fun lotId ed he => hd lotId ed (List.mem_cons_of_mem _ he)) _ ?_
      have hPu := hP u List.mem_cons_self
      have hpart := hu u List.mem_cons_self
      cases u with
      | lotInsert lot => exact hv.trans (.insert (Lot.lockedIn_of_guards hPu))
      | lotSetExpiry lotId ed =>
          exact hv.setExpiry (hPu _ List.mem_cons_self) (hd lotId ed List.mem_cons_self)
      | _ => cases hpart

/-- What a statement on the lots writes, if anything: a lot that passes its
checks and clashes with none, or the expiry date of a lot that has none. -/
theorem Sql.exec_lots {db : Db} {β : Type} {s : Sql β} {b : β} {us : List Redo}
    (hpart : ∀ p, s.part = some p → p = .lots) (h : s.exec db = .ok (b, us)) :
    us = [] ∨
      (∃ lot, us = [.lotInsert lot] ∧ lot.check = none ∧ ¬ ∃ l ∈ db.lots.rows, l.clashes lot) ∨
      ∃ lot ed, us = [.lotSetExpiry lot.id ed] ∧ lot ∈ db.lots.rows ∧ lot.expiryDate = none := by
  cases s with
  | select q => cases h; exact Or.inl rfl
  | selectForUpdate rows q => cases h; exact Or.inl rfl
  | insertLot lotId w i source code pd ed rid rln =>
      simp only [Sql.exec, violated] at h
      split at h
      · cases h; exact Or.inl rfl
      · split at h
        · cases h
        · rename_i hc
          split at h
          · cases h; exact Or.inl rfl
          · rename_i hclash
            (repeat' split at h) <;> cases h
            exact Or.inr (Or.inl ⟨_, rfl, hc, hclash⟩)
  | patchLotExpiry lotId ed =>
      simp only [Sql.exec, violated] at h
      split at h
      · cases h; exact Or.inl rfl
      · rename_i lot hl
        obtain ⟨hlot, rfl⟩ := Table.lookup_eq_some.mp hl
        split at h
        · cases h; exact Or.inl rfl
        · rename_i hnone
          split at h <;> cases h
          exact Or.inr (Or.inr ⟨lot, ed, rfl, hlot, not_not.mp hnone⟩)
  | _ => cases hpart _ rfl

/-! ## One lot an index entry -/

/-- What the checks and the unique indexes of `lots` say of the whole table: an
index entry has one lot, and every dated and every internal lot has its entry. -/
structure Db.LotsKept (db : Db) : Prop where
  unique : ∀ a ∈ db.lots.rows, ∀ b ∈ db.lots.rows, ∀ k, a.indexKey = some k →
    b.indexKey = some k → a = b
  keyed : ∀ lot ∈ db.lots.rows, lot.productionDate ≠ none ∨ lot.lotCodeSource = .internal →
    lot.indexKey = some ⟨lot.warehouseId, lot.itemId, lot.productionDate⟩

/-- What the checks say of the dates and the code of a lot. -/
theorem Lot.check_eq_none {lot : Lot} (h : lot.check = none) :
    (lot.itemPolicySnapshot.expiryPolicy = .required ↔ lot.productionDate ≠ none) ∧
      (lot.itemPolicySnapshot.expiryPolicy = .required → lot.lotCodeSource = .supplier) ∧
      (lot.lotCodeSource = .supplier ↔ lot.lotCode ≠ none) := by
  unfold Lot.check at h
  dsimp only at h
  split at h
  · cases h
  split at h
  · cases h
  split at h
  · cases h
  rename_i hdate
  split at h
  · cases h
  split at h
  · cases h
  split at h
  · cases h
  rename_i hsource
  split at h
  · cases h
  rename_i hcode
  refine ⟨(not_not.mp hdate).to_iff, fun hreq => ?_, (not_not.mp hcode).to_iff⟩
  by_contra hne
  exact hsource ⟨hreq, hne⟩

theorem Lot.indexKey_of_check {lot : Lot} (h : lot.check = none)
    (hk : lot.productionDate ≠ none ∨ lot.lotCodeSource = .internal) :
    lot.indexKey = some ⟨lot.warehouseId, lot.itemId, lot.productionDate⟩ := by
  obtain ⟨hdate, hsource, hcode⟩ := check_eq_none h
  unfold indexKey
  cases hs : lot.lotCodeSource with
  | supplier =>
      have hpd : lot.productionDate ≠ none := hk.resolve_right (by rw [hs]; decide)
      rw [hdate.mpr hpd]
      cases hpd' : lot.productionDate with
      | none => exact absurd hpd' hpd
      | some pd => rfl
  | internal =>
      have hnreq : lot.itemPolicySnapshot.expiryPolicy ≠ .required := by
        intro hreq
        have hsup := hsource hreq
        rw [hs] at hsup
        cases hsup
      have hnone : lot.productionDate = none := by
        by_contra hpd
        exact hnreq (hdate.mpr hpd)
      have hcode' : lot.lotCode = none := by
        by_contra hc
        have hsup := hcode.mpr hc
        rw [hs] at hsup
        cases hsup
      rw [hnone, hcode']

/-- The source and the production date an entry stands for. -/
theorem Lot.indexKey_eq_some {lot : Lot} {k : LotKey} (h : lot.indexKey = some k) :
    k.warehouseId = lot.warehouseId ∧ k.itemId = lot.itemId ∧
      ((lot.lotCodeSource = .supplier ∧ lot.itemPolicySnapshot.expiryPolicy = .required ∧
          k.productionDate ≠ none ∧ lot.productionDate = k.productionDate) ∨
        (lot.lotCodeSource = .internal ∧ lot.lotCode = none ∧ k.productionDate = none)) := by
  unfold indexKey at h
  split at h
  · rename_i hs hp hd
    cases h
    exact ⟨rfl, rfl, Or.inl ⟨hs, hp, by simp, hd⟩⟩
  · rename_i hs hc
    cases h
    exact ⟨rfl, rfl, Or.inr ⟨hs, hc, rfl⟩⟩
  · cases h

/-- Two lots of one entry are what the unique indexes keep apart. -/
theorem Lot.clashes_of_indexKey {a b : Lot} {k : LotKey} (ha : a.indexKey = some k)
    (hb : b.indexKey = some k) : a.clashes b := by
  obtain ⟨haw, hai, ha⟩ := indexKey_eq_some ha
  obtain ⟨hbw, hbi, hb⟩ := indexKey_eq_some hb
  refine ⟨haw.symm.trans hbw, hai.symm.trans hbi, ?_⟩
  rcases ha with ⟨has, hap, hk, had⟩ | ⟨has, hac, hk⟩
  · rcases hb with ⟨hbs, hbp, _, hbd⟩ | ⟨_, _, hk'⟩
    · exact Or.inl ⟨has, hbs, hap, hbp, had ▸ hk, had.trans hbd.symm⟩
    · exact absurd hk' hk
  · rcases hb with ⟨_, _, hk', _⟩ | ⟨hbs, hbc, _⟩
    · exact absurd hk hk'
    · exact Or.inr ⟨has, hbs, hac, hbc⟩

namespace Db.LotsKept
variable {db w w' : Db}

/-- A table whose lots pass their checks and do not clash. -/
theorem of_checks (hcheck : ∀ lot ∈ db.lots.rows, lot.check = none)
    (hclash : ∀ a ∈ db.lots.rows, ∀ b ∈ db.lots.rows, a.clashes b → a = b) : db.LotsKept where
  unique := fun a ha b hb _ hka hkb => hclash a ha b hb (Lot.clashes_of_indexKey hka hkb)
  keyed := fun lot hlot hk => Lot.indexKey_of_check (hcheck lot hlot) hk

theorem of_lots_eq (h : w.LotsKept) (heq : w'.lots = w.lots) : w'.LotsKept where
  unique := by rw [heq]; exact h.unique
  keyed := by rw [heq]; exact h.keyed

theorem insert (h : db.LotsKept) {lot : Lot} (hcheck : lot.check = none)
    (hclash : ¬ ∃ l ∈ db.lots.rows, l.clashes lot) : ((Redo.lotInsert lot).apply db).LotsKept where
  unique := by
    intro a ha b hb k hka hkb
    rcases Table.mem_of_mem_insert ha with ha' | rfl
    · rcases Table.mem_of_mem_insert hb with hb' | rfl
      · exact h.unique a ha' b hb' k hka hkb
      · exact absurd ⟨a, ha', Lot.clashes_of_indexKey hka hkb⟩ hclash
    · rcases Table.mem_of_mem_insert hb with hb' | rfl
      · exact absurd ⟨b, hb', Lot.clashes_of_indexKey hkb hka⟩ hclash
      · rfl
  keyed := by
    intro l hl hk
    rcases Table.mem_of_mem_insert hl with hl | rfl
    · exact h.keyed l hl hk
    · exact Lot.indexKey_of_check hcheck hk

private theorem dated_keyed (lot : Lot) (lotId : Int) (ed : Date) :
    (lot.dated lotId ed).indexKey = lot.indexKey ∧
      (lot.dated lotId ed).productionDate = lot.productionDate ∧
      (lot.dated lotId ed).lotCodeSource = lot.lotCodeSource ∧
      (lot.dated lotId ed).warehouseId = lot.warehouseId ∧
      (lot.dated lotId ed).itemId = lot.itemId := by
  unfold Lot.dated
  split
  · exact ⟨rfl, rfl, rfl, rfl, rfl⟩
  · exact ⟨rfl, rfl, rfl, rfl, rfl⟩

theorem setExpiry (h : db.LotsKept) (lotId : Int) (ed : Date) :
    ((Redo.lotSetExpiry lotId ed).apply db).LotsKept where
  unique := by
    intro a ha b hb k hka hkb
    obtain ⟨a₀, ha₀, rfl⟩ := mem_lotSetExpiry.mp ha
    obtain ⟨b₀, hb₀, rfl⟩ := mem_lotSetExpiry.mp hb
    rw [(dated_keyed _ lotId ed).1] at hka hkb
    rw [h.unique a₀ ha₀ b₀ hb₀ k hka hkb]
  keyed := by
    intro l hl hk
    obtain ⟨l₀, hl₀, rfl⟩ := mem_lotSetExpiry.mp hl
    obtain ⟨hkey, hpd, hsource, hw, hi⟩ := dated_keyed l₀ lotId ed
    rw [hpd, hsource] at hk
    rw [hkey, hpd, hw, hi]
    exact h.keyed l₀ hl₀ hk

/-- **Interference rule.** A view over one's own log keeps the table's
constraints while others commit what the locks let them. -/
theorem moved {log : List Redo} {held : List Lock} (hv : (Txn.replay Sql log w).LotsKept)
    (hw' : w'.LotsKept) (hmove : LotsMove (· ∉ held) w w') (hlots : ∀ u ∈ log, u.part = .lots)
    (hguard : ∀ u ∈ log, ∀ l ∈ u.guards, l ∈ held) (hd : Dates log w') :
    (Txn.replay Sql log w').LotsKept := by
  have hview : LotsMove (· ∉ held) (Txn.replay Sql log w) (Txn.replay Sql log w') :=
    hmove.replay hlots fun u hu l hl hn => hn (hguard u hu l hl)
  have hown : LotsMove (· ∈ held) w' (Txn.replay Sql log w') := .of_log hlots hguard hd
  -- a lot of the new view is committed, or one's own and was in the old view
  have hfrom : ∀ x ∈ (Txn.replay Sql log w').lots.rows, (∃ x₀ ∈ w'.lots.rows, x₀.Becomes x) ∨
      ((∃ x₀ ∈ (Txn.replay Sql log w).lots.rows, x₀.Becomes x) ∧ x.LockedIn (· ∈ held)) := by
    intro x hx
    rcases hown.added x hx with h | hmine
    · exact Or.inl h
    · refine Or.inr ⟨(hview.added x hx).resolve_right ?_, hmine⟩
      exact fun htheirs => htheirs.1 hmine.1
  have hmixed : ∀ a ∈ (Txn.replay Sql log w').lots.rows,
      ∀ b ∈ (Txn.replay Sql log w').lots.rows, ∀ k, a.indexKey = some k → b.indexKey = some k →
      (∃ b₀ ∈ (Txn.replay Sql log w).lots.rows, b₀.Becomes b) → b.LockedIn (· ∈ held) → a = b := by
    intro a ha b hb k hka hkb ⟨b₀, hb₀, hbb⟩ hmine
    have hka' : ¬ a.LockedIn (· ∉ held) := fun htheirs => htheirs.2 k hka (hmine.2 k hkb)
    obtain ⟨a₀, ha₀, haa⟩ := (hview.added a ha).resolve_right hka'
    have heq := hv.unique a₀ ha₀ b₀ hb₀ k (haa.indexKey ▸ hka) (hbb.indexKey ▸ hkb)
    exact Table.eq_of_key _ ha hb (haa.id.trans ((congrArg Lot.id heq).trans hbb.id.symm))
  refine ⟨?_, ?_⟩
  · intro a ha b hb k hka hkb
    rcases hfrom b hb with ⟨b₀, hb₀, hbb⟩ | ⟨hbv, hmine⟩
    · rcases hfrom a ha with ⟨a₀, ha₀, haa⟩ | ⟨hav, hmine⟩
      · have heq := hw'.unique a₀ ha₀ b₀ hb₀ k (haa.indexKey ▸ hka) (hbb.indexKey ▸ hkb)
        exact Table.eq_of_key _ ha hb (haa.id.trans ((congrArg Lot.id heq).trans hbb.id.symm))
      · exact (hmixed b hb a ha k hkb hka hav hmine).symm
    · exact hmixed a ha b hb k hka hkb hbv hmine
  · intro x hx hk
    have hkeyed : ∀ {db : Db}, db.LotsKept → (∃ x₀ ∈ db.lots.rows, x₀.Becomes x) →
        x.indexKey = some ⟨x.warehouseId, x.itemId, x.productionDate⟩ := by
      rintro db hdb ⟨x₀, hx₀, rfl | ⟨_, ed, rfl⟩⟩
      · exact hdb.keyed x hx₀ hk
      · exact hdb.keyed x₀ hx₀ hk
    rcases hfrom x hx with h | ⟨h, -⟩
    · exact hkeyed hw' h
    · exact hkeyed hv h

end Db.LotsKept

end WmsDu
