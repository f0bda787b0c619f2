import WmsDu.Pms.Writes

/-!
# The governance of SKU codes under interference

A session writes the columns that differ from its copies. What keeps every
item under one primary code is that a copy a promotion leaves unwritten still
agrees with its row; row locks, unique indexes and checks do the rest.
-/

namespace WmsDu

open Txn

variable {n : Nat}

/-! ## Governance -/

/-- Codes are normal and pairwise different, and each item has one primary
code, in force and equal to its SKU. -/
structure PmsDb.SkuGoverned (db : PmsDb) : Prop where
  owned : ∀ c ∈ db.skuCodes.rows, db.items.HasKey c.itemId
  normal : ∀ c ∈ db.skuCodes.rows, skuPattern c.code = true
  unique : db.skuCodes.Unique SkuCodeRow.code
  primary : ∀ m ∈ db.items.rows, ∃ c ∈ db.skuCodes.rows, c.itemId = m.id ∧ c.isPrimary = true ∧
    c.isActive = true ∧ c.effectiveTo = none ∧ c.code = m.sku
  one : ∀ c ∈ db.skuCodes.rows, ∀ d ∈ db.skuCodes.rows, c.itemId = d.itemId →
    c.isPrimary = true → d.isPrimary = true → c = d

instance PmsDb.decidableSkuGoverned (db : PmsDb) : Decidable db.SkuGoverned :=
  decidable_of_iff
    ((∀ c ∈ db.skuCodes.rows, db.items.HasKey c.itemId) ∧
      (∀ c ∈ db.skuCodes.rows, skuPattern c.code = true) ∧
      db.skuCodes.Unique SkuCodeRow.code ∧
      (∀ m ∈ db.items.rows, ∃ c ∈ db.skuCodes.rows, c.itemId = m.id ∧ c.isPrimary = true ∧
        c.isActive = true ∧ c.effectiveTo = none ∧ c.code = m.sku) ∧
      ∀ c ∈ db.skuCodes.rows, ∀ d ∈ db.skuCodes.rows, c.itemId = d.itemId →
        c.isPrimary = true → d.isPrimary = true → c = d)
    ⟨fun h => ⟨h.1, h.2.1, h.2.2.1, h.2.2.2.1, h.2.2.2.2⟩,
      fun h => ⟨h.owned, h.normal, h.unique, h.primary, h.one⟩⟩

theorem mem_codes {db : PmsDb} {c : SkuCodeRow} :
    c ∈ db.skuCodes.rows ↔ db.skuCodes.lookup c.id = some c :=
  ⟨fun h => Table.lookup_eq_some.mpr ⟨h, rfl⟩, fun h => (Table.lookup_eq_some.mp h).1⟩

theorem mem_codes_of_lookup {db : PmsDb} {x : Int} {c : SkuCodeRow}
    (h : db.skuCodes.lookup x = some c) : c ∈ db.skuCodes.rows ∧ c.id = x :=
  Table.lookup_eq_some.mp h

/-! ## The calls side by side -/

inductive SkuCall (n : Nat)
  | createItem (input : ItemInput) (draws : ItemDraws) (now : Timestamp)
  | createAggregate (conn : Fin n) (payload : ItemAggregatePayload) (draws : ItemDraws)
      (now : Timestamp)
  | createCode (itemId : Int) (body : ItemSkuCodeCreate) (newId : Int)
  | disableCode (itemId codeId : Int) (now : Timestamp)
  | enableCode (itemId codeId : Int)
  | changePrimary (itemId : Int) (code : String) (remark : Option String) (newId : Int)
      (now : Timestamp)

def SkuCall.prog : SkuCall n → PmsTx n Unit
  | .createItem input draws now => WmsDu.createItem input draws now
  | .createAggregate conn payload draws now => WmsDu.createAggregate conn payload draws now
  | .createCode itemId body newId => WmsDu.createCode itemId body newId
  | .disableCode itemId codeId now => WmsDu.disableCode itemId codeId now
  | .enableCode itemId codeId => WmsDu.enableCode itemId codeId
  | .changePrimary itemId code remark newId now =>
      WmsDu.changePrimary itemId code remark newId now

/-- What an update leaves unwritten is still as it was loaded: the SKU of an
item, and that a code which is promoted is the primary one. -/
def PmsRedo.Timely (db : PmsDb) : PmsRedo n → Prop
  | .itemUpdate old new => new.sku = old.sku → ∀ m ∈ db.items.rows, m.id = old.id → m.sku = old.sku
  | .codeUpdate old new => new.isPrimary = true → old.isPrimary = true →
      ∀ c ∈ db.skuCodes.rows, c.id = old.id → c.isPrimary = true
  | _ => True

instance PmsRedo.decidableTimely (db : PmsDb) : (u : PmsRedo n) → Decidable (u.Timely db)
  | .itemUpdate _ _ => inferInstanceAs (Decidable (_ → _))
  | .codeUpdate _ _ => inferInstanceAs (Decidable (_ → _))
  | .itemInsert _ | .uomInsert _ | .uomUpdate _ _ | .uomDelete _ | .codeInsert _
  | .barcodeInsert _ _ | .barcodeUpdate _ _ _ | .barcodeDelete _ | .primaryClear _ => isTrue trivial

/-- The updates of the session are timely. -/
def skuTerms (n : Nat) : Terms (SkuCall n) (Stmt PmsDb (PmsRedo n) PmsErr) PmsDb :=
  .fitting PmsRedo.Timely (fun _ _ => True) fun _ _ h => h

instance skuTerms.decidableTogether (a b : SkuCall n) : Decidable ((skuTerms n).together a b) :=
  isTrue trivial

instance skuTerms.decidableIssue {β : Type} (s : Stmt PmsDb (PmsRedo n) PmsErr β) (db : PmsDb) :
    Decidable ((skuTerms n).issue s db) :=
  inferInstanceAs (Decidable (∀ u ∈ s.writes db, u.Timely db))

/-- The code is there, of the item and with the text of the copy. -/
def PmsDb.HasCode (db : PmsDb) (c : SkuCodeRow) : Prop :=
  ∃ r, db.skuCodes.lookup c.id = some r ∧ r.itemId = c.itemId ∧ r.code = c.code

/-- What the commits of others do while a call holds some locks. -/
structure SkuRely (held : List (PmsLock n)) (db db' : PmsDb) : Prop where
  governed : db'.SkuGoverned
  items : (itemRows n).Keeps held db db'
  codes : (codeRows n).Keeps held db db'
  itemStays : ∀ k, db.items.HasKey k → db'.items.HasKey k
  codeStays : ∀ c, db.HasCode c → db'.HasCode c
  text : ∀ t, PmsLock.codeText t ∈ held → ∀ k r, db'.skuCodes.lookup k = some r → r.code = t →
    ∃ r₀, db.skuCodes.lookup k = some r₀ ∧ r₀.code = t
  flag : ∀ i, PmsLock.primaryCode i ∈ held → ∀ k r, db'.skuCodes.lookup k = some r →
    r.itemId = i ∧ r.isPrimary = true →
    ∃ r₀, db.skuCodes.lookup k = some r₀ ∧ r₀.itemId = i ∧ r₀.isPrimary = true

abbrev skuSetting (n : Nat) : Setting (Stmt PmsDb (PmsRedo n) PmsErr) PmsDb (PmsLock n) :=
  .fitting PmsRedo.Timely SkuRely

/-! ## Logs -/

section Logs
variable {db : PmsDb} {log : List (PmsRedo n)} {k : Int}

/-- Items are never deleted. -/
theorem hasKey_items_redo (h : db.items.HasKey k) : (redo log db).items.HasKey k := by
  refine redo_preserves (I := fun w : PmsDb => w.items.HasKey k) (fun u _ w hw => ?_) h
  cases u with
  | itemInsert m => exact Table.hasKey_insert.mpr (.inl hw)
  | itemUpdate old new =>
      show (w.items.update (fun m => m.id = old.id) (old.write new) fun _ => rfl).HasKey k
      exact (Table.hasKey_update _).mpr hw
  | _ => exact hw

/-- Codes are never deleted and keep their item and text. -/
theorem hasCode_redo (log : List (PmsRedo n)) {c : SkuCodeRow} (h : db.HasCode c) : (redo log db).HasCode c := by
  refine redo_preserves (I := fun w : PmsDb => w.HasCode c) (fun u _ w hw => ?_) h
  obtain ⟨r, hr, hitem, hcode⟩ := hw
  have hrow : (u.apply w).skuCodes.lookup c.id = u.actCode c.id (some r) :=
    (u.lookup_codes w c.id).trans (by rw [hr])
  cases u with
  | codeInsert d => exact ⟨r, hrow, hitem, hcode⟩
  | codeUpdate old new =>
      by_cases hid : c.id = old.id
      · exact ⟨old.write new r, hrow.trans (if_pos hid), hitem, hcode⟩
      · exact ⟨r, hrow.trans (if_neg hid), hitem, hcode⟩
  | _ => exact ⟨r, hr, hitem, hcode⟩

/-- A text whose lock a log does not take is not added by it. -/
theorem text_redo {t : String} (h : PmsLock.codeText t ∉ guardsOf log) {r : SkuCodeRow}
    (hr : (redo log db).skuCodes.lookup k = some r) (ht : r.code = t) :
    ∃ r₀, db.skuCodes.lookup k = some r₀ ∧ r₀.code = t := by
  refine (codeRows n).row_back (P := fun r : SkuCodeRow => r.code = t) (fun u hu o r hact hP => ?_)
    hr ht
  have hnot : PmsLock.codeText t ∉ u.guards := fun hl => h (mem_guardsOf.mpr ⟨u, hu, hl⟩)
  change u.actCode _ o = some r at hact
  cases u with
  | codeInsert c =>
      cases o with
      | some r₀ =>
          cases hact
          exact ⟨_, rfl, hP⟩
      | none =>
          simp only [PmsRedo.actCode, Option.none_or] at hact
          split at hact
          · cases hact
            exact absurd (by simp [PmsRedo.guards, hP]) hnot
          · cases hact
  | codeUpdate old new =>
      simp only [PmsRedo.actCode] at hact
      split at hact
      · obtain ⟨r₀, rfl, rfl⟩ := Option.map_eq_some_iff.mp hact
        exact ⟨r₀, rfl, hP⟩
      · exact ⟨r, hact, hP⟩
  | _ => exact ⟨r, hact, hP⟩

/-- The updates of a log carry copies of rows. -/
def CodeCopies (db : PmsDb) (log : List (PmsRedo n)) : Prop :=
  ∀ old new, PmsRedo.codeUpdate old new ∈ log → db.HasCode old

/-- A log that does not lock the primary code of an item gives it none. -/
theorem flag_redo {i : Int} (h : PmsLock.primaryCode i ∉ guardsOf log) (hcopies : CodeCopies db log)
    {r : SkuCodeRow} (hr : (redo log db).skuCodes.lookup k = some r)
    (hP : r.itemId = i ∧ r.isPrimary = true) :
    ∃ r₀, db.skuCodes.lookup k = some r₀ ∧ r₀.itemId = i ∧ r₀.isPrimary = true := by
  induction log generalizing db with
  | nil => exact ⟨r, hr, hP⟩
  | cons u log ih =>
      have hnot : PmsLock.primaryCode i ∉ u.guards := fun hl =>
        h (mem_guardsOf.mpr ⟨u, List.mem_cons_self, hl⟩)
      have hrest : (redo log (u.apply db)).skuCodes.lookup k = some r := hr
      obtain ⟨r₁, hr₁, hP₁⟩ : ∃ r₁, (u.apply db).skuCodes.lookup k = some r₁ ∧ r₁.itemId = i ∧
          r₁.isPrimary = true := by
        refine ih (fun hl => h ?_) (fun old new hmem => ?_) hrest
        · obtain ⟨v, hv, hl⟩ := mem_guardsOf.mp hl
          exact mem_guardsOf.mpr ⟨v, List.mem_cons_of_mem _ hv, hl⟩
        · exact hasCode_redo [u] (hcopies old new (List.mem_cons_of_mem _ hmem))
      rw [u.lookup_codes] at hr₁
      cases u with
      | codeInsert c =>
          cases hk : db.skuCodes.lookup k with
          | some r₀ =>
              rw [hk] at hr₁
              cases hr₁
              exact ⟨_, rfl, hP₁⟩
          | none =>
              rw [hk] at hr₁
              simp only [PmsRedo.actCode, Option.none_or] at hr₁
              split at hr₁
              · cases hr₁
                exact absurd (by simp [PmsRedo.guards, hP₁.1, hP₁.2]) hnot
              · cases hr₁
      | codeUpdate old new =>
          simp only [PmsRedo.actCode] at hr₁
          split at hr₁
          · rename_i hid
            obtain ⟨r₀, hr₀, rfl⟩ := Option.map_eq_some_iff.mp hr₁
            refine ⟨r₀, hr₀, hP₁.1, ?_⟩
            -- the flag was set already, or the record sets it and takes the lock
            have hset : column old.isPrimary new.isPrimary r₀.isPrimary = true := hP₁.2
            by_cases hne : new.isPrimary = old.isPrimary
            · rw [hne, column_same] at hset
              exact hset
            · rw [column_ne hne] at hset
              obtain ⟨r', hr', hitem, -⟩ := hcopies old new List.mem_cons_self
              rw [← hid, hr₀] at hr'
              cases hr'
              have hold : old.isPrimary = false := by
                rw [hset] at hne
                simpa using Ne.symm hne
              exact absurd (by simp [PmsRedo.guards, hset, hold, hitem ▸ hP₁.1]) hnot
          · exact ⟨r₁, hr₁, hP₁⟩
      | _ => exact ⟨r₁, hr₁, hP₁⟩

/-- **Guarantee.** What a log that leaves the codes governed gives the others. -/
theorem skuRely_redo {held : List (PmsLock n)} (hapart : ∀ l ∈ guardsOf log, l ∉ held)
    (hcopies : CodeCopies db log) (hgov : (redo log db).SkuGoverned) :
    SkuRely held db (redo log db) where
  governed := hgov
  items := Rowwise.keeps_redo hapart
  codes := Rowwise.keeps_redo hapart
  itemStays _ h := hasKey_items_redo h
  codeStays _ h := hasCode_redo _ h
  text _ ht _ _ hr heq := text_redo (fun hl => hapart _ hl ht) hr heq
  flag _ hi _ _ hr hP := flag_redo (fun hl => hapart _ hl hi) hcopies hr hP

end Logs

/-! ## One promotion -/

/-- The call has made the code of row `k` the primary one of an item. -/
structure Promoted (itemId k : Int) (code : String) (db : PmsDb) (log : List (PmsRedo n)) :
    Prop where
  copies : CodeCopies db log
  locks : ∀ x, PmsLock.item x ∈ guardsOf log → x = itemId
  itemLock : PmsLock.item itemId ∈ guardsOf log
  projected : ∃ m, (redo log db).items.lookup itemId = some m ∧ m.sku = code
  codeLock : PmsLock.code k ∈ guardsOf log
  inForce : ∃ c, (redo log db).skuCodes.lookup k = some c ∧ c.itemId = itemId ∧ c.isPrimary = true ∧
    c.isActive = true ∧ c.effectiveTo = none ∧ c.code = code
  pattern : skuPattern code = true
  others : ∀ x, x ≠ k → ∀ d, (redo log db).skuCodes.lookup x = some d →
    ∃ r, db.skuCodes.lookup x = some r ∧ r.itemId = d.itemId ∧ r.code = d.code ∧
      (d.itemId ≠ itemId → d = r) ∧ (d.itemId = itemId → d.isPrimary = false)
  flag : PmsLock.primaryCode itemId ∈ guardsOf log ∨
    ∃ r, db.skuCodes.lookup k = some r ∧ r.itemId = itemId ∧ r.isPrimary = true
  text : ∀ x r, db.skuCodes.lookup x = some r → r.code = code → x = k
  textLock : PmsLock.codeText code ∈ guardsOf log ∨
    ∃ r, db.skuCodes.lookup k = some r ∧ r.code = code

section Promotion
variable {itemId k : Int} {code : String} {db db' : PmsDb} {log : List (PmsRedo n)}

/-- The commits of others leave a promotion what it is. -/
theorem Promoted.steady (h : Promoted itemId k code db log) (hrely : SkuRely (guardsOf log) db db') :
    Promoted itemId k code db' log where
  copies old new hmem := hrely.codeStays _ (h.copies old new hmem)
  locks := h.locks
  itemLock := h.itemLock
  projected := by
    obtain ⟨m, hm, hsku⟩ := h.projected
    exact ⟨m, (hrely.items.row_locked h.itemLock).trans hm, hsku⟩
  codeLock := h.codeLock
  inForce := by
    obtain ⟨c, hc, hrest⟩ := h.inForce
    exact ⟨c, (hrely.codes.row_locked h.codeLock).trans hc, hrest⟩
  pattern := h.pattern
  others := by
    intro x hx d hd
    rcases hrely.codes.row_cases (k := x) hd with ⟨hlock, hd⟩ | ⟨hfree, hd⟩
    · obtain ⟨r, hr, hrest⟩ := h.others x hx d hd
      exact ⟨r, (hrely.codes x hlock).trans hr, hrest⟩
    · refine ⟨d, hd, rfl, rfl, fun _ => rfl, fun hitem => ?_⟩
      by_contra hflag
      have hflag : d.isPrimary = true := by simpa using hflag
      rcases h.flag with hlock | ⟨r, hr, hritem, hrflag⟩
      · -- with the lock no primary code is added beside the own one
        obtain ⟨r₀, hr₀, hitem₀, hflag₀⟩ := hrely.flag _ hlock x d hd ⟨hitem, hflag⟩
        have hview : (redo log db).skuCodes.lookup x = some r₀ :=
          ((codeRows n).row_redo_of_unlocked (k := x) hfree).trans hr₀
        obtain ⟨_, _, _, _, _, hnot⟩ := h.others x hx r₀ hview
        rw [hnot hitem₀] at hflag₀
        cases hflag₀
      · -- the own code was the primary one before
        have hr' : db'.skuCodes.lookup k = some r := (hrely.codes k h.codeLock).trans hr
        have hsame := hrely.governed.one d (mem_codes_of_lookup hd).1 r (mem_codes_of_lookup hr').1
          (hitem.trans hritem.symm) hflag hrflag
        refine hx ?_
        rw [← (mem_codes_of_lookup hd).2, hsame, (mem_codes_of_lookup hr').2]
  flag := by
    refine h.flag.imp_right ?_
    rintro ⟨r, hr, hrest⟩
    exact ⟨r, (hrely.codes k h.codeLock).trans hr, hrest⟩
  text := by
    intro x r hr hcode
    rcases h.textLock with hlock | ⟨r₀, hr₀, hcode₀⟩
    · obtain ⟨r₁, hr₁, hcode₁⟩ := hrely.text _ hlock x r hr hcode
      exact h.text x r₁ hr₁ hcode₁
    · have hr₀' : db'.skuCodes.lookup k = some r₀ := (hrely.codes k h.codeLock).trans hr₀
      have hsame := hrely.governed.unique r (mem_codes_of_lookup hr).1 r₀
        (mem_codes_of_lookup hr₀').1 (hcode.trans hcode₀.symm)
      rw [← (mem_codes_of_lookup hr).2, hsame, (mem_codes_of_lookup hr₀').2]
  textLock := by
    refine h.textLock.imp_right ?_
    rintro ⟨r, hr, hrest⟩
    exact ⟨r, (hrely.codes k h.codeLock).trans hr, hrest⟩

/-- **Commit.** A promotion leaves the codes governed. -/
theorem Promoted.governed (h : Promoted itemId k code db log) (hdb : db.SkuGoverned) :
    (redo log db).SkuGoverned := by
  obtain ⟨m₀, hm₀, hsku₀⟩ := h.projected
  obtain ⟨c₀, hc₀, hitem₀, hflag₀, hactive₀, heff₀, hcode₀⟩ := h.inForce
  have hmem₀ := mem_codes_of_lookup hc₀
  -- a row of the view is the promoted one, or it comes from a row of the state
  have hcases : ∀ d ∈ (redo log db).skuCodes.rows, d = c₀ ∨ d.id ≠ k ∧
      ∃ r, db.skuCodes.lookup d.id = some r ∧ r.itemId = d.itemId ∧ r.code = d.code ∧
        (d.itemId ≠ itemId → d = r) ∧ (d.itemId = itemId → d.isPrimary = false) := by
    intro d hd
    by_cases hid : d.id = k
    · exact .inl ((redo log db).skuCodes.eq_of_key hd hmem₀.1 (hid.trans hmem₀.2.symm))
    · exact .inr ⟨hid, h.others d.id hid d (mem_codes.mp hd)⟩
  have hitems : ∀ x, x ≠ itemId → (redo log db).items.lookup x = db.items.lookup x := fun x hx =>
    (itemRows n).row_redo_of_unlocked (k := x) fun hl => hx (h.locks x hl)
  refine ⟨?_, ?_, ?_, ?_, ?_⟩
  · intro d hd
    rcases hcases d hd with rfl | ⟨-, r, hr, hritem, -⟩
    · rw [hitem₀]
      exact Table.hasKey_iff_isSome.mpr (by rw [hm₀]; rfl)
    · rw [← hritem]
      exact hasKey_items_redo (hdb.owned r (mem_codes_of_lookup hr).1)
  · intro d hd
    rcases hcases d hd with rfl | ⟨-, r, hr, -, hrcode, -⟩
    · rw [hcode₀]
      exact h.pattern
    · rw [← hrcode]
      exact hdb.normal r (mem_codes_of_lookup hr).1
  · intro d hd e he heq
    rcases hcases d hd with rfl | ⟨hdk, r, hr, -, hrcode, -⟩
    · rcases hcases e he with rfl | ⟨hek, s, hs, -, hscode, -⟩
      · rfl
      · exact absurd (h.text _ s hs (hscode.trans (heq.symm.trans hcode₀))) hek
    · rcases hcases e he with rfl | ⟨hek, s, hs, -, hscode, -⟩
      · exact absurd (h.text _ r hr (hrcode.trans (heq.trans hcode₀))) hdk
      · have hsame := hdb.unique r (mem_codes_of_lookup hr).1 s (mem_codes_of_lookup hs).1
          (hrcode.trans (heq.trans hscode.symm))
        refine (redo log db).skuCodes.eq_of_key hd he ?_
        show d.id = e.id
        rw [← (mem_codes_of_lookup hr).2, hsame, (mem_codes_of_lookup hs).2]
  · intro m hm
    by_cases hid : m.id = itemId
    · have hm₀' := Table.lookup_eq_some.mp hm₀
      have hsame : m = m₀ := (redo log db).items.eq_of_key hm hm₀'.1 (hid.trans hm₀'.2.symm)
      exact ⟨c₀, hmem₀.1, hitem₀.trans hid.symm, hflag₀, hactive₀, heff₀,
        hcode₀.trans (hsame ▸ hsku₀.symm)⟩
    · have hm' : m ∈ db.items.rows := by
        have hlook : (redo log db).items.lookup m.id = some m := Table.lookup_eq_some.mpr ⟨hm, rfl⟩
        rw [hitems m.id hid] at hlook
        exact (Table.lookup_eq_some.mp hlook).1
      obtain ⟨c, hc, hcitem, hrest⟩ := hdb.primary m hm'
      obtain ⟨d, hd, hditem, -⟩ := hasCode_redo log
        (⟨c, mem_codes.mp hc, rfl, rfl⟩ : db.HasCode c)
      have hdk : c.id ≠ k := by
        intro hk
        rw [hk, hc₀] at hd
        cases hd
        exact hid (hcitem.symm.trans (hditem.symm.trans hitem₀))
      obtain ⟨r, hr, -, -, hkept, -⟩ := h.others c.id hdk d hd
      have hdc : d = c := by
        rw [hkept (by rw [hditem, hcitem]; exact hid)]
        rw [mem_codes.mp hc] at hr
        exact (Option.some.inj hr).symm
      exact ⟨d, (mem_codes_of_lookup hd).1, by rw [hdc]; exact hcitem, by rw [hdc]; exact hrest⟩
  · intro d hd e he heq hdflag heflag
    rcases hcases d hd with rfl | ⟨hdk, r, hr, hritem, -, hrkept, hrnot⟩
    · rcases hcases e he with rfl | ⟨hek, s, hs, hsitem, -, hskept, hsnot⟩
      · rfl
      · rw [hsnot (heq.symm.trans hitem₀)] at heflag
        cases heflag
    · by_cases hditem : d.itemId = itemId
      · rw [hrnot hditem] at hdflag
        cases hdflag
      · rcases hcases e he with rfl | ⟨hek, s, hs, hsitem, -, hskept, hsnot⟩
        · exact absurd (heq.trans hitem₀) hditem
        · have heitem : e.itemId ≠ itemId := fun hi => hditem (heq.trans hi)
          rw [hrkept hditem] at hdflag heq ⊢
          rw [hskept heitem] at heflag heq ⊢
          exact hdb.one r (mem_codes_of_lookup hr).1 s (mem_codes_of_lookup hs).1 heq hdflag heflag

end Promotion

end WmsDu
