import WmsDu.Pms.Rules
import WmsDu.Pms.SkuGovernance

/-!
# The sessions that write SKU codes

What each call knows of the state it commits to. A call that promotes a code
first takes the flag from another one, then writes the item, then the code.
-/

namespace WmsDu

open Txn

variable {n : Nat}

/-! ## Before a promotion -/

/-- The call has at most written another code of the item. -/
inductive Retires (itemId : Int) (code : String) (db : PmsDb) : List (PmsRedo n) → Prop
  | nothing : Retires itemId code db []
  | demotes {old : SkuCodeRow} (new : SkuCodeRow) : db.HasCode old → old.itemId = itemId →
      old.code ≠ code → Retires itemId code db [.codeUpdate old new]

/-- The call has written the code to the item as well. -/
structure Prepared (itemId : Int) (code : String) (db : PmsDb) (log : List (PmsRedo n)) :
    Prop where
  retires : ∃ front u, log = front ++ [u] ∧ Retires itemId code db front ∧ u.table = .items
  locks : ∀ x, PmsLock.item x ∈ guardsOf log ↔ x = itemId
  projected : ∃ m, (redo log db).items.lookup itemId = some m ∧ m.sku = code
  pattern : skuPattern code = true

/-- Only records of items lock items. -/
theorem PmsRedo.item_of_guard {u : PmsRedo n} {x : Int} (h : PmsLock.item x ∈ u.guards) :
    u.table = .items := by
  cases u with
  | itemInsert | itemUpdate => rfl
  | _ => simp [PmsRedo.guards] at h

section Preparing
variable {itemId k x : Int} {code : String} {db db' : PmsDb} {log : List (PmsRedo n)}
  {c d : SkuCodeRow} {u : PmsRedo n}

theorem Retires.steady (h : Retires itemId code db log) (hrely : SkuRely (guardsOf log) db db') :
    Retires itemId code db' log := by
  cases h with
  | nothing => exact .nothing
  | demotes new hcopy hitem hcode => exact .demotes new (hrely.codeStays _ hcopy) hitem hcode

theorem Retires.copies (h : Retires itemId code db log) : CodeCopies db log := by
  intro old new hmem
  cases h with
  | nothing => cases hmem
  | demotes new' hcopy =>
      cases List.mem_singleton.mp hmem
      exact hcopy

theorem Retires.no_item (h : Retires itemId code db log) : PmsLock.item x ∉ guardsOf log := by
  intro hl
  obtain ⟨u, hu, hguard⟩ := mem_guardsOf.mp hl
  cases h with
  | nothing => cases hu
  | demotes new =>
      cases List.mem_singleton.mp hu
      change _ ∈ PmsRedo.guards _ at hguard
      simp only [PmsRedo.guards, List.mem_cons, reduceCtorEq, false_or] at hguard
      split at hguard
      · simp at hguard
      · cases hguard

/-- Codes of other items and the code itself are as they are committed. -/
theorem Retires.row (h : Retires itemId code db log)
    (hd : (redo log db).skuCodes.lookup x = some d) :
    ∃ r, db.skuCodes.lookup x = some r ∧ r.itemId = d.itemId ∧ r.code = d.code ∧
      (r.itemId ≠ itemId → d = r) ∧ (r.code = code → d = r) := by
  cases h with
  | nothing => exact ⟨d, hd, rfl, rfl, fun _ => rfl, fun _ => rfl⟩
  | @demotes old new hcopy hitem hcode =>
      have hrow := (PmsRedo.codeUpdate old new : PmsRedo n).lookup_codes db x
      rw [show ((PmsRedo.codeUpdate old new : PmsRedo n).apply db).skuCodes.lookup x = some d
        from hd] at hrow
      by_cases hx : x = old.id
      · obtain ⟨r, hr, hritem, hrcode⟩ := hcopy
        subst hx
        rw [hr] at hrow
        simp only [PmsRedo.actCode, if_true, Option.map_some, Option.some.injEq] at hrow
        subst hrow
        exact ⟨r, hr, rfl, rfl, fun hne => absurd (hritem.trans hitem) hne,
          fun heq => absurd (hrcode.symm.trans heq) hcode⟩
      · simp only [PmsRedo.actCode, if_neg hx] at hrow
        exact ⟨d, hrow.symm, rfl, rfl, fun _ => rfl, fun _ => rfl⟩

theorem Prepared.steady (h : Prepared itemId code db log)
    (hrely : SkuRely (guardsOf log) db db') : Prepared itemId code db' log where
  retires := by
    obtain ⟨front, u, rfl, hfront, hu⟩ := h.retires
    refine ⟨front, u, rfl, ?_, hu⟩
    cases hfront with
    | nothing => exact .nothing
    | demotes new hcopy hitem hcode => exact .demotes new (hrely.codeStays _ hcopy) hitem hcode
  locks := h.locks
  projected := by
    obtain ⟨m, hm, hsku⟩ := h.projected
    exact ⟨m, (hrely.items.row_locked ((h.locks itemId).mpr rfl)).trans hm, hsku⟩
  pattern := h.pattern

theorem Prepared.row (h : Prepared itemId code db log)
    (hd : (redo log db).skuCodes.lookup x = some d) :
    ∃ r, db.skuCodes.lookup x = some r ∧ r.itemId = d.itemId ∧ r.code = d.code ∧
      (r.itemId ≠ itemId → d = r) ∧ (r.code = code → d = r) := by
  obtain ⟨front, u, rfl, hfront, hu⟩ := h.retires
  refine hfront.row ?_
  rw [redo_append, redo_cons, redo_nil] at hd
  rwa [show (RedoLog.apply u (redo front db)).skuCodes = (redo front db).skuCodes from
    PmsRedo.skuCodes_apply (by rw [hu]; decide)] at hd

/-- The item is written after another code was. -/
theorem Retires.prepared (h : Retires itemId code db log) (hu : u.table = .items)
    (hlocks : ∀ x, PmsLock.item x ∈ u.guards ↔ x = itemId)
    (hview : ∃ m, (u.apply (redo log db)).items.lookup itemId = some m ∧ m.sku = code)
    (hpattern : skuPattern code = true) : Prepared itemId code db (log ++ [u]) where
  retires := ⟨log, u, rfl, h, hu⟩
  locks x := by
    rw [guardsOf_append, List.mem_append, or_iff_right h.no_item, ← hlocks x]
    simp [guardsOf]
    rfl
  projected := by
    rw [redo_append]
    exact hview
  pattern := hpattern

/-- The record that makes a code the primary one of the item. -/
structure Promotes (itemId : Int) (db : PmsDb) (log : List (PmsRedo n)) (u : PmsRedo n)
    (c : SkuCodeRow) : Prop where
  table : u.table = .codes
  copy : ∀ old new, u = .codeUpdate old new → db.HasCode old
  lock : PmsLock.code c.id ∈ u.guards
  no_item : ∀ x, PmsLock.item x ∉ u.guards
  elsewhere : ∀ x o, x ≠ c.id → u.actCode x o = o
  row : (u.apply (redo log db)).skuCodes.lookup c.id = some c
  item : c.itemId = itemId
  primary : c.isPrimary = true
  fits : CodeFits (redo log db) c
  flag : PmsLock.primaryCode itemId ∈ u.guards ∨
    ∃ r, db.skuCodes.lookup c.id = some r ∧ r.itemId = itemId ∧ r.isPrimary = true
  text : PmsLock.codeText c.code ∈ u.guards ∨
    ∃ r, db.skuCodes.lookup c.id = some r ∧ r.code = c.code

theorem Prepared.promoted (h : Prepared itemId c.code db log) (hu : Promotes itemId db log u c) :
    Promoted itemId c.id c.code db (log ++ [u]) := by
  have hview : redo (log ++ [u]) db = u.apply (redo log db) := by
    rw [redo_append]
    rfl
  have hlocks : ∀ l, l ∈ guardsOf (log ++ [u]) ↔ l ∈ guardsOf log ∨ l ∈ u.guards := by
    intro l
    rw [guardsOf_append, List.mem_append]
    simp [guardsOf]
    rfl
  refine ⟨?_, ?_, (hlocks _).mpr (.inl ((h.locks itemId).mpr rfl)), ?_, (hlocks _).mpr (.inr hu.lock),
    ?_, h.pattern, ?_, hu.flag.imp_left fun hl => (hlocks _).mpr (.inr hl), ?_,
    hu.text.imp_left fun hl => (hlocks _).mpr (.inr hl)⟩
  · intro old new hmem
    obtain ⟨front, v, rfl, hfront, hv⟩ := h.retires
    simp only [List.mem_append, List.mem_singleton] at hmem
    rcases hmem with (hmem | hmem) | hmem
    · exact hfront.copies old new hmem
    · rw [← hmem] at hv
      cases hv
    · exact hu.copy old new hmem.symm
  · intro x hx
    rcases (hlocks _).mp hx with hx | hx
    · exact (h.locks x).mp hx
    · exact absurd hx (hu.no_item x)
  · rw [hview, PmsRedo.items_apply (by rw [hu.table]; decide)]
    exact h.projected
  · rw [hview]
    exact ⟨c, hu.row, hu.item, hu.primary, hu.fits.active hu.primary, hu.fits.lasting hu.primary, rfl⟩
  · intro x hx d hd
    rw [hview, u.lookup_codes, hu.elsewhere x _ hx] at hd
    obtain ⟨r, hr, hritem, hrcode, hrkept, -⟩ := h.row hd
    refine ⟨r, hr, hritem, hrcode, fun hne => hrkept (hritem ▸ hne), fun hitem => ?_⟩
    by_contra hflag
    have hmem := mem_codes_of_lookup hd
    have hid := hu.fits.one hu.primary d hmem.1 (hitem.trans hu.item.symm) (by simpa using hflag)
    exact hx (hmem.2.symm.trans hid)
  · intro x r hr hcode
    obtain ⟨r', hr', -, hcode'⟩ := hasCode_redo log
      (⟨r, (mem_codes_of_lookup hr).2.symm ▸ hr, rfl, rfl⟩ : db.HasCode r)
    rw [(mem_codes_of_lookup hr).2] at hr'
    have hmem := mem_codes_of_lookup hr'
    exact hmem.2.symm.trans (hu.fits.text r' hmem.1 (hcode'.trans hcode))

/-- A new code is made the primary one. -/
theorem Prepared.insert (h : Prepared itemId c.code db log) (hitem : c.itemId = itemId)
    (hprimary : c.isPrimary = true) (hnew : ¬ (redo log db).skuCodes.HasKey c.id)
    (hfits : CodeFits (redo log db) c) :
    Promoted itemId c.id c.code db (log ++ [.codeInsert c]) := by
  have hpromotes : Promotes itemId db log (.codeInsert c) c := by
    refine ⟨rfl, ?_, List.mem_cons_self, ?_, ?_, ?_, hitem, hprimary, hfits, ?_, ?_⟩
    · intro old new heq
      cases heq
    · intro x
      simp [PmsRedo.guards, hprimary]
    · intro x o hx
      show o.or (if x = c.id then some c else none) = o
      rw [if_neg hx, Option.or_none]
    · rw [PmsRedo.lookup_codes]
      have hnone : (redo log db).skuCodes.lookup c.id = none := by
        rw [Table.hasKey_iff_isSome] at hnew
        simpa using hnew
      simp [hnone, PmsRedo.actCode]
    · left
      simp [PmsRedo.guards, hprimary, hitem]
    · left
      simp [PmsRedo.guards]
  exact h.promoted hpromotes

/-- A stored code is made the primary one. -/
theorem Prepared.update {old new r : SkuCodeRow} (h : Prepared itemId code db log)
    (hcopy : db.HasCode old) (hitem : old.itemId = itemId) (hcode : old.code = code)
    (hprimary : new.isPrimary = true) (hr : (redo log db).skuCodes.lookup old.id = some r)
    (htimely : (PmsRedo.codeUpdate old new : PmsRedo n).Timely (redo log db))
    (hfits : CodeFits (redo log db) (old.write new r)) :
    Promoted itemId old.id code db (log ++ [.codeUpdate old new]) := by
  obtain ⟨r₀, hr₀, hitem₀, hcode₀, -, hkept⟩ := h.row hr
  obtain ⟨r₁, hr₁, hitem₁, hcode₁⟩ := hcopy
  rw [hr₀] at hr₁
  cases hr₁
  -- the row is the committed one: the call has not written it before
  have hsame : r = r₀ := hkept (hcode₁.trans hcode)
  subst hsame
  have hid : (old.write new r).id = old.id := (mem_codes_of_lookup hr).2
  have hset : (old.write new r).isPrimary = true := by
    show column old.isPrimary new.isPrimary r.isPrimary = true
    by_cases hne : new.isPrimary = old.isPrimary
    · rw [hne, column_same]
      exact htimely hprimary (hne.symm.trans hprimary) r (mem_codes_of_lookup hr).1
        (mem_codes_of_lookup hr).2
    · rw [column_ne hne]
      exact hprimary
  have hwritten : (old.write new r).code = code := hcode₁.trans hcode
  have hpromotes : Promotes itemId db log (.codeUpdate old new) (old.write new r) := by
    refine ⟨rfl, ?_, ?_, ?_, ?_, ?_, hitem₁.trans hitem, hset, hfits, ?_, ?_⟩
    · intro old' new' heq
      cases heq
      exact ⟨r, hr₀, hitem₁, hcode₁⟩
    · rw [hid]
      exact List.mem_cons_self
    · intro x
      simp only [PmsRedo.guards, List.mem_cons, reduceCtorEq, false_or]
      split <;> simp
    · intro x o hx
      exact if_neg (by rwa [hid] at hx)
    · rw [PmsRedo.lookup_codes, hid, hr]
      simp [PmsRedo.actCode]
    · by_cases hold : old.isPrimary = true
      · right
        rw [hid]
        exact ⟨r, hr₀, hitem₁.trans hitem, htimely hprimary hold r (mem_codes_of_lookup hr).1
          (mem_codes_of_lookup hr).2⟩
      · left
        simp [PmsRedo.guards, hprimary, hold, hitem]
    · right
      rw [hid]
      exact ⟨r, hr₀, rfl⟩
  have hdone := Prepared.promoted (c := old.write new r) (hwritten.symm ▸ h) hpromotes
  rwa [hid, hwritten] at hdone

/-- What is written to other tables does not touch a promotion. -/
theorem Promoted.append {us : List (PmsRedo n)} (h : Promoted itemId k code db log)
    (hus : ∀ u ∈ us, u.table ≠ .items ∧ u.table ≠ .codes) :
    Promoted itemId k code db (log ++ us) := by
  have hitems : (redo (log ++ us) db).items = (redo log db).items := by
    rw [redo_append]
    exact items_redo fun u hu => (hus u hu).1
  have hcodes : (redo (log ++ us) db).skuCodes = (redo log db).skuCodes := by
    rw [redo_append]
    exact skuCodes_redo fun u hu => (hus u hu).2
  have hlock : ∀ {l}, l ∈ guardsOf log → l ∈ guardsOf (log ++ us) := by
    intro l hl
    rw [guardsOf_append]
    exact List.mem_append_left _ hl
  refine ⟨?_, ?_, hlock h.itemLock, ?_, hlock h.codeLock, ?_, h.pattern, ?_, h.flag.imp_left hlock,
    h.text, h.textLock.imp_left hlock⟩
  · intro old new hmem
    rcases List.mem_append.mp hmem with hmem | hmem
    · exact h.copies old new hmem
    · exact absurd rfl (hus _ hmem).2
  · intro x hx
    rw [guardsOf_append] at hx
    rcases List.mem_append.mp hx with hx | hx
    · exact h.locks x hx
    · obtain ⟨u, hu, hx⟩ := mem_guardsOf.mp hx
      exact absurd (u.item_of_guard hx) (hus u hu).1
  · rw [hitems]
    exact h.projected
  · rw [hcodes]
    exact h.inForce
  · rw [hcodes]
    exact h.others

end Preparing

/-! ## Calls that promote nothing -/

/-- The call has added a code beside the primary one. -/
structure Added (c : SkuCodeRow) (db : PmsDb) (log : List (PmsRedo n)) : Prop where
  log_eq : log = [.codeInsert c]
  plain : c.isPrimary = false
  owned : db.items.HasKey c.itemId
  pattern : skuPattern c.code = true
  new : db.skuCodes.lookup c.id = none
  text : ∀ x r, db.skuCodes.lookup x = some r → r.code ≠ c.code

/-- The call has updated a code and left its primary flag alone. -/
structure Switched (old new : SkuCodeRow) (db : PmsDb) (log : List (PmsRedo n)) : Prop where
  log_eq : log = [.codeUpdate old new]
  flag : new.isPrimary = old.isPrimary
  row : ∃ r, db.skuCodes.lookup old.id = some r ∧ r.itemId = old.itemId ∧ r.code = old.code ∧
    (r.isPrimary = true → (old.write new r).isActive = true ∧ (old.write new r).effectiveTo = none)

section Plain
variable {c old new : SkuCodeRow} {db db' : PmsDb} {log : List (PmsRedo n)}

theorem Added.steady (h : Added c db log) (hrely : SkuRely (guardsOf log) db db') :
    Added c db' log where
  log_eq := h.log_eq
  plain := h.plain
  owned := hrely.itemStays _ h.owned
  pattern := h.pattern
  new := by
    rw [← h.new]
    refine hrely.codes c.id ?_
    rw [h.log_eq]
    exact mem_guardsOf.mpr ⟨_, List.mem_singleton_self _, List.mem_cons_self⟩
  text := by
    intro x r hr heq
    have hlock : PmsLock.codeText c.code ∈ guardsOf log := by
      rw [h.log_eq]
      refine mem_guardsOf.mpr ⟨_, List.mem_singleton_self _, ?_⟩
      show _ ∈ PmsRedo.guards _
      simp [PmsRedo.guards]
    obtain ⟨r₀, hr₀, hcode⟩ := hrely.text _ hlock x r hr heq
    exact h.text x r₀ hr₀ hcode

theorem Switched.steady (h : Switched old new db log) (hrely : SkuRely (guardsOf log) db db') :
    Switched old new db' log where
  log_eq := h.log_eq
  flag := h.flag
  row := by
    obtain ⟨r, hr, hrest⟩ := h.row
    refine ⟨r, ?_, hrest⟩
    rw [← hr]
    refine hrely.codes old.id ?_
    rw [h.log_eq]
    exact mem_guardsOf.mpr ⟨_, List.mem_singleton_self _, List.mem_cons_self⟩

theorem Added.governed (h : Added c db log) (hdb : db.SkuGoverned) :
    (redo log db).SkuGoverned := by
  obtain ⟨rfl, hplain, howned, hpattern, -, htext⟩ := h
  have hmem : ∀ {d}, d ∈ (db.skuCodes.insert c).rows → d ∈ db.skuCodes.rows ∨ d = c :=
    Table.mem_of_mem_insert
  show PmsDb.SkuGoverned { db with skuCodes := db.skuCodes.insert c }
  refine ⟨?_, ?_, ?_, ?_, ?_⟩
  · intro d hd
    rcases hmem hd with hd | rfl
    · exact hdb.owned d hd
    · exact howned
  · intro d hd
    rcases hmem hd with hd | rfl
    · exact hdb.normal d hd
    · exact hpattern
  · exact hdb.unique.insert fun d hd => htext d.id d (mem_codes.mp hd)
  · intro m hm
    obtain ⟨d, hd, hrest⟩ := hdb.primary m hm
    exact ⟨d, Table.mem_insert_of_mem hd, hrest⟩
  · intro d hd e he heq hdflag heflag
    rcases hmem hd with hd | rfl
    · rcases hmem he with he | rfl
      · exact hdb.one d hd e he heq hdflag heflag
      · rw [hplain] at heflag
        cases heflag
    · rw [hplain] at hdflag
      cases hdflag

theorem Switched.governed (h : Switched old new db log) (hdb : db.SkuGoverned) :
    (redo log db).SkuGoverned := by
  obtain ⟨rfl, hflag, r₀, hr₀, hitem₀, hcode₀, hcheck⟩ := h
  have hkept : ∀ r : SkuCodeRow, (old.write new r).isPrimary = r.isPrimary := fun r => by
    show column old.isPrimary new.isPrimary r.isPrimary = r.isPrimary
    rw [hflag, column_same]
  have hrows : ∀ {d}, d ∈ (redo [(.codeUpdate old new : PmsRedo n)] db).skuCodes.rows ↔
      ∃ r ∈ db.skuCodes.rows, d = if r.id = old.id then old.write new r else r :=
    Table.mem_update (f := old.write new) fun _ => rfl
  -- each row is a former one with its item, text and flag
  have hback : ∀ {d}, d ∈ (redo [(.codeUpdate old new : PmsRedo n)] db).skuCodes.rows →
      ∃ r ∈ db.skuCodes.rows, r.id = d.id ∧ r.itemId = d.itemId ∧ r.code = d.code ∧
        r.isPrimary = d.isPrimary := by
    intro d hd
    obtain ⟨r, hr, rfl⟩ := hrows.mp hd
    split
    · exact ⟨r, hr, rfl, rfl, rfl, (hkept r).symm⟩
    · exact ⟨r, hr, rfl, rfl, rfl, rfl⟩
  refine ⟨?_, ?_, ?_, ?_, ?_⟩
  · intro d hd
    obtain ⟨r, hr, -, hitem, -⟩ := hback hd
    rw [← hitem]
    exact hdb.owned r hr
  · intro d hd
    obtain ⟨r, hr, -, -, hcode, -⟩ := hback hd
    rw [← hcode]
    exact hdb.normal r hr
  · intro d hd e he heq
    obtain ⟨r, hr, hid, -, hcode, -⟩ := hback hd
    obtain ⟨s, hs, hid', -, hcode', -⟩ := hback he
    have hsame := hdb.unique r hr s hs (hcode.trans (heq.trans hcode'.symm))
    exact Table.eq_of_key _ hd he (hid.symm.trans (hsame ▸ hid'))
  · intro m hm
    obtain ⟨r, hr, hitem, hprimary, hactive, heff, hsku⟩ := hdb.primary m hm
    by_cases hid : r.id = old.id
    · have hrr : r = r₀ := by
        have hrow := mem_codes.mp hr
        rw [hid, hr₀] at hrow
        exact (Option.some.inj hrow).symm
      subst hrr
      exact ⟨old.write new r, hrows.mpr ⟨r, hr, (if_pos hid).symm⟩, hitem,
        (hkept r).trans hprimary, (hcheck hprimary).1, (hcheck hprimary).2, hsku⟩
    · exact ⟨r, hrows.mpr ⟨r, hr, (if_neg hid).symm⟩, hitem, hprimary, hactive, heff,
        hsku⟩
  · intro d hd e he heq hdflag heflag
    obtain ⟨r, hr, hid, hitem, -, hflag'⟩ := hback hd
    obtain ⟨s, hs, hid', hitem', -, hflag''⟩ := hback he
    have hsame := hdb.one r hr s hs (hitem.trans (heq.trans hitem'.symm)) (hflag'.trans hdflag)
      (hflag''.trans heflag)
    exact Table.eq_of_key _ hd he (hid.symm.trans (hsame ▸ hid'))

end Plain

/-! ## What a call has written -/

/-- What a finished call wrote. -/
inductive SkuWrote (db : PmsDb) (log : List (PmsRedo n)) : Prop
  | promoted {itemId k : Int} {code : String} : Promoted itemId k code db log → SkuWrote db log
  | added {c : SkuCodeRow} : Added c db log → SkuWrote db log
  | switched {old new : SkuCodeRow} : Switched old new db log → SkuWrote db log

namespace SkuWrote
variable {db db' : PmsDb} {log : List (PmsRedo n)}

theorem steady (h : SkuWrote db log) (hrely : SkuRely (guardsOf log) db db') :
    SkuWrote db' log := by
  cases h with
  | promoted h => exact .promoted (h.steady hrely)
  | added h => exact .added (h.steady hrely)
  | switched h => exact .switched (h.steady hrely)

theorem governed (h : SkuWrote db log) (hdb : db.SkuGoverned) : (redo log db).SkuGoverned := by
  cases h with
  | promoted h => exact h.governed hdb
  | added h => exact h.governed hdb
  | switched h => exact h.governed hdb

theorem copies (h : SkuWrote db log) : CodeCopies db log := by
  cases h with
  | promoted h => exact h.copies
  | added h =>
      intro old new hmem
      rw [h.log_eq] at hmem
      cases List.mem_singleton.mp hmem
  | switched h =>
      intro old new hmem
      rw [h.log_eq] at hmem
      cases List.mem_singleton.mp hmem
      obtain ⟨r, hr, hitem, hcode, -⟩ := h.row
      exact ⟨r, hr, hitem, hcode⟩

end SkuWrote

end WmsDu
