import WmsDu.Stock.LotMoves
import WmsDu.System.Writes
import WmsDu.Txn.Pool

/-!
# Lot calls side by side

Transactions that call the lot functions, under interference: while one runs,
others add and date lots as far as its locks let them. Every call ends with a
lot of the index entry it names, and the lot stays.
-/

namespace WmsDu

open Txn

/-! ## Calls -/

/-- A call of the two lot functions. -/
inductive LotCall
  | full (itemId warehouseId : Int) (lotCode : Option String)
      (productionDate expiryDate : Option Date) (newLotId : Int)
  | internal (itemId warehouseId : Int) (sourceReceiptId sourceLineNo : Option Int)
      (newLotId : Int)

/-- The program of a call. -/
def LotCall.prog : LotCall → Tx Int
  | .full i w code pd ed newLotId => ensureLotFull i w code pd ed newLotId
  | .internal i w rid rln newLotId => ensureInternalLotSingleton i w rid rln newLotId

/-- The index entry a call names: the production date it gives or implies for
an item with required dates, or the internal lot. -/
def LotCall.key (items : Table Item.id) : LotCall → Option LotKey
  | .full i w _ pd ed _ =>
      match items.lookup i with
      | none => none
      | some item =>
          if item.policy.expiryPolicy = .required then
            (completeLotDates item.policy pd ed).1.map fun d => ⟨w, i, some d⟩
          else none
  | .internal i w _ _ _ => some ⟨w, i, none⟩

/-- A transaction that makes some calls, with the lots they answered. -/
def lotCalls : List LotCall → Tx (List Int)
  | [] => return []
  | c :: cs => do
      let lotId ← c.prog
      let others ← lotCalls cs
      return lotId :: others

theorem within_lotCalls {T : Part → Prop} (hl : T .lots) (calls : List LotCall) :
    Tx.Within T (lotCalls calls) := by
  induction calls with
  | nil => exact Tx.within_pure _
  | cons c cs ih =>
      refine Tx.within_bind ?_ fun _ => Tx.within_bind ih fun _ => Tx.within_pure _
      cases c with
      | full i w code pd ed newLotId => exact within_ensureLotFull hl _ _ _ _ _ _
      | internal i w rid rln newLotId => exact within_ensureInternalLotSingleton hl _ _ _ _ _

/-! ## The seat of a transaction -/

/-- What others may do to the lots while a transaction holds some locks. -/
def lotSetting (items : Table Item.id) : Setting Sql Db Lock where
  issue := fun _ _ => True
  rely := fun held w w' => w.LotsMove (· ∉ held) w' ∧ w'.LotsKept ∧ w'.items = items

/-- What holds of a transaction of lot calls at every point of its run. -/
structure LotSeat (items : Table Item.id) (c : Seat Db Lock Redo) : Prop where
  lots : ∀ u ∈ c.log, u.part = .lots
  covered : c.Covered Sql
  dates : Dates c.log c.shared
  shared : c.shared.LotsKept
  view : (c.view Sql).LotsKept
  items : c.shared.items = items

theorem replay_items (log : List Redo) (db : Db) : (replay Sql log db).items = db.items :=
  replay_frame (p := fun _ => True) (fun u w _ => Redo.apply_items u w) log db (fun _ _ => trivial)

namespace LotSeat
variable {items : Table Item.id} {c : Seat Db Lock Redo}

theorem fresh {w : Db} (hw : w.LotsKept) (hi : w.items = items) : LotSeat items (.fresh w) where
  lots := fun _ h => by cases h
  covered := Seat.covered_fresh w
  dates := fun _ _ h => by cases h
  shared := hw
  view := hw
  items := hi

theorem view_items (h : LotSeat items c) : (c.view Sql).items = items :=
  (replay_items c.log c.shared).trans h.items

/-- The lots of the view are the committed ones but for one's own. -/
theorem own (h : LotSeat items c) : c.shared.LotsMove (· ∈ c.held) (c.view Sql) :=
  .of_log h.lots h.covered h.dates

theorem moved (h : LotSeat items c) {w : Db} (hw : (lotSetting items).rely c.held c.shared w) :
    LotSeat items (c.moved w) ∧ (c.view Sql).LotsMove (· ∉ c.held) ((c.moved w).view Sql) := by
  obtain ⟨hmove, hkept, hitems⟩ := hw
  have hdates : Dates c.log w := by
    intro lotId ed hu lot hlot hid
    have hheld : Lock.lot lotId ∈ c.held := h.covered _ hu _ List.mem_cons_self
    -- one's own lock kept others off this lot
    rcases hmove.added lot hlot with ⟨lot₀, hlot₀, hb⟩ | htheirs
    · have hid₀ : lot₀.id = lotId := hb.id.symm.trans hid
      have heq := (hmove.becomes hlot₀ hlot hb.id).2.resolve_right (by rw [hid₀]; exact fun hn => hn hheld)
      rw [heq]
      exact h.dates lotId ed hu lot₀ hlot₀ hid₀
    · exact absurd (hid ▸ hheld) htheirs.1
  refine ⟨⟨h.lots, h.covered, hdates, hkept, ?_, hitems⟩, ?_⟩
  · exact h.view.moved hkept hmove h.lots h.covered hdates
  · exact hmove.replay h.lots fun u hu l hl hn => hn (h.covered u hu l hl)

/-- A statement of the lot functions keeps the seat and moves the view on. -/
theorem after (h : LotSeat items c) {β : Type} {s : Sql β} {b : β} {us : List Redo}
    (hpart : ∀ p, s.part = some p → p = .lots) (hs : s.exec (c.view Sql) = .ok (b, us)) :
    LotSeat items (c.after s us) ∧
      (c.view Sql).LotsMove (fun _ => True) ((c.after s us).view Sql) := by
  have hlots : ∀ u ∈ (c.after s us).log, u.part = .lots := by
    intro u hu
    rcases List.mem_append.mp hu with hu | hu
    · exact h.lots u hu
    · exact hpart _ (Sql.exec_part hs u hu)
  have hcovered := h.covered.after hs
  rw [Seat.view_after]
  rcases Sql.exec_lots hpart hs with rfl | ⟨lot, rfl, hcheck, hclash⟩ | ⟨lot, ed, rfl, hlot, hnone⟩
  · refine ⟨⟨hlots, hcovered, ?_, h.shared, ?_, h.items⟩, .refl _⟩
    · show Dates (c.log ++ []) c.shared
      rw [List.append_nil]
      exact h.dates
    · rw [Seat.view_after]
      exact h.view
  · refine ⟨⟨hlots, hcovered, ?_, h.shared, ?_, h.items⟩, .insert ⟨trivial, fun _ _ => trivial⟩⟩
    · intro lotId ed hu
      rcases List.mem_append.mp hu with hu | hu
      · exact h.dates lotId ed hu
      · cases List.mem_singleton.mp hu
    · rw [Seat.view_after]
      exact h.view.insert hcheck hclash
  · refine ⟨⟨hlots, hcovered, ?_, h.shared, ?_, h.items⟩, ?_⟩
    · intro lotId ed' hu lot₀ hlot₀ hid
      rcases List.mem_append.mp hu with hu | hu
      · exact h.dates lotId ed' hu lot₀ hlot₀ hid
      · -- the committed lot, whose view has no date yet
        cases List.mem_singleton.mp hu
        cases hd : lot₀.expiryDate with
        | none => rfl
        | some d =>
            have hb := (h.own.becomes hlot₀ hlot hid.symm).1
            rw [hb.expiryDate hd] at hnone
            cases hnone
    · rw [Seat.view_after]
      exact h.view.setExpiry lot.id ed
    · refine (Db.LotsMove.refl _).setExpiry trivial ?_
      intro lot' hlot' hid
      rw [(c.view Sql).lots.eq_of_key hlot' hlot hid]
      exact hnone

end LotSeat

/-! ## Rules for the lot functions -/

/-- A fact about the lots that further additions and dates leave true. -/
def Lasting (P : Db → Prop) : Prop :=
  ∀ ⦃v v' : Db⦄, v.LotsMove (fun _ => True) v' → P v → P v'

/-- What a program of lot calls makes of facts about the lots it sees. -/
def LotMeets {α : Type} (items : Table Item.id) (P : Db → Prop) (x : Tx α)
    (Q : α → Db → Prop) : Prop :=
  Meets (lotSetting items) (fun c => LotSeat items c ∧ P (c.view Sql)) x
    (fun a c => LotSeat items c ∧ Q a (c.view Sql))

namespace LotMeets
variable {items : Table Item.id} {P P' : Db → Prop} {α β : Type} {Q Q' : α → Db → Prop}
  {x : Tx α} {e : Err}

private theorem stable (hP : Lasting P) :
    Stable Redo (lotSetting items) (fun c => LotSeat items c ∧ P (c.view Sql)) := by
  intro c w hc hw
  obtain ⟨hseat, hmove⟩ := hc.1.moved hw
  exact ⟨hseat, hP (hmove.mono fun _ _ => trivial) hc.2⟩

theorem bind {M : β → Db → Prop} {y : Tx β} {f : β → Tx α} (hy : LotMeets items P y M)
    (hf : ∀ b, LotMeets items (M b) (f b) Q) : LotMeets items P (y >>= f) Q :=
  Meets.bind hy hf

theorem weaken (hx : LotMeets items P x Q) (hP : ∀ v, P' v → P v)
    (hQ : ∀ a v, Q a v → Q' a v) : LotMeets items P' x Q' :=
  Meets.consequence (fun _ hc => ⟨hc.1, hP _ hc.2⟩) hx (fun _ _ hc => ⟨hc.1, hQ _ _ hc.2⟩)

theorem mapRaise {f : Err → Err} (hx : LotMeets items P x Q) : LotMeets items P (x.mapRaise f) Q :=
  Meets.mapRaise hx

theorem raise : LotMeets items P (Prog.raise e : Tx α) Q := Meets.raise

theorem pure {a : α} (hQ : Lasting (Q a)) (h : ∀ v, P v → Q a v) :
    LotMeets items P (pure a : Tx α) Q :=
  weaken (Meets.pure (Q := fun a c => LotSeat items c ∧ Q a (c.view Sql)) (stable hQ)) h
    (fun _ _ => id)

/-- A statement of the lot functions. -/
theorem exec {s : Sql α} (hpart : ∀ p, s.part = some p → p = .lots) (hP : Lasting P)
    (hQ : ∀ a, Lasting (Q a))
    (h : ∀ v a us, v.LotsKept → v.items = items → P v → s.exec v = .ok (a, us) →
      Q a (replay Sql us v)) : LotMeets items P (Prog.exec s : Tx α) Q := by
  refine Meets.exec (stable hP) (fun a => stable (hQ a)) ?_
  intro c a us hc _ hs
  refine ⟨(hc.1.after hpart hs).1, ?_⟩
  rw [Seat.view_after]
  exact h _ a us hc.1.view hc.1.view_items hc.2 hs

theorem select {q : Db → α} (hP : Lasting P) (hQ : ∀ a, Lasting (Q a))
    (h : ∀ v, v.LotsKept → v.items = items → P v → Q (q v) v) :
    LotMeets items P (Tx.select q) Q := by
  refine exec (fun p hp => by cases hp) hP hQ ?_
  intro v a us hkept hitems hv hs
  cases hs
  exact h v hkept hitems hv

theorem require {c : Prop} [Decidable c] {Q : Unit → Db → Prop} (hQ : Lasting (Q ()))
    (h : ∀ v, c → P v → Q () v) : LotMeets items P (Tx.require c e) Q := by
  unfold Tx.require
  split
  · rename_i hc
    exact pure hQ fun v => h v hc
  · exact raise

theorem requireSome {o : Option α} (hQ : ∀ a, Lasting (Q a))
    (h : ∀ a v, o = some a → P v → Q a v) : LotMeets items P (Tx.requireSome o e) Q := by
  cases o with
  | none => exact raise
  | some a => exact pure (hQ a) fun v => h a v rfl

theorem ofExcept {r : Except Err α} (hQ : ∀ a, Lasting (Q a))
    (h : ∀ a v, r = .ok a → P v → Q a v) : LotMeets items P (Tx.ofExcept r) Q := by
  cases r with
  | error e => exact raise
  | ok a => exact pure (hQ a) fun v => h a v rfl

/-- Facts about the lots outlast every program of lot calls. -/
theorem within (hx : Tx.Within (· = .lots) x) (hP : Lasting P) :
    LotMeets items P x (fun _ => P) := by
  refine Meets.frame hx (stable hP) ?_
  intro β s c b us hc hpart _ hs
  obtain ⟨hseat, hmove⟩ := hc.1.after hpart hs
  exact ⟨hseat, hP hmove hc.2⟩

/-- What a program adds, it adds to the facts that were there. -/
theorem add (hx : LotMeets items (fun _ => True) x Q) (hw : Tx.Within (· = .lots) x)
    (hP : Lasting P) : LotMeets items P x (fun a v => P v ∧ Q a v) :=
  Meets.consequence (fun _ hc => ⟨hc, hc.1, trivial⟩) (Meets.and (within hw hP) hx)
    (fun _ _ hc => ⟨hc.1.1, hc.1.2, hc.2.2⟩)

end LotMeets

/-! ## What the lot functions answer -/

/-- The lot of an id, under an entry of the indexes if one is named. -/
def HasLot (lotId : Int) (k : Option LotKey) (db : Db) : Prop :=
  ∃ lot ∈ db.lots.rows, lot.id = lotId ∧ ∀ k', k = some k' → lot.indexKey = some k'

theorem lasting_hasLot (lotId : Int) (k : Option LotKey) : Lasting (HasLot lotId k) := by
  rintro v v' hmove ⟨lot, hlot, hid, hkey⟩
  obtain ⟨lot', hlot', hb, -⟩ := hmove.kept lot hlot
  exact ⟨lot', hlot', hb.id.trans hid, fun k' hk' => hb.indexKey.trans (hkey k' hk')⟩

theorem lasting_true : Lasting fun _ => True := fun _ _ _ _ => trivial

/-- A condition on the answer alone. -/
theorem lasting_const {c : Prop} : Lasting fun _ => c := fun _ _ _ h => h

section Answers
variable {db : Db}

theorem mem_lotsWhere {p : Lot → Bool} {lot : Lot} :
    lot ∈ lotsWhere db p ↔ lot ∈ db.lots.rows ∧ p lot = true := by
  rw [lotsWhere, List.mem_insertionSort, List.mem_filter]

theorem hasLot_of_internalLotId {w i lotId : Int} (h : internalLotId db w i = some lotId) :
    HasLot lotId (some ⟨w, i, none⟩) db := by
  obtain ⟨lot, hhead, rfl⟩ := Option.map_eq_some_iff.mp h
  obtain ⟨hlot, hp⟩ := mem_lotsWhere.mp (List.mem_of_mem_head? hhead)
  obtain ⟨rfl, rfl, hsource, hcode⟩ := of_decide_eq_true hp
  refine ⟨lot, hlot, rfl, ?_⟩
  rintro k' ⟨rfl⟩
  unfold Lot.indexKey
  rw [hsource, hcode]

theorem hasLot_of_productionDate (hkept : db.LotsKept) {w i lotId : Int} {pd : Date}
    (h : supplierLotByProductionDate db w i pd = some lotId) :
    HasLot lotId (some ⟨w, i, some pd⟩) db := by
  obtain ⟨lot, hhead, rfl⟩ := Option.map_eq_some_iff.mp h
  obtain ⟨hlot, hp⟩ := mem_lotsWhere.mp (List.mem_of_mem_head? hhead)
  obtain ⟨rfl, rfl, -, hpd⟩ := of_decide_eq_true hp
  refine ⟨lot, hlot, rfl, ?_⟩
  rintro k' ⟨rfl⟩
  rw [← hpd]
  exact hkept.keyed lot hlot (Or.inl (by simp [hpd]))

theorem hasLot_of_lotCode {w i lotId : Int} {code : String} {others : List Int}
    (h : supplierLotIdsByLotCode db w i code = lotId :: others) : HasLot lotId none db := by
  have hmem : lotId ∈ supplierLotIdsByLotCode db w i code := h ▸ List.mem_cons_self
  obtain ⟨lot, hlot, rfl⟩ := List.mem_map.mp hmem
  exact ⟨lot, (mem_lotsWhere.mp (List.mem_of_mem_take hlot)).1, rfl, fun k' hk' => by cases hk'⟩

private theorem hasLot_of_lotInsert {lot : Lot} (hfresh : ¬ db.lots.HasKey lot.id)
    (hcheck : lot.check = none) (hk : lot.productionDate ≠ none ∨ lot.lotCodeSource = .internal) :
    HasLot lot.id (some ⟨lot.warehouseId, lot.itemId, lot.productionDate⟩)
      ((Redo.lotInsert lot).apply db) := by
  refine ⟨lot, ?_, rfl, ?_⟩
  · rw [Redo.apply, Table.rows_insert_new hfresh]
    exact List.mem_append_right _ (List.mem_singleton.mpr rfl)
  · rintro k' ⟨rfl⟩
    exact Lot.indexKey_of_check hcheck hk

/-- An insert that came back with an id left a lot of its entry. -/
theorem hasLot_of_insert {lotId w i : Int} {source : LotCodeSource} {code : Option String}
    {pd ed : Option Date} {rid rln : Option Int} {b : Option Int} {us : List Redo}
    (hk : pd ≠ none ∨ source = .internal)
    (h : (Sql.insertLot lotId w i source code pd ed rid rln).exec db = .ok (b, us)) :
    ∀ lotId', b = some lotId' → HasLot lotId' (some ⟨w, i, pd⟩) (replay Sql us db) := by
  intro lotId' hb
  simp only [Sql.exec, violated] at h
  split at h
  · cases h; cases hb
  · split at h
    · cases h
    · rename_i hcheck
      split at h
      · cases h; cases hb
      · split at h
        · cases h
        · rename_i hfresh
          split at h <;> cases h
          cases hb
          exact hasLot_of_lotInsert (not_or.mp hfresh).2 hcheck hk

end Answers

section Calls
variable {items : Table Item.id}

theorem lotMeets_patch {P : Db → Prop} (hP : Lasting P) (lotId : Int) (ed : Option Date) :
    LotMeets items P (patchLotExpiryIfNull lotId ed) (fun _ => P) :=
  .within (within_patchLotExpiryIfNull (T := (· = .lots)) rfl lotId ed) hP

theorem lotMeets_ensureInternalLotSingleton (i w : Int) (rid rln : Option Int) (newLotId : Int) :
    LotMeets items (fun _ => True) (ensureInternalLotSingleton i w rid rln newLotId)
      (fun lotId => HasLot lotId (some ⟨w, i, none⟩)) := by
  unfold ensureInternalLotSingleton
  have hfind : LotMeets items (fun _ => True)
      (Tx.select fun db => internalLotId db w i)
      (fun o v => ∀ lotId, o = some lotId → HasLot lotId (some ⟨w, i, none⟩) v) :=
    .select lasting_true
      (fun o _ _ hmove h lotId ho => lasting_hasLot lotId _ hmove (h lotId ho))
      (fun v _ _ _ lotId ho => hasLot_of_internalLotId ho)
  refine .bind (.ofExcept (Q := fun _ _ => True) (fun _ => lasting_true) fun _ _ _ _ => trivial) ?_
  rintro ⟨rid, rln⟩
  refine .bind hfind fun found => ?_
  cases found with
  | some lotId =>
      exact .pure (lasting_hasLot lotId _) fun v h => h lotId rfl
  | none =>
      have hinsert : LotMeets items (fun _ => True)
          (Prog.exec (.insertLot newLotId w i .internal none none none rid rln))
          (fun o v => ∀ lotId, o = some lotId → HasLot lotId (some ⟨w, i, none⟩) v) :=
        .exec (fun p hp => (Option.some.inj hp).symm) lasting_true
          (fun o _ _ hmove h lotId ho => lasting_hasLot lotId _ hmove (h lotId ho))
          (fun v o us _ _ _ hs => hasLot_of_insert (Or.inr rfl) hs)
      refine .bind (hinsert.weaken (fun _ _ => trivial) fun _ _ => id) fun inserted => ?_
      cases inserted with
      | some lotId => exact .pure (lasting_hasLot lotId _) fun v h => h lotId rfl
      | none =>
          refine .bind (hfind.weaken (fun _ _ => trivial) fun _ _ => id) fun again => ?_
          exact .requireSome (fun lotId => lasting_hasLot lotId _) fun lotId v ho h => h lotId ho

theorem lotMeets_ensureLotByDates (i w : Int) (code : String) (pd ed : Option Date)
    (newLotId : Int) :
    LotMeets items (fun _ => True) (ensureLotByDates i w code pd ed newLotId)
      (fun lotId => HasLot lotId (pd.map fun d => ⟨w, i, some d⟩)) := by
  unfold ensureLotByDates
  cases pd with
  | none =>
      refine .bind (M := fun ids v => ∀ lotId others, ids = lotId :: others → HasLot lotId none v)
        (.select lasting_true ?_ ?_) fun ids => ?_
      · intro ids v v' hmove h lotId others ho
        exact lasting_hasLot lotId _ hmove (h lotId others ho)
      · intro v _ _ _ lotId others ho
        exact hasLot_of_lotCode ho
      · split
        · rename_i lotId
          refine .bind ((lotMeets_patch (lasting_hasLot lotId none) lotId ed).weaken
            (fun v h => h lotId [] rfl) fun _ _ => id) fun _ => ?_
          exact .pure (lasting_hasLot lotId none) fun v => id
        · exact .raise
        · exact .raise
  | some d =>
      have hfind : LotMeets items (fun _ => True)
          (Tx.select fun db => supplierLotByProductionDate db w i d)
          (fun o v => ∀ lotId, o = some lotId → HasLot lotId (some ⟨w, i, some d⟩) v) :=
        .select lasting_true
          (fun o _ _ hmove h lotId ho => lasting_hasLot lotId _ hmove (h lotId ho))
          (fun v hkept _ _ lotId ho => hasLot_of_productionDate hkept ho)
      refine .bind hfind fun found => ?_
      cases found with
      | some lotId =>
          refine .bind ((lotMeets_patch (lasting_hasLot lotId _) lotId ed).weaken
            (fun v h => h lotId rfl) fun _ _ => id) fun _ => ?_
          exact .pure (lasting_hasLot lotId _) fun v => id
      | none =>
          refine .bind (.require (Q := fun _ _ => True) lasting_true fun _ _ _ => trivial)
            fun _ => ?_
          have hinsert : LotMeets items (fun _ => True)
              (Prog.exec (.insertLot newLotId w i .supplier (some code) (some d) ed none none))
              (fun o v => ∀ lotId, o = some lotId → HasLot lotId (some ⟨w, i, some d⟩) v) :=
            .exec (fun p hp => (Option.some.inj hp).symm) lasting_true
              (fun o _ _ hmove h lotId ho => lasting_hasLot lotId _ hmove (h lotId ho))
              (fun v o us _ _ _ hs => hasLot_of_insert (Or.inl (by simp)) hs)
          refine .bind hinsert fun inserted => ?_
          cases inserted with
          | some lotId => exact .pure (lasting_hasLot lotId _) fun v h => h lotId rfl
          | none =>
              refine .bind (hfind.weaken (fun _ _ => trivial) fun _ _ => id) fun again => ?_
              refine .bind (.requireSome (fun lotId => lasting_hasLot lotId _)
                fun lotId v ho h => h lotId ho) fun lotId => ?_
              refine .bind (lotMeets_patch (lasting_hasLot lotId _) lotId ed) fun _ => ?_
              exact .pure (lasting_hasLot lotId _) fun v => id

theorem lotMeets_prog (c : LotCall) :
    LotMeets items (fun _ => True) c.prog (fun lotId => HasLot lotId (c.key items)) := by
  cases c with
  | internal i w rid rln newLotId => exact lotMeets_ensureInternalLotSingleton i w rid rln newLotId
  | full i w lotCode pd ed newLotId =>
      simp only [LotCall.prog, ensureLotFull]
      refine .bind (.ofExcept (Q := fun _ _ => True) (fun _ => lasting_true)
        fun _ _ _ _ => trivial) fun code => ?_
      refine .bind (M := fun o _ => o = items.lookup i) (.select lasting_true
        (fun _ => lasting_const) fun v _ hitems _ => by rw [hitems]) fun o => ?_
      refine .bind (M := fun item _ => items.lookup i = some item) (.requireSome
        (fun _ => lasting_const) fun item v ho h => h.symm.trans ho) fun item => ?_
      refine .bind (M := fun _ _ => items.lookup i = some item)
        (.require lasting_const fun _ _ h => h) fun _ => ?_
      -- the item is the one the call's entry is read from
      by_cases hitem : items.lookup i = some item
      · have hkey : (LotCall.full i w lotCode pd ed newLotId).key items =
            if item.policy.expiryPolicy = .required then
              (completeLotDates item.policy pd ed).1.map fun d => ⟨w, i, some d⟩
            else none := by
          simp only [LotCall.key, hitem]
        rw [hkey]
        split
        · exact (lotMeets_ensureLotByDates i w code _ _ newLotId).weaken (fun _ _ => trivial)
            fun _ _ => id
        · refine .bind (M := fun ids v => ∀ lotId others, ids = lotId :: others →
            HasLot lotId none v) (.select lasting_const ?_ ?_) fun ids => ?_
          · intro ids v v' hmove h lotId others ho
            exact lasting_hasLot lotId _ hmove (h lotId others ho)
          · intro v _ _ _ lotId others ho
            exact hasLot_of_lotCode ho
          · split
            · rename_i lotId
              exact .pure (lasting_hasLot lotId none) fun v h => h lotId [] rfl
            · exact .raise
            · exact .raise
      · intro c a d hc _
        exact absurd hc.2 hitem

/-- Every call of the list answered with its lot. -/
def AllAnswered (items : Table Item.id) (calls : List LotCall) (ids : List Int) (db : Db) : Prop :=
  List.Forall₂ (fun (c : LotCall) lotId => HasLot lotId (c.key items) db) calls ids

theorem lasting_allAnswered (calls : List LotCall) (ids : List Int) :
    Lasting (AllAnswered items calls ids) := by
  intro v v' hmove h
  exact h.imp fun c lotId hlot => lasting_hasLot lotId (c.key items) hmove hlot

theorem lotMeets_lotCalls (items : Table Item.id) (calls : List LotCall) :
    LotMeets items (fun _ => True) (lotCalls calls) (fun ids => AllAnswered items calls ids) := by
  induction calls with
  | nil => exact .pure (lasting_allAnswered [] []) fun _ _ => .nil
  | cons c cs ih =>
      refine .bind (lotMeets_prog c) fun lotId => ?_
      have hlot := lasting_hasLot lotId (c.key items)
      refine .bind (ih.add (within_lotCalls (T := (· = .lots)) rfl cs) hlot) fun ids => ?_
      exact .pure (lasting_allAnswered (c :: cs) (lotId :: ids)) fun v h => .cons h.1 h.2

end Calls

/-! ## The discipline -/

/-- Lot calls leave each other the lots they answered with. -/
def lotDiscipline (items : Table Item.id) :
    Discipline (α := List Int) lotCalls (.free : Terms (List LotCall) Sql Db) Lock Redo where
  inv := fun w => w.LotsKept ∧ w.items = items
  rely := fun _ => (lotSetting items).rely
  done := fun calls ids c => LotSeat items c ∧ AllAnswered items calls ids (c.view Sql)
  post := fun calls ids w => AllAnswered items calls ids w
  meets := fun calls => Meets.consequence
    (fun c hc => by
      obtain ⟨⟨hkept, hitems⟩, heq⟩ := hc
      rw [heq]
      exact ⟨.fresh hkept hitems, trivial⟩)
    (lotMeets_lotCalls items calls) (fun _ _ => id)
  keeps := fun hdone _ => ⟨hdone.1.view, hdone.1.view_items⟩
  guarantee := fun hdone _ _ hdis =>
    ⟨hdone.1.own.mono fun l hl => hdis l hl, hdone.1.view, hdone.1.view_items⟩
  answers := fun hdone _ => hdone.2
  lasting := fun hdone _ hpost =>
    lasting_allAnswered _ _ (hdone.1.own.mono fun _ _ => trivial) hpost

end WmsDu
