import WmsDu.System.LotSessions
import WmsDu.System.Sample

/-!
# Lot identity

Transactions that call `ensure_lot_full` and `ensure_internal_lot_singleton`
in any number and any interleaving agree on the lots: one for a production
date, one internal lot a warehouse and item, and every call answers with it.
-/

namespace WmsDu

open Txn

/-- The constraints of `lots`: the checks of its rows and its unique indexes. -/
structure Db.LotsValid (db : Db) : Prop where
  checked : ∀ lot ∈ db.lots.rows, lot.check = none
  unique : ∀ a ∈ db.lots.rows, ∀ b ∈ db.lots.rows, a.clashes b → a.id = b.id

/-- A pool of lot calls. -/
abbrev LotPool := Pool Sql Db Lock Redo Err (List LotCall) (List Int)

/-- A committed transaction made the call and got the lot. -/
def LotPool.Answered (p : LotPool) (c : LotCall) (lotId : Int) : Prop :=
  ∃ (i n : Nat) (calls : List LotCall) (ids : List Int),
    p.sessions[i]? = some (calls, .committed ids) ∧ calls[n]? = some c ∧ ids[n]? = some lotId

/-- What lot identity means in a state of a pool that began on `db`. -/
structure LotIdentity (db : Db) (p : LotPool) : Prop where
  /-- A production date has one supplier lot. -/
  supplier : ∀ a ∈ p.shared.lots.rows, ∀ b ∈ p.shared.lots.rows,
    a.lotCodeSource = .supplier → b.lotCodeSource = .supplier →
    a.warehouseId = b.warehouseId → a.itemId = b.itemId →
    a.productionDate ≠ none → a.productionDate = b.productionDate → a = b
  /-- A warehouse and item have one internal lot. -/
  internal : ∀ a ∈ p.shared.lots.rows, ∀ b ∈ p.shared.lots.rows,
    a.lotCodeSource = .internal → b.lotCodeSource = .internal →
    a.warehouseId = b.warehouseId → a.itemId = b.itemId → a = b
  /-- A call with required dates answers with the supplier lot of its production
  date, a singleton call with the internal lot. -/
  answer : ∀ c lotId k, p.Answered c lotId → c.key db.items = some k →
    ∃ lot ∈ p.shared.lots.rows, lot.id = lotId ∧ lot.warehouseId = k.warehouseId ∧
      lot.itemId = k.itemId ∧ lot.productionDate = k.productionDate ∧
      lot.lotCodeSource = if k.productionDate = none then .internal else .supplier
  /-- Two calls answer with one lot exactly when they name one. -/
  same : ∀ c c' lotId lotId' k k', p.Answered c lotId → p.Answered c' lotId' →
    c.key db.items = some k → c'.key db.items = some k' → (lotId = lotId' ↔ k = k')
  /-- An expiry date is never overwritten. -/
  expiry : ∀ p', Pool.Reach lotCalls .free p p' → ∀ lot ∈ p.shared.lots.rows,
    ∃ lot' ∈ p'.shared.lots.rows, lot'.id = lot.id ∧
      ∀ ed, lot.expiryDate = some ed → lot'.expiryDate = some ed

theorem Db.LotsValid.kept {db : Db} (h : db.LotsValid) : db.LotsKept :=
  .of_checks h.checked fun a ha b hb hclash =>
    db.lots.eq_of_key ha hb (h.unique a ha b hb hclash)

section Parts
variable {db : Db} {p p' : LotPool} (hgov : Pool.Governed (lotDiscipline db.items) p)
include hgov

private theorem hasLot_of_answered {c : LotCall} {lotId : Int} (h : p.Answered c lotId) :
    HasLot lotId (c.key db.items) p.shared := by
  obtain ⟨i, n, calls, ids, hi, hc, hid⟩ := h
  have hzip : (calls.zip ids)[n]? = some (c, lotId) :=
    List.getElem?_zip_eq_some.mpr ⟨hc, hid⟩
  exact (List.forall₂_iff_zip.mp (hgov.posts hi)).2 (List.mem_of_getElem? hzip)

private theorem kept_identity {a b : Lot} (ha : a ∈ p.shared.lots.rows)
    (hb : b ∈ p.shared.lots.rows) (hka : a.productionDate ≠ none ∨ a.lotCodeSource = .internal)
    (hkb : b.productionDate ≠ none ∨ b.lotCodeSource = .internal)
    (hw : a.warehouseId = b.warehouseId) (hi : a.itemId = b.itemId)
    (hpd : a.productionDate = b.productionDate) : a = b := by
  have hkey := hgov.inv.1.keyed a ha hka
  rw [hw, hi, hpd] at hkey
  exact hgov.inv.1.unique a ha b hb _ hkey (hgov.inv.1.keyed b hb hkb)

/-- An internal lot has no production date. -/
private theorem internal_undated {a : Lot} (ha : a ∈ p.shared.lots.rows)
    (hs : a.lotCodeSource = .internal) : a.productionDate = none := by
  have hkey := hgov.inv.1.keyed a ha (Or.inr hs)
  obtain ⟨-, -, ⟨hs', _⟩ | ⟨_, _, hnone⟩⟩ := Lot.indexKey_eq_some hkey
  · rw [hs] at hs'
    cases hs'
  · exact hnone

private theorem lots_grow (h : Pool.Reach lotCalls .free p p') :
    p.shared.LotsMove (fun _ => True) p'.shared :=
  hgov.grows (G := fun w w' => w.LotsMove (fun _ => True) w') Db.LotsMove.refl Db.LotsMove.trans
    (fun {_ _ c} (hdone : LotSeat db.items c ∧ _) _ => hdone.1.own.mono fun _ _ => trivial) h

end Parts

/-- **Lot identity.** In every state that calls of the two lot functions reach,
interleaved in any way under the indexes of `lots`, the lots are identified by
their production date, or by being internal, and the calls answer with them. -/
theorem lot_identity {db : Db} (hdb : db.LotsValid) {sessions : List (List LotCall)} {p : LotPool}
    (h : Pool.Reach lotCalls .free (.fresh db sessions) p) : LotIdentity db p := by
  have hstart : Pool.Governed (lotDiscipline db.items) (.fresh db sessions) :=
    .fresh (D := lotDiscipline db.items) ⟨hdb.kept, rfl⟩ sessions
  have hgov := hstart.reach h
  refine ⟨?_, ?_, ?_, ?_, ?_⟩
  · intro a ha b hb _ _ hw hi hne hpd
    exact kept_identity hgov ha hb (Or.inl hne) (Or.inl (hpd ▸ hne)) hw hi hpd
  · intro a ha b hb hsa hsb hw hi
    refine kept_identity hgov ha hb (Or.inr hsa) (Or.inr hsb) hw hi ?_
    rw [internal_undated hgov ha hsa, internal_undated hgov hb hsb]
  · intro c lotId k hc hk
    obtain ⟨lot, hlot, hid, hkey⟩ := hasLot_of_answered hgov hc
    obtain ⟨hw, hi, ⟨hs, _, hne, hpd⟩ | ⟨hs, _, hnone⟩⟩ := Lot.indexKey_eq_some (hkey k hk)
    · exact ⟨lot, hlot, hid, hw.symm, hi.symm, hpd, by rw [hs, if_neg hne]⟩
    · refine ⟨lot, hlot, hid, hw.symm, hi.symm, ?_, by rw [hs, if_pos hnone]⟩
      rw [internal_undated hgov hlot hs, hnone]
  · intro c c' lotId lotId' k k' hc hc' hk hk'
    obtain ⟨lot, hlot, rfl, hkey⟩ := hasLot_of_answered hgov hc
    obtain ⟨lot', hlot', rfl, hkey'⟩ := hasLot_of_answered hgov hc'
    constructor
    · intro hid
      obtain rfl := p.shared.lots.eq_of_key hlot hlot' hid
      exact Option.some.inj ((hkey k hk).symm.trans (hkey' k' hk'))
    · rintro rfl
      rw [hgov.inv.1.unique lot hlot lot' hlot' k (hkey k hk) (hkey' k hk')]
  · intro p' h' lot hlot
    obtain ⟨lot', hlot', hb, -⟩ := (lots_grow hgov h').kept lot hlot
    exact ⟨lot', hlot', hb.id, fun ed hed => hb.expiryDate hed⟩

/-- Two transactions that look for the milk of one day before either has
inserted it. -/
def sampleLotRace : LotPool :=
  (Pool.fresh sampleDb
    [[.full 2 1 (some "LOT-B") (some ⟨2024, 2, 1⟩) none 7],
      [.full 2 1 (some "LOT-C") (some ⟨2024, 2, 1⟩) none 8]]).run lotCalls
    [0, 1, 0, 0, 1, 1, 0, 1, 0, 1, 1, 1, 1]

/-- Both get the lot of the first to insert. -/
theorem lot_identity_sample : LotIdentity sampleDb sampleLotRace ∧
    sampleLotRace.Answered (.full 2 1 (some "LOT-B") (some ⟨2024, 2, 1⟩) none 7) 7 ∧
    sampleLotRace.Answered (.full 2 1 (some "LOT-C") (some ⟨2024, 2, 1⟩) none 8) 7 :=
  ⟨lot_identity ⟨by decide, by decide⟩ (Pool.reach_run _ _), ⟨0, 0, _, _, rfl, rfl, rfl⟩,
    ⟨1, 0, _, _, rfl, rfl, rfl⟩⟩

end WmsDu
