import Mathlib
import WmsDu.Pms.Items
import WmsDu.Pms.Rows

/-!
# Patches of a unit

The body of `PATCH /item-uoms/{id}` tells a field that is left out from one
that is null: the route dumps it with `exclude_unset`. The helper it calls has
a default for each argument, and there the two are one again.
-/

namespace WmsDu

open Txn

/-- The body of a patch: each field is left out, null or a value. -/
structure ItemUomPatch where
  uom : Option (Option String) := none
  ratioToBase : Option (Option Int) := none
  displayName : Option (Option String) := none
  netWeightKg : Option (Option ℚ) := none
  isBase : Option (Option Bool) := none
  isPurchaseDefault : Option (Option Bool) := none
  isInboundDefault : Option (Option Bool) := none
  isOutboundDefault : Option (Option Bool) := none
  ratio_ge : ∀ r ∈ ratioToBase.join, 1 ≤ r
  netWeight_ge : ∀ w ∈ netWeightKg.join, 0 ≤ w

/-- The arguments of `update_item_uom_fields`, each with its default. -/
def ItemUomPatch.update (p : ItemUomPatch) : ItemUomUpdate where
  uom := p.uom.join
  ratioToBase := p.ratioToBase.join
  displayName := p.displayName.join
  netWeightKg := p.netWeightKg.join
  isBase := p.isBase.join
  isPurchaseDefault := p.isPurchaseDefault.join
  isInboundDefault := p.isInboundDefault.join
  isOutboundDefault := p.isOutboundDefault.join
  ratio_ge := p.ratio_ge

/-- `update_item_uom_route` with the body as it was sent. -/
def patchItemUomRoute {n : Nat} (id : Int) (p : ItemUomPatch) : PmsTx n Unit :=
  updateItemUomRoute id p.update

/-- Requests one after another: those that were accepted, and the state they
leave. A request that fails is rolled back. -/
def patchAll (n : Nat) (id : Int) : PmsDb → List ItemUomPatch → List ItemUomPatch × PmsDb
  | db, [] => ([], db)
  | db, p :: rest =>
      match (patchItemUomRoute id p : PmsTx n Unit).run db with
      | .ok (_, db') =>
          let (accepted, last) := patchAll n id db' rest
          (p :: accepted, last)
      | .error _ => patchAll n id db rest

section Step
variable {n : Nat} {id : Int} {p : ItemUomPatch} {db db' : PmsDb} {u : UomRow}

/-- What one accepted request makes of the unit. -/
def ItemUomPatch.row (p : ItemUomPatch) (u : UomRow) : UomRow :=
  { p.update.fields u with netWeightKg := netWeightColumn p.netWeightKg.join }

/-- A weight the column holds. -/
def UomRow.Rounded (u : UomRow) : Prop := netWeightColumn u.netWeightKg = u.netWeightKg

theorem netWeightColumn_idem (w : Option ℚ) :
    netWeightColumn (netWeightColumn w) = netWeightColumn w := by
  cases w with
  | none => rfl
  | some q => exact congrArg some (numericColumn_idem 3 q)

theorem ItemUomPatch.row_rounded (p : ItemUomPatch) (u : UomRow) : (p.row u).Rounded :=
  netWeightColumn_idem _

/-- **Step lemma.** An accepted request writes the unit as the helper sets it. -/
theorem run_patchItemUomRoute_ok {a : Unit} (hu : db.uoms.lookup id = some u) (hr : u.Rounded)
    (h : (patchItemUomRoute id p : PmsTx n Unit).run db = .ok (a, db')) :
    db'.uoms.lookup id = some (p.row u) := by
  simp only [patchItemUomRoute, updateItemUomRoute, getItemUomOr404, getItemUomById,
    Prog.run_bind_ok, Prog.run_read, Prog.run_requireSome_ok] at h
  obtain ⟨obj, _, ⟨_, _, hread, hobj, rfl⟩, hupdate⟩ := h
  cases hread
  split at hobj
  · cases hobj
  rw [hu] at hobj
  cases hobj
  obtain ⟨-, hid⟩ := Table.lookup_eq_some.mp hu
  unfold updateUom at hupdate
  split at hupdate
  · -- nothing changed, so the weight the request names is the one stored
    rename_i hsame
    cases hupdate
    have hweight : p.netWeightKg.join = u.netWeightKg := congrArg UomRow.netWeightKg hsame
    rw [hu, ItemUomPatch.row, hsame, hweight, hr]
  · obtain ⟨us, hus, rfl⟩ := Prog.run_write_ok.mp hupdate
    rw [hid, hu] at hus
    obtain ⟨-, rfl⟩ := checked_eq_ok.mp hus
    show ((PmsRedo.uomUpdate u _ : PmsRedo n).apply db).uoms.lookup id = _
    rw [PmsRedo.lookup_uoms, hu]
    show (if id = u.id then (some u).map _ else some u) = _
    rw [if_pos hid.symm]
    simp only [Option.map_some, UomRow.write, column_loaded]
    rfl

end Step

end WmsDu
