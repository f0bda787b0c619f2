import Mathlib
import WmsDu.Shared.Fallible
import WmsDu.Fsku.Lifecycle

/-!
# The life cycle of an FSKU

A call checks the status of an FSKU in one statement and writes in another,
without a lock. The life cycle is kept as long as every write finds the status
that was checked and no merchant code is bound to an FSKU while it is being
retired; otherwise components change after publication, a retired FSKU comes
back, and bindings point to retired ones.
-/

namespace WmsDu

open Txn

/-- A pool of calls. -/
abbrev FskuPool := Pool (Stmt FskuDb FskuRedo FskuErr) FskuDb FskuLock FskuRedo FskuErr FskuCall Unit

/-- **The life cycle.** In every committed state that calls within the terms
reach, published and retired FSKUs have a primary component and bindings point
to published ones, and every turn moves an FSKU on by at most one step,
leaving its components alone once it is published. -/
theorem fsku_lifecycle {db : FskuDb} (hdb : db.Sound) {calls : List FskuCall} {p : FskuPool}
    (h : Pool.Reach FskuCall.prog fskuTerms (.fresh db calls) p) :
    p.shared.Sound ∧ ∀ i, p.shared.MovesOn (p.turn FskuCall.prog i).shared := by
  have hgov : Pool.Governed fskuDiscipline p :=
    Pool.Governed.reach (.fresh (D := fskuDiscipline) hdb calls) h
  refine ⟨hgov.inv, fun i => ?_⟩
  unfold Pool.turn
  cases hi : p.advance FskuCall.prog i with
  | none => exact .refl _
  | some p' =>
      have hcommit : ∀ {op a c}, fskuDiscipline.done op a c → fskuDiscipline.inv c.shared →
          c.shared.MovesOn (c.view (Stmt FskuDb FskuRedo FskuErr)) :=
        fun hdone _ => FskuCall.Wrote.movesOn hdone.2
      exact hgov.turn FskuDb.MovesOn.refl hcommit hi

/-! ## Overlapping calls -/

private theorem sampleFsku_items : (List.map id [(1 : Int), 2]).Nodup := by decide

private theorem sampleFsku_components :
    (List.map FskuComponent.id [⟨1, 1, 1, 1, 1, "primary"⟩]).Nodup := by decide

/-- An FSKU of one item, in some status. -/
def sampleFskuDb (status : FskuStatus) : FskuDb where
  items := ⟨[1, 2], sampleFsku_items⟩
  fskus := ⟨[{ id := 1, code := "FSKU-1", status := status, name := "tea", shape := .single
               updatedAt := 0 }], by simp⟩
  components := ⟨[⟨1, 1, 1, 1, 1, "primary"⟩], sampleFsku_components⟩

/-- Two pieces of the second item in place of the first. -/
def sampleReplace : FskuCall :=
  .replaceComponentsDraft 1 [{ itemId := 2, qty := 2, role := .primary, itemId_ge := two_ge_one, qty_ge := two_ge_one }] (fun _ => 2) 5

def sampleBind : FskuCall := .bindUpsert "PDD" "S1" "MC-1" 1 none 1

/-- One call after the other: the draft is filled, published, bound, unbound
and retired. -/
theorem fsku_lifecycle_sample :
    let p : FskuPool := (Pool.fresh (sampleFskuDb .draft)
      [sampleReplace, .publish 1 6, sampleBind, .unbind "PDD" "S1" "MC-1", .retire 1 7]).run
        FskuCall.prog ([0, 1, 2, 3, 4].flatMap (List.replicate 8))
    (p.shared.Sound ∧ ∀ i, p.shared.MovesOn (p.turn FskuCall.prog i).shared) ∧
      p.shared.fskus.rows.map (·.status) = [.retired] ∧
      p.shared.components.rows.map (·.itemId) = [2] := by
  have hsound : (sampleFskuDb .draft).Sound := by decide
  refine ⟨fsku_lifecycle hsound (Pool.Keeps.reach ?_), ?_, ?_⟩
  · decide
  · decide
  · decide

/-- A draft is published while its components are being replaced; two calls
publish it and the slower one ends after it was retired; a code is bound to an
FSKU that is retired meanwhile. -/
theorem fsku_lifecycle_broken :
    (∃ p : FskuPool, Pool.Reach FskuCall.prog .free
        (.fresh (sampleFskuDb .draft) [.publish 1 6, sampleReplace]) p ∧
      ¬ p.shared.MovesOn (p.turn FskuCall.prog 1).shared) ∧
    (∃ p : FskuPool, Pool.Reach FskuCall.prog .free
        (.fresh (sampleFskuDb .draft) [.publish 1 6, .publish 1 7, .retire 1 8]) p ∧
      ¬ p.shared.MovesOn (p.turn FskuCall.prog 0).shared) ∧
    ∃ p : FskuPool, Pool.Reach FskuCall.prog .free
        (.fresh (sampleFskuDb .published) [sampleBind, .retire 1 8]) p ∧
      ¬ p.shared.Sound := by
  refine ⟨⟨_, Pool.reach_run _ (List.replicate 5 1 ++ List.replicate 6 0 ++ List.replicate 2 1), ?_⟩,
    ⟨_, Pool.reach_run _ (List.replicate 4 0 ++ List.replicate 6 1 ++ List.replicate 5 2 ++ [0]), ?_⟩,
    ⟨_, Pool.reach_run _ (List.replicate 3 0 ++ List.replicate 5 1 ++ List.replicate 2 0), ?_⟩⟩
  · decide
  · decide
  · decide

end WmsDu
