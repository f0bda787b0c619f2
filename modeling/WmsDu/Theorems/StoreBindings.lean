import WmsDu.Oms.BindingSessions

/-!
# A store has one main and one default warehouse

Where requests in flight together do not set the same flag for different
warehouses of a store, and where a request takes the main flag from no binding
it was not asked to, a store keeps one main and one default warehouse at most.
-/

namespace WmsDu.Stores

open Txn

/-- A pool of binding requests. -/
abbrev BindingPool :=
  Pool (Stmt BindingsDb BindingRedo BindingErr) BindingsDb BindingKey BindingRedo BindingErr
    BindingCall Unit

/-- The request of the transaction about to commit leaves every other main
binding the main one. -/
def SparesTop (p : BindingPool) : Prop :=
  ∀ (i : Nat) (op : BindingCall) (a : Unit) (log : List BindingRedo) (held : List BindingKey),
    p.sessions[i]? = some (op, .live (.done a) log held) → ¬ op.AsksTop →
    ∀ b ∈ p.shared.bindings.rows, b.isTop = true → b.key ≠ op.key →
      ∃ b' ∈ (redo log p.shared).bindings.rows, b'.key = b.key ∧ b'.isTop = true

/-- **Store bindings.** In every committed state that such requests reach, a
store has one main and one default warehouse at most, and a request that does
not ask for a main warehouse leaves the others their main flag. -/
theorem store_bindings {db : BindingsDb} (hdb : db.OneEach) {calls : List BindingCall}
    {p : BindingPool} (h : Pool.Reach BindingCall.prog bindingTerms (.fresh db calls) p) :
    p.shared.OneEach ∧ SparesTop p := by
  have hgov : Pool.Governed bindingDiscipline p := (Pool.Governed.fresh hdb calls).reach h
  refine ⟨hgov.inv, fun i op a log held hi hasks b hb htop hne => ?_⟩
  obtain ⟨-, hwrote⟩ := hgov.committing hi
  obtain ⟨b', hb', htop'⟩ := hwrote.top_kept hasks b.key hne b
    (Table.lookup_eq_some.mpr ⟨hb, rfl⟩) htop
  rw [← lookup_redo] at hb'
  obtain ⟨hmem, hkey⟩ := Table.lookup_eq_some.mp hb'
  exact ⟨b', hmem, hkey, htop'⟩

/-! ## Requests of one store -/

/-- A store and three warehouses, none of them bound. -/
def sampleBindings : BindingsDb := { stores := [1], warehouses := [(1, true), (2, true), (3, true)] }

theorem sampleBindings_oneEach : sampleBindings.OneEach :=
  ⟨fun _ ha => absurd ha List.not_mem_nil, fun _ ha => absurd ha List.not_mem_nil⟩

/-- A main and a default warehouse are bound while a third one is bound and
gets another priority. -/
def sampleBindingCalls : BindingPool :=
  .fresh sampleBindings
    [.bind 1 { warehouseId := 1, isTop := some true }, .bind 1 { warehouseId := 2 },
      .update 1 2 { isDefault := some true, priority := some 5 }]

def sampleBindingTurns : List Nat := [0, 1, 0, 1, 0, 1, 0, 1, 0, 1, 0, 1] ++ List.replicate 12 2

theorem store_bindings_sample :
    ((sampleBindingCalls.run BindingCall.prog sampleBindingTurns).shared.OneEach ∧
      SparesTop (sampleBindingCalls.run BindingCall.prog sampleBindingTurns)) ∧
      (sampleBindingCalls.run BindingCall.prog sampleBindingTurns).shared.bindings.rows =
        [⟨1, 2, false, true, 5⟩, ⟨1, 1, true, false, 100⟩] := by
  refine ⟨store_bindings sampleBindings_oneEach (Pool.Keeps.reach ?_), ?_⟩
  · decide
  · decide

/-- An update makes a second binding the main one; two first bindings at once
both become the default one; and a binding that only asks to be the default
one takes the main flag from another. -/
theorem store_bindings_not :
    (∃ p : BindingPool, Pool.Reach BindingCall.prog .free
        (.fresh sampleBindings [.bind 1 { warehouseId := 1, isTop := some true },
          .bind 1 { warehouseId := 2 }, .update 1 2 { isTop := some true }]) p ∧
      p.shared.bindings.rows.map (fun b => (b.warehouseId, b.isTop)) = [(1, true), (2, true)] ∧
      ¬ p.shared.OneEach) ∧
    (∃ p : BindingPool, Pool.Reach BindingCall.prog .free
        (.fresh sampleBindings [.bind 1 { warehouseId := 1, isDefault := true },
          .bind 1 { warehouseId := 2, isDefault := true }]) p ∧
      p.shared.bindings.rows.map (fun b => (b.warehouseId, b.isDefault)) = [(1, true), (2, true)] ∧
      ¬ p.shared.OneEach) ∧
    ∃ p : BindingPool, Pool.Reach BindingCall.prog .free
        (.fresh sampleBindings [.bind 1 { warehouseId := 1, isTop := some true },
          .bind 1 { warehouseId := 2, isDefault := true, isTop := some false }]) p ∧
      ¬ SparesTop p := by
  refine ⟨⟨_, Pool.reach_run _ ([0, 1, 2].flatMap (List.replicate 12)), ?_, ?_⟩,
    ⟨_, Pool.reach_run _ ((List.replicate 12 [0, 1]).flatten), ?_, ?_⟩,
    ⟨_, Pool.reach_run _ (List.replicate 12 0 ++ List.replicate 5 1), fun h => ?_⟩⟩
  · decide +kernel
  · decide +kernel
  · decide
  · decide
  · have hkept := h 1 _ () _ _ rfl (fun hasks => by cases hasks) ⟨1, 1, true, false, 100⟩
      (by decide) rfl (by decide)
    revert hkept
    decide

end WmsDu.Stores
