import WmsDu.Db.Guards
import WmsDu.Stock.AdjustLot

/-!
# Services under interference

The rules of pre- and postconditions for what services are made of besides
their statements: reads, conditions and computations that can raise.
-/

namespace WmsDu

open Txn

namespace Tx

variable {T : Setting Sql Db Lock} {P : Seat Db Lock Redo → Prop} {α : Type} {e : Err}

private theorem meets_done {q : Prop} (hP : Stable Redo T P) {a : α} (hq : q) :
    Meets T P (pure a : Tx α) (fun _ c => q ∧ P c) :=
  Meets.consequence (fun _ hc => hc) (Meets.pure (Q := fun _ => P) hP) fun _ _ hc => ⟨hq, hc⟩

/-- A read: what it answers is true of the view it saw. -/
theorem meets_select {q : Db → α} {Q : α → Seat Db Lock Redo → Prop} (hP : Stable Redo T P)
    (hQ : ∀ a, Stable Redo T (Q a))
    (h : ∀ c, P c → Q (q (c.view Sql)) (c.after (Sql.select q) [])) :
    Meets T P (select q) Q := by
  refine Meets.exec hP hQ ?_
  intro c a us hc _ hs
  cases hs
  exact h c hc

theorem meets_require {c : Prop} [Decidable c] (hP : Stable Redo T P) :
    Meets T P (require c e) (fun _ s => c ∧ P s) := by
  unfold require
  split
  · exact meets_done hP ‹c›
  · exact Meets.raise

theorem meets_requireSome {o : Option α} (hP : Stable Redo T P) :
    Meets T P (requireSome o e) (fun a s => o = some a ∧ P s) := by
  cases o with
  | none => exact Meets.raise
  | some a =>
      exact Meets.consequence (fun _ hc => hc)
        (Meets.pure (Q := fun b s => some a = some b ∧ P s) fun c w hc hw => ⟨hc.1, hP c w hc.2 hw⟩)
        (fun _ _ hc => hc) |>.consequence (fun _ hc => ⟨rfl, hc⟩) fun _ _ hc => hc

theorem meets_ofExcept {r : Except Err α} (hP : Stable Redo T P) :
    Meets T P (ofExcept r) (fun _ s => P s) := by
  cases r with
  | error e => exact Meets.raise
  | ok a => exact Meets.pure (Q := fun _ => P) hP

end Tx

end WmsDu
