import WmsDu.Txn.Prog

/-!
# Serial histories

Programs called one after another on one database, each rolled back when it
raises. A history is what can be reached so; the invariant rule turns a fact
about one successful call into a fact about every state of every history.
-/

namespace Txn

variable {S : Type → Type 1} {W L U E Op : Type} [Database S W L U E]

/-- The states that calls allowed in their state reach from `w₀`. -/
inductive Serial (prog : Op → Prog S E Unit) (allowed : W → Op → Prop) (w₀ : W) : W → Prop
  | start : Serial prog allowed w₀ w₀
  | call {w : W} (op : Op) : Serial prog allowed w₀ w → allowed w op →
      Serial prog allowed w₀ ((prog op).commit w)

namespace Serial

variable {prog : Op → Prog S E Unit} {allowed : W → Op → Prop} {w₀ w : W}

/-- **Invariant rule.** What holds at the start and is kept by every
successful call holds of every state reached. -/
theorem invariant {I : W → Prop} (h : Serial prog allowed w₀ w) (h₀ : I w₀)
    (hstep : ∀ (w w' : W) (op : Op), Serial prog allowed w₀ w → allowed w op → I w →
      (prog op).run w = .ok ((), w') → I w') : I w := by
  induction h with
  | start => exact h₀
  | call op hw hop ih =>
      exact Prog.commit_preserves (fun _ w' hrun hI => hstep _ w' op hw hop hI hrun) ih

/-- A history may be continued by another. -/
theorem trans {w₁ : W} (h : Serial prog allowed w₀ w₁) (h' : Serial prog allowed w₁ w) :
    Serial prog allowed w₀ w := by
  induction h' with
  | start => exact h
  | call op _ hop ih => exact .call op ih hop

theorem mono {allowed' : W → Op → Prop} (ha : ∀ w op, allowed w op → allowed' w op)
    (h : Serial prog allowed w₀ w) : Serial prog allowed' w₀ w := by
  induction h with
  | start => exact .start
  | call op _ hop ih => exact .call op ih (ha _ _ hop)

end Serial

end Txn
