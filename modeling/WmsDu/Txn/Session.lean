import Mathlib.Data.List.Basic

/-!
# Sessions that outlive an error

A service that catches exceptions goes on after a statement failed, but the
transaction around it does not: the database answers every later statement
with an error until the rollback. `Sess` keeps that state, which the programs
of `Txn.Prog` do not need because nothing of them runs behind an error.
-/

namespace Txn

/-- A connection: what its transaction sees, and whether a failed statement
has aborted it. -/
structure Conn (W : Type) where
  state : W
  aborted : Bool := false

theorem Conn.eq_of_alive {W : Type} {c : Conn W} (h : c.aborted = false) : c = ⟨c.state, false⟩ := by
  cases c
  cases h
  rfl

/-- A service over one connection. -/
def Sess (W E α : Type) : Type := Conn W → Except E α × Conn W

namespace Sess

variable {W E α β : Type}

instance : Monad (Sess W E) where
  pure a := fun c => (.ok a, c)
  bind x f := fun c =>
    match x c with
    | (.ok a, c') => f a c'
    | (.error e, c') => (.error e, c')

/-- Raise an error in the service itself. -/
def raise (e : E) : Sess W E α := fun c => (.error e, c)

/-- Run one statement. In an aborted transaction it ends in `refused`; when it
fails it aborts the transaction. -/
def exec (refused : E) (f : W → Except E (α × W)) : Sess W E α := fun c =>
  if c.aborted then (.error refused, c)
  else
    match f c.state with
    | .error e => (.error e, { c with aborted := true })
    | .ok (a, w) => (.ok a, { c with state := w })

/-- `try: … except Exception: pass`. -/
def attempt (x : Sess W E α) : Sess W E Unit := fun c => (.ok (), (x c).2)

/-- Run a service as one transaction: commit what it did, unless it raised or
its transaction was aborted. -/
def call (x : Sess W E α) (w : W) : Except E α × W :=
  match x ⟨w, false⟩ with
  | (.ok a, c) => (.ok a, if c.aborted then w else c.state)
  | (.error e, _) => (.error e, w)

/-! ## Runs -/

@[simp] theorem run_pure (a : α) (c : Conn W) : (pure a : Sess W E α) c = (.ok a, c) := rfl

@[simp] theorem run_raise (e : E) (c : Conn W) : (raise e : Sess W E α) c = (.error e, c) := rfl

/-- A sequence that succeeded went through an intermediate connection. -/
theorem run_bind_ok {x : Sess W E α} {f : α → Sess W E β} {c c' : Conn W} {b : β} :
    (x >>= f) c = (.ok b, c') ↔ ∃ a c₁, x c = (.ok a, c₁) ∧ f a c₁ = (.ok b, c') := by
  show (match x c with
    | (.ok a, c') => f a c'
    | (.error e, c') => (.error e, c')) = _ ↔ _
  rcases hx : x c with ⟨a | a, c₁⟩
  · simp
  · simp

theorem run_bind_of_ok {x : Sess W E α} {f : α → Sess W E β} {c c₁ : Conn W} {a : α}
    (h : x c = (.ok a, c₁)) : (x >>= f) c = f a c₁ := by
  show (match x c with
    | (.ok a, c') => f a c'
    | (.error e, c') => (.error e, c')) = _
  rw [h]

theorem run_bind_of_error {x : Sess W E α} {f : α → Sess W E β} {c c₁ : Conn W} {e : E}
    (h : x c = (.error e, c₁)) : (x >>= f) c = (.error e, c₁) := by
  show (match x c with
    | (.ok a, c') => f a c'
    | (.error e, c') => (.error e, c')) = _
  rw [h]

theorem run_exec_ok {e : E} {f : W → Except E (α × W)} {c c' : Conn W} {a : α} :
    exec e f c = (.ok a, c') ↔
      c.aborted = false ∧ ∃ w, f c.state = .ok (a, w) ∧ c' = ⟨w, false⟩ := by
  obtain ⟨s, ab⟩ := c
  cases ab with
  | true => simp [exec]
  | false =>
      simp only [exec, Bool.false_eq_true, if_false, true_and]
      cases f s with
      | error e' => simp
      | ok r =>
          obtain ⟨a', w⟩ := r
          simp [eq_comm]

theorem run_exec_of_ok {e : E} {f : W → Except E (α × W)} {w w' : W} {a : α}
    (h : f w = .ok (a, w')) : exec e f ⟨w, false⟩ = (.ok a, ⟨w', false⟩) :=
  run_exec_ok.mpr ⟨rfl, w', h, rfl⟩

theorem run_exec_of_error {e e' : E} {f : W → Except E (α × W)} {w : W}
    (h : f w = .error e') : exec e f ⟨w, false⟩ = (.error e', ⟨w, true⟩) := by
  simp [exec, h]

/-- Nothing succeeds in an aborted transaction but the service's own steps. -/
theorem run_exec_aborted {e : E} {f : W → Except E (α × W)} {c : Conn W} (h : c.aborted = true) :
    exec e f c = (.error e, c) := by simp [exec, h]

@[simp] theorem run_attempt (x : Sess W E α) (c : Conn W) :
    attempt x c = (.ok (), (x c).2) := rfl

/-! ## Frames -/

/-- Whatever a service answers, it leaves its connection in relation to the one
it found. -/
def Keeps (R : Conn W → Conn W → Prop) (x : Sess W E α) : Prop := ∀ c, R c (x c).2

section Keeps
variable {R : Conn W → Conn W → Prop}

theorem keeps_pure (hrefl : ∀ c, R c c) (a : α) : Keeps R (pure a : Sess W E α) := hrefl

theorem keeps_raise (hrefl : ∀ c, R c c) (e : E) : Keeps R (raise e : Sess W E α) := hrefl

theorem Keeps.bind (htrans : ∀ {a b c}, R a b → R b c → R a c) {x : Sess W E α}
    {f : α → Sess W E β} (hx : Keeps R x) (hf : ∀ a, Keeps R (f a)) : Keeps R (x >>= f) := by
  intro c
  have hxc := hx c
  rcases h : x c with ⟨e | a, c₁⟩
  · rw [h] at hxc
    rw [run_bind_of_error h]
    exact hxc
  · rw [h] at hxc
    rw [run_bind_of_ok h]
    exact htrans hxc (hf a c₁)

/-- A statement that aborts nothing it has changed. -/
theorem keeps_exec (hrefl : ∀ c, R c c) {e : E} {f : W → Except E (α × W)}
    (habort : ∀ w, R ⟨w, false⟩ ⟨w, true⟩)
    (hok : ∀ {w a w'}, f w = .ok (a, w') → R ⟨w, false⟩ ⟨w', false⟩) : Keeps R (exec e f) := by
  rintro ⟨w, ab⟩
  cases ab with
  | true =>
      rw [run_exec_aborted rfl]
      exact hrefl _
  | false =>
      rcases h : f w with e' | ⟨a, w'⟩
      · rw [run_exec_of_error h]
        exact habort w
      · rw [run_exec_of_ok h]
        exact hok h

end Keeps

/-- A service whose every error is a statement's: it leaves the transaction
aborted. -/
def AbortsOnError (x : Sess W E α) : Prop :=
  ∀ ⦃c : Conn W⦄ ⦃e : E⦄ ⦃c' : Conn W⦄, x c = (.error e, c') → c'.aborted = true

theorem abortsOnError_pure (a : α) : AbortsOnError (pure a : Sess W E α) := by
  intro c e c' h
  cases h

theorem abortsOnError_exec {e : E} {f : W → Except E (α × W)} : AbortsOnError (exec e f) := by
  rintro ⟨w, ab⟩ e' c' h
  cases ab with
  | true =>
      rw [run_exec_aborted rfl] at h
      cases h
      rfl
  | false =>
      rcases hf : f w with e'' | ⟨a, w'⟩
      · rw [run_exec_of_error hf] at h
        cases h
        rfl
      · rw [run_exec_of_ok hf] at h
        cases h

theorem AbortsOnError.bind {x : Sess W E α} {f : α → Sess W E β} (hx : AbortsOnError x)
    (hf : ∀ a, AbortsOnError (f a)) : AbortsOnError (x >>= f) := by
  intro c e c' h
  rcases hrun : x c with ⟨e' | a, c₁⟩
  · rw [run_bind_of_error hrun] at h
    cases h
    exact hx hrun
  · rw [run_bind_of_ok hrun] at h
    exact hf a h

/-- Where the transaction goes on after a `try`, nothing was swallowed. -/
theorem run_of_attempt {x : Sess W E α} (hx : AbortsOnError x) {c : Conn W} {w : W}
    (h : (x c).2 = ⟨w, false⟩) : ∃ a, x c = (.ok a, ⟨w, false⟩) := by
  rcases hrun : x c with ⟨e | a, c'⟩
  · rw [hrun] at h
    obtain rfl : c' = ⟨w, false⟩ := h
    have habort : false = true := hx hrun
    cases habort
  · rw [hrun] at h
    obtain rfl : c' = ⟨w, false⟩ := h
    exact ⟨a, rfl⟩

theorem call_of_ok {x : Sess W E α} {w w' : W} {a : α} (h : x ⟨w, false⟩ = (.ok a, ⟨w', false⟩)) :
    x.call w = (.ok a, w') := by simp [call, h]

theorem call_of_aborted {x : Sess W E α} {w w' : W} {a : α}
    (h : x ⟨w, false⟩ = (.ok a, ⟨w', true⟩)) : x.call w = (.ok a, w) := by simp [call, h]

theorem call_of_error {x : Sess W E α} {w : W} {e : E} {c : Conn W}
    (h : x ⟨w, false⟩ = (.error e, c)) : x.call w = (.error e, w) := by simp [call, h]

/-- **Transaction rule.** A call either committed the state its service ended
in, or left the state as it was. -/
theorem call_cases (x : Sess W E α) (w : W) :
    (∃ a w', x ⟨w, false⟩ = (.ok a, ⟨w', false⟩) ∧ x.call w = (.ok a, w')) ∨
      (x.call w).2 = w := by
  rcases h : x ⟨w, false⟩ with ⟨e | a, ⟨w', ab⟩⟩
  · exact Or.inr (by rw [call_of_error h])
  · cases ab with
    | true => exact Or.inr (by rw [call_of_aborted h])
    | false => exact Or.inl ⟨a, w', rfl, call_of_ok h⟩

end Sess

/-! ## Histories of calls -/

/-- The states that allowed calls reach from `w₀`, each call one step. -/
inductive Calls {Op W : Type} (step : Op → W → W) (allowed : W → Op → Prop) (w₀ : W) : W → Prop
  | start : Calls step allowed w₀ w₀
  | call {w : W} (op : Op) : Calls step allowed w₀ w → allowed w op →
      Calls step allowed w₀ (step op w)

namespace Calls

variable {Op W : Type} {step : Op → W → W} {allowed : W → Op → Prop} {w₀ w : W}

/-- **Invariant rule.** -/
theorem invariant {I : W → Prop} (h : Calls step allowed w₀ w) (h₀ : I w₀)
    (hstep : ∀ (w : W) (op : Op), Calls step allowed w₀ w → allowed w op → I w → I (step op w)) :
    I w := by
  induction h with
  | start => exact h₀
  | call op hw hop ih => exact hstep _ op hw hop ih

/-- A history may be continued by another. -/
theorem trans {w₁ : W} (h : Calls step allowed w₀ w₁) (h' : Calls step allowed w₁ w) :
    Calls step allowed w₀ w := by
  induction h' with
  | start => exact h
  | call op _ hop ih => exact .call op ih hop

end Calls

end Txn
