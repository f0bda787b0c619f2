import Mathlib.Data.List.Basic

/-!
# Transaction programs

A service that talks to a database is a program over SQL statements: it
issues one statement, reads the answer and decides what to issue next. The
program type below keeps that shape and nothing else, so one definition of a
service serves both readings of it:

* `Prog.run` is the serial reading: the statements run one after another on
  one database, and a raised error rolls everything back;
* `Txn.Pool` (in its own module) interleaves the statements of many programs.

A statement does not return a new database but the *redo records* of its
writes. The serial reading applies them at once; the interleaved reading
keeps them in the transaction's log until it commits.
-/

namespace Txn

/-- What a signature `S` of statements means on databases `W`: the row locks
a statement takes on the rows it can see, its answer with the redo records
of its writes (or the error it ends in), and the effect of one record. -/
class Database (S : Type → Type 1) (W L U E : outParam Type) where
  locks {β : Type} : S β → W → List L
  exec {β : Type} : S β → W → Except E (β × List U)
  apply : U → W → W

/-- A program over statements that ends in a value or in an error. -/
inductive Prog (S : Type → Type 1) (E α : Type) : Type 1
  | done (a : α) : Prog S E α
  | raise (e : E) : Prog S E α
  | stmt {β : Type} (s : S β) (k : β → Prog S E α) : Prog S E α

variable {S : Type → Type 1} {W L U E α β γ : Type}

section Replay
variable [db : Database S W L U E]

/-- Redo a log, oldest record first. -/
def replay (S : Type → Type 1) {W L U E : Type} [Database S W L U E] (log : List U) (w : W) : W :=
  log.foldl (fun w u => Database.apply S u w) w

@[simp] theorem replay_nil (w : W) : replay S ([] : List U) w = w := rfl

@[simp] theorem replay_cons (u : U) (log : List U) (w : W) :
    replay S (u :: log) w = replay S log (Database.apply S u w) := rfl

@[simp] theorem replay_append (log₁ log₂ : List U) (w : W) :
    replay S (log₁ ++ log₂) w = replay S log₂ (replay S log₁ w) := by
  simp [replay, List.foldl_append]

/-- What every record of a log preserves, the log preserves. -/
theorem replay_preserves {p : U → Prop} {I : W → Prop}
    (hI : ∀ u w, p u → I w → I (Database.apply S u w)) :
    ∀ (log : List U) (w : W), (∀ u ∈ log, p u) → I w → I (replay S log w) := by
  intro log
  induction log with
  | nil => intro w _ hw; exact hw
  | cons u log ih =>
      intro w hp hw
      rw [replay_cons]
      exact ih _ (fun v hv => hp v (List.mem_cons_of_mem _ hv))
        (hI u w (hp u List.mem_cons_self) hw)

/-- A reading that no record of a log changes is unchanged by the log. -/
theorem replay_frame {p : U → Prop} {f : W → γ}
    (hf : ∀ u w, p u → f (Database.apply S u w) = f w)
    (log : List U) (w : W) (hp : ∀ u ∈ log, p u) : f (replay S log w) = f w :=
  replay_preserves (I := fun w' => f w' = f w)
    (fun u w' hu hw' => (hf u w' hu).trans hw') log w hp rfl

end Replay

namespace Prog

/-- Sequencing: run `x`, then the program its value selects. -/
def bind : Prog S E α → (α → Prog S E β) → Prog S E β
  | .done a, f => f a
  | .raise e, _ => .raise e
  | .stmt s k, f => .stmt s (fun b => (k b).bind f)

instance : Monad (Prog S E) where
  pure := .done
  bind := Prog.bind

/-- A program of one statement. -/
def exec (s : S β) : Prog S E β := .stmt s .done

/-- Rewrite the errors a program raises itself; the errors of its statements
pass unchanged. -/
def mapRaise (f : E → E) : Prog S E α → Prog S E α
  | .done a => .done a
  | .raise e => .raise (f e)
  | .stmt s k => .stmt s (fun b => (k b).mapRaise f)

@[simp] theorem bind_done (a : α) (f : α → Prog S E β) :
    (Prog.done a : Prog S E α) >>= f = f a := rfl

@[simp] theorem bind_raise (e : E) (f : α → Prog S E β) :
    (Prog.raise e : Prog S E α) >>= f = .raise e := rfl

@[simp] theorem bind_stmt (s : S γ) (k : γ → Prog S E α) (f : α → Prog S E β) :
    (Prog.stmt s k) >>= f = .stmt s (fun b => k b >>= f) := rfl

private theorem id_map_eq (x : Prog S E α) : id <$> x = x := by
  induction x with
  | done a => rfl
  | raise e => rfl
  | stmt s k ih => exact congrArg (Prog.stmt s) (funext ih)

private theorem bind_assoc_eq (x : Prog S E α) (f : α → Prog S E β) (g : β → Prog S E γ) :
    x >>= f >>= g = x >>= fun a => f a >>= g := by
  induction x with
  | done a => rfl
  | raise e => rfl
  | stmt s k ih => exact congrArg (Prog.stmt s) (funext ih)

instance : LawfulMonad (Prog S E) :=
  LawfulMonad.mk' _ id_map_eq (fun _ _ => rfl) bind_assoc_eq

/-! ## The serial reading -/

section Run
variable [Database S W L U E]

/-- Run a program alone: each statement sees the writes of the ones before
it, and an error is all that is left of a program that raises. -/
def run : Prog S E α → W → Except E (α × W)
  | .done a, w => .ok (a, w)
  | .raise e, _ => .error e
  | .stmt s k, w =>
      match Database.exec s w with
      | .error e => .error e
      | .ok (b, us) => (k b).run (replay S us w)

@[simp] theorem run_pure (a : α) (w : W) :
    (pure a : Prog S E α).run w = .ok (a, w) := rfl

@[simp] theorem run_done (a : α) (w : W) :
    (Prog.done a : Prog S E α).run w = .ok (a, w) := rfl

@[simp] theorem run_raise (e : E) (w : W) :
    (Prog.raise e : Prog S E α).run w = .error e := rfl

/-- **Sequencing law.** Running `x >>= f` is running `x` and then `f`. -/
theorem run_bind (x : Prog S E α) (f : α → Prog S E β) (w : W) :
    (x >>= f).run w =
      match x.run w with
      | .error e => .error e
      | .ok (a, w') => (f a).run w' := by
  induction x generalizing w with
  | done a => rfl
  | raise e => rfl
  | stmt s k ih =>
      rw [bind_stmt]
      simp only [run]
      cases Database.exec s w with
      | error e => rfl
      | ok r => exact ih r.1 _

/-- A sequence that succeeded went through an intermediate state. -/
theorem run_bind_ok {x : Prog S E α} {f : α → Prog S E β} {w w' : W} {b : β} :
    (x >>= f).run w = .ok (b, w') ↔
      ∃ a w₁, x.run w = .ok (a, w₁) ∧ (f a).run w₁ = .ok (b, w') := by
  rw [run_bind]
  cases h : x.run w with
  | error e => simp
  | ok r =>
      obtain ⟨a, w₁⟩ := r
      simp

/-- Continue a run whose first part is known. -/
theorem run_bind_of_ok {x : Prog S E α} {f : α → Prog S E β} {w w₁ : W} {a : α}
    (h : x.run w = .ok (a, w₁)) : (x >>= f).run w = (f a).run w₁ := by
  rw [run_bind, h]

/-- An error of the first part is the error of the whole. -/
theorem run_bind_of_error {x : Prog S E α} {f : α → Prog S E β} {w : W} {e : E}
    (h : x.run w = .error e) : (x >>= f).run w = .error e := by
  rw [run_bind, h]

theorem run_exec (s : S β) (w : W) :
    (exec s).run w =
      match Database.exec s w with
      | .error e => .error e
      | .ok (b, us) => .ok (b, replay S us w) := by
  simp only [exec, run]

/-- A statement that succeeded applied its own redo records. -/
theorem run_exec_ok {s : S β} {w w' : W} {b : β} :
    (exec s).run w = .ok (b, w') ↔
      ∃ us, Database.exec s w = .ok (b, us) ∧ w' = replay S us w := by
  rw [run_exec]
  cases h : Database.exec s w with
  | error e => simp
  | ok r =>
      obtain ⟨a, us⟩ := r
      simp only [Except.ok.injEq, Prod.mk.injEq]
      constructor
      · rintro ⟨rfl, rfl⟩
        exact ⟨us, ⟨rfl, rfl⟩, rfl⟩
      · rintro ⟨us', ⟨rfl, rfl⟩, rfl⟩
        exact ⟨rfl, rfl⟩

/-- Renaming errors leaves the successful runs alone. -/
theorem run_mapRaise_ok {f : E → E} {x : Prog S E α} {w : W} {r : α × W} :
    (x.mapRaise f).run w = .ok r ↔ x.run w = .ok r := by
  induction x generalizing w with
  | done a => rfl
  | raise e => simp [mapRaise]
  | stmt s k ih =>
      simp only [mapRaise, run]
      cases Database.exec s w with
      | error e => rfl
      | ok r => exact ih r.1

/-- A program run to completion, rolled back when it raises. -/
def commit (x : Prog S E α) (w : W) : W :=
  match x.run w with
  | .error _ => w
  | .ok (_, w') => w'

theorem commit_of_ok {x : Prog S E α} {w w' : W} {a : α}
    (h : x.run w = .ok (a, w')) : x.commit w = w' := by
  rw [commit, h]

theorem commit_of_error {x : Prog S E α} {w : W} {e : E}
    (h : x.run w = .error e) : x.commit w = w := by
  rw [commit, h]

/-- **Rollback rule.** What the successful runs of `x` preserve, `x` preserves. -/
theorem commit_preserves {I : W → Prop} {x : Prog S E α} {w : W}
    (h : ∀ a w', x.run w = .ok (a, w') → I w → I w') (hw : I w) : I (x.commit w) := by
  cases hx : x.run w with
  | error e => rw [commit_of_error hx]; exact hw
  | ok r => rw [commit_of_ok hx]; exact h _ _ hx hw

/-- **Statement rule.** A state property that every statement preserves is
preserved by every program. -/
theorem run_preserves {I : W → Prop}
    (hI : ∀ {β : Type} (s : S β) (w : W) (b : β) (us : List U),
      Database.exec s w = .ok (b, us) → I w → I (replay S us w))
    {x : Prog S E α} {w w' : W} {a : α} (h : x.run w = .ok (a, w')) (hw : I w) : I w' := by
  induction x generalizing w with
  | done b =>
      obtain ⟨-, rfl⟩ : b = a ∧ w = w' := by simpa using h
      exact hw
  | raise e => simp at h
  | stmt s k ih =>
      rw [run] at h
      cases hs : Database.exec s w with
      | error e => rw [hs] at h; cases h
      | ok r =>
          rw [hs] at h
          exact ih r.1 h (hI s w r.1 r.2 hs hw)

end Run

/-! ## Which statements a program can issue -/

/-- Every statement the program can reach satisfies `Q`. -/
def Every (Q : ∀ {β : Type}, S β → Prop) : Prog S E α → Prop
  | .done _ => True
  | .raise _ => True
  | .stmt s k => Q s ∧ ∀ b, (k b).Every Q

section Every
variable {Q : ∀ {β : Type}, S β → Prop}

@[simp] theorem every_pure (a : α) : (pure a : Prog S E α).Every Q := trivial

@[simp] theorem every_raise (e : E) : (Prog.raise e : Prog S E α).Every Q := trivial

theorem every_exec {s : S β} (hs : Q s) : (exec s : Prog S E β).Every Q :=
  ⟨hs, fun _ => trivial⟩

theorem every_bind {x : Prog S E α} {f : α → Prog S E β}
    (hx : x.Every Q) (hf : ∀ a, (f a).Every Q) : (x >>= f).Every Q := by
  induction x with
  | done a => exact hf a
  | raise e => trivial
  | stmt s k ih => exact ⟨hx.1, fun b => ih b (hx.2 b)⟩

theorem every_ite {c : Prop} [Decidable c] {x y : Prog S E α}
    (hx : x.Every Q) (hy : y.Every Q) : (if c then x else y).Every Q := by
  split
  · exact hx
  · exact hy

theorem every_mapRaise {f : E → E} {x : Prog S E α} (hx : x.Every Q) :
    (x.mapRaise f).Every Q := by
  induction x with
  | done a => trivial
  | raise e => trivial
  | stmt s k ih => exact ⟨hx.1, fun b => ih b (hx.2 b)⟩

theorem Every.mono {Q' : ∀ {β : Type}, S β → Prop} (h : ∀ {β : Type} (s : S β), Q s → Q' s)
    {x : Prog S E α} (hx : x.Every Q) : x.Every Q' := by
  induction x with
  | done a => trivial
  | raise e => trivial
  | stmt s k ih => exact ⟨h s hx.1, fun b => ih b (hx.2 b)⟩

/-- **Frame rule.** A state property that the statements a program can issue
preserve is preserved by every successful run of it. -/
theorem Every.run_preserves [Database S W L U E] {I : W → Prop} {x : Prog S E α}
    (hx : x.Every Q)
    (hI : ∀ {β : Type} (s : S β) (w : W) (b : β) (us : List U), Q s →
      Database.exec s w = .ok (b, us) → I w → I (replay S us w))
    {w w' : W} {a : α} (h : x.run w = .ok (a, w')) (hw : I w) : I w' := by
  induction x generalizing w with
  | done b =>
      obtain ⟨-, rfl⟩ : b = a ∧ w = w' := by simpa using h
      exact hw
  | raise e => simp at h
  | stmt s k ih =>
      rw [run] at h
      cases hs : Database.exec s w with
      | error e => rw [hs] at h; cases h
      | ok r =>
          rw [hs] at h
          exact ih r.1 (hx.2 r.1) h (hI s w r.1 r.2 hx.1 hs hw)

/-- Frame rule for a reading: what no statement changes, no run changes. -/
theorem Every.run_frame [Database S W L U E] {f : W → γ} {x : Prog S E α} (hx : x.Every Q)
    (hf : ∀ {β : Type} (s : S β) (w : W) (b : β) (us : List U), Q s →
      Database.exec s w = .ok (b, us) → f (replay S us w) = f w)
    {w w' : W} {a : α} (h : x.run w = .ok (a, w')) : f w' = f w :=
  hx.run_preserves (I := fun v => f v = f w)
    (fun s v b us hs hv hw => (hf s v b us hs hv).trans hw) h rfl

end Every

end Prog

end Txn
