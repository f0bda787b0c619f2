import WmsDu.Txn.Pool

/-!
# Statements that read or write

A signature for services that only read queries and write records they computed
from what they saw. A write locks what guards its records, so the locks a
transaction holds are those of its log, and assertions about a running
transaction are about the committed state and its log alone.
-/

namespace Txn

variable {W L U E α β Op : Type}

/-- What the records of a log do, and the locks that guard them. -/
class RedoLog (U : Type) (W L : outParam Type) where
  apply : U → W → W
  guards : U → List L

/-- A statement reads, or computes its answer and its records from what it
sees. -/
inductive Stmt (W U E : Type) : Type → Type 1
  | read {α : Type} (q : W → α) : Stmt W U E α
  | write {α : Type} (f : W → Except E (α × List U)) : Stmt W U E α

namespace Stmt

def exec : Stmt W U E α → W → Except E (α × List U)
  | .read q, w => .ok (q w, [])
  | .write f, w => f w

/-- The records a statement would write. -/
def writes (s : Stmt W U E α) (w : W) : List U :=
  match s.exec w with
  | .ok (_, us) => us
  | .error _ => []

theorem writes_of_exec {s : Stmt W U E α} {w : W} {a : α} {us : List U}
    (h : s.exec w = .ok (a, us)) : s.writes w = us := by
  rw [writes, h]

/-- The statement with its errors rewritten. -/
def mapErr (f : E → E) : Stmt W U E α → Stmt W U E α
  | .read q => .read q
  | .write g => .write fun w => (g w).mapError f

theorem exec_mapErr_ok {f : E → E} {s : Stmt W U E α} {w : W} {r : α × List U} :
    (s.mapErr f).exec w = .ok r ↔ s.exec w = .ok r := by
  cases s with
  | read q => rfl
  | write g =>
      show (g w).mapError f = .ok r ↔ g w = .ok r
      cases g w with
      | error e => exact iff_of_false nofun nofun
      | ok a => rfl

theorem writes_mapErr {f : E → E} {s : Stmt W U E α} {w : W} :
    (s.mapErr f).writes w = s.writes w := by
  cases hs : s.exec w with
  | ok r => rw [writes_of_exec hs, writes_of_exec (exec_mapErr_ok.mpr hs)]
  | error e =>
      unfold writes
      rw [hs]
      split
      · rename_i h
        rw [exec_mapErr_ok.mp h] at hs
        cases hs
      · rfl

end Stmt

/-- The locks that guard the records of a log. -/
def guardsOf [RedoLog U W L] (log : List U) : List L := log.flatMap RedoLog.guards

instance [RedoLog U W L] : Database (Stmt W U E) W L U E where
  locks s w := guardsOf (s.writes w)
  exec := Stmt.exec
  apply := RedoLog.apply

theorem mem_guardsOf [RedoLog U W L] {log : List U} {l : L} :
    l ∈ guardsOf log ↔ ∃ u ∈ log, l ∈ RedoLog.guards u := List.mem_flatMap

theorem guardsOf_append [RedoLog U W L] (log log' : List U) :
    guardsOf (log ++ log') = guardsOf log ++ guardsOf log' := List.flatMap_append

/-- Redo a log, oldest record first. -/
def redo [RedoLog U W L] (log : List U) (w : W) : W := log.foldl (fun w u => RedoLog.apply u w) w

section Redo
variable [RedoLog U W L]

@[simp] theorem redo_nil (w : W) : redo ([] : List U) w = w := rfl

@[simp] theorem redo_cons (u : U) (log : List U) (w : W) :
    redo (u :: log) w = redo log (RedoLog.apply u w) := rfl

theorem redo_append (log log' : List U) (w : W) : redo (log ++ log') w = redo log' (redo log w) :=
  List.foldl_append

theorem replay_stmt (log : List U) (w : W) : replay (Stmt W U E) log w = redo log w := rfl

/-- What every record of a log preserves, the log preserves. -/
theorem redo_preserves {I : W → Prop} {log : List U} {w : W}
    (h : ∀ u ∈ log, ∀ w, I w → I (RedoLog.apply u w)) (hw : I w) : I (redo log w) := by
  induction log generalizing w with
  | nil => exact hw
  | cons u log ih =>
      exact ih (fun v hv => h v (List.mem_cons_of_mem _ hv)) (h u List.mem_cons_self w hw)

/-- A reading that no record of a log changes is unchanged by the log. -/
theorem redo_frame {γ : Type} {f : W → γ} {log : List U} {w : W}
    (h : ∀ u ∈ log, ∀ w, f (RedoLog.apply u w) = f w) : f (redo log w) = f w :=
  redo_preserves (I := fun w' => f w' = f w) (fun u hu w' hw' => (h u hu w').trans hw') rfl

end Redo

/-! ## Programs -/

namespace Prog

variable {S : Type → Type 1}

def read (q : W → α) : Prog (Stmt W U E) E α := Prog.exec (.read q)

def write (f : W → Except E (α × List U)) : Prog (Stmt W U E) E α := Prog.exec (.write f)

/-- A write of records that violates nothing. -/
def record (f : W → List U) : Prog (Stmt W U E) E Unit := write fun w => .ok ((), f w)

/-- Raise unless the condition holds. -/
def require (c : Prop) [Decidable c] (e : E) : Prog S E Unit := if c then pure () else Prog.raise e

/-- The value of a read that must find its row. -/
def requireSome (o : Option α) (e : E) : Prog S E α :=
  match o with
  | some a => pure a
  | none => Prog.raise e

/-- The value of a computation that can fail. -/
def ofExcept : Except E α → Prog S E α
  | .ok a => pure a
  | .error e => Prog.raise e

/-- Rewrite the errors of a program, its own and those of its statements. -/
def mapErr (f : E → E) : Prog (Stmt W U E) E α → Prog (Stmt W U E) E α
  | .done a => .done a
  | .raise e => .raise (f e)
  | .stmt s k => .stmt (s.mapErr f) (fun b => (k b).mapErr f)

section Run
variable {w w' : W}

theorem run_mapErr_ok [RedoLog U W L] {f : E → E} {x : Prog (Stmt W U E) E α} {r : α × W} :
    (x.mapErr f).run w = .ok r ↔ x.run w = .ok r := by
  induction x generalizing w with
  | done a => rfl
  | raise e => simp [mapErr]
  | @stmt β s k ih =>
      show (Prog.exec (s.mapErr f) >>= fun b => (k b).mapErr f).run w = .ok r ↔
        (Prog.exec s >>= k).run w = .ok r
      rw [run_bind_ok, run_bind_ok]
      refine exists_congr fun b => exists_congr fun w₁ => and_congr ?_ (ih b)
      rw [run_exec_ok, run_exec_ok]
      exact exists_congr fun us => and_congr_left' Stmt.exec_mapErr_ok

@[simp] theorem run_read [RedoLog U W L] (q : W → α) :
    (read q : Prog (Stmt W U E) E α).run w = .ok (q w, w) := rfl

theorem run_write_ok [RedoLog U W L] {f : W → Except E (α × List U)} {a : α} :
    (write f).run w = .ok (a, w') ↔ ∃ us, f w = .ok (a, us) ∧ w' = redo us w := run_exec_ok

variable [Database S W L U E]

theorem run_require_ok {c : Prop} [Decidable c] {e : E} {u : Unit} :
    (require c e : Prog S E Unit).run w = .ok (u, w') ↔ c ∧ w = w' := by
  unfold require
  split
  · simp [*]
  · simp [*]

theorem run_requireSome_ok {o : Option α} {e : E} {a : α} :
    (requireSome o e : Prog S E α).run w = .ok (a, w') ↔ o = some a ∧ w = w' := by
  cases o with
  | none => simp [requireSome]
  | some b => simp [requireSome]

theorem run_ofExcept_ok {r : Except E α} {a : α} :
    (ofExcept r : Prog S E α).run w = .ok (a, w') ↔ r = .ok a ∧ w = w' := by
  cases r with
  | error e => simp [ofExcept]
  | ok b => simp [ofExcept]

end Run

end Prog

/-! ## What a program can write -/

namespace Prog

/-- Every record the program can write satisfies `K`, with the state its
statement saw. -/
def Writes (K : W → U → Prop) (x : Prog (Stmt W U E) E α) : Prop :=
  x.Every fun s => ∀ w, ∀ u ∈ s.writes w, K w u

section Writes
variable {K K' : W → U → Prop} {x : Prog (Stmt W U E) E α}

theorem writes_pure (a : α) : (pure a : Prog (Stmt W U E) E α).Writes K := trivial

theorem writes_raise (e : E) : (Prog.raise e : Prog (Stmt W U E) E α).Writes K := trivial

theorem writes_bind {y : Prog (Stmt W U E) E β} {f : β → Prog (Stmt W U E) E α}
    (hy : y.Writes K) (hf : ∀ b, (f b).Writes K) : (y >>= f).Writes K := every_bind hy hf

theorem writes_ite {c : Prop} [Decidable c] {y : Prog (Stmt W U E) E α} (hx : x.Writes K)
    (hy : y.Writes K) : (if c then x else y).Writes K := every_ite hx hy

theorem writes_mapRaise {f : E → E} (hx : x.Writes K) : (x.mapRaise f).Writes K :=
  every_mapRaise hx

theorem writes_mapErr {f : E → E} (hx : x.Writes K) : (x.mapErr f).Writes K := by
  induction x with
  | done a => trivial
  | raise e => trivial
  | stmt s k ih =>
      refine ⟨fun w u hu => hx.1 w u ?_, fun b => ih b (hx.2 b)⟩
      rw [← Stmt.writes_mapErr (f := f)]
      exact hu

theorem writes_read (q : W → α) : (read q : Prog (Stmt W U E) E α).Writes K :=
  every_exec fun _ _ hu => by cases hu

theorem writes_write {f : W → Except E (α × List U)}
    (h : ∀ w a us, f w = .ok (a, us) → ∀ u ∈ us, K w u) : (write f).Writes K := by
  refine every_exec fun w u hu => ?_
  unfold Stmt.writes at hu
  split at hu
  · rename_i a us hs
    exact h w a us hs u hu
  · cases hu

theorem writes_record {f : W → List U} (h : ∀ w, ∀ u ∈ f w, K w u) :
    (record f : Prog (Stmt W U E) E Unit).Writes K :=
  writes_write fun w a us hs u hu => by cases hs; exact h w u hu

theorem writes_require (c : Prop) [Decidable c] (e : E) :
    (require c e : Prog (Stmt W U E) E Unit).Writes K :=
  every_ite (every_pure _) (every_raise _)

theorem writes_requireSome (o : Option α) (e : E) :
    (requireSome o e : Prog (Stmt W U E) E α).Writes K := by
  cases o with
  | none => exact every_raise _
  | some a => exact every_pure a

theorem writes_ofExcept (r : Except E α) : (ofExcept r : Prog (Stmt W U E) E α).Writes K := by
  cases r with
  | error e => exact every_raise _
  | ok a => exact every_pure a

theorem Writes.mono (hx : x.Writes K) (h : ∀ w u, K w u → K' w u) : x.Writes K' :=
  Every.mono (fun _ hs w u hu => h w u (hs w u hu)) hx

/-- **Record rule.** What every record a program can write preserves, its runs
preserve. -/
theorem Writes.run_preserves [RedoLog U W L] {I : W → Prop} (hx : x.Writes K)
    (hI : ∀ w us, (∀ u ∈ us, K w u) → I w → I (redo us w))
    {w w' : W} {a : α} (h : x.run w = .ok (a, w')) (hw : I w) : I w' := by
  refine Every.run_preserves hx (fun s v b us hs he hv => ?_) h hw
  refine hI v us (fun u hu => hs v u ?_) hv
  rw [Stmt.writes_of_exec he]
  exact hu

end Writes

end Prog

/-! ## Terms on what is written -/

/-- Terms that every record has to fit the state its statement sees. -/
def Terms.fitting (fit : W → U → Prop) (together : Op → Op → Prop)
    (together_symm : ∀ a b, together a b → together b a) : Terms Op (Stmt W U E) W where
  issue s w := ∀ u ∈ s.writes w, fit w u
  together := together
  together_symm := together_symm

/-- The setting of a call under such terms. -/
def Setting.fitting (fit : W → U → Prop) (rely : List L → W → W → Prop) :
    Setting (Stmt W U E) W L where
  issue s w := ∀ u ∈ s.writes w, fit w u
  rely := rely

/-! ## Assertions -/

section Rules
variable [RedoLog U W L]

/-- A seat of a transaction of such statements: it holds the locks of its log,
and `P` holds of the committed state and the log. -/
def Holds (P : W → List U → Prop) (c : Seat W L U) : Prop :=
  c.held = guardsOf c.log ∧ P c.shared c.log

/-- An assertion that the commits of others leave true. -/
def Steady (T : Setting (Stmt W U E) W L) (P : W → List U → Prop) : Prop :=
  ∀ w w' log, P w log → T.rely (guardsOf log) w w' → P w' log

variable {T : Setting (Stmt W U E) W L} {P P' : W → List U → Prop} {Q : α → W → List U → Prop}
  {x : Prog (Stmt W U E) E α}

theorem Steady.stable (h : Steady T P) : Stable U T (Holds P) := by
  rintro c w ⟨hheld, hc⟩ hw
  exact ⟨hheld, h _ _ _ hc (hheld ▸ hw)⟩

theorem Steady.and (h : Steady T P) (h' : Steady T P') : Steady T fun w log => P w log ∧ P' w log :=
  fun w w' log hP hw => ⟨h w w' log hP.1 hw, h' w w' log hP.2 hw⟩

theorem Steady.fact {q : Prop} (h : Steady T P) : Steady T fun w log => q ∧ P w log :=
  fun w w' log hP hw => ⟨hP.1, h w w' log hP.2 hw⟩

private theorem after_stmt {c : Seat W L U} {s : Stmt W U E β} {b : β} {us : List U}
    (hc : c.held = guardsOf c.log) (hs : s.exec (redo c.log c.shared) = .ok (b, us)) :
    c.after s us = ⟨c.shared, c.log ++ us, guardsOf (c.log ++ us)⟩ := by
  have hlocks : Database.locks s (c.view (Stmt W U E)) = guardsOf us :=
    congrArg guardsOf (Stmt.writes_of_exec hs)
  rw [Seat.after, hlocks, hc, guardsOf_append]

namespace Meets

/-- **Reading.** What is read is true of the committed state with one's own
records. -/
theorem read {q : W → α} (hP : Steady T P) (hQ : ∀ a, Steady T (Q a))
    (h : ∀ w log, P w log → Q (q (redo log w)) w log) :
    Meets T (Holds P) (Prog.read q) (fun a => Holds (Q a)) := by
  refine Meets.exec hP.stable (fun a => (hQ a).stable) ?_
  rintro c a us ⟨hheld, hc⟩ - hs
  rw [after_stmt hheld hs]
  cases hs
  rw [List.append_nil]
  exact ⟨rfl, h _ _ hc⟩

/-- **Writing.** What is written fits the committed state with one's own
records. -/
theorem write {fit : W → U → Prop} {rely : List L → W → W → Prop}
    {f : W → Except E (α × List U)} (hP : Steady (E := E) (.fitting fit rely) P)
    (hQ : ∀ a, Steady (E := E) (.fitting fit rely) (Q a))
    (h : ∀ w log a us, P w log → (∀ u ∈ us, fit (redo log w) u) →
      f (redo log w) = .ok (a, us) → Q a w (log ++ us)) :
    Meets (.fitting fit rely) (Holds P) (Prog.write f) (fun a => Holds (Q a)) := by
  refine Meets.exec hP.stable (fun a => (hQ a).stable) ?_
  rintro c a us ⟨hheld, hc⟩ hissue hs
  have hs : f (redo c.log c.shared) = .ok (a, us) := hs
  rw [after_stmt (s := .write f) hheld hs]
  refine ⟨rfl, h _ _ _ _ hc (fun u hu => hissue u ?_) hs⟩
  rw [Seat.view, replay_stmt, Stmt.writes_of_exec (s := .write f) hs]
  exact hu

theorem ret {a : α} (hQ : Steady T (Q a)) :
    Meets T (Holds (Q a)) (Pure.pure a : Prog (Stmt W U E) E α) (fun a => Holds (Q a)) :=
  Meets.pure (Q := fun b => Holds (Q b)) hQ.stable

/-- A condition that was checked. -/
theorem require {c : Prop} [Decidable c] {e : E} (hP : Steady T P) :
    Meets T (Holds P) (Prog.require c e : Prog (Stmt W U E) E Unit)
      (fun _ => Holds fun w log => c ∧ P w log) := by
  unfold Prog.require
  split
  · rename_i hc
    exact Meets.consequence (fun _ hs => hs) (Meets.pure (Q := fun _ => Holds P) hP.stable)
      fun _ _ hs => ⟨hs.1, hc, hs.2⟩
  · exact Meets.raise

theorem requireSome {o : Option α} {e : E} (hP : Steady T P) :
    Meets T (Holds P) (Prog.requireSome o e : Prog (Stmt W U E) E α)
      (fun a => Holds fun w log => o = some a ∧ P w log) := by
  cases o with
  | none => exact Meets.raise
  | some a =>
      refine Meets.consequence (P := Holds fun w log => some a = some a ∧ P w log)
        (fun _ hs => ⟨hs.1, rfl, hs.2⟩) (Meets.ret (Q := fun b w log => some a = some b ∧ P w log) ?_)
        fun _ _ hs => hs
      exact hP.fact

theorem ofExcept {r : Except E α} (hP : Steady T P) :
    Meets T (Holds P) (Prog.ofExcept r : Prog (Stmt W U E) E α)
      (fun a => Holds fun w log => r = .ok a ∧ P w log) := by
  cases r with
  | error e => exact Meets.raise
  | ok a =>
      refine Meets.consequence (P := Holds fun w log => (Except.ok a : Except E α) = .ok a ∧ P w log)
        (fun _ hs => ⟨hs.1, rfl, hs.2⟩)
        (Meets.ret (Q := fun b w log => (Except.ok a : Except E α) = .ok b ∧ P w log) ?_)
        fun _ _ hs => hs
      exact hP.fact

/-- **Record rule.** An assertion that every record the program can write
keeps. -/
theorem writes {K : W → U → Prop} (hx : x.Writes K) (hP : Steady T P)
    (h : ∀ w log us, P w log → (∀ u ∈ us, K (redo log w) u) → P w (log ++ us)) :
    Meets T (Holds P) x (fun _ => Holds P) := by
  refine Meets.frame hx hP.stable ?_
  rintro β s c b us ⟨hheld, hc⟩ hs - he
  rw [after_stmt hheld he]
  refine ⟨rfl, h _ _ _ hc fun u hu => hs _ u ?_⟩
  rw [Stmt.writes_of_exec (w := redo c.log c.shared) he]
  exact hu

/-- A program that writes nothing keeps what is known. -/
theorem silent (hx : x.Writes fun _ _ => False) (hP : Steady T P) :
    Meets T (Holds P) x (fun _ => Holds P) := by
  refine Meets.writes hx hP fun w log us hw hus => ?_
  obtain rfl : us = [] := List.eq_nil_iff_forall_not_mem.mpr hus
  rw [List.append_nil]
  exact hw

/-- Renaming errors leaves the finished runs alone. -/
theorem mapErr {fit : W → U → Prop} {rely : List L → W → W → Prop} {f : E → E}
    {P : Seat W L U → Prop} {R : α → Seat W L U → Prop} (hx : Meets (.fitting fit rely) P x R) :
    Meets (.fitting fit rely) P (x.mapErr f) R := by
  suffices hs : ∀ {y : Prog (Stmt W U E) E α} {c d : Seat W L U},
      Under (.fitting fit rely) (x.mapErr f) c y d →
      ∃ y', y = y'.mapErr f ∧ Under (.fitting fit rely) x c y' d by
    intro c a d hc h
    obtain ⟨y', hy, hrun⟩ := hs h
    cases y' with
    | done b => cases hy; exact hx c a d hc hrun
    | raise e => cases hy
    | stmt s k => cases hy
  intro y c d h
  generalize hz : x.mapErr f = z at h
  induction h with
  | refl => exact ⟨x, hz.symm, .refl _ _⟩
  | moved _ hw ih =>
      obtain ⟨y', hy, hrun⟩ := ih hz
      exact ⟨y', hy, .moved hrun hw⟩
  | @stmt _ _ _ d s k b us _ hi hs ih =>
      obtain ⟨y', hy, hrun⟩ := ih hz
      cases y' with
      | done a => cases hy
      | raise e => cases hy
      | stmt s' k' =>
          cases hy
          have hexec : s'.exec (redo d.log d.shared) = .ok (b, us) := Stmt.exec_mapErr_ok.mp hs
          have hseat : d.after (s'.mapErr f) us = d.after s' us := by
            show Seat.mk _ _ (d.held ++ guardsOf _) = Seat.mk _ _ (d.held ++ guardsOf _)
            rw [Stmt.writes_mapErr]
          refine ⟨k' b, rfl, ?_⟩
          rw [hseat]
          refine .stmt hrun (fun u hu => hi u ?_) hexec
          rw [Stmt.writes_mapErr]
          exact hu

/-- A precondition may carry a fact that is not about the seat. -/
theorem fact {q : Prop} {R : α → Seat W L U → Prop} (h : q → Meets T (Holds P) x R) :
    Meets T (Holds fun w log => q ∧ P w log) x R :=
  fun c a d hc hrun => h hc.2.1 c a d ⟨hc.1, hc.2.2⟩ hrun

/-- A precondition that names a value may be used for each value. -/
theorem each {P : β → W → List U → Prop} {R : α → Seat W L U → Prop}
    (h : ∀ b, Meets T (Holds (P b)) x R) : Meets T (Holds fun w log => ∃ b, P b w log) x R := by
  rintro c a d ⟨hheld, b, hc⟩ hrun
  exact h b c a d ⟨hheld, hc⟩ hrun

/-- Weaken what is known. -/
theorem weaken {R : α → Seat W L U → Prop} (hP : ∀ w log, P' w log → P w log)
    (h : Meets T (Holds P) x R) : Meets T (Holds P') x R :=
  h.consequence (fun _ hc => ⟨hc.1, hP _ _ hc.2⟩) fun _ _ hc => hc

end Meets

end Rules

end Txn
