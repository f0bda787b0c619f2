import WmsDu.Txn.Prog

/-!
# Programs under interference

A transaction that runs beside others sees their commits between two of its
own statements. `Under` is a run of a program in which the committed state may
move so between statements, as far as a rely relation allows for the locks the
transaction holds; `Meets` are the rules of pre- and postconditions for it.
-/

namespace Txn

variable {S : Type → Type 1} {W L U E α β γ : Type}

/-- What one transaction stands on: the committed state, the redo records of
its own writes and the locks it holds. -/
structure Seat (W L U : Type) where
  shared : W
  log : List U
  held : List L

section Seat
variable [Database S W L U E]

/-- What the next statement of the transaction sees. -/
def Seat.view (S : Type → Type 1) {W L U E : Type} [Database S W L U E] (c : Seat W L U) : W :=
  replay S c.log c.shared

/-- The seat after a statement was answered. -/
def Seat.after (c : Seat W L U) (s : S β) (us : List U) : Seat W L U :=
  ⟨c.shared, c.log ++ us, c.held ++ Database.locks s (c.view S)⟩

/-- The seat after another transaction has committed. -/
def Seat.moved (c : Seat W L U) (w : W) : Seat W L U := { c with shared := w }

/-- A transaction that has just begun. -/
def Seat.fresh (w : W) : Seat W L U := ⟨w, [], []⟩

@[simp] theorem Seat.view_fresh (w : W) : (Seat.fresh w : Seat W L U).view S = w := rfl

theorem Seat.view_after (c : Seat W L U) (s : S β) (us : List U) :
    (c.after s us).view S = replay S us (c.view S) := by
  simp [Seat.view, Seat.after]

end Seat

/-! ## Runs -/

/-- What a run is subject to: the statements that may be issued on a view, and
how others may move the committed state of a transaction holding some locks. -/
structure Setting (S : Type → Type 1) (W L : Type) where
  issue : ∀ {β : Type}, S β → W → Prop
  rely : List L → W → W → Prop

/-- The runs of a program from one seat to another. -/
inductive Under [Database S W L U E] (T : Setting S W L) :
    Prog S E α → Seat W L U → Prog S E α → Seat W L U → Prop
  | refl (x : Prog S E α) (c : Seat W L U) : Under T x c x c
  | moved {x y : Prog S E α} {c d : Seat W L U} {w : W} :
      Under T x c y d → T.rely d.held d.shared w → Under T x c y (d.moved w)
  | stmt {δ : Type} {x : Prog S E α} {c d : Seat W L U} {s : S δ} {k : δ → Prog S E α} {b : δ}
      {us : List U} :
      Under T x c (.stmt s k) d → T.issue s (d.view S) →
      Database.exec s (d.view S) = .ok (b, us) → Under T x c (k b) (d.after s us)

namespace Under
variable [Database S W L U E] {T : Setting S W L}

/-- **Sequencing law.** A run of `x >>= f` is a run of `x`, or one of `x` to
its end and one of `f`. -/
theorem bind_cases {x : Prog S E α} {f : α → Prog S E β} {y : Prog S E β} {c d : Seat W L U}
    (h : Under T (x >>= f) c y d) :
    (∃ x', Under T x c x' d ∧ y = x' >>= f) ∨
      ∃ a e, Under T x c (.done a) e ∧ Under T (f a) e y d := by
  generalize hp : x >>= f = p at h
  induction h with
  | refl y c => exact Or.inl ⟨x, .refl x c, hp.symm⟩
  | moved _ hw ih =>
      rcases ih hp with ⟨x', hx, hy⟩ | ⟨a, e, hx, hf⟩
      · exact Or.inl ⟨x', .moved hx hw, hy⟩
      · exact Or.inr ⟨a, e, hx, .moved hf hw⟩
  | @stmt _ _ _ d s k b us _ hi hs ih =>
      rcases ih hp with ⟨x', hx, hy⟩ | ⟨a, e, hx, hf⟩
      · cases x' with
        | done a =>
            -- the statement is the first of `f a`
            have hfa : Prog.stmt s k = f a := hy
            refine Or.inr ⟨a, d, hx, ?_⟩
            rw [← hfa]
            exact .stmt (.refl _ _) hi hs
        | raise e => cases hy
        | stmt s' k' =>
            cases hy
            exact Or.inl ⟨k' b, .stmt hx hi hs, rfl⟩
      · exact Or.inr ⟨a, e, hx, .stmt hf hi hs⟩

/-- A finished run of a sequence went through an intermediate seat. -/
theorem bind_done {x : Prog S E α} {f : α → Prog S E β} {b : β} {c d : Seat W L U}
    (h : Under T (x >>= f) c (.done b) d) :
    ∃ a e, Under T x c (.done a) e ∧ Under T (f a) e (.done b) d := by
  rcases h.bind_cases with ⟨x', hx, hy⟩ | h
  · cases x' with
    | done a =>
        have hfa : Prog.done b = f a := hy
        refine ⟨a, d, hx, ?_⟩
        rw [← hfa]
        exact .refl _ _
    | raise e => cases hy
    | stmt s k => cases hy
  · exact h

/-- Runs compose. -/
theorem trans {x y z : Prog S E α} {c d e : Seat W L U} (h : Under T x c y d)
    (h' : Under T y d z e) : Under T x c z e := by
  induction h' with
  | refl => exact h
  | moved _ hw ih => exact .moved (ih h) hw
  | stmt _ hi hs ih => exact .stmt (ih h) hi hs

/-- **Seat rule.** What the commits of others and the program's own statements
keep holds of every seat of a run. -/
theorem keeps {I : Seat W L U → Prop} {Q : ∀ {β : Type}, S β → Prop} {x y : Prog S E α}
    {c d : Seat W L U} (h : Under T x c y d) (hx : x.Every Q)
    (hmoved : ∀ c w, I c → T.rely c.held c.shared w → I (c.moved w))
    (hstmt : ∀ {β : Type} (s : S β) (c : Seat W L U) (b : β) (us : List U), I c → Q s →
      T.issue s (c.view S) → Database.exec s (c.view S) = .ok (b, us) → I (c.after s us))
    (hc : I c) : I d ∧ y.Every Q := by
  induction h with
  | refl => exact ⟨hc, hx⟩
  | moved _ hw ih =>
      have hd := ih hx hc
      exact ⟨hmoved _ _ hd.1 hw, hd.2⟩
  | stmt _ hi hs ih =>
      have hd := ih hx hc
      exact ⟨hstmt _ _ _ _ hd.1 hd.2.1 hi hs, hd.2.2 _⟩

end Under

/-! ## Covered logs -/

/-- The locks that guard a write, which a statement takes when it writes. -/
class Guarded (S : Type → Type 1) {W L U E : outParam Type} [Database S W L U E] where
  guards : U → List L
  guards_held {β : Type} {s : S β} {w : W} {b : β} {us : List U} :
    Database.exec s w = .ok (b, us) → ∀ u ∈ us, ∀ l ∈ guards u, l ∈ Database.locks s w

/-- Every write of a transaction is guarded by locks it holds. -/
def Seat.Covered (S : Type → Type 1) {W L U E : Type} [Database S W L U E] [Guarded S]
    (c : Seat W L U) : Prop :=
  ∀ u ∈ c.log, ∀ l ∈ Guarded.guards S u, l ∈ c.held

section Covered
variable [Database S W L U E] [Guarded S] {T : Setting S W L}

theorem Seat.covered_fresh (w : W) : (Seat.fresh w : Seat W L U).Covered S := by
  intro u hu
  cases hu

theorem Seat.Covered.after {c : Seat W L U} (hc : c.Covered S) {s : S β} {b : β} {us : List U}
    (hs : Database.exec s (c.view S) = .ok (b, us)) : (c.after s us).Covered S := by
  intro u hu l hl
  rcases List.mem_append.mp hu with hu | hu
  · exact List.mem_append_left _ (hc u hu l hl)
  · exact List.mem_append_right _ (Guarded.guards_held hs u hu l hl)

theorem Under.covered {x y : Prog S E α} {c d : Seat W L U} (h : Under T x c y d)
    (hc : c.Covered S) : d.Covered S := by
  induction h with
  | refl => exact hc
  | moved _ _ ih => exact ih hc
  | stmt _ _ hs ih => exact (ih hc).after hs

end Covered

/-! ## Pre- and postconditions -/

section Meets
variable [Database S W L U E] {T : Setting S W L}

/-- An assertion that the commits of others leave true. -/
def Stable (U : Type) (T : Setting S W L) (P : Seat W L U → Prop) : Prop :=
  ∀ c w, P c → T.rely c.held c.shared w → P (c.moved w)

/-- Every finished run of `x` from a seat in `P` ends in `Q`. -/
def Meets (T : Setting S W L) (P : Seat W L U → Prop) (x : Prog S E α)
    (Q : α → Seat W L U → Prop) : Prop :=
  ∀ c a d, P c → Under T x c (.done a) d → Q a d

namespace Meets
variable {P P' : Seat W L U → Prop} {Q Q' : α → Seat W L U → Prop} {x : Prog S E α}

theorem bind {M : β → Seat W L U → Prop} {y : Prog S E β} {f : β → Prog S E α}
    (hy : Meets T P y M) (hf : ∀ b, Meets T (M b) (f b) Q) : Meets T P (y >>= f) Q := by
  intro c a d hc h
  obtain ⟨b, e, hyb, hfb⟩ := h.bind_done
  exact hf b e a d (hy c b e hc hyb) hfb

/-- A precondition that names a value may be used for each value. -/
theorem of_forall {P : β → Seat W L U → Prop} (h : ∀ b, Meets T (P b) x Q) :
    Meets T (fun c => ∃ b, P b c) x Q := by
  rintro c a d ⟨b, hc⟩ hrun
  exact h b c a d hc hrun

/-- A precondition may carry a fact that is not about the seat. -/
theorem of_fact {q : Prop} (h : q → Meets T P x Q) : Meets T (fun c => q ∧ P c) x Q :=
  fun c a d hc hrun => h hc.1 c a d hc.2 hrun

theorem consequence (hP : ∀ c, P' c → P c) (hx : Meets T P x Q) (hQ : ∀ a c, Q a c → Q' a c) :
    Meets T P' x Q' :=
  fun c a d hc h => hQ a d (hx c a d (hP c hc) h)

theorem and (hx : Meets T P x Q) (hx' : Meets T P' x Q') :
    Meets T (fun c => P c ∧ P' c) x (fun a c => Q a c ∧ Q' a c) :=
  fun c a d hc h => ⟨hx c a d hc.1 h, hx' c a d hc.2 h⟩

/-- A program that issues no statement only waits. -/
private theorem halted_moves {y : Prog S E α} {c d : Seat W L U}
    (hx : ∀ {β : Type} (s : S β) (k : β → Prog S E α), x ≠ .stmt s k) (hP : Stable U T P)
    (h : Under T x c y d) (hc : P c) : y = x ∧ P d := by
  induction h with
  | refl => exact ⟨rfl, hc⟩
  | moved _ hw ih =>
      have hd := ih hx hc
      exact ⟨hd.1, hP _ _ hd.2 hw⟩
  | stmt _ _ _ ih => exact absurd (ih hx hc).1.symm (hx _ _)

private theorem done_moves {a a' : α} {c d : Seat W L U} (hQ : Stable U T (Q a))
    (h : Under T (.done a : Prog S E α) c (.done a') d) (hc : Q a c) : Q a' d := by
  obtain ⟨ha, hd⟩ := halted_moves (by intro β s k hs; cases hs) hQ h hc
  cases ha
  exact hd

theorem pure {a : α} (hQ : Stable U T (Q a)) : Meets T (Q a) (pure a : Prog S E α) Q :=
  fun _ _ _ hc h => done_moves hQ h hc

theorem raise {e : E} : Meets T P (Prog.raise e : Prog S E α) Q := by
  intro c a d _ h
  obtain ⟨ha, -⟩ := halted_moves (P := fun _ => True) (by intro β s k hs; cases hs)
    (fun _ _ _ _ => trivial) h trivial
  cases ha

private theorem stmt_moves {s : S β} {k : β → Prog S E α} {y : Prog S E α} {c d : Seat W L U}
    (hP : Stable U T P) (h : Under T (.stmt s k) c y d) (hc : P c) :
    (y = .stmt s k ∧ P d) ∨
      ∃ e b us, P e ∧ T.issue s (e.view S) ∧ Database.exec s (e.view S) = .ok (b, us) ∧
        Under T (k b) (e.after s us) y d := by
  generalize hx : (Prog.stmt s k : Prog S E α) = x at h
  induction h with
  | refl => exact Or.inl ⟨rfl, hc⟩
  | moved _ hw ih =>
      rcases ih hc hx with ⟨hy, hd⟩ | ⟨e, b, us, he, hi, hs, hk⟩
      · exact Or.inl ⟨hy, hP _ _ hd hw⟩
      · exact Or.inr ⟨e, b, us, he, hi, hs, .moved hk hw⟩
  | @stmt _ _ _ _ s' k' b us _ hi hs ih =>
      rcases ih hc hx with ⟨hy, hd⟩ | ⟨e, b, us, he, hi', hs', hk⟩
      · -- the run's first statement
        have hstmt : Prog.stmt s' k' = Prog.stmt s k := hy.trans hx.symm
        cases hstmt
        exact Or.inr ⟨_, _, _, hd, hi, hs, .refl _ _⟩
      · exact Or.inr ⟨e, b, us, he, hi', hs', .stmt hk hi hs⟩

/-- **Statement rule.** -/
theorem exec {s : S α} (hP : Stable U T P) (hQ : ∀ a, Stable U T (Q a))
    (h : ∀ c a us, P c → T.issue s (c.view S) → Database.exec s (c.view S) = .ok (a, us) →
      Q a (c.after s us)) : Meets T P (Prog.exec s : Prog S E α) Q := by
  intro c a d hc hrun
  rcases stmt_moves hP hrun hc with ⟨hy, -⟩ | ⟨e, b, us, he, hi, hs, hk⟩
  · cases hy
  · exact done_moves (hQ b) hk (h e b us he hi hs)

/-- **Frame rule.** An assertion that every statement of the program keeps. -/
theorem frame {Q : ∀ {β : Type}, S β → Prop} (hx : x.Every Q) (hP : Stable U T P)
    (h : ∀ {β : Type} (s : S β) (c : Seat W L U) (b : β) (us : List U), P c → Q s →
      T.issue s (c.view S) → Database.exec s (c.view S) = .ok (b, us) → P (c.after s us)) :
    Meets T P x (fun _ => P) :=
  fun _ _ _ hc hrun => (hrun.keeps hx hP h hc).1

/-- Renaming errors leaves the finished runs alone. -/
theorem mapRaise {f : E → E} (hx : Meets T P x Q) : Meets T P (x.mapRaise f) Q := by
  suffices hs : ∀ {y : Prog S E α} {c d : Seat W L U}, Under T (x.mapRaise f) c y d →
      ∃ y', y = y'.mapRaise f ∧ Under T x c y' d by
    intro c a d hc h
    obtain ⟨y', hy, hrun⟩ := hs h
    cases y' with
    | done b => cases hy; exact hx c a d hc hrun
    | raise e => cases hy
    | stmt s k => cases hy
  intro y c d h
  generalize hz : x.mapRaise f = z at h
  induction h with
  | refl => exact ⟨x, hz.symm, .refl _ _⟩
  | moved _ hw ih =>
      obtain ⟨y', hy, hrun⟩ := ih hz
      exact ⟨y', hy, .moved hrun hw⟩
  | @stmt _ _ _ _ _ _ b _ _ hi hs ih =>
      obtain ⟨y', hy, hrun⟩ := ih hz
      cases y' with
      | done a => cases hy
      | raise e => cases hy
      | stmt s' k' =>
          cases hy
          exact ⟨k' b, rfl, .stmt hrun hi hs⟩

end Meets

/-- A program run alone is a run under interference without any. -/
theorem Under.of_run {x : Prog S E α} {w w' : W} {a : α} (hT : ∀ {β : Type} (s : S β) v, T.issue s v)
    (h : x.run w = .ok (a, w')) :
    ∃ c, Under T x (.fresh w) (.done a) c ∧ c.shared = w ∧ c.view S = w' := by
  suffices hs : ∀ (c : Seat W L U) (y : Prog S E α), Under T x (.fresh w) y c → c.shared = w →
      y.run (c.view S) = .ok (a, w') →
      ∃ d, Under T x (.fresh w) (.done a) d ∧ d.shared = w ∧ d.view S = w' from
    hs _ x (.refl _ _) rfl (by rwa [Seat.view_fresh])
  intro c y hxy hc hy
  induction y generalizing c with
  | done b =>
      obtain ⟨rfl, hv⟩ : b = a ∧ c.view S = w' := by simpa using hy
      exact ⟨c, hxy, hc, hv⟩
  | raise e => simp at hy
  | stmt s k ih =>
      rw [Prog.run] at hy
      cases hs : Database.exec s (c.view S) with
      | error e => rw [hs] at hy; cases hy
      | ok r =>
          obtain ⟨b, us⟩ := r
          rw [hs] at hy
          refine ih b (c.after s us) (.stmt hxy (hT s _) hs) hc ?_
          rw [Seat.view_after]
          exact hy

/-- **Serial rule.** What a program meets, it meets when it runs alone. -/
theorem Meets.run {P : Seat W L U → Prop} {x : Prog S E α} {Q : α → Seat W L U → Prop}
    (hx : Meets T P x Q) (hT : ∀ {β : Type} (s : S β) v, T.issue s v) {w w' : W} {a : α}
    (hw : P (.fresh w)) (h : x.run w = .ok (a, w')) :
    ∃ c, Q a c ∧ c.shared = w ∧ c.view S = w' := by
  obtain ⟨c, hrun, hc, hv⟩ := Under.of_run hT h
  exact ⟨c, hx _ a c hw hrun, hc, hv⟩

end Meets

end Txn
