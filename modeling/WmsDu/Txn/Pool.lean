import WmsDu.Txn.Interference

/-!
# Interleaved transactions

A pool of transactions over one database, under READ COMMITTED: a statement
sees what is committed and what its own transaction wrote, and waits while
another transaction holds a lock it needs. A commit redoes the transaction's
log on the committed state; an error or a cut-off leaves no trace.

`Discipline` is a rely-guarantee argument for a pool: what every transaction
may rely on while it runs, and why its own commit gives the others no less.
-/

namespace Txn

variable {S : Type → Type 1} {W L U E α Op : Type}

/-! ## The pool -/

/-- Where a transaction stands. -/
inductive Phase (S : Type → Type 1) (L U E α : Type)
  | waiting
  | live (rest : Prog S E α) (log : List U) (held : List L)
  | committed (a : α)
  | failed

/-- The locks a transaction holds. -/
def Phase.held : Phase S L U E α → List L
  | .live _ _ held => held
  | _ => []

/-- The transaction has begun and not ended. -/
def Phase.Live : Phase S L U E α → Prop
  | .live _ _ _ => True
  | _ => False

/-- The committed state and the transactions, each with the call it makes. -/
structure Pool (S : Type → Type 1) (W L U E Op α : Type) where
  shared : W
  sessions : List (Op × Phase S L U E α)

namespace Pool

/-- Calls that have not begun. -/
def fresh (w : W) (ops : List Op) : Pool S W L U E Op α := ⟨w, ops.map fun op => (op, .waiting)⟩

/-- The transactions beside the `i`-th. -/
def others (p : Pool S W L U E Op α) (i : Nat) : List (Op × Phase S L U E α) := p.sessions.eraseIdx i

/-- One transaction moves on. -/
def enter (p : Pool S W L U E Op α) (i : Nat) (op : Op) (ph : Phase S L U E α) :
    Pool S W L U E Op α :=
  { p with sessions := p.sessions.set i (op, ph) }

section Step
variable [Database S W L U E] [DecidableEq L] (prog : Op → Prog S E α)

/-- The next move of the `i`-th transaction, if it has one and need not wait. -/
def advance (p : Pool S W L U E Op α) (i : Nat) : Option (Pool S W L U E Op α) :=
  match p.sessions[i]? with
  | some (op, .waiting) => some (p.enter i op (.live (prog op) [] []))
  | some (op, .live (.done a) log _) =>
      some { p.enter i op (.committed a) with shared := replay S log p.shared }
  | some (op, .live (.raise _) _ _) => some (p.enter i op .failed)
  | some (op, .live (.stmt s k) log held) =>
      let view := replay S log p.shared
      let locks := Database.locks s view
      if ∀ t ∈ p.others i, ∀ l ∈ locks, l ∉ t.2.held then
        match Database.exec s view with
        | .error _ => some (p.enter i op .failed)
        | .ok (b, us) => some (p.enter i op (.live (k b) (log ++ us) (held ++ locks)))
      else none
  | some (_, .committed _) | some (_, .failed) | none => none

/-- The `i`-th transaction is cut off: a deadlock, a timeout, a lost connection. -/
def cancel (p : Pool S W L U E Op α) (i : Nat) : Option (Pool S W L U E Op α) :=
  match p.sessions[i]? with
  | some (op, .live _ _ _) => some (p.enter i op .failed)
  | _ => none

/-- The `i`-th transaction's turn; a move that is not possible is passed over. -/
def turn (p : Pool S W L U E Op α) (i : Nat) : Pool S W L U E Op α := (p.advance prog i).getD p

/-- Run a schedule: whose turn it is, one after the other. -/
def run (p : Pool S W L U E Op α) (schedule : List Nat) : Pool S W L U E Op α :=
  schedule.foldl (turn prog) p

end Step

end Pool

/-! ## Moves -/

/-- What one turn of the `i`-th transaction can be. -/
inductive Pool.Move [Database S W L U E] (prog : Op → Prog S E α) (p : Pool S W L U E Op α)
    (i : Nat) : Pool S W L U E Op α → Prop
  | begins {op : Op} : p.sessions[i]? = some (op, .waiting) →
      Pool.Move prog p i (p.enter i op (.live (prog op) [] []))
  | issues {op : Op} {β : Type} {s : S β} {k : β → Prog S E α} {log : List U} {held : List L}
      {b : β} {us : List U} :
      p.sessions[i]? = some (op, .live (.stmt s k) log held) →
      (∀ t ∈ p.others i, ∀ l ∈ Database.locks s (replay S log p.shared), l ∉ t.2.held) →
      Database.exec s (replay S log p.shared) = .ok (b, us) →
      Pool.Move prog p i (p.enter i op
        (.live (k b) (log ++ us) (held ++ Database.locks s (replay S log p.shared))))
  | commits {op : Op} {a : α} {log : List U} {held : List L} :
      p.sessions[i]? = some (op, .live (.done a) log held) →
      Pool.Move prog p i { p.enter i op (.committed a) with shared := replay S log p.shared }
  | fails {op : Op} {rest : Prog S E α} {log : List U} {held : List L} :
      p.sessions[i]? = some (op, .live rest log held) →
      Pool.Move prog p i (p.enter i op .failed)

section Moves
variable {prog : Op → Prog S E α} {p p' : Pool S W L U E Op α} {i : Nat}

theorem Pool.move_of_advance [Database S W L U E] [DecidableEq L]
    (h : p.advance prog i = some p') : Pool.Move prog p i p' := by
  unfold Pool.advance at h
  split at h
  case h_1 op hi => cases h; exact .begins hi
  case h_2 op a log held hi => cases h; exact .commits hi
  case h_3 op e log held hi => cases h; exact .fails hi
  case h_4 op δ s k log held hi =>
      dsimp only at h
      split at h
      · rename_i hfree
        split at h
        · cases h
          exact .fails hi
        · rename_i b us hs
          cases h
          exact .issues hi hfree hs
      · cases h
  all_goals cases h

theorem Pool.cancel_eq_some (h : p.cancel i = some p') :
    ∃ op rest log held, p.sessions[i]? = some (op, .live rest log held) ∧
      p' = p.enter i op .failed := by
  unfold Pool.cancel at h
  split at h
  · rename_i op rest log held hi
    cases h
    exact ⟨op, rest, log, held, hi, rfl⟩
  · cases h

theorem Pool.getElem?_enter {s : Op × Phase S L U E α} (hi : p.sessions[i]? = some s) (op : Op)
    (ph : Phase S L U E α) (j : Nat) :
    (p.enter i op ph).sessions[j]? = if i = j then some (op, ph) else p.sessions[j]? := by
  obtain ⟨hlt, -⟩ := List.getElem?_eq_some_iff.mp hi
  rw [Pool.enter, List.getElem?_set]
  simp [hlt]

theorem Pool.mem_others {j : Nat} {t : Op × Phase S L U E α} (hij : i ≠ j)
    (hj : p.sessions[j]? = some t) : t ∈ p.others i :=
  List.mem_eraseIdx_iff_getElem?.mpr ⟨j, hij.symm, hj⟩

end Moves

/-! ## Histories -/

/-- What the moves of a pool are subject to: the statements that may be issued
on a view, and the calls that may be in flight together. -/
structure Terms (Op : Type) (S : Type → Type 1) (W : Type) where
  issue : ∀ {β : Type}, S β → W → Prop
  together : Op → Op → Prop
  together_symm : ∀ a b, together a b → together b a

/-- No terms at all. -/
def Terms.free : Terms Op S W := ⟨fun _ _ => True, fun _ _ => True, fun _ _ h => h⟩

variable [Database S W L U E]

/-- The terms allow the next move of the `i`-th transaction. -/
def Terms.Allows (T : Terms Op S W) (p : Pool S W L U E Op α) (i : Nat) : Prop :=
  match p.sessions[i]? with
  | some (op, .waiting) => ∀ t ∈ p.others i, t.2.Live → T.together op t.1
  | some (_, .live (.stmt s _) log _) => T.issue s (replay S log p.shared)
  | _ => True

/-- The pools that schedules within the terms reach. -/
inductive Pool.Reach [DecidableEq L] (prog : Op → Prog S E α) (T : Terms Op S W)
    (p₀ : Pool S W L U E Op α) : Pool S W L U E Op α → Prop
  | start : Pool.Reach prog T p₀ p₀
  | advance {p p' : Pool S W L U E Op α} (i : Nat) : Pool.Reach prog T p₀ p → T.Allows p i →
      p.advance prog i = some p' → Pool.Reach prog T p₀ p'
  | cancel {p p' : Pool S W L U E Op α} (i : Nat) : Pool.Reach prog T p₀ p →
      p.cancel i = some p' → Pool.Reach prog T p₀ p'

theorem Pool.Reach.trans [DecidableEq L] {prog : Op → Prog S E α} {T : Terms Op S W}
    {p₀ p p' : Pool S W L U E Op α} (h : Pool.Reach prog T p₀ p) (h' : Pool.Reach prog T p p') :
    Pool.Reach prog T p₀ p' := by
  induction h' with
  | start => exact h
  | advance i _ ha hp ih => exact .advance i ih ha hp
  | cancel i _ hp ih => exact .cancel i ih hp

/-- The call that the next turn of the `i`-th transaction commits, if it does. -/
def Pool.committing (p : Pool S W L U E Op α) (i : Nat) : List Op :=
  match p.sessions[i]? with
  | some (op, .live (.done _) _ _) => [op]
  | _ => []

/-- The pools that schedules within the terms reach, each with the calls that
were committed on the way, in the order of their commits. -/
inductive Pool.Trace [DecidableEq L] (prog : Op → Prog S E α) (T : Terms Op S W)
    (p₀ : Pool S W L U E Op α) : List Op → Pool S W L U E Op α → Prop
  | start : Pool.Trace prog T p₀ [] p₀
  | advance {ops : List Op} {p p' : Pool S W L U E Op α} (i : Nat) :
      Pool.Trace prog T p₀ ops p → T.Allows p i → p.advance prog i = some p' →
      Pool.Trace prog T p₀ (ops ++ p.committing i) p'
  | cancel {ops : List Op} {p p' : Pool S W L U E Op α} (i : Nat) :
      Pool.Trace prog T p₀ ops p → p.cancel i = some p' → Pool.Trace prog T p₀ ops p'

theorem Pool.Trace.reach [DecidableEq L] {prog : Op → Prog S E α} {T : Terms Op S W}
    {p₀ p : Pool S W L U E Op α} {ops : List Op} (h : Pool.Trace prog T p₀ ops p) :
    Pool.Reach prog T p₀ p := by
  induction h with
  | start => exact .start
  | advance i _ ha hp ih => exact .advance i ih ha hp
  | cancel i _ hp ih => exact .cancel i ih hp

/-- A history without terms keeps any terms that allow everything. -/
theorem Pool.Trace.of_free [DecidableEq L] {prog : Op → Prog S E α} {T : Terms Op S W}
    {p₀ p : Pool S W L U E Op α} {ops : List Op} (h : Pool.Trace prog .free p₀ ops p)
    (hT : ∀ (p : Pool S W L U E Op α) i, T.Allows p i) : Pool.Trace prog T p₀ ops p := by
  induction h with
  | start => exact .start
  | advance i _ _ hp ih => exact .advance i ih (hT _ i) hp
  | cancel i _ hp ih => exact .cancel i ih hp

/-- The terms allow every turn of a schedule. -/
def Pool.Keeps [DecidableEq L] (prog : Op → Prog S E α) (T : Terms Op S W) :
    Pool S W L U E Op α → List Nat → Prop
  | _, [] => True
  | p, i :: schedule => T.Allows p i ∧ Pool.Keeps prog T (p.turn prog i) schedule

/-- A schedule that keeps the terms is a history within them. -/
theorem Pool.Keeps.reach [DecidableEq L] {prog : Op → Prog S E α} {T : Terms Op S W}
    {p : Pool S W L U E Op α} {schedule : List Nat} (h : p.Keeps prog T schedule) :
    Pool.Reach prog T p (p.run prog schedule) := by
  suffices hs : ∀ q, q.Keeps prog T schedule → Pool.Reach prog T p q →
      Pool.Reach prog T p (q.run prog schedule) from hs p h .start
  clear h
  induction schedule with
  | nil => intro q _ hq; exact hq
  | cons i schedule ih =>
      intro q hk hq
      refine ih (q.turn prog i) hk.2 ?_
      unfold Pool.turn
      cases hi : q.advance prog i with
      | none => exact hq
      | some q' => exact .advance i hq hk.1 hi

/-- Every schedule is a history without terms. -/
theorem Pool.reach_run [DecidableEq L] {prog : Op → Prog S E α} (p : Pool S W L U E Op α)
    (schedule : List Nat) : Pool.Reach prog .free p (p.run prog schedule) := by
  suffices h : ∀ q : Pool S W L U E Op α, q.Keeps prog .free schedule from (h p).reach
  induction schedule with
  | nil => intro q; trivial
  | cons i schedule ih =>
      intro q
      refine ⟨?_, ih _⟩
      unfold Terms.Allows Terms.free
      split
      · intro t _ _; trivial
      · trivial
      · trivial

/-- The calls that a schedule commits. -/
def Pool.commitsOf [DecidableEq L] (prog : Op → Prog S E α) :
    Pool S W L U E Op α → List Nat → List Op
  | _, [] => []
  | p, i :: schedule => p.committing i ++ Pool.commitsOf prog (p.turn prog i) schedule

/-- Nothing is committed in a turn that is passed over. -/
theorem Pool.committing_of_passed [DecidableEq L] {prog : Op → Prog S E α}
    {p : Pool S W L U E Op α} {i : Nat} (h : p.advance prog i = none) : p.committing i = [] := by
  unfold Pool.committing
  split
  · rename_i op a log held hi
    unfold Pool.advance at h
    rw [hi] at h
    cases h
  · rfl

/-- A schedule without terms is a history of the calls it commits. -/
theorem Pool.trace_run [DecidableEq L] {prog : Op → Prog S E α} (p : Pool S W L U E Op α)
    (schedule : List Nat) :
    Pool.Trace prog .free p (p.commitsOf prog schedule) (p.run prog schedule) := by
  suffices h : ∀ (schedule : List Nat) (ops : List Op) (q : Pool S W L U E Op α),
      Pool.Trace prog .free p ops q →
        Pool.Trace prog .free p (ops ++ q.commitsOf prog schedule) (q.run prog schedule) from
    h schedule [] p .start
  clear schedule
  intro schedule
  induction schedule with
  | nil =>
      intro ops q hq
      rw [Pool.commitsOf, List.append_nil]
      exact hq
  | cons i schedule ih =>
      intro ops q hq
      rw [Pool.commitsOf, ← List.append_assoc]
      refine ih (ops ++ q.committing i) (q.turn prog i) ?_
      unfold Pool.turn
      cases hi : q.advance prog i with
      | none =>
          rw [Pool.committing_of_passed hi, List.append_nil]
          exact hq
      | some q' =>
          refine .advance i hq ?_ hi
          unfold Terms.Allows Terms.free
          split
          · intro t _ _; trivial
          · trivial
          · trivial

section Decide
variable {T : Terms Op S W} [∀ a b, Decidable (T.together a b)]
  [∀ {β : Type} (s : S β) w, Decidable (T.issue s w)]

instance (ph : Phase S L U E α) : Decidable ph.Live :=
  match ph with
  | .live _ _ _ => isTrue trivial
  | .waiting | .committed _ | .failed => isFalse id

instance (p : Pool S W L U E Op α) (i : Nat) : Decidable (T.Allows p i) := by
  unfold Terms.Allows
  split <;> infer_instance

instance [DecidableEq L] (prog : Op → Prog S E α) :
    (schedule : List Nat) → (p : Pool S W L U E Op α) → Decidable (p.Keeps prog T schedule)
  | [], _ => isTrue trivial
  | i :: schedule, p =>
      have := instDecidableKeeps prog schedule (p.turn prog i)
      inferInstanceAs (Decidable (T.Allows p i ∧ _))

end Decide

/-! ## Rely and guarantee -/

/-- A rely-guarantee argument for the calls of a pool. `rely op held` is how
others may move the committed state while `op` runs and holds `held`, `done`
what a finished run leaves, `post` what stays true of a committed call. -/
structure Discipline (prog : Op → Prog S E α) (T : Terms Op S W) (L U : Type)
    [Database S W L U E] where
  inv : W → Prop
  rely : Op → List L → W → W → Prop
  done : Op → α → Seat W L U → Prop
  post : Op → α → W → Prop
  meets : ∀ op, Meets ⟨T.issue, rely op⟩
    (fun c => inv c.shared ∧ c = .fresh c.shared) (prog op) (done op)
  keeps : ∀ {op a c}, done op a c → inv c.shared → inv (c.view S)
  guarantee : ∀ {op a c op' held}, done op a c → inv c.shared → T.together op' op →
    (∀ l ∈ c.held, l ∉ held) → rely op' held c.shared (c.view S)
  answers : ∀ {op a c}, done op a c → inv c.shared → post op a (c.view S)
  lasting : ∀ {op a c op' a'}, done op a c → inv c.shared → post op' a' c.shared →
    post op' a' (c.view S)

namespace Pool

/-- What a discipline keeps of every pool it governs. -/
structure Governed {prog : Op → Prog S E α} {T : Terms Op S W} (D : Discipline prog T L U)
    (p : Pool S W L U E Op α) : Prop where
  inv : D.inv p.shared
  runs : ∀ {i : Nat} {op : Op} {rest log held}, p.sessions[i]? = some (op, .live rest log held) →
    ∃ w, D.inv w ∧ Under ⟨T.issue, D.rely op⟩ (prog op) (.fresh w) rest ⟨p.shared, log, held⟩
  apart : ∀ {i j : Nat} {s t : Op × Phase S L U E α}, i ≠ j → p.sessions[i]? = some s →
    p.sessions[j]? = some t → s.2.Live → t.2.Live →
    T.together s.1 t.1 ∧ ∀ l ∈ s.2.held, l ∉ t.2.held
  posts : ∀ {i : Nat} {op : Op} {a : α}, p.sessions[i]? = some (op, .committed a) →
    D.post op a p.shared

namespace Governed
variable {prog : Op → Prog S E α} {T : Terms Op S W} {D : Discipline prog T L U}
  {p p' : Pool S W L U E Op α} {i : Nat}

/-- Nothing is promised yet to calls that have not begun. -/
theorem fresh {w : W} (hw : D.inv w) (ops : List Op) : Governed D (.fresh w ops) where
  inv := hw
  runs := by
    intro i op rest log held hi
    obtain ⟨_, -, heq⟩ := List.mem_map.mp (List.mem_of_getElem? hi)
    cases heq
  apart := by
    intro i j s t _ hi _ hs _
    obtain ⟨_, -, rfl⟩ := List.mem_map.mp (List.mem_of_getElem? hi)
    cases hs
  posts := by
    intro i op a hi
    obtain ⟨_, -, heq⟩ := List.mem_map.mp (List.mem_of_getElem? hi)
    cases heq

/-- A turn that commits nothing changes one transaction's own standing. -/
private theorem enter (h : Governed D p) {op : Op} {ph₀ ph : Phase S L U E α}
    (hi : p.sessions[i]? = some (op, ph₀))
    (hruns : ∀ {rest log held}, ph = .live rest log held →
      ∃ w, D.inv w ∧ Under ⟨T.issue, D.rely op⟩ (prog op) (.fresh w) rest ⟨p.shared, log, held⟩)
    (hapart : ∀ {j : Nat} {t : Op × Phase S L U E α}, i ≠ j → p.sessions[j]? = some t →
      ph.Live → t.2.Live → T.together op t.1 ∧ ∀ l ∈ ph.held, l ∉ t.2.held)
    (hposts : ∀ {a}, ph = .committed a → D.post op a p.shared) : Governed D (p.enter i op ph) where
  inv := h.inv
  runs := by
    intro j op' rest log held hj
    rw [getElem?_enter hi] at hj
    split at hj
    · cases hj
      exact hruns rfl
    · exact h.runs hj
  apart := by
    intro j k s t hjk hj hk hs ht
    rw [getElem?_enter hi] at hj hk
    split at hj
    · rename_i hij
      subst hij
      rw [if_neg hjk] at hk
      cases hj
      exact hapart hjk hk hs ht
    · rename_i hij
      split at hk
      · rename_i hik
        subst hik
        cases hk
        obtain ⟨htog, hdis⟩ := hapart hij hj ht hs
        exact ⟨T.together_symm _ _ htog, fun l hl hl' => hdis l hl' hl⟩
      · exact h.apart hjk hj hk hs ht
  posts := by
    intro j op' a hj
    rw [getElem?_enter hi] at hj
    split at hj
    · cases hj
      exact hposts rfl
    · exact h.posts hj

/-- **Commit rule.** A finished transaction meets its `done`. -/
theorem committing (h : Governed D p) {op : Op} {a : α} {log : List U} {held : List L}
    (hi : p.sessions[i]? = some (op, .live (.done a) log held)) :
    D.done op a ⟨p.shared, log, held⟩ := by
  obtain ⟨w, hw, hrun⟩ := h.runs hi
  exact D.meets op _ _ _ ⟨hw, rfl⟩ hrun

private theorem commits (h : Governed D p) {op : Op} {a : α} {log : List U} {held : List L}
    (hi : p.sessions[i]? = some (op, .live (.done a) log held)) :
    Governed D { p.enter i op (.committed a) with shared := replay S log p.shared } := by
  have hdone := h.committing hi
  refine ⟨D.keeps hdone h.inv, ?_, ?_, ?_⟩
  · intro j op' rest log' held' hj
    rw [show (_ : List _)[j]? = _ from getElem?_enter hi op (.committed a) j] at hj
    split at hj
    · cases hj
    · rename_i hij
      obtain ⟨w, hw, hrun⟩ := h.runs hj
      obtain ⟨htog, hdis⟩ := h.apart hij hi hj trivial trivial
      exact ⟨w, hw, .moved hrun (D.guarantee hdone h.inv (T.together_symm _ _ htog) hdis)⟩
  · intro j k s t hjk hj hk hs ht
    rw [show (_ : List _)[j]? = _ from getElem?_enter hi op (.committed a) j] at hj
    rw [show (_ : List _)[k]? = _ from getElem?_enter hi op (.committed a) k] at hk
    split at hj
    · cases hj
      cases hs
    · split at hk
      · cases hk
        cases ht
      · exact h.apart hjk hj hk hs ht
  · intro j op' a' hj
    rw [show (_ : List _)[j]? = _ from getElem?_enter hi op (.committed a) j] at hj
    split at hj
    · cases hj
      exact D.answers hdone h.inv
    · exact D.lasting hdone h.inv (h.posts hj)

private theorem fails (h : Governed D p) {op : Op} {rest : Prog S E α} {log : List U}
    {held : List L} (hi : p.sessions[i]? = some (op, .live rest log held)) :
    Governed D (p.enter i op .failed) :=
  h.enter hi (fun heq => by cases heq) (fun _ _ hl => by cases hl) (fun hc => by cases hc)

/-- One turn within the terms keeps a pool governed. -/
theorem move (h : Governed D p) (ha : T.Allows p i) (hm : Move prog p i p') : Governed D p' := by
  cases hm with
  | begins hi =>
      unfold Terms.Allows at ha
      rw [hi] at ha
      refine h.enter hi ?_ ?_ (fun hc => by cases hc)
      · intro rest log held heq
        cases heq
        exact ⟨p.shared, h.inv, .refl _ _⟩
      · intro j t hij hj _ ht
        exact ⟨ha t (mem_others hij hj) ht, fun l hl => by cases hl⟩
  | issues hi hfree hs =>
      unfold Terms.Allows at ha
      rw [hi] at ha
      refine h.enter hi ?_ ?_ (fun hc => by cases hc)
      · intro rest log' held' heq
        cases heq
        obtain ⟨w, hw, hrun⟩ := h.runs hi
        exact ⟨w, hw, .stmt hrun ha hs⟩
      · intro j t hij hj _ ht
        obtain ⟨htog, hdis⟩ := h.apart hij hi hj trivial ht
        refine ⟨htog, fun l hl => ?_⟩
        -- the locks it had are apart already, the new ones were free
        rcases List.mem_append.mp hl with hl | hl
        · exact hdis l hl
        · exact hfree t (mem_others hij hj) l hl
  | commits hi => exact h.commits hi
  | fails hi => exact h.fails hi

/-- **Pool rule.** A discipline governs every pool that schedules within its
terms reach. -/
theorem reach [DecidableEq L] (h : Governed D p) (hr : Reach prog T p p') : Governed D p' := by
  induction hr with
  | start => exact h
  | advance i _ ha hp ih => exact ih.move ha (move_of_advance hp)
  | cancel i _ hp ih =>
      obtain ⟨op, rest, log, held, hi, rfl⟩ := cancel_eq_some hp
      exact ih.fails hi

/-- **Turn rule.** What every commit does to the committed state, a turn does. -/
theorem turn [DecidableEq L] {G : W → W → Prop} (hrefl : ∀ w, G w w)
    (hG : ∀ {op a c}, D.done op a c → D.inv c.shared → G c.shared (c.view S))
    (h : Governed D p) (hp : p.advance prog i = some p') : G p.shared p'.shared := by
  cases move_of_advance hp with
  | begins hi => exact hrefl _
  | issues hi hfree hs => exact hrefl _
  | commits hi => exact hG (h.committing hi) h.inv
  | fails hi => exact hrefl _

/-- **Growth rule.** What every commit does to the committed state, a whole
history does. -/
theorem grows [DecidableEq L] {G : W → W → Prop} (hrefl : ∀ w, G w w)
    (htrans : ∀ {a b c}, G a b → G b c → G a c)
    (hG : ∀ {op a c}, D.done op a c → D.inv c.shared → G c.shared (c.view S))
    (h : Governed D p) (hr : Reach prog T p p') : G p.shared p'.shared := by
  induction hr with
  | start => exact hrefl _
  | @advance q q' i hq ha hp ih =>
      have hgov := h.reach hq
      exact htrans ih (hgov.turn hrefl hG hp)
  | cancel i _ hp ih =>
      obtain ⟨op, rest, log, held, hi, rfl⟩ := cancel_eq_some hp
      exact ih

/-- **Trace rule.** What every commit keeps of the calls committed so far and
the committed state holds along a whole history. -/
theorem trace [DecidableEq L] {I : List Op → W → Prop} {ops : List Op} (h : Governed D p)
    (h₀ : I [] p.shared)
    (hI : ∀ {ops op a c}, I ops c.shared → D.done op a c → D.inv c.shared →
      I (ops ++ [op]) (c.view S))
    (ht : Trace prog T p ops p') : I ops p'.shared := by
  induction ht with
  | start => exact h₀
  | @advance ops q q' i hq ha hp ih =>
      have hgov := h.reach hq.reach
      unfold Pool.committing
      cases move_of_advance hp with
      | begins hi =>
          rw [hi, List.append_nil]
          exact ih
      | @issues op β s k log held b us hi hfree hs =>
          rw [hi, List.append_nil]
          exact ih
      | commits hi =>
          rw [hi]
          exact hI ih (hgov.committing hi) hgov.inv
      | @fails op rest log held hi =>
          cases rest with
          | done a =>
              -- the advance of a finished transaction is its commit
              unfold Pool.advance at hp
              rw [hi] at hp
              have hphase := congrArg (fun p : Pool S W L U E Op α => p.sessions[i]?)
                (Option.some.inj hp)
              simp [getElem?_enter hi] at hphase
          | raise e =>
              rw [hi, List.append_nil]
              exact ih
          | stmt s k =>
              rw [hi, List.append_nil]
              exact ih
  | @cancel ops q q' i hq hp ih =>
      obtain ⟨op, rest, log, held, hi, rfl⟩ := cancel_eq_some hp
      exact ih

end Governed

end Pool

end Txn
