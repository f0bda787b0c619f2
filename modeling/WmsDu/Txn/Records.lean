import WmsDu.Txn.Pool

/-!
# The records of a pool

What the statements of a call can write is known from its program, whatever
they read. The records in flight are such records, and a history does nothing
to the committed state but replay some.
-/

namespace Txn

variable {S : Type → Type 1} {W L U E α Op : Type}

namespace Pool

/-- What is left of each running program consists of statements as they are
said of its call, and what it has written of such records. -/
structure Wrote (Q : Op → (β : Type) → S β → Prop) (K : Op → U → Prop)
    (p : Pool S W L U E Op α) : Prop where
  runs : ∀ {i : Nat} {op : Op} {rest : Prog S E α} {log : List U} {held : List L},
    p.sessions[i]? = some (op, .live rest log held) →
      rest.Every (fun s => Q op _ s) ∧ ∀ u ∈ log, K op u

/-- The calls of the pool. -/
def calls (p : Pool S W L U E Op α) : List Op := p.sessions.map Prod.fst

theorem wrote_fresh {Q : Op → (β : Type) → S β → Prop} {K : Op → U → Prop} {w : W}
    {ops : List Op} : (fresh w ops : Pool S W L U E Op α).Wrote Q K where
  runs := by
    intro i op rest log held hi
    obtain ⟨_, -, heq⟩ := List.mem_map.mp (List.mem_of_getElem? hi)
    cases heq

theorem calls_fresh {w : W} {ops : List Op} :
    (fresh w ops : Pool S W L U E Op α).calls = ops := by
  simp [calls, fresh, Function.comp_def]

theorem calls_enter {p : Pool S W L U E Op α} {i : Nat} {op : Op} {ph ph' : Phase S L U E α}
    (hi : p.sessions[i]? = some (op, ph)) : (p.enter i op ph').calls = p.calls := by
  refine List.ext_getElem? fun j => ?_
  rw [calls, calls, List.getElem?_map, List.getElem?_map, getElem?_enter hi]
  split
  · rename_i hij
    rw [← hij, hi]
    rfl
  · rfl

section Moves
variable [Database S W L U E] {prog : Op → Prog S E α} {p p' : Pool S W L U E Op α} {i : Nat}
  {Q : Op → (β : Type) → S β → Prop} {K : Op → U → Prop}

/-- **Step.** A move keeps the records in flight as they are said of the
calls, and the committed state is what it was, or some of them replayed. -/
theorem Wrote.move (h : p.Wrote Q K) (hprog : ∀ op, (prog op).Every fun s => Q op _ s)
    (hQ : ∀ {op : Op} {β : Type} {s : S β} {w : W} {b : β} {us : List U}, Q op β s →
      Database.exec s w = .ok (b, us) → ∀ u ∈ us, K op u)
    (hp : Move prog p i p') :
    p'.Wrote Q K ∧ p'.calls = p.calls ∧
      ∃ us, p'.shared = replay S us p.shared ∧ ∀ u ∈ us, ∃ op ∈ p.calls, K op u := by
  have hframe {op : Op} {s : Op × Phase S L U E α} {ph : Phase S L U E α}
      (hi : p.sessions[i]? = some s)
      (hph : ∀ {rest log held}, ph = .live rest log held →
        rest.Every (fun s => Q op _ s) ∧ ∀ u ∈ log, K op u) : (p.enter i op ph).Wrote Q K := by
    refine ⟨fun {j op' rest log held} hj => ?_⟩
    rw [getElem?_enter hi] at hj
    split at hj
    · cases hj
      exact hph rfl
    · exact h.runs hj
  cases hp with
  | begins hi =>
      refine ⟨hframe hi ?_, calls_enter hi, [], rfl, List.forall_mem_nil _⟩
      intro rest log held heq
      cases heq
      exact ⟨hprog _, List.forall_mem_nil _⟩
  | issues hi _ hs =>
      obtain ⟨hrest, hlog⟩ := h.runs hi
      refine ⟨hframe hi ?_, calls_enter hi, [], rfl, List.forall_mem_nil _⟩
      intro rest log held heq
      cases heq
      refine ⟨hrest.2 _, fun u hu => ?_⟩
      rcases List.mem_append.mp hu with hu | hu
      · exact hlog u hu
      · exact hQ hrest.1 hs u hu
  | @commits op a log held hi =>
      obtain ⟨-, hlog⟩ := h.runs hi
      have hentered : (p.enter i op (.committed a)).Wrote Q K := hframe hi (by simp)
      refine ⟨⟨hentered.runs⟩, calls_enter hi, log, rfl, fun u hu => ⟨op, ?_, hlog u hu⟩⟩
      exact List.mem_map.mpr ⟨_, List.mem_of_getElem? hi, rfl⟩
  | fails hi =>
      exact ⟨hframe hi (by simp), calls_enter hi, [], rfl, List.forall_mem_nil _⟩

/-- **Run.** So does a whole history. -/
theorem Wrote.reach [DecidableEq L] {T : Terms Op S W} (h : p.Wrote Q K)
    (hprog : ∀ op, (prog op).Every fun s => Q op _ s)
    (hQ : ∀ {op : Op} {β : Type} {s : S β} {w : W} {b : β} {us : List U}, Q op β s →
      Database.exec s w = .ok (b, us) → ∀ u ∈ us, K op u)
    (hr : Reach prog T p p') :
    p'.Wrote Q K ∧ p'.calls = p.calls ∧
      ∃ us, p'.shared = replay S us p.shared ∧ ∀ u ∈ us, ∃ op ∈ p.calls, K op u := by
  have hstep {q q' : Pool S W L U E Op α} {i : Nat}
      (ih : q.Wrote Q K ∧ q.calls = p.calls ∧
        ∃ us, q.shared = replay S us p.shared ∧ ∀ u ∈ us, ∃ op ∈ p.calls, K op u)
      (hm : Move prog q i q') : q'.Wrote Q K ∧ q'.calls = p.calls ∧
        ∃ us, q'.shared = replay S us p.shared ∧ ∀ u ∈ us, ∃ op ∈ p.calls, K op u := by
    obtain ⟨hq, hcalls, us, hshared, hus⟩ := ih
    obtain ⟨hq', hcalls', vs, hshared', hvs⟩ := hq.move hprog hQ hm
    refine ⟨hq', hcalls'.trans hcalls, us ++ vs, by rw [hshared', hshared, replay_append], ?_⟩
    intro u hu
    rcases List.mem_append.mp hu with hu | hu
    · exact hus u hu
    · exact hcalls ▸ hvs u hu
  induction hr with
  | start => exact ⟨h, rfl, [], rfl, List.forall_mem_nil _⟩
  | advance i _ _ hp ih => exact hstep ih (move_of_advance hp)
  | cancel i _ hp ih =>
      obtain ⟨op, rest, log, held, hi, rfl⟩ := cancel_eq_some hp
      exact hstep ih (.fails hi)

end Moves

end Pool

end Txn
