import Mathlib

/-!
# Double books

A stock keeper writes every movement twice: into a journal of entries, each
with its change and the balance after it, and into one balance a slot. This
module states what it means that the two books agree, and that posting an
entry whose after-value is the old balance plus its change keeps them in
agreement. Nothing here knows how the books are stored.
-/

namespace Book

/-- One journal entry. -/
structure Entry (σ : Type) where
  slot : σ
  delta : Int
  after : Int

/-- The running sums of a list of changes, from a start value. -/
def runningSums : Int → List Int → List Int
  | _, [] => []
  | acc, d :: ds => (acc + d) :: runningSums (acc + d) ds

theorem runningSums_append (acc : Int) (l : List Int) (d : Int) :
    runningSums acc (l ++ [d]) = runningSums acc l ++ [acc + l.sum + d] := by
  induction l generalizing acc with
  | nil => simp [runningSums]
  | cons x l ih =>
      rw [List.cons_append, runningSums, ih, runningSums, List.cons_append, List.sum_cons,
        add_assoc acc x l.sum]

variable {σ : Type} [DecidableEq σ]

/-- The entries of one slot, oldest first. -/
def entriesOf (s : σ) (journal : List (Entry σ)) : List (Entry σ) :=
  journal.filter (fun e => e.slot = s)

theorem entriesOf_append_self (journal : List (Entry σ)) (e : Entry σ) :
    entriesOf e.slot (journal ++ [e]) = entriesOf e.slot journal ++ [e] := by
  simp [entriesOf]

theorem entriesOf_append_other {journal : List (Entry σ)} {e : Entry σ} {s : σ}
    (h : e.slot ≠ s) : entriesOf s (journal ++ [e]) = entriesOf s journal := by
  simp [entriesOf, h]

/-- The balance book and the journal agree on one slot. -/
structure Agrees (balance : σ → Int) (journal : List (Entry σ)) (s : σ) : Prop where
  sum : balance s = ((entriesOf s journal).map Entry.delta).sum
  nonneg : 0 ≤ balance s
  running : (entriesOf s journal).map Entry.after =
    runningSums 0 ((entriesOf s journal).map Entry.delta)

/-- **Well-kept books**: the two books agree on every slot. -/
def WellKept (balance : σ → Int) (journal : List (Entry σ)) : Prop :=
  ∀ s, Agrees balance journal s

/-- Empty books are well kept. -/
theorem wellKept_empty : WellKept (fun _ : σ => 0) [] :=
  fun _ => ⟨rfl, Int.le_refl 0, rfl⟩

/-- Post an entry to both books. -/
def postBalance (balance : σ → Int) (e : Entry σ) : σ → Int :=
  fun s => if s = e.slot then e.after else balance s

/-- **Posting rule.** An entry that carries the old balance plus its change,
and does not overdraw the slot, keeps the books. -/
theorem WellKept.post {balance : σ → Int} {journal : List (Entry σ)} {e : Entry σ}
    (h : WellKept balance journal) (hafter : e.after = balance e.slot + e.delta)
    (hnonneg : 0 ≤ e.after) : WellKept (postBalance balance e) (journal ++ [e]) := by
  intro s
  by_cases hs : s = e.slot
  · subst hs
    have hold := h e.slot
    refine ⟨?_, ?_, ?_⟩
    · rw [postBalance, if_pos rfl, entriesOf_append_self, List.map_append, List.sum_append,
        ← hold.sum, hafter]
      simp
    · rw [postBalance, if_pos rfl]
      exact hnonneg
    · rw [entriesOf_append_self, List.map_append, List.map_append, hold.running]
      rw [List.map_singleton, List.map_singleton, runningSums_append, ← hold.sum, hafter,
        zero_add]
  · have hold := h s
    have hne : e.slot ≠ s := fun h' => hs h'.symm
    refine ⟨?_, ?_, ?_⟩
    · rw [postBalance, if_neg hs, entriesOf_append_other hne]
      exact hold.sum
    · rw [postBalance, if_neg hs]
      exact hold.nonneg
    · rw [entriesOf_append_other hne]
      exact hold.running

end Book
