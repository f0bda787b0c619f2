import Mathlib.Data.List.Chain
import Mathlib.Data.List.Pairwise
import Mathlib.Order.Lattice
import Mathlib.Tactic.Tauto

/-!
# Half-open intervals

An interval begins at a point and ends before another one, or does not end.
Two nonempty intervals have no point in common exactly when one of them ends
before the other begins, and for a list sorted by where its intervals begin it
is enough to look at neighbours, unless one that does not end has a successor.
-/

/-- `[begin, end)`, or `[begin, ∞)`. -/
abbrev HalfOpen (K : Type) := K × Option K

namespace HalfOpen
variable {K : Type} [LinearOrder K] {r s t : HalfOpen K} {x : K} {l : List (HalfOpen K)}

def Covers (r : HalfOpen K) (x : K) : Prop := r.1 ≤ x ∧ ∀ b ∈ r.2, x < b

def Nonempty (r : HalfOpen K) : Prop := ∀ b ∈ r.2, r.1 < b

/-- `r` ends before `s` begins. -/
def Before (r s : HalfOpen K) : Prop := ∃ b ∈ r.2, b ≤ s.1

def Apart (r s : HalfOpen K) : Prop := r.Before s ∨ s.Before r

/-- `r` does not reach beyond the begin of `s`, if it ends at all. -/
def Clear (r s : HalfOpen K) : Prop := ∀ b ∈ r.2, b ≤ s.1

instance decidableCovers (r : HalfOpen K) (x : K) : Decidable (r.Covers x) :=
  inferInstanceAs (Decidable (_ ∧ _))

instance decidableBefore (r s : HalfOpen K) : Decidable (r.Before s) :=
  inferInstanceAs (Decidable (∃ b ∈ r.2, _))

instance decidableApart (r s : HalfOpen K) : Decidable (r.Apart s) :=
  inferInstanceAs (Decidable (_ ∨ _))

theorem Apart.symm (h : r.Apart s) : s.Apart r := Or.symm h

instance : Std.Symm (Apart (K := K)) := ⟨fun _ _ h => h.symm⟩

theorem Before.clear (h : r.Before s) : r.Clear s := by
  obtain ⟨b, hb, hle⟩ := h
  intro c hc
  rw [Option.mem_def.mp hb] at hc
  cases hc
  exact hle

/-! ## Common points -/

theorem Before.not_both (h : r.Before s) : ¬ (r.Covers x ∧ s.Covers x) := by
  obtain ⟨b, hb, hle⟩ := h
  rintro ⟨hr, hs⟩
  exact absurd ((hr.2 b hb).trans_le (hle.trans hs.1)) (lt_irrefl x)

/-- Intervals that lie apart have no point in common. -/
theorem Apart.not_both (h : r.Apart s) : ¬ (r.Covers x ∧ s.Covers x) := by
  rcases h with h | h
  · exact h.not_both
  · exact fun hx => h.not_both hx.symm

/-- Nonempty intervals without a common point lie apart. -/
theorem apart_iff (hr : r.Nonempty) (hs : s.Nonempty) :
    r.Apart s ↔ ∀ x, ¬ (r.Covers x ∧ s.Covers x) := by
  refine ⟨fun h x => h.not_both, fun h => ?_⟩
  by_contra hnot
  obtain ⟨hrs, hsr⟩ := not_or.mp hnot
  -- the later begin lies in both
  refine h (max r.1 s.1) ⟨⟨le_max_left _ _, fun b hb => ?_⟩, ⟨le_max_right _ _, fun b hb => ?_⟩⟩
  · exact max_lt (hr b hb) (not_le.mp fun hle => hrs ⟨b, hb, hle⟩)
  · exact max_lt (not_le.mp fun hle => hsr ⟨b, hb, hle⟩) (hs b hb)

/-! ## Sorted lists -/

/-- An interval that begins no earlier and lies apart begins after the end. -/
theorem Apart.before (h : r.Apart s) (hle : r.1 ≤ s.1) (hs : s.Nonempty) : r.Before s := by
  rcases h with h | ⟨b, hb, hbr⟩
  · exact h
  · exact absurd (hs b hb) (not_lt.mpr (hbr.trans hle))

theorem Before.trans_le (h : r.Before s) (hle : s.1 ≤ t.1) : r.Before t := by
  obtain ⟨b, hb, hbs⟩ := h
  exact ⟨b, hb, hbs.trans hle⟩

theorem Before.isSome (h : r.Before s) : r.2.isSome := by
  obtain ⟨b, hb, -⟩ := h
  rw [Option.mem_def.mp hb]
  rfl

theorem Clear.before (h : r.Clear s) (hr : r.2.isSome) : r.Before s := by
  obtain ⟨b, hb⟩ := Option.isSome_iff_exists.mp hr
  exact ⟨b, hb, h b hb⟩

/-- Every interval that has another one after it ends. -/
def EndlessLast (l : List (HalfOpen K)) : Prop := l.Pairwise fun r _ => r.2.isSome

/-- Two intervals overlap, and the first of them ends. -/
def Collide (l : List (HalfOpen K)) : Prop :=
  ∃ r s, [r, s].Sublist l ∧ r.2.isSome ∧ ¬ r.Apart s

theorem not_collide_iff : ¬ Collide l ↔ l.Pairwise fun r s => r.2.isSome → r.Apart s := by
  rw [List.pairwise_iff_forall_sublist]
  constructor
  · intro h r s hl hr
    by_contra hnot
    exact h ⟨r, s, hl, hr, hnot⟩
  · rintro h ⟨r, s, hl, hr, hnot⟩
    exact hnot (h hl hr)

instance decidableEndlessLast (l : List (HalfOpen K)) : Decidable (EndlessLast l) :=
  inferInstanceAs (Decidable (List.Pairwise _ _))

instance decidableCollide (l : List (HalfOpen K)) : Decidable (Collide l) :=
  decidable_of_iff (¬ l.Pairwise fun r s => r.2.isSome → r.Apart s) (by rw [← not_collide_iff, not_not])

/-- An interval that ends before the next one begins ends before all that
begin later. -/
theorem not_collide_of_chain (hsorted : l.Pairwise fun r s => r.1 ≤ s.1) (h : l.IsChain Clear) :
    ¬ Collide l := by
  rw [not_collide_iff]
  induction l with
  | nil => exact .nil
  | cons r l ih =>
      obtain ⟨hfirst, hrest⟩ := List.pairwise_cons.mp hsorted
      refine List.pairwise_cons.mpr ⟨fun t ht hr => ?_, ih hrest h.tail⟩
      cases l with
      | nil => cases ht
      | cons s l =>
          have hrs : r.Before s := (List.isChain_cons_cons.mp h).1.before hr
          rcases List.mem_cons.mp ht with rfl | ht
          · exact .inl hrs
          · exact .inl (hrs.trans_le ((List.pairwise_cons.mp hrest).1 t ht))

/-- Neighbours are enough to find two that collide. -/
theorem chain_clear_iff (hsorted : l.Pairwise fun r s => r.1 ≤ s.1)
    (hvalid : ∀ r ∈ l, r.Nonempty) : l.IsChain Clear ↔ ¬ Collide l := by
  constructor
  · exact not_collide_of_chain hsorted
  · intro h
    rw [not_collide_iff] at h
    refine ((hsorted.and h).imp_of_mem fun _ hs hrs => ?_).isChain
    obtain ⟨hle, hapart⟩ := hrs
    intro b hb
    exact ((hapart (Option.isSome_of_mem hb)).before hle (hvalid _ hs)).clear b hb

/-- All lie apart if no two collide and each that has another one after it
ends. -/
theorem pairwise_apart_of_not_collide (hlast : EndlessLast l) (h : ¬ Collide l) :
    l.Pairwise Apart :=
  (hlast.and (not_collide_iff.mp h)).imp fun hrs => hrs.2 hrs.1

theorem pairwise_apart_iff (hsorted : l.Pairwise fun r s => r.1 ≤ s.1)
    (hvalid : ∀ r ∈ l, r.Nonempty) : l.Pairwise Apart ↔ EndlessLast l ∧ ¬ Collide l := by
  refine ⟨fun h => ⟨?_, not_collide_iff.mpr (h.imp ?_)⟩, fun h => ?_⟩
  · exact (hsorted.and h).imp_of_mem fun _ hs hrs => (hrs.2.before hrs.1 (hvalid _ hs)).isSome
  · intro r s hrs _
    exact hrs
  · exact pairwise_apart_of_not_collide h.1 h.2

/-- If no interval reaches beyond the begin of its successor, all lie apart, as
far as each that has another one after it ends. -/
theorem pairwise_apart_of_chain (hsorted : l.Pairwise fun r s => r.1 ≤ s.1) (h : l.IsChain Clear)
    (htold : EndlessLast l ∨ Collide l) : l.Pairwise Apart := by
  have hfree : ¬ Collide l := not_collide_of_chain hsorted h
  exact pairwise_apart_of_not_collide (htold.resolve_right hfree) hfree

/-- **Neighbours.** That no interval reaches beyond the begin of its successor
says the same as that all lie apart if and only if every interval that has
another one after it ends, or two collide. -/
theorem chain_clear_iff_pairwise_apart (hsorted : l.Pairwise fun r s => r.1 ≤ s.1)
    (hvalid : ∀ r ∈ l, r.Nonempty) :
    ((l.IsChain Clear ↔ l.Pairwise Apart) ↔ EndlessLast l ∨ Collide l) := by
  rw [chain_clear_iff hsorted hvalid, pairwise_apart_iff hsorted hvalid]
  tauto

end HalfOpen
