import WmsDu.Data.Table

/-!
# Tallies

A dictionary of totals that a loop fills: `d[k] = d.get(k, 0) + n`. It is a
table keyed by `k`, in the order the keys first came, and its totals are sums
over the lines the loop went through.
-/

/-- A dictionary of totals. -/
abbrev Tally (K : Type) := Table (Prod.fst : K × Int → K)

namespace Tally

variable {K R : Type} [DecidableEq K]

/-- `d.get(k, 0)`. -/
def get (t : Tally K) (k : K) : Int := sumOver (fun e : K × Int => e.1 = k) Prod.snd t.rows

/-- `d[k] = d.get(k, 0) + n`. -/
def add (t : Tally K) (k : K) (n : Int) : Tally K :=
  if t.HasKey k then t.update (fun e => e.1 = k) (fun e => (e.1, e.2 + n)) fun _ => rfl
  else t.insert (k, n)

@[simp] theorem get_empty (k : K) : get (.empty : Tally K) k = 0 := rfl

theorem get_of_mem {t : Tally K} {e : K × Int} (h : e ∈ t.rows) : t.get e.1 = e.2 :=
  Table.sumOver_key h

theorem get_of_not_hasKey {t : Tally K} {k : K} (h : ¬ t.HasKey k) : t.get k = 0 :=
  Table.sumOver_key_absent h

theorem get_add (t : Tally K) (k k' : K) (n : Int) :
    (t.add k n).get k' = t.get k' + if k = k' then n else 0 := by
  unfold add get
  by_cases h : t.HasKey k
  · obtain ⟨e, he, rfl⟩ := h
    rw [if_pos ⟨e, he, rfl⟩]
    have hmove := Table.sumOver_update_key (q := fun e : K × Int => e.1 = k') (g := Prod.snd)
      (u := fun e : K × Int => (e.1, e.2 + n)) (fun _ => rfl) he Iff.rfl
    rw [hmove]
    by_cases hk : e.1 = k'
    · rw [if_pos hk, if_pos hk]
      ring
    · rw [if_neg hk, if_neg hk]
  · rw [if_neg h, Table.sumOver_insert_new h]

theorem hasKey_add {t : Tally K} {k k' : K} {n : Int} :
    (t.add k n).HasKey k' ↔ t.HasKey k' ∨ k' = k := by
  unfold add
  by_cases h : t.HasKey k
  · rw [if_pos h, Table.hasKey_update]
    constructor
    · exact Or.inl
    · rintro (hk | rfl)
      · exact hk
      · exact h
  · rw [if_neg h, Table.hasKey_insert]

/-- The tally of a list: the rows that satisfy `p`, each under its key. -/
def ofList (p : R → Prop) [DecidablePred p] (key : R → K) (f : R → Int) (l : List R) : Tally K :=
  l.foldl (fun t r => if p r then t.add (key r) (f r) else t) .empty

section OfList
variable {p : R → Prop} [DecidablePred p] {key : R → K} {f : R → Int}

private theorem get_foldl (l : List R) (t : Tally K) (k : K) :
    (l.foldl (fun t r => if p r then t.add (key r) (f r) else t) t).get k =
      t.get k + sumOver (fun r => p r ∧ key r = k) f l := by
  induction l generalizing t with
  | nil => simp
  | cons r l ih =>
      rw [List.foldl_cons, ih, sumOver_cons]
      by_cases hp : p r
      · rw [if_pos hp, get_add]
        by_cases hk : key r = k
        · rw [if_pos hk, if_pos ⟨hp, hk⟩]
          ring
        · rw [if_neg hk, if_neg (fun h => hk h.2)]
          ring
      · rw [if_neg hp, if_neg (fun h => hp h.1), zero_add]

/-- A tally's total is the sum over the lines of that key. -/
theorem get_ofList (l : List R) (k : K) :
    (ofList p key f l).get k = sumOver (fun r => p r ∧ key r = k) f l := by
  rw [ofList, get_foldl, get_empty, zero_add]

private theorem hasKey_foldl (l : List R) (t : Tally K) (k : K) :
    (l.foldl (fun t r => if p r then t.add (key r) (f r) else t) t).HasKey k ↔
      t.HasKey k ∨ ∃ r ∈ l, p r ∧ key r = k := by
  induction l generalizing t with
  | nil => simp
  | cons r l ih =>
      rw [List.foldl_cons, ih]
      by_cases hp : p r
      · rw [if_pos hp, hasKey_add]
        rw [List.exists_mem_cons_iff, or_assoc, eq_comm (a := k)]
        simp only [hp, true_and]
      · rw [if_neg hp]
        simp [hp]

theorem hasKey_ofList {l : List R} {k : K} :
    (ofList p key f l).HasKey k ↔ ∃ r ∈ l, p r ∧ key r = k := by
  rw [ofList, hasKey_foldl]
  constructor
  · rintro (⟨e, he, -⟩ | h)
    · cases he
    · exact h
  · exact Or.inr

end OfList

end Tally
