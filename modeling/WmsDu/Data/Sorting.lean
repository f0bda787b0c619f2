import Mathlib.Data.List.Sort
import Mathlib.Data.Prod.Lex

/-!
# Sorting by a key

A stable sort, as `sorted(xs, key=…)` does it, and its least element.
-/

section SortOn
variable {α β K : Type} [LinearOrder K] {key : α → K} {l : List α}

/-- Sort by a key, equal keys in their old order. -/
def sortOn (key : α → K) (l : List α) : List α := l.insertionSort fun a b => key a ≤ key b

@[simp] theorem sortOn_nil : sortOn key [] = [] := rfl

@[simp] theorem mem_sortOn {a : α} : a ∈ sortOn key l ↔ a ∈ l := List.mem_insertionSort _

theorem perm_sortOn (key : α → K) (l : List α) : (sortOn key l).Perm l := List.perm_insertionSort _ l

theorem length_sortOn : (sortOn key l).length = l.length := (perm_sortOn key l).length_eq

private instance totalKey (key : α → K) : Std.Total fun a b : α => key a ≤ key b :=
  ⟨fun a b => le_total (key a) (key b)⟩

private instance transKey (key : α → K) : IsTrans α fun a b : α => key a ≤ key b :=
  ⟨fun _ _ _ => le_trans⟩

theorem pairwise_sortOn (key : α → K) (l : List α) :
    (sortOn key l).Pairwise fun a b => key a ≤ key b := List.pairwise_insertionSort _ l

/-- A sorted list stays as it is. -/
theorem sortOn_of_pairwise (h : l.Pairwise fun a b => key a ≤ key b) : sortOn key l = l :=
  h.insertionSort_eq

/-- Sorting commutes with a change of the elements that keeps their keys'
order. -/
theorem sortOn_map {K' : Type} [LinearOrder K'] {key' : β → K'} {f : α → β}
    (h : ∀ a ∈ l, ∀ b ∈ l, key a ≤ key b ↔ key' (f a) ≤ key' (f b)) :
    sortOn key' (l.map f) = (sortOn key l).map f :=
  (List.map_insertionSort _ _ f l h).symm

/-- Keys that agree on the list sort it alike. -/
theorem sortOn_congr {K' : Type} [LinearOrder K'] {key' : α → K'}
    (h : ∀ a ∈ l, ∀ b ∈ l, key a ≤ key b ↔ key' a ≤ key' b) : sortOn key' l = sortOn key l := by
  have hmap := sortOn_map (f := fun a => a) h
  rwa [List.map_id', List.map_id'] at hmap

/-- A change of the elements that keeps the order of a sorted list leaves it
sorted. -/
theorem sortOn_map_sortOn {K' : Type} [LinearOrder K'] {key' : β → K'} {f : α → β}
    (h : ∀ a ∈ l, ∀ b ∈ l, key a ≤ key b → key' (f a) ≤ key' (f b)) :
    sortOn key' ((sortOn key l).map f) = (sortOn key l).map f := by
  refine sortOn_of_pairwise (List.pairwise_map.mpr ?_)
  refine (pairwise_sortOn key l).imp_of_mem fun {a b} ha hb hle => ?_
  exact h a (mem_sortOn.mp ha) b (mem_sortOn.mp hb) hle

/-- Ties of a first key are all that a change of the second may break. -/
theorem toLex_le_of_ties {K' K'' : Type} [LinearOrder K'] [LinearOrder K''] {k l : K} {i j : K'}
    {i' j' : K''} (h : toLex (k, i) ≤ toLex (l, j)) (hties : k = l → i ≤ j → i' ≤ j') :
    toLex (k, i') ≤ toLex (l, j') := by
  rcases Prod.Lex.toLex_le_toLex.mp h with hlt | ⟨heq, hle⟩
  · exact Prod.Lex.toLex_le_toLex.mpr (.inl hlt)
  · exact Prod.Lex.toLex_le_toLex.mpr (.inr ⟨heq, hties heq hle⟩)

theorem head?_sortOn_eq_none : (sortOn key l).head? = none ↔ l = [] := by
  rw [List.head?_eq_none_iff, ← List.length_eq_zero_iff, length_sortOn, List.length_eq_zero_iff]

/-- The head of the sorted list is a least element. -/
theorem head?_sortOn {a : α} (h : (sortOn key l).head? = some a) :
    a ∈ l ∧ ∀ b ∈ l, key a ≤ key b := by
  obtain ⟨rest, hrest⟩ := List.head?_eq_some_iff.mp h
  have hsorted := pairwise_sortOn key l
  rw [hrest, List.pairwise_cons] at hsorted
  have hmem : ∀ b, b ∈ a :: rest ↔ b ∈ l := fun b => by rw [← hrest, mem_sortOn]
  refine ⟨(hmem a).mp List.mem_cons_self, fun b hb => ?_⟩
  rcases List.mem_cons.mp ((hmem b).mpr hb) with rfl | hb
  · exact le_rfl
  · exact hsorted.1 b hb

/-- With distinct keys there is one least element. -/
theorem head?_sortOn_unique {a : α} (hinj : ∀ b ∈ l, key b = key a → b = a) (ha : a ∈ l)
    (hleast : ∀ b ∈ l, key a ≤ key b) : (sortOn key l).head? = some a := by
  cases h : (sortOn key l).head? with
  | none =>
      rw [head?_sortOn_eq_none] at h
      rw [h] at ha
      cases ha
  | some b =>
      obtain ⟨hb, hmin⟩ := head?_sortOn h
      rw [hinj b hb (le_antisymm (hmin a ha) (hleast b hb))]

/-- The head of the sorted list is the first of the least elements. -/
theorem head?_sortOn_first {l₁ l₂ : List α} {a : α} (h₁ : ∀ b ∈ l₁, key a < key b)
    (h₂ : ∀ b ∈ l₂, key a ≤ key b) : (sortOn key (l₁ ++ a :: l₂)).head? = some a := by
  induction l₁ with
  | nil =>
      show ((sortOn key l₂).orderedInsert (fun a b => key a ≤ key b) a).head? = some a
      cases h : sortOn key l₂ with
      | nil => rfl
      | cons b rest =>
          have hb : b ∈ l₂ := mem_sortOn.mp (h ▸ List.mem_cons_self)
          rw [List.orderedInsert_cons, if_pos (h₂ b hb)]
          rfl
  | cons b l₁ ih =>
      show ((sortOn key (l₁ ++ a :: l₂)).orderedInsert (fun a b => key a ≤ key b) b).head? = some a
      obtain ⟨rest, hrest⟩ :=
        List.head?_eq_some_iff.mp (ih fun c hc => h₁ c (List.mem_cons_of_mem _ hc))
      rw [hrest, List.orderedInsert_cons, if_neg (not_le.mpr (h₁ b List.mem_cons_self))]
      rfl

/-! ### Searching -/

private theorem filter_orderedInsert (p : α → Bool) (a : α) {s : List α}
    (hs : s.Pairwise fun a b => key a ≤ key b) :
    (s.orderedInsert (fun a b => key a ≤ key b) a).filter p =
      if p a then (s.filter p).orderedInsert (fun a b => key a ≤ key b) a else s.filter p := by
  induction s with
  | nil => simp [List.filter_cons]
  | cons b s ih =>
      obtain ⟨hb, hs'⟩ := List.pairwise_cons.mp hs
      rw [List.orderedInsert_cons]
      split
      · rename_i hle
        rw [List.filter_cons]
        split
        · -- whatever is left of the sorted list comes after the new element
          symm
          cases hrest : (b :: s).filter p with
          | nil => rfl
          | cons c rest =>
              have hc : c ∈ b :: s := (List.mem_filter.mp (hrest ▸ List.mem_cons_self)).1
              have hle' : key a ≤ key c := by
                rcases List.mem_cons.mp hc with rfl | hc
                · exact hle
                · exact hle.trans (hb c hc)
              rw [List.orderedInsert_cons, if_pos hle']
        · rfl
      · rename_i hle
        rw [List.filter_cons, List.filter_cons, ih hs']
        split <;> split <;> simp [List.orderedInsert_cons, hle]

/-- Sorting and filtering commute. -/
theorem filter_sortOn (p : α → Bool) (l : List α) :
    (sortOn key l).filter p = sortOn key (l.filter p) := by
  induction l with
  | nil => rfl
  | cons a l ih =>
      show ((sortOn key l).orderedInsert (fun a b => key a ≤ key b) a).filter p = _
      rw [filter_orderedInsert p a (pairwise_sortOn key l), ih, List.filter_cons]
      split <;> rfl

theorem find?_sortOn (p : α → Bool) (l : List α) :
    (sortOn key l).find? p = (sortOn key (l.filter p)).head? := by
  rw [← filter_sortOn, List.head?_filter]

/-- A search through the sorted list ends at the first of the least elements
it looks for. -/
theorem find?_sortOn_first {p : α → Bool} {l₁ l₂ : List α} {a : α} (ha : p a)
    (h₁ : ∀ b ∈ l₁, p b → key a < key b) (h₂ : ∀ b ∈ l₂, p b → key a ≤ key b) :
    (sortOn key (l₁ ++ a :: l₂)).find? p = some a := by
  rw [find?_sortOn, List.filter_append, List.filter_cons_of_pos ha]
  refine head?_sortOn_first (fun b hb => ?_) fun b hb => ?_
  · exact h₁ b (List.mem_filter.mp hb).1 (List.mem_filter.mp hb).2
  · exact h₂ b (List.mem_filter.mp hb).1 (List.mem_filter.mp hb).2

/-- What a search through the sorted list ends at is a least element. -/
theorem find?_sortOn_least {p : α → Bool} {a : α} (h : (sortOn key l).find? p = some a) :
    ∀ b ∈ l, p b → key a ≤ key b := by
  rw [find?_sortOn] at h
  exact fun b hb hp => (head?_sortOn h).2 b (List.mem_filter.mpr ⟨hb, hp⟩)

/-- **Searching.** A search ends at the same element in both orders exactly if
what it ends at in the old one is a least element. -/
theorem find?_eq_find?_sortOn {p : α → Bool} :
    l.find? p = (sortOn key l).find? p ↔ ∀ a ∈ l.find? p, ∀ b ∈ l, p b → key a ≤ key b := by
  constructor
  · intro h a ha
    rw [h] at ha
    exact find?_sortOn_least ha
  · intro h
    cases hfind : l.find? p with
    | none =>
        rw [find?_sortOn, List.filter_eq_nil_iff.mpr fun b hb => List.find?_eq_none.mp hfind b hb]
        rfl
    | some a =>
        obtain ⟨ha, l₁, l₂, rfl, hfirst⟩ := List.find?_eq_some_iff_append.mp hfind
        refine (find?_sortOn_first ha (fun b hb hp => ?_) fun b hb hp => ?_).symm
        · exact absurd hp (by simpa using hfirst b hb)
        · exact h a hfind b (List.mem_append_right _ (List.mem_cons_of_mem _ hb)) hp

end SortOn
