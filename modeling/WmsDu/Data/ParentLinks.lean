import Mathlib

/-!
# Parent links

A partial function `up` sends an element to its parent; nothing is assumed of
it, so chains of parents may end, cycle or leave what is known. `Nearest` is
the first value met on a chain. A `Forest` lists roots and, below each
element, its children. It shows every element of a collection at one place
exactly if the roots are the elements without a parent and no chain cycles.
-/

variable {N V : Type}

/-! ## Ancestors -/

/-- The element `k` parents up. -/
def ancestor (up : N → Option N) : Nat → N → Option N
  | 0, n => some n
  | k + 1, n => (up n).bind (ancestor up k)

section Ancestor
variable {up : N → Option N} {n p : N} {j k : Nat}

@[simp] theorem ancestor_zero : ancestor up 0 n = some n := rfl

theorem ancestor_succ : ancestor up (k + 1) n = (up n).bind (ancestor up k) := rfl

theorem ancestor_add : ancestor up (j + k) n = (ancestor up j n).bind (ancestor up k) := by
  induction j generalizing n with
  | zero => simp
  | succ j ih =>
      rw [Nat.succ_add, ancestor_succ, ancestor_succ]
      cases up n with
      | none => rfl
      | some p => exact ih

theorem ancestor_add_of_some (h : ancestor up j n = some p) :
    ancestor up (j + k) n = ancestor up k p := by
  rw [ancestor_add, h, Option.bind_some]

/-- Nothing is above an element without a parent. -/
theorem ancestor_succ_of_top (h : up n = none) : ancestor up (k + 1) n = none := by
  rw [ancestor_succ, h, Option.bind_none]

theorem ancestor_one : ancestor up 1 n = up n := by
  rw [ancestor_succ]
  cases up n with
  | none => rfl
  | some p => rfl

/-- No element is its own ancestor. -/
def Acyclic (up : N → Option N) : Prop := ∀ n k, ancestor up (k + 1) n ≠ some n

theorem transGen_iff : Relation.TransGen (fun a b => up a = some b) n p ↔
    ∃ k, ancestor up (k + 1) n = some p := by
  constructor
  · intro h
    induction h with
    | single h => exact ⟨0, by rw [ancestor_one, h]⟩
    | tail _ h ih =>
        obtain ⟨k, hk⟩ := ih
        exact ⟨k + 1, by rw [ancestor_add_of_some hk, ancestor_one, h]⟩
  · rintro ⟨k, hk⟩
    induction k generalizing p with
    | zero => exact Relation.TransGen.single (by rwa [ancestor_one] at hk)
    | succ k ih =>
        rw [ancestor_add] at hk
        obtain ⟨q, hq, hup⟩ := Option.bind_eq_some_iff.mp hk
        exact (ih hq).tail (by rwa [ancestor_one] at hup)

theorem acyclic_iff : Acyclic up ↔ ∀ n, ¬ Relation.TransGen (fun a b => up a = some b) n n := by
  simp only [Acyclic, transGen_iff, not_exists, ne_eq]

/-- Where the parents are finitely many and no chain cycles, each chain ends. -/
theorem exists_top {l : List N} (hparents : ∀ n p, up n = some p → p ∈ l) (h : Acyclic up)
    (n : N) : ∃ k t, ancestor up k n = some t ∧ up t = none := by
  by_contra hnone
  -- an endless chain would meet some element twice
  have hall : ∀ k, ∃ t, ancestor up k n = some t := by
    intro k
    induction k with
    | zero => exact ⟨n, rfl⟩
    | succ k ih =>
        obtain ⟨t, ht⟩ := ih
        cases hup : up t with
        | none => exact absurd ⟨k, t, ht, hup⟩ hnone
        | some p => exact ⟨p, by rw [ancestor_add_of_some ht, ancestor_one, hup]⟩
  choose f hf using hall
  have hmem : ∀ k, f (k + 1) ∈ l := by
    intro k
    have hk := hf (k + 1)
    rw [ancestor_add_of_some (hf k), ancestor_one] at hk
    exact hparents _ _ hk
  have hfinite : Finite {a // a ∈ l} := l.finite_toSet.to_subtype
  obtain ⟨i, j, hne, heq⟩ := Finite.exists_ne_map_eq_of_infinite
    fun k => (⟨f (k + 1), hmem k⟩ : {a // a ∈ l})
  have heq : f (i + 1) = f (j + 1) := congrArg Subtype.val heq
  have hcycle : ∀ {i j}, i < j → f (i + 1) ≠ f (j + 1) := by
    intro i j hlt heq
    have hj := hf (j + 1)
    rw [show j + 1 = i + 1 + (j - i - 1 + 1) by omega, ancestor_add_of_some (hf (i + 1)),
      ← show j + 1 = i + 1 + (j - i - 1 + 1) by omega, ← heq] at hj
    exact h _ _ hj
  rcases Nat.lt_or_gt_of_ne hne with hlt | hlt
  · exact hcycle hlt heq
  · exact hcycle hlt heq.symm

end Ancestor

/-! ## The nearest value -/

/-- The first value on a chain of parents, that of the element itself included. -/
inductive Nearest (up : N → Option N) (own : N → Option V) : N → V → Prop
  | own {n v} : own n = some v → Nearest up own n v
  | up {n p v} : own n = none → up n = some p → Nearest up own p v → Nearest up own n v

section Nearest
variable {up : N → Option N} {own : N → Option V} {n p : N} {v w : V} {k : Nat}

theorem Nearest.unique (h : Nearest up own n v) (h' : Nearest up own n w) : v = w := by
  induction h with
  | own hown =>
      cases h' with
      | own hown' => exact Option.some.inj (hown.symm.trans hown')
      | up hnone => cases hown.symm.trans hnone
  | up hnone hup _ ih =>
      cases h' with
      | own hown' => cases hown'.symm.trans hnone
      | up _ hup' h' =>
          obtain rfl := Option.some.inj (hup.symm.trans hup')
          exact ih h'

/-- An element without a value has that of its parent. -/
theorem nearest_iff_up (hnone : own n = none) (hup : up n = some p) :
    Nearest up own n v ↔ Nearest up own p v := by
  constructor
  · intro h
    cases h with
    | own hown => cases hown.symm.trans hnone
    | up _ hup' h =>
        obtain rfl := Option.some.inj (hup.symm.trans hup')
        exact h
  · exact Nearest.up hnone hup

/-- No value is found from an element on a cycle, where elements with a value
end their chains. -/
theorem Nearest.not_cycle (hends : ∀ n v, own n = some v → up n = none)
    (h : Nearest up own n v) : ancestor up (k + 1) n ≠ some n := by
  induction h generalizing k with
  | own hown =>
      rw [ancestor_succ_of_top (hends _ _ hown)]
      exact (Option.some_ne_none _).symm
  | @up n p v hnone hup _ ih =>
      intro hcycle
      -- the parent is on the same cycle
      have hn : ancestor up k p = some n := by
        rwa [ancestor_succ, hup, Option.bind_some] at hcycle
      refine ih (k := k) ?_
      rw [ancestor_add_of_some hn, ancestor_one, hup]

end Nearest

/-! ## Forests -/

/-- Roots, and the children below each element. -/
structure Forest (N : Type) where
  roots : List N
  children : N → List N

/-- The element at a place: an index into the roots and one into the children
on each level below, the innermost first. -/
def Forest.nodeAt (f : Forest N) : List Nat → Option N
  | [] => none
  | [i] => f.roots[i]?
  | i :: j :: rest => (f.nodeAt (j :: rest)).bind fun p => (f.children p)[i]?

/-- The forest of the elements of `l` that parent links and a choice of roots draw. -/
structure Forest.Draws (f : Forest N) (l : List N) (up : N → Option N) (root : N → Prop) : Prop where
  roots_nodup : f.roots.Nodup
  mem_roots : ∀ n, n ∈ f.roots ↔ n ∈ l ∧ root n
  children_nodup : ∀ p, (f.children p).Nodup
  mem_children : ∀ p ∈ l, ∀ n, n ∈ f.children p ↔ n ∈ l ∧ up n = some p
  parent_mem : ∀ n p, up n = some p → p ∈ l

namespace Forest
variable {f : Forest N} {l : List N} {up : N → Option N} {root : N → Prop} {n : N}

theorem nodeAt_cons {i : Nat} {place : List Nat} (h : place ≠ []) :
    f.nodeAt (i :: place) = (f.nodeAt place).bind fun p => (f.children p)[i]? := by
  cases place with
  | nil => exact absurd rfl h
  | cons j rest => rfl

/-- Only elements of the collection are shown. -/
theorem Draws.nodeAt_mem (h : f.Draws l up root) {place : List Nat} (hn : f.nodeAt place = some n) :
    n ∈ l := by
  induction place generalizing n with
  | nil => cases hn
  | cons i rest ih =>
      cases rest with
      | nil => exact ((h.mem_roots n).mp (List.mem_of_getElem? hn)).1
      | cons j rest =>
          obtain ⟨p, hp, hn⟩ := Option.bind_eq_some_iff.mp hn
          exact ((h.mem_children p (ih hp) n).mp (List.mem_of_getElem? hn)).1

/-- An element is shown `k` levels below the roots if its `k`-th ancestor is one. -/
theorem Draws.exists_place_iff (h : f.Draws l up root) (hn : n ∈ l) {k : Nat} :
    (∃ place, place.length = k + 1 ∧ f.nodeAt place = some n) ↔
      ∃ r, ancestor up k n = some r ∧ root r := by
  induction k generalizing n with
  | zero =>
      constructor
      · rintro ⟨place, hlen, hplace⟩
        obtain ⟨i, rfl⟩ := List.length_eq_one_iff.mp hlen
        exact ⟨n, rfl, ((h.mem_roots n).mp (List.mem_of_getElem? hplace)).2⟩
      · rintro ⟨r, hr, hroot⟩
        obtain rfl := Option.some.inj hr
        obtain ⟨i, hi⟩ := List.mem_iff_getElem?.mp ((h.mem_roots n).mpr ⟨hn, hroot⟩)
        exact ⟨[i], rfl, hi⟩
  | succ k ih =>
      constructor
      · rintro ⟨place, hlen, hplace⟩
        obtain ⟨i, rest, rfl⟩ := List.exists_cons_of_length_eq_add_one hlen
        have hrest : rest.length = k + 1 := by simpa using hlen
        rw [nodeAt_cons (List.ne_nil_of_length_eq_add_one hrest)] at hplace
        obtain ⟨p, hp, hchild⟩ := Option.bind_eq_some_iff.mp hplace
        have hpl := h.nodeAt_mem hp
        have hup := ((h.mem_children p hpl n).mp (List.mem_of_getElem? hchild)).2
        rw [ancestor_succ, hup]
        exact (ih hpl).mp ⟨rest, hrest, hp⟩
      · rintro ⟨r, hr, hroot⟩
        rw [ancestor_succ] at hr
        obtain ⟨p, hup, hr⟩ := Option.bind_eq_some_iff.mp hr
        have hpl := h.parent_mem n p hup
        obtain ⟨rest, hrest, hp⟩ := (ih hpl).mpr ⟨r, hr, hroot⟩
        obtain ⟨i, hi⟩ := List.mem_iff_getElem?.mp ((h.mem_children p hpl n).mpr ⟨hn, hup⟩)
        refine ⟨i :: rest, by rw [List.length_cons, hrest], ?_⟩
        rw [nodeAt_cons (List.ne_nil_of_length_eq_add_one hrest), hp]
        exact hi

/-- On one level an element is shown once. -/
theorem Draws.place_unique (h : f.Draws l up root) {place place' : List Nat}
    (hlen : place.length = place'.length) (hn : f.nodeAt place = some n)
    (hn' : f.nodeAt place' = some n) : place = place' := by
  induction place generalizing n place' with
  | nil => cases hn
  | cons i rest ih =>
      obtain ⟨i', rest', rfl⟩ := List.exists_cons_of_length_eq_add_one hlen.symm
      have hrest : rest.length = rest'.length := by simpa using hlen
      by_cases hnil : rest = []
      · subst hnil
        obtain rfl := List.length_eq_zero_iff.mp hrest.symm
        rw [(List.getElem?_inj ?_ h.roots_nodup).mp (hn.trans hn'.symm)]
        exact (List.getElem?_eq_some_iff.mp hn).1
      · have hnil' : rest' ≠ [] := by
          rintro rfl
          exact hnil (List.length_eq_zero_iff.mp hrest)
        rw [nodeAt_cons hnil] at hn
        rw [nodeAt_cons hnil'] at hn'
        obtain ⟨p, hp, hchild⟩ := Option.bind_eq_some_iff.mp hn
        obtain ⟨p', hp', hchild'⟩ := Option.bind_eq_some_iff.mp hn'
        -- both places are below the parent of the element
        have hup := ((h.mem_children p (h.nodeAt_mem hp) n).mp (List.mem_of_getElem? hchild)).2
        have hup' := ((h.mem_children p' (h.nodeAt_mem hp') n).mp (List.mem_of_getElem? hchild')).2
        obtain rfl := Option.some.inj (hup.symm.trans hup')
        rw [ih hrest hp hp', (List.getElem?_inj ?_ (h.children_nodup p)).mp (hchild.trans hchild'.symm)]
        exact (List.getElem?_eq_some_iff.mp hchild).1

/-- An element is shown at one place if one of its ancestors is a root. -/
theorem Draws.existsUnique_place_iff (h : f.Draws l up root) (hn : n ∈ l) :
    (∃! place, f.nodeAt place = some n) ↔ ∃! k, ∃ r, ancestor up k n = some r ∧ root r := by
  constructor
  · rintro ⟨place, hplace, huniq⟩
    obtain ⟨k, hk⟩ : ∃ k, place.length = k + 1 := by
      refine Nat.exists_eq_succ_of_ne_zero fun hzero => ?_
      obtain rfl := List.length_eq_zero_iff.mp hzero
      cases hplace
    refine ⟨k, (h.exists_place_iff hn).mp ⟨place, hk, hplace⟩, fun k' hk' => ?_⟩
    obtain ⟨place', hlen', hplace'⟩ := (h.exists_place_iff hn).mpr hk'
    rw [huniq place' hplace'] at hlen'
    omega
  · rintro ⟨k, hk, huniq⟩
    obtain ⟨place, hlen, hplace⟩ := (h.exists_place_iff hn).mpr hk
    refine ⟨place, hplace, fun place' hplace' => h.place_unique ?_ hplace' hplace⟩
    obtain ⟨k', hk'⟩ : ∃ k', place'.length = k' + 1 := by
      refine Nat.exists_eq_succ_of_ne_zero fun hzero => ?_
      obtain rfl := List.length_eq_zero_iff.mp hzero
      cases hplace'
    rw [hk', hlen, huniq k' ((h.exists_place_iff hn).mp ⟨place', hk', hplace'⟩)]

/-- **Every element is shown at one place** exactly if the roots are the
elements without a parent and no chain of parents cycles. -/
theorem Draws.once_iff (h : f.Draws l up root) (hl : ∀ n, n ∉ l → up n = none) :
    (∀ n ∈ l, ∃! place, f.nodeAt place = some n) ↔
      (∀ n ∈ l, root n ↔ up n = none) ∧ Acyclic up := by
  constructor
  · intro honce
    have hone := fun n hn => (h.existsUnique_place_iff hn).mp (honce n hn)
    refine ⟨fun n hn => ?_, fun n k hcycle => ?_⟩
    · obtain ⟨k, ⟨r, hr, hroot⟩, huniq⟩ := hone n hn
      constructor
      · intro hself
        cases hup : up n with
        | none => rfl
        | some p =>
            -- a root with a parent is shown below it too
            obtain ⟨j, ⟨q, hq, hqroot⟩, -⟩ := hone p (h.parent_mem n p hup)
            have h0 := huniq 0 ⟨n, rfl, hself⟩
            have hj := huniq (j + 1) ⟨q, by rw [ancestor_succ, hup]; exact hq, hqroot⟩
            omega
      · intro hup
        cases k with
        | zero =>
            obtain rfl := Option.some.inj hr
            exact hroot
        | succ k =>
            rw [ancestor_succ_of_top hup] at hr
            cases hr
    · have hn : n ∈ l := by
        by_contra hn
        rw [ancestor_succ_of_top (hl n hn)] at hcycle
        cases hcycle
      -- once around the cycle the same root is met again
      obtain ⟨j, ⟨r, hr, hroot⟩, huniq⟩ := hone n hn
      have hagain := huniq (k + 1 + j) ⟨r, by rw [ancestor_add_of_some hcycle]; exact hr, hroot⟩
      omega
  · rintro ⟨hroots, hacyclic⟩ n hn
    rw [h.existsUnique_place_iff hn]
    obtain ⟨k, t, ht, htop⟩ := exists_top h.parent_mem hacyclic n
    have hmem : ∀ j r, ancestor up j n = some r → r ∈ l := by
      intro j r hr
      cases j with
      | zero =>
          obtain rfl := Option.some.inj hr
          exact hn
      | succ j =>
          rw [ancestor_add] at hr
          obtain ⟨q, -, hr⟩ := Option.bind_eq_some_iff.mp hr
          exact h.parent_mem q r (by rwa [ancestor_one] at hr)
    have hlast : ∀ i j r s, i < j → ancestor up i n = some r → up r = none →
        ancestor up j n ≠ some s := by
      intro i j r s hlt hr hup hs
      rw [show j = i + (j - i - 1 + 1) by omega, ancestor_add_of_some hr,
        ancestor_succ_of_top hup] at hs
      cases hs
    refine ⟨k, ⟨t, ht, (hroots t (hmem k t ht)).mpr htop⟩, ?_⟩
    rintro j ⟨r, hr, hroot⟩
    have hup := (hroots r (hmem j r hr)).mp hroot
    rcases Nat.lt_trichotomy j k with hlt | heq | hlt
    · exact absurd ht (hlast j k r t hlt hr hup)
    · exact heq
    · exact absurd hr (hlast k j t r hlt ht htop)

end Forest
