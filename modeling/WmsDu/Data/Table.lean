import Mathlib.Algebra.BigOperators.Group.List.Basic
import Mathlib.Data.List.Dedup
import Mathlib.Data.List.Nodup
import Mathlib.Tactic.Ring

/-!
# Keyed tables

A table is the list of its rows in insertion order together with the proof
that no two rows share a key, so a state that breaks a unique constraint
cannot be built. Sums over the rows that satisfy a predicate are the reading
that aggregate queries and book invariants share; the lemmas say how an
insert and an update move them.
-/

/-- Rows in insertion order, no two of one key. -/
structure Table {R K : Type} (key : R → K) where
  rows : List R
  nodup : (rows.map key).Nodup

/-- The sum of `f` over the rows of a list that satisfy `p`. -/
def sumOver {R : Type} (p : R → Prop) [DecidablePred p] (f : R → Int) (l : List R) : Int :=
  ((l.filter (p ·)).map f).sum

section SumOver
variable {R : Type} {p q : R → Prop} [DecidablePred p] [DecidablePred q] {f g : R → Int}

@[simp] theorem sumOver_nil : sumOver p f [] = 0 := rfl

theorem sumOver_cons (r : R) (l : List R) :
    sumOver p f (r :: l) = (if p r then f r else 0) + sumOver p f l := by
  unfold sumOver
  by_cases h : p r <;> simp [h]

theorem sumOver_append (l₁ l₂ : List R) :
    sumOver p f (l₁ ++ l₂) = sumOver p f l₁ + sumOver p f l₂ := by
  simp [sumOver]

theorem sumOver_singleton (r : R) : sumOver p f [r] = if p r then f r else 0 := by
  rw [sumOver_cons, sumOver_nil, add_zero]

/-- Two readings that agree row by row have the same sum. -/
theorem sumOver_congr {l : List R} (hp : ∀ r ∈ l, (p r ↔ q r))
    (hf : ∀ r ∈ l, p r → f r = g r) : sumOver p f l = sumOver q g l := by
  induction l with
  | nil => rfl
  | cons r l ih =>
      have htail := ih (fun s hs => hp s (List.mem_cons_of_mem _ hs))
        (fun s hs => hf s (List.mem_cons_of_mem _ hs))
      have hr := hp r List.mem_cons_self
      rw [sumOver_cons, sumOver_cons, htail]
      by_cases hpr : p r
      · rw [if_pos hpr, if_pos (hr.mp hpr), hf r List.mem_cons_self hpr]
      · rw [if_neg hpr, if_neg (fun hq => hpr (hr.mpr hq))]

theorem sumOver_eq_zero {l : List R} (h : ∀ r ∈ l, p r → f r = 0) : sumOver p f l = 0 := by
  induction l with
  | nil => rfl
  | cons r l ih =>
      rw [sumOver_cons, ih (fun s hs => h s (List.mem_cons_of_mem _ hs)), add_zero]
      by_cases hpr : p r
      · rw [if_pos hpr, h r List.mem_cons_self hpr]
      · rw [if_neg hpr]

theorem sumOver_nonneg {l : List R} (h : ∀ r ∈ l, p r → 0 ≤ f r) : 0 ≤ sumOver p f l := by
  induction l with
  | nil => exact le_refl 0
  | cons r l ih =>
      rw [sumOver_cons]
      have htail := ih (fun s hs => h s (List.mem_cons_of_mem _ hs))
      by_cases hpr : p r
      · rw [if_pos hpr]
        have hr := h r List.mem_cons_self hpr
        omega
      · rw [if_neg hpr]
        omega

/-- A sum over positive quantities is positive when a row counts. -/
theorem sumOver_pos {l : List R} (h : ∀ r ∈ l, p r → 0 < f r) {r : R} (hr : r ∈ l) (hp : p r) :
    0 < sumOver p f l := by
  induction l with
  | nil => cases hr
  | cons s rest ih =>
      rw [List.forall_mem_cons] at h
      have hrest : 0 ≤ sumOver p f rest := sumOver_nonneg fun r hr hp => le_of_lt (h.2 r hr hp)
      rw [sumOver_cons]
      rcases List.mem_cons.mp hr with rfl | hr
      · rw [if_pos hp]
        have hfirst := h.1 hp
        omega
      · have hpos := ih h.2 hr
        split
        · rename_i hs
          have hfirst := h.1 hs
          omega
        · omega

theorem sumOver_neg {l : List R} : sumOver p (fun r => - f r) l = - sumOver p f l := by
  induction l with
  | nil => rfl
  | cons r l ih =>
      rw [sumOver_cons, sumOver_cons, ih]
      split <;> omega

/-- The sum over the mapped rows is the sum of the pulled-back reading. -/
theorem sumOver_map {S : Type} (h : S → R) (l : List S) :
    sumOver p f (l.map h) = sumOver (fun s => p (h s)) (fun s => f (h s)) l := by
  induction l with
  | nil => rfl
  | cons s l ih => rw [List.map_cons, sumOver_cons, sumOver_cons, ih]

/-- A sum over the selected rows. -/
theorem sumOver_filter (l : List R) :
    sumOver q f (l.filter (p ·)) = sumOver (fun r => p r ∧ q r) f l := by
  unfold sumOver
  rw [List.filter_filter]
  simp only [Bool.decide_and, Bool.and_comm]

/-- The order of the rows does not matter. -/
theorem sumOver_perm {l₁ l₂ : List R} (h : l₁.Perm l₂) : sumOver p f l₁ = sumOver p f l₂ :=
  ((h.filter _).map f).sum_eq

/-- A predicate splits a sum in two. -/
theorem sumOver_and_add_and_not (l : List R) :
    sumOver (fun r => p r ∧ q r) f l + sumOver (fun r => p r ∧ ¬ q r) f l = sumOver p f l := by
  induction l with
  | nil => rfl
  | cons r l ih =>
      rw [sumOver_cons, sumOver_cons, sumOver_cons, ← ih]
      by_cases hp : p r <;> by_cases hq : q r <;> simp [hp, hq] <;> omega

theorem sumOver_add (l : List R) :
    sumOver p (fun r => f r + g r) l = sumOver p f l + sumOver p g l := by
  induction l with
  | nil => rfl
  | cons r l ih =>
      rw [sumOver_cons, sumOver_cons, sumOver_cons, ih]
      split <;> omega

end SumOver

section Fibers
variable {R S K : Type} [DecidableEq K] {g : K → Prop} [DecidablePred g]

/-- An amount given to one key. -/
private theorem sumOver_single {c : Int} {k : K} {ks : List K} (hnodup : ks.Nodup) (hk : k ∈ ks) :
    sumOver g (fun x => if k = x then c else 0) ks = if g k then c else 0 := by
  induction ks with
  | nil => cases hk
  | cons x ks ih =>
      obtain ⟨hx, hnodup⟩ := List.nodup_cons.mp hnodup
      rw [sumOver_cons]
      by_cases hkx : k = x
      · subst hkx
        have hrest : sumOver g (fun x => if k = x then c else 0) ks = 0 := by
          refine sumOver_eq_zero fun y hy _ => ?_
          rw [if_neg]
          rintro rfl
          exact hx hy
        simp [hrest]
      · have hk : k ∈ ks := (List.mem_cons.mp hk).resolve_left hkx
        simp [hkx, ih hnodup hk]

/-- A sum is the sum of its sums key by key. -/
theorem sumOver_fibers {key : R → K} {f : R → Int} {ks : List K} (hnodup : ks.Nodup) {l : List R}
    (hl : ∀ r ∈ l, key r ∈ ks) :
    sumOver (fun r => g (key r)) f l =
      sumOver g (fun k => sumOver (fun r => key r = k) f l) ks := by
  induction l with
  | nil => exact (sumOver_eq_zero fun _ _ _ => rfl).symm
  | cons r l ih =>
      rw [sumOver_cons, ih fun s hs => hl s (List.mem_cons_of_mem _ hs)]
      simp only [sumOver_cons]
      rw [sumOver_add, sumOver_single hnodup (hl r List.mem_cons_self)]

/-- Sums that agree key by key agree. -/
theorem sumOver_eq_of_fibers {key : R → K} {key' : S → K} {f : R → Int} {f' : S → Int}
    {l : List R} {l' : List S}
    (h : ∀ k, sumOver (fun r => key r = k) f l = sumOver (fun s => key' s = k) f' l') :
    sumOver (fun r => g (key r)) f l = sumOver (fun s => g (key' s)) f' l' := by
  let ks := (l.map key ++ l'.map key').dedup
  have hnodup : ks.Nodup := List.nodup_dedup _
  rw [sumOver_fibers hnodup fun r hr =>
      List.mem_dedup.mpr (List.mem_append_left _ (List.mem_map_of_mem hr)),
    sumOver_fibers hnodup fun s hs =>
      List.mem_dedup.mpr (List.mem_append_right _ (List.mem_map_of_mem hs))]
  exact sumOver_congr (fun _ _ => Iff.rfl) fun k _ _ => h k

end Fibers

namespace Table

variable {R K : Type} {key : R → K}

/-- The table without rows. -/
def empty : Table key := ⟨[], List.nodup_nil⟩

instance : Inhabited (Table key) := ⟨empty⟩

@[simp] theorem rows_empty : (empty : Table key).rows = [] := rfl

/-- Two rows of one key are one row. -/
theorem eq_of_key (t : Table key) {r s : R} (hr : r ∈ t.rows) (hs : s ∈ t.rows)
    (h : key r = key s) : r = s :=
  List.inj_on_of_nodup_map t.nodup hr hs h

theorem ext_rows {t u : Table key} (h : t.rows = u.rows) : t = u := by
  cases t; cases u; cases h; rfl

/-! ## Lookup -/

/-- Some row has the key. -/
def HasKey (t : Table key) (k : K) : Prop := ∃ r ∈ t.rows, key r = k

theorem hasKey_of_mem {t : Table key} {r : R} (h : r ∈ t.rows) : t.HasKey (key r) := ⟨r, h, rfl⟩

section Lookup
variable [DecidableEq K]

/-- The row of a key, if the table has one. -/
def lookup (t : Table key) (k : K) : Option R := t.rows.find? (fun r => decide (key r = k))

instance (t : Table key) (k : K) : Decidable (t.HasKey k) :=
  inferInstanceAs (Decidable (∃ r ∈ t.rows, key r = k))

theorem lookup_eq_some {t : Table key} {k : K} {r : R} :
    t.lookup k = some r ↔ r ∈ t.rows ∧ key r = k := by
  constructor
  · intro h
    exact ⟨List.mem_of_find?_eq_some h, by simpa using List.find?_some h⟩
  · rintro ⟨hr, rfl⟩
    cases h : t.lookup (key r) with
    | none =>
        rw [lookup, List.find?_eq_none] at h
        exact absurd (decide_eq_true (p := key r = key r) rfl) (h r hr)
    | some s =>
        have hs := List.mem_of_find?_eq_some h
        have hk : key s = key r := by simpa using List.find?_some h
        rw [t.eq_of_key hs hr hk]

theorem lookup_eq_none {t : Table key} {k : K} :
    t.lookup k = none ↔ ¬ t.HasKey k := by
  rw [lookup, List.find?_eq_none, HasKey]
  simp

theorem hasKey_iff_isSome {t : Table key} {k : K} : t.HasKey k ↔ (t.lookup k).isSome := by
  rw [← not_iff_not, ← lookup_eq_none]
  cases t.lookup k <;> simp

end Lookup

/-! ## Sums over one key -/

private theorem sumOver_key_list [DecidableEq K] {f : R → Int} {r : R} :
    ∀ l : List R, (l.map key).Nodup → r ∈ l → sumOver (fun s => key s = key r) f l = f r := by
  intro l
  induction l with
  | nil => intro _ hr; cases hr
  | cons s l ih =>
      intro hnd hr
      rw [List.map_cons, List.nodup_cons] at hnd
      rw [sumOver_cons]
      rcases List.mem_cons.mp hr with rfl | hr
      · have htail : sumOver (fun s => key s = key r) f l = 0 := by
          unfold sumOver
          rw [List.filter_eq_nil_iff.mpr]
          · rfl
          · intro t ht hk
            exact hnd.1 (List.mem_map.mpr ⟨t, ht, by simpa using hk⟩)
        rw [if_pos rfl, htail, add_zero]
      · have hne : key s ≠ key r := fun h => hnd.1 (List.mem_map.mpr ⟨r, hr, h.symm⟩)
        rw [if_neg hne, ih hnd.2 hr, zero_add]

/-- Over the rows of one key a sum is that row's value. -/
theorem sumOver_key [DecidableEq K] {f : R → Int} {t : Table key} {r : R} (hr : r ∈ t.rows) :
    sumOver (fun s => key s = key r) f t.rows = f r :=
  sumOver_key_list t.rows t.nodup hr

/-- Over the rows of a key the table lacks a sum is zero. -/
theorem sumOver_key_absent [DecidableEq K] {f : R → Int} {t : Table key} {k : K}
    (h : ¬ t.HasKey k) : sumOver (fun s => key s = k) f t.rows = 0 := by
  unfold sumOver
  rw [List.filter_eq_nil_iff.mpr]
  · rfl
  · intro r hr hk
    exact h ⟨r, hr, by simpa using hk⟩

/-! ## Insert -/

section Insert
variable [DecidableEq K]

/-- Add a row at the end; a row whose key is taken is dropped. -/
def insert (t : Table key) (r : R) : Table key :=
  if h : t.HasKey (key r) then t
  else ⟨t.rows ++ [r], by
    rw [List.map_append, List.nodup_append]
    refine ⟨t.nodup, List.nodup_singleton _, ?_⟩
    intro a ha b hb hab
    obtain ⟨s, hs, rfl⟩ := List.mem_map.mp ha
    have hb' : b = key r := by simpa using hb
    exact h ⟨s, hs, hab.trans hb'⟩⟩

theorem rows_insert_new {t : Table key} {r : R} (h : ¬ t.HasKey (key r)) :
    (t.insert r).rows = t.rows ++ [r] := by
  rw [insert, dif_neg h]

theorem insert_old {t : Table key} {r : R} (h : t.HasKey (key r)) : t.insert r = t := by
  rw [insert, dif_pos h]

theorem mem_insert_of_mem {t : Table key} {r s : R} (h : s ∈ t.rows) :
    s ∈ (t.insert r).rows := by
  by_cases hk : t.HasKey (key r)
  · rw [insert_old hk]; exact h
  · rw [rows_insert_new hk]; exact List.mem_append_left _ h

theorem mem_of_mem_insert {t : Table key} {r s : R} (h : s ∈ (t.insert r).rows) :
    s ∈ t.rows ∨ s = r := by
  by_cases hk : t.HasKey (key r)
  · rw [insert_old hk] at h; exact Or.inl h
  · rw [rows_insert_new hk] at h; simpa using h

/-- A row of another key is untouched by an insert. -/
theorem mem_insert_of_ne {t : Table key} {r s : R} (h : s ≠ r) :
    s ∈ (t.insert r).rows ↔ s ∈ t.rows :=
  ⟨fun hs => (mem_of_mem_insert hs).resolve_right h, mem_insert_of_mem⟩

theorem hasKey_insert {t : Table key} {r : R} {k : K} :
    (t.insert r).HasKey k ↔ t.HasKey k ∨ k = key r := by
  constructor
  · rintro ⟨s, hs, rfl⟩
    rcases mem_of_mem_insert hs with hs | rfl
    · exact Or.inl (hasKey_of_mem hs)
    · exact Or.inr rfl
  · rintro (⟨s, hs, rfl⟩ | rfl)
    · exact hasKey_of_mem (mem_insert_of_mem hs)
    · by_cases hk : t.HasKey (key r)
      · rw [insert_old hk]; exact hk
      · exact ⟨r, by rw [rows_insert_new hk]; simp, rfl⟩

/-- An insert that the key allows adds the row's share to every sum. -/
theorem sumOver_insert_new {p : R → Prop} [DecidablePred p] {f : R → Int} {t : Table key} {r : R}
    (h : ¬ t.HasKey (key r)) :
    sumOver p f (t.insert r).rows = sumOver p f t.rows + if p r then f r else 0 := by
  rw [rows_insert_new h, sumOver_append, sumOver_singleton]

/-- Inserting a row outside a selection does not show in it. -/
theorem filter_insert_rows {p : R → Prop} [DecidablePred p] {t : Table key} {r : R}
    (h : ¬ p r) : (t.insert r).rows.filter (p ·) = t.rows.filter (p ·) := by
  by_cases hk : t.HasKey (key r)
  · rw [insert_old hk]
  · rw [rows_insert_new hk, List.filter_append, List.filter_singleton]
    simp [h]

/-- Rows of fresh and distinct keys inserted one after another. -/
theorem rows_insertAll (l : List R) (t : Table key) (hnew : ∀ r ∈ l, ¬ t.HasKey (key r))
    (hnd : (l.map key).Nodup) : (l.foldl insert t).rows = t.rows ++ l := by
  induction l generalizing t with
  | nil => rw [List.foldl_nil, List.append_nil]
  | cons r l ih =>
      rw [List.map_cons, List.nodup_cons] at hnd
      rw [List.foldl_cons, ih (t.insert r) ?_ hnd.2, rows_insert_new (hnew r List.mem_cons_self),
        List.append_assoc, List.singleton_append]
      intro s hs hk
      rcases hasKey_insert.mp hk with hk | hk
      · exact hnew s (List.mem_cons_of_mem _ hs) hk
      · exact hnd.1 (List.mem_map.mpr ⟨s, hs, hk⟩)

/-- Rows that are their own keys, inserted one after another, are there. -/
theorem mem_insertAll (l : List R) (t : Table key) {r : R}
    (h : r ∈ t.rows ∨ (∀ s, key s = key r → s = r) ∧ r ∈ l) : r ∈ (l.foldl insert t).rows := by
  induction l generalizing t with
  | nil => exact h.elim id fun h => absurd h.2 List.not_mem_nil
  | cons s l ih =>
      refine ih (t.insert s) ?_
      rcases h with h | ⟨hkey, h⟩
      · exact .inl (mem_insert_of_mem h)
      · rcases List.mem_cons.mp h with rfl | h
        · obtain ⟨s, hs, hid⟩ := (hasKey_insert (t := t) (r := r) (k := key r)).mpr (.inr rfl)
          rw [hkey s hid] at hs
          exact .inl hs
        · exact .inr ⟨hkey, h⟩

end Insert

/-! ## Update -/

/-- Rewrite the rows that satisfy `p`; `f` keeps keys. -/
def update (t : Table key) (p : R → Prop) [DecidablePred p] (f : R → R)
    (hf : ∀ r, key (f r) = key r) : Table key :=
  ⟨t.rows.map (fun r => if p r then f r else r), by
    rw [List.map_map]
    have hkey : key ∘ (fun r => if p r then f r else r) = key := by
      funext r
      by_cases h : p r <;> simp [h, hf]
    rw [hkey]
    exact t.nodup⟩

section Update
variable {p : R → Prop} [DecidablePred p] {f : R → R} (hf : ∀ r, key (f r) = key r)

theorem rows_update (t : Table key) :
    (t.update p f hf).rows = t.rows.map (fun r => if p r then f r else r) := rfl

theorem mem_update {t : Table key} {s : R} :
    s ∈ (t.update p f hf).rows ↔ ∃ r ∈ t.rows, s = if p r then f r else r := by
  rw [rows_update, List.mem_map]
  simp only [eq_comm]

theorem hasKey_update [DecidableEq K] {t : Table key} {k : K} :
    (t.update p f hf).HasKey k ↔ t.HasKey k := by
  constructor
  · rintro ⟨s, hs, rfl⟩
    obtain ⟨r, hr, rfl⟩ := (mem_update hf).mp hs
    refine ⟨r, hr, ?_⟩
    split
    · exact (hf r).symm
    · rfl
  · rintro ⟨r, hr, rfl⟩
    refine ⟨_, (mem_update hf).mpr ⟨r, hr, rfl⟩, ?_⟩
    split
    · exact hf r
    · rfl

/-- An update that leaves a reading of every row it rewrites alone leaves the
reading's sum alone. -/
theorem sumOver_update_frame {q : R → Prop} [DecidablePred q] {g : R → Int} {t : Table key}
    (hq : ∀ r ∈ t.rows, p r → (q (f r) ↔ q r))
    (hg : ∀ r ∈ t.rows, p r → q r → g (f r) = g r) :
    sumOver q g (t.update p f hf).rows = sumOver q g t.rows := by
  rw [rows_update, sumOver_map]
  refine sumOver_congr ?_ ?_
  · intro r hr
    by_cases h : p r
    · rw [if_pos h]; exact hq r hr h
    · rw [if_neg h]
  · intro r hr hqr
    by_cases h : p r
    · rw [if_pos h] at hqr ⊢
      exact hg r hr h ((hq r hr h).mp hqr)
    · rw [if_neg h]

private theorem sumOver_map_key [DecidableEq K] {q : R → Prop} [DecidablePred q] {g : R → Int}
    {r : R} {f' : R → R} (hq : q (f' r) ↔ q r) :
    ∀ l : List R, (l.map key).Nodup → r ∈ l →
      sumOver q g (l.map (fun s => if key s = key r then f' s else s)) =
        sumOver q g l + if q r then g (f' r) - g r else 0 := by
  intro l
  induction l with
  | nil => intro _ hr; cases hr
  | cons s l ih =>
      intro hnd hr
      rw [List.map_cons, List.nodup_cons] at hnd
      rw [List.map_cons, sumOver_cons, sumOver_cons]
      by_cases hs : key s = key r
      · -- the row itself: no later row has its key, so the tail is unchanged
        have hsr : s = r := by
          rcases List.mem_cons.mp hr with h | h
          · exact h.symm
          · exact absurd (List.mem_map.mpr ⟨r, h, hs.symm⟩) hnd.1
        subst hsr
        have htail : l.map (fun t => if key t = key s then f' t else t) = l := by
          conv_rhs => rw [← List.map_id l]
          refine List.map_congr_left ?_
          intro t ht
          have hne : key t ≠ key s := fun h => hnd.1 (List.mem_map.mpr ⟨t, ht, h⟩)
          rw [if_neg hne, id]
        rw [htail, if_pos rfl]
        by_cases hqs : q s
        · rw [if_pos hqs, if_pos hqs, if_pos (hq.mpr hqs)]; ring
        · rw [if_neg hqs, if_neg hqs, if_neg (fun h => hqs (hq.mp h))]; ring
      · have hr' : r ∈ l := by
          rcases List.mem_cons.mp hr with h | h
          · exact absurd (by rw [h]) hs
          · exact h
        rw [if_neg hs, ih hnd.2 hr']
        ring

/-- Rewriting the row of one key moves a sum by that row's difference. -/
theorem sumOver_update_key [DecidableEq K] {q : R → Prop} [DecidablePred q] {g : R → Int}
    {t : Table key} {r : R} {u : R → R} (hu : ∀ s, key (u s) = key s)
    (hr : r ∈ t.rows) (hq : q (u r) ↔ q r) :
    sumOver q g (t.update (fun s => key s = key r) u hu).rows =
      sumOver q g t.rows + if q r then g (u r) - g r else 0 :=
  sumOver_map_key hq t.rows t.nodup hr

/-- Rewriting rows outside a selection, and keeping them outside, does not
show in it. -/
theorem filter_update_rows {q : R → Prop} [DecidablePred q] {t : Table key}
    (hq : ∀ r, p r → ¬ q r ∧ ¬ q (f r)) :
    (t.update p f hf).rows.filter (q ·) = t.rows.filter (q ·) := by
  rw [rows_update]
  induction t.rows with
  | nil => rfl
  | cons r l ih =>
      rw [List.map_cons, List.filter_cons, List.filter_cons, ih]
      by_cases h : p r
      · rw [if_pos h]
        simp [(hq r h).1, (hq r h).2]
      · rw [if_neg h]

end Update

/-! ## Put and delete -/

/-- Replace the row of `r`'s key by `r`; a table without that key is kept. -/
def put [DecidableEq K] (t : Table key) (r : R) : Table key :=
  t.update (fun s => key s = key r) (fun s => if key s = key r then r else s)
    (fun s => by split <;> simp_all)

/-- `INSERT … ON CONFLICT DO UPDATE`: the row of `r`'s key becomes `r`. -/
def upsert [DecidableEq K] (t : Table key) (r : R) : Table key := (t.put r).insert r

/-- Drop the rows that satisfy `p`. -/
def delete (t : Table key) (p : R → Prop) [DecidablePred p] : Table key :=
  ⟨t.rows.filter (fun r => decide (¬ p r)),
    (List.filter_sublist.map key).nodup t.nodup⟩

theorem mem_put [DecidableEq K] {t : Table key} {r s : R} :
    s ∈ (t.put r).rows ↔ (s ∈ t.rows ∧ key s ≠ key r) ∨ (s = r ∧ t.HasKey (key r)) := by
  rw [put, mem_update]
  constructor
  · rintro ⟨q, hq, rfl⟩
    by_cases h : key q = key r
    · rw [if_pos h, if_pos h]
      exact Or.inr ⟨rfl, q, hq, h⟩
    · rw [if_neg h]
      exact Or.inl ⟨hq, h⟩
  · rintro (⟨hs, hne⟩ | ⟨rfl, q, hq, hk⟩)
    · exact ⟨s, hs, by rw [if_neg hne]⟩
    · exact ⟨q, hq, by rw [if_pos hk, if_pos hk]⟩

/-- Putting back a row of the table changes nothing. -/
theorem put_self [DecidableEq K] {t : Table key} {r : R} (h : r ∈ t.rows) : t.put r = t := by
  refine ext_rows ?_
  rw [put, rows_update]
  conv_rhs => rw [← List.map_id t.rows]
  refine List.map_congr_left fun s hs => ?_
  by_cases hk : key s = key r
  · rw [if_pos hk, if_pos hk, t.eq_of_key hs h hk, id]
  · rw [if_neg hk, id]

theorem hasKey_put [DecidableEq K] {t : Table key} {r : R} {k : K} :
    (t.put r).HasKey k ↔ t.HasKey k := hasKey_update _

/-- Rows of distinct keys put one after another. -/
theorem mem_foldl_put [DecidableEq K] {us : List R} {t : Table key} {s : R}
    (hnd : (us.map key).Nodup) : s ∈ (us.foldl put t).rows ↔
      (s ∈ t.rows ∧ ∀ r ∈ us, key s ≠ key r) ∨ (s ∈ us ∧ t.HasKey (key s)) := by
  induction us generalizing t with
  | nil => simp
  | cons u us ih =>
      rw [List.map_cons, List.nodup_cons] at hnd
      have hne : ∀ r ∈ us, key u ≠ key r := fun r hr heq =>
        hnd.1 (heq ▸ List.mem_map_of_mem hr)
      rw [List.foldl_cons, ih hnd.2, hasKey_put, mem_put, List.forall_mem_cons, List.mem_cons]
      constructor
      · rintro (⟨⟨hs, hk⟩ | ⟨rfl, hk⟩, hus⟩ | ⟨hs, hk⟩)
        · exact Or.inl ⟨hs, hk, hus⟩
        · exact Or.inr ⟨Or.inl rfl, hk⟩
        · exact Or.inr ⟨Or.inr hs, hk⟩
      · rintro (⟨hs, hk, hus⟩ | ⟨rfl | hs, hk⟩)
        · exact Or.inl ⟨Or.inl ⟨hs, hk⟩, hus⟩
        · exact Or.inl ⟨Or.inr ⟨rfl, hk⟩, hne⟩
        · exact Or.inr ⟨hs, hk⟩

/-- Some rows of a table put back changed, under their own keys. -/
theorem mem_foldl_put_filterMap [DecidableEq K] {t : Table key} {p : R → Prop} [DecidablePred p]
    {f : R → R} (hf : ∀ r, key (f r) = key r) {s : R} :
    s ∈ ((t.rows.filterMap fun r => if p r then some (f r) else none).foldl put t).rows ↔
      ∃ r ∈ t.rows, s = if p r then f r else r := by
  have hmem : ∀ s, s ∈ (t.rows.filterMap fun r => if p r then some (f r) else none) ↔
      ∃ r ∈ t.rows, p r ∧ f r = s := by
    intro s
    simp only [List.mem_filterMap]
    refine exists_congr fun r => and_congr_right fun _ => ?_
    by_cases hp : p r
    · simp [hp]
    · simp [hp]
  have hnd : ((t.rows.filterMap fun r => if p r then some (f r) else none).map key).Nodup := by
    have hmap : (t.rows.filterMap fun r => if p r then some (f r) else none).map key =
        (t.rows.filter fun r => decide (p r)).map key := by
      induction t.rows with
      | nil => rfl
      | cons r l ih =>
          by_cases hp : p r
          · simp [hp, hf, ih]
          · simp [hp, ih]
    rw [hmap]
    exact (List.filter_sublist.map key).nodup t.nodup
  rw [mem_foldl_put hnd]
  constructor
  · rintro (⟨hs, hne⟩ | ⟨hs, -⟩)
    · refine ⟨s, hs, (if_neg fun hp => ?_).symm⟩
      exact hne (f s) ((hmem _).mpr ⟨s, hs, hp, rfl⟩) (hf s).symm
    · obtain ⟨r, hr, hp, rfl⟩ := (hmem s).mp hs
      exact ⟨r, hr, (if_pos hp).symm⟩
  · rintro ⟨r, hr, rfl⟩
    by_cases hp : p r
    · rw [if_pos hp]
      exact Or.inr ⟨(hmem _).mpr ⟨r, hr, hp, rfl⟩, r, hr, (hf r).symm⟩
    · rw [if_neg hp]
      refine Or.inl ⟨hr, fun u hu heq => hp ?_⟩
      obtain ⟨r', hr', hp', rfl⟩ := (hmem u).mp hu
      rw [t.eq_of_key hr hr' (heq.trans (hf r'))]
      exact hp'

theorem mem_upsert [DecidableEq K] {t : Table key} {r s : R} :
    s ∈ (t.upsert r).rows ↔ (s ∈ t.rows ∧ key s ≠ key r) ∨ s = r := by
  have hkey : (t.put r).HasKey (key r) ↔ t.HasKey (key r) := hasKey_update _
  by_cases h : t.HasKey (key r)
  · rw [upsert, insert_old (hkey.mpr h), mem_put]
    simp [h]
  · rw [upsert, rows_insert_new (fun hk => h (hkey.mp hk)), List.mem_append, mem_put]
    simp [h]

theorem hasKey_upsert [DecidableEq K] {t : Table key} {r : R} {k : K} :
    (t.upsert r).HasKey k ↔ t.HasKey k ∨ k = key r := by
  rw [upsert, hasKey_insert, hasKey_put]

/-- An upsert takes the old row of the key out of a sum and puts the new one
in. -/
theorem sumOver_upsert [DecidableEq K] {q : R → Prop} [DecidablePred q] {f : R → Int}
    {t : Table key} {r : R} :
    sumOver q f (t.upsert r).rows =
      sumOver (fun s => q s ∧ key s ≠ key r) f t.rows + if q r then f r else 0 := by
  have hput : sumOver q f (t.put r).rows = sumOver (fun s => q s ∧ key s ≠ key r) f t.rows +
      sumOver (fun s => key s = key r) (fun _ => if q r then f r else 0) t.rows := by
    rw [put, rows_update, sumOver_map]
    induction t.rows with
    | nil => rfl
    | cons s l ih =>
        rw [sumOver_cons, sumOver_cons, sumOver_cons, ih]
        by_cases hs : key s = key r
        · simp only [hs, if_true, ne_eq, not_true_eq_false, and_false, if_false]
          ring
        · simp only [hs, if_false, ne_eq, not_false_eq_true, and_true]
          ring
  have hkey : (t.put r).HasKey (key r) ↔ t.HasKey (key r) := hasKey_update _
  by_cases h : t.HasKey (key r)
  · obtain ⟨old, hold, hk⟩ := h
    rw [upsert, insert_old (hkey.mpr ⟨old, hold, hk⟩), hput, ← hk, sumOver_key hold]
  · rw [upsert, sumOver_insert_new (fun hk => h (hkey.mp hk)), hput, sumOver_key_absent h, add_zero]

theorem lookup_upsert [DecidableEq K] {t : Table key} {r : R} {k : K} :
    (t.upsert r).lookup k = if k = key r then some r else t.lookup k := by
  by_cases hk : k = key r
  · rw [if_pos hk, lookup_eq_some, mem_upsert]
    exact ⟨Or.inr rfl, hk.symm⟩
  · rw [if_neg hk]
    apply Option.ext
    intro s
    rw [lookup_eq_some, lookup_eq_some, mem_upsert]
    constructor
    · rintro ⟨⟨hs, -⟩ | rfl, hks⟩
      · exact ⟨hs, hks⟩
      · exact absurd hks.symm hk
    · rintro ⟨hs, rfl⟩
      exact ⟨Or.inl ⟨hs, hk⟩, rfl⟩

theorem sumOver_delete {p q : R → Prop} [DecidablePred p] [DecidablePred q] {f : R → Int}
    {t : Table key} : sumOver q f (t.delete p).rows = sumOver (fun r => q r ∧ ¬ p r) f t.rows := by
  unfold sumOver delete
  rw [List.filter_filter]
  simp only [Bool.decide_and]

theorem mem_delete {t : Table key} {p : R → Prop} [DecidablePred p] {r : R} :
    r ∈ (t.delete p).rows ↔ r ∈ t.rows ∧ ¬ p r := by
  simp [delete]

/-! ## Lookup after a write -/

section LookupWrites
variable [DecidableEq K] {t : Table key} {k : K}

theorem lookup_insert {r : R} :
    (t.insert r).lookup k = (t.lookup k).or (if k = key r then some r else none) := by
  apply Option.ext
  intro s
  rw [lookup_eq_some]
  cases hk : t.lookup k with
  | some q =>
      obtain ⟨hq, rfl⟩ := lookup_eq_some.mp hk
      rw [Option.some_or, Option.some.injEq]
      constructor
      · rintro ⟨hs, hkey⟩
        exact (t.insert r).eq_of_key (mem_insert_of_mem hq) hs hkey.symm
      · rintro rfl
        exact ⟨mem_insert_of_mem hq, rfl⟩
  | none =>
      have hfree := lookup_eq_none.mp hk
      rw [Option.none_or]
      constructor
      · rintro ⟨hs, rfl⟩
        rcases mem_of_mem_insert hs with hs | rfl
        · exact absurd (hasKey_of_mem hs) hfree
        · rw [if_pos rfl]
      · intro h
        split at h
        · rename_i hkr
          cases h
          rw [hkr] at hfree
          exact ⟨by rw [rows_insert_new hfree]; simp, hkr.symm⟩
        · cases h

private theorem lookup_update {p : R → Prop} [DecidablePred p] {f : R → R}
    (hf : ∀ r, key (f r) = key r) :
    (t.update p f hf).lookup k = (t.lookup k).map fun r => if p r then f r else r := by
  apply Option.ext
  intro s
  rw [lookup_eq_some, mem_update hf, Option.map_eq_some_iff]
  constructor
  · rintro ⟨⟨r, hr, rfl⟩, hk⟩
    refine ⟨r, lookup_eq_some.mpr ⟨hr, ?_⟩, rfl⟩
    split at hk
    · rw [← hk, hf]
    · exact hk
  · rintro ⟨r, hr, rfl⟩
    obtain ⟨hmem, rfl⟩ := lookup_eq_some.mp hr
    refine ⟨⟨r, hmem, rfl⟩, ?_⟩
    split
    · exact hf r
    · rfl

/-- An update of the rows of some keys. -/
theorem lookup_update_key {q : K → Prop} [DecidablePred q] {f : R → R}
    (hf : ∀ r, key (f r) = key r) :
    (t.update (fun r => q (key r)) f hf).lookup k =
      if q k then (t.lookup k).map f else t.lookup k := by
  rw [lookup_update]
  cases hk : t.lookup k with
  | none => simp
  | some r =>
      obtain ⟨-, rfl⟩ := lookup_eq_some.mp hk
      by_cases hq : q (key r)
      · simp [hq]
      · simp [hq]

/-- A delete of the rows of some keys. -/
theorem lookup_delete_key {q : K → Prop} [DecidablePred q] :
    (t.delete fun r => q (key r)).lookup k = if q k then none else t.lookup k := by
  apply Option.ext
  intro s
  rw [lookup_eq_some, mem_delete]
  by_cases hq : q k
  · rw [if_pos hq]
    refine iff_of_false ?_ nofun
    rintro ⟨⟨-, hnot⟩, rfl⟩
    exact hnot hq
  · rw [if_neg hq, lookup_eq_some]
    refine ⟨fun h => ⟨h.1.1, h.2⟩, ?_⟩
    rintro ⟨hs, rfl⟩
    exact ⟨⟨hs, hq⟩, rfl⟩

end LookupWrites

/-- Dropping rows outside a selection does not show in it. -/
theorem filter_delete_rows {p q : R → Prop} [DecidablePred p] [DecidablePred q] {t : Table key}
    (h : ∀ r ∈ t.rows, p r → ¬ q r) : (t.delete p).rows.filter (q ·) = t.rows.filter (q ·) := by
  unfold delete
  rw [List.filter_filter]
  refine List.filter_congr fun r hr => ?_
  by_cases hp : p r
  · simp [hp, h r hr hp]
  · simp [hp]

/-! ## Unique readings -/

/-- No two rows have one value of a reading. -/
def Unique {κ : Type} (t : Table key) (f : R → κ) : Prop :=
  ∀ r ∈ t.rows, ∀ s ∈ t.rows, f r = f s → r = s

section Unique
variable {κ : Type} {t : Table key} {f : R → κ}

instance [DecidableEq R] [DecidableEq κ] : Decidable (t.Unique f) :=
  inferInstanceAs (Decidable (∀ r ∈ t.rows, ∀ s ∈ t.rows, f r = f s → r = s))

theorem Unique.delete {p : R → Prop} [DecidablePred p] (h : t.Unique f) : (t.delete p).Unique f :=
  fun r hr s hs heq => h r (mem_delete.mp hr).1 s (mem_delete.mp hs).1 heq

theorem Unique.insert [DecidableEq K] {r : R} (h : t.Unique f) (hnew : ∀ s ∈ t.rows, f s ≠ f r) :
    (t.insert r).Unique f := by
  intro a ha b hb heq
  rcases mem_of_mem_insert ha with ha' | rfl
  · rcases mem_of_mem_insert hb with hb' | rfl
    · exact h a ha' b hb' heq
    · exact absurd heq (hnew a ha')
  · rcases mem_of_mem_insert hb with hb' | rfl
    · exact absurd heq.symm (hnew b hb')
    · rfl

/-- An update that gives the rewritten rows no value of another row. -/
theorem Unique.update {p : R → Prop} [DecidablePred p] {g : R → R} (hg : ∀ r, key (g r) = key r)
    (h : t.Unique f) (hp : ∀ r ∈ t.rows, ∀ s ∈ t.rows, p r → p s → r = s)
    (hnew : ∀ r ∈ t.rows, p r → ∀ s ∈ t.rows, ¬ p s → f (g r) ≠ f s) :
    (t.update p g hg).Unique f := by
  intro a ha b hb heq
  obtain ⟨r, hr, rfl⟩ := (mem_update hg).mp ha
  obtain ⟨s, hs, rfl⟩ := (mem_update hg).mp hb
  by_cases hpr : p r
  · by_cases hps : p s
    · rw [hp r hr s hs hpr hps]
    · rw [if_pos hpr, if_neg hps] at heq
      exact absurd heq (hnew r hr hpr s hs hps)
  · by_cases hps : p s
    · rw [if_neg hpr, if_pos hps] at heq
      exact absurd heq.symm (hnew s hs hps r hr hpr)
    · rw [if_neg hpr, if_neg hps] at heq ⊢
      exact h r hr s hs heq

end Unique

end Table
