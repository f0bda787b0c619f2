import Mathlib.Data.List.Forall2
import Mathlib.Logic.Basic

/-!
# Fallible computations

What a computation of `Except` that went through tells of its steps.
-/

namespace WmsDu

variable {E α β : Type}

/-- Fail unless the condition holds. -/
def demand (c : Prop) [Decidable c] (e : E) : Except E Unit := if c then .ok () else .error e

/-- The value of a read that must find its row. -/
def demandSome (o : Option α) (e : E) : Except E α :=
  match o with
  | some a => .ok a
  | none => .error e

theorem bind_eq_ok {x : Except E α} {f : α → Except E β} {b : β} :
    x >>= f = .ok b ↔ ∃ a, x = .ok a ∧ f a = .ok b := by
  cases x with
  | error e =>
      constructor
      · intro h; cases h
      · rintro ⟨_, h, _⟩; cases h
  | ok a =>
      constructor
      · intro h; exact ⟨a, rfl, h⟩
      · rintro ⟨_, h, hf⟩; cases h; exact hf

theorem pure_eq_ok {a b : α} : (pure a : Except E α) = .ok b ↔ a = b := Except.ok.injEq a b ▸ Iff.rfl

theorem map_eq_ok {x : Except E α} {f : α → β} {b : β} :
    x.map f = .ok b ↔ ∃ a, x = .ok a ∧ f a = b := by
  cases x with
  | error e => exact iff_of_false nofun nofun
  | ok a => simp [Except.map]

theorem toOption_eq_some {x : Except E α} {a : α} : x.toOption = some a ↔ x = .ok a := by
  cases x with
  | error e => exact iff_of_false nofun nofun
  | ok b => simp [Except.toOption]

theorem demand_eq_ok {c : Prop} [Decidable c] {e : E} {u : Unit} :
    demand c e = .ok u ↔ c := by
  unfold demand
  split
  · exact iff_of_true rfl ‹c›
  · exact iff_of_false nofun ‹¬ c›

theorem demandSome_eq_ok {o : Option α} {e : E} {a : α} :
    demandSome o e = .ok a ↔ o = some a := by
  cases o with
  | none => exact iff_of_false nofun nofun
  | some b => simp [demandSome]

/-- A loop that went through computed each of its values. -/
theorem forall₂_of_mapM {f : α → Except E β} {l : List α} {out : List β}
    (h : l.mapM f = .ok out) : List.Forall₂ (fun a b => f a = .ok b) l out := by
  induction l generalizing out with
  | nil =>
      rw [List.mapM_nil, pure_eq_ok] at h
      subst h
      exact .nil
  | cons a l ih =>
      rw [List.mapM_cons] at h
      obtain ⟨b, hb, h⟩ := bind_eq_ok.mp h
      obtain ⟨rest, hrest, h⟩ := bind_eq_ok.mp h
      rw [pure_eq_ok] at h
      subst h
      exact .cons hb (ih hrest)

/-- Lists related entry by entry agree on what is said of all their entries,
where related entries agree on it. -/
theorem forall_iff_of_forall₂ {R : α → β → Prop} {P : α → Prop} {Q : β → Prop} {l : List α}
    {out : List β} (h : List.Forall₂ R l out) (hR : ∀ a b, R a b → (Q b ↔ P a)) :
    (∀ b ∈ out, Q b) ↔ ∀ a ∈ l, P a := by
  induction h with
  | nil => simp
  | cons hab _ ih => simp only [List.forall_mem_cons, ih, hR _ _ hab]

theorem mapM_congr_left {f g : α → Except E β} {l : List α} (h : ∀ a ∈ l, f a = g a) :
    l.mapM f = l.mapM g := by
  induction l with
  | nil => rfl
  | cons a l ih =>
      rw [List.mapM_cons, List.mapM_cons, h a List.mem_cons_self,
        ih fun b hb => h b (List.mem_cons_of_mem _ hb)]

/-- A list that was changed element by element goes through alike. -/
theorem mapM_map_ok {γ δ : Type} {f : α → Except E β} {g : γ → Except E δ} {copy : α → γ}
    {copy' : β → δ} {l : List α} {out : List β}
    (hstep : ∀ a ∈ l, ∀ b, f a = .ok b → g (copy a) = .ok (copy' b)) (h : l.mapM f = .ok out) :
    (l.map copy).mapM g = .ok (out.map copy') := by
  induction l generalizing out with
  | nil =>
      rw [List.mapM_nil, pure_eq_ok] at h
      subst h
      rfl
  | cons a l ih =>
      rw [List.mapM_cons] at h
      obtain ⟨b, hb, h⟩ := bind_eq_ok.mp h
      obtain ⟨out', hout, h⟩ := bind_eq_ok.mp h
      rw [pure_eq_ok] at h
      subst h
      rw [List.map_cons, List.mapM_cons, hstep a List.mem_cons_self b hb,
        ih (fun a ha => hstep a (List.mem_cons_of_mem _ ha)) hout]
      rfl

theorem map_eq_map_of_forall₂ {γ : Type} {R : α → β → Prop} {f : α → γ} {g : β → γ} {l : List α}
    {out : List β} (h : List.Forall₂ R l out) (hR : ∀ a b, R a b → g b = f a) :
    out.map g = l.map f := by
  induction h with
  | nil => rfl
  | cons hab _ ih => rw [List.map_cons, List.map_cons, hR _ _ hab, ih]

theorem exists_of_forall₂ {R : α → β → Prop} {l : List α} {out : List β}
    (h : List.Forall₂ R l out) {b : β} (hb : b ∈ out) : ∃ a ∈ l, R a b := by
  induction h with
  | nil => cases hb
  | cons hab _ ih =>
      rcases List.mem_cons.mp hb with rfl | hb
      · exact ⟨_, List.mem_cons_self, hab⟩
      · obtain ⟨a, ha, hR⟩ := ih hb
        exact ⟨a, List.mem_cons_of_mem _ ha, hR⟩

/-- A loop of checks passes if each check does. -/
theorem mapM_all_eq_ok {f : α → Except E Bool} {l : List α} :
    (∃ out, l.mapM f = .ok out ∧ out.all id = true) ↔ ∀ a ∈ l, f a = .ok true := by
  induction l with
  | nil => exact iff_of_true ⟨[], rfl, rfl⟩ nofun
  | cons a l ih =>
      rw [List.forall_mem_cons, ← ih, List.mapM_cons]
      constructor
      · rintro ⟨out, hout, hall⟩
        obtain ⟨b, hb, hout⟩ := bind_eq_ok.mp hout
        obtain ⟨rest, hrest, hout⟩ := bind_eq_ok.mp hout
        rw [pure_eq_ok] at hout
        subst hout
        simp only [List.all_cons, id_eq, Bool.and_eq_true] at hall
        exact ⟨hall.1 ▸ hb, rest, hrest, hall.2⟩
      · rintro ⟨ha, rest, hrest, hall⟩
        refine ⟨true :: rest, ?_, hall⟩
        rw [ha, hrest]
        rfl

theorem forM_eq_ok {f : α → Except E Unit} {l : List α} {u : Unit} :
    l.forM f = .ok u ↔ ∀ a ∈ l, f a = .ok () := by
  induction l with
  | nil => exact iff_of_true rfl nofun
  | cons a l ih =>
      show (f a >>= fun _ => l.forM f) = .ok u ↔ _
      rw [bind_eq_ok, List.forall_mem_cons]
      constructor
      · rintro ⟨_, ha, hl⟩
        exact ⟨ha, ih.mp hl⟩
      · rintro ⟨ha, hl⟩
        exact ⟨(), ha, ih.mpr hl⟩

/-- A condition on the result of a computation. -/
instance decidableForallOk (x : Except E α) (P : α → Prop) [DecidablePred P] :
    Decidable (∀ a, x = .ok a → P a) :=
  match x with
  | .error _ => isTrue fun _ h => nomatch h
  | .ok a => decidable_of_iff (P a) ⟨fun h _ hb => Except.ok.inj hb ▸ h, fun h => h a rfl⟩

/-! ## Histories of fallible calls -/

/-- The states that calls allowed in their state reach from `w₀`; a call that
fails is rolled back. -/
inductive Reaches {W Op : Type} (call : Op → W → Except E W) (allowed : W → Op → Prop) (w₀ : W) :
    W → Prop
  | start : Reaches call allowed w₀ w₀
  | call {w w' : W} (op : Op) : Reaches call allowed w₀ w → allowed w op →
      call op w = .ok w' → Reaches call allowed w₀ w'

/-- **Invariant rule.** -/
theorem Reaches.invariant {W Op : Type} {call : Op → W → Except E W} {allowed : W → Op → Prop}
    {w₀ w : W} {I : W → Prop} (h : Reaches call allowed w₀ w) (h₀ : I w₀)
    (hstep : ∀ (w w' : W) (op : Op), allowed w op → I w → call op w = .ok w' → I w') : I w := by
  induction h with
  | start => exact h₀
  | call op _ hop hcall ih => exact hstep _ _ op hop ih hcall

/-- Calls one after another, each of them allowed where it runs. -/
def callAll {W Op : Type} (call : Op → W → Except E W) (allowed : W → Op → Prop)
    [∀ w op, Decidable (allowed w op)] : W → List Op → Option W
  | w, [] => some w
  | w, op :: rest =>
      match call op w with
      | .ok w' => if allowed w op then callAll call allowed w' rest else none
      | .error _ => none

theorem Reaches.of_callAll {W Op : Type} {call : Op → W → Except E W} {allowed : W → Op → Prop}
    [∀ w op, Decidable (allowed w op)] {w₀ w w' : W} {ops : List Op}
    (h : Reaches call allowed w₀ w) (hops : callAll call allowed w ops = some w') :
    Reaches call allowed w₀ w' := by
  induction ops generalizing w with
  | nil => cases hops; exact h
  | cons op rest ih =>
      unfold callAll at hops
      split at hops
      · rename_i w₁ hcall
        split at hops
        · rename_i hop
          exact ih (.call op h hop hcall) hops
        · cases hops
      · cases hops

/-! ## Bounds

The fields of a request carry the bounds of their numbers. -/

theorem one_ge_one : (1 : Int) ≤ 1 := by decide

theorem two_ge_one : (1 : Int) ≤ 2 := by decide

theorem seven_ge_one : (1 : Int) ≤ 7 := by decide

theorem seven_ge_zero : (0 : Int) ≤ 7 := by decide

theorem one_gt_zero : (0 : Int) < 1 := by decide

theorem four_gt_zero : (0 : Int) < 4 := by decide

theorem ten_ge_zero : (0 : Int) ≤ 10 := by decide

end WmsDu
