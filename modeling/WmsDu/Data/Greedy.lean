import Mathlib

/-!
# Greedy allocation

A need is met from a list of sources, each giving what it has until nothing
more is needed. The total is the need or all there is, whichever is less, and
a source is only reached when everything before it was emptied.
-/

namespace Greedy
variable {α : Type} {avail : α → Int} {l : List α} {need : Int} {a b : α} {q : Int}

/-- What is taken from each source, those that give nothing left out. -/
def plan (avail : α → Int) : List α → Int → List (α × Int)
  | [], _ => []
  | a :: l, need =>
      if need ≤ 0 then []
      else if avail a ≤ 0 then plan avail l need
      else (a, min (avail a) need) :: plan avail l (need - min (avail a) need)

@[simp] theorem plan_nil : plan avail [] need = [] := rfl

theorem plan_of_nonpos (h : need ≤ 0) : plan avail l need = [] := by
  cases l with
  | nil => rfl
  | cons a l => simp [plan, h]

theorem plan_cons_empty (ha : avail a ≤ 0) : plan avail (a :: l) need = plan avail l need := by
  by_cases hneed : need ≤ 0
  · rw [plan_of_nonpos hneed, plan_of_nonpos hneed]
  · simp [plan, hneed, ha]

theorem plan_cons_take (ha : 0 < avail a) (hneed : 0 < need) : plan avail (a :: l) need =
    (a, min (avail a) need) :: plan avail l (need - min (avail a) need) := by
  rw [plan, if_neg (by omega), if_neg (by omega)]

/-- **Total.** The need, or all that the sources have. -/
theorem sum_plan (h : ∀ a ∈ l, 0 ≤ avail a) :
    ((plan avail l need).map Prod.snd).sum = min (max need 0) (l.map avail).sum := by
  have htotal : ∀ l : List α, (∀ a ∈ l, 0 ≤ avail a) → 0 ≤ (l.map avail).sum := by
    intro l hl
    refine List.sum_nonneg fun x hx => ?_
    obtain ⟨a, ha, rfl⟩ := List.mem_map.mp hx
    exact hl a ha
  induction l generalizing need with
  | nil => simp
  | cons a l ih =>
      have hl := fun b hb => h b (List.mem_cons_of_mem _ hb)
      have hrest := htotal l hl
      have ha := h a List.mem_cons_self
      rw [List.map_cons, List.sum_cons]
      by_cases hneed : need ≤ 0
      · rw [plan_of_nonpos hneed]
        simp only [List.map_nil, List.sum_nil]
        omega
      by_cases hzero : avail a ≤ 0
      · rw [plan_cons_empty hzero, ih hl]
        omega
      · rw [plan_cons_take (by omega) (by omega), List.map_cons, List.sum_cons, ih hl]
        omega

/-- Something is taken, and not more than there is. -/
theorem mem_plan (h : (a, q) ∈ plan avail l need) : a ∈ l ∧ 0 < q ∧ q ≤ avail a := by
  induction l generalizing need with
  | nil => cases h
  | cons b l ih =>
      by_cases hneed : need ≤ 0
      · rw [plan_of_nonpos hneed] at h
        cases h
      by_cases hzero : avail b ≤ 0
      · rw [plan_cons_empty hzero] at h
        obtain ⟨hmem, hq⟩ := ih h
        exact ⟨List.mem_cons_of_mem _ hmem, hq⟩
      · rw [plan_cons_take (by omega) (by omega)] at h
        rcases List.mem_cons.mp h with heq | h
        · cases heq
          refine ⟨List.mem_cons_self, ?_, ?_⟩
          · omega
          · omega
        · obtain ⟨hmem, hq⟩ := ih h
          exact ⟨List.mem_cons_of_mem _ hmem, hq⟩

/-- Each source is asked once, in the order of the list. -/
theorem sublist_plan : ((plan avail l need).map Prod.fst).Sublist l := by
  induction l generalizing need with
  | nil => simp
  | cons a l ih =>
      by_cases hneed : need ≤ 0
      · rw [plan_of_nonpos hneed]
        exact List.nil_sublist _
      by_cases hzero : avail a ≤ 0
      · rw [plan_cons_empty hzero]
        exact ih.cons _
      · rw [plan_cons_take (by omega) (by omega), List.map_cons]
        exact ih.cons_cons _

/-- **Order.** Whatever comes before a source that gives something gives all
it has. -/
theorem plan_exhausts {R : α → α → Prop} (hl : l.Pairwise R) (ha : (a, q) ∈ plan avail l need)
    (hb : b ∈ l) (hne : b ≠ a) (hR : ¬ R a b) (hpos : 0 < avail b) :
    (b, avail b) ∈ plan avail l need := by
  induction l generalizing need with
  | nil => cases hb
  | cons c l ih =>
      obtain ⟨hc, hl⟩ := List.pairwise_cons.mp hl
      by_cases hneed : need ≤ 0
      · rw [plan_of_nonpos hneed] at ha
        cases ha
      by_cases hzero : avail c ≤ 0
      · rw [plan_cons_empty hzero] at ha ⊢
        rcases List.mem_cons.mp hb with rfl | hb
        · omega
        · exact ih hl ha hb
      · rw [plan_cons_take (by omega) (by omega)] at ha ⊢
        rcases List.mem_cons.mp hb with rfl | hbl
        · -- the rest of the list was reached, so this one was emptied
          rcases List.mem_cons.mp ha with heq | ha
          · cases heq
            exact absurd rfl hne
          · have hleft : 0 < need - min (avail b) need := by
              by_contra hnone
              rw [plan_of_nonpos (by omega)] at ha
              cases ha
            have hall : min (avail b) need = avail b := by omega
            rw [hall]
            exact List.mem_cons_self
        · rcases List.mem_cons.mp ha with heq | ha
          · cases heq
            exact absurd (hc b hbl) hR
          · exact List.mem_cons_of_mem _ (ih hl ha hbl)

end Greedy
