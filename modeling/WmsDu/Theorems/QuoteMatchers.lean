import WmsDu.Pricing.Matchers

/-!
# Two matchers of one engine

The engine matches groups and weight ranges itself; `quote/matchers.py` does it
again, with the contract the tests state: a destination no member covers goes
to a group without members or to none. The engine gives it to the first active
group, whatever its members are.
-/

namespace WmsDu

/-! ## When they agree -/

/-- The first group that is hit has the least id of those that are. Where none
is, the first active group has no members, and the least id of those without. -/
def GroupsAgree (groups : List QuoteGroupContext) (dest : Dest) : Prop :=
  (∀ g ∈ groups.find? fun g => g.Hit dest, ∀ h ∈ groups, h.Hit dest → g.id ≤ h.id) ∧
    ((∀ g ∈ groups, ¬ g.Hit dest) →
      ∀ g ∈ groups.find? (·.active), g.members = [] ∧ ∀ h ∈ groups, h.Open → g.id ≤ h.id)

/-- The first row that covers the weight still does so below the tolerance, and
no row that nearly covers it begins later. Where none covers it, none nearly
does. -/
def RowsAgree (rows : List QuoteMatrixRowContext) (w : ℚ) : Prop :=
  (∀ r ∈ rows.find? fun r => r.active ∧ r.Covers w, Matchers.CoversNearly r w ∧
      ∀ t ∈ rows, t.active ∧ Matchers.CoversNearly t w → Matchers.specific t ≤ Matchers.specific r) ∧
    ((∀ r ∈ rows, ¬ (r.active ∧ r.Covers w)) →
      ∀ r ∈ rows, ¬ (r.active ∧ Matchers.CoversNearly r w))

private theorem of_mem_find? {α : Type} {p : α → Prop} [DecidablePred p] {l : List α} {a : α}
    (h : a ∈ l.find? fun a => p a) : p a := by
  simpa using List.find?_some h

section Groups
variable {groups : List QuoteGroupContext} {members : List MatcherMember} {dest : Dest}

/-- Where some group is hit, both choose among those. -/
private theorem agree_of_hit (hit : ∃ g ∈ groups, g.Hit dest) :
    (((groups.find? fun g => g.Hit dest).map (QuoteGroupContext.answer dest)).or
        ((groups.find? (·.active)).map fun g => (g, none)) =
      (((sortOn QuoteGroupContext.id groups).find? fun g => g.Hit dest).map
          (QuoteGroupContext.answer dest)).or
        (((sortOn QuoteGroupContext.id groups).find? fun g => g.Open).map fun g => (g, none))) ↔
      ∀ g ∈ groups.find? fun g => g.Hit dest, ∀ h ∈ groups, h.Hit dest → g.id ≤ h.id := by
  obtain ⟨g, hg, hit⟩ := hit
  obtain ⟨first, hfirst⟩ := Option.isSome_iff_exists.mp
    (List.find?_isSome.mpr ⟨g, hg, decide_eq_true hit⟩ :
      (groups.find? fun g => g.Hit dest).isSome)
  obtain ⟨least, hleast⟩ := Option.isSome_iff_exists.mp
    (List.find?_isSome.mpr ⟨g, mem_sortOn.mpr hg, decide_eq_true hit⟩ :
      ((sortOn QuoteGroupContext.id groups).find? fun g => g.Hit dest).isSome)
  have hsearch : (groups.find? fun g => g.Hit dest) =
      ((sortOn QuoteGroupContext.id groups).find? fun g => g.Hit dest) ↔ _ :=
    find?_eq_find?_sortOn
  rw [hfirst, hleast] at hsearch ⊢
  simp only [decide_eq_true_eq] at hsearch
  rw [← hsearch]
  constructor
  · intro h
    exact congrArg some (Prod.mk.inj (Option.some.inj h)).1
  · intro h
    cases h
    rfl

/-- Where no group is hit, one chooses the first active group and the other
the least without members. -/
private theorem agree_of_no_hit (hno : ∀ g ∈ groups, ¬ g.Hit dest) :
    (((groups.find? fun g => g.Hit dest).map (QuoteGroupContext.answer dest)).or
        ((groups.find? (·.active)).map fun g => (g, none)) =
      (((sortOn QuoteGroupContext.id groups).find? fun g => g.Hit dest).map
          (QuoteGroupContext.answer dest)).or
        (((sortOn QuoteGroupContext.id groups).find? fun g => g.Open).map fun g => (g, none))) ↔
      ∀ g ∈ groups.find? (·.active), g.members = [] ∧ ∀ h ∈ groups, h.Open → g.id ≤ h.id := by
  have hfirst : (groups.find? fun g => g.Hit dest) = none :=
    List.find?_eq_none.mpr fun g hg => by simpa using hno g hg
  have hleast : ((sortOn QuoteGroupContext.id groups).find? fun g => g.Hit dest) = none :=
    List.find?_eq_none.mpr fun g hg => by simpa using hno g (mem_sortOn.mp hg)
  rw [hfirst, hleast]
  show (groups.find? (·.active)).map (fun g => (g, none)) =
    ((sortOn QuoteGroupContext.id groups).find? fun g => g.Open).map (fun g => (g, none)) ↔ _
  rw [Option.map_inj_right fun g g' h => (Prod.mk.inj h).1]
  constructor
  · intro h g hg
    rw [h] at hg
    have hopen : g.Open := of_mem_find? hg
    exact ⟨hopen.2, fun h hh ho => find?_sortOn_least hg h hh (decide_eq_true ho)⟩
  · intro h
    -- the first active group is the first without members
    have hopen : groups.find? (·.active) = groups.find? fun g => g.Open := by
      cases hactive : groups.find? (·.active) with
      | none =>
          refine (List.find?_eq_none.mpr fun g hg => ?_).symm
          have := List.find?_eq_none.mp hactive g hg
          simp_all [QuoteGroupContext.Open]
      | some g =>
          obtain ⟨hg, l₁, l₂, hl, hbefore⟩ := List.find?_eq_some_iff_append.mp hactive
          refine (List.find?_eq_some_iff_append.mpr ⟨?_, l₁, l₂, hl, fun b hb => ?_⟩).symm
          · exact decide_eq_true ⟨hg, (h g hactive).1⟩
          · have := hbefore b hb
            simp_all [QuoteGroupContext.Open]
    rw [hopen, find?_eq_find?_sortOn]
    rw [hopen] at h
    exact fun g hg b hb ho => (h g hg).2 b hb (of_decide_eq_true ho)

/-- The groups both choose are the same exactly when these conditions hold. -/
theorem groups_agree_iff (hsame : SameMembers groups members) :
    matchDestinationGroup groups dest = Matchers.matchDestinationGroup groups members dest ↔
      GroupsAgree groups dest := by
  rw [matchDestinationGroup_eq, matchers_matchDestinationGroup_eq hsame]
  by_cases hit : ∃ g ∈ groups, g.Hit dest
  · rw [agree_of_hit hit]
    refine ⟨fun h => ⟨h, fun hno => ?_⟩, fun h => h.1⟩
    obtain ⟨g, hg, hit⟩ := hit
    exact absurd hit (hno g hg)
  · have hno : ∀ g ∈ groups, ¬ g.Hit dest := fun g hg h => hit ⟨g, hg, h⟩
    rw [agree_of_no_hit hno]
    refine ⟨fun h => ⟨fun g hg => ?_, fun _ => h⟩, fun h => h.2 hno⟩
    exact absurd (of_mem_find? hg) (hno g (List.mem_of_find?_eq_some hg))

end Groups

section Rows
variable {rows : List QuoteMatrixRowContext} {w : ℚ}

theorem matchPricingMatrix_eq :
    matchPricingMatrix rows w = rows.find? fun r => r.active ∧ r.Covers w := by
  unfold matchPricingMatrix
  rw [List.find?_filter]
  congr 1
  funext r
  simp

theorem matchers_matchPricingMatrix_eq :
    Matchers.matchPricingMatrix rows w =
      (sortOn (fun r => OrderDual.toDual (Matchers.specific r)) rows).find? fun r =>
        r.active ∧ Matchers.CoversNearly r w := by
  rw [find?_sortOn]
  rfl

/-- The rows both choose are the same exactly when these conditions hold. -/
theorem rows_agree_iff :
    matchPricingMatrix rows w = Matchers.matchPricingMatrix rows w ↔ RowsAgree rows w := by
  rw [matchPricingMatrix_eq, matchers_matchPricingMatrix_eq]
  constructor
  · intro h
    refine ⟨fun r hr => ?_, fun hno r hr hnear => ?_⟩
    · rw [h] at hr
      have hnear := of_mem_find? hr
      exact ⟨hnear.2, fun t ht hnear => find?_sortOn_least hr t ht (decide_eq_true hnear)⟩
    · have hnone : (rows.find? fun r => r.active ∧ r.Covers w) = none :=
        List.find?_eq_none.mpr fun r hr => by simpa using hno r hr
      rw [hnone] at h
      exact List.find?_eq_none.mp h.symm r (mem_sortOn.mpr hr) (decide_eq_true hnear)
  · rintro ⟨hsome, hnone⟩
    cases hfirst : rows.find? fun r => r.active ∧ r.Covers w with
    | none =>
        have hno : ∀ r ∈ rows, ¬ (r.active ∧ r.Covers w) := fun r hr => by
          simpa using List.find?_eq_none.mp hfirst r hr
        refine (List.find?_eq_none.mpr fun r hr => ?_).symm
        simpa using hnone hno r (mem_sortOn.mp hr)
    | some r =>
        obtain ⟨hnear, hmax⟩ := hsome r hfirst
        obtain ⟨hr, l₁, l₂, rfl, hbefore⟩ := List.find?_eq_some_iff_append.mp hfirst
        obtain ⟨hactive, hcovers⟩ := of_decide_eq_true hr
        refine (find?_sortOn_first (by simp [hactive, hnear]) (fun t ht hp => ?_)
          fun t ht hp => ?_).symm
        · have hp := of_decide_eq_true hp
          refine lt_of_le_of_ne (hmax t (List.mem_append_left _ ht) hp) fun heq => ?_
          -- a row of the same begin that nearly covers the weight covers it
          have hmin : t.minKg = r.minKg := by
            have hspecific : Matchers.specific r = Matchers.specific t := heq
            exact (Prod.mk.inj (toLex.injective hspecific)).1.symm
          have hcov : t.Covers w := by
            refine ⟨hmin ▸ hcovers.1, fun max hmx => ?_⟩
            have := hp.2.2 max hmx
            have heps : (0 : ℚ) < Matchers.eps := by norm_num [Matchers.eps]
            linarith
          have := hbefore t ht
          simp [hp.1, hcov] at this
        · exact hmax t (List.mem_append_right _ (List.mem_cons_of_mem _ ht)) (of_decide_eq_true hp)

end Rows

def sampleBeijing : QuoteGroupContext where
  id := 1
  name := "Beijing"
  active := true
  members := [⟨11, some "110000", some "北京市"⟩]

def sampleElsewhere : QuoteGroupContext where
  id := 2
  name := "Elsewhere"
  active := true
  members := []

def sampleMembers : List MatcherMember := [⟨1, ⟨11, some "110000", some "北京市"⟩⟩]

/-- A row of flat prices. -/
def sampleRow (id : Int) (minKg : ℚ) (maxKg : Option ℚ) : QuoteMatrixRowContext where
  id := id
  groupId := 1
  moduleRangeId := id
  pricingMode := "flat"
  flatAmount := some 5
  baseAmount := none
  ratePerKg := none
  baseKg := none
  active := true
  minKg := minKg
  maxKg := maxKg

end WmsDu
