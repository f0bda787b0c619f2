import WmsDu.Data.Sorting
import WmsDu.Pricing.Quote

/-!
# The other matchers

`quote/matchers.py`, which the tests exercise and the engine does not call. It
takes the members of all groups as one list, looks at the groups in the order
of their ids, and compares weights with a tolerance.
-/

namespace WmsDu

/-- A member, with the group it is one of. -/
structure MatcherMember where
  groupId : Int
  context : QuoteGroupMemberContext
deriving DecidableEq

namespace Matchers

/-- `member_hit`; `_s` is `cleanText`. -/
def memberHit (dest : Dest) (m : QuoteGroupMemberContext) : Bool :=
  match cleanText m.provinceCode, cleanText dest.provinceCode with
  | some rowProvCode, some dpCode => rowProvCode = dpCode
  | _, _ =>
      match cleanText m.provinceName, cleanText dest.province with
      | some rowProvName, some dpName => rowProvName = dpName
      | _, _ => false

/-- The members of a group. -/
def byGroup (members : List MatcherMember) (groupId : Int) : List QuoteGroupMemberContext :=
  (members.filter fun m => m.groupId = groupId).map (·.context)

/-- `_match_destination_group`: the groups with a member that is hit first,
then the groups without members. -/
def matchDestinationGroup (groups : List QuoteGroupContext) (members : List MatcherMember)
    (dest : Dest) : Option (QuoteGroupContext × Option QuoteGroupMemberContext) :=
  let groupsSorted := sortOn QuoteGroupContext.id groups
  let hits := groupsSorted.findSome? fun g =>
    if g.active = false then none
    else ((byGroup members g.id).find? (memberHit dest)).map fun m => (g, some m)
  match hits with
  | some found => some found
  | none =>
      groupsSorted.findSome? fun g =>
        if g.active = false then none
        else if byGroup members g.id ≠ [] then none
        else some (g, none)

def eps : ℚ := 1 / 10 ^ 9

/-- The weight is in the row's range, up to the tolerance. -/
def CoversNearly (r : QuoteMatrixRowContext) (w : ℚ) : Prop :=
  r.minKg - eps ≤ w ∧ ∀ max ∈ r.maxKg, w < max - eps

instance decidableCoversNearly (r : QuoteMatrixRowContext) (w : ℚ) : Decidable (CoversNearly r w) :=
  inferInstanceAs (Decidable (_ ∧ _))

/-- Where a row begins, and its id. -/
def specific (r : QuoteMatrixRowContext) : ℚ ×ₗ Int := toLex (r.minKg, r.id)

/-- `_match_pricing_matrix`: of the rows that cover the weight the one that
begins last. -/
def matchPricingMatrix (rows : List QuoteMatrixRowContext) (billableWeightKg : ℚ) :
    Option QuoteMatrixRowContext :=
  let candidates := rows.filter fun r => r.active ∧ CoversNearly r billableWeightKg
  (sortOn (fun r => OrderDual.toDual (specific r)) candidates).head?

end Matchers

/-! ## Hits -/

theorem cleanText_eq (v : Option String) : cleanText v = orNone (trimmed v) := by
  cases v with
  | none => rfl
  | some s => rfl

/-- Both ask the same of a member. -/
theorem memberHit_eq (dest : Dest) (m : QuoteGroupMemberContext) :
    Matchers.memberHit dest m = provinceMatch m dest := by
  unfold Matchers.memberHit provinceMatch placeMatch
  simp only [cleanText_eq, orNone]
  by_cases hrc : trimmed m.provinceCode = "" <;> by_cases hdc : trimmed dest.provinceCode = "" <;>
    by_cases hrn : trimmed m.provinceName = "" <;> by_cases hdn : trimmed dest.province = "" <;>
    simp [hrc, hdc, hrn, hdn]

/-- An active group with a member that is hit. -/
def QuoteGroupContext.Hit (g : QuoteGroupContext) (dest : Dest) : Prop :=
  g.active = true ∧ ∃ m ∈ g.members, provinceMatch m dest = true

/-- An active group without members. -/
def QuoteGroupContext.Open (g : QuoteGroupContext) : Prop := g.active = true ∧ g.members = []

instance QuoteGroupContext.decidableHit (g : QuoteGroupContext) (dest : Dest) :
    Decidable (g.Hit dest) := inferInstanceAs (Decidable (_ ∧ ∃ m ∈ g.members, _))

instance QuoteGroupContext.decidableOpen (g : QuoteGroupContext) : Decidable g.Open :=
  inferInstanceAs (Decidable (_ ∧ _))

/-- The list holds the members of the groups. -/
def SameMembers (groups : List QuoteGroupContext) (members : List MatcherMember) : Prop :=
  ∀ g ∈ groups, Matchers.byGroup members g.id = g.members

instance decidableSameMembers (groups : List QuoteGroupContext) (members : List MatcherMember) :
    Decidable (SameMembers groups members) := inferInstanceAs (Decidable (∀ g ∈ groups, _))

section Groups
variable {groups : List QuoteGroupContext} {members : List MatcherMember} {dest : Dest}

/-- The answer of a group that was found by a search. -/
private theorem findSome?_eq {α β : Type} {p : α → Bool} {f : α → Option β} {g : α → β} {l : List α}
    (hp : ∀ a ∈ l, p a → f a = some (g a)) (hnot : ∀ a ∈ l, ¬ p a → f a = none) :
    l.findSome? f = (l.find? p).map g := by
  induction l with
  | nil => rfl
  | cons a l ih =>
      have ih := ih (fun b hb => hp b (List.mem_cons_of_mem _ hb))
        fun b hb => hnot b (List.mem_cons_of_mem _ hb)
      rw [List.findSome?_cons, List.find?_cons]
      by_cases ha : p a
      · rw [hp a List.mem_cons_self ha]
        simp [ha]
      · rw [hnot a List.mem_cons_self ha, ih]
        simp [ha]

/-- What both answer for a group that is hit. -/
def QuoteGroupContext.answer (dest : Dest) (g : QuoteGroupContext) :
    QuoteGroupContext × Option QuoteGroupMemberContext := (g, g.hit dest)

private theorem answer_of_hit {g : QuoteGroupContext} (h : g.Hit dest) :
    ((g.hit dest).map fun m => (g, some m)) = some (g.answer dest) := by
  obtain ⟨-, m, hm, hit⟩ := h
  have hsome : (g.hit dest).isSome := List.find?_isSome.mpr ⟨m, hm, hit⟩
  obtain ⟨m', hm'⟩ := Option.isSome_iff_exists.mp hsome
  rw [QuoteGroupContext.answer, hm']
  rfl

private theorem hit_eq_none {g : QuoteGroupContext} (hactive : g.active = true) (h : ¬ g.Hit dest) :
    g.hit dest = none :=
  List.find?_eq_none.mpr fun m hm hit => h ⟨hactive, m, hm, hit⟩

/-- The engine takes the first group that is hit, or the first active one. -/
theorem matchDestinationGroup_eq :
    matchDestinationGroup groups dest =
      ((groups.find? fun g => g.Hit dest).map (QuoteGroupContext.answer dest)).or
        ((groups.find? (·.active)).map fun g => (g, none)) := by
  have hhits : ((groups.filter (·.active)).findSome? fun g => (g.hit dest).map fun m => (g, some m)) =
      (groups.find? fun g => g.Hit dest).map (QuoteGroupContext.answer dest) := by
    rw [findSome?_eq (p := fun g => g.Hit dest) (g := QuoteGroupContext.answer dest),
      List.find?_filter]
    · congr 2
      funext g
      by_cases hit : g.Hit dest
      · simp [hit, hit.1]
      · simp [hit]
    · intro g _ hit
      exact answer_of_hit (of_decide_eq_true hit)
    · intro g hg hit
      rw [hit_eq_none (List.mem_filter.mp hg).2 (by simpa using hit)]
      rfl
  unfold matchDestinationGroup
  dsimp only
  rw [hhits, List.head?_filter]
  cases (groups.find? fun g => g.Hit dest).map (QuoteGroupContext.answer dest) with
  | none => rfl
  | some found => rfl

/-- The other matcher takes the group of the least id that is hit, or that of
the least id without members. -/
theorem matchers_matchDestinationGroup_eq (hsame : SameMembers groups members) :
    Matchers.matchDestinationGroup groups members dest =
      (((sortOn QuoteGroupContext.id groups).find? fun g => g.Hit dest).map
          (QuoteGroupContext.answer dest)).or
        (((sortOn QuoteGroupContext.id groups).find? fun g => g.Open).map fun g => (g, none)) := by
  have hmem : ∀ g ∈ sortOn QuoteGroupContext.id groups, Matchers.byGroup members g.id = g.members :=
    fun g hg => hsame g (mem_sortOn.mp hg)
  have hhit : ∀ g : QuoteGroupContext,
      g.members.find? (Matchers.memberHit dest) = g.hit dest := fun g =>
    congrArg (fun p => g.members.find? p) (funext (memberHit_eq dest))
  unfold Matchers.matchDestinationGroup
  dsimp only
  rw [findSome?_eq (p := fun g => g.Hit dest) (g := QuoteGroupContext.answer dest),
    findSome?_eq (p := fun g => g.Open) (g := fun g => (g, none))]
  · cases ((sortOn QuoteGroupContext.id groups).find? fun g => g.Hit dest).map
        (QuoteGroupContext.answer dest) with
    | none => rfl
    | some found => rfl
  · intro g hg hopen
    obtain ⟨hactive, hnone⟩ := of_decide_eq_true hopen
    simp [hactive, hmem g hg, hnone]
  · intro g hg hopen
    have hopen : ¬ g.Open := by simpa using hopen
    by_cases hactive : g.active = true
    · have hne : g.members ≠ [] := fun hnone => hopen ⟨hactive, hnone⟩
      simp [hactive, hmem g hg, hne]
    · simp [hactive]
  · intro g hg hit
    have hit := of_decide_eq_true hit
    rw [if_neg (by simp [hit.1]), hmem g hg, hhit, answer_of_hit hit]
  · intro g hg hit
    have hit : ¬ g.Hit dest := by simpa using hit
    by_cases hactive : g.active = true
    · rw [if_neg (by simp [hactive]), hmem g hg, hhit, hit_eq_none hactive hit]
      rfl
    · simp [hactive]

end Groups

end WmsDu
