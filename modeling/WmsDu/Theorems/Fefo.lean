import WmsDu.Stock.Fefo

/-!
# The plan is exact and first expired, first out

A plan takes what is needed or all there is, no more from a row than it has,
and nothing from a row before every row that expires earlier is empty.
-/

namespace WmsDu

/-- The suggestions a plan makes for a row of the stock. -/
structure FefoExact (rows : List FefoRow) (need : Int) (plan : List Allocation) : Prop where
  total : (plan.map Allocation.takeQty).sum = min (max need 0) (rows.map FefoRow.avail).sum
  within : ∀ a ∈ plan, ∃ r ∈ rows, a = r.take a.takeQty ∧ 0 < a.takeQty ∧ a.takeQty ≤ r.avail
  once : (plan.map Allocation.stockId).Nodup
  first : ∀ a ∈ plan, ∀ r ∈ rows, r.stockId = a.stockId → ∀ s ∈ rows, s.Before r →
    0 < s.avail → s.take s.avail ∈ plan

/-- **FEFO.** The plan over the ranked rows meets the need exactly, within
what the rows have, and empties every row before a later one gives anything. -/
theorem fefo_exact {rows : List FefoRow} (hid : (rows.map FefoRow.stockId).Nodup)
    (havail : ∀ r ∈ rows, 0 ≤ r.avail) (need : Int) :
    FefoExact rows need (fefoPlan (fefoRank rows) need) := by
  have hperm : (fefoRank rows).Perm rows := perm_sortOn FefoRow.sortKey rows
  have hmem {r : FefoRow} : r ∈ fefoRank rows ↔ r ∈ rows := hperm.mem_iff
  have hint {r : FefoRow} (hr : r ∈ rows) : availInt r.avail = r.avail :=
    availInt_of_nonneg (havail r hr)
  rw [fefoPlan_eq]
  constructor
  · rw [List.map_map]
    have hranked : ∀ r ∈ fefoRank rows, 0 ≤ availInt r.avail := fun r _ => le_max_right _ _
    have hsame : ((fefoRank rows).map fun r => availInt r.avail).sum =
        (rows.map FefoRow.avail).sum := by
      rw [(hperm.map _).sum_eq]
      exact congrArg List.sum (List.map_congr_left fun r hr => hint hr)
    rw [← hsame]
    exact Greedy.sum_plan hranked
  · intro a ha
    obtain ⟨⟨r, q⟩, hp, rfl⟩ := List.mem_map.mp ha
    obtain ⟨hr, hpos, hle⟩ := Greedy.mem_plan hp
    rw [hint (hmem.mp hr)] at hle
    exact ⟨r, hmem.mp hr, rfl, hpos, hle⟩
  · have hsub : ((Greedy.plan (fun r : FefoRow => availInt r.avail) (fefoRank rows) need).map
        Prod.fst).Sublist (fefoRank rows) := Greedy.sublist_plan
    have hnodup := (hsub.map FefoRow.stockId).nodup ((hperm.map _).nodup_iff.mpr hid)
    rw [List.map_map] at hnodup ⊢
    exact hnodup
  · intro a ha r hr heq s hs hbefore hpos
    obtain ⟨⟨r', q⟩, hp, rfl⟩ := List.mem_map.mp ha
    obtain ⟨hr', -, -⟩ := Greedy.mem_plan hp
    obtain rfl : r = r' := List.inj_on_of_nodup_map hid hr (hmem.mp hr') heq
    -- the earlier row stands before the one that gives, so it was emptied
    have hlt := (FefoRow.sortKey_lt s r).mpr hbefore
    have hne : s ≠ r := fun h => lt_irrefl _ (h ▸ hlt)
    have hlater : ¬ r.sortKey ≤ s.sortKey := not_le.mpr hlt
    have htaken := Greedy.plan_exhausts (pairwise_sortOn FefoRow.sortKey rows) hp
      (hmem.mpr hs) hne hlater (by rw [hint hs]; exact hpos)
    rw [hint hs] at htaken
    exact List.mem_map.mpr ⟨(s, s.avail), htaken, rfl⟩

/-- The milk of the day goes first, then the later one in part. -/
theorem fefo_exact_sample :
    FefoExact [⟨1, none, 5, none⟩, ⟨2, none, 5, some ⟨2026, 3, 2⟩⟩, ⟨3, none, 4, some ⟨2026, 3, 1⟩⟩]
      7 (fefoPlan (fefoRank [⟨1, none, 5, none⟩, ⟨2, none, 5, some ⟨2026, 3, 2⟩⟩,
        ⟨3, none, 4, some ⟨2026, 3, 1⟩⟩]) 7) ∧
      (fefoPlan (fefoRank [⟨1, none, 5, none⟩, ⟨2, none, 5, some ⟨2026, 3, 2⟩⟩,
        ⟨3, none, 4, some ⟨2026, 3, 1⟩⟩]) 7).map (fun a => (a.stockId, a.takeQty)) =
        [(3, 4), (2, 3)] :=
  ⟨fefo_exact (by decide) (by decide) 7, by decide +kernel⟩

end WmsDu
