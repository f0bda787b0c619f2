import Mathlib
import WmsDu.Pricing.Ranges

/-!
# Weight ranges of a template

The check of a payload sorts the ranges and compares the begin of each with
the end of the one before it. A range without an end clears that comparison
for its successor, whatever it covers; elsewhere comparing neighbours is
enough. No constraint of the table stands behind the check.
-/

namespace WmsDu

open Txn

/-- **Weight ranges.** Of valid ranges the check accepts exactly those lists
that have no weight in common if and only if each range that another one
follows has an end, or two of them overlap the first of which has one. In
every run of calls whose payloads are such, each weight lies in one range of a
template at most. -/
theorem weight_ranges {ranges : List (HalfOpen ℚ)} {db₀ db : PricingDb}
    (hvalid : ∀ r ∈ ranges, 0 ≤ r.1 ∧ r.Nonempty) (h₀ : db₀.Admitted) (hapart : db₀.RangesApart)
    (h : Reaches PricingCall.call (fun _ c => c.RangesTold) db₀ db) :
    ((validateRangesNoOverlap ranges = .ok () ↔
        ranges.Pairwise fun r s => ∀ w, ¬ (r.Covers w ∧ s.Covers w)) ↔ RangesTold ranges) ∧
    ∀ r ∈ db.ranges.rows, ∀ s ∈ db.ranges.rows, r.templateId = s.templateId →
      ∀ w, r.weights.Covers w → s.weights.Covers w → r = s := by
  constructor
  · have hdisjoint : (ranges.Pairwise fun r s => ∀ w, ¬ (r.Covers w ∧ s.Covers w)) ↔
        (orderedRanges ranges).Pairwise HalfOpen.Apart := by
      rw [(orderedRanges_perm ranges).pairwise_iff HalfOpen.Apart.symm]
      exact List.Pairwise.iff_of_mem fun hr hs =>
        (HalfOpen.apart_iff (hvalid _ hr).2 (hvalid _ hs).2).symm
    rw [validateRangesNoOverlap_ok, hdisjoint]
    refine HalfOpen.chain_clear_iff_pairwise_apart (orderedRanges_sorted _) fun r hr => ?_
    exact (hvalid r ((orderedRanges_perm ranges).mem_iff.mp hr)).2
  · have hreached : db.Admitted ∧ db.RangesApart := by
      refine h.invariant (I := fun db => db.Admitted ∧ db.RangesApart) ⟨h₀, hapart⟩ ?_
      rintro w w' c htold ⟨hw, hwapart⟩ hcall
      refine ⟨(c.call_preserves (I := fun _ => True) (fun _ _ _ _ => trivial) hcall hw trivial).1, ?_⟩
      exact PricingCall.call_ranges hcall hw hwapart htold
    intro r hr s hs ht w hrw hsw
    by_contra hne
    exact (hreached.2 r hr s hs ht hne).not_both ⟨hrw, hsw⟩

/-! ## From zero on, and from five to ten -/

/-- A template is created and gets the ranges. -/
def sampleRangeCalls (ranges : List ModuleRangeWriteIn) : List PricingCall :=
  [.createTemplate
      { shippingProviderId := 1, name := "2026", expectedRangesCount := 2, expectedGroupsCount := 1
        ranges_ge := two_ge_one, groups_ge := one_ge_one } 1,
    .putTemplateRanges 1 ranges fun i => i + 1]

/-- Up to one kilogram, and from one on. -/
def sampleRanges : List ModuleRangeWriteIn :=
  [{ minKg := 1, maxKg := none }, { minKg := 0, maxKg := some 1 }]

/-- Two ranges that meet are accepted, and lie apart in the table. -/
theorem weight_ranges_sample : ∃ db,
    callAll PricingCall.call (fun _ c => c.RangesTold) sampleProviderDb
        (sampleRangeCalls sampleRanges) = some db ∧
      db.ranges.rows.map ModuleRange.weights = [(1, none), (0, some 1)] ∧
      ((validateRangesNoOverlap [(1, none), (0, some 1)] = .ok () ↔
        [((1 : ℚ), none), ((0 : ℚ), some (1 : ℚ))].Pairwise fun r s =>
          ∀ w, ¬ (HalfOpen.Covers r w ∧ HalfOpen.Covers s w)) ↔
        RangesTold [(1, none), (0, some 1)]) ∧
      ∀ r ∈ db.ranges.rows, ∀ s ∈ db.ranges.rows, r.templateId = s.templateId →
        ∀ w, r.weights.Covers w → s.weights.Covers w → r = s := by
  have hrun : ∃ db ∈ callAll PricingCall.call (fun _ c => c.RangesTold) sampleProviderDb
      (sampleRangeCalls sampleRanges),
      db.ranges.rows.map ModuleRange.weights = [(1, none), (0, some 1)] := by
    decide +kernel
  obtain ⟨db, hdb, hrows⟩ := hrun
  have hvalid : ∀ r ∈ [((1 : ℚ), none), ((0 : ℚ), some (1 : ℚ))], 0 ≤ r.1 ∧ HalfOpen.Nonempty r := by
    simp [HalfOpen.Nonempty]
  refine ⟨db, hdb, hrows, weight_ranges hvalid admitted_sampleProviderDb ?_ (.of_callAll .start hdb)⟩
  simp [PricingDb.RangesApart, sampleProviderDb, Table.empty]

/-- A range from zero on and one from five to ten are accepted: seven
kilograms lie in both. -/
theorem weight_ranges_not :
    (validateRangesNoOverlap [(0, none), (5, some 10)] = .ok () ∧
      ¬ [((0 : ℚ), none), ((5 : ℚ), some (10 : ℚ))].Pairwise fun r s =>
        ∀ w, ¬ (HalfOpen.Covers r w ∧ HalfOpen.Covers s w)) ∧
    ∃ db, Reaches PricingCall.call (fun _ _ => True) sampleProviderDb db ∧
      ∃ r ∈ db.ranges.rows, ∃ s ∈ db.ranges.rows, r.templateId = s.templateId ∧ r ≠ s ∧
        r.weights.Covers 7 ∧ s.weights.Covers 7 := by
  refine ⟨⟨by decide, fun h => ?_⟩, ?_⟩
  · have hboth := List.rel_of_pairwise_cons h (List.mem_singleton.mpr rfl) 7
    revert hboth
    decide
  · have hrun : ∃ db ∈ callAll PricingCall.call (fun _ _ => True) sampleProviderDb
        (sampleRangeCalls [{ minKg := 0, maxKg := none }, { minKg := 5, maxKg := some 10 }]),
        ∃ r ∈ db.ranges.rows, ∃ s ∈ db.ranges.rows, r.templateId = s.templateId ∧ r ≠ s ∧
          r.weights.Covers 7 ∧ s.weights.Covers 7 := by
      decide +kernel
    obtain ⟨db, hdb, hboth⟩ := hrun
    exact ⟨db, .of_callAll .start hdb, hboth⟩

end WmsDu
