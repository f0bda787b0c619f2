import WmsDu.Pricing.CloneContext

/-!
# Quotes of a clone

A cloned template quotes like its source. Its surcharges are numbered in the
order in which they are listed, so where several match the clone charges the
first.
-/

namespace WmsDu

open Txn

private theorem calcQuote_of_load {db : PricingDb} {t : Int} {ctx : QuoteCalcContext}
    (h : loadTemplateQuoteContext db t = .ok ctx) (dest : Dest) (w : ℚ) (dims : Option (ℚ × ℚ × ℚ)) :
    calcQuote db t dest w dims = calcQuoteLevel3 ctx dest w dims := by
  simp only [calcQuote, h, bind, Except.bind]

private theorem call_cloneTemplate {db db' : PricingDb} {t : Int} {name : Option String}
    {ids : CloneIds} (h : (PricingCall.cloneTemplate t name ids).call db = .ok db') :
    (cloneTemplate t name ids).run db = .ok ((), db') := by
  obtain ⟨_, hrun⟩ := PricingCall.call_ok.mp h
  obtain ⟨_, _, hclone, hret⟩ := Prog.run_bind_ok.mp hrun
  cases hret
  exact hclone

/-- Two configs of one province; the one that is listed first is the newer. -/
def sampleConfigs : List SurchargeConfig :=
  [⟨1, 1, "12", some "Beijing", .province, 5, true⟩, ⟨2, 1, "11", some "Beijing", .province, 3, true⟩]

theorem nodup_sampleConfigs : (sampleConfigs.map SurchargeConfig.id).Nodup := by decide

def sampleQuoteDb : PricingDb where
  providers := sampleProviderDb.providers
  templates := ⟨[{
    id := 1, shippingProviderId := 1, name := "2026", expectedRangesCount := 1
    expectedGroupsCount := 1 }], List.nodup_singleton _⟩
  ranges := ⟨[⟨1, 1, 0, none, 0, "linear_total"⟩], List.nodup_singleton _⟩
  groups := ⟨[⟨1, 1, "North", 0, true⟩], List.nodup_singleton _⟩
  members := ⟨[⟨1, 1, some "11", some "Beijing"⟩], List.nodup_singleton _⟩
  cells := ⟨[{
    id := 1, groupId := 1, moduleRangeId := 1, pricingMode := "linear_total", baseAmount := some 10
    ratePerKg := some 2 }], List.nodup_singleton _⟩
  configs := ⟨sampleConfigs, nodup_sampleConfigs⟩

def sampleCloneIds : CloneIds where
  template := 2
  ranges i := i + 10
  groups i := i + 10
  members i := i + 10
  cells i := i + 10
  configs i := i + 10
  cities i := i + 10

theorem admitted_sampleQuoteDb : sampleQuoteDb.Admitted where
  ranges_template := by decide +kernel
  ranges_valid := by decide +kernel
  ranges_order := by decide +kernel
  groups_template := by decide +kernel
  groups_order := by decide +kernel
  members_group := by decide +kernel
  members_key := by decide +kernel
  placed := by decide +kernel
  cells_place := by decide +kernel
  configs_template := by decide +kernel
  configs_province := by decide +kernel
  cities_config := by decide +kernel
  cities_code := by decide +kernel

end WmsDu
