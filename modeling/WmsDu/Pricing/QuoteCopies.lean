import WmsDu.Pricing.Quote

/-!
# Quotes of copied contexts

A context whose rows carry other ids quotes the same: the ids find a group's
rows, and of several surcharges that match, the least of them decides. What a
quote says besides ids is its outcome.
-/

namespace WmsDu

/-! ## Outcomes -/

/-- The reason without the id that stands in for a province without a name. -/
def QuoteReason.outcome : QuoteReason → QuoteReason
  | .surchargeProvince _ => .surchargeProvince none
  | r => r

/-- The surcharge without its id, and without the name that may be one. -/
def SurchargeOut.outcome (s : SurchargeOut) : SurchargeOut := { s with id := 0, name := "" }

/-- The quote without the ids of the rows it was made from. -/
def Quote.outcome (q : Quote) : Quote :=
  { q with
    templateId := 0
    reasons := q.reasons.map QuoteReason.outcome
    destinationGroup :=
      { q.destinationGroup with
        id := 0, hitMember := q.destinationGroup.hitMember.map ({ · with id := 0 }) }
    pricingMatrix := { q.pricingMatrix with id := 0, moduleRangeId := 0 }
    breakdown := { q.breakdown with surcharges := q.breakdown.surcharges.map SurchargeOut.outcome } }

/-- What a quote says of the group and the row it chose, before surcharges. -/
def Quote.beforeSurcharges (q : Quote) : Quote :=
  { q.outcome with
    reasons := []
    breakdown :=
      { q.breakdown with
        surcharges := []
        summary := { q.breakdown.summary with surchargeAmount := 0, extraAmount := 0, totalAmount := none } }
    totalAmount := none }

/-! ## Copies -/

/-- The ids copied rows carry for the old ones. -/
structure CopiedIds where
  group : Int → Int
  member : Int → Int
  range : Int → Int
  cell : Int → Int
  config : Int → Int
  city : Int → Int

section Copies
variable (f : CopiedIds)

def QuoteGroupMemberContext.copied (m : QuoteGroupMemberContext) : QuoteGroupMemberContext :=
  { m with id := f.member m.id }

def QuoteGroupContext.copied (g : QuoteGroupContext) : QuoteGroupContext :=
  { g with id := f.group g.id, members := g.members.map (·.copied f) }

def QuoteMatrixRowContext.copied (r : QuoteMatrixRowContext) : QuoteMatrixRowContext :=
  { r with id := f.cell r.id, groupId := f.group r.groupId, moduleRangeId := f.range r.moduleRangeId }

def QuoteSurchargeCityContext.copied (c : QuoteSurchargeCityContext) : QuoteSurchargeCityContext :=
  { c with id := f.city c.id }

def QuoteSurchargeConfigContext.copied (c : QuoteSurchargeConfigContext) :
    QuoteSurchargeConfigContext :=
  { c with id := f.config c.id, cities := c.cities.map (·.copied f) }

/-- The context of a template whose rows were copied from another's. -/
def QuoteCalcContext.copied (c : QuoteCalcContext) (t : PricingTemplate) : QuoteCalcContext :=
  { c with
    templateId := t.id
    templateName := t.name
    status := t.status
    archivedAt := t.archivedAt
    groups := c.groups.map (·.copied f)
    matrixRows := c.matrixRows.map (·.copied f)
    surchargeConfigs := c.surchargeConfigs.map (·.copied f) }

end Copies

namespace QuoteCalcContext

/-- The groups are still told apart by the ids of their copies. -/
def GroupsApart (c : QuoteCalcContext) (f : CopiedIds) : Prop :=
  ∀ g ∈ c.groups, ∀ r ∈ c.matrixRows, f.group r.groupId = f.group g.id → r.groupId = g.id

/-- Of the surcharges that match the destination, the first listed has the
least id. -/
structure SurchargesInOrder (c : QuoteCalcContext) (dest : Dest) : Prop where
  configs : (c.surchargeConfigs.filter fun cfg => cfg.active ∧ provinceSurchargeMatch cfg dest).Pairwise
    fun cfg cfg' => cfg.id ≤ cfg'.id
  cities : ∀ cfg ∈ c.surchargeConfigs,
    (cfg.cities.filter fun city => city.active ∧ cityMatch city dest).Pairwise
      fun city city' => city.id ≤ city'.id

instance (c : QuoteCalcContext) (dest : Dest) : Decidable (c.SurchargesInOrder dest) :=
  decidable_of_iff (_ ∧ _) ⟨fun h => ⟨h.1, h.2⟩, fun h => ⟨h.configs, h.cities⟩⟩

end QuoteCalcContext

/-! ## Matching -/

section Matching
variable {f : CopiedIds} {dest : Dest}

theorem QuoteGroupContext.hit_copied (g : QuoteGroupContext) :
    (g.copied f).hit dest = (g.hit dest).map (·.copied f) := by
  unfold hit copied
  exact List.find?_map

theorem matchDestinationGroup_copied (groups : List QuoteGroupContext) :
    matchDestinationGroup (groups.map (·.copied f)) dest =
      (matchDestinationGroup groups dest).map fun x => (x.1.copied f, x.2.map (·.copied f)) := by
  have hactive : (groups.map (·.copied f)).filter (·.active) =
      (groups.filter (·.active)).map (·.copied f) := List.filter_map
  have hsearch : ∀ l : List QuoteGroupContext,
      ((l.map (·.copied f)).findSome? fun g => (g.hit dest).map fun m => (g, some m)) =
        (l.findSome? fun g => (g.hit dest).map fun m => (g, some m)).map
          fun x => (x.1.copied f, x.2.map (·.copied f)) := by
    intro l
    induction l with
    | nil => rfl
    | cons g l ih =>
        rw [List.map_cons, List.findSome?_cons, List.findSome?_cons, QuoteGroupContext.hit_copied, ih]
        cases g.hit dest <;> rfl
  unfold matchDestinationGroup
  dsimp only
  rw [hactive, hsearch]
  cases (groups.filter (·.active)).findSome? fun g => (g.hit dest).map fun m => (g, some m) with
  | some found => rfl
  | none => cases groups.filter (·.active) <;> rfl

theorem matchPricingMatrix_copied (rows : List QuoteMatrixRowContext) (bw : ℚ) :
    matchPricingMatrix (rows.map (·.copied f)) bw =
      (matchPricingMatrix rows bw).map (·.copied f) := by
  unfold matchPricingMatrix
  rw [List.filter_map, List.find?_map]
  rfl

/-! ## Surcharges -/

/-- The charge in order is the first that matches. -/
theorem chargedConfig_of_inOrder {configs : List QuoteSurchargeConfigContext}
    (h : (configs.filter fun cfg => cfg.active ∧ provinceSurchargeMatch cfg dest).Pairwise
      fun cfg cfg' => cfg.id ≤ cfg'.id) :
    chargedConfig configs dest =
      configs.find? fun cfg => cfg.active ∧ provinceSurchargeMatch cfg dest := by
  rw [chargedConfig, sortOn_of_pairwise h, List.head?_filter]

theorem chargedCity_of_inOrder {cfg : QuoteSurchargeConfigContext}
    (h : (cfg.cities.filter fun city => city.active ∧ cityMatch city dest).Pairwise
      fun city city' => city.id ≤ city'.id) :
    cfg.chargedCity dest = cfg.cities.find? fun city => city.active ∧ cityMatch city dest := by
  rw [QuoteSurchargeConfigContext.chargedCity, sortOn_of_pairwise h, List.head?_filter]

/-- Two selections that charge the same. -/
structure SurchargeSelection.SameCharge (s s' : SurchargeSelection) : Prop where
  amount : s'.amount = s.amount
  fixed : s'.fixed = s.fixed
  reasons : s'.reasons.map QuoteReason.outcome = s.reasons.map QuoteReason.outcome
  out : s'.out.map SurchargeOut.outcome = s.out.map SurchargeOut.outcome

/-- Copies of the config and of the city that are charged charge the same. -/
theorem selectSurcharge_copied {configs : List QuoteSurchargeConfigContext}
    (hconfig : chargedConfig (configs.map (·.copied f)) dest =
      (chargedConfig configs dest).map (·.copied f))
    (hcity : ∀ cfg ∈ chargedConfig configs dest,
      (cfg.copied f).chargedCity dest = (cfg.chargedCity dest).map (·.copied f)) :
    (selectSurchargeFromConfigs configs dest).SameCharge
      (selectSurchargeFromConfigs (configs.map (·.copied f)) dest) := by
  unfold selectSurchargeFromConfigs
  rw [hconfig]
  cases hcfg : chargedConfig configs dest with
  | none => exact ⟨rfl, rfl, rfl, rfl⟩
  | some cfg =>
      have hmode : (cfg.copied f).provinceMode = cfg.provinceMode := rfl
      rw [Option.map_some]
      dsimp only
      rw [hmode, hcity cfg hcfg]
      cases cfg.provinceMode with
      | province => exact ⟨rfl, rfl, rfl, rfl⟩
      | cities => cases cfg.chargedCity dest <;> exact ⟨rfl, rfl, rfl, rfl⟩

/-- Surcharges in order charge what their copies in order charge. -/
theorem selectSurcharge_inOrder {c : QuoteCalcContext} {t : PricingTemplate}
    (h : c.SurchargesInOrder dest) (h' : (c.copied f t).SurchargesInOrder dest) :
    (selectSurchargeFromConfigs c.surchargeConfigs dest).SameCharge
      (selectSurchargeFromConfigs (c.copied f t).surchargeConfigs dest) := by
  refine selectSurcharge_copied ?_ fun cfg hcfg => ?_
  · refine (chargedConfig_of_inOrder h'.configs).trans ?_
    rw [chargedConfig_of_inOrder h.configs]
    exact List.find?_map
  · have hmem : cfg ∈ c.surchargeConfigs := by
      rw [chargedConfig_of_inOrder h.configs] at hcfg
      exact List.mem_of_find?_eq_some hcfg
    rw [chargedCity_of_inOrder (h.cities cfg hmem),
      chargedCity_of_inOrder (h'.cities _ (List.mem_map_of_mem hmem))]
    exact List.find?_map

end Matching

/-! ## Quotes -/

section Quotes
variable {c : QuoteCalcContext} {f : CopiedIds} {t : PricingTemplate} {dest : Dest}

/-- The row of a copied group is the copy of the group's row. -/
private theorem groupRows_copied (hgroups : c.GroupsApart f) {g : QuoteGroupContext}
    (hg : g ∈ c.groups) :
    ((c.copied f t).matrixRows.filter fun r => r.groupId = (g.copied f).id ∧ r.active) =
      (c.matrixRows.filter fun r => r.groupId = g.id ∧ r.active).map (·.copied f) := by
  show (c.matrixRows.map (·.copied f)).filter _ = _
  rw [List.filter_map]
  refine congrArg _ (List.filter_congr fun r hr => ?_)
  have hiff : f.group r.groupId = f.group g.id ↔ r.groupId = g.id :=
    ⟨hgroups g hg r hr, congrArg f.group⟩
  exact decide_eq_decide.mpr (and_congr_left' hiff)

/-- The matched group is one of the context's. -/
private theorem mem_of_match {groups : List QuoteGroupContext} {g : QuoteGroupContext}
    {hit : Option QuoteGroupMemberContext} (h : matchDestinationGroup groups dest = some (g, hit)) :
    g ∈ groups := by
  unfold matchDestinationGroup at h
  dsimp only at h
  split at h
  · rename_i found hfound
    cases h
    obtain ⟨a, ha, heq⟩ := List.exists_of_findSome?_eq_some hfound
    obtain ⟨m, -, hm⟩ := Option.map_eq_some_iff.mp heq
    cases hm
    exact List.mem_of_mem_filter ha
  · obtain ⟨a, ha, heq⟩ := Option.map_eq_some_iff.mp h
    cases heq
    exact List.mem_of_mem_filter (List.mem_of_mem_head? ha)

/-- What is read of a quote is the same of a copied context if it is the same
of the price of each copied row. -/
private theorem map_calcQuoteLevel3_copied {α : Type} {read : Quote → α} (hgroups : c.GroupsApart f)
    (hread : ∀ weight g hit row, read (quoteOf (c.copied f t) dest weight (g.copied f)
      (hit.map (·.copied f)) (row.copied f)) = read (quoteOf c dest weight g hit row))
    (w : ℚ) (dims : Option (ℚ × ℚ × ℚ)) :
    (calcQuoteLevel3 (c.copied f t) dest w dims).map read =
      (calcQuoteLevel3 c dest w dims).map read := by
  have hrule : contextBillableWeightRule (c.copied f t) = contextBillableWeightRule c := rfl
  have hmatch : matchDestinationGroup (c.copied f t).groups dest =
      (matchDestinationGroup c.groups dest).map fun x => (x.1.copied f, x.2.map (·.copied f)) :=
    matchDestinationGroup_copied c.groups
  unfold calcQuoteLevel3
  rw [hrule, hmatch]
  cases contextBillableWeightRule c with
  | error e => rfl
  | ok rule =>
      cases hg : matchDestinationGroup c.groups dest with
      | none => rfl
      | some x =>
          obtain ⟨g, hit⟩ := x
          have hrows := groupRows_copied (t := t) hgroups (mem_of_match hg)
          have hrow := matchPricingMatrix_copied (f := f)
            (c.matrixRows.filter fun r => r.groupId = g.id ∧ r.active)
            (computeBillableWeightKg w dims rule).billableWeightKg
          rw [← hrows] at hrow
          simp only [Option.map_some, demandSome, bind, Except.bind, hrow]
          cases matchPricingMatrix (c.matrixRows.filter fun r => r.groupId = g.id ∧ r.active)
              (computeBillableWeightKg w dims rule).billableWeightKg with
          | none => rfl
          | some row => exact congrArg Except.ok (hread _ g hit row)

/-- **Base price.** A copied context finds the same group, the same row and the
same base price. -/
theorem calcQuoteLevel3_beforeSurcharges (hgroups : c.GroupsApart f) (w : ℚ)
    (dims : Option (ℚ × ℚ × ℚ)) :
    (calcQuoteLevel3 (c.copied f t) dest w dims).map Quote.beforeSurcharges =
      (calcQuoteLevel3 c dest w dims).map Quote.beforeSurcharges := by
  refine map_calcQuoteLevel3_copied hgroups (fun weight g hit row => ?_) w dims
  have hbase : calcBaseAmount (row.copied f) = calcBaseAmount row := rfl
  unfold quoteOf
  dsimp only
  rw [hbase]
  cases (calcBaseAmount row weight.billableWeightKg).2 <;> cases hit <;> rfl

/-- **Outcome.** With the surcharges of both in order it quotes the same. -/
theorem calcQuoteLevel3_outcome (hgroups : c.GroupsApart f) (h : c.SurchargesInOrder dest)
    (h' : (c.copied f t).SurchargesInOrder dest) (w : ℚ) (dims : Option (ℚ × ℚ × ℚ)) :
    (calcQuoteLevel3 (c.copied f t) dest w dims).map Quote.outcome =
      (calcQuoteLevel3 c dest w dims).map Quote.outcome := by
  refine map_calcQuoteLevel3_copied hgroups (fun weight g hit row => ?_) w dims
  have hbase : calcBaseAmount (row.copied f) = calcBaseAmount row := rfl
  obtain ⟨hamount, hfixed, hreasons, hout⟩ := selectSurcharge_inOrder (t := t) h h'
  unfold quoteOf
  dsimp only
  rw [hbase, hamount, hfixed]
  cases (calcBaseAmount row weight.billableWeightKg).2 with
  | manualQuote => cases hit <;> rfl
  | _ =>
      cases hit <;>
        simp only [Quote.outcome, List.map_append, hreasons, hout] <;> rfl

end Quotes

end WmsDu
