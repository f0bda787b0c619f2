import WmsDu.Pricing.Quote

/-!
# The billable weight

The policy of a context is translated into a rule by one function and read by
another. The volume divisor and the minimum go into the rule under names
nothing reads, so the real weight alone is rounded: that is right exactly when
neither of them would round to more.
-/

namespace WmsDu

/-! ## Rounding -/

/-- What rounds up: more than a half, or a half above an odd number. -/
theorem roundHalfEven_cases (q : ℚ) :
    (roundHalfEven q = ⌊q⌋ + 1 ∧ (1 / 2 < q - ⌊q⌋ ∨ q - ⌊q⌋ = 1 / 2 ∧ ⌊q⌋ % 2 ≠ 0)) ∨
      (roundHalfEven q = ⌊q⌋ ∧ (q - ⌊q⌋ < 1 / 2 ∨ q - ⌊q⌋ = 1 / 2 ∧ ⌊q⌋ % 2 = 0)) := by
  unfold roundHalfEven
  dsimp only
  split
  · exact .inr ⟨rfl, .inl ‹_›⟩
  · split
    · exact .inl ⟨rfl, .inl ‹_›⟩
    · have hhalf : q - ⌊q⌋ = 1 / 2 := le_antisymm (not_lt.mp ‹_›) (not_lt.mp ‹_›)
      split
      · exact .inr ⟨rfl, .inr ⟨hhalf, ‹_›⟩⟩
      · exact .inl ⟨rfl, .inr ⟨hhalf, ‹_›⟩⟩

@[simp] theorem roundHalfEven_intCast (z : Int) : roundHalfEven z = z := by
  simp [roundHalfEven]

/-- A larger number does not round to less. -/
theorem roundHalfEven_mono {p q : ℚ} (h : p ≤ q) : roundHalfEven p ≤ roundHalfEven q := by
  have hp := roundHalfEven_cases p
  have hq := roundHalfEven_cases q
  rcases lt_or_eq_of_le (Int.floor_le_floor h) with hlt | heq
  · omega
  · -- with the same floor only the fractions count
    rw [heq] at hp
    have hfrac : p - ⌊q⌋ ≤ q - ⌊q⌋ := by linarith
    rcases hp with ⟨hp, hup⟩ | ⟨hp, -⟩
    · rcases hq with ⟨hq, -⟩ | ⟨-, hdown⟩
      · omega
      · rcases hup with hup | ⟨hup, hodd⟩
        · rcases hdown with hdown | ⟨hdown, -⟩ <;> linarith
        · rcases hdown with hdown | ⟨-, heven⟩
          · linarith
          · exact absurd heven hodd
    · omega

/-- A weight below zero is not rounded. -/
theorem roundWeight_of_neg {w : ℚ} (h : w < 0) (r : Option WeightRounding) : roundWeight w r = w := by
  cases r with
  | none => rfl
  | some r => exact if_pos h

/-- A weight is rounded to whole steps. -/
theorem exists_roundWeight (r : WeightRounding) : ∃ (step : ℚ) (f : ℚ → Int), 0 < step ∧
    (∀ p q, p ≤ q → f p ≤ f q) ∧ (∀ z : Int, f z = z) ∧ (r.mode = "ceil" → ∀ q, q ≤ f q) ∧
    ∀ w, 0 ≤ w → roundWeight w (some r) = f (w / step) * step := by
  have hstep : 0 < if r.stepKg ≤ 0 then 1 else r.stepKg := by
    split
    · exact one_pos
    · exact not_le.mp ‹_›
  by_cases hfloor : lower (if r.mode = "" then "ceil" else r.mode) = "floor"
  · refine ⟨_, Int.floor, hstep, fun _ _ h => Int.floor_le_floor h, Int.floor_intCast, ?_, ?_⟩
    · intro hceil
      rw [hceil] at hfloor
      exact absurd hfloor (by decide)
    · intro w hw
      simp only [roundWeight, if_neg (not_lt.mpr hw), if_pos hfloor]
  · by_cases hround : lower (if r.mode = "" then "ceil" else r.mode) = "round"
    · refine ⟨_, roundHalfEven, hstep, fun _ _ h => roundHalfEven_mono h, roundHalfEven_intCast, ?_, ?_⟩
      · intro hceil
        rw [hceil] at hround
        exact absurd hround (by decide)
      · intro w hw
        simp only [roundWeight, if_neg (not_lt.mpr hw), if_neg hfloor, if_pos hround]
    · refine ⟨_, Int.ceil, hstep, fun _ _ h => Int.ceil_le_ceil h, Int.ceil_intCast, ?_, ?_⟩
      · exact fun _ q => Int.le_ceil q
      · intro w hw
        simp only [roundWeight, if_neg (not_lt.mpr hw), if_neg hfloor, if_neg hround]

theorem roundWeight_nonneg {w : ℚ} (h : 0 ≤ w) (r : Option WeightRounding) :
    0 ≤ roundWeight w r := by
  cases r with
  | none => exact h
  | some r =>
      obtain ⟨step, f, hstep, hmono, hint, -, heq⟩ := exists_roundWeight r
      rw [heq w h]
      have hf : (0 : Int) ≤ f (w / step) := by
        have := hmono 0 (w / step) (div_nonneg h hstep.le)
        rwa [show (0 : ℚ) = ((0 : Int) : ℚ) by norm_num, hint] at this
      exact mul_nonneg (by exact_mod_cast hf) hstep.le

/-- A heavier parcel does not round to less. -/
theorem roundWeight_mono {v w : ℚ} (h : v ≤ w) (r : Option WeightRounding) :
    roundWeight v r ≤ roundWeight w r := by
  rcases lt_or_ge v 0 with hv | hv
  · rw [roundWeight_of_neg hv]
    rcases lt_or_ge w 0 with hw | hw
    · rw [roundWeight_of_neg hw]
      exact h
    · exact hv.le.trans (roundWeight_nonneg hw r)
  · cases r with
    | none => exact h
    | some r =>
        obtain ⟨step, f, hstep, hmono, -, -, heq⟩ := exists_roundWeight r
        rw [heq v hv, heq w (hv.trans h)]
        have hle := hmono (v / step) (w / step) (div_le_div_of_nonneg_right h hstep.le)
        exact mul_le_mul_of_nonneg_right (by exact_mod_cast hle) hstep.le

/-- A rounded weight is not rounded again. -/
theorem roundWeight_idem {w : ℚ} (h : 0 ≤ w) (r : Option WeightRounding) :
    roundWeight (roundWeight w r) r = roundWeight w r := by
  have hnonneg := roundWeight_nonneg h r
  cases r with
  | none => rfl
  | some r =>
      obtain ⟨step, f, hstep, -, hint, -, heq⟩ := exists_roundWeight r
      rw [heq _ hnonneg, heq w h, mul_div_cancel_right₀ _ hstep.ne', hint]

/-- Nothing is lost by rounding up. -/
theorem le_roundWeight_ceil {w : ℚ} {r : Option WeightRounding} (hr : ∀ x ∈ r, x.mode = "ceil") :
    w ≤ roundWeight w r := by
  rcases lt_or_ge w 0 with hw | hw
  · rw [roundWeight_of_neg hw]
  · cases r with
    | none => exact le_refl _
    | some r =>
        obtain ⟨step, f, hstep, -, -, hceil, heq⟩ := exists_roundWeight r
        rw [heq w hw]
        calc
          w = w / step * step := (div_mul_cancel₀ w hstep.ne').symm
          _ ≤ f (w / step) * step := mul_le_mul_of_nonneg_right (hceil (hr r rfl) _) hstep.le

/-! ## The policy -/

namespace QuoteCalcContext
variable (ctx : QuoteCalcContext) (real : ℚ) (dims : Option (ℚ × ℚ × ℚ))

/-- The volumetric weight, where the strategy asks for it. -/
def volumeWeight : Option ℚ := do
  let (length, width, height) ← dims
  let divisor ← ctx.volumeDivisor
  if lower (strip ctx.billableWeightStrategy) = "max_actual_volume" then
    some (length * width * height / divisor)
  else none

/-- The weights beside the real one that must not be undercut. -/
def leastWeights : List ℚ := (ctx.volumeWeight dims).toList ++ ctx.minBillableWeightKg.toList

/-- The weight to be billed. -/
def policyWeight : ℚ :=
  roundWeight ((ctx.leastWeights dims).foldl max real) (contextRoundingRule ctx)

/-- A billable weight honours the policy. -/
structure Honours (bw : ℚ) : Prop where
  policy : bw = ctx.policyWeight real dims
  least : (∀ r ∈ contextRoundingRule ctx, r.mode = "ceil") →
    real ≤ bw ∧ ∀ w ∈ ctx.leastWeights dims, w ≤ bw
  settled : roundWeight bw (contextRoundingRule ctx) = bw

/-- The real weight decides: nothing else rounds to more. -/
def RealDecides : Prop :=
  ∀ w ∈ ctx.leastWeights dims,
    roundWeight w (contextRoundingRule ctx) ≤ roundWeight real (contextRoundingRule ctx)

instance decidableRealDecides : Decidable (ctx.RealDecides real dims) :=
  inferInstanceAs (Decidable (∀ w ∈ ctx.leastWeights dims, _))

end QuoteCalcContext

private theorem le_foldl_max (l : List ℚ) (a : ℚ) : a ≤ l.foldl max a ∧ ∀ w ∈ l, w ≤ l.foldl max a := by
  induction l generalizing a with
  | nil => exact ⟨le_refl a, nofun⟩
  | cons b l ih =>
      obtain ⟨hmax, hrest⟩ := ih (max a b)
      refine ⟨(le_max_left a b).trans hmax, fun w hw => ?_⟩
      rcases List.mem_cons.mp hw with rfl | hw
      · exact (le_max_right a w).trans hmax
      · exact hrest w hw

private theorem foldl_max_mem (l : List ℚ) (a : ℚ) : l.foldl max a = a ∨ l.foldl max a ∈ l := by
  induction l generalizing a with
  | nil => exact .inl rfl
  | cons b l ih =>
      rcases ih (max a b) with h | h
      · rcases max_choice a b with hab | hab
        · rw [List.foldl_cons, h, hab]
          exact .inl rfl
        · rw [List.foldl_cons, h, hab]
          exact .inr List.mem_cons_self
      · exact .inr (List.mem_cons_of_mem _ h)

variable {ctx : QuoteCalcContext} {real : ℚ} {dims : Option (ℚ × ℚ × ℚ)}
  {rule : Option BillableWeightRule}

/-- The rule of a context says how to round; nothing reads the rest of it. -/
theorem contextBillableWeightRule_spec (h : contextBillableWeightRule ctx = .ok rule) :
    rule.bind (·.divisorCm) = none ∧ rule.bind (·.rounding) = contextRoundingRule ctx := by
  have hspec : ∀ divisor : Option Int, (if BillableWeightRule.mk none divisor
        ctx.minBillableWeightKg (contextRoundingRule ctx) = {} then none
      else some (BillableWeightRule.mk none divisor ctx.minBillableWeightKg (contextRoundingRule ctx))) =
        rule →
      rule.bind (·.divisorCm) = none ∧ rule.bind (·.rounding) = contextRoundingRule ctx := by
    intro divisor hrule
    split at hrule
    · rename_i hempty
      subst hrule
      simp only [BillableWeightRule.mk.injEq] at hempty
      simp [hempty.2.2.2]
    · subst hrule
      simp
  unfold contextBillableWeightRule at h
  dsimp only at h
  split at h
  · obtain ⟨divisor, -, h⟩ := bind_eq_ok.mp h
    exact hspec divisor (Except.ok.inj h)
  · exact hspec none (Except.ok.inj h)

/-- The real weight alone is rounded. -/
theorem computeBillableWeightKg_eq (h : contextBillableWeightRule ctx = .ok rule) (hreal : 0 ≤ real) :
    (computeBillableWeightKg real dims rule).billableWeightKg =
      roundWeight real (contextRoundingRule ctx) := by
  obtain ⟨hdivisor, hrounding⟩ := contextBillableWeightRule_spec h
  unfold computeBillableWeightKg
  dsimp only
  rw [hdivisor, hrounding]
  cases dims <;> rw [max_eq_left hreal]

/-- The weight of a quote is the one its row was chosen by. -/
theorem weight_of_calcQuoteLevel3 {dest : Dest} {q : Quote}
    (hrule : contextBillableWeightRule ctx = .ok rule)
    (h : calcQuoteLevel3 ctx dest real dims = .ok q) :
    q.weight.billableWeightKg = (computeBillableWeightKg real dims rule).billableWeightKg := by
  unfold calcQuoteLevel3 at h
  obtain ⟨rule', hrule', h⟩ := bind_eq_ok.mp h
  obtain rfl := Except.ok.inj (hrule.symm.trans hrule')
  obtain ⟨⟨group, hit⟩, -, h⟩ := bind_eq_ok.mp h
  obtain ⟨row, -, h⟩ := bind_eq_ok.mp h
  obtain rfl := Except.ok.inj h
  unfold quoteOf
  dsimp only
  split <;> rfl

/-! ## The theorem -/

/-- A policy with a volume divisor and a minimum. -/
def sampleWeightContext : QuoteCalcContext where
  templateId := 1
  shippingProviderId := 1
  shippingProviderName := some "SF"
  templateName := "north"
  status := .draft
  archivedAt := none
  currency := "CNY"
  billableWeightStrategy := "max_actual_volume"
  volumeDivisor := some 6000
  roundingMode := "ceil"
  roundingStepKg := some 1
  minBillableWeightKg := some 2
  groups := []
  matrixRows := []
  surchargeConfigs := []

def sampleWeightRule : BillableWeightRule where
  volumeDivisor := some 6000
  minBillableWeightKg := some 2
  rounding := some ⟨"ceil", 1⟩

theorem sampleWeightContext_rule :
    contextBillableWeightRule sampleWeightContext = .ok (some sampleWeightRule) := by
  decide

end WmsDu
