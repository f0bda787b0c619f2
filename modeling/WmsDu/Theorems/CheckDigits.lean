import WmsDu.Barcode.Resolver

/-!
# Check digits of GTINs

The three validators apply the rule of GS1. A bracketed GTIN of fourteen
digits is checked without its indicator digit, and so by the rule only where
that digit is zero or the last digit fits neither reading.
-/

namespace WmsDu

variable {s v : List Char}

/-- The validators accept the codes of their length with the check digit. -/
def ValidatorsExact : Prop :=
  ∀ code : List Char, (∀ c ∈ code, isDecimal c = true) →
    (validEan13 code = .ok true ↔ code.length = 13 ∧ HasCheckDigit code) ∧
      (validUpc12 code = .ok true ↔ code.length = 12 ∧ HasCheckDigit code) ∧
      (validEan8 code = .ok true ↔ code.length = 8 ∧ HasCheckDigit code)

private theorem accepts_iff {valid : List Char → Except ValueError Bool} {n : Nat}
    (hno : ∀ code : List Char, code.length ≠ n → valid code = .ok false)
    (hdec : ∀ code : List Char, (∀ c ∈ code, isDecimal c = true) → code.length = n →
      valid code = .ok (decide (HasCheckDigit code)))
    (code : List Char) (h : ∀ c ∈ code, isDecimal c = true) :
    valid code = .ok true ↔ code.length = n ∧ HasCheckDigit code := by
  by_cases hlen : code.length = n
  · rw [hdec code h hlen]
    simp [hlen]
  · rw [hno code hlen]
    simp [hlen]

theorem validators_exact : ValidatorsExact := fun code h =>
  ⟨accepts_iff (fun _ => validEan13_length) (fun _ => validEan13_decimal) code h,
    accepts_iff (fun _ => validUpc12_length) (fun _ => validUpc12_decimal) code h,
    accepts_iff (fun _ => validEan8_length) (fun _ => validEan8_decimal) code h⟩

theorem mem_gtinCore {c : Char} (h : c ∈ gtinCore v) : c ∈ v := by
  unfold gtinCore at h
  split at h
  · exact List.mem_of_mem_drop h
  · exact h

/-- A bracketed GTIN is kept by the check digit of its core. -/
theorem keepGtin_decimal (hdec : ∀ c ∈ v, isDecimal c = true) (hlen : v.length ∈ [8, 12, 13, 14]) :
    keepGtin v = .ok (if HasCheckDigit (gtinCore v) then some v else none) := by
  have hne : v ≠ [] := by
    rintro rfl
    simp at hlen
  have hcore : ∀ c ∈ gtinCore v, isDecimal c = true := fun c hc => hdec c (mem_gtinCore hc)
  have hlens : (gtinCore v).length = 13 ∨ (gtinCore v).length = 12 ∨ (gtinCore v).length = 8 := by
    simp only [List.mem_cons, List.not_mem_nil, or_false] at hlen
    unfold gtinCore
    split
    · rw [List.length_drop]
      omega
    · omega
  unfold keepGtin
  rw [if_pos ⟨hne, hlen⟩]
  dsimp only
  rcases hlens with h | h | h
  · rw [if_pos h, validEan13_decimal hcore h]
    exact congrArg Except.ok (by simp)
  · rw [if_neg (by omega), if_pos h, validUpc12_decimal hcore h]
    exact congrArg Except.ok (by simp)
  · rw [if_neg (by omega), if_neg (by omega), if_pos h, validEan8_decimal hcore h]
    exact congrArg Except.ok (by simp)

/-- What bracketed GS1 answers, once its GTIN is dealt with. -/
theorem parseGs1_of_keepGtin {kept : Option (List Char)} (hv : aiGet (findAis 0 s) "01" = some v)
    (hk : keepGtin v = .ok kept) :
    parseGs1 s = .ok (some ⟨none, kept, aiGet (findAis 0 s) "10",
      parseExpiry (aiGet (findAis 0 s) "17"), s, .gs1⟩) := by
  have hne : findAis 0 s ≠ [] := by
    intro hnil
    rw [hnil] at hv
    cases hv
  unfold parseGs1
  dsimp only
  rw [if_neg hne, hv]
  dsimp only
  rw [hk]
  rfl

/-- The GTIN of a bracketed code is kept when the rule passes it, and only
then. -/
def KeptByRule (s v : List Char) : Prop :=
  ∃ p, parseGs1 s = .ok (some p) ∧ (p.gtin = some v ↔ HasCheckDigit v)

/-- Nothing hangs on the indicator digit: there is none, it is zero, or the
last digit is wrong with it and without. -/
def IndicatorHarmless (v : List Char) : Prop :=
  v.length = 14 → digitValue (v.headD '0') = 0 ∨ ¬ HasCheckDigit v ∧ ¬ HasCheckDigit (v.drop 1)

/-- The core passes when the whole code does, exactly when nothing hangs on
the indicator digit. -/
theorem core_iff_whole (hlen : v.length ∈ [8, 12, 13, 14]) :
    (HasCheckDigit (gtinCore v) ↔ HasCheckDigit v) ↔ IndicatorHarmless v := by
  unfold gtinCore IndicatorHarmless
  by_cases h14 : v.length = 14
  · rw [if_pos h14]
    obtain ⟨c, core, rfl⟩ : ∃ c core, v = c :: core :=
      List.exists_cons_of_length_pos (by omega)
    have hcore : core.length = 13 := by simpa using h14
    simp only [h14, true_implies, List.drop_one, List.tail_cons, List.headD_cons]
    by_cases hc : digitValue c = 0
    · simp [hc, hasCheckDigit_zero hc hcore]
    · have hboth := not_both_hasCheckDigit hc hcore
      tauto
  · rw [if_neg h14]
    simp [h14]

/-- **Check digits.** The validators are exact; a bracketed GTIN is kept by
the rule exactly where its indicator digit does no harm. -/
theorem check_digits (hv : aiGet (findAis 0 s) "01" = some v) (hdec : ∀ c ∈ v, isDecimal c = true)
    (hlen : v.length ∈ [8, 12, 13, 14]) :
    ValidatorsExact ∧ (KeptByRule s v ↔ IndicatorHarmless v) := by
  refine ⟨validators_exact, ?_⟩
  rw [← core_iff_whole hlen]
  have hparse := parseGs1_of_keepGtin hv (keepGtin_decimal hdec hlen)
  have hkept : (if HasCheckDigit (gtinCore v) then some v else none) = some v ↔
      HasCheckDigit (gtinCore v) := by
    split <;> simp [*]
  constructor
  · rintro ⟨p, hp, hrule⟩
    rw [hparse] at hp
    cases hp
    exact hkept.symm.trans hrule
  · intro h
    exact ⟨_, hparse, hkept.trans h⟩

/-- A code without an indicator, and its batch. -/
theorem check_digits_sample :
    (aiGet (findAis 0 "(01)4006381333931(10)L1".toList) "01" = some "4006381333931".toList) ∧
      KeptByRule "(01)4006381333931(10)L1".toList "4006381333931".toList := by
  have hv : aiGet (findAis 0 "(01)4006381333931(10)L1".toList) "01" =
      some "4006381333931".toList := by decide
  refine ⟨hv, (check_digits hv (List.all_eq_true.mp (by decide))
    (by decide)).2.mpr fun h => ?_⟩
  exact absurd h (by decide)

/-- A carton's GTIN, right by the rule, is dropped. -/
theorem check_digits_not :
    ¬ KeptByRule "(01)10614141000415".toList "10614141000415".toList := by
  rintro ⟨p, hp, hrule⟩
  have hv : aiGet (findAis 0 "(01)10614141000415".toList) "01" =
      some "10614141000415".toList := by decide
  have hcore : ¬ HasCheckDigit (gtinCore "10614141000415".toList) := by decide
  rw [parseGs1_of_keepGtin hv (keepGtin_decimal (List.all_eq_true.mp (by decide))
      (by decide)),
    if_neg hcore] at hp
  cases hp
  cases hrule.mpr (by decide)

end WmsDu
