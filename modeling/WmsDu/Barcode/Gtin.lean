import WmsDu.Shared.Digits

/-!
# Check digits

The validators of EAN-13, UPC-A and EAN-8 each weigh the digits in their own
way; the rule of GS1 weighs them 3 and 1 in turn, from the right.
-/

namespace WmsDu

variable {gtin : List Char}

/-! ## The rule -/

/-- The weighted sum of the digits before a check digit: the last one counts
three times, and so every other one before it. -/
def weigh : List Nat → Nat
  | [] => 0
  | d :: ds => (if ds.length % 2 = 0 then 3 else 1) * d + weigh ds

/-- The check digit of the digits before it. -/
def gs1CheckDigit (ds : List Nat) : Nat := (10 - weigh ds % 10) % 10

/-- The last digit of a code is the check digit of those before. -/
def HasCheckDigit (code : List Char) : Prop :=
  (code.map digitValue).getLast? = some (gs1CheckDigit (code.map digitValue).dropLast)

instance (code : List Char) : Decidable (HasCheckDigit code) :=
  inferInstanceAs (Decidable (_ = _))

/-! ## The validators -/

/-- `_valid_ean13` -/
def validEan13 (gtin : List Char) : Except ValueError Bool :=
  if ¬ (isDigitText gtin = true ∧ gtin.length = 13) then .ok false
  else do
    let digits ← gtin.mapM fun c => int [c]
    let checksum := digits.getLast?.getD 0
    let s := (digits.dropLast.zipIdx.map fun p => (if p.2 % 2 = 1 then 3 else 1) * p.1).sum
    return (10 - s % 10) % 10 = checksum

/-- `_valid_upc12` -/
def validUpc12 (gtin : List Char) : Except ValueError Bool :=
  if ¬ (isDigitText gtin = true ∧ gtin.length = 12) then .ok false
  else do
    let digits ← gtin.mapM fun c => int [c]
    let checksum := digits.getLast?.getD 0
    let s := ((digits.dropLast.zipIdx 1).map fun p => (if p.2 % 2 = 1 then 3 else 1) * p.1).sum
    return (10 - s % 10) % 10 = checksum

/-- `_valid_ean8` -/
def validEan8 (gtin : List Char) : Except ValueError Bool :=
  if ¬ (isDigitText gtin = true ∧ gtin.length = 8) then .ok false
  else do
    let digits ← gtin.mapM fun c => int [c]
    let checksum := digits.getLast?.getD 0
    let s := 3 * digits.getD 0 0 + 1 * digits.getD 1 0 + 3 * digits.getD 2 0 + 1 * digits.getD 3 0 +
      3 * digits.getD 4 0 + 1 * digits.getD 5 0 + 3 * digits.getD 6 0
    return (10 - s % 10) % 10 = checksum

/-! ## The weights agree -/

/-- Weights by position, counted so that the last one is odd, are the
weights of the rule. -/
theorem sum_zipIdx_weigh (ds : List Nat) {k : Nat} (hk : (k + ds.length) % 2 = 0) :
    ((ds.zipIdx k).map fun p => (if p.2 % 2 = 1 then 3 else 1) * p.1).sum = weigh ds := by
  induction ds generalizing k with
  | nil => rfl
  | cons d ds ih =>
      rw [List.length_cons] at hk
      have hrest : (k + 1 + ds.length) % 2 = 0 := by omega
      have hweight : k % 2 = 1 ↔ ds.length % 2 = 0 := by omega
      rw [List.zipIdx_cons, List.map_cons, List.sum_cons, ih hrest, weigh]
      simp only [hweight]

theorem weigh_seven (d₀ d₁ d₂ d₃ d₄ d₅ d₆ : Nat) : weigh [d₀, d₁, d₂, d₃, d₄, d₅, d₆] =
    3 * d₀ + 1 * d₁ + 3 * d₂ + 1 * d₃ + 3 * d₄ + 1 * d₅ + 3 * d₆ := by
  simp [weigh]
  omega

/-- One more digit in front weighs three times after an even number. -/
theorem weigh_cons_even {d : Nat} {ds : List Nat} (h : ds.length % 2 = 0) :
    weigh (d :: ds) = 3 * d + weigh ds := by
  rw [weigh, if_pos h]

/-- A validator that sums as the rule does compares with the check digit. -/
private theorem checksum_eq (hne : gtin ≠ []) {s : Nat}
    (hs : s = weigh (gtin.map digitValue).dropLast) :
    decide ((10 - s % 10) % 10 = (gtin.map digitValue).getLast?.getD 0) =
      decide (HasCheckDigit gtin) := by
  have hdigits : gtin.map digitValue ≠ [] := by simpa using hne
  subst hs
  rw [decide_eq_decide]
  unfold HasCheckDigit gs1CheckDigit
  rw [List.getLast?_eq_getLast_of_ne_nil hdigits, Option.getD_some, Option.some.injEq, eq_comm]

private theorem isDigitText_of_decimal (h : ∀ c ∈ gtin, isDecimal c = true) (hne : gtin ≠ []) :
    isDigitText gtin = true :=
  isDigitText_iff.mpr ⟨hne, fun c hc => isDigitChar_of_isDecimal (h c hc)⟩

/-! ## What the validators answer -/

theorem validEan13_decimal (h : ∀ c ∈ gtin, isDecimal c = true) (hlen : gtin.length = 13) :
    validEan13 gtin = .ok (decide (HasCheckDigit gtin)) := by
  have hne : gtin ≠ [] := by
    rintro rfl
    cases hlen
  unfold validEan13
  rw [if_neg (not_not.mpr ⟨isDigitText_of_decimal h hne, hlen⟩), mapM_int_ok h]
  exact congrArg Except.ok (checksum_eq hne (sum_zipIdx_weigh _ (by simp [hlen])))

theorem validUpc12_decimal (h : ∀ c ∈ gtin, isDecimal c = true) (hlen : gtin.length = 12) :
    validUpc12 gtin = .ok (decide (HasCheckDigit gtin)) := by
  have hne : gtin ≠ [] := by
    rintro rfl
    cases hlen
  unfold validUpc12
  rw [if_neg (not_not.mpr ⟨isDigitText_of_decimal h hne, hlen⟩), mapM_int_ok h]
  exact congrArg Except.ok (checksum_eq hne (sum_zipIdx_weigh _ (by simp [hlen])))

theorem validEan8_decimal (h : ∀ c ∈ gtin, isDecimal c = true) (hlen : gtin.length = 8) :
    validEan8 gtin = .ok (decide (HasCheckDigit gtin)) := by
  have hne : gtin ≠ [] := by
    rintro rfl
    cases hlen
  have hdigits : (gtin.map digitValue).length = 8 := by simpa using hlen
  unfold validEan8
  rw [if_neg (not_not.mpr ⟨isDigitText_of_decimal h hne, hlen⟩), mapM_int_ok h]
  refine congrArg Except.ok (checksum_eq hne ?_)
  obtain ⟨d₀, d₁, d₂, d₃, d₄, d₅, d₆, d₇, hall⟩ : ∃ d₀ d₁ d₂ d₃ d₄ d₅ d₆ d₇,
      gtin.map digitValue = [d₀, d₁, d₂, d₃, d₄, d₅, d₆, d₇] := by
    generalize gtin.map digitValue = ds at hdigits
    rcases ds with _ | ⟨d₀, _ | ⟨d₁, _ | ⟨d₂, _ | ⟨d₃, _ | ⟨d₄, _ | ⟨d₅, _ | ⟨d₆, _ | ⟨d₇, rest⟩⟩⟩⟩⟩⟩⟩⟩
    all_goals simp only [List.length_cons, List.length_nil] at hdigits
    all_goals try omega
    obtain rfl : rest = [] := List.length_eq_zero_iff.mp (by omega)
    exact ⟨d₀, d₁, d₂, d₃, d₄, d₅, d₆, d₇, rfl⟩
  rw [hall]
  exact (weigh_seven d₀ d₁ d₂ d₃ d₄ d₅ d₆).symm

/-- A code of another length is turned down. -/
theorem validEan13_length (hlen : gtin.length ≠ 13) : validEan13 gtin = .ok false :=
  if_pos fun h => hlen h.2

theorem validUpc12_length (hlen : gtin.length ≠ 12) : validUpc12 gtin = .ok false :=
  if_pos fun h => hlen h.2

theorem validEan8_length (hlen : gtin.length ≠ 8) : validEan8 gtin = .ok false :=
  if_pos fun h => hlen h.2

/-- A text that is not of digits is turned down before any is read. -/
theorem valid_of_not_digits (h : isDigitText gtin = false) :
    validEan13 gtin = .ok false ∧ validUpc12 gtin = .ok false ∧ validEan8 gtin = .ok false := by
  have hno : ∀ n : Nat, ¬ (isDigitText gtin = true ∧ gtin.length = n) := fun _ hc => by
    rw [h] at hc
    exact Bool.false_ne_true hc.1
  exact ⟨if_pos (hno 13), if_pos (hno 12), if_pos (hno 8)⟩

/-- A digit that is not decimal is an error of `int` that nothing catches. -/
theorem valid_error (hd : isDigitText gtin = true) (hbad : ∃ c ∈ gtin, isDecimal c = false) :
    (gtin.length = 13 → ∃ e, validEan13 gtin = .error e) ∧
      (gtin.length = 12 → ∃ e, validUpc12 gtin = .error e) ∧
      (gtin.length = 8 → ∃ e, validEan8 gtin = .error e) := by
  obtain ⟨e, he⟩ := mapM_int_error hbad
  refine ⟨fun hlen => ⟨e, ?_⟩, fun hlen => ⟨e, ?_⟩, fun hlen => ⟨e, ?_⟩⟩
  · unfold validEan13
    rw [if_neg (not_not.mpr ⟨hd, hlen⟩), he]
    rfl
  · unfold validUpc12
    rw [if_neg (not_not.mpr ⟨hd, hlen⟩), he]
    rfl
  · unfold validEan8
    rw [if_neg (not_not.mpr ⟨hd, hlen⟩), he]
    rfl

/-! ## Fourteen digits -/

/-- With an indicator digit of zero the rule says the same of the thirteen
digits behind it. -/
theorem hasCheckDigit_zero {c : Char} (hc : digitValue c = 0) (hlen : gtin.length = 13) :
    HasCheckDigit (c :: gtin) ↔ HasCheckDigit gtin := by
  have hne : gtin.map digitValue ≠ [] := by
    intro h
    have := congrArg List.length h
    simp [hlen] at this
  have heven : (gtin.map digitValue).dropLast.length % 2 = 0 := by simp [hlen]
  unfold HasCheckDigit
  rw [List.map_cons, List.dropLast_cons_of_ne_nil hne, gs1CheckDigit, weigh_cons_even heven, hc,
    List.getLast?_cons_of_ne_nil hne]
  simp [gs1CheckDigit]

/-- With another one it never says the same of a code it passes. -/
theorem not_both_hasCheckDigit {c : Char} (hc : digitValue c ≠ 0) (hlen : gtin.length = 13) :
    ¬ (HasCheckDigit (c :: gtin) ∧ HasCheckDigit gtin) := by
  rintro ⟨hfull, hcore⟩
  have hne : gtin.map digitValue ≠ [] := by
    intro h
    have := congrArg List.length h
    simp [hlen] at this
  have heven : (gtin.map digitValue).dropLast.length % 2 = 0 := by simp [hlen]
  unfold HasCheckDigit at hfull hcore
  rw [List.map_cons, List.dropLast_cons_of_ne_nil hne, List.getLast?_cons_of_ne_nil hne, hcore] at hfull
  have hsame := Option.some.inj hfull
  rw [gs1CheckDigit, gs1CheckDigit, weigh_cons_even heven] at hsame
  have hlt := digitValue_lt c
  omega

end WmsDu
