import Mathlib
import WmsDu.Pms.SpecReading
import WmsDu.Shared.Decimals
import WmsDu.Shared.Fallible

/-!
# Canonical specification codes

The code of a specification is canonical but for three slips. The kilogram in
one capital and one small letter is known to no pattern and taken over as it
is. Litres below a millionth are written with an exponent. And 28 digits may
round a weight in kilograms that is exact in grams.
-/

namespace WmsDu

/-! ## What stays -/

/-- The multiplier as a code writes it. -/
def canonTimes (times : Option (List Char)) : Option (List Char) :=
  times.map fun ds => Nat.toDigits 10 (readDigits ds)

/-- A code that is the code of itself. -/
def Settled (t : List Char) : Prop := specCode (cleanSpec (String.ofList t)) = .ok (String.ofList t)

section Stay
variable {s t u : List Char} {m : SpecMatch} {code : String}

theorem timesText_canonTimes (times : Option (List Char)) :
    timesText (canonTimes times) = timesCode times := by cases times <;> rfl

theorem timesCode_canonTimes (times : Option (List Char)) :
    timesCode (canonTimes times) = timesCode times := by
  cases times with
  | none => rfl
  | some ds =>
      show 'X' :: Nat.toDigits 10 (readDigits (Nat.toDigits 10 (readDigits ds))) = _
      rw [readDigits_toDigits]
      rfl

theorem isDigit_canonTimes {times : Option (List Char)} {c : Char}
    (h : c ∈ (canonTimes times).getD []) : c.isDigit = true := by
  cases times with
  | none => cases h
  | some ds => exact isDigit_toDigits h

theorem canonTimes_ok (times : Option (List Char)) (ds : List Char)
    (h : canonTimes times = some ds) : ds ≠ [] ∧ ∀ c ∈ ds, isDecimal c = true := by
  obtain ⟨es, -, rfl⟩ := Option.map_eq_some_iff.mp h
  refine ⟨fun hnil => ?_, fun c hc => (isDecimal_of_isDigit (isDigit_toDigits hc)).1⟩
  have hlen : 0 < (Nat.toDigits 10 (readDigits es)).length := Nat.length_toDigits_pos
  rw [hnil] at hlen
  cases hlen

/-- A text in ASCII digits is cleaned when its unit is. -/
theorem cleaned_text (hm : m.Ascii) (hu : ∀ c ∈ u, 43 ≤ c.toNat ∧ c.toNat ≤ 90) :
    Cleaned (m.text u) := by
  have hdigit : ∀ c ∈ m.whole ++ m.fraction ++ m.times.getD [], 43 ≤ c.toNat ∧ c.toNat ≤ 90 := by
    intro c hc
    have := isDigit_iff_toNat.mp (hm c hc)
    omega
  refine cleaned_of_range fun c hc => ?_
  rcases mem_text.mp hc with hc | hc | hc | hc
  · exact hdigit c (by simp [hc])
  · rcases mem_pointText hc with rfl | hc
    · decide
    · exact hdigit c (by simp [hc])
  · exact hu c hc
  · rcases mem_timesText hc with rfl | hc
    · decide
    · exact hdigit c (by simp [hc])

/-- Numerals around a canonical multiplier are groups of ASCII digits. -/
theorem ok_canon {whole : List Char} (fraction : List Char) (times : Option (List Char)) (hne : whole ≠ [])
    (hdigits : ∀ c ∈ whole ++ fraction, c.isDigit = true) :
    SpecMatch.Ok ⟨whole, fraction, canonTimes times⟩ ∧
      SpecMatch.Ascii ⟨whole, fraction, canonTimes times⟩ := by
  refine ⟨⟨hne, ?_, ?_, canonTimes_ok times⟩, ?_⟩
  · exact fun c hc => (isDecimal_of_isDigit (hdigits c (List.mem_append_left _ hc))).1
  · exact fun c hc => (isDecimal_of_isDigit (hdigits c (List.mem_append_right _ hc))).1
  · intro c hc
    rcases List.mem_append.mp hc with hc | hc
    · exact hdigits c hc
    · exact isDigit_canonTimes hc

theorem toDigits_ne_nil (n : Nat) : Nat.toDigits 10 n ≠ [] := by
  have hlen : 0 < (Nat.toDigits 10 n).length := Nat.length_toDigits_pos
  exact List.ne_nil_of_length_pos hlen

theorem value_toDigits (n : Nat) (times : Option (List Char)) :
    SpecMatch.value ⟨Nat.toDigits 10 n, [], times⟩ = n := by
  unfold SpecMatch.value
  rw [List.append_nil, readDigits_toDigits]
  simp

/-- A weight in whole grams stays. -/
theorem settled_weight (n : Nat) (times : Option (List Char)) :
    Settled (Nat.toDigits 10 n ++ 'G' :: timesCode times) := by
  obtain ⟨hok, hascii⟩ := ok_canon [] times (toDigits_ne_nil n)
    (by simpa using fun c hc => isDigit_toDigits hc)
  have htext : Nat.toDigits 10 n ++ 'G' :: timesCode times =
      SpecMatch.text ⟨Nat.toDigits 10 n, [], canonTimes times⟩ ['G'] := by
    rw [SpecMatch.text, timesText_canonTimes, pointText_nil]
    rfl
  unfold Settled
  rw [htext, (cleaned_text hascii (by simp)).cleanSpec, specCode_eq,
    specReading_text hok (isUnit_known (by decide))]
  show weightCode _ _ (canonTimes times) = _
  rw [value_toDigits, weightCode, if_neg (by simp), timesCode_canonTimes, ← htext]
  rfl

/-- A value is whole when its places are zeros. -/
theorem value_whole_iff (m : SpecMatch) :
    m.value.den = 1 ↔ 10 ^ m.fraction.length ∣ readDigits (m.whole ++ m.fraction) := by
  unfold SpecMatch.value
  exact_mod_cast Rat.den_div_natCast_eq_one_iff _ (10 ^ m.fraction.length) (by positivity)

/-- What is no whole number is written plainly unless it is below a millionth. -/
theorem plain_iff (hden : m.value.den ≠ 1) :
    m.fraction.length < (Nat.toDigits 10 (readDigits (m.whole ++ m.fraction))).length + 6 ↔
      1 / 10 ^ 6 ≤ m.value := by
  have hvalue : m.value < 1 / 10 ^ 6 ↔
      readDigits (m.whole ++ m.fraction) * 10 ^ 6 < 10 ^ m.fraction.length := by
    unfold SpecMatch.value
    rw [div_lt_div_iff₀ (by positivity) (by positivity), one_mul]
    exact_mod_cast Iff.rfl
  rw [← not_lt, hvalue, ← not_le, scientific_iff, not_iff_not, and_iff_right_iff_imp]
  intro hlt
  by_contra hscale
  -- with six places or fewer only zero is that small, and zero is whole
  have hle : 10 ^ m.fraction.length ≤ 10 ^ 6 := Nat.pow_le_pow_right (by omega) (by omega)
  have hzero : readDigits (m.whole ++ m.fraction) = 0 := by
    by_contra hne
    have : 1 * 10 ^ 6 ≤ readDigits (m.whole ++ m.fraction) * 10 ^ 6 :=
      Nat.mul_le_mul_right _ (Nat.pos_of_ne_zero hne)
    omega
  exact hden ((value_whole_iff m).mpr (hzero ▸ dvd_zero _))

/-- Litres stay when they are whole or not below a millionth. -/
theorem settled_litres (h : m.value.den = 1 ∨ 1 / 10 ^ 6 ≤ m.value) :
    Settled (m.litres ++ 'L' :: timesCode m.times) := by
  -- the numeral is a group of digits with or without a point, and its own numeral
  have hnumeral : ∃ whole fraction, m.litres = whole ++ pointText fraction ∧ whole ≠ [] ∧
      (∀ c ∈ whole ++ fraction, c.isDigit = true) ∧
      SpecMatch.litres ⟨whole, fraction, canonTimes m.times⟩ = whole ++ pointText fraction := by
    by_cases hden : m.value.den = 1
    · refine ⟨Nat.toDigits 10 m.value.num.toNat, [], ?_, toDigits_ne_nil _,
        by simpa using fun c hc => isDigit_toDigits hc, ?_⟩
      · rw [SpecMatch.litres, if_pos hden, pointText_nil, List.append_nil]
      · rw [SpecMatch.litres, value_toDigits, if_pos (by simp), pointText_nil, List.append_nil,
          Rat.num_natCast, Int.toNat_natCast]
    · obtain ⟨whole, fraction, hstrip, hwhole, hfraction, hdigits, hvalue, hself⟩ :=
        stripZeros_decimalText (mt (value_whole_iff m).mpr hden)
          ((plain_iff hden).mpr (h.resolve_left hden))
      refine ⟨whole, fraction, ?_, hwhole, hdigits, ?_⟩
      · rw [SpecMatch.litres, if_neg hden, hstrip, pointText_of_ne hfraction]
      · have hsame : SpecMatch.value ⟨whole, fraction, canonTimes m.times⟩ = m.value := by
          unfold SpecMatch.value
          rw [div_eq_div_iff (by positivity) (by positivity)]
          exact_mod_cast hvalue.symm
        rw [SpecMatch.litres, hsame, if_neg hden, pointText_of_ne hfraction]
        exact hself
  obtain ⟨whole, fraction, hlitres, hwhole, hdigits, hself⟩ := hnumeral
  obtain ⟨hok, hascii⟩ := ok_canon _ m.times hwhole hdigits
  have htext : m.litres ++ 'L' :: timesCode m.times =
      SpecMatch.text ⟨whole, fraction, canonTimes m.times⟩ ['L'] := by
    rw [SpecMatch.text, timesText_canonTimes, hlitres, List.append_assoc]
    rfl
  unfold Settled
  rw [htext, (cleaned_text hascii (by simp)).cleanSpec, specCode_eq,
    specReading_text hok (isUnit_known (by decide))]
  show Except.ok (String.ofList (SpecMatch.litres _ ++ 'L' :: timesCode (canonTimes m.times))) = _
  rw [hself, timesCode_canonTimes, ← hlitres, htext]

/-- A character that is not stripped stays. -/
theorem mem_stripZeros {c : Char} (hc : c ≠ '0' ∧ c ≠ '.') (h : c ∈ s) : c ∈ stripZeros s := by
  have hkeep : ∀ {p : Char → Bool} {l : List Char}, p c = false → c ∈ l → c ∈ l.rdropWhile p := by
    intro p l hp hmem
    rw [← List.rdropWhile_append_rtakeWhile (p := p) (l := l), List.mem_append] at hmem
    rcases hmem with hmem | hmem
    · exact hmem
    · rw [List.mem_rtakeWhile_imp hmem] at hp
      cases hp
  exact hkeep (by simpa using hc.2) (hkeep (by simpa using hc.1) h)

/-- No pattern knows a minus. -/
theorem not_settled_of_minus (ht : Cleaned t) (hminus : '-' ∈ t) : ¬ Settled t := by
  intro h
  rw [Settled, ht.cleanSpec] at h
  rcases specReading_cases t with hother | ⟨n, u, hn, hu, rfl⟩
  · rw [specCode_eq, hother] at h
    have hmem : '-' ∈ t.flatMap upperChar :=
      List.mem_flatMap.mpr ⟨'-', hminus, by rw [upperChar_of_ascii (by decide)]; simp⟩
    exact absurd (toNat_of_capital (((plainCode_eq_ok ht).mp h).2.1 '-' hmem)) (by decide)
  · exact not_mem_text hn hu (by decide) hminus

/-- The numeral with an exponent. -/
theorem decimalText_exponent {n scale : Nat}
    (h : ¬ scale < (Nat.toDigits 10 n).length + 6) :
    '-' ∈ decimalText n scale ∧ ∀ c ∈ decimalText n scale, 43 ≤ c.toNat ∧ c.toNat ≤ 90 := by
  have hdigit : ∀ {k : Nat} {c : Char}, c ∈ Nat.toDigits 10 k → 43 ≤ c.toNat ∧ c.toNat ≤ 90 := by
    intro k c hc
    have := isDigit_iff_toNat.mp (isDigit_toDigits hc)
    omega
  unfold decimalText
  simp only [if_neg h, if_neg (by omega : ¬ scale < (Nat.toDigits 10 n).length)]
  refine ⟨by simp, fun c hc => ?_⟩
  simp only [List.mem_append, List.mem_cons] at hc
  rcases hc with (hc | hc) | rfl | rfl | hc
  · exact hdigit (List.mem_of_mem_take hc)
  · split at hc
    · cases hc
    · rcases List.mem_cons.mp hc with rfl | hc
      · decide
      · exact hdigit (List.mem_of_mem_drop hc)
  · decide
  · decide
  · exact hdigit hc

theorem mem_of_mem_stripZeros {c : Char} (h : c ∈ stripZeros s) : c ∈ s :=
  (List.rdropWhile_prefix _ _).subset ((List.rdropWhile_prefix _ _).subset h)

theorem timesCode_range (times : Option (List Char)) :
    ∀ c ∈ timesCode times, 43 ≤ c.toNat ∧ c.toNat ≤ 90 := by
  intro c hc
  rw [← timesText_canonTimes] at hc
  rcases mem_timesText hc with rfl | hc
  · decide
  · have := isDigit_iff_toNat.mp (isDigit_canonTimes hc)
    omega

/-- An exponent is not read again. -/
theorem not_settled_exponent (hden : m.value.den ≠ 1) (hlt : ¬ 1 / 10 ^ 6 ≤ m.value) :
    ¬ Settled (m.litres ++ 'L' :: timesCode m.times) := by
  obtain ⟨hminus, hrange⟩ := decimalText_exponent (mt (plain_iff hden).mp hlt)
  rw [SpecMatch.litres, if_neg hden]
  refine not_settled_of_minus (cleaned_of_range fun c hc => ?_)
    (List.mem_append_left _ (mem_stripZeros (by decide) hminus))
  rcases List.mem_append.mp hc with hc | hc
  · exact hrange c (mem_of_mem_stripZeros hc)
  · rcases List.mem_cons.mp hc with rfl | hc
    · decide
    · exact timesCode_range m.times c hc

end Stay

/-! ## Which codes stay -/

/-- A weight in whole grams. -/
def wholeCode (grams : ℚ) (times : Option (List Char)) : Option (List Char) :=
  if grams.den = 1 then some (Nat.toDigits 10 grams.num.toNat ++ 'G' :: timesCode times) else none

section Stable
variable {s t u : List Char} {m : SpecMatch} {code : String}

theorem weightCode_eq_ok {message : String} {grams : ℚ} {times : Option (List Char)} :
    weightCode message grams times = .ok code ↔
      ∃ t, wholeCode grams times = some t ∧ code = String.ofList t := by
  unfold weightCode wholeCode
  by_cases h : grams.den = 1
  · rw [if_neg (not_not.mpr h), if_pos h]
    constructor
    · intro h
      cases h
      exact ⟨_, rfl, rfl⟩
    · rintro ⟨t, ht, rfl⟩
      cases ht
      rfl
  · rw [if_pos h, if_neg h]
    constructor
    · intro h
      cases h
    · rintro ⟨t, ht, -⟩
      cases ht

theorem wholeCode_eq_some {grams : ℚ} {times : Option (List Char)} (h : wholeCode grams times = some t) :
    ∃ n, t = Nat.toDigits 10 n ++ 'G' :: timesCode times := by
  unfold wholeCode at h
  split at h
  · exact ⟨_, (Option.some.inj h).symm⟩
  · cases h

/-- A weight has no `K` in its code. -/
theorem not_mem_wholeCode {grams : ℚ} {times : Option (List Char)}
    (h : wholeCode grams times = some t) : 'K' ∉ t := by
  obtain ⟨n, rfl⟩ := wholeCode_eq_some h
  intro hmem
  rcases List.mem_append.mp hmem with hmem | hmem
  · exact absurd (isDigit_toDigits hmem) (by decide)
  · rcases List.mem_cons.mp hmem with heq | hmem
    · exact absurd heq (by decide)
    · rw [← timesText_canonTimes] at hmem
      rcases mem_timesText hmem with heq | hmem
      · exact absurd heq (by decide)
      · exact absurd (isDigit_canonTimes hmem) (by decide)

theorem mem_text_kilogram (m : SpecMatch) : 'K' ∈ m.text ['K', 'G'] := by simp [SpecMatch.text]

/-- A kilogram that was taken over becomes grams the next time. -/
theorem not_settled_kilogram (hm : m.Ok) (hplain : m.Plain) : ¬ Settled (m.text ['K', 'G']) := by
  intro h
  have hcapital := (capital_text_iff hm capital_kilogram).mpr hplain
  rw [Settled, hcapital.cleaned.cleanSpec, specCode_eq,
    specReading_text hm (isUnit_known (by decide))] at h
  obtain ⟨t, ht, heq⟩ := weightCode_eq_ok.mp h
  exact not_mem_wholeCode ht (String.ofList_injective heq ▸ mem_text_kilogram m)

/-- What a text without a known unit becomes stays. -/
theorem settled_other (hs : Cleaned s) (hother : specReading s = .other)
    (h : plainCode s = .ok (String.ofList t)) : Settled t := by
  obtain ⟨hne, hcapital, heq⟩ := (plainCode_eq_ok hs).mp h
  obtain rfl := String.ofList_injective heq
  generalize htext : s.flatMap upperChar = t at *
  rw [Settled, hcapital.cleaned.cleanSpec, specCode_eq]
  rcases specReading_cases t with hread | ⟨n, u, hn, hu, rfl⟩
  · rw [hread]
    exact (plainCode_eq_ok hcapital.cleaned).mpr
      ⟨by rwa [hcapital.flatMap], by rwa [hcapital.flatMap], by rw [hcapital.flatMap]⟩
  · -- the capitals would name a unit, and then so would the text
    have hletters : ∀ d ∈ n.text u, d ∉ ['S', 'I', 'F'] := by
      intro d hd hbad
      fin_cases hbad <;> exact not_mem_text hn hu (by decide) hd
    have hlower : s.map Char.toLower = (n.text u).map Char.toLower := by
      rw [← map_toUpper_of_flatMap htext hletters, List.map_map]
      exact List.map_congr_left fun c _ => (toLower_toUpper c).symm
    obtain ⟨u', rfl, hu'⟩ := text_of_lower hs hn hlower
    have hmem := caseClosed_known u hu u' hu'
    rw [specReading_text hn (isUnit_known hmem)] at hother
    exact absurd hother (unitReading_ne_other hmem)

/-- When the code of a reading stays: the kilogram in one capital and one small
letter is not taken over, and litres need no exponent. -/
def SpecReading.Stable : SpecReading → Prop
  | .mixed m => ¬ m.Plain
  | .litre m => m.value.den = 1 ∨ 1 / 10 ^ 6 ≤ m.value
  | _ => True

/-- The code of a cleaned text stays when its reading is stable. -/
theorem settled_iff_stable (hs : Cleaned s) :
    (∀ t, specCode s = .ok (String.ofList t) → Settled t) ↔ (specReading s).Stable := by
  rcases specReading_cases s with hother | ⟨m, u, hm, hu, rfl⟩
  · rw [hother, specCode_eq, hother]
    exact iff_of_true (fun t ht => settled_other hs hother ht) trivial
  · have hread := specReading_text hm (isUnit_known hu)
    rw [specCode_eq, hread]
    unfold unitReading
    split_ifs with hk hg hl hx
    · refine iff_of_true (fun t ht => ?_) trivial
      obtain ⟨t', ht', heq⟩ := weightCode_eq_ok.mp ht
      obtain ⟨n, rfl⟩ := wholeCode_eq_some ht'
      rw [String.ofList_injective heq]
      exact settled_weight n _
    · refine iff_of_true (fun t ht => ?_) trivial
      obtain ⟨t', ht', heq⟩ := weightCode_eq_ok.mp ht
      obtain ⟨n, rfl⟩ := wholeCode_eq_some ht'
      rw [String.ofList_injective heq]
      exact settled_weight n _
    · constructor
      · intro h
        by_contra hunstable
        obtain ⟨hden, hlt⟩ := not_or.mp hunstable
        exact not_settled_exponent hden hlt (h _ rfl)
      · intro h t ht
        rw [← String.ofList_injective (Except.ok.inj ht)]
        exact settled_litres h
    · constructor
      · intro h hplain
        exact not_settled_kilogram hm hplain (h _ ((plainCode_mixed hm hx hs).mpr ⟨hplain, rfl⟩))
      · intro h t ht
        exact absurd ((plainCode_mixed hm hx hs).mp ht).1 h
    · exact absurd (by rw [unitReading, if_neg hk, if_neg hg, if_neg hl, if_neg hx])
        (unitReading_ne_other hu (m := m))

end Stable

/-! ## Which codes agree -/

/-- A number of grams as 28 digits hold it. -/
def heldGrams (grams : ℚ) : ℚ := roundSignificant 10 28 grams

/-- The weight a reading names: grams, and the multiplier. -/
def SpecReading.weight : SpecReading → Option (ℚ × Option Nat)
  | .kilogram m => some (m.value * 1000, m.times.map readDigits)
  | .mixed m => some (m.value * 1000, m.times.map readDigits)
  | .gram m => some (m.value, m.times.map readDigits)
  | _ => none

/-- When two readings of one weight have one code or none. -/
def SpecReading.AgreesWith : SpecReading → SpecReading → Prop
  | .kilogram _, .gram n => heldGrams n.value = n.value ∨
      n.value.den ≠ 1 ∧ (heldGrams n.value).den ≠ 1
  | .gram m, .kilogram _ => heldGrams m.value = m.value ∨
      m.value.den ≠ 1 ∧ (heldGrams m.value).den ≠ 1
  | .mixed m, .kilogram n => ¬ m.Plain ∧ (heldGrams (n.value * 1000)).den ≠ 1
  | .kilogram m, .mixed n => ¬ n.Plain ∧ (heldGrams (m.value * 1000)).den ≠ 1
  | .mixed m, .gram n => ¬ m.Plain ∧ n.value.den ≠ 1
  | .gram m, .mixed n => ¬ n.Plain ∧ m.value.den ≠ 1
  | .mixed m, .mixed n => m = n ∨ ¬ m.Plain ∧ ¬ n.Plain
  | _, _ => True

/-- The code of a reading that names a weight. -/
def SpecReading.Codes (r : SpecReading) (code : Option (List Char)) : Prop :=
  match r with
  | .kilogram m => code = wholeCode (heldGrams (m.value * 1000)) m.times
  | .gram m => code = wholeCode m.value m.times
  | .mixed m => (m.Plain ∧ code = some (m.text ['K', 'G'])) ∨ (¬ m.Plain ∧ code = none)
  | _ => False

section Agree
variable {s t u : List Char} {m n : SpecMatch} {r r' : SpecReading} {a b : Option (List Char)}

theorem toOption_weightCode (message : String) (grams : ℚ) (times : Option (List Char)) :
    (weightCode message grams times).toOption = (wholeCode grams times).map String.ofList := by
  cases h : weightCode message grams times with
  | ok code =>
      obtain ⟨t, ht, rfl⟩ := weightCode_eq_ok.mp h
      rw [ht]
      rfl
  | error e =>
      cases hw : wholeCode grams times with
      | none => rfl
      | some t =>
          rw [weightCode_eq_ok.mpr ⟨t, hw, rfl⟩] at h
          cases h

/-- A text that names a weight has the code of its reading. -/
theorem exists_codes (hs : Cleaned s) {w : ℚ × Option Nat} (hw : (specReading s).weight = some w) :
    ∃ code, (specReading s).Codes code ∧ (specCode s).toOption = code.map String.ofList := by
  rcases specReading_cases s with hother | ⟨m, u, hm, hu, rfl⟩
  · rw [hother] at hw
    cases hw
  · have hread := specReading_text hm (isUnit_known hu)
    rw [hread] at hw
    rw [specCode_eq, hread]
    unfold unitReading at hw ⊢
    split_ifs at hw ⊢ with hk hg hl hx
    · exact ⟨_, rfl, toOption_weightCode _ _ _⟩
    · exact ⟨_, rfl, toOption_weightCode _ _ _⟩
    · cases hw
    · by_cases hplain : m.Plain
      · refine ⟨_, Or.inl ⟨hplain, rfl⟩, ?_⟩
        show (plainCode (m.text u)).toOption = _
        rw [(plainCode_mixed hm hx hs).mpr ⟨hplain, rfl⟩]
        rfl
      · refine ⟨_, Or.inr ⟨hplain, rfl⟩, ?_⟩
        show (plainCode (m.text u)).toOption = _
        cases hcode : plainCode (m.text u) with
        | error e => rfl
        | ok code => exact absurd ((plainCode_mixed hm hx hs).mp hcode).1 hplain
    · cases hw

theorem timesCode_eq {x y : Option (List Char)} (h : x.map readDigits = y.map readDigits) :
    timesCode x = timesCode y := by
  cases x with
  | none =>
      cases y with
      | none => rfl
      | some ds => cases h
  | some cs =>
      cases y with
      | none => cases h
      | some ds =>
          show 'X' :: Nat.toDigits 10 (readDigits cs) = 'X' :: Nat.toDigits 10 (readDigits ds)
          rw [Option.some.inj h]

theorem value_nonneg (m : SpecMatch) : 0 ≤ m.value := by
  unfold SpecMatch.value
  positivity

theorem heldGrams_nonneg {g : ℚ} (hg : 0 ≤ g) : 0 ≤ heldGrams g := roundSignificant_nonneg hg

/-- Two weights have one code or none. -/
theorem wholeCode_eq_iff {g g' : ℚ} {x y : Option (List Char)} (hg : 0 ≤ g) (hg' : 0 ≤ g')
    (htimes : timesCode x = timesCode y) :
    wholeCode g x = wholeCode g' y ↔ g = g' ∨ g.den ≠ 1 ∧ g'.den ≠ 1 := by
  have hnat : ∀ {q : ℚ}, 0 ≤ q → q.den = 1 → q = (q.num.toNat : ℚ) := by
    intro q hq hden
    have hnum : ((q.num.toNat : Int) : ℚ) = q.num := by
      rw [Int.toNat_of_nonneg (Rat.num_nonneg.mpr hq)]
    rw [(Rat.den_eq_one_iff q).mp hden] at hnum
    exact_mod_cast hnum.symm
  unfold wholeCode
  by_cases hden : g.den = 1
  · by_cases hden' : g'.den = 1
    · rw [if_pos hden, if_pos hden', Option.some_inj, htimes]
      constructor
      · intro h
        have hnum := toDigits_injective (List.append_cancel_right h)
        rw [hnat hg hden, hnat hg' hden', hnum]
        exact Or.inl rfl
      · rintro (rfl | ⟨hne, -⟩)
        · rfl
        · exact absurd hden hne
    · rw [if_pos hden, if_neg hden']
      refine iff_of_false (by simp) ?_
      rintro (rfl | ⟨hne, -⟩)
      · exact hden' hden
      · exact hne hden
  · by_cases hden' : g'.den = 1
    · rw [if_neg hden, if_pos hden']
      refine iff_of_false (by simp) ?_
      rintro (rfl | ⟨-, hne⟩)
      · exact hden hden'
      · exact hne hden'
    · rw [if_neg hden, if_neg hden']
      exact iff_of_true rfl (Or.inr ⟨hden, hden'⟩)

theorem SpecReading.AgreesWith.comm (r r' : SpecReading) : r.AgreesWith r' ↔ r'.AgreesWith r := by
  cases r <;> cases r' <;> try exact Iff.rfl
  exact or_congr eq_comm and_comm

/-- What was taken over agrees with no weight in grams. -/
theorem codes_mixed_eq_whole {g : ℚ} {times : Option (List Char)}
    (ha : (SpecReading.mixed m).Codes a) :
    a = wholeCode g times ↔ ¬ m.Plain ∧ g.den ≠ 1 := by
  rcases ha with ⟨hplain, rfl⟩ | ⟨hplain, rfl⟩
  · refine iff_of_false (fun h => ?_) fun h => h.1 hplain
    exact not_mem_wholeCode h.symm (mem_text_kilogram m)
  · rw [and_iff_right hplain, eq_comm, wholeCode]
    by_cases hden : g.den = 1
    · simp [hden]
    · simp [hden]

/-- The codes of two readings of one weight. -/
theorem codes_eq_iff {w : ℚ × Option Nat} (hw : r.weight = some w) (hw' : r'.weight = some w)
    (hm : ∀ m, r = .mixed m → m.Ok) (hn : ∀ n, r' = .mixed n → n.Ok)
    (ha : r.Codes a) (hb : r'.Codes b) : a = b ↔ r.AgreesWith r' := by
  rw [← hw'] at hw
  cases r with
  | kilogram m =>
      cases r' with
      | kilogram n =>
          obtain ⟨hg, ht⟩ := Prod.mk.inj (Option.some.inj hw)
          have ha : a = wholeCode _ _ := ha
          have hb : b = wholeCode _ _ := hb
          rw [ha, hb, hg, wholeCode, wholeCode, timesCode_eq ht]
          exact iff_of_true rfl trivial
      | gram n =>
          obtain ⟨hg, ht⟩ := Prod.mk.inj (Option.some.inj hw)
          have ha : a = wholeCode _ _ := ha
          have hb : b = wholeCode _ _ := hb
          rw [ha, hb, hg, wholeCode_eq_iff (heldGrams_nonneg (value_nonneg n)) (value_nonneg n)
            (timesCode_eq ht), and_comm]
          exact Iff.rfl
      | litre n => cases hb
      | mixed n =>
          rw [eq_comm, show a = wholeCode _ _ from ha, codes_mixed_eq_whole hb]
          exact Iff.rfl
      | other => cases hb
  | gram m =>
      cases r' with
      | kilogram n =>
          obtain ⟨hg, ht⟩ := Prod.mk.inj (Option.some.inj hw)
          have ha : a = wholeCode _ _ := ha
          have hb : b = wholeCode _ _ := hb
          rw [ha, hb, ← hg, wholeCode_eq_iff (value_nonneg m) (heldGrams_nonneg (value_nonneg m))
            (timesCode_eq ht), eq_comm]
          exact Iff.rfl
      | gram n =>
          obtain ⟨hg, ht⟩ := Prod.mk.inj (Option.some.inj hw)
          have ha : a = wholeCode _ _ := ha
          have hb : b = wholeCode _ _ := hb
          rw [ha, hb, hg, wholeCode, wholeCode, timesCode_eq ht]
          exact iff_of_true rfl trivial
      | litre n => cases hb
      | mixed n =>
          rw [eq_comm, show a = wholeCode _ _ from ha, codes_mixed_eq_whole hb]
          exact Iff.rfl
      | other => cases hb
  | litre m => cases ha
  | mixed m =>
      cases r' with
      | kilogram n =>
          rw [show b = wholeCode _ _ from hb, codes_mixed_eq_whole ha]
          exact Iff.rfl
      | gram n =>
          rw [show b = wholeCode _ _ from hb, codes_mixed_eq_whole ha]
          exact Iff.rfl
      | litre n => cases hb
      | mixed n =>
          have hsame : m.text ['K', 'G'] = n.text ['K', 'G'] ↔ m = n := by
            refine ⟨fun h => (text_unique (hm m rfl) (hn n rfl) (isUnit_known (by decide))
              (isUnit_known (by decide)) h).1, fun h => by rw [h]⟩
          show a = b ↔ m = n ∨ ¬ m.Plain ∧ ¬ n.Plain
          rcases ha with ⟨hp, rfl⟩ | ⟨hp, rfl⟩
          · rcases hb with ⟨hq, rfl⟩ | ⟨hq, rfl⟩
            · simp [hsame, hp]
            · refine iff_of_false (by simp) ?_
              rintro (rfl | ⟨h, -⟩)
              · exact hq hp
              · exact h hp
          · rcases hb with ⟨hq, rfl⟩ | ⟨hq, rfl⟩
            · refine iff_of_false (by simp) ?_
              rintro (rfl | ⟨-, h⟩)
              · exact hp hq
              · exact h hq
            · exact iff_of_true rfl (Or.inr ⟨hp, hq⟩)
      | other => cases hb
  | other => cases ha

/-- Texts that differ by case only name one weight or have one code. -/
theorem same_of_lower (hs : Cleaned s) (ht : Cleaned t)
    (h : s.map Char.toLower = t.map Char.toLower) :
    (∃ w, (specReading s).weight = some w ∧ (specReading t).weight = some w) ∨
      (specReading s).weight = none ∧ (specReading t).weight = none ∧ specCode s = specCode t := by
  rcases specReading_cases t with hother | ⟨m, u, hm, hu, rfl⟩
  · -- a text without a unit differs by case from such a text only
    rcases specReading_cases s with hother' | ⟨m, u, hm, hu, rfl⟩
    · refine Or.inr ⟨by rw [hother']; rfl, by rw [hother]; rfl, ?_⟩
      rw [specCode_eq, specCode_eq, hother, hother', plainCode, plainCode, hs.normCode, ht.normCode,
        flatMap_upperChar_eq_of_lower h]
    · obtain ⟨u', rfl, hu'⟩ := text_of_lower ht hm h.symm
      have hmem := caseClosed_known u hu u' hu'
      rw [specReading_text hm (isUnit_known hmem)] at hother
      exact absurd hother (unitReading_ne_other hmem)
  · obtain ⟨u', rfl, hu'⟩ := text_of_lower hs hm h
    have hmem := caseClosed_known u hu u' hu'
    rw [specCode_eq, specCode_eq, specReading_text hm (isUnit_known hu),
      specReading_text hm (isUnit_known hmem)]
    have hkilogram : ∀ {u}, u ∈ kilogramUnits ++ mixedUnits →
        (unitReading u m).weight = some (m.value * 1000, m.times.map readDigits) := by
      have hapart : ∀ u ∈ mixedUnits, u ∉ kilogramUnits ∧ u ∉ gramUnits ∧ u ∉ litreUnits := by decide
      intro u hu
      rcases List.mem_append.mp hu with hu | hu
      · rw [unitReading, if_pos hu]
        rfl
      · obtain ⟨hk, hg, hl⟩ := hapart u hu
        rw [unitReading, if_neg hk, if_neg hg, if_neg hl, if_pos hu]
        rfl
    simp only [knownUnits, List.mem_append] at hu
    rcases hu with ((hu | hu) | hu) | hu
    · have hmem := caseClosed_kilogram u (List.mem_append_left _ hu) u' hu'
      exact Or.inl ⟨_, hkilogram hmem, hkilogram (List.mem_append_left _ hu)⟩
    · have hgram : ∀ u ∈ gramUnits, unitReading u m = .gram m := by
        intro u hu
        have hk : ∀ u ∈ gramUnits, u ∉ kilogramUnits := by decide
        rw [unitReading, if_neg (hk u hu), if_pos hu]
      rw [hgram u hu, hgram u' (caseClosed_gram u hu u' hu')]
      exact Or.inl ⟨_, rfl, rfl⟩
    · have hlitre : ∀ u ∈ litreUnits, unitReading u m = .litre m := by
        intro u hu
        have hk : ∀ u ∈ litreUnits, u ∉ kilogramUnits ∧ u ∉ gramUnits := by decide
        rw [unitReading, if_neg (hk u hu).1, if_neg (hk u hu).2, if_pos hu]
      rw [hlitre u hu, hlitre u' (caseClosed_litre u hu u' hu')]
      exact Or.inr ⟨rfl, rfl, rfl⟩
    · have hmem := caseClosed_kilogram u (List.mem_append_right _ hu) u' hu'
      exact Or.inl ⟨_, hkilogram hmem, hkilogram (List.mem_append_right _ hu)⟩

theorem mixed_ok (s : List Char) (m : SpecMatch) (h : specReading s = .mixed m) : m.Ok := by
  rcases specReading_cases s with hother | ⟨n, u, hn, hu, rfl⟩
  · rw [hother] at h
    cases h
  · rw [specReading_text hn (isUnit_known hu), unitReading] at h
    split_ifs at h
    cases h
    exact hn

/-- Texts that name one weight have one code or none when their readings agree. -/
theorem same_weight {x : ℚ × Option Nat} (hs : Cleaned s) (ht : Cleaned t)
    (hx : (specReading s).weight = some x) (hx' : (specReading t).weight = some x) :
    (specCode s).toOption = (specCode t).toOption ↔
      (specReading s).AgreesWith (specReading t) := by
  obtain ⟨a, ha, hcode⟩ := exists_codes hs hx
  obtain ⟨b, hb, hcode'⟩ := exists_codes ht hx'
  have hinj : Function.Injective (Option.map String.ofList) :=
    Option.map_injective fun _ _ h => String.ofList_injective h
  rw [hcode, hcode', hinj.eq_iff]
  exact codes_eq_iff hx hx' (mixed_ok s) (mixed_ok t) ha hb

theorem agreesWith_of_none (hr : r.weight = none) : r.AgreesWith r' := by
  cases r with
  | kilogram m => cases hr
  | gram m => cases hr
  | litre m => trivial
  | mixed m => cases hr
  | other => trivial

/-- Two texts that say the same: they differ by blanks, multiplication signs and
case, or they name one weight. -/
def SameSpec (v w : String) : Prop :=
  (cleanSpec v).map Char.toLower = (cleanSpec w).map Char.toLower ∨
    ∃ x, (specReading (cleanSpec v)).weight = some x ∧ (specReading (cleanSpec w)).weight = some x

theorem normalizeSpecText_toOption (v : String) :
    (normalizeSpecText v).toOption = (specCode (cleanSpec v)).toOption := by
  refine Option.ext fun code => ?_
  rw [toOption_eq_some, toOption_eq_some]
  exact normalizeSpecText_eq_ok

end Agree

/-! ## The result -/

section Result

-- what is read is told by the lemmas above; evaluating a reading is slow
attribute [local irreducible] specReading

end Result

end WmsDu
