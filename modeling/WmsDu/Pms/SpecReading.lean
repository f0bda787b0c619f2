import Mathlib
import WmsDu.Pms.SpecCase

/-!
# What a specification says

The reading of a specification is the unit its text names and the groups
around it. The code goes by the reading, save that the kilogram in one capital
and one small letter is known to no pattern and is taken over with the texts
that name no unit.
-/

namespace WmsDu

/-! ## Readings -/

/-- What a specification says: the unit its text names, and the groups. -/
inductive SpecReading
  | kilogram (m : SpecMatch)
  | gram (m : SpecMatch)
  | litre (m : SpecMatch)
  | mixed (m : SpecMatch)
  | other
deriving DecidableEq, Repr

/-- A text whose unit is known. -/
def unitReading (u : List Char) (m : SpecMatch) : SpecReading :=
  if u ∈ kilogramUnits then .kilogram m
  else if u ∈ gramUnits then .gram m
  else if u ∈ litreUnits then .litre m
  else if u ∈ mixedUnits then .mixed m
  else .other

def specReading (s : List Char) : SpecReading :=
  match matchSpec kilogramUnits s with
  | some m => .kilogram m
  | none =>
      match matchSpec gramUnits s with
      | some m => .gram m
      | none =>
          match matchSpec litreUnits s with
          | some m => .litre m
          | none =>
              match matchSpec mixedUnits s with
              | some m => .mixed m
              | none => .other

/-- The last branch: capitals and digits are taken over. -/
def plainCode (s : List Char) : Except String String :=
  let upper := normCode (String.ofList s)
  if specPattern upper.toList then .ok upper
  else .error "规格格式不支持，请输入如 500g、1.5kg、40g×6、2L"

section Readings
variable {s t u : List Char} {m : SpecMatch}

theorem specReading_text (hm : m.Ok) (hu : IsUnit u) :
    specReading (m.text u) = unitReading u m := by
  unfold specReading unitReading
  rw [matchSpec_text units_kilogram hm hu, matchSpec_text units_gram hm hu,
    matchSpec_text units_litre hm hu, matchSpec_text units_mixed hm hu]
  split_ifs <;> rfl

/-- The code goes by the reading. -/
theorem specCode_eq (s : List Char) : specCode s = match specReading s with
    | .kilogram m => weightCode "kg 规格换算后必须是整数克" m.kilogramsInGrams m.times
    | .gram m => weightCode "g 规格必须是整数" m.value m.times
    | .litre m => .ok (String.ofList (m.litres ++ 'L' :: timesCode m.times))
    | .mixed _ => plainCode s
    | .other => plainCode s := by
  unfold specCode specReading
  cases matchSpec kilogramUnits s with
  | some m => rfl
  | none =>
      cases matchSpec gramUnits s with
      | some m => rfl
      | none =>
          cases matchSpec litreUnits s with
          | some m => rfl
          | none => cases matchSpec mixedUnits s <;> rfl

/-- The units of a reading, with the kilogram in any case. -/
def knownUnits : List (List Char) := kilogramUnits ++ gramUnits ++ litreUnits ++ mixedUnits

theorem isUnit_known (hu : u ∈ knownUnits) : IsUnit u := by
  simp only [knownUnits, List.mem_append] at hu
  rcases hu with ((hu | hu) | hu) | hu
  · exact units_kilogram.isUnit u hu
  · exact units_gram.isUnit u hu
  · exact units_litre.isUnit u hu
  · exact units_mixed.isUnit u hu

theorem unitReading_ne_other (hu : u ∈ knownUnits) : unitReading u m ≠ .other := by
  simp only [knownUnits, List.mem_append] at hu
  unfold unitReading
  split_ifs with hk hg hl hx
  · simp
  · simp
  · simp
  · simp
  · simp [hk, hg, hl, hx] at hu

/-- A text is read as other, or is the text of a match and a unit. -/
theorem specReading_cases (s : List Char) :
    specReading s = .other ∨
      ∃ (m : SpecMatch) (u : List Char), m.Ok ∧ u ∈ knownUnits ∧ s = m.text u := by
  have hfound : ∀ {units : List (List Char)} {m : SpecMatch}, Units units → units ⊆ knownUnits →
      matchSpec units s = some m → ∃ m u, SpecMatch.Ok m ∧ u ∈ knownUnits ∧ s = m.text u := by
    intro units m hunits hsub h
    obtain ⟨hm, u, hu, heq⟩ := (matchSpec_eq_some hunits).mp h
    exact ⟨m, u, hm, hsub hu, heq⟩
  unfold specReading
  cases hk : matchSpec kilogramUnits s with
  | some m => exact Or.inr (hfound units_kilogram (by decide) hk)
  | none =>
      cases hg : matchSpec gramUnits s with
      | some m => exact Or.inr (hfound units_gram (by decide) hg)
      | none =>
          cases hl : matchSpec litreUnits s with
          | some m => exact Or.inr (hfound units_litre (by decide) hl)
          | none =>
              cases hx : matchSpec mixedUnits s with
              | some m => exact Or.inr (hfound units_mixed (by decide) hx)
              | none => exact Or.inl rfl

theorem normalizeSpecText_eq_ok {v code : String} :
    normalizeSpecText v = .ok code ↔ specCode (cleanSpec v) = .ok code := by
  unfold normalizeSpecText
  split
  next h =>
    have hempty : specCode (cleanSpec v) =
        .error "规格格式不支持，请输入如 500g、1.5kg、40g×6、2L" := by
      rw [cleanSpec, h]
      decide
    rw [hempty]
    constructor <;> (intro h; cases h)
  next => rfl

/-- Units in every case they may be written in. -/
def CaseClosed (units : List (List Char)) : Prop :=
  ∀ u ∈ units, ∀ u', u'.map Char.toLower = u.map Char.toLower → u' ∈ units

theorem caseClosed_of_sections {units : List (List Char)}
    (h : ∀ u ∈ units, ∀ u' ∈ ((u.map Char.toLower).map fun d => [d, d.toUpper]).sections,
      u' ∈ units) : CaseClosed units :=
  fun u hu u' heq => h u hu u' (mem_sections_of_toLower heq)

theorem caseClosed_kilogram : CaseClosed (kilogramUnits ++ mixedUnits) :=
  caseClosed_of_sections (by decide)

theorem caseClosed_gram : CaseClosed gramUnits := caseClosed_of_sections (by decide)

theorem caseClosed_litre : CaseClosed litreUnits := caseClosed_of_sections (by decide)

theorem caseClosed_known : CaseClosed knownUnits := caseClosed_of_sections (by decide)

end Readings

/-! ## Codes in capitals -/

/-- All digits are those of ASCII. -/
def SpecMatch.Ascii (m : SpecMatch) : Prop :=
  ∀ c ∈ m.whole ++ m.fraction ++ m.times.getD [], c.isDigit = true

/-- Nothing but ASCII digits and the multiplication sign stands around the unit. -/
def SpecMatch.Plain (m : SpecMatch) : Prop := m.fraction = [] ∧ m.Ascii

section Capitals
variable {s t u u' : List Char} {m : SpecMatch} {c : Char} {code : String}

theorem mem_text : c ∈ m.text u ↔ c ∈ m.whole ∨ c ∈ pointText m.fraction ∨ c ∈ u ∨
    c ∈ timesText m.times := by
  simp [SpecMatch.text]

theorem mem_pointText (h : c ∈ pointText m.fraction) : c = '.' ∨ c ∈ m.fraction := by
  unfold pointText at h
  split at h
  · cases h
  · exact List.mem_cons.mp h

theorem mem_timesText {times : Option (List Char)} (h : c ∈ timesText times) :
    c = 'X' ∨ c ∈ times.getD [] := by
  cases times with
  | none => cases h
  | some ds => exact List.mem_cons.mp h

/-- The characters of a text. -/
theorem SpecMatch.Ok.mem_text (hm : m.Ok) (h : c ∈ m.text u) :
    isDecimal c = true ∨ c = '.' ∨ c ∈ u ∨ c = 'X' := by
  rcases WmsDu.mem_text.mp h with h | h | h | h
  · exact Or.inl (hm.whole c h)
  · rcases mem_pointText h with rfl | h
    · exact Or.inr (Or.inl rfl)
    · exact Or.inl (hm.fraction c h)
  · exact Or.inr (Or.inr (Or.inl h))
  · rcases mem_timesText h with rfl | h
    · exact Or.inr (Or.inr (Or.inr rfl))
    · cases htimes : m.times with
      | none =>
          rw [htimes] at h
          cases h
      | some ds =>
          rw [htimes] at h
          exact Or.inl ((hm.times ds htimes).2 c h)

/-- Of a character that is none of digits, point, `X` and the units there is none. -/
theorem not_mem_text (hm : m.Ok) (hu : u ∈ knownUnits) (hc : isDecimal c = false ∧ c ≠ '.' ∧
    c ≠ 'X' ∧ ∀ u ∈ knownUnits, c ∉ u) : c ∉ m.text u := by
  intro h
  rcases hm.mem_text h with h | h | h | h
  · rw [hc.1] at h
    cases h
  · exact hc.2.1 h
  · exact hc.2.2.2 u hu h
  · exact hc.2.2.1 h

theorem flatMap_upperChar_self (h : ∀ c ∈ s, upperChar c = [c]) : s.flatMap upperChar = s := by
  induction s with
  | nil => rfl
  | cons c s ih =>
      rw [List.flatMap_cons, h c List.mem_cons_self, ih fun d hd => h d (List.mem_cons_of_mem _ hd)]
      rfl

/-- In capitals a text changes its unit only. -/
theorem flatMap_upperChar_text (hm : m.Ok) (hu : u.flatMap upperChar = u') :
    (m.text u).flatMap upperChar = m.text u' := by
  have hpoint : (pointText m.fraction).flatMap upperChar = pointText m.fraction := by
    refine flatMap_upperChar_self fun c hc => ?_
    rcases mem_pointText hc with rfl | hc
    · exact upperChar_of_ascii (by decide)
    · exact upperChar_of_isDecimal (hm.fraction c hc)
  have htimes : (timesText m.times).flatMap upperChar = timesText m.times := by
    refine flatMap_upperChar_self fun c hc => ?_
    have hmem : c ∈ SpecMatch.text ⟨m.whole, m.fraction, m.times⟩ [] :=
      WmsDu.mem_text.mpr (Or.inr (Or.inr (Or.inr hc)))
    rcases hm.mem_text hmem with hc | rfl | hc | rfl
    · exact upperChar_of_isDecimal hc
    · exact upperChar_of_ascii (by decide)
    · cases hc
    · exact upperChar_of_ascii (by decide)
  unfold SpecMatch.text
  rw [List.flatMap_append, List.flatMap_append, List.flatMap_append, hpoint, htimes, hu,
    flatMap_upperChar_self fun c hc => upperChar_of_isDecimal (hm.whole c hc)]

/-- The last branch accepts what is not empty and has capitals and digits only. -/
theorem plainCode_eq_ok (hs : Cleaned s) : plainCode s = .ok code ↔
    s.flatMap upperChar ≠ [] ∧ Capital (s.flatMap upperChar) ∧
      code = String.ofList (s.flatMap upperChar) := by
  unfold plainCode
  simp only [hs.normCode, String.toList_ofList]
  constructor
  · intro h
    split at h
    next hpattern =>
      cases h
      exact ⟨(specPattern_iff.mp hpattern).1, (specPattern_iff.mp hpattern).2, rfl⟩
    next => cases h
  · rintro ⟨hne, hcapital, rfl⟩
    rw [if_pos (specPattern_iff.mpr ⟨hne, hcapital⟩)]

/-- A decimal digit in a code is one of ASCII. -/
theorem isDigit_of_capital (hc : isDecimal c = true) (h : c.isUpper = true ∨ c.isDigit = true) :
    c.isDigit = true := by
  have := toNat_of_capital h
  rcases isDigit_or_outside hc with hc | hc
  · exact hc
  · omega

theorem capital_text_iff (hm : m.Ok) (hu : Capital u) : Capital (m.text u) ↔ m.Plain := by
  constructor
  · intro h
    have hfraction : m.fraction = [] := by
      by_contra hne
      have hpoint := h '.' (mem_text.mpr (Or.inr (Or.inl (by simp [pointText_of_ne hne]))))
      exact absurd (toNat_of_capital hpoint) (by decide)
    refine ⟨hfraction, fun c hc => ?_⟩
    rw [hfraction, List.append_nil, List.mem_append] at hc
    rcases hc with hc | hc
    · exact isDigit_of_capital (hm.whole c hc) (h c (mem_text.mpr (Or.inl hc)))
    · cases htimes : m.times with
      | none =>
          rw [htimes] at hc
          cases hc
      | some ds =>
          rw [htimes] at hc
          refine isDigit_of_capital ((hm.times ds htimes).2 c hc) (h c (mem_text.mpr ?_))
          exact Or.inr (Or.inr (Or.inr (by rw [htimes]; exact List.mem_cons_of_mem _ hc)))
  · rintro ⟨hfraction, hdigit⟩ c hc
    rcases mem_text.mp hc with hc | hc | hc | hc
    · exact Or.inr (hdigit c (by simp [hc]))
    · rw [hfraction, pointText_nil] at hc
      cases hc
    · exact hu c hc
    · rcases mem_timesText hc with rfl | hc
      · exact Or.inl (by decide)
      · exact Or.inr (hdigit c (by simp [hc]))

theorem capital_kilogram : Capital ['K', 'G'] := by
  intro c hc
  fin_cases hc <;> exact Or.inl (by decide)

/-- The kilogram in one capital and one small letter is taken over. -/
theorem plainCode_mixed (hm : m.Ok) (hu : u ∈ mixedUnits) (hs : Cleaned (m.text u)) :
    plainCode (m.text u) = .ok code ↔ m.Plain ∧ code = String.ofList (m.text ['K', 'G']) := by
  have hupper : ∀ u ∈ mixedUnits, u.flatMap upperChar = ['K', 'G'] := by decide
  have hne : m.text ['K', 'G'] ≠ [] := by simp [SpecMatch.text]
  rw [plainCode_eq_ok hs, flatMap_upperChar_text hm (hupper u hu),
    capital_text_iff hm capital_kilogram]
  exact and_iff_right hne

end Capitals
end WmsDu
