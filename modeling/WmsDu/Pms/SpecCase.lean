import Mathlib
import WmsDu.Pms.SpecGrammar

/-!
# Case and blanks of specification texts

Which characters a text keeps when it is cleaned and put into capitals, and
which texts differ from a known one by case only.
-/

namespace WmsDu

/-! ## Upper case -/

section Upper
variable {c d : Char} {s t : List Char}

theorem upperChar_cases (c : Char) :
    (∃ p ∈ upperSpecials, c = p.1 ∧ upperChar c = p.2) ∨ upperChar c = [c.toUpper] := by
  unfold upperChar
  cases h : upperSpecials.lookup c with
  | none => exact Or.inr rfl
  | some ds =>
      obtain ⟨front, back, heq, -⟩ := List.lookup_eq_some_iff.mp h
      exact Or.inl ⟨(c, ds), by rw [heq]; simp, rfl, rfl⟩

/-- Letters that are the upper case of a letter outside ASCII. -/
theorem head_upperSpecials : ∀ p ∈ upperSpecials, ∃ d ds, p.2 = d :: ds ∧ d ∈ ['S', 'I', 'F'] := by
  intro p hp
  fin_cases hp <;> exact ⟨_, _, rfl, by decide⟩

/-- A text whose upper case has no such letter is put into capitals one by one. -/
theorem map_toUpper_of_flatMap (h : s.flatMap upperChar = t)
    (ht : ∀ d ∈ t, d ∉ ['S', 'I', 'F']) : s.map Char.toUpper = t := by
  induction s generalizing t with
  | nil => exact h
  | cons c s ih =>
      rw [List.flatMap_cons] at h
      rcases upperChar_cases c with ⟨p, hp, -, hupper⟩ | hupper
      · obtain ⟨d, ds, hds, hd⟩ := head_upperSpecials p hp
        rw [hupper, hds] at h
        exact absurd hd (ht d (by rw [← h]; simp))
      · rw [hupper, List.singleton_append] at h
        subst h
        rw [List.map_cons, ih rfl fun d hd => ht d (List.mem_cons_of_mem _ hd)]

/-- What is no small letter of ASCII and none of the special letters stays. -/
theorem upperChar_of_not_lower (h : ¬ (97 ≤ c.toNat ∧ c.toNat ≤ 122))
    (hs : ∀ p ∈ upperSpecials, c ≠ p.1) : upperChar c = [c] := by
  have hfix : c.toUpper = c := Char.toNat_inj.mp (by rw [toNat_toUpper, if_neg h])
  rcases upperChar_cases c with ⟨p, hp, hc, -⟩ | hupper
  · exact absurd hc (hs p hp)
  · rw [hupper, hfix]

theorem upperSpecials_outside : ∀ p ∈ upperSpecials, 128 ≤ p.1.toNat ∧ isDecimal p.1 = false := by
  intro p hp
  fin_cases hp <;> exact ⟨by decide, by decide⟩

/-- Capitals, digits and the other signs of ASCII stay as they are. -/
theorem upperChar_of_ascii (h : c.toNat < 97) : upperChar c = [c] :=
  upperChar_of_not_lower (by omega) fun p hp hc => by
    have := (upperSpecials_outside p hp).1
    rw [← hc] at this
    omega

theorem isUpper_iff_toNat : c.isUpper = true ↔ 65 ≤ c.toNat ∧ c.toNat ≤ 90 := by
  simp only [Char.isUpper, decide_eq_true_eq, ge_iff_le]
  exact and_congr UInt32.le_iff_toNat_le UInt32.le_iff_toNat_le

theorem isDigit_iff_toNat : c.isDigit = true ↔ 48 ≤ c.toNat ∧ c.toNat ≤ 57 := by
  simp only [Char.isDigit, Bool.and_eq_true, decide_eq_true_eq, ge_iff_le]
  exact and_congr UInt32.le_iff_toNat_le UInt32.le_iff_toNat_le

/-- A decimal digit is one of ASCII or outside of it. -/
theorem isDigit_or_outside (h : isDecimal c = true) : c.isDigit = true ∨ 128 ≤ c.toNat := by
  have hzeros : ∀ z ∈ decimalZeros, z = 0x30 ∨ 128 ≤ z := by decide
  unfold isDecimal decimalValue? at h
  rw [Option.isSome_map] at h
  obtain ⟨z, hz⟩ := Option.isSome_iff_exists.mp h
  have hrange : z ≤ c.toNat ∧ c.toNat < z + 10 := by simpa using List.find?_some hz
  rw [isDigit_iff_toNat]
  rcases hzeros z (List.mem_of_find?_eq_some hz) with rfl | hge <;> omega

/-- Digits have no upper case but themselves. -/
theorem upperChar_of_isDecimal (h : isDecimal c = true) : upperChar c = [c] := by
  refine upperChar_of_not_lower ?_ fun p hp hc => ?_
  · have := isDigit_or_outside h
    rw [isDigit_iff_toNat] at this
    omega
  · rw [hc, (upperSpecials_outside p hp).2] at h
    cases h

end Upper

/-! ## Cleaned texts -/

/-- No blanks, and `X` is the one multiplication sign. -/
def Cleaned (s : List Char) : Prop := ∀ c ∈ s, isSpaceChar c = false ∧ timesSign c = c

section Clean
variable {c : Char} {s t : List Char}

theorem timesSign_timesSign (c : Char) : timesSign (timesSign c) = timesSign c := by
  by_cases h : c = '×' ∨ c = '*' ∨ c = 'Ｘ' ∨ c = 'x'
  · rw [show timesSign c = 'X' from if_pos h]
    decide
  · rw [show timesSign c = c from if_neg h]
    exact if_neg h

theorem cleaned_cleanSpec (v : String) : Cleaned (cleanSpec v) := by
  intro c hc
  obtain ⟨hmem, hspace⟩ := List.mem_filter.mp hc
  obtain ⟨d, -, rfl⟩ := List.mem_map.mp hmem
  exact ⟨by simpa using hspace, timesSign_timesSign d⟩

theorem Cleaned.dropSpaces (h : Cleaned s) : dropSpaces s = s :=
  List.filter_eq_self.mpr fun c hc => by simp [(h c hc).1]

theorem Cleaned.strip (h : Cleaned s) : strip (String.ofList s) = String.ofList s :=
  strip_eq_self fun c hc => (h c (by simpa using hc)).1

/-- A cleaned text is cleaned already. -/
theorem Cleaned.cleanSpec (h : Cleaned s) : cleanSpec (String.ofList s) = s := by
  have hmap : s.map timesSign = s := by
    conv_rhs => rw [← List.map_id s]
    exact List.map_congr_left fun c hc => (h c hc).2
  rw [WmsDu.cleanSpec, h.strip, String.toList_ofList, hmap, h.dropSpaces]

/-- The texts that are taken over as they are. -/
def Capital (s : List Char) : Prop := ∀ c ∈ s, c.isUpper = true ∨ c.isDigit = true

theorem specPattern_iff : specPattern s = true ↔ s ≠ [] ∧ Capital s := by
  simp [specPattern, Capital]

theorem toNat_of_capital (h : c.isUpper = true ∨ c.isDigit = true) :
    48 ≤ c.toNat ∧ c.toNat ≤ 90 := by
  rw [isUpper_iff_toNat, isDigit_iff_toNat] at h
  omega

/-- From the signs `+`, `-` and the point to the capitals no character is
changed or dropped. -/
theorem isSpaceChar_of_range (h : 43 ≤ c.toNat ∧ c.toNat ≤ 90) : isSpaceChar c = false := by
  simp [isSpaceChar]
  omega

theorem timesSign_of_range (h : 43 ≤ c.toNat ∧ c.toNat ≤ 90) : timesSign c = c := by
  refine if_neg ?_
  rintro (rfl | rfl | rfl | rfl) <;> exact absurd h (by decide)

theorem cleaned_of_range (h : ∀ c ∈ s, 43 ≤ c.toNat ∧ c.toNat ≤ 90) : Cleaned s := fun c hc =>
  ⟨isSpaceChar_of_range (h c hc), timesSign_of_range (h c hc)⟩

theorem Capital.cleaned (h : Capital s) : Cleaned s := cleaned_of_range fun c hc => by
  have := toNat_of_capital (h c hc)
  omega

theorem Capital.flatMap (h : Capital s) : s.flatMap upperChar = s := by
  induction s with
  | nil => rfl
  | cons c s ih =>
      have hc := toNat_of_capital (h c List.mem_cons_self)
      rw [List.flatMap_cons, upperChar_of_ascii (by omega),
        ih fun d hd => h d (List.mem_cons_of_mem _ hd)]
      rfl

/-- Capitals of a character that is no blank are no blanks. -/
theorem isSpaceChar_upperChar {d : Char} (hc : isSpaceChar c = false) (hd : d ∈ upperChar c) :
    isSpaceChar d = false := by
  have hspecials : ∀ p ∈ upperSpecials, ∀ d ∈ p.2, 43 ≤ d.toNat ∧ d.toNat ≤ 90 := by
    simp [upperSpecials]
  rcases upperChar_cases c with ⟨p, hp, -, hupper⟩ | hupper
  · exact isSpaceChar_of_range (hspecials p hp d (hupper ▸ hd))
  · rw [hupper, List.mem_singleton] at hd
    subst hd
    by_cases hlow : 97 ≤ c.toNat ∧ c.toNat ≤ 122
    · exact isSpaceChar_of_range (by rw [toNat_toUpper, if_pos hlow]; omega)
    · have hfix : c.toUpper = c := Char.toNat_inj.mp (by rw [toNat_toUpper, if_neg hlow])
      rw [hfix, hc]

/-- `_norm_code` of a cleaned text puts it into capitals. -/
theorem Cleaned.normCode (h : Cleaned s) :
    normCode (String.ofList s) = String.ofList (s.flatMap upperChar) := by
  rw [WmsDu.normCode, h.strip, String.toList_ofList, WmsDu.dropSpaces, List.filter_eq_self.mpr]
  intro d hd
  obtain ⟨c, hc, hd⟩ := List.mem_flatMap.mp hd
  simp [isSpaceChar_upperChar (h c hc).1 hd]

end Clean

/-! ## Texts that differ by case -/

section Lower
variable {c d : Char} {s t u : List Char} {m : SpecMatch}

theorem toLower_toUpper (c : Char) : c.toUpper.toLower = c.toLower := by
  refine Char.toNat_inj.mp ?_
  rw [toNat_toLower, toNat_toLower, toNat_toUpper]
  split_ifs <;> omega

theorem of_toLower_eq (h : c.toLower = d) : c = d ∨ c = d.toUpper := by
  subst h
  by_cases hc : 65 ≤ c.toNat ∧ c.toNat ≤ 90
  · refine Or.inr (Char.toNat_inj.mp ?_)
    rw [toNat_toUpper, toNat_toLower, if_pos hc]
    split <;> omega
  · refine Or.inl (Char.toNat_inj.mp ?_)
    rw [toNat_toLower, if_neg hc]

/-- The characters a cleaned text has in one case only. -/
def CaseFixed (d : Char) : Prop := d.toNat < 65 ∨ 128 ≤ d.toNat ∨ d = 'X'

theorem CaseFixed.eq (hd : CaseFixed d) (hc : timesSign c = c) (h : c.toLower = d.toLower) :
    c = d := by
  have hx : c ≠ 'x' := by
    rintro rfl
    exact absurd hc (by decide)
  have hx' : c.toNat ≠ 120 := fun h => hx (Char.toNat_inj.mp h)
  have hnat := congrArg Char.toNat h
  rw [toNat_toLower, toNat_toLower] at hnat
  refine Char.toNat_inj.mp ?_
  rcases hd with hd | hd | rfl
  · split at hnat <;> split at hnat <;> omega
  · split at hnat <;> split at hnat <;> omega
  · have hX : 'X'.toNat = 88 := rfl
    split at hnat <;> split at hnat <;> omega

/-- A run of such characters is the same in both texts. -/
theorem eq_of_caseFixed (ht : ∀ d ∈ t, CaseFixed d) (hs : Cleaned s)
    (h : s.map Char.toLower = t.map Char.toLower) : s = t := by
  induction s generalizing t with
  | nil =>
      cases t with
      | nil => rfl
      | cons d t => cases h
  | cons c s ih =>
      cases t with
      | nil => cases h
      | cons d t =>
          rw [List.map_cons, List.map_cons, List.cons.injEq] at h
          rw [(ht d List.mem_cons_self).eq (hs c List.mem_cons_self).2 h.1,
            ih (fun d hd => ht d (List.mem_cons_of_mem _ hd))
              (fun c hc => hs c (List.mem_cons_of_mem _ hc)) h.2]

theorem caseFixed_of_isDecimal (h : isDecimal c = true) : CaseFixed c := by
  have := isDigit_or_outside h
  rw [isDigit_iff_toNat] at this
  unfold CaseFixed
  omega

theorem caseFixed_pointText (hm : m.Ok) : ∀ c ∈ pointText m.fraction, CaseFixed c := by
  unfold pointText
  split
  · simp
  · intro c hc
    rcases List.mem_cons.mp hc with rfl | hc
    · exact Or.inl (by decide)
    · exact caseFixed_of_isDecimal (hm.fraction c hc)

theorem caseFixed_timesText (hm : m.Ok) : ∀ c ∈ timesText m.times, CaseFixed c := by
  intro c hc
  cases htimes : m.times with
  | none =>
      rw [htimes] at hc
      cases hc
  | some ds =>
      rw [htimes] at hc
      rcases List.mem_cons.mp hc with rfl | hc
      · exact Or.inr (Or.inr rfl)
      · exact caseFixed_of_isDecimal ((hm.times ds htimes).2 c hc)

/-- **What differs by case from a text of a pattern** differs in the unit only. -/
theorem text_of_lower (hs : Cleaned s) (hm : m.Ok)
    (h : s.map Char.toLower = (m.text u).map Char.toLower) :
    ∃ u', s = m.text u' ∧ u'.map Char.toLower = u.map Char.toLower := by
  unfold SpecMatch.text at h
  rw [List.map_append, List.map_append, List.map_append] at h
  obtain ⟨whole, s, rfl, hwhole, h⟩ := List.map_eq_append_iff.mp h
  obtain ⟨point, s, rfl, hpoint, h⟩ := List.map_eq_append_iff.mp h
  obtain ⟨u', times, rfl, hunit, htimes⟩ := List.map_eq_append_iff.mp h
  refine ⟨u', ?_, hunit⟩
  rw [eq_of_caseFixed (fun c hc => caseFixed_of_isDecimal (hm.whole c hc))
      (fun c hc => hs c (by simp [hc])) hwhole,
    eq_of_caseFixed (caseFixed_pointText hm) (fun c hc => hs c (by simp [hc])) hpoint,
    eq_of_caseFixed (caseFixed_timesText hm) (fun c hc => hs c (by simp [hc])) htimes]
  rfl

/-- The same up to case is the same in capitals. -/
theorem upperChar_eq_of_lower (h : c.toLower = d.toLower) : upperChar c = upperChar d := by
  have hnat := congrArg Char.toNat h
  rw [toNat_toLower, toNat_toLower] at hnat
  by_cases heq : c.toNat = d.toNat
  · rw [Char.toNat_inj.mp heq]
  · have hascii : ∀ e : Char, e.toNat < 128 → upperChar e = [e.toUpper] := by
      intro e he
      rcases upperChar_cases e with ⟨p, hp, hep, -⟩ | hupper
      · have := (upperSpecials_outside p hp).1
        rw [← hep] at this
        omega
      · exact hupper
    have hc : c.toNat < 128 := by split at hnat <;> split at hnat <;> omega
    have hd : d.toNat < 128 := by split at hnat <;> split at hnat <;> omega
    rw [hascii c hc, hascii d hd]
    congr 1
    refine Char.toNat_inj.mp ?_
    rw [toNat_toUpper, toNat_toUpper]
    split at hnat <;> split at hnat <;> split <;> split <;> omega

theorem flatMap_upperChar_eq_of_lower (h : s.map Char.toLower = t.map Char.toLower) :
    s.flatMap upperChar = t.flatMap upperChar := by
  induction s generalizing t with
  | nil =>
      cases t with
      | nil => rfl
      | cons d t => cases h
  | cons c s ih =>
      cases t with
      | nil => cases h
      | cons d t =>
          rw [List.map_cons, List.map_cons, List.cons.injEq] at h
          rw [List.flatMap_cons, List.flatMap_cons, upperChar_eq_of_lower h.1, ih h.2]

/-- The texts that are `t` up to case, when `t` is in small letters. -/
theorem mem_sections_of_toLower (h : s.map Char.toLower = t) :
    s ∈ (t.map fun d => [d, d.toUpper]).sections := by
  rw [List.mem_sections, List.forall₂_map_right_iff, ← h, List.forall₂_map_right_iff]
  exact List.forall₂_same.mpr fun c _ => by simpa using of_toLower_eq rfl

end Lower
end WmsDu
