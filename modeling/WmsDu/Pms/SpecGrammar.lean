import Mathlib
import WmsDu.Pms.SpecText

/-!
# The grammar of specification texts

A pattern matches exactly the texts that put its groups around one of its
units. A text is made of one match and one unit only, so what the patterns
make of it is told by the unit.
-/

namespace WmsDu

/-! ## Texts -/

def pointText (fraction : List Char) : List Char := if fraction = [] then [] else '.' :: fraction

def timesText : Option (List Char) → List Char
  | none => []
  | some ds => 'X' :: ds

/-- The text of a match around a unit. -/
def SpecMatch.text (m : SpecMatch) (u : List Char) : List Char :=
  m.whole ++ (pointText m.fraction ++ (u ++ timesText m.times))

/-- The groups are runs of digits; only the fraction may be empty. -/
structure SpecMatch.Ok (m : SpecMatch) : Prop where
  whole_ne : m.whole ≠ []
  whole : ∀ c ∈ m.whole, isDecimal c = true
  fraction : ∀ c ∈ m.fraction, isDecimal c = true
  times : ∀ ds, m.times = some ds → ds ≠ [] ∧ ∀ c ∈ ds, isDecimal c = true

/-- A text that can stand for a unit. -/
structure IsUnit (u : List Char) : Prop where
  ne : u ≠ []
  plain : ∀ c ∈ u, isDecimal c = false ∧ c ≠ '.' ∧ c ≠ 'X'

theorem isDecimal_point : isDecimal '.' = false := by decide

theorem isDecimal_times : isDecimal 'X' = false := by decide

theorem pointText_nil : pointText [] = [] := if_pos rfl

theorem pointText_of_ne {fraction : List Char} (h : fraction ≠ []) :
    pointText fraction = '.' :: fraction := if_neg h

theorem timesText_injective {a b : Option (List Char)} (h : timesText a = timesText b) : a = b := by
  cases a with
  | none =>
      cases b with
      | none => rfl
      | some ds => cases h
  | some cs =>
      cases b with
      | none => cases h
      | some ds => rw [List.cons.inj h |>.2]

/-! ## Reading a text -/

section Reading
variable {s rest whole fraction u : List Char} {m n : SpecMatch}

/-- A run of digits is read up to what is no digit. -/
theorem takeWhile_digits {c : Char} (h : ∀ c ∈ whole, isDecimal c = true)
    (hc : isDecimal c = false) :
    (whole ++ c :: rest).takeWhile isDecimal = whole ∧
      (whole ++ c :: rest).dropWhile isDecimal = c :: rest := by
  rw [List.takeWhile_append_of_pos h, List.dropWhile_append_of_pos h,
    List.takeWhile_cons_of_neg (by simp [hc]), List.dropWhile_cons_of_neg (by simp [hc])]
  simp

theorem mem_takeWhile_digits : ∀ c ∈ s.takeWhile isDecimal, isDecimal c = true :=
  fun _ hc => List.mem_takeWhile_imp hc

/-- A number is read off the front of a text. -/
theorem matchNumber_text {c : Char} (hne : whole ≠ []) (hwhole : ∀ c ∈ whole, isDecimal c = true)
    (hfraction : ∀ c ∈ fraction, isDecimal c = true) (hc : isDecimal c = false) (hp : c ≠ '.') :
    matchNumber (whole ++ (pointText fraction ++ c :: rest)) = some (whole, fraction, c :: rest) := by
  unfold matchNumber
  by_cases hf : fraction = []
  · subst hf
    rw [pointText_nil, List.nil_append, (takeWhile_digits hwhole hc).1,
      (takeWhile_digits hwhole hc).2, if_neg hne]
    split
    next heq => exact absurd (List.cons.inj heq).1 hp
    next => rfl
  · rw [pointText_of_ne hf, List.cons_append, (takeWhile_digits hwhole isDecimal_point).1,
      (takeWhile_digits hwhole isDecimal_point).2, if_neg hne]
    simp only [(takeWhile_digits hfraction hc).1, (takeWhile_digits hfraction hc).2, if_neg hf]

theorem matchNumber_eq_some (h : matchNumber s = some (whole, fraction, rest)) :
    whole ≠ [] ∧ (∀ c ∈ whole, isDecimal c = true) ∧ (∀ c ∈ fraction, isDecimal c = true) ∧
      s = whole ++ (pointText fraction ++ rest) := by
  have hs := List.takeWhile_append_dropWhile (p := isDecimal) (l := s)
  unfold matchNumber at h
  split at h
  next => cases h
  next hne =>
    split at h
    next more hdrop =>
      split at h
      next => cases h
      next hf =>
        have hmore := List.takeWhile_append_dropWhile (p := isDecimal) (l := more)
        cases h
        refine ⟨hne, mem_takeWhile_digits, mem_takeWhile_digits, ?_⟩
        rw [pointText_of_ne hf, List.cons_append, hmore, ← hdrop, hs]
    next =>
      cases h
      refine ⟨hne, mem_takeWhile_digits, fun c hc => absurd hc List.not_mem_nil, ?_⟩
      rw [pointText_nil, List.nil_append, hs]

theorem matchTimes_eq_some {times : Option (List Char)} :
    matchTimes rest = some times ↔ rest = timesText times ∧
      ∀ ds, times = some ds → ds ≠ [] ∧ ∀ c ∈ ds, isDecimal c = true := by
  constructor
  · intro h
    unfold matchTimes at h
    split at h
    next =>
      cases h
      exact ⟨rfl, fun _ h => by cases h⟩
    next ds =>
      split at h
      next hds =>
        cases h
        refine ⟨rfl, fun es hes => ?_⟩
        obtain rfl := Option.some.inj hes
        exact ⟨hds.1, by simpa using hds.2⟩
      next => cases h
    next => cases h
  · rintro ⟨rfl, hok⟩
    cases times with
    | none => rfl
    | some ds =>
        obtain ⟨hne, hall⟩ := hok ds rfl
        unfold timesText matchTimes
        simp only
        rw [if_pos ⟨hne, by simpa using hall⟩]

theorem IsUnit.exists_head (h : IsUnit u) : ∃ c cs, u = c :: cs ∧ isDecimal c = false ∧ c ≠ '.' := by
  obtain ⟨c, cs, rfl⟩ := List.exists_cons_of_ne_nil h.ne
  obtain ⟨hc, hp, -⟩ := h.plain c List.mem_cons_self
  exact ⟨c, cs, rfl, hc, hp⟩

/-- The number of a text and what stands behind it. -/
theorem matchNumber_of_text (hm : m.Ok) (hu : IsUnit u) :
    matchNumber (m.text u) = some (m.whole, m.fraction, u ++ timesText m.times) := by
  obtain ⟨c, cs, rfl, hc, hp⟩ := hu.exists_head
  exact matchNumber_text hm.whole_ne hm.whole hm.fraction hc hp

/-- The unit ends where the multiplier starts. -/
theorem IsUnit.takeWhile (hu : IsUnit u) (times : Option (List Char)) :
    (u ++ timesText times).takeWhile (· ≠ 'X') = u := by
  rw [List.takeWhile_append_of_pos fun c hc => by simpa using (hu.plain c hc).2.2]
  cases times with
  | none => simp [timesText]
  | some ds => simp [timesText]

/-- A text is made of one match and one unit only. -/
theorem text_unique {u' : List Char} (hm : m.Ok) (hn : n.Ok) (hu : IsUnit u) (hu' : IsUnit u')
    (h : m.text u = n.text u') : m = n ∧ u = u' := by
  have hnumber := matchNumber_of_text hm hu
  rw [h, matchNumber_of_text hn hu'] at hnumber
  simp only [Option.some.injEq, Prod.mk.injEq] at hnumber
  obtain ⟨hwhole, hfraction, hrest⟩ := hnumber
  have hunit : u' = u := by rw [← hu'.takeWhile n.times, hrest, hu.takeWhile]
  subst hunit
  have htimes := timesText_injective (List.append_cancel_left hrest)
  cases m
  cases n
  exact ⟨by simp_all, rfl⟩

/-- The units of a pattern: none starts another. -/
structure Units (units : List (List Char)) : Prop where
  isUnit : ∀ u ∈ units, IsUnit u
  apart : ∀ u ∈ units, ∀ u' ∈ units, u <+: u' → u = u'

/-- **A pattern matches the texts of its units**, and reads the groups off. -/
theorem matchSpec_eq_some {units : List (List Char)} (hunits : Units units) :
    matchSpec units s = some m ↔ m.Ok ∧ ∃ u ∈ units, s = m.text u := by
  unfold matchSpec
  constructor
  · intro h
    obtain ⟨⟨whole, fraction, rest⟩, hnumber, h⟩ := Option.bind_eq_some_iff.mp h
    obtain ⟨after, hafter, h⟩ := Option.bind_eq_some_iff.mp h
    obtain ⟨times, htimes, rfl⟩ := Option.map_eq_some_iff.mp h
    obtain ⟨hne, hwhole, hfraction, rfl⟩ := matchNumber_eq_some hnumber
    obtain ⟨u, hu, hprefix⟩ := List.exists_of_findSome?_eq_some hafter
    obtain ⟨u', rfl, heq⟩ := List.dropPrefix?_eq_some_iff.mp hprefix
    obtain rfl := eq_of_beq heq
    obtain ⟨rfl, hok⟩ := matchTimes_eq_some.mp htimes
    exact ⟨⟨hne, hwhole, hfraction, hok⟩, u', hu, rfl⟩
  · rintro ⟨hm, u, hu, rfl⟩
    have hfind : (units.findSome? fun u' => (u ++ timesText m.times).dropPrefix? u') =
        some (timesText m.times) := by
      have hsome : (u ++ timesText m.times).dropPrefix? u = some (timesText m.times) :=
        List.dropPrefix?_eq_some_iff.mpr ⟨u, rfl, by simp⟩
      cases hf : units.findSome? fun u' => (u ++ timesText m.times).dropPrefix? u' with
      | none =>
          have hnone := List.findSome?_eq_none_iff.mp hf u hu
          rw [hsome] at hnone
          cases hnone
      | some after =>
          -- the unit that was found and the unit of the text start alike
          obtain ⟨u', hu', hprefix⟩ := List.exists_of_findSome?_eq_some hf
          obtain ⟨v, hv, heq⟩ := List.dropPrefix?_eq_some_iff.mp hprefix
          obtain rfl := eq_of_beq heq
          have hsame : u = v := by
            rcases List.prefix_or_prefix_of_prefix (List.prefix_append u (timesText m.times))
              (hv ▸ List.prefix_append v after) with h | h
            · exact hunits.apart u hu v hu' h
            · exact (hunits.apart v hu' u hu h).symm
          subst hsame
          rw [List.append_cancel_left hv]
    rw [matchNumber_of_text hm (hunits.isUnit u hu)]
    simp only [Option.bind_some, hfind, matchTimes_eq_some.mpr ⟨rfl, hm.times⟩, Option.map_some]

/-- What a pattern makes of a text whose unit is known. -/
theorem matchSpec_text {units : List (List Char)} (hunits : Units units) (hm : m.Ok)
    (hu : IsUnit u) : matchSpec units (m.text u) = if u ∈ units then some m else none := by
  split
  next hmem => exact (matchSpec_eq_some hunits).mpr ⟨hm, u, hmem, rfl⟩
  next hmem =>
    rw [Option.eq_none_iff_forall_ne_some]
    intro n hn
    obtain ⟨hok, u', hu', heq⟩ := (matchSpec_eq_some hunits).mp hn
    obtain ⟨-, rfl⟩ := text_unique hm hok hu (hunits.isUnit u' hu') heq
    exact hmem hu'

end Reading

/-! ## The units -/

/-- The kilogram in one capital and one small letter, which no pattern knows. -/
def mixedUnits : List (List Char) := [['K', 'g'], ['k', 'G']]

theorem unitChars_plain : ∀ c ∈ ['k', 'K', 'g', 'G', '千', '克', 'l', 'L', '升'],
    isDecimal c = false ∧ c ≠ '.' ∧ c ≠ 'X' := by
  intro c hc
  fin_cases hc <;> decide

/-- Lists of units in which no unit starts another. -/
theorem units_of_chars {units : List (List Char)}
    (hne : ∀ u ∈ units, u ≠ [] ∧ u ⊆ ['k', 'K', 'g', 'G', '千', '克', 'l', 'L', '升'])
    (hapart : ∀ u ∈ units, ∀ u' ∈ units, u <+: u' → u = u') : Units units where
  isUnit u hu := ⟨(hne u hu).1, fun c hc => unitChars_plain c ((hne u hu).2 hc)⟩
  apart := hapart

theorem units_kilogram : Units kilogramUnits := units_of_chars (by decide) (by decide)

theorem units_gram : Units gramUnits := units_of_chars (by decide) (by decide)

theorem units_litre : Units litreUnits := units_of_chars (by decide) (by decide)

theorem units_mixed : Units mixedUnits := units_of_chars (by decide) (by decide)

end WmsDu
