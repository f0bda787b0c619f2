import Mathlib.Data.List.DropRight

/-!
# Text normalisation

The string helpers the services share. Python's `str.strip`, `str.upper` and
`str.lower` are written on character lists; case mapping is the ASCII one,
the only one the codes of this program use.
-/

namespace WmsDu

/-- The characters `str.strip` removes. -/
def isSpaceChar (c : Char) : Bool :=
  let n := c.toNat
  (9 ≤ n && n ≤ 13) || (28 ≤ n && n ≤ 32) || n == 0x85 || n == 0xa0 || n == 0x1680 ||
    (0x2000 ≤ n && n ≤ 0x200a) || n == 0x2028 || n == 0x2029 || n == 0x202f || n == 0x205f ||
    n == 0x3000

/-- `str.strip`. -/
def strip (s : String) : String :=
  String.ofList (((s.toList.dropWhile isSpaceChar).reverse.dropWhile isSpaceChar).reverse)

private theorem toList_strip (s : String) :
    (strip s).toList = ((s.toList.dropWhile isSpaceChar).reverse.dropWhile isSpaceChar).reverse := by
  rw [strip, String.toList_ofList]

private theorem strip_eq_empty {s : String} (h : strip s = "") :
    ∀ c ∈ s.toList, isSpaceChar c = true := by
  have hl : ((s.toList.dropWhile isSpaceChar).reverse.dropWhile isSpaceChar).reverse = [] := by
    rw [← toList_strip, h]
    rfl
  rw [List.reverse_eq_nil_iff, List.dropWhile_eq_nil_iff] at hl
  cases hm : s.toList.dropWhile isSpaceChar with
  | nil => exact List.dropWhile_eq_nil_iff.mp hm
  | cons c cs =>
      -- the first character kept is not a space
      have hc := List.head_dropWhile_not isSpaceChar (l := s.toList)
        (by rw [hm]; exact List.cons_ne_nil _ _)
      simp only [hm, List.head_cons] at hc
      have hc' := hl c (by rw [hm]; simp)
      rw [hc] at hc'
      cases hc'

/-- Stripping leaves nothing exactly of a text of spaces. -/
theorem strip_eq_empty_iff {s : String} : strip s = "" ↔ ∀ c ∈ s.toList, isSpaceChar c = true := by
  refine ⟨strip_eq_empty, fun h => ?_⟩
  rw [strip, List.dropWhile_eq_nil_iff.mpr h]
  rfl

theorem mem_toList_strip {s : String} {c : Char} (h : c ∈ (strip s).toList) : c ∈ s.toList := by
  rw [toList_strip, List.mem_reverse] at h
  have hfront := (List.dropWhile_sublist isSpaceChar).mem h
  exact (List.dropWhile_sublist isSpaceChar).mem (List.mem_reverse.mp hfront)

/-- What is not blank after stripping stays so when stripped again. -/
theorem strip_strip_ne {s : String} (h : strip s ≠ "") : strip (strip s) ≠ "" := by
  intro hblank
  have hall := strip_eq_empty hblank
  rw [toList_strip] at hall
  cases hm : (s.toList.dropWhile isSpaceChar).reverse.dropWhile isSpaceChar with
  | nil =>
      refine h ?_
      rw [strip, hm]
      rfl
  | cons c cs =>
      have hc := List.head_dropWhile_not isSpaceChar
        (l := (s.toList.dropWhile isSpaceChar).reverse)
        (by rw [hm]; exact List.cons_ne_nil _ _)
      simp only [hm, List.head_cons] at hc
      have hc' := hall c (by rw [hm]; simp)
      rw [hc] at hc'
      cases hc'

/-- A stripped text stays as it is. -/
theorem strip_strip (s : String) : strip (strip s) = strip s := by
  have hback : ∀ l : List Char, (l.reverse.dropWhile isSpaceChar).reverse =
      l.rdropWhile isSpaceChar := fun _ => rfl
  rw [strip, toList_strip, strip, hback, hback]
  -- what is left of the front stays when the back is stripped
  have hfront : ((s.toList.dropWhile isSpaceChar).rdropWhile isSpaceChar).dropWhile isSpaceChar =
      (s.toList.dropWhile isSpaceChar).rdropWhile isSpaceChar := by
    rw [List.dropWhile_eq_self_iff]
    intro hlen
    obtain ⟨tail, htail⟩ := List.rdropWhile_prefix isSpaceChar (s.toList.dropWhile isSpaceChar)
    have hne : 0 < (s.toList.dropWhile isSpaceChar).length := by
      rw [← htail, List.length_append]
      omega
    have hhead := List.dropWhile_get_zero_not isSpaceChar s.toList hne
    simp only [List.get_eq_getElem] at hhead ⊢
    have hsame : ∀ (m r : List Char) (hr : 0 < r.length) (hm : 0 < m.length), r ++ tail = m →
        m[0] = r[0] := by
      rintro _ r hr _ rfl
      exact List.getElem_append_left hr
    rwa [hsame _ _ hlen hne htail] at hhead
  rw [hfront, List.rdropWhile_idempotent]

/-- A stripped text ends in no blank. -/
theorem rdropWhile_strip (s : String) :
    (strip s).toList.rdropWhile isSpaceChar = (strip s).toList := by
  rw [toList_strip]
  exact List.rdropWhile_idempotent _ _

/-- A stripped text has no character the text has not. -/
theorem mem_strip {c : Char} {s : String} (h : c ∈ (strip s).toList) : c ∈ s.toList := by
  rw [toList_strip] at h
  exact List.dropWhile_subset _ (List.mem_reverse.mp (List.dropWhile_subset _
    (List.mem_reverse.mp h)))

/-- `str.upper`. -/
def upper (s : String) : String := String.ofList (s.toList.map Char.toUpper)

private theorem not_lower_toUpper (c : Char) :
    ¬ ('a'.val ≤ c.toUpper.val ∧ c.toUpper.val ≤ 'z'.val) := by
  unfold Char.toUpper
  split
  · rename_i h
    have h₁ : 97 ≤ c.val.toNat := UInt32.le_iff_toNat_le.mp h.1
    have h₂ : c.val.toNat ≤ 122 := UInt32.le_iff_toNat_le.mp h.2
    intro hlow
    have hlow' : 97 ≤ (c.val + ('A'.val - 'a'.val)).toNat := UInt32.le_iff_toNat_le.mp hlow.1
    have hval : ('A'.val - 'a'.val).toNat = 4294967264 := by decide
    rw [UInt32.toNat_add, hval] at hlow'
    omega
  · assumption

private theorem toUpper_toUpper (c : Char) : c.toUpper.toUpper = c.toUpper := by
  show (if h : _ then _ else c.toUpper) = c.toUpper
  exact dif_neg (not_lower_toUpper c)

/-- An upper-case text stays as it is. -/
theorem upper_upper (s : String) : upper (upper s) = upper s := by
  unfold upper
  rw [String.toList_ofList, List.map_map]
  congr 2
  exact funext toUpper_toUpper

/-- Stripping an upper-case text leaves it upper-case. -/
theorem upper_strip_upper (s : String) : upper (strip (upper s)) = strip (upper s) := by
  have hfix : ∀ c ∈ (strip (upper s)).toList, c.toUpper = c := by
    intro c hc
    have hmem := mem_strip hc
    rw [upper, String.toList_ofList] at hmem
    obtain ⟨d, -, rfl⟩ := List.mem_map.mp hmem
    exact toUpper_toUpper d
  conv_rhs => rw [← String.ofList_toList (s := strip (upper s)), ← List.map_id (strip (upper s)).toList]
  rw [upper]
  exact congrArg String.ofList (List.map_congr_left hfix)

/-- `str.lower`. -/
def lower (s : String) : String := String.ofList (s.toList.map Char.toLower)

/-! ## Case -/

theorem toNat_toUpper (c : Char) :
    c.toUpper.toNat = if 97 ≤ c.toNat ∧ c.toNat ≤ 122 then c.toNat - 32 else c.toNat := by
  have hrange : ('a'.val ≤ c.val ∧ c.val ≤ 'z'.val) ↔ (97 ≤ c.toNat ∧ c.toNat ≤ 122) :=
    and_congr UInt32.le_iff_toNat_le UInt32.le_iff_toNat_le
  unfold Char.toUpper
  split
  · rename_i h
    have h' := hrange.mp h
    rw [if_pos h']
    show (c.val + ('A'.val - 'a'.val)).toNat = c.val.toNat - 32
    have hval : ('A'.val - 'a'.val).toNat = 4294967264 := by decide
    have hnat : c.toNat = c.val.toNat := rfl
    rw [UInt32.toNat_add, hval]
    omega
  · rename_i h
    rw [if_neg fun h' => h (hrange.mpr h')]

theorem toNat_toLower (c : Char) :
    c.toLower.toNat = if 65 ≤ c.toNat ∧ c.toNat ≤ 90 then c.toNat + 32 else c.toNat := by
  have hrange : ('A'.val ≤ c.val ∧ c.val ≤ 'Z'.val) ↔ (65 ≤ c.toNat ∧ c.toNat ≤ 90) :=
    and_congr UInt32.le_iff_toNat_le UInt32.le_iff_toNat_le
  unfold Char.toLower
  split
  · rename_i h
    have h' := hrange.mp h
    rw [if_pos h']
    show (c.val + ('a'.val - 'A'.val)).toNat = c.val.toNat + 32
    have hval : ('a'.val - 'A'.val).toNat = 32 := by decide
    have hnat : c.toNat = c.val.toNat := rfl
    rw [UInt32.toNat_add, hval]
    omega
  · rename_i h
    rw [if_neg fun h' => h (hrange.mpr h')]

/-- What differs from a character that is not a lower-case letter by its case
only has it as its upper case. -/
theorem toUpper_eq_of_toLower_eq {c d : Char} (hd : ¬ (97 ≤ d.toNat ∧ d.toNat ≤ 122))
    (h : c.toLower = d.toLower) : c.toUpper = d := by
  have hnat := congrArg Char.toNat h
  rw [toNat_toLower, toNat_toLower] at hnat
  refine Char.toNat_inj.mp ?_
  rw [toNat_toUpper]
  split at hnat <;> split at hnat <;> split <;> omega

/-- A text without lower-case letters is the upper case of what differs from
it by case only. -/
theorem upper_eq_of_lower_eq {s t : String}
    (ht : ∀ d ∈ t.toList, ¬ (97 ≤ d.toNat ∧ d.toNat ≤ 122)) (h : lower s = lower t) :
    upper s = t := by
  have hlist : s.toList.map Char.toLower = t.toList.map Char.toLower := String.ofList_injective h
  rw [upper, ← String.ofList_toList (s := t)]
  congr 1
  generalize s.toList = cs at hlist
  generalize t.toList = ds at hlist ht
  induction cs generalizing ds with
  | nil =>
      cases ds with
      | nil => rfl
      | cons d ds => cases hlist
  | cons c cs ih =>
      cases ds with
      | nil => cases hlist
      | cons d ds =>
          rw [List.map_cons, List.map_cons, List.cons.injEq] at hlist
          rw [List.forall_mem_cons] at ht
          rw [List.map_cons, toUpper_eq_of_toLower_eq ht.1 hlist.1, ih ds hlist.2 ht.2]

/-- A text without blanks is not stripped. -/
theorem strip_eq_self {s : String} (h : ∀ c ∈ s.toList, isSpaceChar c = false) : strip s = s := by
  have hkeep : ∀ cs : List Char, (∀ c ∈ cs, isSpaceChar c = false) →
      cs.dropWhile isSpaceChar = cs := by
    intro cs hcs
    cases cs with
    | nil => rfl
    | cons c cs => exact List.dropWhile_cons_of_neg (by simp [hcs c List.mem_cons_self])
  rw [strip, hkeep _ h, hkeep _ fun c hc => h c (List.mem_reverse.mp hc), List.reverse_reverse,
    String.ofList_toList]

/-- `s.split(sep)` for a separator of one character. -/
def splitOnChar (sep : Char) (s : String) : List String :=
  (s.toList.splitOn sep).map String.ofList

/-- `sep.join(parts)`. -/
def joinWith (sep : Char) (parts : List String) : String :=
  String.ofList ([sep].intercalate (parts.map String.toList))

private theorem not_mem_splitOn (sep : Char) (cs : List Char) :
    ∀ l ∈ cs.splitOn sep, sep ∉ l := by
  induction cs with
  | nil => simp
  | cons c cs ih =>
      rw [List.splitOn_cons_eq_if_modifyHead]
      split
      · intro l hl
        rcases List.mem_cons.mp hl with rfl | hl
        · exact List.not_mem_nil
        · exact ih l hl
      · rename_i hne
        cases hs : cs.splitOn sep with
        | nil => simp
        | cons head tail =>
            rw [hs] at ih
            rw [List.modifyHead_cons]
            intro l hl
            rcases List.mem_cons.mp hl with rfl | hl
            · rw [List.mem_cons, not_or]
              refine ⟨fun heq => hne (by simp [heq]), ih head List.mem_cons_self⟩
            · exact ih l (List.mem_cons_of_mem _ hl)

/-- A part of a split text does not contain the separator. -/
theorem not_mem_splitOnChar {sep : Char} {s part : String} (h : part ∈ splitOnChar sep s) :
    sep ∉ part.toList := by
  obtain ⟨l, hl, rfl⟩ := List.mem_map.mp h
  rw [String.toList_ofList]
  exact not_mem_splitOn sep _ l hl

/-- Joining what was split gives the text back. -/
theorem joinWith_splitOnChar (sep : Char) (s : String) : joinWith sep (splitOnChar sep s) = s := by
  have hmap : (s.toList.splitOn sep).map (String.toList ∘ String.ofList) = s.toList.splitOn sep := by
    conv_rhs => rw [← List.map_id (s.toList.splitOn sep)]
    refine List.map_congr_left fun l _ => ?_
    rw [Function.comp, String.toList_ofList, id]
  rw [joinWith, splitOnChar, List.map_map, hmap, List.intercalate_splitOn, String.ofList_toList]

/-- A split takes off the field before the first separator. -/
theorem splitOnChar_append {sep : Char} {field rest : String} (h : sep ∉ field.toList) :
    splitOnChar sep (field ++ String.singleton sep ++ rest) = field :: splitOnChar sep rest := by
  have hlist : (field ++ String.singleton sep ++ rest).toList =
      field.toList ++ sep :: rest.toList := by simp
  rw [splitOnChar, hlist, List.splitOn_append_cons_self_of_not_mem h, List.map_cons,
    String.ofList_toList]
  rfl

/-- What `strip` keeps behind a character that is not a space. -/
theorem strip_append_nonspace {front back : String} {c : Char} (hfront : ∃ d ds,
    front.toList = d :: ds ∧ isSpaceChar d = false) (hc : isSpaceChar c = false) :
    (strip (front ++ String.singleton c ++ back)).toList =
      front.toList ++ c :: back.toList.rdropWhile isSpaceChar := by
  obtain ⟨d, ds, hd, hspace⟩ := hfront
  have hlist : (front ++ String.singleton c ++ back).toList =
      front.toList ++ c :: back.toList := by simp
  have hhead : (front.toList ++ c :: back.toList).dropWhile isSpaceChar =
      front.toList ++ c :: back.toList := by
    rw [hd, List.cons_append, List.dropWhile_cons_of_neg (by simp [hspace])]
  have hback : (back.toList.reverse ++ c :: front.toList.reverse).dropWhile isSpaceChar =
      back.toList.reverse.dropWhile isSpaceChar ++ c :: front.toList.reverse := by
    rw [List.dropWhile_append]
    split
    · rename_i hempty
      rw [List.isEmpty_iff.mp hempty, List.dropWhile_cons_of_neg (by simp [hc]), List.nil_append]
    · rfl
  have hreverse : (front.toList ++ c :: back.toList).reverse =
      back.toList.reverse ++ c :: front.toList.reverse := by simp
  rw [toList_strip, hlist, hhead, hreverse, hback]
  simp [List.rdropWhile]

/-- `s or None`: the empty string counts as absent. -/
def orNone (s : String) : Option String := if s = "" then none else some s

/-- `_clean_text`: strip, and drop what is then empty. -/
def cleanText (value : Option String) : Option String :=
  value.bind (fun s => orNone (strip s))

/-- A cleaned text is a stripped one that is not blank. -/
theorem cleanText_eq_some {value : Option String} {t : String} (h : cleanText value = some t) :
    ∃ s, value = some s ∧ t = strip s ∧ strip s ≠ "" := by
  cases value with
  | none => cases h
  | some s =>
      simp only [cleanText, Option.bind_some, orNone] at h
      split at h <;> cases h
      rename_i hne
      exact ⟨s, rfl, rfl, hne⟩

/-- A cleaned text is still there when it is stripped and cleaned again. -/
theorem cleanText_strip {value : Option String} {t : String} (h : cleanText value = some t) :
    cleanText (some (strip t)) ≠ none := by
  obtain ⟨s, -, rfl, hne⟩ := cleanText_eq_some h
  simp only [cleanText, Option.bind_some, orNone]
  rw [if_neg (strip_strip_ne (strip_strip_ne hne))]
  exact nofun

/-- `norm_lot_code`: a blank code and the word none are no code. -/
def normLotCode (lotCode : Option String) : Option String :=
  match lotCode with
  | none => none
  | some raw =>
      let s := strip raw
      if s = "" ∨ lower s = "none" then none else some s

@[simp] theorem normLotCode_none : normLotCode none = none := rfl

example : normLotCode (some "  None ") = none := by decide

example : normLotCode (some " LOT-1 ") = some "LOT-1" := by decide

end WmsDu
