import WmsDu.Barcode.Resolver

/-!
# When parsing a barcode raises

Every conversion but those of the check digits is guarded. These ask
`isdigit` and then read each character with `int`, which refuses the digits
that are not decimal; so exactly the codes that bring such a digit to a check
raise.
-/

namespace WmsDu

variable {s g : List Char} {c : Char}

/-- A text of digits, one of which `int` refuses. -/
def HasUnreadDigit (s : List Char) : Prop := isDigitText s = true ∧ ∃ c ∈ s, isDecimal c = false

/-- A code that brings such a text to a check digit: as a bare GTIN, or as
the GTIN in brackets. -/
def Unreadable (code : List Char) : Prop :=
  let s := stripText code
  (s.length ∈ [8, 12, 13] ∧ HasUnreadDigit s) ∨
    ('(' ∈ s ∧ ')' ∈ s ∧ ∃ g, aiGet (findAis 0 s) "01" = some g ∧ g.length ∈ [8, 12, 13, 14] ∧
      HasUnreadDigit (gtinCore g))

/-! ## The validators -/

/-- A validator answers unless it meets a digit that `int` refuses. -/
private theorem valid_ok_iff {valid : List Char → Except ValueError Bool} {n : Nat}
    (hno : ∀ g : List Char, isDigitText g = false → valid g = .ok false)
    (hdec : ∀ g : List Char, (∀ c ∈ g, isDecimal c = true) → g.length = n →
      valid g = .ok (decide (HasCheckDigit g)))
    (herr : ∀ g : List Char, isDigitText g = true → (∃ c ∈ g, isDecimal c = false) →
      g.length = n → ∃ e, valid g = .error e)
    (hlen : g.length = n) : (∃ b, valid g = .ok b) ↔ ¬ HasUnreadDigit g := by
  cases hd : isDigitText g with
  | false =>
      refine iff_of_true ⟨false, hno g hd⟩ fun h => ?_
      rw [h.1] at hd
      cases hd
  | true =>
      by_cases hbad : ∃ c ∈ g, isDecimal c = false
      · obtain ⟨e, he⟩ := herr g hd hbad hlen
        refine iff_of_false ?_ (not_not.mpr ⟨hd, hbad⟩)
        rintro ⟨b, hb⟩
        rw [he] at hb
        cases hb
      · refine iff_of_true ⟨_, hdec g (fun c hc => ?_) hlen⟩ fun h => hbad h.2
        by_contra hc'
        exact hbad ⟨c, hc, Bool.not_eq_true _ ▸ hc'⟩

theorem validEan13_ok_iff (hlen : g.length = 13) :
    (∃ b, validEan13 g = .ok b) ↔ ¬ HasUnreadDigit g :=
  valid_ok_iff (fun _ h => (valid_of_not_digits h).1) (fun _ => validEan13_decimal)
    (fun _ hd hbad => (valid_error hd hbad).1) hlen

theorem validUpc12_ok_iff (hlen : g.length = 12) :
    (∃ b, validUpc12 g = .ok b) ↔ ¬ HasUnreadDigit g :=
  valid_ok_iff (fun _ h => (valid_of_not_digits h).2.1) (fun _ => validUpc12_decimal)
    (fun _ hd hbad => (valid_error hd hbad).2.1) hlen

theorem validEan8_ok_iff (hlen : g.length = 8) :
    (∃ b, validEan8 g = .ok b) ↔ ¬ HasUnreadDigit g :=
  valid_ok_iff (fun _ h => (valid_of_not_digits h).2.2) (fun _ => validEan8_decimal)
    (fun _ hd hbad => (valid_error hd hbad).2.2) hlen

/-- A step that cannot fail after one that may. -/
private theorem bind_return_ok {α β : Type} {x : Except ValueError α} {f : α → β} :
    (∃ b, (x >>= fun a => return f a) = .ok b) ↔ ∃ a, x = .ok a := by
  cases x with
  | error e => exact iff_of_false (by rintro ⟨_, ⟨⟩⟩) (by rintro ⟨_, ⟨⟩⟩)
  | ok a => exact iff_of_true ⟨f a, rfl⟩ ⟨a, rfl⟩

theorem gtinKind_ok_iff :
    (∃ k, gtinKind s = .ok k) ↔ ¬ (s.length ∈ [8, 12, 13] ∧ HasUnreadDigit s) := by
  unfold gtinKind
  split
  · split
    · rename_i hlen
      rw [bind_return_ok, validEan8_ok_iff hlen]
      simp [hlen]
    split
    · rename_i hlen
      rw [bind_return_ok, validUpc12_ok_iff hlen]
      simp [hlen]
    split
    · rename_i hlen
      rw [bind_return_ok, validEan13_ok_iff hlen]
      simp [hlen]
    · rename_i h₈ h₁₂ h₁₃
      exact iff_of_true ⟨none, rfl⟩ (by simp [h₈, h₁₂, h₁₃])
  · rename_i hd
    exact iff_of_true ⟨none, rfl⟩ fun h => hd h.2.1

theorem keepGtin_ok_iff :
    (∃ k, keepGtin g = .ok k) ↔ ¬ (g.length ∈ [8, 12, 13, 14] ∧ HasUnreadDigit (gtinCore g)) := by
  unfold keepGtin
  split
  · rename_i h
    dsimp only
    simp only [h.2, true_and]
    split
    · exact bind_return_ok.trans (validEan13_ok_iff ‹_›)
    split
    · exact bind_return_ok.trans (validUpc12_ok_iff ‹_›)
    split
    · exact bind_return_ok.trans (validEan8_ok_iff ‹_›)
    · rename_i h₁₃ h₁₂ h₈
      -- a core has one of the three lengths
      have hlen := h.2
      simp only [List.mem_cons, List.not_mem_nil, or_false] at hlen
      unfold gtinCore at h₁₃ h₁₂ h₈
      split at h₁₃
      · rw [List.length_drop] at h₁₃
        omega
      · rw [if_neg ‹_›] at h₁₂ h₈
        omega
  · rename_i h
    refine iff_of_true ⟨_, rfl⟩ fun hbad => h ⟨?_, hbad.1⟩
    rintro rfl
    simp at hbad

theorem parseGs1_ok_iff : (∃ r, parseGs1 s = .ok r) ↔
    ¬ ∃ g, aiGet (findAis 0 s) "01" = some g ∧ g.length ∈ [8, 12, 13, 14] ∧
      HasUnreadDigit (gtinCore g) := by
  unfold parseGs1
  dsimp only
  split
  · rename_i hnil
    refine iff_of_true ⟨none, rfl⟩ ?_
    rintro ⟨g, hg, -⟩
    rw [hnil] at hg
    cases hg
  · cases hg : aiGet (findAis 0 s) "01" with
    | none => exact iff_of_true ⟨_, rfl⟩ (by rintro ⟨_, ⟨⟩, -⟩)
    | some g =>
        refine (bind_return_ok.trans keepGtin_ok_iff).trans (not_congr ⟨fun h => ⟨g, rfl, h⟩, ?_⟩)
        rintro ⟨g', hg', h⟩
        cases hg'
        exact h

/-! ## The SKU prefix -/

private theorem mem_dropWhile {p : Char → Bool} (h : c ∈ s) (hp : p c = false) :
    c ∈ s.dropWhile p := by
  rw [← List.takeWhile_append_dropWhile (p := p) (l := s)] at h
  rcases List.mem_append.mp h with h | h
  · rw [List.mem_takeWhile_imp h] at hp
    cases hp
  · exact h

theorem matchWord_append {w rest : List Char} (h : matchWord w s = some rest) :
    ∃ k, s = k ++ rest ∧ ∀ c ∈ k, ∃ p ∈ w, matchesLetter p c = true := by
  induction w generalizing s with
  | nil =>
      cases h
      exact ⟨[], rfl, fun _ hc => absurd hc List.not_mem_nil⟩
  | cons p w ih =>
      cases s with
      | nil => cases h
      | cons c s =>
          unfold matchWord at h
          split at h
          · rename_i hc
            obtain ⟨k, rfl, hk⟩ := ih h
            refine ⟨c :: k, rfl, List.forall_mem_cons.mpr ⟨⟨p, List.mem_cons_self, hc⟩, ?_⟩⟩
            intro d hd
            obtain ⟨q, hq, hqd⟩ := hk d hd
            exact ⟨q, List.mem_cons_of_mem _ hq, hqd⟩
          · cases h

theorem skuTail_chars {sku : List Char} (h : skuTail s = some sku) : ':' ∈ s ∧ '(' ∉ s := by
  unfold skuTail at h
  split at h
  · rename_i rest hcolon
    dsimp only at h
    split at h
    · rename_i hok
      constructor
      · exact (List.dropWhile_sublist _).mem (hcolon ▸ List.mem_cons_self)
      · intro hmem
        have hin := mem_dropWhile (p := isSpaceChar) hmem (by decide)
        rw [hcolon] at hin
        have hrest : '(' ∈ rest := (List.mem_cons.mp hin).resolve_left (by decide)
        have hend := mem_dropWhile (p := isCodeChar)
          (mem_dropWhile (p := isSpaceChar) hrest (by decide)) (by decide)
        exact absurd (List.all_eq_true.mp hok.2 _ hend) (by decide)
    · cases h
  · cases h

/-- A code with the prefix has a colon and no bracket that opens. -/
theorem skuPrefix_chars {sku : List Char} (h : skuPrefix s = some sku) : ':' ∈ s ∧ '(' ∉ s := by
  obtain ⟨w, hw, hfound⟩ := List.exists_of_findSome?_eq_some h
  obtain ⟨rest, hrest, htail⟩ := Option.bind_eq_some_iff.mp hfound
  obtain ⟨k, hk, hletters⟩ := matchWord_append hrest
  obtain ⟨hcolon, hbracket⟩ := skuTail_chars htail
  have hword : (w.toList.all fun p => !matchesLetter p '(') = true := by
    simp only [List.mem_cons, List.not_mem_nil, or_false] at hw
    rcases hw with rfl | rfl
    · decide
    · decide
  constructor
  · exact (List.dropWhile_sublist _).mem (hk ▸ List.mem_append_right _ hcolon)
  · intro hmem
    have hin := mem_dropWhile (p := isSpaceChar) hmem (by decide)
    rw [hk] at hin
    rcases List.mem_append.mp hin with hin | hin
    · obtain ⟨p, hp, hmatch⟩ := hletters _ hin
      have hno := List.all_eq_true.mp hword p hp
      rw [hmatch] at hno
      cases hno
    · exact hbracket hin

theorem not_mem_of_isDigitText (hd : isDigitText s = true) (hc : isDigitChar c = false) : c ∉ s := by
  intro hmem
  rw [(isDigitText_iff.mp hd).2 c hmem] at hc
  cases hc

/-! ## Parsing -/

theorem parsePlain_ok_iff {isAlnum : Char → Bool} {code : List Char} :
    (∃ p, parsePlain none isAlnum code s = .ok p) ↔
      ¬ (s.length ∈ [8, 12, 13] ∧ HasUnreadDigit s) := by
  rw [← gtinKind_ok_iff]
  unfold parsePlain
  cases hk : gtinKind s with
  | error e => exact iff_of_false (by rintro ⟨_, ⟨⟩⟩) (by rintro ⟨_, ⟨⟩⟩)
  | ok kind =>
      refine iff_of_true ?_ ⟨kind, rfl⟩
      cases kind with
      | some k => exact ⟨_, rfl⟩
      | none =>
          cases parseList isAlnum s with
          | some kv => exact ⟨kv, rfl⟩
          | none => exact ⟨unknownBarcode code, rfl⟩

/-- Once the brackets are dealt with only a bare GTIN can raise. -/
theorem parseUnbracketed_ok_iff {isAlnum : Char → Bool} {code : List Char} :
    (∃ p, parseUnbracketed none isAlnum code s = .ok p) ↔
      ¬ (s.length ∈ [8, 12, 13] ∧ HasUnreadDigit s) := by
  unfold parseUnbracketed
  split
  · rename_i gs1 hgs1
    -- a compact code is longer than a bare GTIN
    refine iff_of_true ⟨_, rfl⟩ fun h => ?_
    split at hgs1
    · rename_i hcompact
      simp only [looksCompact, Bool.and_eq_true, decide_eq_true_eq] at hcompact
      have hlen := h.1
      simp only [List.mem_cons, List.not_mem_nil, or_false] at hlen
      omega
    · cases hgs1
  · exact parsePlain_ok_iff

/-- **Parsing.** A code is parsed, whatever it is, unless it brings a digit
that is not decimal to a check digit. -/
theorem barcode_parsing (isAlnum : Char → Bool) (code : List Char) :
    (∃ p, parseBarcode none isAlnum code = .ok p) ↔ ¬ Unreadable code := by
  unfold parseBarcode Unreadable
  dsimp only
  generalize stripText code = s
  have hdigit : isDigitText s = true → '(' ∉ s := fun hd =>
    not_mem_of_isDigitText hd (by decide)
  split
  · rename_i hshort
    refine iff_of_true ⟨_, rfl⟩ ?_
    rintro (⟨hlen, -⟩ | ⟨hopen, hclose, -⟩)
    · simp only [List.mem_cons, List.not_mem_nil, or_false] at hlen
      omega
    · rcases s with _ | ⟨c, _ | ⟨d, rest⟩⟩
      · cases hopen
      · have h₁ := List.mem_singleton.mp hopen
        have h₂ := List.mem_singleton.mp hclose
        rw [← h₁] at h₂
        exact absurd h₂ (by decide)
      · simp at hshort
  split
  · rename_i sku hsku
    obtain ⟨hcolon, hbracket⟩ := skuPrefix_chars hsku
    refine iff_of_true ⟨_, rfl⟩ ?_
    rintro (⟨-, hd, -⟩ | ⟨hopen, -⟩)
    · exact not_mem_of_isDigitText hd (by decide) hcolon
    · exact hbracket hopen
  · by_cases hb : '(' ∈ s ∧ ')' ∈ s
    · rw [if_pos hb]
      cases hgs1 : parseGs1 s with
      | error e =>
          have herr : ¬ ∃ r, parseGs1 s = .ok r := by
            rintro ⟨r, hr⟩
            rw [hgs1] at hr
            cases hr
          refine iff_of_false (by rintro ⟨_, ⟨⟩⟩) (not_not.mpr (.inr ⟨hb.1, hb.2, ?_⟩))
          exact not_not.mp fun h => herr (parseGs1_ok_iff.mpr h)
      | ok r =>
          have hok := parseGs1_ok_iff.mp ⟨r, hgs1⟩
          have hplain : ¬ (s.length ∈ [8, 12, 13] ∧ HasUnreadDigit s) := fun h => hdigit h.2.1 hb.1
          refine iff_of_true ?_ ?_
          · cases r with
            | some gs1 => exact ⟨_, rfl⟩
            | none => exact parseUnbracketed_ok_iff.mpr hplain
          · rintro (h | ⟨-, -, h⟩)
            · exact hplain h
            · exact hok h
    · rw [if_neg hb]
      refine parseUnbracketed_ok_iff.trans (not_congr ?_)
      exact ⟨.inl, fun h => h.resolve_right fun h => hb ⟨h.1, h.2.1⟩⟩

/-- Eight digits, the last of them superscript. -/
theorem barcode_parsing_not :
    ¬ ∃ p, parseBarcode none Char.isAlphanum "1234567²".toList = .ok p := by
  have herror : parseBarcode none Char.isAlphanum "1234567²".toList =
      .error ⟨"invalid literal for int() with base 10: '²'"⟩ := by decide
  rw [herror]
  rintro ⟨_, ⟨⟩⟩

end WmsDu
