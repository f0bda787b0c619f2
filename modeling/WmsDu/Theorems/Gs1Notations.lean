import WmsDu.Theorems.BarcodeParsing
import WmsDu.Theorems.CheckDigits

/-!
# The two notations of GS1

A code in brackets is taken apart by a regular expression and its GTIN is
checked; the compact one is read by a cursor and nothing is checked. They
answer alike exactly when the GTIN passes the check of the brackets.
-/

namespace WmsDu

variable {s v rest : List Char} {a b c : Char}

/-! ## The codes -/

/-- `(01)G(17)E(10)B` -/
def bracketedCode (gtin : List Char) (expiry batch : Option (List Char)) : List Char :=
  ['(', '0', '1', ')'] ++ gtin ++ (expiry.elim [] fun e => ['(', '1', '7', ')'] ++ e) ++
    batch.elim [] fun b => ['(', '1', '0', ')'] ++ b

/-- `01G17E10B` -/
def compactCode (gtin : List Char) (expiry batch : Option (List Char)) : List Char :=
  ['0', '1'] ++ gtin ++ (expiry.elim [] fun e => ['1', '7'] ++ e) ++
    batch.elim [] fun b => ['1', '0'] ++ b

/-- The parts of a code: a GTIN of fourteen digits, an expiry date of six, a
batch without brackets or blanks around it. -/
structure Gs1Parts (gtin : List Char) (expiry batch : Option (List Char)) : Prop where
  gtinDigits : ∀ c ∈ gtin, isDecimal c = true
  gtinLength : gtin.length = 14
  expiryDigits : ∀ e, expiry = some e → (∀ c ∈ e, isDecimal c = true) ∧ e.length = 6
  batchText : ∀ b, batch = some b → '(' ∉ b ∧ ')' ∉ b ∧ stripText b = b

/-! ## Stripping -/

/-- No blank at the end. -/
def EndsPlain (s : List Char) : Prop := ∀ c, s.getLast? = some c → isSpaceChar c = false

theorem stripText_of_plain (hhead : isSpaceChar c = false) (hend : EndsPlain (c :: s)) :
    stripText (c :: s) = c :: s := by
  show ((c :: s).dropWhile isSpaceChar).rdropWhile isSpaceChar = _
  rw [List.dropWhile_cons_of_neg (by simp [hhead]), List.rdropWhile_eq_self_iff]
  intro hne hspace
  rw [hend _ (List.getLast?_eq_some_getLast hne)] at hspace
  cases hspace

theorem endsPlain_of_stripText (h : stripText s = s) : EndsPlain s := by
  have hback : s.rdropWhile isSpaceChar = s := by
    have hwhole : (s.dropWhile isSpaceChar).rdropWhile isSpaceChar = s := h
    have hlen : s.length ≤ (s.dropWhile isSpaceChar).length := by
      conv_lhs => rw [← hwhole]
      exact (List.rdropWhile_prefix _ _).length_le
    rwa [(List.dropWhile_sublist _).eq_of_length_le hlen] at hwhole
  intro c hc
  rw [List.rdropWhile_eq_self_iff] at hback
  have hne : s ≠ [] := by
    rintro rfl
    cases hc
  rw [List.getLast?_eq_some_getLast hne] at hc
  cases hc
  simpa using hback hne

theorem EndsPlain.append (hs : EndsPlain s) (hv : EndsPlain v) : EndsPlain (s ++ v) := by
  intro c hc
  rw [List.getLast?_append] at hc
  rcases Option.or_eq_some_iff.mp hc with hc | ⟨-, hc⟩
  · exact hv c hc
  · exact hs c hc

private theorem decimalZeros_plain :
    (decimalZeros.all fun z => (List.range 10).all fun k => !isSpaceChar (Char.ofNat (z + k))) =
      true := by
  decide +kernel

/-- A decimal digit is no blank. -/
theorem isSpaceChar_of_isDecimal (h : isDecimal c = true) : isSpaceChar c = false := by
  obtain ⟨_, hv⟩ := Option.isSome_iff_exists.mp h
  obtain ⟨z, hz, -⟩ := Option.map_eq_some_iff.mp hv
  have hrange : z ≤ c.toNat ∧ c.toNat < z + 10 := by simpa using List.find?_some hz
  have hplain := List.all_eq_true.mp
    (List.all_eq_true.mp decimalZeros_plain z (List.mem_of_find?_eq_some hz)) (c.toNat - z)
    (List.mem_range.mpr (by omega))
  rw [Nat.add_sub_cancel' hrange.1, Char.ofNat_toNat] at hplain
  simpa using hplain

theorem endsPlain_of_decimal (h : ∀ c ∈ s, isDecimal c = true) : EndsPlain s := fun c hc =>
  isSpaceChar_of_isDecimal (h c (List.mem_of_getLast? hc))

theorem stripText_of_decimal (h : ∀ c ∈ s, isDecimal c = true) : stripText s = s := by
  cases s with
  | nil => rfl
  | cons c s =>
      exact stripText_of_plain (isSpaceChar_of_isDecimal (h c List.mem_cons_self))
        (endsPlain_of_decimal h)

theorem not_mem_of_decimal (h : ∀ c ∈ s, isDecimal c = true) (hc : isDecimal c = false) :
    c ∉ s := fun hmem => by
  rw [h c hmem] at hc
  cases hc

/-! ## Taking the brackets apart -/

theorem findAis_skip (v : List Char) : findAis v.length (v ++ rest) = findAis 0 rest := by
  induction v with
  | nil => rfl
  | cons c v ih => exact ih

/-- One field, up to the next bracket that opens. -/
theorem findAis_field (ha : isDecimal a = true) (hb : isDecimal b = true) (hne : v ≠ [])
    (hv : '(' ∉ v) (hrest : rest.head? = none ∨ rest.head? = some '(') :
    findAis 0 ('(' :: a :: b :: ')' :: (v ++ rest)) = ([a, b], v) :: findAis 0 rest := by
  have htake : (v ++ rest).takeWhile (fun c => c ≠ '(') = v := by
    have hinside : ∀ c ∈ v, decide (c ≠ '(') = true := by
      intro c hc
      refine decide_eq_true ?_
      rintro rfl
      exact hv hc
    rw [List.takeWhile_append_of_pos hinside]
    cases rest with
    | nil => simp
    | cons c rest =>
        have hc : c = '(' := by simpa using hrest
        simp [hc]
  have hmatch : matchAi ('(' :: a :: b :: ')' :: (v ++ rest)) = some ([a, b], v) := by
    unfold matchAi
    simp only [htake, ha, hb, Bool.true_and]
    simp [hne]
  rw [findAis, hmatch]
  dsimp only
  rw [Nat.add_comm 3 v.length]
  exact congrArg _ (findAis_skip (a :: b :: ')' :: v))

theorem truthy_some (hv : v ≠ []) : truthy (some v) = some v := by simp [truthy, Option.filter, hv]

variable {gtin : List Char} {expiry batch : Option (List Char)}

/-- What comes before a field is followed by a bracket or by nothing. -/
private theorem head?_field (o : Option (List Char)) (w : List Char) :
    (o.elim [] fun b => ('(' :: w) ++ b).head? = none ∨
      (o.elim [] fun b => ('(' :: w) ++ b).head? = some '(' := by
  cases o with
  | none => exact .inl rfl
  | some b => exact .inr rfl

/-- The fields of a bracketed code. -/
theorem findAis_bracketed (h : Gs1Parts gtin expiry batch) :
    findAis 0 (bracketedCode gtin expiry batch) =
      (['0', '1'], gtin) :: ((expiry.elim [] fun e => [(['1', '7'], e)]) ++
        (truthy batch).elim [] fun b => [(['1', '0'], b)]) := by
  have hopen : isDecimal '(' = false := by decide
  have hbatch : findAis 0 (batch.elim [] fun b => ['(', '1', '0', ')'] ++ b) =
      (truthy batch).elim [] fun b => [(['1', '0'], b)] := by
    cases batch with
    | none => rfl
    | some b =>
        by_cases hb : b = []
        · subst hb
          decide
        · have hfield := findAis_field (a := '1') (b := '0') (by decide) (by decide) hb
            (h.batchText b rfl).1 (.inl List.head?_nil)
          rw [List.append_nil] at hfield
          rw [truthy_some hb]
          exact hfield
  have hexpiry : findAis 0 ((expiry.elim [] fun e => ['(', '1', '7', ')'] ++ e) ++
      batch.elim [] fun b => ['(', '1', '0', ')'] ++ b) =
      (expiry.elim [] fun e => [(['1', '7'], e)]) ++
        (truthy batch).elim [] fun b => [(['1', '0'], b)] := by
    cases expiry with
    | none => exact hbatch
    | some e =>
        obtain ⟨hdigits, hlen⟩ := h.expiryDigits e rfl
        have hne : e ≠ [] := by
          rintro rfl
          cases hlen
        have hfield := findAis_field (a := '1') (b := '7') (by decide) (by decide) hne
          (not_mem_of_decimal hdigits hopen) (head?_field batch ['1', '0', ')'])
        rw [hbatch] at hfield
        exact hfield
  have hne : gtin ≠ [] := by
    rintro rfl
    cases h.gtinLength
  have hnext : ((expiry.elim [] fun e => ['(', '1', '7', ')'] ++ e) ++
      batch.elim [] fun b => ['(', '1', '0', ')'] ++ b).head? = none ∨
      ((expiry.elim [] fun e => ['(', '1', '7', ')'] ++ e) ++
        batch.elim [] fun b => ['(', '1', '0', ')'] ++ b).head? = some '(' := by
    cases expiry with
    | none => exact head?_field batch ['1', '0', ')']
    | some e => exact .inr rfl
  have hfield := findAis_field (a := '0') (b := '1') (by decide) (by decide) hne
    (not_mem_of_decimal h.gtinDigits hopen) hnext
  rw [hexpiry] at hfield
  rw [bracketedCode, List.append_assoc, List.append_assoc]
  exact hfield

/-- The values read off the fields. -/
theorem aiGet_bracketed (h : Gs1Parts gtin expiry batch) :
    aiGet (findAis 0 (bracketedCode gtin expiry batch)) "01" = some gtin ∧
      aiGet (findAis 0 (bracketedCode gtin expiry batch)) "17" = expiry ∧
      aiGet (findAis 0 (bracketedCode gtin expiry batch)) "10" = truthy batch := by
  rw [findAis_bracketed h]
  have hgtin := stripText_of_decimal h.gtinDigits
  have hexpiry : ∀ e, expiry = some e → stripText e = e := fun e he =>
    stripText_of_decimal (h.expiryDigits e he).1
  have hbatch : ∀ b, truthy batch = some b → stripText b = b := fun b hb =>
    (h.batchText b (Option.filter_eq_some_iff.mp hb).1).2.2
  generalize truthy batch = kept at hbatch
  cases expiry with
  | none =>
      cases kept with
      | none => simp [aiGet, hgtin]
      | some b => simp [aiGet, hgtin, hbatch b rfl]
  | some e =>
      cases kept with
      | none => simp [aiGet, hgtin, hexpiry e rfl]
      | some b => simp [aiGet, hgtin, hexpiry e rfl, hbatch b rfl]

/-! ## Moving the cursor -/

section Cursor
variable {f : CompactFields}

theorem compactLoop_nil : compactLoop [] f = some f := by
  rw [compactLoop]
  rintro _ _ _ ⟨⟩

theorem compactLoop_gtin (hlen : v.length = 14) :
    compactLoop ('0' :: '1' :: (v ++ rest)) f = compactLoop rest { f with gtin := some v } := by
  rw [compactLoop, if_pos (by decide), if_neg (by rw [List.length_append]; omega),
    List.take_left' hlen, List.drop_left' hlen]

theorem compactLoop_expiry (hlen : v.length = 6) :
    compactLoop ('1' :: '7' :: (v ++ rest)) f =
      compactLoop rest { f with expiry := parseExpiry (some v) } := by
  rw [compactLoop, if_neg (by decide), if_pos (by decide),
    if_neg (by rw [List.length_append]; omega), List.take_left' hlen, List.drop_left' hlen]

theorem compactLoop_batch :
    compactLoop ('1' :: '0' :: v) f = some { f with batch := truthy (some v) } := by
  rw [compactLoop, if_neg (by decide), if_neg (by decide), if_pos (by decide)]
  by_cases hv : v = []
  · subst hv
    rfl
  · rw [truthy_some hv, if_neg hv]

end Cursor

/-- What the cursor reads of a compact code. -/
theorem compactLoop_code (h : Gs1Parts gtin expiry batch) :
    compactLoop (compactCode gtin expiry batch) {} =
      some ⟨some gtin, truthy batch, parseExpiry expiry⟩ := by
  have hbatch (f : CompactFields) (hf : f.batch = none) :
      compactLoop (batch.elim [] fun b => ['1', '0'] ++ b) f =
        some { f with batch := truthy batch } := by
    cases batch with
    | none =>
        obtain ⟨g, b, e⟩ := f
        cases hf
        exact compactLoop_nil
    | some b => exact compactLoop_batch
  unfold compactCode
  rw [List.append_assoc, List.append_assoc]
  refine (compactLoop_gtin h.gtinLength).trans ?_
  cases expiry with
  | none => exact hbatch _ rfl
  | some e => exact (compactLoop_expiry (h.expiryDigits e rfl).2).trans (hbatch _ rfl)

/-! ## Both parsed -/

theorem endsPlain_elim (o : Option (List Char)) {w : List Char} (hw : EndsPlain w)
    (ho : ∀ b, o = some b → EndsPlain b) : EndsPlain (o.elim [] fun b => w ++ b) := by
  cases o with
  | none =>
      rintro c ⟨⟩
  | some b => exact hw.append (ho b rfl)

private theorem endsPlain_bracket (a b : Char) : EndsPlain ['(', a, b, ')'] := by
  intro c hc
  cases hc
  show isSpaceChar ')' = false
  decide

private theorem endsPlain_digit {a b : Char} (hb : isSpaceChar b = false) : EndsPlain [a, b] := by
  intro c hc
  cases hc
  exact hb

/-- Neither code has blanks around it. -/
theorem stripText_codes (h : Gs1Parts gtin expiry batch) :
    stripText (bracketedCode gtin expiry batch) = bracketedCode gtin expiry batch ∧
      stripText (compactCode gtin expiry batch) = compactCode gtin expiry batch := by
  have hgtin := endsPlain_of_decimal h.gtinDigits
  have hexpiry : ∀ e, expiry = some e → EndsPlain e := fun e he =>
    endsPlain_of_decimal (h.expiryDigits e he).1
  have hbatch : ∀ b, batch = some b → EndsPlain b := fun b hb =>
    endsPlain_of_stripText (h.batchText b hb).2.2
  constructor
  · refine stripText_of_plain (by decide) ?_
    exact (((endsPlain_bracket '0' '1').append hgtin).append
      (endsPlain_elim expiry (endsPlain_bracket '1' '7') hexpiry)).append
        (endsPlain_elim batch (endsPlain_bracket '1' '0') hbatch)
  · refine stripText_of_plain (by decide) ?_
    exact (((endsPlain_digit (by decide)).append hgtin).append
      (endsPlain_elim expiry (endsPlain_digit (by decide)) hexpiry)).append
        (endsPlain_elim batch (endsPlain_digit (by decide)) hbatch)

theorem skuPrefix_digit : skuPrefix ('0' :: s) = none := rfl

variable (gtinToSku : Option (List Char → Option (List Char))) (isAlnum : Char → Bool)

/-- The answer for the code in brackets: its GTIN is dropped when its last
thirteen digits fail. -/
theorem parse_bracketed (h : Gs1Parts gtin expiry batch) :
    parseBarcode gtinToSku isAlnum (bracketedCode gtin expiry batch) =
      .ok (answerGs1 gtinToSku (bracketedCode gtin expiry batch)
        ⟨none, if HasCheckDigit (gtin.drop 1) then some gtin else none, truthy batch,
          parseExpiry expiry, bracketedCode gtin expiry batch, .gs1⟩) := by
  obtain ⟨hgtin, hexpiry, hbatch⟩ := aiGet_bracketed h
  have hkeep := keepGtin_decimal h.gtinDigits (by simp [h.gtinLength])
  rw [gtinCore, if_pos h.gtinLength] at hkeep
  have hgs1 := parseGs1_of_keepGtin hgtin hkeep
  rw [hexpiry, hbatch] at hgs1
  have hopen : '(' ∈ bracketedCode gtin expiry batch := by simp [bracketedCode]
  have hclose : ')' ∈ bracketedCode gtin expiry batch := by simp [bracketedCode]
  have hsku : skuPrefix (bracketedCode gtin expiry batch) = none := by
    cases hs : skuPrefix (bracketedCode gtin expiry batch) with
    | none => rfl
    | some sku => exact absurd hopen (skuPrefix_chars hs).2
  have hlen : ¬ (bracketedCode gtin expiry batch).length < 2 := by simp [bracketedCode]
  unfold parseBarcode
  dsimp only
  rw [(stripText_codes h).1, if_neg hlen, hsku]
  dsimp only
  rw [if_pos ⟨hopen, hclose⟩, hgs1]
  rfl

/-- The answer for the compact code: its GTIN stays as it is. -/
theorem parse_compact (h : Gs1Parts gtin expiry batch) :
    parseBarcode gtinToSku isAlnum (compactCode gtin expiry batch) =
      .ok (answerGs1 gtinToSku (compactCode gtin expiry batch)
        ⟨none, some gtin, truthy batch, parseExpiry expiry, compactCode gtin expiry batch, .gs1⟩) := by
  have hopen : isDecimal '(' = false := by decide
  have hbracket : '(' ∉ compactCode gtin expiry batch := by
    have hdigits : '(' ∉ gtin := not_mem_of_decimal h.gtinDigits hopen
    simp only [compactCode, List.mem_append, not_or]
    refine ⟨⟨⟨by decide, hdigits⟩, ?_⟩, ?_⟩
    · cases expiry with
      | none => exact List.not_mem_nil
      | some e =>
          have := not_mem_of_decimal (h.expiryDigits e rfl).1 hopen
          simpa using this
    · cases batch with
      | none => exact List.not_mem_nil
      | some b =>
          have := (h.batchText b rfl).1
          simpa using this
  have hgs1 : parseCompactGs1 (compactCode gtin expiry batch) =
      some ⟨none, some gtin, truthy batch, parseExpiry expiry, compactCode gtin expiry batch, .gs1⟩ := by
    unfold parseCompactGs1
    rw [compactLoop_code h]
    rfl
  have htake : ((compactCode gtin expiry batch).drop 2).take 14 = gtin := by
    show (gtin ++ _ ++ _).take 14 = gtin
    rw [List.append_assoc, List.take_left' h.gtinLength]
  have hne : gtin ≠ [] := by
    rintro rfl
    cases h.gtinLength
  have hcompact : looksCompact (compactCode gtin expiry batch) = true := by
    have hlen : 16 ≤ (compactCode gtin expiry batch).length := by
      simp only [compactCode, List.length_append, h.gtinLength, List.length_cons, List.length_nil]
      omega
    have hdigits : isDigitText gtin = true := isDigitText_iff.mpr
      ⟨hne, fun c hc => isDigitChar_of_isDecimal (h.gtinDigits c hc)⟩
    have hprefix : "01".toList.isPrefixOf (compactCode gtin expiry batch) = true := rfl
    rw [looksCompact, hprefix, htake, hdigits, decide_eq_true hlen]
    rfl
  have hlen : ¬ (compactCode gtin expiry batch).length < 2 := by simp [compactCode]
  unfold parseBarcode
  dsimp only
  rw [(stripText_codes h).2, if_neg hlen, show skuPrefix (compactCode gtin expiry batch) = none from
    skuPrefix_digit]
  dsimp only
  rw [if_neg fun hb => hbracket hb.1]
  show parseUnbracketed gtinToSku isAlnum _ _ = _
  rw [parseUnbracketed, if_pos hcompact, hgs1]
  rfl

/-- The two notations are answered alike. -/
def ParsedAlike (gtin : List Char) (expiry batch : Option (List Char)) : Prop :=
  ∃ p q, parseBarcode gtinToSku isAlnum (bracketedCode gtin expiry batch) = .ok p ∧
    parseBarcode gtinToSku isAlnum (compactCode gtin expiry batch) = .ok q ∧
    p.gtin = q.gtin ∧ p.batch = q.batch ∧ p.expiry = q.expiry ∧ p.kind = q.kind ∧ p.sku = q.sku

/-- **Notations.** The two are answered alike exactly when the thirteen digits
behind the indicator end in their check digit. -/
theorem gs1_notations (h : Gs1Parts gtin expiry batch) :
    ParsedAlike gtinToSku isAlnum gtin expiry batch ↔ HasCheckDigit (gtin.drop 1) := by
  have hbracketed := parse_bracketed gtinToSku isAlnum h
  have hcompact := parse_compact gtinToSku isAlnum h
  constructor
  · rintro ⟨p, q, hp, hq, hsame, -⟩
    rw [hbracketed] at hp
    rw [hcompact] at hq
    cases hp
    cases hq
    by_contra hbad
    rw [if_neg hbad] at hsame
    cases hsame
  · intro hgood
    rw [if_pos hgood] at hbracketed
    exact ⟨_, _, hbracketed, hcompact, rfl, rfl, rfl, rfl, rfl⟩

/-- A good GTIN with a date and a batch. -/
theorem gs1_notations_sample :
    ParsedAlike none Char.isAlphanum "04006381333931".toList (some "260228".toList)
      (some "LOT 7".toList) := by
  refine (gs1_notations none Char.isAlphanum ⟨?_, by decide, ?_, ?_⟩).mpr (by decide)
  · exact List.all_eq_true.mp (by decide)
  · rintro e ⟨⟩
    exact ⟨List.all_eq_true.mp (by decide), by decide⟩
  · rintro b ⟨⟩
    decide

/-- One wrong digit: dropped in brackets, kept without. -/
theorem gs1_notations_not :
    ¬ ParsedAlike none Char.isAlphanum "04006381333932".toList none none := by
  have hparts : Gs1Parts "04006381333932".toList none none :=
    ⟨List.all_eq_true.mp (by decide), by decide, by rintro _ ⟨⟩, by rintro _ ⟨⟩⟩
  rintro ⟨p, q, hp, hq, hsame, -⟩
  rw [parse_bracketed none Char.isAlphanum hparts, if_neg (by decide)] at hp
  rw [parse_compact none Char.isAlphanum hparts] at hq
  cases hp
  cases hq
  cases hsame

end WmsDu
