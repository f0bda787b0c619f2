import Mathlib
import WmsDu.Shared.Digits

/-!
# Numerals

Reading a run of decimal digits, and the numeral Python writes for a decimal
number. What is written with a point is read back as it was.
-/

namespace WmsDu

/-! ## Reading -/

/-- `int` of a run of decimal digits. -/
def readDigits (cs : List Char) : Nat := cs.foldl (fun n c => 10 * n + digitValue c) 0

/-- An ASCII digit is decimal, and its value is its distance from the zero. -/
theorem isDecimal_of_isDigit {c : Char} (h : c.isDigit = true) :
    isDecimal c = true ∧ digitValue c = c.toNat - 48 := by
  have hrange : 0x30 ≤ c.toNat ∧ c.toNat < 0x30 + 10 := by
    simp only [Char.isDigit, Bool.and_eq_true, decide_eq_true_eq] at h
    obtain ⟨h1, h2⟩ := h
    have h1 : 48 ≤ c.val.toNat := UInt32.le_iff_toNat_le.mp h1
    have h2 : c.val.toNat ≤ 57 := UInt32.le_iff_toNat_le.mp h2
    show 48 ≤ c.val.toNat ∧ c.val.toNat < 58
    omega
  have hvalue : decimalValue? c = some (c.toNat - 0x30) := by
    unfold decimalValue? decimalZeros
    rw [List.find?_cons_of_pos (by simpa using hrange)]
    rfl
  unfold isDecimal digitValue
  rw [hvalue]
  exact ⟨rfl, rfl⟩

theorem foldl_digits (cs : List Char) (n : Nat) :
    cs.foldl (fun n c => 10 * n + digitValue c) n = n * 10 ^ cs.length + readDigits cs := by
  unfold readDigits
  induction cs generalizing n with
  | nil => simp
  | cons c cs ih =>
      rw [List.foldl_cons, List.foldl_cons, ih, ih (10 * 0 + digitValue c), List.length_cons]
      ring

@[simp] theorem readDigits_nil : readDigits [] = 0 := rfl

theorem readDigits_append (cs ds : List Char) :
    readDigits (cs ++ ds) = readDigits cs * 10 ^ ds.length + readDigits ds := by
  rw [readDigits, List.foldl_append]
  exact foldl_digits ds _

@[simp] theorem readDigits_singleton (c : Char) : readDigits [c] = digitValue c := by
  simp [readDigits]

theorem readDigits_zeros (k : Nat) : readDigits (List.replicate k '0') = 0 := by
  induction k with
  | zero => rfl
  | succ k ih =>
      rw [List.replicate_succ', readDigits_append, ih, readDigits_singleton]
      decide

/-- Leading zeros do not count. -/
theorem readDigits_zeros_append (k : Nat) (cs : List Char) :
    readDigits (List.replicate k '0' ++ cs) = readDigits cs := by
  rw [readDigits_append, readDigits_zeros]
  omega

/-! ## Writing -/

theorem isDigit_toDigits {c : Char} {n : Nat} (h : c ∈ Nat.toDigits 10 n) : c.isDigit = true :=
  Nat.isDigit_of_mem_toDigits (by omega) (by omega) h

/-- What is written is read. -/
theorem readDigits_toDigits (n : Nat) : readDigits (Nat.toDigits 10 n) = n := by
  have hvalue : ∀ {d}, d < 10 → digitValue d.digitChar = d := by
    intro d hd
    have hdigit : d.digitChar.isDigit = true := by simpa using hd
    rw [(isDecimal_of_isDigit hdigit).2]
    exact Nat.toNat_digitChar_sub_48_of_lt_ten hd
  induction n using Nat.strong_induction_on with
  | _ n ih =>
      rw [Nat.toDigits_eq_if (by omega)]
      split
      next hn => rw [readDigits_singleton, hvalue hn]
      next hn =>
        rw [readDigits_append, readDigits_singleton, ih (n / 10) (by omega),
          hvalue (by omega), List.length_singleton]
        omega

theorem toDigits_injective {m n : Nat} (h : Nat.toDigits 10 m = Nat.toDigits 10 n) : m = n := by
  rw [← readDigits_toDigits m, h, readDigits_toDigits]

/-- Multiplying by a power of ten appends zeros. -/
theorem toDigits_mul_pow {n : Nat} (hn : 0 < n) (k : Nat) :
    Nat.toDigits 10 (n * 10 ^ k) = Nat.toDigits 10 n ++ List.replicate k '0' := by
  induction k with
  | zero => simp
  | succ k ih =>
      have hpos : 0 < n * 10 ^ k := by positivity
      rw [show n * 10 ^ (k + 1) = n * 10 ^ k * 10 by ring,
        Nat.toDigits_of_base_le (by omega) (by omega), Nat.mul_div_cancel _ (by omega), ih,
        Nat.mul_mod_left, List.replicate_succ', List.append_assoc]
      rfl

/-- The last digit of a number that ten does not divide is no zero. -/
theorem getLast_toDigits_ne {n : Nat} (hn : ¬ 10 ∣ n) :
    ∃ front c, Nat.toDigits 10 n = front ++ [c] ∧ c ≠ '0' := by
  have hmod : n % 10 ≠ 0 := fun h => hn (Nat.dvd_of_mod_eq_zero h)
  rw [Nat.toDigits_eq_if (by omega)]
  split
  next hlt => exact ⟨[], n.digitChar, rfl, by simp; omega⟩
  next hge => exact ⟨_, _, rfl, by simpa using hmod⟩

/-! ## `str` of a decimal -/

/-- `str(Decimal)` of a coefficient with `scale` places after the point, where
there are some: plain, or scientific for what is below a millionth. -/
def decimalText (coefficient scale : Nat) : List Char :=
  let digits := Nat.toDigits 10 coefficient
  if scale < digits.length then
    digits.take (digits.length - scale) ++ '.' :: digits.drop (digits.length - scale)
  else if scale < digits.length + 6 then
    '0' :: '.' :: (List.replicate (scale - digits.length) '0' ++ digits)
  else
    digits.take 1 ++ (if digits.length = 1 then [] else '.' :: digits.drop 1) ++
      'E' :: '-' :: Nat.toDigits 10 (scale - digits.length + 1)

/-- `.rstrip('0').rstrip('.')`. -/
def stripZeros (cs : List Char) : List Char :=
  (cs.rdropWhile fun c => c = '0').rdropWhile fun c => c = '.'

/-- A numeral that ends in neither a zero nor a point stays. -/
theorem stripZeros_of_last {front : List Char} {c : Char} (h0 : c ≠ '0') (hp : c ≠ '.') :
    stripZeros (front ++ [c]) = front ++ [c] := by
  unfold stripZeros
  rw [List.rdropWhile_concat_neg _ _ _ (by simpa using h0),
    List.rdropWhile_concat_neg _ _ _ (by simpa using hp)]

/-- Trailing zeros go. -/
theorem stripZeros_append_zeros (cs : List Char) (k : Nat) :
    stripZeros (cs ++ List.replicate k '0') = stripZeros cs := by
  induction k with
  | zero => simp
  | succ k ih =>
      rw [← ih]
      unfold stripZeros
      rw [List.replicate_succ', ← List.append_assoc, List.rdropWhile_concat_pos _ _ _ (by simp)]

/-- A number below a millionth is written with an exponent. -/
theorem scientific_iff {coefficient scale : Nat} :
    (Nat.toDigits 10 coefficient).length + 6 ≤ scale ↔
      6 < scale ∧ coefficient * 10 ^ 6 < 10 ^ scale := by
  have hlen : 0 < (Nat.toDigits 10 coefficient).length := Nat.length_toDigits_pos
  constructor
  · intro h
    refine ⟨by omega, ?_⟩
    have hlt := (Nat.length_toDigits_le_iff (by omega : 1 < 10) (by omega : 0 < scale - 6)).mp
      (by omega : (Nat.toDigits 10 coefficient).length ≤ scale - 6)
    calc coefficient * 10 ^ 6 < 10 ^ (scale - 6) * 10 ^ 6 := by
          exact (Nat.mul_lt_mul_right (by positivity)).mpr hlt
      _ = 10 ^ scale := by rw [← Nat.pow_add, Nat.sub_add_cancel (by omega)]
  · rintro ⟨hscale, h⟩
    have hlt : coefficient < 10 ^ (scale - 6) := by
      rw [show scale = scale - 6 + 6 by omega, Nat.pow_add] at h
      exact (Nat.mul_lt_mul_right (by positivity)).mp h
    have hle := (Nat.length_toDigits_le_iff (by omega : 1 < 10) (by omega : 0 < scale - 6)).mpr hlt
    omega

/-- The plain numeral of a number that ten does not divide: digits before and
after a point, as many after it as there are places, read back as the number
and not ending in a zero. -/
theorem decimalText_plain {n scale : Nat} (hn : ¬ 10 ∣ n) (hscale : 0 < scale)
    (hplain : scale < (Nat.toDigits 10 n).length + 6) :
    ∃ whole fraction, decimalText n scale = whole ++ '.' :: fraction ∧ whole ≠ [] ∧
      fraction.length = scale ∧ (∀ c ∈ whole ++ fraction, c.isDigit = true) ∧
      readDigits (whole ++ fraction) = n ∧
      stripZeros (whole ++ '.' :: fraction) = whole ++ '.' :: fraction := by
  obtain ⟨front, last, hdigits, hlast⟩ := getLast_toDigits_ne hn
  have hdigit : ∀ c ∈ Nat.toDigits 10 n, c.isDigit = true := fun c => isDigit_toDigits
  have hpoint : last ≠ '.' := by
    rintro rfl
    have hbad := hdigit '.' (by rw [hdigits]; simp)
    simp [Char.isDigit] at hbad
  have hread := readDigits_toDigits n
  unfold decimalText
  generalize Nat.toDigits 10 n = ds at *
  have hlen : ds.length = front.length + 1 := by rw [hdigits]; simp
  by_cases hlt : scale < ds.length
  · -- the point stands inside the digits
    simp only [if_pos hlt]
    refine ⟨ds.take (ds.length - scale), ds.drop (ds.length - scale), rfl, ?_, ?_, ?_, ?_, ?_⟩
    · intro hnil
      have := congrArg List.length hnil
      simp at this
      omega
    · simp
      omega
    · rw [List.take_append_drop]
      exact hdigit
    · rw [List.take_append_drop, hread]
    · have hdrop : ds.drop (ds.length - scale) = front.drop (ds.length - scale) ++ [last] := by
        rw [hdigits, List.drop_append_of_le_length (by simp; omega)]
      rw [hdrop, ← List.cons_append, ← List.append_assoc]
      exact stripZeros_of_last hlast hpoint
  · -- zeros stand between the point and the digits
    simp only [if_neg hlt, if_pos hplain]
    refine ⟨['0'], List.replicate (scale - ds.length) '0' ++ ds, rfl, by simp, ?_, ?_, ?_, ?_⟩
    · simp
      omega
    · intro c hc
      rw [List.singleton_append, List.mem_cons, List.mem_append, List.mem_replicate] at hc
      rcases hc with rfl | ⟨-, rfl⟩ | hc
      · rfl
      · rfl
      · exact hdigit c hc
    · rw [List.singleton_append, ← List.cons_append, ← List.replicate_succ, readDigits_zeros_append,
        hread]
    · rw [hdigits, ← List.append_assoc, ← List.cons_append, ← List.append_assoc]
      exact stripZeros_of_last hlast hpoint

/-- Zeros at the end of the coefficient stand at the end of the plain numeral. -/
theorem decimalText_mul_pow {n scale : Nat} (hn : 0 < n) (hscale : 0 < scale) (z : Nat)
    (hplain : scale < (Nat.toDigits 10 n).length + 6) :
    decimalText (n * 10 ^ z) (scale + z) = decimalText n scale ++ List.replicate z '0' := by
  unfold decimalText
  rw [toDigits_mul_pow hn]
  generalize Nat.toDigits 10 n = ds at *
  simp only [List.length_append, List.length_replicate]
  by_cases hlt : scale < ds.length
  · have hsub : ds.length + z - (scale + z) = ds.length - scale := by omega
    rw [if_pos (by omega), if_pos hlt, hsub, List.take_append_of_le_length (by omega),
      List.drop_append_of_le_length (by omega), List.append_assoc, List.cons_append]
  · have hsub : scale + z - (ds.length + z) = scale - ds.length := by omega
    rw [if_neg (by omega), if_pos (by omega), if_neg hlt, if_pos hplain, hsub]
    simp

/-- **What is written plainly is read back.** Stripped of its zeros the numeral
is digits around a point, stands for the same number, and is what would be
written for what is read. -/
theorem stripZeros_decimalText {n scale : Nat} (hn : ¬ 10 ^ scale ∣ n)
    (hplain : scale < (Nat.toDigits 10 n).length + 6) :
    ∃ whole fraction, stripZeros (decimalText n scale) = whole ++ '.' :: fraction ∧ whole ≠ [] ∧
      fraction ≠ [] ∧ (∀ c ∈ whole ++ fraction, c.isDigit = true) ∧
      n * 10 ^ fraction.length = readDigits (whole ++ fraction) * 10 ^ scale ∧
      stripZeros (decimalText (readDigits (whole ++ fraction)) fraction.length) =
        whole ++ '.' :: fraction := by
  have hpos : n ≠ 0 := by
    rintro rfl
    exact hn (dvd_zero _)
  obtain ⟨z, n', hdvd, rfl⟩ := Nat.exists_eq_pow_mul_and_not_dvd hpos 10 (by omega)
  have hz : z < scale := by
    by_contra hge
    exact hn (Dvd.dvd.mul_right (pow_dvd_pow 10 (by omega)) n')
  have hn' : 0 < n' := Nat.pos_of_ne_zero fun h => hdvd (h ▸ dvd_zero _)
  obtain ⟨scale', rfl⟩ : ∃ s, scale = s + z := ⟨scale - z, by omega⟩
  rw [Nat.mul_comm, toDigits_mul_pow hn', List.length_append, List.length_replicate] at hplain
  obtain ⟨whole, fraction, htext, hwhole, hlen, hdigits, hread, hstrip⟩ :=
    decimalText_plain hdvd (by omega) (by omega : scale' < (Nat.toDigits 10 n').length + 6)
  refine ⟨whole, fraction, ?_, hwhole, ?_, hdigits, ?_, ?_⟩
  · rw [Nat.mul_comm, decimalText_mul_pow hn' (by omega) z (by omega), stripZeros_append_zeros,
      htext, hstrip]
  · rintro rfl
    simp at hlen
    omega
  · rw [hread, hlen]
    ring
  · rw [hread, hlen, htext, hstrip]

end WmsDu
