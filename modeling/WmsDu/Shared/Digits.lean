import Mathlib
import WmsDu.Shared.Text

/-!
# Digits of a text

What Python calls a digit. `str.isdecimal` holds of the digits of the decimal
number systems, and `int` reads those; `str.isdigit` holds of superscript,
circled and other digits too, which `int` refuses.
-/

namespace WmsDu

/-- The zeros of the decimal number systems; the other nine digits of each
follow its zero. -/
def decimalZeros : List Nat :=
  [0x30, 0x660, 0x6f0, 0x7c0, 0x966, 0x9e6, 0xa66, 0xae6, 0xb66, 0xbe6, 0xc66, 0xce6, 0xd66, 0xde6,
    0xe50, 0xed0, 0xf20, 0x1040, 0x1090, 0x17e0, 0x1810, 0x1946, 0x19d0, 0x1a80, 0x1a90, 0x1b50,
    0x1bb0, 0x1c40, 0x1c50, 0xa620, 0xa8d0, 0xa900, 0xa9d0, 0xa9f0, 0xaa50, 0xabf0, 0xff10, 0x104a0,
    0x10d30, 0x11066, 0x110f0, 0x11136, 0x111d0, 0x112f0, 0x11450, 0x114d0, 0x11650, 0x116c0, 0x11730,
    0x118e0, 0x11950, 0x11c50, 0x11d50, 0x11da0, 0x11f50, 0x16a60, 0x16ac0, 0x16b50, 0x1d7ce, 0x1d7d8,
    0x1d7e2, 0x1d7ec, 0x1d7f6, 0x1e140, 0x1e2f0, 0x1e4f0, 0x1e950, 0x1fbf0]

/-- The digits that are not decimal, as ranges. -/
def otherDigits : List (Nat × Nat) :=
  [(0xb2, 0xb3), (0xb9, 0xb9), (0x1369, 0x1371), (0x19da, 0x19da), (0x2070, 0x2070), (0x2074, 0x2079),
    (0x2080, 0x2089), (0x2460, 0x2468), (0x2474, 0x247c), (0x2488, 0x2490), (0x24ea, 0x24ea),
    (0x24f5, 0x24fd), (0x24ff, 0x24ff), (0x2776, 0x277e), (0x2780, 0x2788), (0x278a, 0x2792),
    (0x10a40, 0x10a43), (0x10e60, 0x10e68), (0x11052, 0x1105a), (0x1f100, 0x1f10a)]

/-- The value of a decimal digit. -/
def decimalValue? (c : Char) : Option Nat :=
  (decimalZeros.find? fun z => z ≤ c.toNat ∧ c.toNat < z + 10).map fun z => c.toNat - z

/-- `str.isdecimal` of one character. -/
def isDecimal (c : Char) : Bool := (decimalValue? c).isSome

/-- `str.isdigit` of one character. -/
def isDigitChar (c : Char) : Bool :=
  isDecimal c || otherDigits.any fun r => r.1 ≤ c.toNat ∧ c.toNat ≤ r.2

/-- `str.isdigit`: some characters, all of them digits. -/
def isDigitText (s : List Char) : Bool := !s.isEmpty && s.all isDigitChar

theorem isDigitChar_of_isDecimal {c : Char} (h : isDecimal c = true) : isDigitChar c = true := by
  simp [isDigitChar, h]

theorem isDigitText_iff {s : List Char} :
    isDigitText s = true ↔ s ≠ [] ∧ ∀ c ∈ s, isDigitChar c = true := by
  simp [isDigitText]

/-- The number a decimal digit stands for. -/
def digitValue (c : Char) : Nat := (decimalValue? c).getD 0

theorem digitValue_lt (c : Char) : digitValue c < 10 := by
  unfold digitValue decimalValue?
  cases h : decimalZeros.find? fun z => z ≤ c.toNat ∧ c.toNat < z + 10 with
  | none => simp
  | some z =>
      have hz : z ≤ c.toNat ∧ c.toNat < z + 10 := by simpa using List.find?_some h
      simp only [Option.map_some, Option.getD_some]
      omega

theorem decimalValue?_eq {c : Char} (h : isDecimal c = true) :
    decimalValue? c = some (digitValue c) := by
  obtain ⟨v, hv⟩ := Option.isSome_iff_exists.mp h
  simp [digitValue, hv]

/-- A number `int` cannot read, or a date there is not. -/
structure ValueError where
  text : String
deriving DecidableEq, Repr

/-- `int` of a text of digits. -/
def int (s : List Char) : Except ValueError Nat :=
  match s.mapM decimalValue? with
  | some ds => .ok (ds.foldl (fun n d => 10 * n + d) 0)
  | none => .error ⟨s!"invalid literal for int() with base 10: '{String.ofList s}'"⟩

/-- One digit is read when it is decimal. -/
theorem int_singleton (c : Char) :
    int [c] = if isDecimal c then .ok (digitValue c)
      else .error ⟨s!"invalid literal for int() with base 10: '{String.ofList [c]}'"⟩ := by
  unfold int isDecimal digitValue
  cases h : decimalValue? c with
  | none => simp [h]
  | some v => simp [h]

/-- The digits of a text, read one by one. -/
theorem mapM_int_ok {s : List Char} (h : ∀ c ∈ s, isDecimal c = true) :
    (s.mapM fun c => int [c]) = .ok (s.map digitValue) := by
  induction s with
  | nil => rfl
  | cons c s ih =>
      obtain ⟨hc, hs⟩ := List.forall_mem_cons.mp h
      rw [List.mapM_cons, ih hs, int_singleton, if_pos hc]
      rfl

/-- A digit that is not decimal stops the reading. -/
theorem mapM_int_error {s : List Char} (h : ∃ c ∈ s, isDecimal c = false) :
    ∃ e, (s.mapM fun c => int [c]) = .error e := by
  induction s with
  | nil =>
      obtain ⟨c, hc, -⟩ := h
      cases hc
  | cons c s ih =>
      rw [List.mapM_cons, int_singleton]
      split
      · rename_i hc
        obtain ⟨d, hd, hbad⟩ := h
        rcases List.mem_cons.mp hd with rfl | hd
        · rw [hc] at hbad
          cases hbad
        · obtain ⟨e, he⟩ := ih ⟨d, hd, hbad⟩
          exact ⟨e, by rw [he]; rfl⟩
      · exact ⟨_, rfl⟩

end WmsDu
