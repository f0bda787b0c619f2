import Mathlib.Algebra.Order.Archimedean.Basic
import Mathlib.Algebra.Order.Field.Power
import Mathlib.Data.Int.Log
import Mathlib.Data.Rat.Floor
import Mathlib.Tactic.Linarith
import WmsDu.Shared.Text

/-!
# Decimals, floats and numeric columns

Python's `Decimal` read from a text and added under the default context, its
conversion to `float`, and what a `NUMERIC` column of PostgreSQL keeps of a
number. Values are exact rationals; the three formats differ only in how they
round them.
-/

namespace WmsDu

/-! ## Rounding -/

/-- To the nearest integer, halves to the even one. -/
def roundHalfEven (q : ℚ) : Int :=
  let r := q - ⌊q⌋
  if r < 1 / 2 then ⌊q⌋
  else if 1 / 2 < r then ⌊q⌋ + 1
  else if ⌊q⌋ % 2 = 0 then ⌊q⌋ else ⌊q⌋ + 1

/-- To the nearest integer, halves away from zero. -/
def roundHalfAway (q : ℚ) : Int := if 0 ≤ q then ⌊q + 1 / 2⌋ else -⌊-q + 1 / 2⌋

/-- What a `NUMERIC` column of `scale` decimal places keeps of a number. -/
def numericColumn (scale : Nat) (q : ℚ) : ℚ := roundHalfAway (q * 10 ^ scale) / 10 ^ scale

theorem roundHalfAway_intCast (n : Int) : roundHalfAway (n : ℚ) = n := by
  unfold roundHalfAway
  split
  · rw [Int.floor_eq_iff]
    constructor <;> linarith
  · rw [neg_eq_iff_eq_neg, Int.floor_eq_iff]
    push_cast
    constructor <;> linarith

/-- A column keeps what a column of the same scale holds. -/
theorem numericColumn_idem (scale : Nat) (q : ℚ) :
    numericColumn scale (numericColumn scale q) = numericColumn scale q := by
  have hne : (10 : ℚ) ^ scale ≠ 0 := by positivity
  unfold numericColumn
  rw [div_mul_cancel₀ _ hne, roundHalfAway_intCast]

/-- To `p` significant digits of base `b`. -/
def roundSignificant (b p : Nat) (q : ℚ) : ℚ :=
  if q = 0 then 0
  else
    let scale : ℚ := (b : ℚ) ^ ((p : Int) - 1 - Int.log b |q|)
    roundHalfEven (q * scale) / scale

theorem roundHalfEven_nonneg {q : ℚ} (hq : 0 ≤ q) : 0 ≤ roundHalfEven q := by
  have hfloor : 0 ≤ ⌊q⌋ := Int.floor_nonneg.mpr hq
  unfold roundHalfEven
  dsimp only
  split
  · exact hfloor
  split
  · omega
  split
  · exact hfloor
  · omega

theorem roundSignificant_nonneg {b p : Nat} {q : ℚ} (hq : 0 ≤ q) : 0 ≤ roundSignificant b p q := by
  unfold roundSignificant
  split
  · exact le_refl 0
  · have hscale : (0 : ℚ) ≤ (b : ℚ) ^ ((p : Int) - 1 - Int.log b |q|) := by positivity
    have hround := roundHalfEven_nonneg (mul_nonneg hq hscale)
    exact div_nonneg (by exact_mod_cast hround) hscale

/-! ## `Decimal` and `float` -/

/-- `decimal.Decimal`; the values of `float` are those without
`signallingNan`. -/
inductive Decimal
  | finite (q : ℚ)
  | nan
  | signallingNan
  | infinite (negative : Bool)
deriving DecidableEq

namespace Decimal

private def digitsValue (cs : List Char) : Nat :=
  cs.foldl (fun n c => 10 * n + (c.toNat - '0'.toNat)) 0

/-- A sign and what follows it. -/
private def splitSign : List Char → Bool × List Char
  | '-' :: cs => (true, cs)
  | '+' :: cs => (false, cs)
  | cs => (false, cs)

/-- The exponent after the digits, if they are followed by one. -/
private def readExponent : List Char → Option Int
  | [] => some 0
  | 'e' :: cs =>
      let (negative, digits) := splitSign cs
      if digits ≠ [] ∧ digits.all Char.isDigit then
        some (if negative then -(digitsValue digits : Int) else digitsValue digits)
      else none
  | _ :: _ => none

/-- Digits with an optional point and exponent. -/
private def readFinite (negative : Bool) (cs : List Char) : Option Decimal :=
  let int := cs.takeWhile Char.isDigit
  let (frac, rest) :=
    match cs.dropWhile Char.isDigit with
    | '.' :: cs => (cs.takeWhile Char.isDigit, cs.dropWhile Char.isDigit)
    | cs => ([], cs)
  if int = [] ∧ frac = [] then none
  else
    (readExponent rest).map fun e =>
      let q : ℚ := digitsValue (int ++ frac) * (10 : ℚ) ^ (e - (frac.length : Int))
      .finite (if negative then -q else q)

/-- `Decimal(s)`, `none` for `InvalidOperation`. -/
def ofText (s : String) : Option Decimal :=
  let (negative, cs) :=
    splitSign (((strip s).toList.filter fun c => c ≠ '_').map Char.toLower)
  if cs = "inf".toList ∨ cs = "infinity".toList then some (.infinite negative)
  else
    match cs with
    | 'n' :: 'a' :: 'n' :: digits => if digits.all Char.isDigit then some .nan else none
    | 's' :: 'n' :: 'a' :: 'n' :: digits =>
        if digits.all Char.isDigit then some .signallingNan else none
    | _ => readFinite negative cs

/-- `x + y` under the default context of 28 digits, `none` for
`InvalidOperation`. -/
def add : Decimal → Decimal → Option Decimal
  | .signallingNan, _ => none
  | _, .signallingNan => none
  | .nan, _ => some .nan
  | _, .nan => some .nan
  | .infinite m, .infinite n => if m = n then some (.infinite m) else none
  | .infinite m, .finite _ => some (.infinite m)
  | .finite _, .infinite n => some (.infinite n)
  | .finite x, .finite y => some (.finite (roundSignificant 10 28 (x + y)))

/-- `float(x)`; a signalling NaN is a `ValueError`. -/
def toFloat : Decimal → Option Decimal
  | .signallingNan => none
  | .finite q => some (.finite (roundSignificant 2 53 q))
  | x => some x

end Decimal

/-! ## `NUMERIC` columns -/

/-- A value of a `NUMERIC` column: so many units of its last decimal place,
or `NaN`. -/
inductive Numeric
  | units (n : Int)
  | nan
deriving DecidableEq, Repr

namespace Numeric

/-- What a column of `scale` decimal places keeps of a number; no such column
holds an infinity. -/
def store (scale : Nat) : Decimal → Option Numeric
  | .finite q => some (.units (roundHalfAway (q * 10 ^ scale)))
  | .nan => some .nan
  | .signallingNan => some .nan
  | .infinite _ => none

instance : Zero Numeric := ⟨.units 0⟩

instance : Add Numeric where
  add
    | .units m, .units n => .units (m + n)
    | _, _ => .nan

instance : Sub Numeric where
  sub
    | .units m, .units n => .units (m - n)
    | _, _ => .nan

theorem zero_eq : (0 : Numeric) = .units 0 := rfl

@[simp] theorem units_add (m n : Int) : Numeric.units m + .units n = .units (m + n) := rfl

@[simp] theorem nan_add (x : Numeric) : Numeric.nan + x = .nan := by cases x <;> rfl

@[simp] theorem add_nan (x : Numeric) : x + Numeric.nan = .nan := by cases x <;> rfl

instance : AddCommMonoid Numeric where
  add_assoc x y z := by
    cases x <;> cases y <;> cases z <;> simp [add_assoc]
  zero_add x := by
    cases x <;> simp [zero_eq]
  add_zero x := by
    cases x <;> simp [zero_eq]
  add_comm x y := by
    cases x <;> cases y <;> simp [add_comm]
  nsmul := nsmulRec

end Numeric

end WmsDu
