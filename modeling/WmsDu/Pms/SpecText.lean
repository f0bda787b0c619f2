import Mathlib
import WmsDu.Shared.Decimals
import WmsDu.Shared.Numerals

/-!
# Specification texts

`normalize_spec_text` turns what a user writes for the content of a package
into the code segment of a SKU. Three patterns know kilograms, grams and
litres with a multiplier; any other text is taken over in capitals, if it has
letters and digits only.
-/

namespace WmsDu

/-! ## Case and blanks -/

/-- The letters outside ASCII whose upper case is in ASCII. -/
def upperSpecials : List (Char × List Char) :=
  [('ß', ['S', 'S']), ('ı', ['I']), ('ſ', ['S']), ('ﬀ', ['F', 'F']), ('ﬁ', ['F', 'I']),
    ('ﬂ', ['F', 'L']), ('ﬃ', ['F', 'F', 'I']), ('ﬄ', ['F', 'F', 'L']), ('ﬅ', ['S', 'T']),
    ('ﬆ', ['S', 'T'])]

/-- `str.upper` of one character. Any other letter outside ASCII stands for its
upper case, which is outside ASCII too. -/
def upperChar (c : Char) : List Char := (upperSpecials.lookup c).getD [c.toUpper]

/-- `re.sub(r"\s+", "", s)`. -/
def dropSpaces (cs : List Char) : List Char := cs.filter fun c => !isSpaceChar c

/-- `_norm_code`. -/
def normCode (v : String) : String :=
  String.ofList (dropSpaces ((strip v).toList.flatMap upperChar))

/-- The multiplication signs become `X`. -/
def timesSign (c : Char) : Char := if c = '×' ∨ c = '*' ∨ c = 'Ｘ' ∨ c = 'x' then 'X' else c

/-- The text the patterns are matched against. -/
def cleanSpec (v : String) : List Char := dropSpaces ((strip v).toList.map timesSign)

/-! ## Patterns -/

/-- The groups of a match: the digits before and after the point, and those of
the multiplier. -/
structure SpecMatch where
  whole : List Char
  fraction : List Char
  times : Option (List Char)
deriving DecidableEq, Repr

/-- `(?:X(\d+))?` at the end of the text. -/
def matchTimes : List Char → Option (Option (List Char))
  | [] => some none
  | 'X' :: ds => if ds ≠ [] ∧ ds.all isDecimal then some (some ds) else none
  | _ => none

/-- `\d+(?:\.\d+)?` at the start of the text, and what follows. No unit starts
with a point, so a point that no digit follows is no match. -/
def matchNumber (s : List Char) : Option (List Char × List Char × List Char) :=
  if s.takeWhile isDecimal = [] then none
  else
    match s.dropWhile isDecimal with
    | '.' :: rest =>
        if rest.takeWhile isDecimal = [] then none
        else some (s.takeWhile isDecimal, rest.takeWhile isDecimal, rest.dropWhile isDecimal)
    | rest => some (s.takeWhile isDecimal, [], rest)

/-- `(\d+(?:\.\d+)?)(…)(?:X(\d+))?` with the units of a pattern, as a full match. -/
def matchSpec (units : List (List Char)) (s : List Char) : Option SpecMatch :=
  (matchNumber s).bind fun (whole, fraction, rest) =>
    (units.findSome? fun u => rest.dropPrefix? u).bind fun rest =>
      (matchTimes rest).map fun times => ⟨whole, fraction, times⟩

def kilogramUnits : List (List Char) := [['k', 'g'], ['K', 'G'], ['千', '克']]

def gramUnits : List (List Char) := [['g'], ['G'], ['克']]

def litreUnits : List (List Char) := [['l'], ['L'], ['升']]

/-! ## Codes -/

/-- `Decimal(m.group(1))`. -/
def SpecMatch.value (m : SpecMatch) : ℚ :=
  readDigits (m.whole ++ m.fraction) / 10 ^ m.fraction.length

/-- `X{int(m.group(3))}`, if there is a multiplier. -/
def timesCode : Option (List Char) → List Char
  | none => []
  | some ds => 'X' :: Nat.toDigits 10 (readDigits ds)

/-- The code of a weight, which must be of whole grams. -/
def weightCode (message : String) (grams : ℚ) (times : Option (List Char)) :
    Except String String :=
  if grams.den ≠ 1 then .error message
  else .ok (String.ofList (Nat.toDigits 10 grams.num.toNat ++ 'G' :: timesCode times))

/-- `Decimal(m.group(1)) * Decimal("1000")`, in 28 digits. -/
def SpecMatch.kilogramsInGrams (m : SpecMatch) : ℚ := roundSignificant 10 28 (m.value * 1000)

/-- The numeral of a number of litres. -/
def SpecMatch.litres (m : SpecMatch) : List Char :=
  if m.value.den = 1 then Nat.toDigits 10 m.value.num.toNat
  else stripZeros (decimalText (readDigits (m.whole ++ m.fraction)) m.fraction.length)

/-- `[A-Z0-9]+(?:X[A-Z0-9]+)?`; `X` is one of the letters, so the optional part
adds nothing. -/
def specPattern (cs : List Char) : Bool := !cs.isEmpty && cs.all fun c => c.isUpper || c.isDigit

/-- What `normalize_spec_text` makes of a cleaned text. -/
def specCode (s : List Char) : Except String String :=
  match matchSpec kilogramUnits s with
  | some m => weightCode "kg 规格换算后必须是整数克" m.kilogramsInGrams m.times
  | none =>
      match matchSpec gramUnits s with
      | some m => weightCode "g 规格必须是整数" m.value m.times
      | none =>
          match matchSpec litreUnits s with
          | some m => .ok (String.ofList (m.litres ++ 'L' :: timesCode m.times))
          | none =>
              let upper := normCode (String.ofList s)
              if specPattern upper.toList then .ok upper
              else .error "规格格式不支持，请输入如 500g、1.5kg、40g×6、2L"

/-- `normalize_spec_text`. -/
def normalizeSpecText (v : String) : Except String String :=
  if strip v = "" then .error "spec_text 不能为空" else specCode (cleanSpec v)

example : normalizeSpecText " 1.5kg × 06" = .ok "1500GX6" := by decide +kernel

end WmsDu
