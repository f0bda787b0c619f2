import WmsDu.Barcode.Gtin
import WmsDu.Shared.Dates

/-!
# The barcode resolver

`BarcodeResolver.parse` tries, in turn, an explicit SKU, the bracketed and
the compact notation of GS1, a bare GTIN and a list of keys and values. The
regular expressions are written out as the scanners they are: none of them
ever has to give back what a repetition took.
-/

namespace WmsDu

inductive BarcodeKind where
  | sku | gs1 | ean8 | upc12 | ean13 | kv | unknown
deriving DecidableEq, Repr

structure ParsedBarcode where
  sku : Option (List Char)
  gtin : Option (List Char)
  batch : Option (List Char)
  expiry : Option Date
  raw : List Char
  kind : BarcodeKind
deriving DecidableEq, Repr

/-- `str.strip` of a text given by its characters. -/
def stripText (s : List Char) : List Char :=
  ((s.dropWhile isSpaceChar).reverse.dropWhile isSpaceChar).reverse

/-- A value that is there and not empty, as Python's `or` and `if` ask. -/
def truthy (o : Option (List Char)) : Option (List Char) := o.filter fun s => s ≠ []

def unknownBarcode (code : List Char) : ParsedBarcode := ⟨none, none, none, none, code, .unknown⟩

/-! ## Letters without case -/

/-- The letters that `re.I` takes for a capital one; three of the capitals
have partners outside ASCII. -/
def matchesLetter (p c : Char) : Bool :=
  c = p || c = p.toLower || (p = 'S' && c.toNat = 0x17f) || (p = 'K' && c.toNat = 0x212a) ||
    (p = 'I' && (c.toNat = 0x130 || c.toNat = 0x131))

/-- `[A-Za-z0-9\-_\.]` under `re.I`. -/
def isCodeChar (c : Char) : Bool :=
  c.isAlphanum || c = '-' || c = '_' || c = '.' ||
    c.toNat = 0x17f || c.toNat = 0x212a || c.toNat = 0x130 || c.toNat = 0x131

/-- What follows a word, when a text begins with it. -/
def matchWord : List Char → List Char → Option (List Char)
  | [], s => some s
  | _ :: _, [] => none
  | p :: ps, c :: s => if matchesLetter p c then matchWord ps s else none

/-! ## The SKU prefix -/

/-- What follows the word: a colon and a code up to the end. -/
def skuTail (s : List Char) : Option (List Char) :=
  match s.dropWhile isSpaceChar with
  | ':' :: s =>
      let s := s.dropWhile isSpaceChar
      let sku := s.takeWhile isCodeChar
      if sku ≠ [] ∧ (s.dropWhile isCodeChar).all isSpaceChar = true then some sku else none
  | _ => none

/-- `_re_sku_prefix` -/
def skuPrefix (s : List Char) : Option (List Char) :=
  ["SKU", "ITEM"].findSome? fun w =>
    (matchWord w.toList (s.dropWhile isSpaceChar)).bind skuTail

/-! ## Expiry dates -/

/-- `date(y, m, d)` -/
def mkDate (y m d : Nat) : Except ValueError Date :=
  if ¬ (1 ≤ y ∧ y ≤ 9999) then .error ⟨s!"year {y} is out of range"⟩
  else if ¬ (1 ≤ m ∧ m ≤ 12) then .error ⟨"month must be in 1..12"⟩
  else if ¬ (1 ≤ d ∧ (d : Int) ≤ Date.monthDays y m) then
    .error ⟨"day is out of range for month"⟩
  else .ok ⟨y, m, d⟩

/-- The part of `_parse_expiry` under its `try`. -/
def readExpiry (s : List Char) : Except ValueError (Option Date) :=
  if s.length = 8 ∧ isDigitText s = true then do
    let y ← int (s.take 4)
    let m ← int ((s.drop 4).take 2)
    let d ← int ((s.drop 6).take 2)
    let date ← mkDate y m d
    return some date
  else if s.length = 6 ∧ isDigitText s = true then do
    let y ← int (s.take 2)
    let m ← int ((s.drop 2).take 2)
    let d ← int ((s.drop 4).take 2)
    let date ← mkDate (2000 + y) m d
    return some date
  else return none

/-- `_parse_expiry`: what cannot be read is no date. -/
def parseExpiry (raw : Option (List Char)) : Option Date :=
  (truthy raw).bind fun raw =>
    match readExpiry (stripText raw) with
    | .ok date => date
    | .error _ => none

/-! ## GS1 in brackets -/

/-- `_re_gs1_ai` at the head of a text: two digits in brackets, and what
follows up to the next bracket that opens. -/
def matchAi : List Char → Option (List Char × List Char)
  | '(' :: a :: b :: ')' :: rest =>
      let value := rest.takeWhile fun c => c ≠ '('
      if isDecimal a && isDecimal b && !value.isEmpty then some ([a, b], value) else none
  | _ => none

/-- `_re_gs1_ai.findall`; `skip` characters of the last match are still to be
passed. -/
def findAis : Nat → List Char → List (List Char × List Char)
  | _, [] => []
  | skip + 1, _ :: s => findAis skip s
  | 0, c :: s =>
      match matchAi (c :: s) with
      | some (key, value) => (key, value) :: findAis (3 + value.length) s
      | none => findAis 0 s

/-- The value of an identifier, the last one given. -/
def aiGet (pairs : List (List Char × List Char)) (key : String) : Option (List Char) :=
  (pairs.reverse.find? fun p => p.1 = key.toList).map fun p => stripText p.2

/-- The digits a bracketed GTIN is checked by. -/
def gtinCore (gtin : List Char) : List Char := if gtin.length = 14 then gtin.drop 1 else gtin

/-- The GTIN that is kept of the one read. -/
def keepGtin (gtin : List Char) : Except ValueError (Option (List Char)) :=
  if gtin ≠ [] ∧ gtin.length ∈ [8, 12, 13, 14] then do
    let core := gtinCore gtin
    let ok ←
      if core.length = 13 then validEan13 core
      else if core.length = 12 then validUpc12 core
      else if core.length = 8 then validEan8 core
      else pure true
    return if ok then some gtin else none
  else return some gtin

/-- `_parse_gs1` -/
def parseGs1 (s : List Char) : Except ValueError (Option ParsedBarcode) :=
  let pairs := findAis 0 s
  if pairs = [] then return none
  else do
    let gtin ←
      match aiGet pairs "01" with
      | some gtin => keepGtin gtin
      | none => pure none
    return some ⟨none, gtin, aiGet pairs "10", parseExpiry (aiGet pairs "17"), s, .gs1⟩

/-! ## Compact GS1 -/

/-- What the cursor has read. -/
structure CompactFields where
  gtin : Option (List Char) := none
  batch : Option (List Char) := none
  expiry : Option Date := none
deriving DecidableEq, Repr

/-- The loop of `_parse_compact_gs1` over the rest of the text. -/
def compactLoop (s : List Char) (found : CompactFields) : Option CompactFields :=
  match s with
  | a :: b :: rest =>
      if [a, b] = "01".toList then
        if rest.length < 14 then none
        else compactLoop (rest.drop 14) { found with gtin := some (rest.take 14) }
      else if [a, b] = "17".toList then
        if rest.length < 6 then none
        else compactLoop (rest.drop 6) { found with expiry := parseExpiry (some (rest.take 6)) }
      else if [a, b] = "10".toList then
        some { found with batch := if rest = [] then none else some rest }
      else none
  | _ => some found
termination_by s.length
decreasing_by all_goals simp_wf; omega

/-- `_parse_compact_gs1` -/
def parseCompactGs1 (s : List Char) : Option ParsedBarcode :=
  (compactLoop s {}).bind fun f =>
    if f.gtin = none ∧ f.batch = none ∧ f.expiry = none then none
    else some ⟨none, f.gtin, f.batch, f.expiry, s, .gs1⟩

/-! ## Keys and values -/

section KeyValues
variable (isAlnum : Char → Bool)

/-- `\w` of the character on one side, if there is one. -/
def isWordChar (c : Option Char) : Bool := c.any fun c => isAlnum c || c = '_'

/-- `\b` between two characters. -/
def wordBoundary (before after : Option Char) : Bool :=
  isWordChar isAlnum before != isWordChar isAlnum after

/-- What follows a key: a sign, and the value with the text behind it. -/
def kvTail (s : List Char) : Option (List Char × List Char) :=
  match s.dropWhile isSpaceChar with
  | c :: s =>
      let s := s.dropWhile isSpaceChar
      let value := s.takeWhile isCodeChar
      if (c = ':' || c = '=') && !value.isEmpty then some (value, s.dropWhile isCodeChar) else none
  | [] => none

/-- `_re_kv` at one place of a text: the key as typed, the value and what is
left. -/
def matchKv (before : Option Char) (s : List Char) : Option (List Char × List Char × List Char) :=
  if wordBoundary isAlnum before s.head? then
    ["SKU", "ITEM", "BATCH", "LOT", "EXP", "EXPIRE", "EXPIRY"].findSome? fun w =>
      (matchWord w.toList s).bind fun rest =>
        let key := s.take w.length
        if wordBoundary isAlnum key.getLast? rest.head? then
          (kvTail rest).map fun v => (key, v.1, v.2)
        else none
  else none

/-- `_re_kv.finditer` -/
def findKvs : Nat → Option Char → List Char → List (List Char × List Char)
  | _, _, [] => []
  | skip + 1, _, c :: s => findKvs skip (some c) s
  | 0, before, c :: s =>
      match matchKv isAlnum before (c :: s) with
      | some (key, value, rest) => (key, value) :: findKvs (s.length - rest.length) (some c) s
      | none => findKvs 0 (some c) s

/-- `str.upper` of a key that matched. -/
def upperKey (key : List Char) : List Char :=
  key.map fun c => if c.toNat = 0x17f then 'S' else if c.toNat = 0x131 then 'I' else c.toUpper

/-- The value found for a key, the last one given. -/
def kvGet (found : List (List Char × List Char)) (key : String) : Option (List Char) :=
  truthy ((found.reverse.find? fun p => upperKey p.1 = key.toList).map fun p => stripText p.2)

/-- `_parse_kv` -/
def parseKv (s : List Char) : Option ParsedBarcode :=
  let found := findKvs isAlnum 0 none (s.filter fun c => c ≠ '/' && c ≠ '\\')
  if found = [] then none
  else
    some ⟨kvGet found "SKU" <|> kvGet found "ITEM", none, kvGet found "BATCH" <|> kvGet found "LOT",
      parseExpiry (kvGet found "EXP" <|> kvGet found "EXPIRE" <|> kvGet found "EXPIRY"), s, .kv⟩

end KeyValues

/-! ## Dispatch -/

/-- The kind of a bare GTIN. -/
def gtinKind (s : List Char) : Except ValueError (Option BarcodeKind) :=
  if isDigitText s = true then
    if s.length = 8 then do
      return if ← validEan8 s then some .ean8 else none
    else if s.length = 12 then do
      return if ← validUpc12 s then some .upc12 else none
    else if s.length = 13 then do
      return if ← validEan13 s then some .ean13 else none
    else return none
  else return none

/-- What a GS1 code is answered as; a GTIN is looked up where the resolver
has a way to. -/
def answerGs1 (gtinToSku : Option (List Char → Option (List Char))) (code : List Char)
    (gs1 : ParsedBarcode) : ParsedBarcode :=
  let looked := gtinToSku.bind fun f => (truthy gs1.gtin).bind f
  ⟨truthy gs1.sku <|> looked, gs1.gtin, gs1.batch, gs1.expiry, code, .gs1⟩

/-- Keys and values, where something separates them. -/
def parseList (isAlnum : Char → Bool) (s : List Char) : Option ParsedBarcode :=
  if s.any fun c => c = '|' || c = ';' || c = ',' || c = '\n' || c = ' ' then parseKv isAlnum s
  else none

/-- The last branches of `parse`: a bare GTIN, keys and values, or nothing
known. -/
def parsePlain (gtinToSku : Option (List Char → Option (List Char))) (isAlnum : Char → Bool)
    (code s : List Char) : Except ValueError ParsedBarcode := do
  let kind ← gtinKind s
  match kind with
  | some kind => return ⟨gtinToSku.bind fun f => f s, some s, none, none, code, kind⟩
  | none =>
      match parseList isAlnum s with
      | some kv => return kv
      | none => return unknownBarcode code

/-- Whether a text is read as compact GS1. -/
def looksCompact (s : List Char) : Bool :=
  "01".toList.isPrefixOf s && 16 ≤ s.length && isDigitText ((s.drop 2).take 14)

/-- The branches of `parse` from the compact notation on. -/
def parseUnbracketed (gtinToSku : Option (List Char → Option (List Char))) (isAlnum : Char → Bool)
    (code s : List Char) : Except ValueError ParsedBarcode :=
  match if looksCompact s then parseCompactGs1 s else none with
  | some gs1 => return answerGs1 gtinToSku code gs1
  | none => parsePlain gtinToSku isAlnum code s

/-- `BarcodeResolver.parse` -/
def parseBarcode (gtinToSku : Option (List Char → Option (List Char))) (isAlnum : Char → Bool)
    (code : List Char) : Except ValueError ParsedBarcode :=
  let s := stripText code
  if s.length < 2 then return unknownBarcode code
  else
    match skuPrefix s with
    | some sku => return ⟨some (stripText sku), none, none, none, code, .sku⟩
    | none => do
        let bracketed ← if '(' ∈ s ∧ ')' ∈ s then parseGs1 s else pure none
        match bracketed with
        | some gs1 => return answerGs1 gtinToSku code gs1
        | none => parseUnbracketed gtinToSku isAlnum code s

end WmsDu
