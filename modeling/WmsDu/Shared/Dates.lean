import Mathlib.Tactic.Common
import Mathlib.Order.Defs.LinearOrder
import Mathlib.Algebra.Order.Group.Int

/-!
# Civil dates and shelf life

Dates as year, month and day, with the day arithmetic of the proleptic
Gregorian calendar, and the shelf-life rules that derive an expiry date from
a production date and back.
-/

namespace WmsDu

/-- A civil date. -/
structure Date where
  year : Int
  month : Int
  day : Int
deriving DecidableEq, Repr

namespace Date

/-- Calendar order. -/
def before (a b : Date) : Prop :=
  a.year < b.year ∨ (a.year = b.year ∧
    (a.month < b.month ∨ (a.month = b.month ∧ a.day < b.day)))

instance (a b : Date) : Decidable (a.before b) :=
  inferInstanceAs (Decidable (_ ∨ (_ ∧ (_ ∨ (_ ∧ _)))))

/-- Days since 1970-01-01, counted in 400-year eras that start in March. -/
def toDays (d : Date) : Int :=
  let y := if d.month ≤ 2 then d.year - 1 else d.year
  let era := y / 400
  let yoe := y - era * 400
  let mp := (d.month + 9) % 12
  let doy := (153 * mp + 2) / 5 + d.day - 1
  let doe := yoe * 365 + yoe / 4 - yoe / 100 + doy
  era * 146097 + doe - 719468

/-- The date of a day count, the inverse of `toDays`. -/
def ofDays (n : Int) : Date :=
  let z := n + 719468
  let era := z / 146097
  let doe := z - era * 146097
  let yoe := (doe - doe / 1460 + doe / 36524 - doe / 146096) / 365
  let doy := doe - (365 * yoe + yoe / 4 - yoe / 100)
  let mp := (5 * doy + 2) / 153
  let month := if mp < 10 then mp + 3 else mp - 9
  { year := yoe + era * 400 + (if month ≤ 2 then 1 else 0)
    month := month
    day := doy - (153 * mp + 2) / 5 + 1 }

/-- `date + timedelta(days=n)`. -/
def addDays (d : Date) (n : Int) : Date := ofDays (d.toDays + n)

def isLeap (year : Int) : Bool :=
  year % 4 = 0 && (year % 100 ≠ 0 || year % 400 = 0)

/-- `calendar.monthrange(year, month)[1]`. -/
def monthDays (year month : Int) : Int :=
  if month = 2 then (if isLeap year then 29 else 28)
  else if month = 4 ∨ month = 6 ∨ month = 9 ∨ month = 11 then 30
  else 31

/-- `add_months`: natural months, clamped to the last day of the month. -/
def addMonths (d : Date) (months : Int) : Date :=
  if months = 0 then d
  else
    let totalMonths := d.year * 12 + (d.month - 1) + months
    let year := totalMonths / 12
    let month := totalMonths % 12 + 1
    { year := year, month := month, day := min d.day (monthDays year month) }

/-- `lots._add_months`, the lot service's own natural months. -/
def lotAddMonths (base : Date) (months : Int) : Date :=
  let monthIndex := (base.month - 1) + months
  let year := base.year + monthIndex / 12
  let month := monthIndex % 12 + 1
  { year := year, month := month, day := min base.day (monthDays year month) }

/-- `lots._add_years`: clamped to the last day of the month. -/
def addYears (d : Date) (years : Int) : Date :=
  { year := d.year + years, month := d.month
    day := min d.day (monthDays (d.year + years) d.month) }

/-- ISO form, as the error texts print a date. -/
def pad (width : Nat) (n : Int) : String :=
  let s := toString n
  String.ofList (List.replicate (width - s.length) '0') ++ s

def iso (d : Date) : String := s!"{pad 4 d.year}-{pad 2 d.month}-{pad 2 d.day}"

end Date

example : (Date.mk 2024 1 31).addMonths 1 = ⟨2024, 2, 29⟩ := by decide

example : (Date.mk 2025 2 28).addDays 1 = ⟨2025, 3, 1⟩ := by decide

/-! ## Day counts -/

namespace Date

/-- A date of the calendar. -/
def IsValid (d : Date) : Prop :=
  1 ≤ d.month ∧ d.month ≤ 12 ∧ 1 ≤ d.day ∧ d.day ≤ monthDays d.year d.month

instance (d : Date) : Decidable d.IsValid := inferInstanceAs (Decidable (_ ∧ _ ∧ _ ∧ _))

theorem monthDays_range (year month : Int) :
    28 ≤ monthDays year month ∧ monthDays year month ≤ 31 := by
  unfold monthDays
  split
  · split <;> omega
  · split <;> omega

/-- Within an era the year and the day of the year stay in their ranges. -/
private theorem yoe_doy_range {doe : Int} (h0 : 0 ≤ doe) (h1 : doe < 146097) :
    let yoe := (doe - doe / 1460 + doe / 36524 - doe / 146096) / 365
    let doy := doe - (365 * yoe + yoe / 4 - yoe / 100)
    (0 ≤ yoe ∧ yoe ≤ 399) ∧ 0 ≤ doy ∧ doy ≤ 366 := by
  intro yoe doy
  have hy : 0 ≤ yoe ∧ yoe ≤ 399 := by omega
  refine ⟨hy, ?_⟩
  have hd : doe / 36524 = 0 ∨ doe / 36524 = 1 ∨ doe / 36524 = 2 ∨ doe / 36524 = 3 ∨
      doe = 146096 := by omega
  -- the century of the year is that of the day, but for the era's last day
  have hcent : doe = 146096 ∨ yoe / 100 = doe / 36524 ∧ doe / 146096 = 0 := by
    rcases hd with h | h | h | h | h <;> omega
  rcases hcent with rfl | ⟨hg, he⟩
  · constructor <;> decide
  have hf : yoe / 4 ≤ doe / 1460 := by
    by_contra hlt
    have hle : 4 * (doe / 1460 + 1) ≤ yoe := by omega
    have hx : 365 * yoe ≤ doe - doe / 1460 + doe / 36524 - doe / 146096 := by omega
    omega
  have hf' : doe / 1460 ≤ yoe / 4 + 1 := by omega
  constructor
  · omega
  · omega

/-- A year of an era ends where the next begins. -/
private theorem doe_lt {doe : Int} (h0 : 0 ≤ doe) (h1 : doe < 146097) :
    let yoe := (doe - doe / 1460 + doe / 36524 - doe / 146096) / 365
    doe < 365 * (yoe + 1) + (yoe + 1) / 4 - (yoe + 1) / 100 + (yoe + 1) / 400 := by
  intro yoe
  have hy : 0 ≤ yoe ∧ yoe ≤ 399 := by omega
  by_cases hlast : doe = 146096
  · rw [show yoe = 399 by omega, hlast]
    decide
  have hcent : yoe / 100 = doe / 36524 ∧ doe / 146096 = 0 := by
    have hd : doe / 36524 = 0 ∨ doe / 36524 = 1 ∨ doe / 36524 = 2 ∨ doe / 36524 = 3 := by omega
    rcases hd with h | h | h | h <;> omega
  have hlt : doe - doe / 1460 + doe / 36524 < 365 * (yoe + 1) := by omega
  have hleap : 1460 * (doe / 1460) ≤ doe := by omega
  have hera : 0 ≤ (yoe + 1) / 400 := by omega
  have hend : doe < 36524 * (doe / 36524 + 1) := by omega
  have hz : (yoe + 1) / 100 = doe / 36524 ∨ (yoe + 1) / 100 = doe / 36524 + 1 ∧
      (yoe + 1) / 4 = 25 * (doe / 36524 + 1) := by omega
  generalize doe / 1460 = t at *
  generalize doe / 36524 = h at *
  generalize (yoe + 1) / 400 = f at *
  clear_value yoe
  omega

theorem ofDays_isValid (n : Int) : (ofDays n).IsValid := by
  have hdoe : 0 ≤ (n + 719468) - (n + 719468) / 146097 * 146097 ∧
      (n + 719468) - (n + 719468) / 146097 * 146097 < 146097 := by omega
  have hr := yoe_doy_range hdoe.1 hdoe.2
  have hlt := doe_lt hdoe.1 hdoe.2
  unfold ofDays IsValid
  simp only at hr hlt ⊢
  generalize hera : (n + 719468) / 146097 = era at *
  generalize hd : (n + 719468) - era * 146097 = doe at *
  generalize (doe - doe / 1460 + doe / 36524 - doe / 146096) / 365 = yoe at *
  generalize hy : doe - (365 * yoe + yoe / 4 - yoe / 100) = doy at *
  obtain ⟨⟨hy0, hy1⟩, hd0, hd1⟩ := hr
  have hmp : 0 ≤ (5 * doy + 2) / 153 ∧ (5 * doy + 2) / 153 ≤ 11 := by omega
  unfold monthDays isLeap
  by_cases hlate : (5 * doy + 2) / 153 < 10
  · have hmonth : ¬ (5 * doy + 2) / 153 + 3 = 2 := by omega
    simp only [if_pos hlate, if_neg hmonth]
    refine ⟨by omega, by omega, by omega, ?_⟩
    split <;> omega
  · -- January and February belong to the year after
    have hsmall : (5 * doy + 2) / 153 - 9 ≤ 2 := by omega
    simp only [if_neg hlate, if_pos hsmall]
    refine ⟨by omega, by omega, by omega, ?_⟩
    by_cases hfeb : (5 * doy + 2) / 153 - 9 = 2
    · rw [if_pos hfeb]
      have h4 : (yoe + 1) / 4 = yoe / 4 ∨ (yoe + 1) / 4 = yoe / 4 + 1 ∧ (yoe + 1) % 4 = 0 := by
        omega
      have h100 : (yoe + 1) / 100 = yoe / 100 ∧ (yoe + 1) % 100 ≠ 0 ∨
          (yoe + 1) / 100 = yoe / 100 + 1 := by omega
      have h400 : (yoe + 1) / 400 = 0 ∨ yoe = 399 := by omega
      have hlen : doy < 365 ∨ doy = 365 ∧ (yoe + 1) % 4 = 0 ∧
          ((yoe + 1) % 100 ≠ 0 ∨ (yoe + 1) % 400 = 0) := by
        rcases h400 with h400 | rfl
        · omega
        · omega
      have hyear : (yoe + era * 400 + 1) % 4 = (yoe + 1) % 4 ∧
          (yoe + era * 400 + 1) % 100 = (yoe + 1) % 100 ∧
          (yoe + era * 400 + 1) % 400 = (yoe + 1) % 400 := by omega
      simp only [hyear.1, hyear.2.1, hyear.2.2]
      split
      · omega
      · rename_i hleap
        rcases hlen with hlen | ⟨-, h4, h100⟩
        · omega
        · refine absurd ?_ hleap
          rcases h100 with h100 | h400
          · simp [h4, h100]
          · simp [h4, h400]
    · rw [if_neg hfeb]
      split <;> omega

/-- A day count is read back from its date. -/
theorem toDays_ofDays (n : Int) : (ofDays n).toDays = n := by
  have hdoe : 0 ≤ (n + 719468) - (n + 719468) / 146097 * 146097 ∧
      (n + 719468) - (n + 719468) / 146097 * 146097 < 146097 := by omega
  have hr := yoe_doy_range hdoe.1 hdoe.2
  unfold ofDays toDays
  simp only at hr ⊢
  generalize hera : (n + 719468) / 146097 = era at *
  generalize hd : (n + 719468) - era * 146097 = doe at *
  generalize (doe - doe / 1460 + doe / 36524 - doe / 146096) / 365 = yoe at *
  generalize hy : doe - (365 * yoe + yoe / 4 - yoe / 100) = doy at *
  obtain ⟨⟨hy0, hy1⟩, hd0, hd1⟩ := hr
  have hmp : 0 ≤ (5 * doy + 2) / 153 ∧ (5 * doy + 2) / 153 ≤ 11 := by omega
  generalize (5 * doy + 2) / 153 = mp at *
  by_cases hlate : mp < 10
  · -- March to December
    have h2 : ¬ mp + 3 ≤ 2 := by omega
    have hmod : (mp + 3 + 9) % 12 = mp := by omega
    have hq : (yoe + era * 400) / 400 = era := by omega
    have hyy : yoe + era * 400 - era * 400 = yoe := by omega
    simp only [if_pos hlate, if_neg h2, add_zero, hmod, hq]
    rw [hyy]
    omega
  · -- January and February belong to the year before
    have h2 : mp - 9 ≤ 2 := by omega
    have hmod : (mp - 9 + 9) % 12 = mp := by omega
    have hq : (yoe + era * 400 + 1 - 1) / 400 = era := by omega
    have hyy : yoe + era * 400 + 1 - 1 - era * 400 = yoe := by omega
    simp only [if_neg hlate, if_pos h2, hmod, hq]
    rw [hyy]
    omega

theorem addDays_injective {d : Date} {m n : Int} (h : d.addDays m = d.addDays n) : m = n := by
  have h' := congrArg toDays h
  simp only [addDays, toDays_ofDays] at h'
  omega

/-- The year whose count of days starts in March. -/
def marchYear (d : Date) : Int := if d.month ≤ 2 then d.year - 1 else d.year

theorem toDays_eq (d : Date) :
    d.toDays = 365 * d.marchYear + d.marchYear / 4 - d.marchYear / 100 + d.marchYear / 400 +
      (153 * ((d.month + 9) % 12) + 2) / 5 + d.day - 719469 := by
  have hY : (if d.month ≤ 2 then d.year - 1 else d.year) = d.marchYear := rfl
  simp only [toDays, hY]
  generalize d.marchYear = y
  omega

/-- Later years start later. -/
private theorem yearDays_mono {y y' : Int} (h : y ≤ y') :
    365 * y + y / 4 - y / 100 + y / 400 ≤ 365 * y' + y' / 4 - y' / 100 + y' / 400 := by
  have h4 : y / 4 ≤ y' / 4 := by omega
  have h100 : y' / 100 ≤ y / 100 + (y' - y) := by omega
  have h400 : y / 400 ≤ y' / 400 := by omega
  omega

private theorem yearDays_step (y : Int) : 365 * y + y / 4 - y / 100 + y / 400 + 365 ≤
    365 * (y + 1) + (y + 1) / 4 - (y + 1) / 100 + (y + 1) / 400 := by
  have h4 : y / 4 ≤ (y + 1) / 4 := by omega
  have h100 : (y + 1) / 100 = y / 100 ∨
      (y + 1) / 100 = y / 100 + 1 ∧ (y + 1) / 4 = y / 4 + 1 := by omega
  have h400 : y / 400 ≤ (y + 1) / 400 := by omega
  omega

/-- The days of a March year, up to the end of the month of the date. -/
private theorem day_le {d : Date} (h : d.IsValid) :
    (d.month + 9) % 12 ≠ 11 ∧
        (153 * ((d.month + 9) % 12) + 2) / 5 + d.day ≤ (153 * ((d.month + 9) % 12 + 1) + 2) / 5 ∨
      (d.month + 9) % 12 = 11 ∧ 337 + d.day ≤ 365 + ((d.marchYear + 1) / 4 - d.marchYear / 4) -
        ((d.marchYear + 1) / 100 - d.marchYear / 100) +
        ((d.marchYear + 1) / 400 - d.marchYear / 400) := by
  obtain ⟨hm1, hm2, hd1, hd2⟩ := h
  unfold monthDays isLeap at hd2
  by_cases hfeb : d.month = 2
  · refine Or.inr ⟨by omega, ?_⟩
    have hy : d.year = d.marchYear + 1 := by
      rw [marchYear, if_pos (by omega)]
      omega
    rw [if_pos hfeb, hy] at hd2
    generalize d.marchYear = y at *
    have h4 : (y + 1) / 4 = y / 4 ∧ (y + 1) % 4 ≠ 0 ∨ (y + 1) / 4 = y / 4 + 1 := by omega
    have h100 : (y + 1) / 100 = y / 100 ∨ (y + 1) / 100 = y / 100 + 1 ∧ (y + 1) % 100 = 0 := by
      omega
    have h400 : (y + 1) / 400 = y / 400 ∧ (y + 1) % 400 ≠ 0 ∨ (y + 1) / 400 = y / 400 + 1 := by
      omega
    split at hd2
    · rename_i hleap
      simp only [ne_eq, decide_not, Bool.and_eq_true, decide_eq_true_eq, Bool.or_eq_true,
        Bool.not_eq_eq_eq_not, Bool.not_true, decide_eq_false_iff_not] at hleap
      omega
    · omega
  · refine Or.inl ⟨by omega, ?_⟩
    rw [if_neg hfeb] at hd2
    split at hd2
    · omega
    · have hlong : d.month = 1 ∨ d.month = 3 ∨ d.month = 5 ∨ d.month = 7 ∨ d.month = 8 ∨
          d.month = 10 ∨ d.month = 12 := by omega
      rcases hlong with h | h | h | h | h | h | h <;> rw [h] <;> omega

/-- **Calendar order is day order.** -/
theorem toDays_lt_toDays {a b : Date} (ha : a.IsValid) (hb : b.IsValid) (h : a.before b) :
    a.toDays < b.toDays := by
  have hda := day_le ha
  obtain ⟨hma1, hma2, -, -⟩ := ha
  obtain ⟨hmb1, hmb2, hdb, -⟩ := hb
  rw [toDays_eq, toDays_eq]
  -- the later date is in a later March year, in a later month of it, or later in the month
  have horder : a.marchYear < b.marchYear ∨ a.marchYear = b.marchYear ∧
      ((a.month + 9) % 12 < (b.month + 9) % 12 ∨
        (a.month + 9) % 12 = (b.month + 9) % 12 ∧ a.day < b.day) := by
    unfold before at h
    unfold marchYear
    split <;> split <;> omega
  have hma : (a.month + 9) % 12 ≤ 11 := by omega
  generalize (a.month + 9) % 12 = ma at *
  generalize a.marchYear = ya at *
  rcases horder with hlt | ⟨heq, hlt | ⟨heq', hlt⟩⟩
  · have hmb : 0 ≤ (b.month + 9) % 12 := by omega
    have hyears := yearDays_mono (Int.add_one_le_iff.mpr hlt)
    rcases hda with ⟨hne, hda⟩ | ⟨rfl, hda⟩
    · have hend : (153 * (ma + 1) + 2) / 5 ≤ 337 := by omega
      have hstep := yearDays_step ya
      omega
    · omega
  · rw [← heq]
    rcases hda with ⟨-, hda⟩ | ⟨hfeb, -⟩
    · omega
    · omega
  · rw [heq, heq']
    omega

/-- A year is longer than a day, in both directions. -/
theorem toDays_addYears {d : Date} (h : d.IsValid) {years : Int} (hpos : 0 < years) :
    d.toDays + years < (d.addYears years).toDays ∧
      (d.addYears (-years)).toDays < d.toDays - years := by
  have hfwd := monthDays_range (d.year + years) d.month
  have hmonth := monthDays_range d.year d.month
  have hY : ∀ n, (d.addYears n).marchYear = d.marchYear + n := by
    intro n
    simp only [marchYear, addYears]
    split <;> omega
  obtain ⟨-, -, hd1, hd2⟩ := h
  simp only [toDays_eq, hY]
  simp only [addYears]
  generalize d.marchYear = y
  generalize (153 * ((d.month + 9) % 12) + 2) / 5 = c
  have hmin : d.day - 3 ≤ min d.day (monthDays (d.year + years) d.month) := by omega
  have hmin' : min d.day (monthDays (d.year + -years) d.month) ≤ d.day := by omega
  constructor
  · omega
  · omega

theorem not_before_addDays {d : Date} (h : d.IsValid) {n : Int} (hn : 0 ≤ n) :
    ¬ (d.addDays n).before d := by
  intro hlt
  have hdays := toDays_lt_toDays (ofDays_isValid _) h hlt
  rw [toDays_ofDays] at hdays
  omega

theorem addDays_not_after {d : Date} (h : d.IsValid) {n : Int} (hn : n ≤ 0) :
    ¬ d.before (d.addDays n) := by
  intro hlt
  have hdays := toDays_lt_toDays h (ofDays_isValid _) hlt
  rw [toDays_ofDays] at hdays
  omega

theorem not_before_lotAddMonths {d : Date} (h : d.IsValid) {n : Int} (hn : 0 < n) :
    ¬ (d.lotAddMonths n).before d := by
  obtain ⟨hm1, hm2, -, -⟩ := h
  unfold lotAddMonths before
  simp only
  omega

theorem addMonths_not_after {d : Date} (h : d.IsValid) {n : Int} (hn : n < 0) :
    ¬ d.before (d.addMonths n) := by
  obtain ⟨hm1, hm2, -, -⟩ := h
  unfold addMonths before
  rw [if_neg (by omega)]
  simp only
  omega

/-- The two natural months are one. -/
theorem lotAddMonths_eq {d : Date} (h : d.IsValid) (months : Int) :
    d.lotAddMonths months = d.addMonths months := by
  obtain ⟨hm1, hm2, hd1, hd2⟩ := h
  unfold lotAddMonths addMonths
  by_cases hz : months = 0
  · subst hz
    have hy : d.year + (d.month - 1 + 0) / 12 = d.year := by omega
    have hm : (d.month - 1 + 0) % 12 + 1 = d.month := by omega
    simp only [hy, hm, if_true]
    rw [min_eq_left hd2]
  · have hy : (d.year * 12 + (d.month - 1) + months) / 12 = d.year + (d.month - 1 + months) / 12 := by
      omega
    have hm : (d.year * 12 + (d.month - 1) + months) % 12 = (d.month - 1 + months) % 12 := by
      omega
    simp only [if_neg hz, hy, hm]

end Date

/-! ## Shelf life -/

/-- The units `items.shelf_life_unit` may hold. -/
inductive ShelfLifeUnit
  | day | week | month | year
deriving DecidableEq, Repr

/-- `expiry_rules.ShelfLifeUnit`, the units the shared rules know. -/
inductive RuleUnit
  | day | month
deriving DecidableEq, Repr

/-- `expiry_rules.ShelfLife`: a positive number of units. -/
structure ShelfLife where
  value : Int
  unit : RuleUnit
  effective : 0 < value

/-- `_build_shelf_life`: a unit the shared rules do not know falls back to days. -/
def buildShelfLife (value : Option Int) (unit : Option ShelfLifeUnit) : Option ShelfLife :=
  match value, unit with
  | some v, some u =>
      if h : 0 < v then some ⟨v, (match u with | .month => .month | _ => .day), h⟩ else none
  | _, _ => none

/-- `compute_expiry_from_shelf_life`. -/
def computeExpiryFromShelfLife (productionDate : Date) (shelfLife : ShelfLife) : Date :=
  match shelfLife.unit with
  | .day => productionDate.addDays shelfLife.value
  | .month => productionDate.addMonths shelfLife.value

/-- `compute_production_from_shelf_life`. -/
def computeProductionFromShelfLife (expiryDate : Date) (shelfLife : ShelfLife) : Date :=
  match shelfLife.unit with
  | .day => expiryDate.addDays (-shelfLife.value)
  | .month => expiryDate.addMonths (-shelfLife.value)

/-- A production date derived from an expiry date is not behind it. -/
theorem computeProduction_not_after {expiryDate : Date} (h : expiryDate.IsValid)
    (shelfLife : ShelfLife) :
    ¬ expiryDate.before (computeProductionFromShelfLife expiryDate shelfLife) := by
  have hpos := shelfLife.effective
  unfold computeProductionFromShelfLife
  split
  · exact Date.addDays_not_after h (by omega)
  · exact Date.addMonths_not_after h (by omega)

/-- `validate_expiry_consistency`: what cannot be checked is accepted. -/
def validateExpiryConsistency (productionDate expiryDate : Option Date)
    (shelfLife : Option ShelfLife) (toleranceDays : Int) : Bool :=
  match productionDate, expiryDate, shelfLife with
  | some production, some expiry, some life =>
      let expected := computeExpiryFromShelfLife production life
      (expiry.toDays - expected.toDays).natAbs ≤ max toleranceDays 0
  | _, _, _ => true

/-- The default of `tolerance_days`. -/
def defaultToleranceDays : Int := 3

/-- `_shift_date_by_shelf_life`, the lot service's own rule, which knows all
four units; `direction` is `1` or `-1`. -/
def shiftDateByShelfLife (base : Date) (shelfLifeValue : Option Int)
    (shelfLifeUnit : Option ShelfLifeUnit) (direction : Int) : Option Date :=
  match shelfLifeValue, shelfLifeUnit with
  | some v, some u =>
      let step := if 0 ≤ direction then v else -v
      match u with
      | .day => some (base.addDays step)
      | .week => some (base.addDays (7 * step))
      | .month => some (base.lotAddMonths step)
      | .year => some (base.addYears step)
  | _, _ => none

/-- A date shifted forward is not before the date it comes from. -/
theorem not_before_shiftDate {base : Date} (h : base.IsValid) {value : Int} (hpos : 0 < value)
    {unit : Option ShelfLifeUnit} {d : Date}
    (hd : shiftDateByShelfLife base (some value) unit 1 = some d) : ¬ d.before base := by
  unfold shiftDateByShelfLife at hd
  cases unit with
  | none => cases hd
  | some u =>
      simp only [zero_le_one, if_true] at hd
      cases u with
      | day =>
          obtain rfl := Option.some.inj hd
          exact Date.not_before_addDays h (by omega)
      | week =>
          obtain rfl := Option.some.inj hd
          exact Date.not_before_addDays h (by omega)
      | month =>
          obtain rfl := Option.some.inj hd
          exact Date.not_before_lotAddMonths h hpos
      | year =>
          obtain rfl := Option.some.inj hd
          unfold Date.addYears Date.before
          simp only
          omega

end WmsDu
