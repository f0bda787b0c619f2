import Mathlib
import WmsDu.Shared.Dates
import WmsDu.Shared.Fallible

/-!
# Laws of the natural months

Moving by months is monotone and clips to the last day of the month it lands
in. Going back and forth again loses at most the three days by which months
differ. Dates are not cut off at the years the code supports, so the laws hold
inside that range and beyond it.
-/

namespace WmsDu

namespace Date

/-! ## Order -/

/-- Two dates of the calendar compare as their day counts do. -/
theorem not_before_iff {a b : Date} (ha : a.IsValid) (hb : b.IsValid) :
    ¬ a.before b ↔ b.toDays ≤ a.toDays := by
  constructor
  · intro h
    -- calendar order is total
    have hcases : b.before a ∨ a = b := by
      cases a
      cases b
      simp only [before, Date.mk.injEq] at h ⊢
      omega
    rcases hcases with hlt | rfl
    · exact (toDays_lt_toDays hb ha hlt).le
    · exact le_refl _
  · intro h hlt
    have hdays := toDays_lt_toDays ha hb hlt
    omega

theorem before_iff {a b : Date} (ha : a.IsValid) (hb : b.IsValid) :
    a.before b ↔ a.toDays < b.toDays := by
  rw [← not_iff_not, not_before_iff ha hb]
  omega

theorem addDays_isValid (d : Date) (n : Int) : (d.addDays n).IsValid := ofDays_isValid _

@[simp] theorem toDays_addDays (d : Date) (n : Int) : (d.addDays n).toDays = d.toDays + n :=
  toDays_ofDays _

/-! ## One move -/

/-- The months of the common era up to the month of the date. -/
def monthCount (d : Date) : Int := d.year * 12 + d.month

/-- The day of the month stays, or becomes the last day of a shorter month. -/
def DayKept (d d' : Date) : Prop :=
  d'.day = d.day ∨ d'.day < d.day ∧ d'.day = monthDays d'.year d'.month

theorem addMonths_monthCount (d : Date) (n : Int) :
    (d.addMonths n).monthCount = d.monthCount + n := by
  unfold addMonths monthCount
  split
  · omega
  · simp only
    omega

theorem addMonths_isValid {d : Date} (h : d.IsValid) (n : Int) : (d.addMonths n).IsValid := by
  unfold addMonths
  split
  · exact h
  · have hdays := monthDays_range ((d.year * 12 + (d.month - 1) + n) / 12)
      ((d.year * 12 + (d.month - 1) + n) % 12 + 1)
    obtain ⟨-, -, hd1, -⟩ := h
    refine ⟨?_, ?_, ?_, ?_⟩
    · show 1 ≤ (d.year * 12 + (d.month - 1) + n) % 12 + 1
      omega
    · show (d.year * 12 + (d.month - 1) + n) % 12 + 1 ≤ 12
      omega
    · exact le_min hd1 (by omega)
    · exact min_le_right _ _

/-- The day after a move is the lesser of the day before it and the length of
the month, also where nothing moves. -/
theorem addMonths_day {d : Date} (h : d.IsValid) (n : Int) :
    (d.addMonths n).day = min d.day (monthDays (d.addMonths n).year (d.addMonths n).month) := by
  unfold addMonths
  split
  · exact (min_eq_left h.2.2.2).symm
  · rfl

theorem addMonths_dayKept {d : Date} (h : d.IsValid) (n : Int) : d.DayKept (d.addMonths n) := by
  have hday := addMonths_day h n
  unfold DayKept
  omega

/-- A month is told by its count. -/
theorem eq_of_monthCount {a b : Date} (ha : a.IsValid) (hb : b.IsValid)
    (h : a.monthCount = b.monthCount) : a.year = b.year ∧ a.month = b.month := by
  obtain ⟨ha1, ha2, -, -⟩ := ha
  obtain ⟨hb1, hb2, -, -⟩ := hb
  unfold monthCount at h
  omega

/-- Calendar order by month counts. -/
theorem before_iff_monthCount {a b : Date} (ha : a.IsValid) (hb : b.IsValid) :
    a.before b ↔ a.monthCount < b.monthCount ∨ a.monthCount = b.monthCount ∧ a.day < b.day := by
  obtain ⟨ha1, ha2, -, -⟩ := ha
  obtain ⟨hb1, hb2, -, -⟩ := hb
  unfold before monthCount
  omega

/-- **Moving by months keeps the order of dates.** -/
theorem addMonths_mono {a b : Date} (ha : a.IsValid) (hb : b.IsValid) (h : ¬ b.before a)
    (n : Int) : ¬ (b.addMonths n).before (a.addMonths n) := by
  have ha' := addMonths_isValid ha n
  have hb' := addMonths_isValid hb n
  rw [before_iff_monthCount hb ha] at h
  rw [before_iff_monthCount hb' ha']
  intro hlt
  have hca := addMonths_monthCount a n
  have hcb := addMonths_monthCount b n
  -- the later date lands in an earlier month, or in the same one on an earlier day
  rcases hlt with hlt | ⟨heq, hlt⟩
  · omega
  · have hsame := eq_of_monthCount hb' ha' heq
    have hda := addMonths_day ha n
    have hdb := addMonths_day hb n
    rw [hsame.1, hsame.2] at hdb
    omega

/-! ## Back and forth -/

/-- Going back and forth lands in the month it started from, on its day or on
the last day that the month between has. -/
theorem addMonths_addMonths_neg {d : Date} (h : d.IsValid) (n : Int) :
    ((d.addMonths (-n)).addMonths n).year = d.year ∧
      ((d.addMonths (-n)).addMonths n).month = d.month ∧
      d.day - 3 ≤ ((d.addMonths (-n)).addMonths n).day ∧
      ((d.addMonths (-n)).addMonths n).day ≤ d.day := by
  have h1 := addMonths_isValid h (-n)
  have h2 := addMonths_isValid h1 n
  have hback : ((d.addMonths (-n)).addMonths n).monthCount = d.monthCount := by
    rw [addMonths_monthCount, addMonths_monthCount]
    omega
  obtain ⟨hyear, hmonth⟩ := eq_of_monthCount h2 h hback
  refine ⟨hyear, hmonth, ?_⟩
  have hday := addMonths_day h1 n
  rw [addMonths_day h (-n), hyear, hmonth] at hday
  have hbetween := monthDays_range (d.addMonths (-n)).year (d.addMonths (-n)).month
  have hown := monthDays_range d.year d.month
  obtain ⟨-, -, -, hd2⟩ := h
  omega

/-- Two dates of one month are as many days apart as their days say. -/
theorem toDays_sub {a b : Date} (hyear : a.year = b.year) (hmonth : a.month = b.month) :
    a.toDays - b.toDays = a.day - b.day := by
  rw [toDays_eq, toDays_eq]
  unfold marchYear
  rw [hyear, hmonth]
  omega

theorem toDays_addMonths_neg {d : Date} (h : d.IsValid) (n : Int) :
    d.toDays - 3 ≤ ((d.addMonths (-n)).addMonths n).toDays ∧
      ((d.addMonths (-n)).addMonths n).toDays ≤ d.toDays := by
  obtain ⟨hyear, hmonth, hlow, hhigh⟩ := addMonths_addMonths_neg h n
  have hsub := toDays_sub hyear hmonth
  omega

end Date

/-! ## Shelf life -/

open Date

/-- A positive shelf life lies between a production date and its expiry date. -/
theorem computeProduction_before {expiryDate : Date} (h : expiryDate.IsValid)
    (shelfLife : ShelfLife) :
    (computeProductionFromShelfLife expiryDate shelfLife).before expiryDate := by
  have hpos := shelfLife.effective
  unfold computeProductionFromShelfLife
  split
  · rw [before_iff (addDays_isValid _ _) h, toDays_addDays]
    omega
  · rw [before_iff_monthCount (addMonths_isValid h _) h, addMonths_monthCount]
    omega

/-- Deriving the production date and from it the expiry date again loses at
most three days. -/
theorem toDays_computeExpiry {expiryDate : Date} (h : expiryDate.IsValid)
    (shelfLife : ShelfLife) :
    (expiryDate.toDays - (computeExpiryFromShelfLife
      (computeProductionFromShelfLife expiryDate shelfLife) shelfLife).toDays).natAbs ≤
        (3 : Int) := by
  unfold computeExpiryFromShelfLife computeProductionFromShelfLife
  cases shelfLife.unit with
  | day =>
      simp only [toDays_addDays]
      omega
  | month =>
      have hback := toDays_addMonths_neg h shelfLife.value
      simp only
      omega

/-- **Month arithmetic.** The laws of a valid date `d`: every move lands on a
valid date of the month so many months away, keeps the day but for clipping
and keeps the order to any other date; back and forth stays within three days
before `d`; and a production date derived from `d` is before it and passes the
consistency check with the default tolerance. -/
theorem month_arithmetic {d : Date} (hd : d.IsValid) :
    (∀ n : Int, (d.addMonths n).IsValid ∧ (d.addMonths n).monthCount = d.monthCount + n ∧
      d.DayKept (d.addMonths n) ∧
      (∀ e : Date, e.IsValid → ¬ e.before d → ¬ (e.addMonths n).before (d.addMonths n)) ∧
      ¬ ((d.addMonths (-n)).addMonths n).before (d.addDays (-3)) ∧
      ¬ d.before ((d.addMonths (-n)).addMonths n)) ∧
    ∀ shelfLife : ShelfLife,
      (computeProductionFromShelfLife d shelfLife).before d ∧
      validateExpiryConsistency (some (computeProductionFromShelfLife d shelfLife)) (some d)
        (some shelfLife) defaultToleranceDays = true := by
  constructor
  · intro n
    have hback := addMonths_isValid (addMonths_isValid hd (-n)) n
    obtain ⟨hlow, hhigh⟩ := toDays_addMonths_neg hd n
    refine ⟨addMonths_isValid hd n, addMonths_monthCount d n, addMonths_dayKept hd n,
      fun e he hle => addMonths_mono hd he hle n, ?_, ?_⟩
    · rw [not_before_iff hback (addDays_isValid _ _), toDays_addDays]
      omega
    · rw [not_before_iff hd hback]
      exact hhigh
  · intro shelfLife
    refine ⟨computeProduction_before hd shelfLife, ?_⟩
    have hdays := toDays_computeExpiry hd shelfLife
    exact decide_eq_true hdays

/-- The last day of June goes back to a clipped day, and comes back a day early. -/
theorem month_arithmetic_june :
    ((Date.mk 2024 6 30).addMonths (-4)).IsValid ∧
      validateExpiryConsistency
        (some (computeProductionFromShelfLife ⟨2024, 6, 30⟩ ⟨4, .month, four_gt_zero⟩))
        (some ⟨2024, 6, 30⟩) (some ⟨4, .month, four_gt_zero⟩) defaultToleranceDays = true := by
  have h := month_arithmetic (show (Date.mk 2024 6 30).IsValid by decide)
  exact ⟨(h.1 (-4)).1, (h.2 ⟨4, .month, four_gt_zero⟩).2⟩

end WmsDu
