import WmsDu.Stock.Lots

/-!
# The two shelf-life derivations

A missing date is derived from the shelf life in two places: the expiry
resolver on the inbound path, and the lot service's own shift. They know
different units.
-/

namespace WmsDu

/-- The shelf life as `_load_item_expiry_context` hands it to the lot service. -/
def lotShelfLife (value : Int) : Option Int := (some value).filter fun v => decide (0 < v)

/-- The expiry date is the same on both paths. -/
def SameExpiry (value : Int) (unit : ShelfLifeUnit) (productionDate : Date) : Prop :=
  shiftDateByShelfLife productionDate (lotShelfLife value) (some unit) 1 =
    (buildShelfLife (some value) (some unit)).map (computeExpiryFromShelfLife productionDate)

/-- The production date is the same on both paths. -/
def SameProduction (value : Int) (unit : ShelfLifeUnit) (expiryDate : Date) : Prop :=
  shiftDateByShelfLife expiryDate (lotShelfLife value) (some unit) (-1) =
    (buildShelfLife (some value) (some unit)).map (computeProductionFromShelfLife expiryDate)

instance (value : Int) (unit : ShelfLifeUnit) (d : Date) : Decidable (SameExpiry value unit d) :=
  inferInstanceAs (Decidable (_ = _))

theorem lotShelfLife_of_pos {value : Int} (h : 0 < value) : lotShelfLife value = some value := by
  simp [lotShelfLife, h]

theorem buildShelfLife_of_pos {value : Int} (h : 0 < value) (unit : ShelfLifeUnit) :
    buildShelfLife (some value) (some unit) =
      some ⟨value, match unit with | .month => .month | _ => .day, h⟩ := by
  cases unit <;> simp [buildShelfLife, h]

/-- Without a positive value neither path derives a date. -/
theorem sameDates_of_nonpos {value : Int} (h : ¬ 0 < value) (unit : ShelfLifeUnit) (d : Date) :
    SameExpiry value unit d ∧ SameProduction value unit d := by
  have hl : lotShelfLife value = none := by
    rw [lotShelfLife, Option.filter_some, if_neg (by simpa using h)]
  have hb : buildShelfLife (some value) (some unit) = none := by
    simp only [buildShelfLife, dif_neg h]
  simp only [SameExpiry, SameProduction, hl, hb, shiftDateByShelfLife, Option.map_none, and_self]

/-- **Shelf-life derivations.** On both directions the two paths derive the
same date exactly when the unit is one the shared rules know. -/
theorem shelf_life_derivations (value : Int) (unit : ShelfLifeUnit) (d : Date) (hd : d.IsValid) :
    (SameExpiry value unit d ↔ value ≤ 0 ∨ unit = .day ∨ unit = .month) ∧
      (SameProduction value unit d ↔ value ≤ 0 ∨ unit = .day ∨ unit = .month) := by
  by_cases hpos : 0 < value
  swap
  · have hsame := sameDates_of_nonpos hpos unit d
    have hle : value ≤ 0 := by omega
    exact ⟨iff_of_true hsame.1 (Or.inl hle), iff_of_true hsame.2 (Or.inl hle)⟩
  have hnle : ¬ value ≤ 0 := by omega
  simp only [SameExpiry, SameProduction, lotShelfLife_of_pos hpos, buildShelfLife_of_pos hpos,
    Option.map_some, shiftDateByShelfLife, computeExpiryFromShelfLife,
    computeProductionFromShelfLife, hnle, false_or]
  have hback : ¬ (0 : Int) ≤ -1 := by omega
  simp only [hback, if_false, zero_le_one, if_true]
  cases unit with
  | day => simp
  | month => simp [Date.lotAddMonths_eq hd]
  | week =>
      -- seven days a unit against one
      constructor
      · refine iff_of_false (fun h => ?_) (by simp)
        have := Date.addDays_injective (Option.some.inj h)
        omega
      · refine iff_of_false (fun h => ?_) (by simp)
        have := Date.addDays_injective (Option.some.inj h)
        omega
  | year =>
      obtain ⟨hfwd, hbwd⟩ := Date.toDays_addYears hd hpos
      constructor
      · refine iff_of_false (fun h => ?_) (by simp)
        have heq := congrArg Date.toDays (Option.some.inj h)
        rw [Date.addDays, Date.toDays_ofDays] at heq
        omega
      · refine iff_of_false (fun h => ?_) (by simp)
        have heq := congrArg Date.toDays (Option.some.inj h)
        rw [Date.addDays, Date.toDays_ofDays] at heq
        omega

/-- Two weeks after new year's day 2025. -/
theorem shelf_life_derivations_sample :
    (Date.mk 2025 1 1).IsValid ∧ ¬ SameExpiry 2 .week ⟨2025, 1, 1⟩ := by
  refine ⟨by decide, ?_⟩
  have h := shelf_life_derivations 2 .week ⟨2025, 1, 1⟩ (by decide)
  rw [h.1]
  decide

/-- A shelf life of two weeks: the lot service says the 15th, the resolver the
3rd of January. -/
theorem two_weeks_differ :
    shiftDateByShelfLife ⟨2025, 1, 1⟩ (lotShelfLife 2) (some .week) 1 = some ⟨2025, 1, 15⟩ ∧
      (buildShelfLife (some 2) (some .week)).map (computeExpiryFromShelfLife ⟨2025, 1, 1⟩) =
        some ⟨2025, 1, 3⟩ ∧ ¬ SameExpiry 2 .week ⟨2025, 1, 1⟩ :=
  ⟨by decide, by decide, by decide⟩

end WmsDu
