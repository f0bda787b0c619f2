import WmsDu.Billing.Reconcile

/-!
# The bill map

The loop over the bill keeps the first item of each tracking number and then
drops the numbers that came again: what is left are the items that share
their number with no other.
-/

namespace WmsDu

/-- The tracking number an item is looked up by. -/
def CarrierBillItem.number (i : CarrierBillItem) : String := strip i.trackingNo

/-- The item has a number no other row of the list has. -/
def CarrierBillItem.AloneIn (i : CarrierBillItem) (rows : List CarrierBillItem) : Prop :=
  i.number ≠ "" ∧ (rows.map CarrierBillItem.number).count i.number = 1

instance (i : CarrierBillItem) (rows : List CarrierBillItem) : Decidable (i.AloneIn rows) :=
  inferInstanceAs (Decidable (_ ∧ _))

private def entry (i : CarrierBillItem) : String × CarrierBillItem := (i.number, i)

private theorem filter_iff {α : Type} {p q : α → Prop} [DecidablePred p] [DecidablePred q]
    {l : List α} (h : ∀ a ∈ l, (p a ↔ q a)) :
    l.filter (fun a => decide (p a)) = l.filter (fun a => decide (q a)) :=
  List.filter_congr fun a ha => decide_eq_decide.mpr (h a ha)

/-- Being alone beside one more row of another number. -/
private theorem aloneIn_cons {i row : CarrierBillItem} {rows : List CarrierBillItem}
    (h : i.number ≠ row.number ∨ row.number = "") :
    i.AloneIn (row :: rows) ↔ i.AloneIn rows := by
  unfold CarrierBillItem.AloneIn
  rw [List.map_cons, List.count_cons]
  refine and_congr_right fun hi => ?_
  have hne : ¬ (row.number == i.number) = true := by
    rw [beq_iff_eq]
    rintro heq
    rcases h with h | h
    · exact h heq.symm
    · exact hi (heq.symm.trans h)
  rw [if_neg hne, add_zero]

/-- The first row is alone when no later one has its number. -/
private theorem aloneIn_head {row : CarrierBillItem} {rows : List CarrierBillItem}
    (h : row.number ≠ "") :
    row.AloneIn (row :: rows) ↔ row.number ∉ rows.map CarrierBillItem.number := by
  unfold CarrierBillItem.AloneIn
  rw [List.map_cons, List.count_cons_self]
  simp [h, List.count_eq_zero]

/-- A later row of the first one's number is not alone. -/
private theorem not_aloneIn_tail {i row : CarrierBillItem} {rows : List CarrierBillItem}
    (hi : i ∈ rows) (h : i.number = row.number) : ¬ i.AloneIn (row :: rows) := by
  rintro ⟨-, hcount⟩
  rw [List.map_cons, h, List.count_cons_self] at hcount
  have hpos : 0 < (rows.map CarrierBillItem.number).count row.number :=
    List.count_pos_iff.mpr (h ▸ List.mem_map_of_mem hi)
  omega

/-- The loop from a state: entries whose number does not come again, and rows
alone with a new number. -/
private theorem collectBill_filter (rows : List CarrierBillItem)
    (billMap : List (String × CarrierBillItem)) (duplicates : List String)
    (hnamed : ∀ e ∈ billMap, e.1 ≠ "") (hkeys : ∀ t ∈ duplicates, t ∈ billMap.map (·.1)) :
    ((collectBill rows (billMap, duplicates)).1.filter fun e =>
        decide (e.1 ∉ (collectBill rows (billMap, duplicates)).2)) =
      (billMap.filter fun e =>
        decide (e.1 ∉ duplicates ∧ e.1 ∉ rows.map CarrierBillItem.number)) ++
        (rows.filter fun i =>
          decide (i.AloneIn rows ∧ i.number ∉ billMap.map (·.1))).map entry := by
  induction rows generalizing billMap duplicates with
  | nil =>
      simp only [collectBill, List.filter_nil, List.map_nil, List.append_nil]
      exact filter_iff fun e _ => by simp
  | cons row rows ih =>
      have hnumber : strip row.trackingNo = row.number := rfl
      unfold collectBill
      dsimp only
      rw [hnumber, List.filter_cons]
      split
      · -- a row without a number is left out
        rename_i hblank
        rw [ih billMap duplicates hnamed hkeys, if_neg (by simp [CarrierBillItem.AloneIn, hblank])]
        refine congrArg₂ List.append ?_ (congrArg (List.map entry) ?_)
        · refine filter_iff fun e he => ?_
          rw [List.map_cons, List.mem_cons, hblank]
          simp [hnamed e he]
        · refine filter_iff fun i _ => ?_
          rw [aloneIn_cons (.inr hblank)]
      · rename_i hnamedRow
        split
        · -- the number came before
          rename_i hseen
          have hkeys' : ∀ t ∈ duplicates.insert row.number, t ∈ billMap.map (·.1) := by
            intro t ht
            rcases List.mem_insert_iff.mp ht with rfl | ht
            · exact hseen
            · exact hkeys t ht
          rw [ih billMap _ hnamed hkeys', if_neg (by simp [hseen])]
          refine congrArg₂ List.append ?_ (congrArg (List.map entry) ?_)
          · refine filter_iff fun e _ => ?_
            rw [List.mem_insert_iff, List.map_cons, List.mem_cons, not_or, not_or, and_assoc,
              and_left_comm]
          · refine filter_iff fun i _ => ?_
            by_cases hi : i.number = row.number
            · simp [hi, hseen]
            · rw [aloneIn_cons (.inl hi)]
        · -- a new number
          rename_i hnew
          have hnamed' : ∀ e ∈ billMap ++ [(row.number, row)], e.1 ≠ "" := by
            intro e he
            rcases List.mem_append.mp he with he | he
            · exact hnamed e he
            · rw [List.mem_singleton.mp he]
              exact hnamedRow
          have hkeys' : ∀ t ∈ duplicates, t ∈ (billMap ++ [(row.number, row)]).map (·.1) := by
            intro t ht
            rw [List.map_append, List.mem_append]
            exact .inl (hkeys t ht)
          have hnodup : row.number ∉ duplicates := fun h => hnew (hkeys _ h)
          rw [ih _ duplicates hnamed' hkeys', List.filter_append, List.append_assoc]
          refine congrArg₂ List.append ?_ ?_
          · refine filter_iff fun e he => ?_
            have hne : e.1 ≠ row.number := fun h => hnew (h ▸ List.mem_map_of_mem he)
            rw [List.map_cons, List.mem_cons]
            simp [hne]
          · have hrest : (rows.filter fun i => decide (i.AloneIn rows ∧
                i.number ∉ (billMap ++ [(row.number, row)]).map (·.1))) =
                rows.filter fun i => decide (i.AloneIn (row :: rows) ∧
                  i.number ∉ billMap.map (·.1)) := by
              refine filter_iff fun i hi => ?_
              by_cases heq : i.number = row.number
              · simp [heq, not_aloneIn_tail hi heq]
              · rw [aloneIn_cons (.inl heq)]
                simp [heq]
            rw [hrest]
            by_cases hlast : row.number ∈ rows.map CarrierBillItem.number
            · rw [if_neg (by simp only [aloneIn_head hnamedRow]; simp [hlast])]
              simp only [List.filter_cons, List.filter_nil]
              rw [if_neg (by simp only [decide_eq_true_eq]; exact fun h => h.2 hlast)]
              rfl
            · rw [if_pos (by simp only [aloneIn_head hnamedRow, decide_eq_true_eq]
                             exact ⟨hlast, hnew⟩)]
              simp only [List.filter_cons, List.filter_nil]
              rw [if_pos (by simp only [decide_eq_true_eq]; exact ⟨hnodup, hlast⟩)]
              rfl

/-- **Bill map.** The items that are alone with their number. -/
theorem billMapOf_eq (rows : List CarrierBillItem) :
    billMapOf rows = (rows.filter fun i => decide (i.AloneIn rows)).map fun i => (i.number, i) := by
  have h := collectBill_filter rows [] [] (by simp) (by simp)
  unfold billMapOf
  simp only [List.filter_nil, List.map_nil, List.not_mem_nil, not_false_eq_true, and_true,
    List.nil_append] at h
  exact h

/-- Alone with a number: no other row has it. -/
theorem CarrierBillItem.aloneIn_iff {rows : List CarrierBillItem} (hnodup : rows.Nodup)
    {i : CarrierBillItem} (hi : i ∈ rows) :
    i.AloneIn rows ↔ i.number ≠ "" ∧ ∀ j ∈ rows, j.number = i.number → j = i := by
  induction rows with
  | nil => cases hi
  | cons row rows ih =>
      obtain ⟨hrow, hnodup⟩ := List.nodup_cons.mp hnodup
      by_cases hblank : i.number = ""
      · simp [AloneIn, hblank]
      rcases List.mem_cons.mp hi with rfl | hi
      · rw [aloneIn_head hblank, List.forall_mem_cons]
        constructor
        · intro hnew
          exact ⟨hblank, fun _ => rfl, fun j hj heq => absurd (heq ▸ List.mem_map_of_mem hj) hnew⟩
        · rintro ⟨-, -, hall⟩ hmem
          obtain ⟨j, hj, heq⟩ := List.mem_map.mp hmem
          exact hrow (hall j hj heq ▸ hj)
      · by_cases hsame : i.number = row.number
        · refine iff_of_false (not_aloneIn_tail hi hsame) fun h => hrow ?_
          rw [h.2 row List.mem_cons_self hsame.symm]
          exact hi
        · rw [aloneIn_cons (.inl hsame), ih hnodup hi, List.forall_mem_cons]
          refine and_congr_right fun _ => ⟨fun h => ⟨fun heq => absurd heq.symm hsame, h⟩, fun h => h.2⟩

theorem mem_billMapOf {rows : List CarrierBillItem} {e : String × CarrierBillItem} :
    e ∈ billMapOf rows ↔ e.2 ∈ rows ∧ e.2.AloneIn rows ∧ e.1 = e.2.number := by
  rw [billMapOf_eq, List.mem_map]
  constructor
  · rintro ⟨i, hi, rfl⟩
    obtain ⟨hi, halone⟩ := List.mem_filter.mp hi
    exact ⟨hi, of_decide_eq_true halone, rfl⟩
  · rintro ⟨hi, halone, heq⟩
    exact ⟨e.2, List.mem_filter.mpr ⟨hi, decide_eq_true halone⟩, Prod.ext heq.symm rfl⟩

end WmsDu
