import WmsDu.Data.Intervals
import WmsDu.Pricing.Writes

/-!
# Weight ranges

The ranges of a template as intervals, what the check of a payload compares,
and that ranges which lie apart keep doing so when apart ones take their place
or are copied.
-/

namespace WmsDu

open Txn

/-! ## Columns -/

theorem roundHalfAway_mono {p q : ℚ} (h : p ≤ q) : roundHalfAway p ≤ roundHalfAway q := by
  unfold roundHalfAway
  split
  · rename_i hp
    rw [if_pos (hp.trans h)]
    exact Int.floor_mono (by linarith)
  · rename_i hp
    split
    · rename_i hq
      have hneg : 0 ≤ ⌊-p + 1 / 2⌋ := Int.floor_nonneg.mpr (by linarith)
      have hpos : 0 ≤ ⌊q + 1 / 2⌋ := Int.floor_nonneg.mpr (by linarith)
      omega
    · exact neg_le_neg (Int.floor_mono (by linarith))

theorem numericColumn_mono (scale : Nat) {p q : ℚ} (h : p ≤ q) :
    numericColumn scale p ≤ numericColumn scale q := by
  have hscale : (0 : ℚ) < 10 ^ scale := by positivity
  refine div_le_div_of_nonneg_right ?_ hscale.le
  exact_mod_cast roundHalfAway_mono (mul_le_mul_of_nonneg_right h hscale.le)

/-! ## The check -/

/-- The ranges in the order in which the check compares neighbours. -/
def orderedRanges (ranges : List (HalfOpen ℚ)) : List (HalfOpen ℚ) :=
  sortOn (fun r : ℚ × Option ℚ => toLex (r.1, r.2.getD 999999999)) ranges

theorem orderedRanges_perm (ranges : List (HalfOpen ℚ)) : (orderedRanges ranges).Perm ranges :=
  perm_sortOn _ _

theorem orderedRanges_sorted (ranges : List (HalfOpen ℚ)) :
    (orderedRanges ranges).Pairwise fun r s => r.1 ≤ s.1 :=
  (pairwise_sortOn (fun r : ℚ × Option ℚ => toLex (r.1, r.2.getD 999999999)) ranges).imp
    fun {r _} h => Prod.Lex.monotone_fst (toLex (r.1, r.2.getD 999999999)) _ h

theorem rangesOverlap_eq_false {prevMax : Option ℚ} {l : List (HalfOpen ℚ)} :
    rangesOverlap prevMax l = false ↔
      (∀ r ∈ l.head?, ∀ prev ∈ prevMax, prev ≤ r.1) ∧ l.IsChain HalfOpen.Clear := by
  induction l generalizing prevMax with
  | nil => simp [rangesOverlap]
  | cons r l ih =>
      obtain ⟨minKg, maxKg⟩ := r
      unfold rangesOverlap
      rw [Bool.or_eq_false_iff, ih, List.isChain_cons]
      refine and_congr ?_ (and_congr ?_ Iff.rfl)
      · cases prevMax with
        | none => simp
        | some prev => simp
      · exact forall₂_congr fun s _ => Iff.rfl

/-- The check accepts a list in which no range reaches beyond the begin of the
next. -/
theorem validateRangesNoOverlap_ok {ranges : List (HalfOpen ℚ)} :
    validateRangesNoOverlap ranges = .ok () ↔ (orderedRanges ranges).IsChain HalfOpen.Clear := by
  show demand (rangesOverlap none (orderedRanges ranges) = false) _ = .ok () ↔ _
  rw [demand_eq_ok, rangesOverlap_eq_false]
  simp

/-! ## Rows -/

/-- The weights of a range. -/
def ModuleRange.weights (r : ModuleRange) : HalfOpen ℚ := (r.minKg, r.maxKg)

/-- The weights that were sent for a range. -/
def ModuleRangeWriteIn.weights (r : ModuleRangeWriteIn) : HalfOpen ℚ := (r.minKg, r.maxKg)

/-- The ranges of a template lie apart. -/
def PricingDb.RangesApart (db : PricingDb) : Prop :=
  ∀ r ∈ db.ranges.rows, ∀ s ∈ db.ranges.rows, r.templateId = s.templateId → r ≠ s →
    r.weights.Apart s.weights

section Rows
variable {db db' : PricingDb} {rows : List ModuleRange}

/-- What is added below one template lies apart. -/
theorem PricingDb.RangesApart.insert {r : ModuleRange} (h : db.RangesApart)
    (hnew : ∀ s ∈ db.rangesOf r.templateId, s.weights.Apart r.weights) :
    ((PricingRedo.rangeInsert r).apply db).RangesApart := by
  have hold : ∀ s ∈ db.ranges.rows, s.templateId = r.templateId → s.weights.Apart r.weights :=
    fun s hs ht => hnew s (PricingDb.mem_rangesOf.mpr ⟨hs, ht⟩)
  intro a ha b hb ht hne
  rcases Table.mem_of_mem_insert ha with ha' | rfl
  · rcases Table.mem_of_mem_insert hb with hb' | rfl
    · exact h a ha' b hb' ht hne
    · exact hold a ha' ht
  · rcases Table.mem_of_mem_insert hb with hb' | rfl
    · exact (hold b hb' ht.symm).symm
    · exact absurd rfl hne

/-- Rows of one template that lie apart from each other and from those it has
are added one by one. -/
theorem run_insertRanges {t : Int} (hrun : (insertEach insertRange rows).run db = .ok ((), db'))
    (ht : ∀ r ∈ rows, r.templateId = t)
    (hrows : rows.Pairwise fun r s => r.weights.Apart s.weights)
    (hnew : ∀ r ∈ rows, ∀ s ∈ db.rangesOf t, s.weights.Apart r.weights)
    (h : db.RangesApart) : db'.RangesApart := by
  induction rows generalizing db with
  | nil =>
      cases hrun
      exact h
  | cons r rows ih =>
      obtain ⟨_, db₁, hfirst, hrest⟩ := Prog.run_bind_ok.mp hrun
      obtain ⟨-, rfl⟩ := (inserts_range r).run hfirst
      obtain ⟨hr, hrows'⟩ := List.pairwise_cons.mp hrows
      have hrt : r.templateId = t := ht r List.mem_cons_self
      refine ih hrest (fun s hs => ht s (List.mem_cons_of_mem _ hs)) hrows' (fun s hs a ha => ?_) ?_
      · obtain ⟨ha, hat⟩ := PricingDb.mem_rangesOf.mp ha
        rcases Table.mem_of_mem_insert ha with ha | rfl
        · exact hnew s (List.mem_cons_of_mem _ hs) a (PricingDb.mem_rangesOf.mpr ⟨ha, hat⟩)
        · exact hr s hs
      · exact h.insert fun s hs => hnew r List.mem_cons_self s (hrt ▸ hs)

/-- A record of another table leaves the ranges alone. -/
theorem PricingRedo.ranges_apply {u : PricingRedo} (h : u.part ≠ .ranges) :
    (u.apply db).ranges = db.ranges := by
  cases u with
  | rangesDelete t ids => exact absurd rfl h
  | rangeInsert r => exact absurd rfl h
  | memberInsert t m => rw [PricingRedo.apply_memberInsert]
  | cellInsert t c => rw [PricingRedo.apply_cellInsert]
  | _ => rfl

theorem PricingDb.RangesApart.of_ranges (h : db.RangesApart) (heq : db'.ranges = db.ranges) :
    db'.RangesApart := by
  unfold PricingDb.RangesApart
  rw [heq]
  exact h

end Rows

/-! ## Calls -/

/-- The columns round begins and ends alike. -/
theorem ModuleRangeWriteIn.row_apart {r s : ModuleRangeWriteIn} (t i j : Int) (n m : Nat)
    (h : r.weights.Apart s.weights) : (r.row t i n).weights.Apart (s.row t j m).weights := by
  have hbefore : ∀ {r s : ModuleRangeWriteIn} {i j : Int} {n m : Nat},
      r.weights.Before s.weights → (r.row t i n).weights.Before (s.row t j m).weights := by
    rintro r s i j n m ⟨b, hb, hle⟩
    exact ⟨numericColumn 3 b, Option.mem_map_of_mem _ hb, numericColumn_mono 3 hle⟩
  exact h.imp hbefore hbefore

/-- A payload of which the check can tell whether its ranges lie apart. -/
def RangesTold (ranges : List (HalfOpen ℚ)) : Prop :=
  HalfOpen.EndlessLast (orderedRanges ranges) ∨ HalfOpen.Collide (orderedRanges ranges)

instance decidableRangesTold (ranges : List (HalfOpen ℚ)) : Decidable (RangesTold ranges) :=
  inferInstanceAs (Decidable (_ ∨ _))

section Calls
variable {db db' : PricingDb} {t : Int}

/-- Ranges that were told apart take the place of the old ones. -/
private theorem putRanges_apart {ranges : List ModuleRangeWriteIn} {newId : Nat → Int}
    (hrun : (putTemplateRanges t ranges newId).run db = .ok ((), db')) (h : db.RangesApart)
    (htold : RangesTold (ranges.map ModuleRangeWriteIn.weights)) : db'.RangesApart := by
  obtain ⟨_, _, hload, hrun⟩ := Prog.run_bind_ok.mp hrun
  cases (keeping_loadTemplate _).run_same hload
  obtain ⟨_, _, hdraft, hrun⟩ := Prog.run_bind_ok.mp hrun
  cases (keeping_ensureDraft _).run_same hdraft
  obtain ⟨_, _, hcheck, hrun⟩ := Prog.run_bind_ok.mp hrun
  obtain ⟨hok, rfl⟩ := Prog.run_ofExcept_ok.mp hcheck
  obtain ⟨_, _, hdelete, hrun⟩ := Prog.run_bind_ok.mp hrun
  obtain ⟨us, hus, rfl⟩ := Prog.run_write_ok.mp hdelete
  cases hus
  have hpairs : (ranges.map ModuleRangeWriteIn.weights).Pairwise HalfOpen.Apart := by
    rw [← (orderedRanges_perm _).pairwise_iff HalfOpen.Apart.symm]
    exact HalfOpen.pairwise_apart_of_chain (orderedRanges_sorted _)
      (validateRangesNoOverlap_ok.mp hok) htold
  refine run_insertRanges hrun (t := t) (fun r hr => ?_) ?_ (fun r hr s hs => ?_) ?_
  · obtain ⟨x, -, rfl⟩ := List.mem_map.mp hr
    rfl
  · rw [List.pairwise_map]
    have hsent : (ranges.zipIdx.map Prod.fst).Pairwise fun r s => r.weights.Apart s.weights := by
      rw [List.zipIdx_map_fst]
      exact List.pairwise_map.mp hpairs
    exact (List.pairwise_map.mp hsent).imp fun h => ModuleRangeWriteIn.row_apart t _ _ _ _ h
  · -- the template has no ranges left
    obtain ⟨hs, hst⟩ := PricingDb.mem_rangesOf.mp hs
    obtain ⟨hs, hkept⟩ := Table.mem_delete.mp hs
    have hin : s.id ∈ (db.rangesOf t).map ModuleRange.id :=
      List.mem_map_of_mem (PricingDb.mem_rangesOf.mpr ⟨hs, hst⟩)
    exact absurd ⟨hst, hin⟩ hkept
  · intro r hr s hs ht hne
    exact h r (Table.mem_delete.mp hr).1 s (Table.mem_delete.mp hs).1 ht hne

/-- What a clone writes after the ranges is no range. -/
private theorem cloneRest_ranges {source : TemplateTree} {ids : CloneIds}
    (hrun : (do
      insertEach insertGroup (source.copiedGroups ids)
      insertEach (insertMember ids.template) (source.copiedMembers ids)
      let cells ← Prog.ofExcept (source.copiedCells ids)
      insertEach (insertCell ids.template) cells
      insertEach insertConfig (source.copiedConfigs ids)
      insertEach insertCity (source.copiedCities ids) : PricingTx Unit).run db = .ok ((), db')) :
    db'.ranges = db.ranges := by
  refine Keeping.run_frame (K := fun u => u.part ≠ .ranges) ?_ (fun u w hu => u.ranges_apply hu) hrun
  exact .bind (.each fun g _ => (inserts_group g).keeping nofun) fun _ =>
    .bind (.each fun m _ => (inserts_member _ m).keeping nofun) fun _ =>
    .bind (.ofExcept _) fun _ => .bind (.each fun c _ => (inserts_cell _ c).keeping nofun) fun _ =>
    .bind (.each fun c _ => (inserts_config c).keeping nofun) fun _ =>
    .each fun c _ => (inserts_city c).keeping nofun

/-- The ranges of a template are copied below a new one. -/
private theorem cloneTree_apart {source : TemplateTree} {ids : CloneIds}
    (hrun : (cloneTemplateTree source ids).run db = .ok ((), db')) (h : db.RangesApart)
    (hsource : source.ranges.Pairwise fun r s => r.weights.Apart s.weights)
    (hnew : ∀ r ∈ db.ranges.rows, r.templateId ≠ ids.template) : db'.RangesApart := by
  obtain ⟨_, db₁, hranges, hrest⟩ := Prog.run_bind_ok.mp hrun
  refine PricingDb.RangesApart.of_ranges ?_ (cloneRest_ranges hrest)
  refine run_insertRanges hranges (t := ids.template) (fun r hr => ?_) ?_ (fun r _ s hs => ?_) h
  · obtain ⟨x, -, rfl⟩ := List.mem_map.mp hr
    rfl
  · have hsorted : source.sortedRanges.Pairwise fun r s => r.weights.Apart s.weights :=
      ((perm_sortOn _ _).pairwise_iff HalfOpen.Apart.symm).mpr hsource
    have hcopied : (source.sortedRanges.zipIdx.map Prod.fst).Pairwise
        fun r s => r.weights.Apart s.weights := by
      rw [List.zipIdx_map_fst]
      exact hsorted
    rw [TemplateTree.copiedRanges, List.pairwise_map]
    exact (List.pairwise_map.mp hcopied).imp fun h => h
  · obtain ⟨hs, hst⟩ := PricingDb.mem_rangesOf.mp hs
    exact absurd hst (hnew s hs)

/-- The ranges of one template lie apart, as a list. -/
theorem PricingDb.RangesApart.pairwise (h : db.RangesApart) (t : Int) :
    (db.rangesOf t).Pairwise fun r s => r.weights.Apart s.weights := by
  have hnodup : (db.rangesOf t).Nodup := (List.Nodup.of_map _ db.ranges.nodup).filter _
  refine hnodup.imp_of_mem fun {r s} hr hs hne => ?_
  obtain ⟨hr, hrt⟩ := PricingDb.mem_rangesOf.mp hr
  obtain ⟨hs, hst⟩ := PricingDb.mem_rangesOf.mp hs
  exact h r hr s hs (hrt.trans hst.symm) hne

private theorem loadForClone_ranges {source : TemplateTree}
    (hrun : (loadTemplateForClone t).run db = .ok (source, db')) :
    source.ranges = db.rangesOf t ∧ db' = db := by
  obtain ⟨_, _, hload, hrun⟩ := Prog.run_bind_ok.mp hrun
  cases (keeping_loadTemplate _).run_same hload
  cases hrun
  exact ⟨rfl, rfl⟩

private theorem clone_apart {name : Option String} {ids : CloneIds}
    (hrun : (cloneTemplate t name ids).run db = .ok ((), db')) (hdb : db.Admitted)
    (h : db.RangesApart) : db'.RangesApart := by
  obtain ⟨source, db₁, hload, hrest⟩ := Prog.run_bind_ok.mp hrun
  obtain ⟨hsource, hdb₁⟩ := loadForClone_ranges hload
  obtain ⟨counts, db₂, hcounts, hrest⟩ := Prog.run_bind_ok.mp hrest
  obtain ⟨-, hdb₂⟩ := Prog.run_ofExcept_ok.mp hcounts
  rw [← hdb₂, hdb₁] at hrest
  have htail : ∀ row : PricingTemplate, row.id = ids.template →
      (do insertTemplate row; cloneTemplateTree source ids : PricingTx Unit).run db = .ok ((), db') →
      db'.RangesApart := by
    intro row hid hrun
    obtain ⟨_, _, hinsert, hrun⟩ := Prog.run_bind_ok.mp hrun
    obtain ⟨hfresh, rfl⟩ := (inserts_template row).run hinsert
    refine cloneTree_apart hrun h (hsource ▸ h.pairwise t) fun r hr ht => ?_
    -- a range of the new template would name a template that was not there
    have hthere := hdb.ranges_template r hr
    rw [ht, ← hid] at hthere
    exact hfresh hthere
  dsimp only at hrest
  split at hrest
  · obtain ⟨_, db₃, hname, hrest⟩ := Prog.run_bind_ok.mp hrest
    obtain ⟨-, rfl⟩ := Prog.run_ofExcept_ok.mp hname
    exact htail _ (by rfl) hrest
  · exact htail _ (by rfl) hrest

/-- The ranges a call puts below a template can be told apart. -/
def PricingCall.RangesTold : PricingCall → Prop
  | .putTemplateRanges _ ranges _ => WmsDu.RangesTold (ranges.map ModuleRangeWriteIn.weights)
  | _ => True

instance PricingCall.decidableRangesTold : (c : PricingCall) → Decidable c.RangesTold
  | .putTemplateRanges _ _ _ => inferInstanceAs (Decidable (WmsDu.RangesTold _))
  | .createTemplate .. | .updateTemplate .. | .createGroup .. | .updateGroup .. | .deleteGroup ..
  | .putTemplateMatrixCells .. | .submitValidation .. | .cloneTemplate ..
  | .batchCreateProvinceSurchargeConfigs .. | .createSurchargeCityContainer ..
  | .createSurchargeConfig .. | .updateSurchargeConfig .. | .deleteSurchargeConfig ..
  | .bindProviderToWarehouse .. | .updateWarehouseBinding .. | .bulkUpsertWarehouseBindings ..
  | .unbindProviderFromWarehouse .. | .activateWarehouseBinding .. | .deactivateWarehouseBinding .. =>
      inferInstanceAs (Decidable True)

private theorem run_unanswered {x : PricingTx Unit} {a : PricingAnswer}
    (h : (unanswered x).run db = .ok (a, db')) : x.run db = .ok ((), db') := by
  obtain ⟨_, _, hx, hret⟩ := Prog.run_bind_ok.mp h
  cases hret
  exact hx

/-- **Step.** A call keeps the ranges of every template apart if those it puts
below one can be told apart. -/
theorem PricingCall.call_ranges {c : PricingCall} (h : c.call db = .ok db') (hdb : db.Admitted)
    (hapart : db.RangesApart) (htold : c.RangesTold) : db'.RangesApart := by
  by_cases hparts : .ranges ∈ c.parts
  · obtain ⟨a, hrun⟩ := call_ok.mp h
    cases c with
    | putTemplateRanges t ranges newId => exact putRanges_apart (run_unanswered hrun) hapart htold
    | cloneTemplate t name ids => exact clone_apart (run_unanswered hrun) hdb hapart
    | _ => simp [PricingCall.parts] at hparts
  · refine (c.call_preserves (I := PricingDb.RangesApart) (fun u w hu hw => ?_) h hdb hapart).2
    exact hw.of_ranges (u.ranges_apply fun hpart => hparts (hpart ▸ hu.1))

end Calls

end WmsDu
