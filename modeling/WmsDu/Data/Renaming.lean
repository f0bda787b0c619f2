import Mathlib.Data.List.Nodup

/-!
# Renamed rows

Rows are copied in their order and numbered anew, children below their copied
parents. Told by old ids instead of positions, a copy is a map over the old
rows, so what is read of it is a map over what is read of them.
-/

/-- The new id of an old one, drawn by its position among the old. -/
def renamed (olds : List Int) (newId : Nat → Int) (old : Int) : Int := newId (olds.idxOf old)

section Renaming
variable {P C D : Type} {key : P → Int} {ps : List P}

/-- The children of one of the parents among the children of all. -/
theorem filter_parents_of_mem {parent : C → Int} {rows : List C} {p : P} (hp : p ∈ ps) :
    ((rows.filter fun c => parent c ∈ ps.map key).filter fun c => parent c = key p) =
      rows.filter fun c => parent c = key p := by
  rw [List.filter_filter]
  refine List.filter_congr fun c _ => ?_
  have hin : parent c = key p → parent c ∈ ps.map key := fun heq => heq ▸ List.mem_map_of_mem hp
  simpa using hin

/-- Numbering rows by position is renaming them. -/
theorem zipIdx_map_renamed (newId : Nat → Int) (hnodup : (ps.map key).Nodup)
    (copy : P → Int → D) :
    (ps.zipIdx.map fun x => copy x.1 (newId x.2)) =
      ps.map fun p => copy p (renamed (ps.map key) newId (key p)) := by
  refine List.ext_getElem (by simp) fun i h h' => ?_
  have hi : i < (ps.map key).length := by simpa using h
  have hidx := hnodup.idxOf_getElem i hi
  rw [List.getElem_map] at hidx
  simp [renamed, hidx]

/-- Rows numbered by their parents' positions. -/
theorem zipIdx_flatMap_renamed (newId : Nat → Int) (hnodup : (ps.map key).Nodup)
    (copies : P → Int → List D) :
    (ps.zipIdx.flatMap fun x => copies x.1 (newId x.2)) =
      ps.flatMap fun p => copies p (renamed (ps.map key) newId (key p)) := by
  rw [List.flatMap_def, List.flatMap_def]
  exact congrArg List.flatten (zipIdx_map_renamed newId hnodup copies)

/-- Children copied parent by parent, each numbered anew below its copied
parent. -/
theorem zipIdx_children_renamed {parent id : C → Int} {children : P → List C}
    (newId newChildId : Nat → Int) (hnodup : (ps.map key).Nodup)
    (hparent : ∀ p ∈ ps, ∀ c ∈ children p, parent c = key p)
    (hchildren : ((ps.flatMap children).map id).Nodup) (copy : C → Int → Int → D) :
    ((ps.zipIdx.flatMap fun x => (children x.1).map fun c => (c, newId x.2)).zipIdx.map
        fun x => copy x.1.1 x.1.2 (newChildId x.2)) =
      (ps.flatMap children).map fun c => copy c (renamed (ps.map key) newId (parent c))
        (renamed ((ps.flatMap children).map id) newChildId (id c)) := by
  have hflat : (ps.zipIdx.flatMap fun x => (children x.1).map fun c => (c, newId x.2)) =
      (ps.flatMap children).map fun c => (c, renamed (ps.map key) newId (parent c)) := by
    rw [zipIdx_flatMap_renamed newId hnodup fun p n => (children p).map fun c => (c, n), List.map_flatMap]
    refine List.flatMap_congr fun p hp => List.map_congr_left fun c hc => ?_
    rw [hparent p hp c hc]
  rw [hflat, List.zipIdx_map, List.map_map]
  exact zipIdx_map_renamed newChildId hchildren fun c n => copy c (renamed (ps.map key) newId (parent c)) n

/-- Different parents keep their children apart. -/
theorem nodup_flatMap_of_key (id parent : C → Int) {children : P → List C}
    (hnodup : (ps.map key).Nodup) (hparent : ∀ p ∈ ps, ∀ c ∈ children p, parent c = key p)
    (hid : ∀ p ∈ ps, ∀ q ∈ ps, ∀ c ∈ children p, ∀ d ∈ children q, id c = id d → parent c = parent d)
    (hchildren : ∀ p ∈ ps, ((children p).map id).Nodup) :
    ((ps.flatMap children).map id).Nodup := by
  rw [List.map_flatMap, List.nodup_flatMap]
  refine ⟨hchildren, ?_⟩
  refine (List.pairwise_map.mp hnodup).imp_of_mem fun {p q} hp hq hne => ?_
  intro x hx hy
  obtain ⟨c, hc, rfl⟩ := List.mem_map.mp hx
  obtain ⟨d, hd, heq⟩ := List.mem_map.mp hy
  refine hne ?_
  rw [← hparent p hp c hc, ← hparent q hq d hd]
  exact hid p hp q hq c hc d hd heq.symm

/-- The children of one parent among those of all. -/
theorem filter_flatMap_of_key {parent : C → Int} {children : P → List C}
    (hnodup : (ps.map key).Nodup) (hparent : ∀ p ∈ ps, ∀ c ∈ children p, parent c = key p) {p : P}
    (hp : p ∈ ps) : ((ps.flatMap children).filter fun c => parent c = key p) = children p := by
  induction ps with
  | nil => cases hp
  | cons q ps ih =>
      obtain ⟨hq, hnodup⟩ := List.nodup_cons.mp hnodup
      have hrest : ∀ r ∈ ps, ∀ c ∈ children r, parent c = key r := fun r hr =>
        hparent r (List.mem_cons_of_mem _ hr)
      rw [List.flatMap_cons, List.filter_append]
      rcases List.mem_cons.mp hp with rfl | hp
      · have hothers : ((ps.flatMap children).filter fun c => parent c = key p) = [] := by
          refine List.filter_eq_nil_iff.mpr fun c hc => ?_
          obtain ⟨r, hr, hc⟩ := List.mem_flatMap.mp hc
          rw [hrest r hr c hc]
          intro heq
          exact hq (of_decide_eq_true heq ▸ List.mem_map_of_mem hr)
        rw [hothers, List.append_nil, List.filter_eq_self]
        exact fun c hc => decide_eq_true (hparent p List.mem_cons_self c hc)
      · have hfirst : ((children q).filter fun c => parent c = key p) = [] := by
          refine List.filter_eq_nil_iff.mpr fun c hc => ?_
          rw [hparent q List.mem_cons_self c hc]
          intro heq
          exact hq (of_decide_eq_true heq ▸ List.mem_map_of_mem hp)
        rw [hfirst, List.nil_append, ih hnodup hrest hp]

/-- Behind rows of other parents, the copies of one parent's children are the
rows of its copy. -/
theorem filter_copies_of_key (parent : C → Int) (rename : Int → Int) {children : P → List C}
    {copy : C → C} {olds : List C} (hcopy : ∀ c, parent (copy c) = rename (parent c))
    (hnodup : (ps.map fun p => rename (key p)).Nodup)
    (hparent : ∀ p ∈ ps, ∀ c ∈ children p, parent c = key p) {p : P} (hp : p ∈ ps)
    (holds : ∀ c ∈ olds, parent c ≠ rename (key p)) :
    ((olds ++ (ps.flatMap children).map copy).filter fun c => parent c = rename (key p)) =
      (children p).map copy := by
  have hnone : (olds.filter fun c => parent c = rename (key p)) = [] :=
    List.filter_eq_nil_iff.mpr fun c hc heq => holds c hc (of_decide_eq_true heq)
  rw [List.filter_append, hnone, List.nil_append, List.map_flatMap]
  refine filter_flatMap_of_key hnodup (fun q hq c hc => ?_) hp
  obtain ⟨d, hd, rfl⟩ := List.mem_map.mp hc
  rw [hcopy, hparent q hq d hd]

/-- Ids that are drawn in order follow the order of the rows. -/
theorem pairwise_renamed {newId : Nat → Int} (hnodup : (ps.map key).Nodup)
    (hdrawn : ∀ i j, i ≤ j → newId i ≤ newId j) :
    ps.Pairwise fun p q =>
      renamed (ps.map key) newId (key p) ≤ renamed (ps.map key) newId (key q) := by
  have hids : (ps.map fun p => renamed (ps.map key) newId (key p)).Pairwise (· ≤ ·) := by
    rw [← zipIdx_map_renamed newId hnodup fun _ id => id, List.pairwise_iff_getElem]
    intro i j hi hj hlt
    rw [List.getElem_map, List.getElem_map, List.getElem_zipIdx, List.getElem_zipIdx]
    exact hdrawn _ _ (by omega)
  exact List.pairwise_map.mp hids

end Renaming
