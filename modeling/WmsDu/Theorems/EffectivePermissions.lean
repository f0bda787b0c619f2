import Mathlib
import WmsDu.User.Navigation

/-!
# Effective permissions

What a page is granted, told by its chain of parents alone, and that the
cached recursion finds it. While the recursion unwinds from a cycle it caches
that no permission was found. That is final: every page it passed leads into
the cycle, and none of them has permissions of its own.
-/

namespace WmsDu

/-! ## What a page is granted -/

/-- The permissions of a page that does not inherit. -/
def PageRecords.ownPermissions (rows : PageRecords) (code : String) : Option Permissions :=
  (rows.lookup code).bind fun row =>
    if row.inheritPermissions then none
    else some (row.selfReadPermission, row.selfWritePermission)

/-- The parent of a page that inherits. -/
def PageRecords.inheritsFrom (rows : PageRecords) (code : String) : Option String :=
  (rows.lookup code).bind fun row => if row.inheritPermissions then row.parent else none

/-- Permissions of the nearest page up the chain of parents. -/
abbrev PageRecords.Granted (rows : PageRecords) : String → Permissions → Prop :=
  Nearest rows.inheritsFrom rows.ownPermissions

/-- The effective permissions: those granted, and none where the chain ends or
cycles before it comes to a page that does not inherit. -/
def PageRecords.IsEffective (rows : PageRecords) (code : String) (result : Permissions) : Prop :=
  rows.Granted code result ∨ result = (none, none) ∧ ∀ p, ¬ rows.Granted code p

namespace PageRecords
variable {rows : PageRecords} {code parent : String} {row : PageRecord} {p q : Permissions}

theorem IsEffective.unique (h : rows.IsEffective code p) (h' : rows.IsEffective code q) :
    p = q := by
  rcases h with h | ⟨rfl, hnone⟩
  · rcases h' with h' | ⟨-, hnone'⟩
    · exact h.unique h'
    · exact absurd h (hnone' p)
  · rcases h' with h' | ⟨rfl, -⟩
    · exact absurd h' (hnone q)
    · rfl

/-- Every code has effective permissions. -/
theorem exists_isEffective (rows : PageRecords) (code : String) : ∃ p, rows.IsEffective code p := by
  by_cases h : ∃ p, rows.Granted code p
  · obtain ⟨p, hp⟩ := h
    exact ⟨p, Or.inl hp⟩
  · exact ⟨(none, none), Or.inr ⟨rfl, fun p hp => h ⟨p, hp⟩⟩⟩

/-- A page with permissions of its own has no parent it inherits from. -/
theorem inheritsFrom_of_own (h : rows.ownPermissions code = some p) :
    rows.inheritsFrom code = none := by
  obtain ⟨row, hrow, hown⟩ := Option.bind_eq_some_iff.mp h
  unfold inheritsFrom
  rw [hrow, Option.bind_some]
  cases hi : row.inheritPermissions with
  | false => rfl
  | true =>
      rw [hi, if_pos rfl] at hown
      cases hown

theorem isEffective_end (hown : rows.ownPermissions code = none)
    (hup : rows.inheritsFrom code = none) : rows.IsEffective code (none, none) := by
  refine Or.inr ⟨rfl, fun p hp => ?_⟩
  cases hp with
  | own h => cases hown.symm.trans h
  | up _ h => cases hup.symm.trans h

theorem isEffective_up (hown : rows.ownPermissions code = none)
    (hup : rows.inheritsFrom code = some parent) (h : rows.IsEffective parent p) :
    rows.IsEffective code p := by
  rcases h with h | ⟨rfl, hnone⟩
  · exact Or.inl ((nearest_iff_up hown hup).mpr h)
  · exact Or.inr ⟨rfl, fun q hq => hnone q ((nearest_iff_up hown hup).mp hq)⟩

theorem isEffective_cycle {k : Nat}
    (h : ancestor rows.inheritsFrom (k + 1) code = some code) :
    rows.IsEffective code (none, none) :=
  Or.inr ⟨rfl, fun _ hp => hp.not_cycle (fun _ _ => inheritsFrom_of_own) h⟩

/-! ## The recursion -/

/-- Everything cached is final. -/
def CacheFinal (rows : PageRecords) (cache : PermissionCache) : Prop :=
  ∀ code p, cache code = some p → rows.IsEffective code p

theorem CacheFinal.set {cache : PermissionCache} (h : rows.CacheFinal cache)
    (hp : rows.IsEffective code p) : rows.CacheFinal (cache.set code p) := by
  intro c q hq
  unfold PermissionCache.set at hq
  by_cases hc : c = code
  · subst hc
    rw [Function.update_self] at hq
    obtain rfl := Option.some.inj hq
    exact hp
  · rw [Function.update_of_ne hc] at hq
    exact h c q hq

/-- The pages being visited: inheriting pages whose chains lead to the code. -/
structure Trail (rows : PageRecords) (visiting : List String) (code : String) : Prop where
  nodup : visiting.Nodup
  leads : ∀ v ∈ visiting, ∃ k, ancestor rows.inheritsFrom (k + 1) v = some code

theorem Trail.nil : rows.Trail [] code := ⟨List.nodup_nil, fun _ h => absurd h List.not_mem_nil⟩

/-- Going up one page. -/
theorem Trail.cons {visiting : List String} (h : rows.Trail visiting code)
    (hnew : code ∉ visiting) (hup : rows.inheritsFrom code = some parent) :
    rows.Trail (code :: visiting) parent := by
  refine ⟨List.nodup_cons.mpr ⟨hnew, h.nodup⟩, fun v hv => ?_⟩
  rcases List.mem_cons.mp hv with rfl | hv
  · exact ⟨0, by rw [ancestor_one, hup]⟩
  · obtain ⟨k, hk⟩ := h.leads v hv
    exact ⟨k + 1, by rw [ancestor_add_of_some hk, ancestor_one, hup]⟩

/-- Only pages of the table are visited, each once. -/
theorem Trail.length_le {visiting : List String} (h : rows.Trail visiting code) :
    visiting.length ≤ rows.rows.length := by
  have hsub : visiting ⊆ rows.rows.map PageRecord.code := by
    intro v hv
    obtain ⟨k, hk⟩ := h.leads v hv
    rw [ancestor_succ] at hk
    obtain ⟨p, hp, -⟩ := Option.bind_eq_some_iff.mp hk
    obtain ⟨row, hrow, -⟩ := Option.bind_eq_some_iff.mp hp
    obtain ⟨hmem, hcode⟩ := Table.lookup_eq_some.mp hrow
    exact List.mem_map.mpr ⟨row, hmem, hcode⟩
  have hlen := (h.nodup.subperm hsub).length_le
  rwa [List.length_map] at hlen

/-- One query: with a cache that is final and fuel for the pages not visited
yet, the answer is the effective permission and the cache stays final. -/
theorem resolve_effective {fuel : Nat} {cache : PermissionCache} {visiting : List String}
    (hcache : rows.CacheFinal cache) (htrail : rows.Trail visiting code)
    (hfuel : rows.rows.length < fuel + visiting.length) :
    ∃ result cache', resolveEffectivePermissions rows fuel code cache visiting =
        some (result, cache') ∧ rows.IsEffective code result ∧ rows.CacheFinal cache' := by
  induction fuel generalizing code cache visiting with
  | zero =>
      have hlen := htrail.length_le
      omega
  | succ fuel ih =>
      unfold resolveEffectivePermissions
      cases hc : cache code with
      | some cached => exact ⟨cached, cache, rfl, hcache code cached hc, hcache⟩
      | none =>
          -- an answer found here is cached as it is given
          have hanswer : ∀ {r : Permissions}, rows.IsEffective code r →
              ∃ result cache', some (r, cache.set code r) = some (result, cache') ∧
                rows.IsEffective code result ∧ rows.CacheFinal cache' :=
            fun {r} hr => ⟨r, cache.set code r, rfl, hr, hcache.set hr⟩
          cases hrow : rows.lookup code with
          | none => exact hanswer (isEffective_end (by simp [ownPermissions, hrow])
              (by simp [inheritsFrom, hrow]))
          | some row =>
              simp only
              split
              next hinherit =>
                refine hanswer (Or.inl (Nearest.own ?_))
                simp [ownPermissions, hrow, hinherit]
              next hinherit =>
                have hinherit : row.inheritPermissions = true := by simpa using hinherit
                have hown : rows.ownPermissions code = none := by
                  simp [ownPermissions, hrow, hinherit]
                have hfrom : rows.inheritsFrom code = row.parent := by
                  simp [inheritsFrom, hrow, hinherit]
                cases hparent : row.parent with
                | none => exact hanswer (isEffective_end hown (hfrom.trans hparent))
                | some parent =>
                    have hup := hfrom.trans hparent
                    simp only
                    split
                    next hvisiting =>
                      obtain ⟨k, hk⟩ := htrail.leads code hvisiting
                      exact hanswer (isEffective_cycle hk)
                    next hvisiting =>
                      obtain ⟨result, cache', hrun, heff, hfinal⟩ :=
                        ih hcache (htrail.cons hvisiting hup) (by simp only [List.length_cons]; omega)
                      rw [hrun]
                      have hr := isEffective_up hown hup heff
                      exact ⟨result, cache'.set code result, rfl, hr, hfinal.set hr⟩

/-- A query at the top: nothing is being visited. -/
theorem resolve_top (code : String) {fuel : Nat} {cache : PermissionCache} (hcache : rows.CacheFinal cache)
    (hfuel : rows.rows.length < fuel) :
    ∃ result cache', resolveEffectivePermissions rows fuel code cache [] =
        some (result, cache') ∧ rows.IsEffective code result ∧ rows.CacheFinal cache' :=
  resolve_effective hcache Trail.nil (by simpa using hfuel)

theorem cacheFinal_empty (rows : PageRecords) : rows.CacheFinal fun _ => none := fun _ _ h => by cases h

end PageRecords

open PageRecords

/-- **Effective permissions are well defined.** Over any table of pages one
function of the code, the permissions of the nearest page on its chain of
parents that does not inherit, answers every list of queries that share a
cache, in whatever order, and each query comes to its answer. -/
theorem effective_permissions (rows : PageRecords) :
    ∃ answer : String → Permissions, (∀ code, rows.IsEffective code (answer code)) ∧
      ∀ (queries : List String) (fuel : Nat), rows.rows.length < fuel →
        ∃ cache, resolveAll rows fuel queries (fun _ => none) =
          some (queries.map answer, cache) := by
  choose answer hanswer using rows.exists_isEffective
  refine ⟨answer, hanswer, fun queries fuel hfuel => ?_⟩
  have hrun : ∀ cache : PermissionCache, rows.CacheFinal cache →
      ∃ cache', resolveAll rows fuel queries cache = some (queries.map answer, cache') := by
    induction queries with
    | nil => exact fun cache _ => ⟨cache, rfl⟩
    | cons code queries ih =>
        intro cache hcache
        obtain ⟨result, cache', hone, heff, hfinal⟩ := resolve_top code hcache hfuel
        obtain ⟨last, hrest⟩ := ih cache' hfinal
        refine ⟨last, ?_⟩
        unfold resolveAll
        rw [hone]
        simp only [hrest, Option.map_some, List.map_cons, heff.unique (hanswer code)]
  exact hrun _ (cacheFinal_empty rows)

end WmsDu
