import WmsDu.Oms.StoreBindings

/-!
# Binding requests side by side

What each statement of a request leaves of the flags of a store, and the
discipline of a pool of requests.
-/

namespace WmsDu.Stores

open Txn

/-! ## Terms -/

/-- The write takes the main flag from no binding: a row becomes the main one
by an update only where the statement sees no other, and rows are cleared for
a request that asks for no main warehouse only where they are not. -/
def BindingRedo.Spares (db : BindingsDb) : BindingRedo → Prop
  | .clear k payload => payload.isTop ≠ some true → k.2 ≠ payload.warehouseId →
      ∀ b ∈ db.bindings.lookup k, b.isTop = false
  | .set k c => c.isTop = some true → ∀ b ∈ db.bindings.rows, b.storeId = k.1 →
      b.warehouseId ≠ k.2 → b.isTop = false
  | .upsert _ | .delete _ => True

instance BindingRedo.decidableSpares (db : BindingsDb) : (u : BindingRedo) →
    Decidable (u.Spares db)
  | .clear k payload => inferInstanceAs (Decidable (payload.isTop ≠ some true →
      k.2 ≠ payload.warehouseId → ∀ b ∈ db.bindings.lookup k, b.isTop = false))
  | .set k c => inferInstanceAs (Decidable (c.isTop = some true → ∀ b ∈ db.bindings.rows,
      b.storeId = k.1 → b.warehouseId ≠ k.2 → b.isTop = false))
  | .upsert _ | .delete _ => inferInstanceAs (Decidable True)

/-- Two requests for different warehouses of one store do not set the same flag. -/
def BindingCall.Together (a b : BindingCall) : Prop :=
  a.key.1 = b.key.1 → a.key ≠ b.key →
    ¬ (a.SetsDefault ∧ b.SetsDefault) ∧ ¬ (a.SetsTop ∧ b.SetsTop)

instance BindingCall.decidableTogether (a b : BindingCall) : Decidable (a.Together b) :=
  inferInstanceAs (Decidable (a.key.1 = b.key.1 → a.key ≠ b.key →
    ¬ (a.SetsDefault ∧ b.SetsDefault) ∧ ¬ (a.SetsTop ∧ b.SetsTop)))

theorem BindingCall.Together.symm {a b : BindingCall} (h : a.Together b) : b.Together a :=
  fun hstore hne =>
    let ⟨hdefault, htop⟩ := h hstore.symm hne.symm
    ⟨fun hboth => hdefault hboth.symm, fun hboth => htop hboth.symm⟩

/-- The terms of a pool of requests. -/
def bindingTerms : Terms BindingCall (Stmt BindingsDb BindingRedo BindingErr) BindingsDb :=
  .fitting (fun db u => u.Spares db) BindingCall.Together fun _ _ => BindingCall.Together.symm

instance bindingTerms.decidableTogether (a b : BindingCall) :
    Decidable (bindingTerms.together a b) := inferInstanceAs (Decidable (a.Together b))

instance bindingTerms.decidableIssue {β : Type} (s : Stmt BindingsDb BindingRedo BindingErr β)
    (db : BindingsDb) : Decidable (bindingTerms.issue s db) :=
  inferInstanceAs (Decidable (∀ u ∈ s.writes db, u.Spares db))

/-- What a request may rely on: locked rows stay as they are, and no other
binding of the store gets a flag the request sets. -/
structure BindingRely (op : BindingCall) (held : List BindingKey) (db db' : BindingsDb) : Prop where
  rows : ∀ k ∈ held, db'.bindings.lookup k = db.bindings.lookup k
  default_new : op.SetsDefault → ∀ k ≠ op.key, k.1 = op.key.1 → ∀ b' ∈ db'.bindings.lookup k,
    b'.isDefault = true → ∃ b ∈ db.bindings.lookup k, b.isDefault = true
  top_new : op.SetsTop → ∀ k ≠ op.key, k.1 = op.key.1 → ∀ b' ∈ db'.bindings.lookup k,
    b'.isTop = true → ∃ b ∈ db.bindings.lookup k, b.isTop = true

/-- The setting of a request. -/
def bindingSetting (op : BindingCall) :
    Setting (Stmt BindingsDb BindingRedo BindingErr) BindingsDb BindingKey :=
  .fitting (fun db u => u.Spares db) (BindingRely op)

/-! ## What a request has written -/

/-- The log of a request that has cleared the default flags of the store if
`d`, and its main flags if `t`: it touches the store alone, flags no other
binding, and takes the main flag from one only if it was asked to. -/
structure BindingCall.Wrote (op : BindingCall) (d t : Prop) (db : BindingsDb)
    (log : List BindingRedo) : Prop where
  store : ∀ u ∈ log, u.key.1 = op.key.1
  no_new : ∀ k ≠ op.key, ∀ o, ∀ b' ∈ rowAfter log k o, ∃ b ∈ o,
    (b'.isDefault = true → b.isDefault = true) ∧ (b'.isTop = true → b.isTop = true)
  own_default : ∀ b' ∈ rowAfter log op.key (db.bindings.lookup op.key), b'.isDefault = true →
    d ∨ ∃ b ∈ db.bindings.lookup op.key, b.isDefault = true
  own_top : ∀ b' ∈ rowAfter log op.key (db.bindings.lookup op.key), b'.isTop = true →
    t ∨ ∃ b ∈ db.bindings.lookup op.key, b.isTop = true
  default_cleared : d → ∀ k ≠ op.key, k.1 = op.key.1 →
    ∀ b' ∈ rowAfter log k (db.bindings.lookup k), b'.isDefault = false
  top_cleared : t → ∀ k ≠ op.key, k.1 = op.key.1 →
    ∀ b' ∈ rowAfter log k (db.bindings.lookup k), b'.isTop = false
  top_kept : ¬ op.AsksTop → ∀ k ≠ op.key, ∀ b ∈ db.bindings.lookup k, b.isTop = true →
    ∃ b' ∈ rowAfter log k (db.bindings.lookup k), b'.isTop = true

namespace BindingCall

variable {op : BindingCall} {d t : Prop} {db db' : BindingsDb} {log : List BindingRedo}

theorem wrote_nil (hd : ¬ d) (ht : ¬ t) : op.Wrote d t db [] where
  store := List.forall_mem_nil _
  no_new := fun _ _ _ b' hb' => ⟨b', hb', id, id⟩
  own_default := fun b' hb' hdef => .inr ⟨b', hb', hdef⟩
  own_top := fun b' hb' htop => .inr ⟨b', hb', htop⟩
  default_cleared := fun h => absurd h hd
  top_cleared := fun h => absurd h ht
  top_kept := fun _ _ _ b hb htop => ⟨b, hb, htop⟩

/-- Others leave true what a request has written. -/
theorem steady_wrote (hd : d → op.SetsDefault) (ht : t → op.SetsTop) :
    Steady (bindingSetting op) (op.Wrote d t) := by
  intro w w' log h hrely
  have hlocked {k : BindingKey} (hk : k ∈ guardsOf log) :
      w'.bindings.lookup k = w.bindings.lookup k := hrely.rows k hk
  refine { h with
    own_default := fun b' hb' hdef => ?_, own_top := fun b' hb' htop => ?_
    default_cleared := fun hdd k hne hstore b' hb' => ?_
    top_cleared := fun htt k hne hstore b' hb' => ?_
    top_kept := fun hasks k hne b hb htop => ?_ }
  · by_cases hk : op.key ∈ guardsOf log
    · rw [hlocked hk] at hb' ⊢
      exact h.own_default b' hb' hdef
    · rw [rowAfter_of_not_mem hk] at hb'
      exact .inr ⟨b', hb', hdef⟩
  · by_cases hk : op.key ∈ guardsOf log
    · rw [hlocked hk] at hb' ⊢
      exact h.own_top b' hb' htop
    · rw [rowAfter_of_not_mem hk] at hb'
      exact .inr ⟨b', hb', htop⟩
  · by_cases hk : k ∈ guardsOf log
    · rw [hlocked hk] at hb'
      exact h.default_cleared hdd k hne hstore b' hb'
    · rw [rowAfter_of_not_mem hk] at hb'
      by_contra hdef
      obtain ⟨b, hb, hbdef⟩ :=
        hrely.default_new (hd hdd) k hne hstore b' hb' (Bool.eq_true_of_not_eq_false hdef)
      have hclear := h.default_cleared hdd k hne hstore b (by rwa [rowAfter_of_not_mem hk])
      rw [hbdef] at hclear
      cases hclear
  · by_cases hk : k ∈ guardsOf log
    · rw [hlocked hk] at hb'
      exact h.top_cleared htt k hne hstore b' hb'
    · rw [rowAfter_of_not_mem hk] at hb'
      by_contra htop
      obtain ⟨b, hb, hbtop⟩ :=
        hrely.top_new (ht htt) k hne hstore b' hb' (Bool.eq_true_of_not_eq_false htop)
      have hclear := h.top_cleared htt k hne hstore b (by rwa [rowAfter_of_not_mem hk])
      rw [hbtop] at hclear
      cases hclear
  · by_cases hk : k ∈ guardsOf log
    · rw [hlocked hk] at hb ⊢
      exact h.top_kept hasks k hne b hb htop
    · exact ⟨b, by rwa [rowAfter_of_not_mem hk], htop⟩

/-- One more write to the request's own row. -/
theorem Wrote.own (h : op.Wrote d t db log) {u : BindingRedo} (hu : u.key = op.key) {t' : Prop}
    (hdefault : ∀ b' ∈ u.onRow (rowAfter log op.key (db.bindings.lookup op.key)),
      b'.isDefault = true → d ∨ ∃ b ∈ rowAfter log op.key (db.bindings.lookup op.key),
        b.isDefault = true)
    (htop : ∀ b' ∈ u.onRow (rowAfter log op.key (db.bindings.lookup op.key)),
      b'.isTop = true → t' ∨ ∃ b ∈ rowAfter log op.key (db.bindings.lookup op.key),
        b.isTop = true)
    (ht : t → t')
    (hcleared : t' → ∀ k ≠ op.key, k.1 = op.key.1 →
      ∀ b' ∈ rowAfter log k (db.bindings.lookup k), b'.isTop = false) :
    op.Wrote d t' db (log ++ [u]) := by
  have hother {k : BindingKey} (hne : k ≠ op.key) (o : Option StoreWarehouse) :
      rowAfter (log ++ [u]) k o = rowAfter log k o := by
    rw [rowAfter_append, rowAfter_singleton, if_neg fun heq => hne (heq.trans hu)]
  have hown (o : Option StoreWarehouse) :
      rowAfter (log ++ [u]) op.key o = u.onRow (rowAfter log op.key o) := by
    rw [rowAfter_append, rowAfter_singleton, if_pos hu.symm]
  refine
    { store := fun v hv => ?_, no_new := fun k hne o => ?_, own_default := fun b' hb' hdef => ?_
      own_top := fun b' hb' hbtop => ?_, default_cleared := fun hdd k hne hstore => ?_
      top_cleared := fun htt k hne hstore => ?_, top_kept := fun hasks k hne => ?_ }
  · rcases List.mem_append.mp hv with hv | hv
    · exact h.store v hv
    · rw [List.mem_singleton.mp hv, hu]
  · rw [hother hne]
    exact h.no_new k hne o
  · rw [hown] at hb'
    rcases hdefault b' hb' hdef with hdd | ⟨b, hb, hbdef⟩
    · exact .inl hdd
    · exact h.own_default b hb hbdef
  · rw [hown] at hb'
    rcases htop b' hb' hbtop with htt | ⟨b, hb, hbtop⟩
    · exact .inl htt
    · exact (h.own_top b hb hbtop).imp_left ht
  · rw [hother hne]
    exact h.default_cleared hdd k hne hstore
  · rw [hother hne]
    exact hcleared htt k hne hstore
  · rw [hother hne]
    exact h.top_kept hasks k hne

/-- The first write of a request: the same to every row of the store. -/
theorem wrote_map {f : BindingKey → BindingRedo} {g : StoreWarehouse → StoreWarehouse}
    (hkey : ∀ k, (f k).key = k) (hrow : ∀ k o, (f k).onRow o = o.map g)
    (htwice : ∀ b, g (g b) = g b)
    (hdefault : ∀ b, (g b).isDefault = true → b.isDefault = true)
    (htop : ∀ b, (g b).isTop = true → b.isTop = true)
    (hd : d → ∀ b, (g b).isDefault = false) (ht : t → ∀ b, (g b).isTop = false)
    (hkept : ¬ op.AsksTop → ∀ k ∈ db.keysOf op.key.1, k ≠ op.key → ∀ b ∈ db.bindings.lookup k,
      b.isTop = true → (g b).isTop = true) :
    op.Wrote d t db ((db.keysOf op.key.1).map f) := by
  have hrows := rowAfter_map hkey hrow htwice (db.keysOf op.key.1)
  have hall {k : BindingKey} {b : StoreWarehouse} (hstore : k.1 = op.key.1)
      (hb : b ∈ db.bindings.lookup k) : k ∈ db.keysOf op.key.1 := by
    obtain ⟨hmem, rfl⟩ := Table.lookup_eq_some.mp hb
    exact List.mem_map.mpr ⟨b, List.mem_filter.mpr ⟨hmem, decide_eq_true hstore⟩, rfl⟩
  have hfrom {k : BindingKey} {o : Option StoreWarehouse} {b' : StoreWarehouse}
      (hb' : b' ∈ rowAfter ((db.keysOf op.key.1).map f) k o) :
      ∃ b ∈ o, (b'.isDefault = true → b.isDefault = true) ∧ (b'.isTop = true → b.isTop = true) := by
    rw [hrows] at hb'
    split at hb'
    · obtain ⟨b, hb, rfl⟩ := Option.mem_map.mp hb'
      exact ⟨b, hb, hdefault b, htop b⟩
    · exact ⟨b', hb', id, id⟩
  have hcleared {k : BindingKey} {b' : StoreWarehouse} (hstore : k.1 = op.key.1)
      (hb' : b' ∈ rowAfter ((db.keysOf op.key.1).map f) k (db.bindings.lookup k)) :
      ∃ b, b' = g b := by
    rw [hrows] at hb'
    split at hb'
    · obtain ⟨b, -, rfl⟩ := Option.mem_map.mp hb'
      exact ⟨b, rfl⟩
    · rename_i hk
      exact absurd (hall hstore hb') hk
  refine
    { store := fun u hu => ?_, no_new := fun k _ o b' hb' => hfrom hb'
      own_default := fun b' hb' hdef => ?_, own_top := fun b' hb' hbtop => ?_
      default_cleared := fun hdd k _ hstore b' hb' => ?_
      top_cleared := fun htt k _ hstore b' hb' => ?_
      top_kept := fun hasks k hne b hb hbtop => ?_ }
  · obtain ⟨k, hk, rfl⟩ := List.mem_map.mp hu
    obtain ⟨b, hb, rfl⟩ := List.mem_map.mp hk
    rw [hkey]
    exact of_decide_eq_true (List.mem_filter.mp hb).2
  · obtain ⟨b, hb, hb'd, -⟩ := hfrom hb'
    exact .inr ⟨b, hb, hb'd hdef⟩
  · obtain ⟨b, hb, -, hb't⟩ := hfrom hb'
    exact .inr ⟨b, hb, hb't hbtop⟩
  · obtain ⟨b, rfl⟩ := hcleared hstore hb'
    exact hd hdd b
  · obtain ⟨b, rfl⟩ := hcleared hstore hb'
    exact ht htt b
  · rw [hrows]
    split
    · rename_i hk
      exact ⟨g b, Option.mem_map_of_mem g hb, hkept hasks k hk hne b hb hbtop⟩
    · exact ⟨b, hb, hbtop⟩

/-! ## The statements of the requests -/

/-- A request that has written nothing. -/
def Begun (_ : BindingsDb) (log : List BindingRedo) : Prop := log = []

theorem steady_begun : Steady (bindingSetting op) Begun := fun _ _ _ h _ => h

/-- Clearing the flags for a binding. -/
theorem meets_clearBindings {storeId : Int} {payload : BindWarehouseIn} :
    Meets (bindingSetting (.bind storeId payload)) (Holds Begun) (clearBindings storeId payload)
      (fun _ => Holds
        ((bind storeId payload).Wrote (payload.isDefault = true) (payload.top = true))) := by
  refine Meets.write steady_begun (fun _ => steady_wrote id id) ?_
  rintro w log a us rfl hfit hs
  cases hs
  refine wrote_map (f := fun k => .clear k payload) (g := payload.clear) (fun _ => rfl)
    (fun _ _ => rfl) (fun b => ?_) (fun b hb => ?_) (fun b hb => ?_) (fun hd b => ?_)
    (fun _ b => rfl) (fun hasks k hk hne b hb htop => ?_)
  · cases hdef : payload.isDefault <;> simp [BindWarehouseIn.clear, hdef]
  · cases hdef : payload.isDefault with
    | true => simp [BindWarehouseIn.clear, hdef] at hb
    | false => simpa [BindWarehouseIn.clear, hdef] using hb
  · cases hb
  · simp [BindWarehouseIn.clear, hd]
  · -- the terms leave nothing to clear
    have hspared := hfit _ (List.mem_map_of_mem hk) hasks (fun heq => hne ?_) b hb
    · rw [htop] at hspared
      cases hspared
    · obtain ⟨c, hc, rfl⟩ := List.mem_map.mp hk
      exact Prod.ext (of_decide_eq_true (List.mem_filter.mp hc).2) heq

/-- **Binding.** A bound warehouse has the flags of its payload, and no other
one has a flag it took. -/
theorem meets_bindWarehouse {storeId : Int} {payload : BindWarehouseIn} :
    Meets (bindingSetting (.bind storeId payload)) (Holds Begun) (bindWarehouse storeId payload)
      (fun _ => Holds ((bind storeId payload).Wrote (bind storeId payload).SetsDefault
        (bind storeId payload).SetsTop)) := by
  have hset : Meets (bindingSetting (.bind storeId payload))
      (Holds ((bind storeId payload).Wrote (payload.isDefault = true) (payload.top = true)))
      (Prog.write fun _ => .ok ((), [.upsert (payload.row storeId)]) : BindingTx Unit)
      (fun _ => Holds
        ((bind storeId payload).Wrote (payload.isDefault = true) (payload.top = true))) := by
    refine Meets.write (steady_wrote id id) (fun _ => steady_wrote id id) ?_
    rintro w log a us h - hs
    cases hs
    refine h.own rfl (fun b' hb' hdef => ?_) (fun b' hb' htop => ?_) id h.top_cleared
    · cases hb'
      exact .inl hdef
    · cases hb'
      exact .inl htop
  unfold bindWarehouse
  dsimp only
  split
  · exact Meets.bind meets_clearBindings fun _ => hset
  · rename_i hnone
    obtain ⟨htop, hdefault⟩ := not_or.mp hnone
    refine hset.weaken fun w log hlog => ?_
    rw [show log = [] from hlog]
    exact wrote_nil hdefault htop

theorem meets_ensureStoreExists {storeId : Int} :
    Meets (bindingSetting op) (Holds Begun) (ensureStoreExists storeId) (fun _ => Holds Begun) :=
  Meets.silent (Prog.writes_bind (Prog.writes_read _) fun _ => Prog.writes_require _ _) steady_begun

theorem meets_ensureWarehouseExists {warehouseId : Int} {requireActive : Bool} :
    Meets (bindingSetting op) (Holds Begun) (ensureWarehouseExists warehouseId requireActive)
      (fun _ => Holds Begun) := by
  refine Meets.silent (Prog.writes_bind (Prog.writes_read _) fun row => ?_) steady_begun
  exact Prog.writes_bind (Prog.writes_requireSome _ _) fun _ => Prog.writes_require _ _

/-- The default flag is cleared on all rows of the store and set on one. -/
theorem meets_setDefaultWarehouse {storeId warehouseId : Int} {payload : BindingUpdateIn}
    (hdefault : payload.isDefault = some true) :
    Meets (bindingSetting (.update storeId warehouseId payload)) (Holds Begun)
      (setDefaultWarehouse storeId warehouseId)
      (fun _ => Holds ((update storeId warehouseId payload).Wrote
        (payload.isDefault = some true) False)) := by
  have hwrote : Steady (bindingSetting (.update storeId warehouseId payload))
      ((update storeId warehouseId payload).Wrote (payload.isDefault = some true) False) :=
    steady_wrote id False.elim
  unfold setDefaultWarehouse
  refine Meets.bind (M := fun _ => Holds Begun)
    (Meets.silent (Prog.writes_read _) steady_begun) fun _ => ?_
  refine Meets.bind (M := fun _ => Holds Begun)
    (Meets.silent (Prog.writes_require _ _) steady_begun) fun _ => ?_
  refine Meets.bind (M := fun _ => Holds ((update storeId warehouseId payload).Wrote
    (payload.isDefault = some true) False)) ?_ fun _ => ?_
  · refine Meets.write steady_begun (fun _ => hwrote) ?_
    rintro w log a us rfl - hs
    cases hs
    exact wrote_map (f := fun k => .set k { isDefault := some false })
      (g := BindingUpdateIn.set { isDefault := some false }) (fun _ => rfl) (fun _ _ => rfl)
      (fun _ => rfl) (fun b hb => by cases hb) (fun b hb => hb) (fun _ _ => rfl) False.elim
      fun _ _ _ _ b _ htop => htop
  · refine Meets.write hwrote (fun _ => hwrote) ?_
    rintro w log a us h - hs
    cases hs
    cases hrow : (redo log w).bindings.lookup (storeId, warehouseId) with
    | none => rwa [Option.toList_none, List.map_nil, List.append_nil]
    | some b =>
        obtain ⟨-, hkey⟩ := Table.lookup_eq_some.mp hrow
        refine h.own (u := .set b.key { isDefault := some true }) hkey (fun b' _ _ => .inl hdefault) (fun b' hb' htop => ?_) id
          h.top_cleared
        obtain ⟨b, hb, rfl⟩ := Option.mem_map.mp hb'
        exact .inr ⟨b, hb, htop⟩

/-- The remaining columns are set on the request's own row. -/
theorem meets_updateFields {storeId warehouseId : Int} {payload : BindingUpdateIn} :
    Meets (bindingSetting (.update storeId warehouseId payload))
      (Holds ((update storeId warehouseId payload).Wrote (payload.isDefault = some true) False))
      (updateFields storeId warehouseId payload.fields)
      (fun _ => Holds ((update storeId warehouseId payload).Wrote
        (payload.isDefault = some true) (payload.isTop = some true))) := by
  refine Meets.write (steady_wrote id False.elim) (fun _ => steady_wrote id id) ?_
  intro w log a us h hfit hs
  split at hs
  · cases hs
  · rename_i row hrow
    obtain ⟨-, hkey⟩ := Table.lookup_eq_some.mp hrow
    cases hs
    refine h.own (u := .set row.key payload.fields) hkey (fun b' hb' hdef => ?_) (fun b' hb' htop => ?_) False.elim ?_
    · obtain ⟨b, hb, rfl⟩ := Option.mem_map.mp hb'
      cases hset : payload.isDefault with
      | none => exact .inr ⟨b, hb, by simpa [BindingUpdateIn.set, BindingUpdateIn.fields, hset] using hdef⟩
      | some v =>
          cases v with
          | true => exact .inl rfl
          | false => simp [BindingUpdateIn.set, BindingUpdateIn.fields, hset] at hdef
    · obtain ⟨b, hb, rfl⟩ := Option.mem_map.mp hb'
      cases hset : payload.isTop with
      | none => exact .inr ⟨b, hb, by simpa [BindingUpdateIn.set, BindingUpdateIn.fields, hset] using htop⟩
      | some v =>
          cases v with
          | true => exact .inl rfl
          | false => simp [BindingUpdateIn.set, BindingUpdateIn.fields, hset] at htop
    · -- the terms leave no other main binding in sight
      intro htop k hne hstore b hb
      rw [← lookup_redo] at hb
      obtain ⟨hmem, rfl⟩ := Table.lookup_eq_some.mp hb
      refine hfit _ List.mem_cons_self htop b hmem (hstore.trans (congrArg Prod.fst hkey).symm) ?_
      exact fun hwarehouse => hne (Prod.ext hstore (hwarehouse.trans (congrArg Prod.snd hkey)))

/-- **Updating.** The default flag through the service, the rest directly. -/
theorem meets_applyUpdate {storeId warehouseId : Int} {payload : BindingUpdateIn} :
    Meets (bindingSetting (.update storeId warehouseId payload)) (Holds Begun)
      (applyUpdate storeId warehouseId payload)
      (fun _ => Holds ((update storeId warehouseId payload).Wrote
        (payload.isDefault = some true) (payload.isTop = some true))) := by
  have hrest : Meets (bindingSetting (.update storeId warehouseId payload))
      (Holds ((update storeId warehouseId payload).Wrote (payload.isDefault = some true) False))
      (if payload.fields = {} then do
        let row ← Prog.read fun db => db.bindings.lookup (storeId, warehouseId)
        Prog.requireSome row (.http 404 "binding not found")
      else updateFields storeId warehouseId payload.fields : BindingTx StoreWarehouse)
      (fun _ => Holds ((update storeId warehouseId payload).Wrote
        (payload.isDefault = some true) (payload.isTop = some true))) := by
    split
    · rename_i hnone
      have htop : (payload.isTop = some true) = False := by
        rw [show payload.isTop = none from congrArg BindingUpdateIn.isTop hnone]
        simp
      rw [htop]
      exact Meets.silent (Prog.writes_bind (Prog.writes_read _) fun _ =>
        Prog.writes_requireSome _ _) (steady_wrote id False.elim)
    · exact meets_updateFields
  unfold applyUpdate
  dsimp only
  split
  · rename_i hdefault
    exact Meets.bind (meets_setDefaultWarehouse hdefault) fun _ => hrest
  · rename_i hdefault
    refine hrest.weaken fun w log hlog => ?_
    rw [show log = [] from hlog]
    exact wrote_nil hdefault id

/-- Deleting a binding. -/
theorem meets_deleteBinding {storeId warehouseId : Int} :
    Meets (bindingSetting (.delete storeId warehouseId)) (Holds Begun)
      (deleteBinding storeId warehouseId)
      (fun _ => Holds ((delete storeId warehouseId).Wrote False False)) := by
  have hwrote : Steady (bindingSetting (.delete storeId warehouseId))
      ((delete storeId warehouseId).Wrote False False) := steady_wrote id id
  refine Meets.bind meets_ensureStoreExists fun _ => ?_
  refine Meets.bind meets_ensureWarehouseExists fun _ => ?_
  refine Meets.bind (M := fun _ => Holds ((delete storeId warehouseId).Wrote False False))
    (Meets.write steady_begun (fun _ => hwrote) ?_) fun _ =>
      Meets.silent (Prog.writes_require _ _) hwrote
  rintro w log a us rfl - hs
  cases hs
  have hnil : (delete storeId warehouseId).Wrote False False w [] := wrote_nil id id
  show (delete storeId warehouseId).Wrote False False w ([] ++
    (w.bindings.lookup (storeId, warehouseId)).toList.map fun b => .delete b.key)
  cases hrow : w.bindings.lookup (storeId, warehouseId) with
  | none => exact hnil
  | some b =>
      exact hnil.own (u := .delete b.key) (Table.lookup_eq_some.mp hrow).2 (fun b' hb' => by cases hb')
        (fun b' hb' => by cases hb') id hnil.top_cleared

/-- **One request.** What a finished request has made of the flags. -/
theorem meets_prog (op : BindingCall) :
    Meets (bindingSetting op) (Holds Begun) op.prog
      (fun _ => Holds (op.Wrote op.SetsDefault op.SetsTop)) := by
  cases op with
  | bind storeId payload =>
      refine Meets.bind meets_ensureStoreExists fun _ => ?_
      exact Meets.bind meets_ensureWarehouseExists fun _ => meets_bindWarehouse
  | update storeId warehouseId payload =>
      refine Meets.bind (M := fun _ => Holds ((update storeId warehouseId payload).Wrote
        (payload.isDefault = some true) (payload.isTop = some true))) ?_ fun _ => ?_
      · refine Meets.bind meets_ensureStoreExists fun _ => ?_
        refine Meets.bind meets_ensureWarehouseExists fun _ => ?_
        refine Meets.bind (M := fun _ => Holds Begun)
          (Meets.silent (Prog.writes_require _ _) steady_begun) fun _ => ?_
        exact Meets.mapErr meets_applyUpdate
      · exact Meets.ret (Q := fun _ => (update storeId warehouseId payload).Wrote
          (payload.isDefault = some true) (payload.isTop = some true)) (steady_wrote id id)
  | delete storeId warehouseId => exact meets_deleteBinding

/-! ## The discipline -/

/-- One flag after a request: rows of other keys have it only if they had it,
and if the request may have set it on its own row, they have it not at all. -/
private theorem one_flag {f : StoreWarehouse → Bool}
    (hnew : ∀ k ≠ op.key, ∀ b' ∈ rowAfter log k (db.bindings.lookup k), f b' = true →
      ∃ b ∈ db.bindings.lookup k, f b = true)
    (hown : ∀ b' ∈ rowAfter log op.key (db.bindings.lookup op.key), f b' = true →
      d ∨ ∃ b ∈ db.bindings.lookup op.key, f b = true)
    (hcleared : d → ∀ k ≠ op.key, k.1 = op.key.1 →
      ∀ b' ∈ rowAfter log k (db.bindings.lookup k), f b' = false)
    (hone : ∀ a ∈ db.bindings.rows, ∀ b ∈ db.bindings.rows, a.storeId = b.storeId →
      f a = true → f b = true → a = b) :
    ∀ a ∈ (redo log db).bindings.rows, ∀ b ∈ (redo log db).bindings.rows,
      a.storeId = b.storeId → f a = true → f b = true → a = b := by
  have hrow {b : StoreWarehouse} (hb : b ∈ (redo log db).bindings.rows) :
      b ∈ rowAfter log b.key (db.bindings.lookup b.key) := by
    rw [← lookup_redo]
    exact Table.lookup_eq_some.mpr ⟨hb, rfl⟩
  -- two rows that had the flag were one
  have hold {a b : StoreWarehouse} (hstore : a.storeId = b.storeId)
      (ha : ∃ a' ∈ db.bindings.lookup a.key, f a' = true)
      (hb : ∃ b' ∈ db.bindings.lookup b.key, f b' = true) : a.key = b.key := by
    obtain ⟨a', ha', hfa⟩ := ha
    obtain ⟨b', hb', hfb⟩ := hb
    obtain ⟨hamem, hakey⟩ := Table.lookup_eq_some.mp ha'
    obtain ⟨hbmem, hbkey⟩ := Table.lookup_eq_some.mp hb'
    have hsame : a'.storeId = b'.storeId :=
      (congrArg Prod.fst hakey).trans (hstore.trans (congrArg Prod.fst hbkey).symm)
    rw [← hakey, ← hbkey, hone a' hamem b' hbmem hsame hfa hfb]
  -- the request's own row against another one
  have hmixed {a b : StoreWarehouse} (ha : a ∈ (redo log db).bindings.rows)
      (hb : b ∈ (redo log db).bindings.rows) (hstore : a.storeId = b.storeId)
      (hfa : f a = true) (hfb : f b = true) (hak : a.key = op.key) : b.key = op.key := by
    by_contra hbk
    have hara := hrow ha
    rw [hak] at hara
    rcases hown a hara hfa with hd | haold
    · have hclear := hcleared hd b.key hbk (hstore.symm.trans (congrArg Prod.fst hak)) b (hrow hb)
      rw [hfb] at hclear
      cases hclear
    · rw [← hak] at haold
      exact hbk ((hold hstore haold (hnew b.key hbk b (hrow hb) hfb)).symm.trans hak)
  intro a ha b hb hstore hfa hfb
  refine (redo log db).bindings.eq_of_key ha hb ?_
  by_cases hak : a.key = op.key
  · exact hak.trans (hmixed ha hb hstore hfa hfb hak).symm
  · by_cases hbk : b.key = op.key
    · exact absurd (hmixed hb ha hstore.symm hfb hfa hbk) hak
    · exact hold hstore (hnew a.key hak a (hrow ha) hfa) (hnew b.key hbk b (hrow hb) hfb)

/-- What a request has written leaves one main and one default warehouse. -/
theorem Wrote.oneEach (h : op.Wrote d t db log) (hdb : db.OneEach) : (redo log db).OneEach where
  default_one := one_flag (fun k hne b' hb' hf =>
    let ⟨b, hb, hdef, _⟩ := h.no_new k hne _ b' hb'
    ⟨b, hb, hdef hf⟩) h.own_default h.default_cleared hdb.default_one
  top_one := one_flag (fun k hne b' hb' hf =>
    let ⟨b, hb, _, htop⟩ := h.no_new k hne _ b' hb'
    ⟨b, hb, htop hf⟩) h.own_top h.top_cleared hdb.top_one

/-- What a request has written is what the others may rely on. -/
theorem Wrote.rely (h : op.Wrote op.SetsDefault op.SetsTop db log) {op' : BindingCall}
    {held : List BindingKey} (htogether : op'.Together op)
    (hdis : ∀ k ∈ guardsOf log, k ∉ held) : BindingRely op' held db (redo log db) where
  rows := fun k hk => by
    rw [lookup_redo]
    exact rowAfter_of_not_mem (fun hmem => hdis k hmem hk) _
  default_new := fun hsets k hne hstore b' hb' hdef => by
    rw [lookup_redo] at hb'
    by_cases hk : k = op.key
    · subst hk
      rcases h.own_default b' hb' hdef with hown | hold
      · exact absurd ⟨hsets, hown⟩ (htogether hstore.symm hne.symm).1
      · exact hold
    · obtain ⟨b, hb, hbdef, -⟩ := h.no_new k hk _ b' hb'
      exact ⟨b, hb, hbdef hdef⟩
  top_new := fun hsets k hne hstore b' hb' htop => by
    rw [lookup_redo] at hb'
    by_cases hk : k = op.key
    · subst hk
      rcases h.own_top b' hb' htop with hown | hold
      · exact absurd ⟨hsets, hown⟩ (htogether hstore.symm hne.symm).2
      · exact hold
    · obtain ⟨b, hb, -, hbtop⟩ := h.no_new k hk _ b' hb'
      exact ⟨b, hb, hbtop htop⟩

end BindingCall

/-- **The discipline of binding requests.** -/
def bindingDiscipline : Discipline BindingCall.prog bindingTerms BindingKey BindingRedo where
  inv := BindingsDb.OneEach
  rely := BindingRely
  done op _ := Holds (op.Wrote op.SetsDefault op.SetsTop)
  post _ _ _ := True
  meets op := (BindingCall.meets_prog op).consequence
    (fun c hc => ⟨by rw [hc.2]; rfl, by rw [hc.2]; rfl⟩) fun _ _ h => h
  keeps := by
    rintro op a c ⟨-, hwrote⟩ hinv
    rw [Seat.view, replay_stmt]
    exact hwrote.oneEach hinv
  guarantee := by
    rintro op a c op' held ⟨hheld, hwrote⟩ - htogether hdis
    rw [hheld] at hdis
    rw [Seat.view, replay_stmt]
    exact hwrote.rely htogether hdis
  answers _ _ := trivial
  lasting _ _ _ := trivial

end WmsDu.Stores
