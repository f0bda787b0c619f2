import WmsDu.Txn.Stmt

/-!
# Records that act row by row

Most records of a log change single rows: what becomes of the row of a key
depends on that row and the record, and a row whose lock the record does not
take is left alone. So the rows a transaction has locked look to it the way
they did when it wrote them, whatever others commit, and every other row looks
the way it is committed.
-/

namespace Txn

/-- A family of rows, one a key at most, that the records of a signature act
on row by row. -/
structure Rowwise (U : Type) {W L : Type} [RedoLog U W L] (K R : Type) where
  row : W → K → Option R
  lock : K → L
  act : U → K → Option R → Option R
  row_apply : ∀ u w k, row (RedoLog.apply u w) k = act u k (row w k)
  act_unlocked : ∀ u k o, lock k ∉ RedoLog.guards u → act u k o = o

namespace Rowwise

variable {U W L K R : Type} [RedoLog U W L] {F : Rowwise U K R} {log : List U} {w w' : W} {k : K}
  {r : R}

/-- The locked rows are the same in both states. -/
def Keeps (F : Rowwise U K R) (held : List L) (w w' : W) : Prop :=
  ∀ k, F.lock k ∈ held → F.row w' k = F.row w k

/-- What a log makes of a row depends on that row alone. -/
theorem row_redo_congr (h : F.row w' k = F.row w k) :
    F.row (redo log w') k = F.row (redo log w) k := by
  induction log generalizing w w' with
  | nil => exact h
  | cons u log ih =>
      refine ih ?_
      rw [F.row_apply, F.row_apply, h]

/-- A row that a log does not lock is left alone. -/
theorem row_redo_of_unlocked (h : F.lock k ∉ guardsOf log) : F.row (redo log w) k = F.row w k :=
  redo_frame (f := fun w => F.row w k) fun u hu w =>
    (F.row_apply u w k).trans (F.act_unlocked u k _ fun hl => h (mem_guardsOf.mpr ⟨u, hu, hl⟩))

/-- A commit leaves the rows alone that others have locked. -/
theorem keeps_redo {held : List L} (h : ∀ l ∈ guardsOf log, l ∉ held) :
    F.Keeps held w (redo log w) :=
  fun _ hk => row_redo_of_unlocked fun hl => h _ hl hk

/-- After others have committed, a row in view was in view and is locked, or
it is a committed one. -/
theorem Keeps.row_cases (h : F.Keeps (guardsOf log) w w') (hr : F.row (redo log w') k = some r) :
    (F.lock k ∈ guardsOf log ∧ F.row (redo log w) k = some r) ∨
      (F.lock k ∉ guardsOf log ∧ F.row w' k = some r) := by
  by_cases hk : F.lock k ∈ guardsOf log
  · exact .inl ⟨hk, (row_redo_congr (h k hk)) ▸ hr⟩
  · exact .inr ⟨hk, (row_redo_of_unlocked hk) ▸ hr⟩

/-- A locked row stays in view. -/
theorem Keeps.row_locked (h : F.Keeps (guardsOf log) w w') (hk : F.lock k ∈ guardsOf log) :
    F.row (redo log w') k = F.row (redo log w) k := row_redo_congr (h k hk)

/-- What no record of a log makes true of a row was true of it before. -/
theorem row_back {P : R → Prop}
    (hlog : ∀ u ∈ log, ∀ o r, F.act u k o = some r → P r → ∃ r₀, o = some r₀ ∧ P r₀)
    (hr : F.row (redo log w) k = some r) (hP : P r) : ∃ r₀, F.row w k = some r₀ ∧ P r₀ := by
  induction log generalizing w with
  | nil => exact ⟨r, hr, hP⟩
  | cons u log ih =>
      obtain ⟨r₁, hr₁, hP₁⟩ := ih (w := RedoLog.apply u w)
        (fun v hv => hlog v (List.mem_cons_of_mem _ hv)) hr
      rw [F.row_apply] at hr₁
      exact hlog u List.mem_cons_self _ r₁ hr₁ hP₁

end Rowwise

end Txn
