import Mathlib
import WmsDu.Returns.Task

/-!
# Receiving against a task

One call of `recordReceive` read as a step on the lines of its item. The
lines are read without an ORDER BY, so the database may answer them in any
order, and in another one at each call.
-/

namespace WmsDu

open Txn

variable {db db' db₀ : Db} {taskId itemId q : Int} {t : ReturnTask} {l : ReturnTaskLine}

/-- The lines of an item in a task. -/
def itemLines (db : Db) (taskId itemId : Int) : List ReturnTaskLine :=
  (returnLines db taskId).filter fun l => l.itemId = itemId

/-- What a line expects. -/
def ReturnTaskLine.expected (l : ReturnTaskLine) : Int := l.expectedQty.getD 0

def pickedTotal (lines : List ReturnTaskLine) : Int := (lines.map ReturnTaskLine.pickedQty).sum

def expectedTotal (lines : List ReturnTaskLine) : Int := (lines.map ReturnTaskLine.expected).sum

/-- No line is read twice. -/
theorem itemLines_ids_nodup : ((itemLines db taskId itemId).map ReturnTaskLine.id).Nodup :=
  ((List.filter_sublist.trans List.filter_sublist).map _).nodup db.returnTaskLines.nodup

theorem itemLines_nodup : (itemLines db taskId itemId).Nodup := itemLines_ids_nodup.of_map _

/-- The same rows, the task lines in another order. -/
def Db.Reordered (db db₀ : Db) : Prop :=
  ∃ lines : Table ReturnTaskLine.id, lines.rows.Perm db.returnTaskLines.rows ∧
    db₀ = { db with returnTaskLines := lines }

theorem Db.Reordered.returnTasks (h : db.Reordered db₀) : db₀.returnTasks = db.returnTasks := by
  obtain ⟨_, _, rfl⟩ := h
  rfl

theorem Db.Reordered.itemLines_perm (h : db.Reordered db₀) :
    (itemLines db₀ taskId itemId).Perm (itemLines db taskId itemId) := by
  obtain ⟨lines, hperm, rfl⟩ := h
  exact (hperm.filter _).filter _

/-- Any line of the item may be the first one read. -/
theorem exists_reordered (h : l ∈ itemLines db taskId itemId) :
    ∃ db₀ rest, db.Reordered db₀ ∧ itemLines db₀ taskId itemId = l :: rest := by
  obtain ⟨hmem, hitem⟩ := List.mem_filter.mp h
  obtain ⟨hrow, htask⟩ := List.mem_filter.mp hmem
  obtain ⟨s, r, hsplit⟩ := List.append_of_mem hrow
  have hperm : (l :: (s ++ r)).Perm db.returnTaskLines.rows := by
    rw [hsplit]
    exact List.perm_middle.symm
  refine ⟨_, ((s ++ r).filter fun m => m.taskId = taskId).filter fun m => m.itemId = itemId,
    ⟨⟨l :: (s ++ r), (hperm.map _).nodup_iff.mpr db.returnTaskLines.nodup⟩, hperm, rfl⟩, ?_⟩
  show List.filter _ (List.filter _ (l :: (s ++ r))) = _
  rw [List.filter_cons, if_pos htask, List.filter_cons, if_pos hitem]

/-! ## One call -/

theorem run_getWithLines {forUpdate : Bool} (ht : db.returnTasks.lookup taskId = some t) :
    (getWithLines taskId forUpdate).run db = .ok (⟨t, returnLines db taskId⟩, db) := by
  unfold getWithLines
  cases forUpdate with
  | true =>
      rw [if_pos rfl, Prog.run_bind_of_ok (run_selectForUpdate.mpr ⟨ht, rfl⟩),
        Prog.run_bind_of_ok (Tx.run_requireSome_ok.mpr ⟨rfl, rfl⟩)]
      rfl
  | false =>
      rw [if_neg Bool.false_ne_true, Prog.run_bind_of_ok (Tx.run_select _ db), ht,
        Prog.run_bind_of_ok (Tx.run_requireSome_ok.mpr ⟨rfl, rfl⟩)]
      rfl

/-- A task that was committed is answered as it is. -/
theorem run_recordReceive_committed (ht : db.returnTasks.lookup taskId = some t)
    (hc : t.status = .committed) :
    (recordReceive taskId itemId q).run db = .ok (⟨t, returnLines db taskId⟩, db) := by
  unfold recordReceive
  rw [Prog.run_bind_of_ok (run_getWithLines ht), if_pos hc]
  rfl

/-- The lines of the item once the first one read has another quantity. -/
theorem itemLines_setPicked {rest : List ReturnTaskLine} {n : Int}
    (hl : itemLines db taskId itemId = l :: rest) :
    itemLines (Redo.apply (.returnLineSetPicked l.id n) db) taskId itemId =
      { l with pickedQty := n } :: rest := by
  have hnodup : ((itemLines db taskId itemId).map ReturnTaskLine.id).Nodup := itemLines_ids_nodup
  rw [hl, List.map_cons, List.nodup_cons] at hnodup
  have hmap : itemLines (Redo.apply (.returnLineSetPicked l.id n) db) taskId itemId =
      (itemLines db taskId itemId).map
        fun m => if m.id = l.id then { m with pickedQty := n } else m := by
    unfold itemLines returnLines
    show List.filter _ (List.filter _ (List.map _ _)) = _
    rw [List.filter_map, List.filter_map]
    congr 1
    congr 1
    · funext m
      simp only [Function.comp_apply]
      split <;> rfl
    · congr 1
      funext m
      simp only [Function.comp_apply]
      split <;> rfl
  have hrest : rest.map (fun m => if m.id = l.id then { m with pickedQty := n } else m) = rest := by
    conv_rhs => rw [← List.map_id rest]
    refine List.map_congr_left fun m hm => if_neg fun hid : m.id = l.id => hnodup.1 ?_
    exact hid ▸ List.mem_map_of_mem hm
  rw [hmap, hl, List.map_cons, if_pos rfl, hrest]

/-- **One call.** It is accepted when the first line read has room, and then
only that line moves. -/
theorem run_recordReceive_open (ht : db.returnTasks.lookup taskId = some t)
    (ho : t.status ≠ .committed) :
    (∃ r, (recordReceive taskId itemId q).run db = .ok (r, db')) ↔
      ∃ l, (itemLines db taskId itemId).head? = some l ∧ 0 ≤ l.pickedQty + q ∧
        l.pickedQty + q ≤ l.expected ∧
        db' = Redo.apply (.returnLineSetPicked l.id (l.pickedQty + q)) db := by
  have hhead : (itemLines db taskId itemId).head? =
      (returnLines db taskId).find? fun l => l.itemId = itemId := List.head?_filter
  unfold recordReceive
  rw [Prog.run_bind_of_ok (run_getWithLines ht), if_neg ho, hhead]
  constructor
  · rintro ⟨r, h⟩
    obtain ⟨l, _, hfound, h⟩ := Prog.run_bind_ok.mp h
    obtain ⟨hl, rfl⟩ := Tx.run_requireSome_ok.mp hfound
    obtain ⟨_, _, hchecked, h⟩ := Prog.run_bind_ok.mp h
    obtain ⟨hlow, rfl⟩ := Tx.run_require_ok.mp hchecked
    obtain ⟨_, _, hchecked, h⟩ := Prog.run_bind_ok.mp h
    obtain ⟨hhigh, rfl⟩ := Tx.run_require_ok.mp hchecked
    obtain ⟨_, _, hset, h⟩ := Prog.run_bind_ok.mp h
    obtain ⟨us, hus, rfl⟩ := Prog.run_exec_ok.mp hset
    cases hus
    have hget : (getWithLines taskId false).run
        (replay Sql [.returnLineSetPicked l.id (l.pickedQty + q)] db) = .ok (⟨t, _⟩, _) :=
      run_getWithLines ht
    rw [hget] at h
    cases h
    exact ⟨l, hl, hlow, hhigh, rfl⟩
  · rintro ⟨l, hl, hlow, hhigh, rfl⟩
    rw [ReturnTaskLine.expected] at hhigh
    refine ⟨⟨t, returnLines (Redo.apply (.returnLineSetPicked l.id (l.pickedQty + q)) db) taskId⟩, ?_⟩
    rw [Prog.run_bind_of_ok (Tx.run_requireSome_ok.mpr ⟨hl, rfl⟩),
      Prog.run_bind_of_ok (Tx.run_require_of hlow), Prog.run_bind_of_ok (Tx.run_require_of hhigh),
      Prog.run_bind_of_ok (Prog.run_exec_ok.mpr ⟨_, rfl, rfl⟩)]
    exact run_getWithLines ht

end WmsDu
