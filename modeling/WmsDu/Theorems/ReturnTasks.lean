import Mathlib
import WmsDu.Returns.TaskReceiving

/-!
# Receiving a return task

A receipt names an item, a task has a line for each lot the item left from,
and the whole quantity of a receipt goes to the line that is read first. So
receiving is complete where the item has one line, and else only as long as
no line could be overrun by the quantities that may fall to it.
-/

namespace WmsDu

open Txn

variable {db db' db₀ : Db} {taskId itemId q total : Int} {qs : List Int} {t : ReturnTask}
  {l a b : ReturnTaskLine}

def ReturnTaskLine.InBounds (l : ReturnTaskLine) : Prop := 0 ≤ l.pickedQty ∧ l.pickedQty ≤ l.expected

/-- Every running total of the receipts that come after `total` stays between
zero and the limit. -/
def TotalsWithin (limit : Int) : Int → List Int → Prop
  | _, [] => True
  | total, q :: qs => (0 ≤ total + q ∧ total + q ≤ limit) ∧ TotalsWithin limit (total + q) qs

/-- The item's lines hold the running total, each within its bounds. -/
def HoldsTotal (db : Db) (taskId itemId total : Int) : Prop :=
  pickedTotal (itemLines db taskId itemId) = total ∧
    ∀ l ∈ itemLines db taskId itemId, l.InBounds

/-- Every receipt is accepted, in whatever order the lines are read, and
leaves the lines holding the running total. -/
def Received (taskId itemId : Int) : Db → Int → List Int → Prop
  | _, _, [] => True
  | db, total, q :: qs => ∀ db₀, db.Reordered db₀ →
      ∃ r db', (recordReceive taskId itemId q).run db₀ = .ok (r, db') ∧
        HoldsTotal db' taskId itemId (total + q) ∧ Received taskId itemId db' (total + q) qs

/-- Whichever of the receipts fall to a line, it stays within its bounds. -/
def ReturnTaskLine.Roomy (l : ReturnTaskLine) (qs : List Int) : Prop :=
  ∀ s, List.Sublist s qs → 0 ≤ l.pickedQty + s.sum ∧ l.pickedQty + s.sum ≤ l.expected

/-- The item has one line of the open task, or some that all have room for
any of the receipts; a committed task receives nothing. -/
def CanReceive (db : Db) (t : ReturnTask) (itemId : Int) (qs : List Int) : Prop :=
  qs = [] ∨
    if t.status = .committed then
      (∀ q ∈ qs, q = 0) ∧ ∀ l ∈ itemLines db t.id itemId, l.InBounds
    else
      (∃ l, itemLines db t.id itemId = [l]) ∨
        itemLines db t.id itemId ≠ [] ∧ ∀ l ∈ itemLines db t.id itemId, l.Roomy qs

/-! ## A committed task -/

theorem received_committed (ht : db.returnTasks.lookup taskId = some t)
    (hc : t.status = .committed) (hpicked : pickedTotal (itemLines db taskId itemId) = total) :
    Received taskId itemId db total qs ↔
      qs = [] ∨ (∀ q ∈ qs, q = 0) ∧ ∀ l ∈ itemLines db taskId itemId, l.InBounds := by
  induction qs generalizing db with
  | nil => exact iff_of_true trivial (.inl rfl)
  | cons q qs ih =>
      have hrun {db₀ : Db} (hre : db.Reordered db₀) :
          (recordReceive taskId itemId q).run db₀ = .ok (⟨t, returnLines db₀ taskId⟩, db₀) :=
        run_recordReceive_committed (hre.returnTasks ▸ ht) hc
      have hsame {db₀ : Db} (hre : db.Reordered db₀) :
          pickedTotal (itemLines db₀ taskId itemId) = total :=
        ((hre.itemLines_perm.map _).sum_eq).trans hpicked
      constructor
      · intro h
        have hre : db.Reordered db := ⟨db.returnTaskLines, .refl _, rfl⟩
        obtain ⟨r, db', hcall, ⟨hsum, hbounds⟩, hrest⟩ := h db hre
        rw [hrun hre] at hcall
        cases hcall
        -- nothing moved, so the running total did not either
        have hq : q = 0 := by omega
        subst hq
        rw [add_zero] at hrest
        refine .inr ⟨List.forall_mem_cons.mpr ⟨rfl, ?_⟩, hbounds⟩
        rcases (ih ht hpicked).mp hrest with rfl | ⟨hzero, _⟩
        · exact fun _ hm => absurd hm List.not_mem_nil
        · exact hzero
      · rintro (hnil | ⟨hall, hbounds⟩)
        · cases hnil
        obtain ⟨rfl, hzero⟩ := List.forall_mem_cons.mp hall
        intro db₀ hre
        have hbounds₀ : ∀ l ∈ itemLines db₀ taskId itemId, l.InBounds := fun l hl =>
          hbounds l (hre.itemLines_perm.mem_iff.mp hl)
        rw [add_zero]
        exact ⟨_, db₀, hrun hre, ⟨hsame hre, hbounds₀⟩,
          (ih (hre.returnTasks ▸ ht) (hsame hre)).mpr (.inr ⟨hzero, hbounds₀⟩)⟩

/-! ## An open task -/

/-- One accepted receipt, told by the line it fell to. -/
theorem receive_first {rest : List ReturnTaskLine} (ht : db.returnTasks.lookup taskId = some t)
    (ho : t.status ≠ .committed) (hl : itemLines db taskId itemId = l :: rest) :
    (∃ r, (recordReceive taskId itemId q).run db = .ok (r, db')) ↔
      (0 ≤ l.pickedQty + q ∧ l.pickedQty + q ≤ l.expected) ∧
        db' = Redo.apply (.returnLineSetPicked l.id (l.pickedQty + q)) db := by
  rw [run_recordReceive_open ht ho, hl]
  constructor
  · rintro ⟨m, hm, hlow, hhigh, hdb⟩
    cases hm
    exact ⟨⟨hlow, hhigh⟩, hdb⟩
  · rintro ⟨⟨hlow, hhigh⟩, hdb⟩
    exact ⟨l, rfl, hlow, hhigh, hdb⟩

/-- Receipts that were all accepted, with the first one fallen to a line of
one's choice. -/
theorem Received.choose (h : Received taskId itemId db total (q :: qs))
    (ht : db.returnTasks.lookup taskId = some t) (ho : t.status ≠ .committed)
    (hl : l ∈ itemLines db taskId itemId) :
    ∃ rest db', (l :: rest).Perm (itemLines db taskId itemId) ∧
      itemLines db' taskId itemId = { l with pickedQty := l.pickedQty + q } :: rest ∧
      db'.returnTasks.lookup taskId = some t ∧ HoldsTotal db' taskId itemId (total + q) ∧
      Received taskId itemId db' (total + q) qs := by
  obtain ⟨db₀, rest, hre, hfirst⟩ := exists_reordered hl
  have ht₀ : db₀.returnTasks.lookup taskId = some t := hre.returnTasks ▸ ht
  obtain ⟨r, db', hcall, hholds, hrest⟩ := h db₀ hre
  obtain ⟨-, rfl⟩ := (receive_first ht₀ ho hfirst).mp ⟨r, hcall⟩
  exact ⟨rest, _, hfirst ▸ hre.itemLines_perm, itemLines_setPicked hfirst, ht₀, hholds, hrest⟩

/-- With another line beside it, a line may be given any of the receipts. -/
theorem Received.roomy (h : Received taskId itemId db total qs)
    (ht : db.returnTasks.lookup taskId = some t) (ho : t.status ≠ .committed)
    (ha : a ∈ itemLines db taskId itemId) (hb : b ∈ itemLines db taskId itemId) (hne : a ≠ b)
    (hbounds : b.InBounds) : b.Roomy qs := by
  intro s hs
  -- a receipt of the selection goes to this line, any other one to the other
  induction hs generalizing db total a b with
  | slnil => simpa [ReturnTaskLine.InBounds] using hbounds
  | cons q _ ih =>
      obtain ⟨rest, db', hperm, hlines, ht', -, hrest⟩ := h.choose ht ho ha
      have hb' : b ∈ rest := by
        rcases List.mem_cons.mp (hperm.mem_iff.mpr hb) with rfl | hb'
        · exact absurd rfl hne
        · exact hb'
      refine ih hrest ht' (hlines ▸ List.mem_cons_self) (hlines ▸ List.mem_cons_of_mem _ hb') ?_
        hbounds
      rintro rfl
      have hnodup : (itemLines db' taskId itemId).Nodup := itemLines_nodup
      rw [hlines] at hnodup
      exact (List.nodup_cons.mp hnodup).1 hb'
  | cons_cons q _ ih =>
      obtain ⟨rest, db', hperm, hlines, ht', hholds, hrest⟩ := h.choose ht ho hb
      have ha' : a ∈ rest := by
        rcases List.mem_cons.mp (hperm.mem_iff.mpr ha) with rfl | ha'
        · exact absurd rfl hne
        · exact ha'
      have hmem : { b with pickedQty := b.pickedQty + q } ∈ itemLines db' taskId itemId :=
        hlines ▸ List.mem_cons_self
      have hkept := ih hrest ht' (hlines ▸ List.mem_cons_of_mem _ ha') hmem ?_
        (hholds.2 _ hmem)
      · rw [List.sum_cons, ← add_assoc]
        exact hkept
      · rintro rfl
        have hnodup : (itemLines db' taskId itemId).Nodup := itemLines_nodup
        rw [hlines] at hnodup
        exact (List.nodup_cons.mp hnodup).1 ha'

theorem ReturnTaskLine.Roomy.of_cons (h : l.Roomy (q :: qs)) : l.Roomy qs :=
  fun s hs => h s (hs.cons q)

theorem ReturnTaskLine.Roomy.picked (h : l.Roomy (q :: qs)) :
    ReturnTaskLine.Roomy { l with pickedQty := l.pickedQty + q } qs := by
  intro s hs
  have := h (q :: s) (hs.cons_cons q)
  rw [List.sum_cons, ← add_assoc] at this
  exact this

theorem ReturnTaskLine.Roomy.inBounds (h : l.Roomy qs) : l.InBounds := by
  have := h [] (List.nil_sublist _)
  simpa [InBounds] using this

/-- Lines with room for any of the receipts receive them all. -/
theorem received_of_roomy (ht : db.returnTasks.lookup taskId = some t) (ho : t.status ≠ .committed)
    (hpicked : pickedTotal (itemLines db taskId itemId) = total)
    (hsome : itemLines db taskId itemId ≠ [])
    (hroomy : ∀ l ∈ itemLines db taskId itemId, l.Roomy qs) :
    Received taskId itemId db total qs := by
  induction qs generalizing db total with
  | nil => trivial
  | cons q qs ih =>
      intro db₀ hre
      have hperm : (itemLines db₀ taskId itemId).Perm (itemLines db taskId itemId) :=
        hre.itemLines_perm
      have ht₀ : db₀.returnTasks.lookup taskId = some t := hre.returnTasks ▸ ht
      have hsome₀ : itemLines db₀ taskId itemId ≠ [] := by
        intro hnil
        rw [hnil] at hperm
        exact hsome hperm.symm.eq_nil
      obtain ⟨l, rest, hfirst⟩ := List.exists_cons_of_ne_nil hsome₀
      have hall : ∀ m ∈ l :: rest, m.Roomy (q :: qs) := by
        intro m hm
        rw [← hfirst] at hm
        exact hroomy m (hperm.mem_iff.mp hm)
      obtain ⟨hl, hrest⟩ := List.forall_mem_cons.mp hall
      have hfit := hl [q] (by simp)
      rw [List.sum_singleton] at hfit
      obtain ⟨r, hcall⟩ := (receive_first ht₀ ho hfirst).mpr ⟨hfit, rfl⟩
      have hlines := itemLines_setPicked (n := l.pickedQty + q) hfirst
      have hroom : ∀ m ∈ itemLines (Redo.apply (.returnLineSetPicked l.id (l.pickedQty + q)) db₀)
          taskId itemId, m.Roomy qs := by
        rw [hlines]
        exact List.forall_mem_cons.mpr ⟨hl.picked, fun m hm => (hrest m hm).of_cons⟩
      have hsum : pickedTotal (itemLines
          (Redo.apply (.returnLineSetPicked l.id (l.pickedQty + q)) db₀) taskId itemId) =
          total + q := by
        have hbefore : pickedTotal (itemLines db₀ taskId itemId) = total :=
          ((hperm.map _).sum_eq).trans hpicked
        rw [hfirst] at hbefore
        rw [hlines]
        simp only [pickedTotal, List.map_cons, List.sum_cons] at hbefore ⊢
        omega
      refine ⟨r, _, hcall, ⟨hsum, fun m hm => (hroom m hm).inBounds⟩, ih ht₀ hsum ?_ hroom⟩
      rw [hlines]
      exact List.cons_ne_nil _ _

/-- A single line receives whatever keeps its total within bounds. -/
theorem received_of_single (ht : db.returnTasks.lookup taskId = some t) (ho : t.status ≠ .committed)
    (hl : itemLines db taskId itemId = [l]) (hrange : TotalsWithin l.expected l.pickedQty qs) :
    Received taskId itemId db l.pickedQty qs := by
  induction qs generalizing db l with
  | nil => trivial
  | cons q qs ih =>
      intro db₀ hre
      have ht₀ : db₀.returnTasks.lookup taskId = some t := hre.returnTasks ▸ ht
      have hl₀ : itemLines db₀ taskId itemId = [l] :=
        List.perm_singleton.mp (hl ▸ hre.itemLines_perm)
      obtain ⟨hfit, hrest⟩ := hrange
      obtain ⟨r, hcall⟩ := (receive_first ht₀ ho hl₀).mpr ⟨hfit, rfl⟩
      have hlines := itemLines_setPicked (n := l.pickedQty + q) hl₀
      refine ⟨r, _, hcall, ⟨?_, ?_⟩, ?_⟩
      · rw [hlines]
        simp [pickedTotal]
      · rw [hlines]
        exact List.forall_mem_singleton.mpr hfit
      · refine ih ?_ hlines hrest
        exact ht₀

/-- **Receiving.** Receipts whose running totals stay within what the item is
expected to bring back are all taken exactly when the item has one line, or
each of its lines has room for any of them. -/
theorem return_receiving (ht : db.returnTasks.lookup t.id = some t)
    (hrange : TotalsWithin (expectedTotal (itemLines db t.id itemId))
      (pickedTotal (itemLines db t.id itemId)) qs) :
    Received t.id itemId db (pickedTotal (itemLines db t.id itemId)) qs ↔
      CanReceive db t itemId qs := by
  unfold CanReceive
  split
  · exact received_committed ht ‹_› rfl
  rename_i ho
  constructor
  · intro h
    rcases qs with _ | ⟨q, qs⟩
    · exact .inl rfl
    refine .inr ?_
    rcases hlines : itemLines db t.id itemId with _ | ⟨a, _ | ⟨b, rest⟩⟩
    · -- no line of the item: the first receipt is refused
      obtain ⟨r, db', hcall, -⟩ := h db ⟨db.returnTaskLines, .refl _, rfl⟩
      obtain ⟨l, hl, -⟩ := (run_recordReceive_open ht ho).mp ⟨r, hcall⟩
      rw [hlines] at hl
      cases hl
    · exact .inl ⟨a, rfl⟩
    · refine .inr ⟨List.cons_ne_nil _ _, fun l hl => ?_⟩
      rw [← hlines] at hl
      obtain ⟨c, hc, hne⟩ : ∃ c ∈ itemLines db t.id itemId, c ≠ l := by
        have hnodup : (itemLines db t.id itemId).Nodup := itemLines_nodup
        have hab : a ≠ b := by
          rintro rfl
          rw [hlines] at hnodup
          exact (List.nodup_cons.mp hnodup).1 List.mem_cons_self
        by_cases hal : a = l
        · exact ⟨b, by simp [hlines], fun hbl => hab (hal.trans hbl.symm)⟩
        · exact ⟨a, by simp [hlines], hal⟩
      -- the first receipt taken by the other line shows this one in its bounds
      obtain ⟨_, db', hperm, hafter, -, hholds, -⟩ := h.choose ht ho hc
      refine h.roomy ht ho hc hl hne (hholds.2 l ?_)
      rcases List.mem_cons.mp (hperm.mem_iff.mpr hl) with rfl | hl'
      · exact absurd rfl hne
      · exact hafter ▸ List.mem_cons_of_mem _ hl'
  · rintro (rfl | ⟨l, hl⟩ | ⟨hsome, hroomy⟩)
    · trivial
    · rw [hl] at hrange ⊢
      simp only [pickedTotal, expectedTotal, List.map_cons, List.map_nil, List.sum_singleton] at hrange ⊢
      exact received_of_single ht ho hl hrange
    · exact received_of_roomy ht ho rfl hsome hroomy

/-! ## Two tasks -/

/-- A line of a new task: what left from one lot. -/
def sampleReturnLine (id lotId expected : Int) : ReturnTaskLine :=
  { id := id, taskId := 1, orderLineId := none, itemId := 7, lotId := lotId
    lotCodeSnapshot := "L", expectedQty := some expected, pickedQty := 0, committedQty := some 0
    status := .opened, remark := none }

def sampleReturnTask : ReturnTask :=
  { id := 1, orderId := "ORD:PDD:1:A", warehouseId := 1, status := .opened, remark := none
    updatedAt := none }

/-- The task, with one line or with two. -/
def sampleReturnDb (lines : List ReturnTaskLine) : Db :=
  { returnTasks := Table.empty.insert sampleReturnTask
    returnTaskLines := lines.foldl Table.insert Table.empty }

/-- One lot of two pieces takes one, gives it back and takes both. -/
theorem return_receiving_sample :
    TotalsWithin 2 0 [1, -1, 2] ∧
      Received 1 7 (sampleReturnDb [sampleReturnLine 1 11 2]) 0 [1, -1, 2] := by
  have hrange : TotalsWithin 2 0 [1, -1, 2] := by simp [TotalsWithin]
  refine ⟨hrange, ?_⟩
  have hlines : itemLines (sampleReturnDb [sampleReturnLine 1 11 2]) 1 7 =
      [sampleReturnLine 1 11 2] := rfl
  exact (@return_receiving (sampleReturnDb [sampleReturnLine 1 11 2]) 7 [1, -1, 2] sampleReturnTask
    rfl hrange).mpr (.inr (.inl ⟨_, hlines⟩))

/-- Two lots of one piece each: the two pieces cannot be received at once. -/
theorem return_receiving_not :
    ¬ (TotalsWithin 2 0 [2] →
      Received 1 7 (sampleReturnDb [sampleReturnLine 1 11 1, sampleReturnLine 2 12 1]) 0 [2]) := by
  intro h
  have hrange : TotalsWithin 2 0 [2] := by simp [TotalsWithin]
  obtain ⟨r, db', hcall, -⟩ := h hrange _ ⟨_, .refl _, rfl⟩
  obtain ⟨l, hl, -, hhigh, -⟩ := (run_recordReceive_open (t := sampleReturnTask) rfl
    (by decide)).mp ⟨r, hcall⟩
  cases hl
  exact absurd hhigh (by decide)

end WmsDu
